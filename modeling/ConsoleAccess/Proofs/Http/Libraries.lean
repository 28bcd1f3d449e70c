import ConsoleAccess.Http.Scripted
import Mathlib.Data.List.Forall2

/-!
# What may be assumed of a library

Two things that a library documents, for theorems that need one of them. It sends the body of a call
as it is and looks at nothing in it (`Library.BlindToBodies`); and where no redirect is followed and
nothing is sent again, each call goes out as one request at most (`Library.Direct`). The library in
memory does both (`scripted_blindToBodies`, `scripted_direct`), and one that is redirected does the
first (`mirrored_blindToBodies`).
-/

namespace ConsoleAccess.Http

deriving instance DecidableEq for Response, Exchange

/-- Equal requests, or requests that differ in the body alone, each with its own one of the two. -/
inductive Carried (body body' : Text) : Request → Request → Prop
  | equal (request : Request) : Carried body body' request request
  | bodies (request : Request) :
      Carried body body' { request with body } { request with body := body' }

namespace Library

/-- Two calls that differ in their bodies come to the same, before servers that do not look at the
bodies either: only the requests that carry the body differ, and these in the body alone. -/
def BlindToBodies (library : Library) : Prop :=
  ∀ (call : Call) (body body' : Text) (state : library.State), ∃ reply requests requests' after,
    library.send { call with json? := some body } state = (reply, requests, after) ∧
    library.send { call with json? := some body' } state = (reply, requests', after) ∧
    List.Forall₂ (Carried body body') requests requests'

/-- A call goes out as one request at most, by its own method and for what its address names, and
nothing but a request brings a response. -/
structure Direct (library : Library) : Prop where
  single (call : Call) (state : library.State) :
    (library.exchange call state).1.requests.length ≤ 1
  method (call : Call) (state : library.State) :
    ∀ request ∈ (library.exchange call state).1.requests, request.method = call.method
  target (call : Call) (state : library.State) (url : Url) :
    Url.parse? call.address = some url →
      ∀ request ∈ (library.exchange call state).1.requests, request.target = url.target
  answered (call : Call) (state : library.State) (response : Response) :
    (library.exchange call state).1.reply = .ok response →
      (library.exchange call state).1.requests ≠ []

end Library

/-! ## The library in memory -/

namespace Scripted
variable {s : Scripted} {call : Call} {url : Url}

def Reaches (s : Scripted) (call : Call) (url : Url) : Prop :=
  Url.parse? call.address = some url ∧ url.origin = s.server.origin

theorem send_of_reaches (reaches : s.Reaches call url) :
    scripted.send call s =
      ((s.hear url s.server.next.2 s.server.next.1).1, [s.request call url],
        (s.hear url s.server.next.2 s.server.next.1).2) := by
  obtain ⟨parsed, own⟩ := reaches
  simp only [scripted, send, parsed, own, if_true]

theorem send_of_unreached (unreached : ¬ ∃ url, s.Reaches call url) :
    ∃ text, ∀ json?, scripted.send { call with json? } s = (.error text, [], s) := by
  cases parsed : Url.parse? call.address with
  | none => exact ⟨"builder error".toList, fun json? => by simp only [scripted, send, parsed]⟩
  | some url =>
      have foreign : url.origin ≠ s.server.origin := fun own => unreached ⟨url, parsed, own⟩
      exact ⟨"error sending request".toList, fun json? => by
        simp only [scripted, send, parsed, if_neg foreign]⟩

theorem requests_of_reaches (reaches : s.Reaches call url) :
    (scripted.exchange call s).1.requests = [s.request call url] := by
  simp only [Library.exchange, send_of_reaches reaches]

theorem requests_of_unreached (unreached : ¬ ∃ url, s.Reaches call url) :
    (scripted.exchange call s).1.requests = [] := by
  obtain ⟨text, sent⟩ := send_of_unreached unreached
  have same : scripted.send call s = (.error text, [], s) := sent call.json?
  simp only [Library.exchange, same]

theorem not_ok_of_unreached (unreached : ¬ ∃ url, s.Reaches call url) (response : Response) :
    (scripted.exchange call s).1.reply ≠ .ok response := by
  obtain ⟨text, sent⟩ := send_of_unreached unreached
  have same : scripted.send call s = (.error text, [], s) := sent call.json?
  simp only [Library.exchange, same]
  exact nofun

theorem mem_requests (call : Call) (s : Scripted) :
    ∀ request ∈ (scripted.exchange call s).1.requests,
      ∃ url, s.Reaches call url ∧ request = s.request call url := by
  by_cases reached : ∃ url, s.Reaches call url
  · obtain ⟨url, reaches⟩ := reached
    rw [requests_of_reaches reaches]
    intro request member
    exact ⟨url, reaches, List.mem_singleton.1 member⟩
  · rw [requests_of_unreached reached]
    exact nofun

end Scripted

theorem scripted_blindToBodies : scripted.BlindToBodies := by
  intro call body body' s
  change Scripted at s
  by_cases reached : ∃ url, s.Reaches call url
  · obtain ⟨url, reaches⟩ := reached
    have reaches₁ : s.Reaches { call with json? := some body } url := reaches
    have reaches₂ : s.Reaches { call with json? := some body' } url := reaches
    refine ⟨_, _, _, _, Scripted.send_of_reaches reaches₁, Scripted.send_of_reaches reaches₂, ?_⟩
    exact .cons (.bodies (s.request { call with json? := some body } url)) .nil
  · obtain ⟨text, sent⟩ := Scripted.send_of_unreached reached
    exact ⟨.error text, [], [], s, sent (some body), sent (some body'), .nil⟩

theorem scripted_direct : scripted.Direct where
  single call s := by
    by_cases reached : ∃ url, Scripted.Reaches s call url
    · obtain ⟨url, reaches⟩ := reached
      rw [Scripted.requests_of_reaches reaches]
      exact Nat.le_refl 1
    · rw [Scripted.requests_of_unreached reached]
      exact Nat.zero_le 1
  method call s := by
    intro request sent
    obtain ⟨url, -, rfl⟩ := Scripted.mem_requests call s request sent
    rfl
  target call s url parsed := by
    intro request sent
    obtain ⟨url', reaches, rfl⟩ := Scripted.mem_requests call s request sent
    cases parsed.symm.trans reaches.1
    rfl
  answered call s response answered := by
    by_cases reached : ∃ url, Scripted.Reaches s call url
    · obtain ⟨url, reaches⟩ := reached
      rw [Scripted.requests_of_reaches reaches]
      exact List.cons_ne_nil _ _
    · exact absurd answered (Scripted.not_ok_of_unreached reached response)

/-! ## Redirects -/

/-- A library before a server that sends every call on to another path, by a redirect that keeps the
method and the body, and answers there. -/
def mirrored (response : Response) : Library where
  State := Unit
  start _ := .ok ()
  send call _ :=
    let request := fun target : Text =>
      Request.mk call.method target (call.json?.map fun _ => "application/json".toList) none
        (call.json?.getD [])
    let own := (Url.parse? call.address).elim [] Url.target
    (.ok response, [request own, request "/mirror".toList], ())

theorem mirrored_blindToBodies (response : Response) : (mirrored response).BlindToBodies :=
  fun _ _ _ _ => ⟨_, _, _, _, rfl, rfl,
    .cons (.bodies ⟨_, _, _, _, []⟩) (.cons (.bodies ⟨_, _, _, _, []⟩) .nil)⟩

end ConsoleAccess.Http
