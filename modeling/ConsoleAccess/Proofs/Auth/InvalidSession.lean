import ConsoleAccess.Auth.Flow
import ConsoleAccess.Proofs.Json.Grammar
import ConsoleAccess.Proofs.Json.Values

/-!
# Refusals that end a session

A refusal ends the session if its body is a report of just that (`InvalidReport`): the message is
given once, as a text, and it is the one message that counts. Whatever else the body holds is left
alone, as long as its names can be read. `observe_exact` says what becomes of the cache.
-/

namespace ConsoleAccess.Auth
open Json

inductive InvalidReport : Tree → Prop
  | object {before after : List (Option Text × Tree)}
      (others : ∀ m ∈ before ++ after, ∃ name, m.1 = some name ∧ name ≠ "message".toList) :
      InvalidReport (.object (before ++
        (some "message".toList, .string (some invalidSessionMessage)) :: after))
  | array : InvalidReport (.array [.string (some invalidSessionMessage)])

def EndsSession (status : Http.Status) (body : Text) : Prop :=
  status = .forbidden ∧ ∃ tree, Denotes body tree ∧ InvalidReport tree

theorem errorMessage?_object_iff {members : List (Option Text × Tree)} {message : Text}
    (visible : message ≠ []) :
    errorMessage? (.object members) = some message ↔
      Named members ∧ under ["message".toList] members = [.string (some message)] := by
  have sole : (named? members).bind (soleMember? ["message".toList]) =
      some (some (.string (some message))) ↔
        Named members ∧ under ["message".toList] members = [.string (some message)] :=
    bind_soleMember?_eq_some_iff
  rw [← sole, errorMessage?.eq_def]
  simp only
  split
  · next absent =>
    rw [absent]
    simp [visible.symm]
  · next text? given =>
    rw [given]
    simp
  · next absent other =>
    simp only [reduceCtorEq, false_iff]
    exact fun given => other (some message) given

theorem errorMessage?_eq_some_iff {tree : Tree} :
    errorMessage? tree = some invalidSessionMessage ↔ InvalidReport tree := by
  have visible : invalidSessionMessage ≠ [] := by decide
  constructor
  · intro message
    cases tree with
    | object members =>
        obtain ⟨before, after, rfl, others⟩ :=
          under_eq_singleton_iff.1 ((errorMessage?_object_iff visible).1 message)
        exact .object others
    | array items =>
        unfold errorMessage? at message
        split at message
        case h_1 same => cases same
        case h_2 => exact absurd (Option.some.inj message).symm visible
        case h_3 same =>
          cases same
          cases message
          exact .array
        case h_4 => cases message
    | _ => cases message
  · intro report
    cases report with
    | object others =>
        exact (errorMessage?_object_iff visible).2 (under_eq_singleton_iff.2 ⟨_, _, rfl, others⟩)
    | array => rfl

theorem isInvalidSession_iff {status : Http.Status} {body : Text} :
    isInvalidSession status body = true ↔ EndsSession status body := by
  simp only [isInvalidSession, EndsSession, Bool.and_eq_true, beq_iff_eq, Option.bind_eq_some_iff,
    Tree.read?_eq_some_iff, errorMessage?_eq_some_iff]

theorem observe_exact (status : Http.Status) (body : Text) :
    (isInvalidSession status body = true ↔ EndsSession status body) ∧
    ∀ cache : Cache,
      (EndsSession status body →
        observe status body cache = (.redirectToLogin, { current := none })) ∧
      (¬ EndsSession status body → observe status body cache = (.proceed, cache)) := by
  refine ⟨isInvalidSession_iff, fun cache => ⟨fun ends => ?_, fun goesOn => ?_⟩⟩
  · exact if_pos (isInvalidSession_iff.2 ends)
  · exact if_neg (mt isInvalidSession_iff.1 goesOn)

/-- A report with escapes among other members signs the user out; one with two messages does not. -/
theorem observe_exact_escaped :
    let report := "\x7b\"x\":[\"\\ud83d\"],\"\\u006dessage\":\"invalid\\u0020session\"\x7d".toList
    let twice := "\x7b\"message\":\"invalid session\",\"message\":\"invalid session\"\x7d".toList
    let alice : Cache := { current := some (.ofIdentity "alice".toList) }
    (EndsSession .forbidden report ∧
      observe .forbidden report alice = (.redirectToLogin, { current := none })) ∧
    ¬ EndsSession .forbidden twice ∧ observe .forbidden twice alice = (.proceed, alice) := by
  intro report twice alice
  have said : Denotes report (.object [(some ['x'], .array [.string none]),
      (some "message".toList, .string (some invalidSessionMessage))]) :=
    Token.ofText?_sound (by decide +kernel)
  have ends : EndsSession .forbidden report := by
    refine ⟨rfl, _, said, ?_⟩
    have others : ∀ m ∈ [(some ['x'], Tree.array [.string none])] ++ [],
        ∃ name, m.1 = some name ∧ name ≠ "message".toList := by simp
    exact .object others
  have twice_said : Denotes twice (.object
      [(some "message".toList, .string (some invalidSessionMessage)),
        (some "message".toList, .string (some invalidSessionMessage))]) :=
    Token.ofText?_sound (by decide +kernel)
  have goesOn : ¬ EndsSession .forbidden twice := by
    rw [← (observe_exact .forbidden twice).1, isInvalidSession, Tree.read?_eq_some_iff.2 twice_said]
    exact Bool.false_ne_true
  exact ⟨⟨ends, ((observe_exact .forbidden report).2 alice).1 ends⟩, goesOn,
    ((observe_exact .forbidden twice).2 alice).2 goesOn⟩

/-- A name that is no text makes a report unreadable, and the session goes on. -/
theorem report_with_unpaired_surrogate :
    let body := "\x7b\"message\":\"invalid session\",\"\\ud800\":null\x7d".toList
    let alice : Cache := { current := some (.ofIdentity "alice".toList) }
    Denotes body (.object
      [(some "message".toList, .string (some invalidSessionMessage)), (none, .null)]) ∧
    isInvalidSession .forbidden body = false ∧ observe .forbidden body alice = (.proceed, alice) := by
  intro body alice
  have said : Denotes body (.object
      [(some "message".toList, .string (some invalidSessionMessage)), (none, .null)]) :=
    Token.ofText?_sound (by decide +kernel)
  have goesOn : isInvalidSession .forbidden body = false := by
    rw [isInvalidSession, Tree.read?_eq_some_iff.2 said]
    rfl
  refine ⟨said, goesOn, ?_⟩
  rw [observe, goesOn]
  rfl

end ConsoleAccess.Auth
