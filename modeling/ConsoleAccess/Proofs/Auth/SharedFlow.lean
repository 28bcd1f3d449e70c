import ConsoleAccess.Auth.Flow

/-!
# A flow shared by several parties

Each access to the cache is one step, and an `establish` makes two: it loads its session, and then
it reads the cache. The parties take their steps in any order (`Shared.run`), and each step leaves an
event with the party that took it. Whatever the order, the cache holds what was written last, and a
party is midway through an `establish` as long as a load is its own latest event; so every event
fits those before it (`Follows.run`).

What an `establish` returns is therefore what was written last since its load (`establish_returns`):
its own session if nobody else wrote meanwhile, and otherwise the session, or the sign-out, of the
one who wrote last.
-/

namespace ConsoleAccess.Auth

/-! ## Parties and their steps -/

inductive Call
  | establish (payload : Payload)
  | finish
  | observe (status : Http.Status) (body : Text)

/-- Midway through an `establish` the session is loaded and the cache is still to be read. -/
structure Party where
  midway : Option Payload := none
  calls : List Call

inductive Event
  | loaded (payload : Payload)
  | returned (payload : Payload) (snapshot : Snapshot)
  | finished
  | observed (signal : Signal)

def Party.step? (cache : Cache) : Party → Option (Event × Party × Cache)
  | ⟨some payload, calls⟩ => some (.returned payload cache.get, { calls }, cache.apply .get)
  | ⟨none, .establish payload :: calls⟩ =>
    some (.loaded payload, { midway := some payload, calls }, cache.apply (.load payload.session))
  | ⟨none, .finish :: calls⟩ => some (.finished, { calls }, finish cache)
  | ⟨none, .observe status body :: calls⟩ =>
    let (signal, cache) := observe status body cache
    some (.observed signal, { calls }, cache)
  | ⟨none, []⟩ => none

abbrev Past := List (Nat × Event)

structure Shared where
  cache : Cache := {}
  parties : Nat → Party
  past : Past := []

namespace Shared

def start (cache : Cache) (calls : Nat → List Call) : Shared :=
  { cache, parties := fun who => { calls := calls who } }

def turn (s : Shared) (who : Nat) : Shared :=
  match (s.parties who).step? s.cache with
  | some (event, party, cache) =>
    { cache
      parties := fun other => if other = who then party else s.parties other
      past := s.past ++ [(who, event)] }
  | none => s

def run (s : Shared) (turns : List Nat) : Shared := turns.foldl turn s

theorem run_establish_alone {s : Shared} {who : Nat} {payload : Payload} {calls : List Call}
    (next : s.parties who = { calls := .establish payload :: calls }) :
    (s.run [who, who]).cache = (establish payload s.cache).2 ∧
      (s.run [who, who]).past = s.past ++
        [(who, .loaded payload), (who, .returned payload (establish payload s.cache).1)] := by
  simp [run, turn, next, Party.step?, establish, establishSteps, Cache.run, Cache.apply]

end Shared

/-! ## What the events tell -/

def Event.writes? : Event → Option Snapshot
  | .loaded payload => some (some payload.session)
  | .finished | .observed .redirectToLogin => some none
  | _ => none

def lastWrite? (past : Past) : Option Snapshot :=
  (past.filterMap fun entry => entry.2.writes?).getLast?

def Event.begins? : Event → Option Payload
  | .loaded payload => some payload
  | _ => none

/-- The payload of an `establish` that the party has begun and not ended. -/
def begun? (who : Nat) (past : Past) : Option Payload :=
  (past.reverse.find? fun entry => entry.1 = who).bind fun entry => entry.2.begins?

theorem lastWrite?_append (past later : Past) :
    lastWrite? (past ++ later) = (lastWrite? later).or (lastWrite? past) := by
  rw [lastWrite?, List.filterMap_append, List.getLast?_append]
  rfl

theorem lastWrite?_singleton (who : Nat) (event : Event) :
    lastWrite? [(who, event)] = event.writes? := by
  cases writes : event.writes? <;> simp [lastWrite?, writes]

theorem lastWrite?_since_load (before : Past) (who : Nat) (payload : Payload) (between : Past) :
    lastWrite? (before ++ (who, .loaded payload) :: between) =
      some ((lastWrite? between).getD (some payload.session)) := by
  rw [← List.singleton_append, ← List.append_assoc, lastWrite?_append, lastWrite?_append,
    lastWrite?_singleton]
  cases lastWrite? between <;> rfl

theorem begun?_snoc (who : Nat) (past : Past) (who' : Nat) (event : Event) :
    begun? who (past ++ [(who', event)]) =
      if who' = who then event.begins? else begun? who past := by
  by_cases own : who' = who <;> simp [begun?, own]

theorem begun?_eq_some_iff {who : Nat} {past : Past} {payload : Payload} :
    begun? who past = some payload ↔ ∃ before between,
      past = before ++ (who, .loaded payload) :: between ∧ ∀ entry ∈ between, entry.1 ≠ who := by
  have begins (event : Event) : event.begins? = some payload ↔ event = .loaded payload := by
    cases event <;> simp [Event.begins?]
  have latest : begun? who past = some payload ↔
      past.reverse.find? (fun entry => entry.1 = who) = some (who, .loaded payload) := by
    simp only [begun?, Option.bind_eq_some_iff, begins]
    constructor
    · rintro ⟨⟨other, event⟩, found, rfl⟩
      have own : other = who := by simpa using List.find?_some found
      exact own ▸ found
    · intro found
      exact ⟨_, found, rfl⟩
  rw [latest, List.find?_eq_some_iff_append]
  constructor
  · rintro ⟨-, since, before, split, others⟩
    refine ⟨before.reverse, since.reverse, ?_, ?_⟩
    · rw [← List.reverse_inj, split]
      simp
    · simpa using others
  · rintro ⟨before, between, rfl, others⟩
    exact ⟨by simp, between.reverse, before.reverse, by simp, by simpa using others⟩

/-! ## Every event fits those before it -/

/-- What an event says, given those before it and the snapshot that the cache held at first. -/
def Event.Fits (first : Snapshot) (before : Past) (who : Nat) : Event → Prop
  | .returned payload snapshot =>
    begun? who before = some payload ∧ snapshot = (lastWrite? before).getD first
  | _ => begun? who before = none

structure Follows (first : Snapshot) (s : Shared) : Prop where
  current : s.cache.current = (lastWrite? s.past).getD first
  midway : ∀ who, (s.parties who).midway = begun? who s.past
  fits : ∀ before who event later, s.past = before ++ (who, event) :: later →
    event.Fits first before who

namespace Follows
variable {first : Snapshot} {s : Shared}

theorem start (cache : Cache) (calls : Nat → List Call) :
    Follows cache.current (Shared.start cache calls) where
  current := rfl
  midway _ := rfl
  fits := by simp [Shared.start]

/-- One more event, which fits, and the cache and the party left in accord with it. -/
theorem snoc (follows : Follows first s) {who : Nat} {event : Event} {party : Party} {cache : Cache}
    (fits : event.Fits first s.past who) (midway : party.midway = event.begins?)
    (written : cache.current = event.writes?.getD s.cache.current) :
    Follows first
      { cache
        parties := fun other => if other = who then party else s.parties other
        past := s.past ++ [(who, event)] } where
  current := by
    rw [lastWrite?_append, lastWrite?_singleton, written, follows.current]
    cases event.writes? <;> rfl
  midway other := by
    rw [begun?_snoc]
    by_cases own : other = who
    · simp [own, midway]
    · simp [own, Ne.symm own, follows.midway]
  fits before who' event' later split := by
    rcases List.eq_nil_or_concat later with rfl | ⟨later, last, rfl⟩
    · obtain ⟨rfl, same⟩ := List.append_inj' split rfl
      cases same
      exact fits
    · rw [List.concat_eq_append, ← List.cons_append, ← List.append_assoc] at split
      exact follows.fits _ _ _ later (List.append_inj' split rfl).1

theorem turn (follows : Follows first s) (who : Nat) : Follows first (s.turn who) := by
  have midway := follows.midway who
  unfold Shared.turn
  generalize s.parties who = party at midway
  obtain ⟨begun, calls⟩ := party
  cases begun with
  | some payload => exact follows.snoc ⟨midway.symm, follows.current⟩ rfl rfl
  | none =>
      cases calls with
      | nil => exact follows
      | cons call calls =>
          cases call with
          | establish payload => exact follows.snoc midway.symm rfl rfl
          | finish => exact follows.snoc midway.symm rfl rfl
          | observe status body =>
              cases ends : isInvalidSession status body with
              | false =>
                  simp only [Party.step?, observe, ends, Bool.false_eq_true, if_false]
                  exact follows.snoc midway.symm rfl rfl
              | true =>
                  simp only [Party.step?, observe, ends, if_true]
                  exact follows.snoc midway.symm rfl rfl

theorem run (follows : Follows first s) (turns : List Nat) : Follows first (s.run turns) := by
  induction turns generalizing s with
  | nil => exact follows
  | cons who turns ih => exact ih (follows.turn who)

end Follows

/-! ## What an `establish` returns -/

theorem establish_returns (cache : Cache) (calls : Nat → List Call) (turns : List Nat) :
    let past := ((Shared.start cache calls).run turns).past
    (∀ before who payload between event later,
      past = before ++ (who, .loaded payload) :: between ++ (who, event) :: later →
      (∀ entry ∈ between, entry.1 ≠ who) →
        event = .returned payload ((lastWrite? between).getD (some payload.session))) ∧
    ∀ before who payload snapshot later,
      past = before ++ (who, .returned payload snapshot) :: later →
        ∃ earlier between, before = earlier ++ (who, .loaded payload) :: between ∧
          (∀ entry ∈ between, entry.1 ≠ who) ∧
          (snapshot = some payload.session ↔
            ∀ written ∈ lastWrite? between, written = some payload.session) := by
  intro past
  have follows : Follows cache.current ((Shared.start cache calls).run turns) :=
    (Follows.start cache calls).run turns
  constructor
  · intro before who payload between event later split others
    have begun : begun? who (before ++ (who, .loaded payload) :: between) = some payload :=
      begun?_eq_some_iff.2 ⟨before, between, rfl, others⟩
    have fits := follows.fits _ who event later split
    cases event with
    | returned payload' snapshot =>
        obtain ⟨same, read⟩ := fits
        rw [begun, Option.some.injEq] at same
        rw [read, lastWrite?_since_load, Option.getD_some, same]
    | loaded | finished | observed => cases begun.symm.trans fits
  · intro before who payload snapshot later split
    obtain ⟨begun, read⟩ := follows.fits _ who _ later split
    obtain ⟨earlier, between, rfl, others⟩ := begun?_eq_some_iff.1 begun
    refine ⟨earlier, between, rfl, others, ?_⟩
    rw [read, lastWrite?_since_load, Option.getD_some]
    cases lastWrite? between <;> simp

/-- Between the two steps of an `establish`, another party gets an answer that ends nothing, and
then signs out. -/
theorem establish_returns_signed_out :
    let alice : Payload := { identity := some "alice".toList }
    let calls : Nat → List Call
      | 0 => [.establish alice]
      | _ => [.observe ⟨200⟩ [], .finish]
    let past := ((Shared.start {} calls).run [0, 1, 1, 0]).past
    let others : Past := [(1, .observed .proceed), (1, .finished)]
    past = [] ++ (0, .loaded alice) :: others ++ (0, .returned alice none) :: [] ∧
      Event.returned alice none = .returned alice ((lastWrite? others).getD (some alice.session)) ∧
      ∃ earlier between, (0, .loaded alice) :: others = earlier ++ (0, .loaded alice) :: between ∧
        (∀ entry ∈ between, entry.1 ≠ 0) ∧
        ¬ ∀ written ∈ lastWrite? between, written = some alice.session := by
  intro alice calls past others
  have split : past = [] ++ (0, .loaded alice) :: others ++ (0, .returned alice none) :: [] := by
    rfl
  have returns := establish_returns {} calls [0, 1, 1, 0]
  have elsewhere : ∀ entry ∈ others, entry.1 ≠ 0 := by simp [others]
  obtain ⟨earlier, between, shape, apart, own⟩ := returns.2 _ 0 alice none [] split
  have read := returns.1 [] 0 alice others _ [] split elsewhere
  refine ⟨split, read, earlier, between, shape, apart, ?_⟩
  rw [← own]
  nofun

/-- An `establish` returns the session of another party, or none at all. -/
theorem establish_returns_anothers :
    let alice : Payload := { identity := some "alice".toList }
    let bob : Payload := { identity := some "bob".toList }
    let calls : Nat → List Call
      | 0 => [.establish alice]
      | 1 => [.establish bob]
      | _ => [.finish]
    (0, .returned alice (some bob.session)) ∈ ((Shared.start {} calls).run [0, 1, 0]).past ∧
      (0, .returned alice none) ∈ ((Shared.start {} calls).run [0, 2, 0]).past ∧
      bob.session ≠ alice.session := by
  intro alice bob calls
  refine ⟨List.mem_of_getElem? (i := 2) rfl, List.mem_of_getElem? (i := 2) rfl, ?_⟩
  intro same
  have names : "bob".toList = "alice".toList := congrArg Session.identity same
  exact absurd names (by decide)

end ConsoleAccess.Auth
