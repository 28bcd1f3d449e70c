import ConsoleAccess.Command.Run
import ConsoleAccess.Http.Scripted
import ConsoleAccess.Proofs.Command.Lines
import ConsoleAccess.Proofs.Policy.GatedDisplay

/-!
# Offline commands

`check` and `gate` put their questions together each in its own way. `QueryOptions.query_eq`,
`gate_query` and `gate_errorProps` say what comes of it: every gate made here disables or hides what
is refused (`gate_guards`). `loadSnapshot_spec` says what a session file comes to, and
`check_gate_agree` that the two commands answer alike.
-/

namespace ConsoleAccess.Command

variable {library : Http.Library} {s : Surroundings library} {q : QueryOptions} {disable : Bool} {tooltip : Option Text}
  {snapshot : Snapshot}

/-! ## Questions -/

namespace QueryOptions

theorem query_eq (q : QueryOptions) :
    q.query =
      { resources := q.resources, scopes := q.scopes, matchAll := q.matchAll
        containsResource := q.containsResource } := by
  cases all : q.matchAll <;> cases below : q.containsResource <;>
    simp [query, all, below, Query.matchingAll, Query.containing]

theorem gate_query (q : QueryOptions) : (q.gate disable tooltip).query = q.query := by
  cases all : q.matchAll <;> cases below : q.containsResource <;> cases disable <;>
    simp [gate, query, all, below, Gate.ofAccess, Gate.matchingAll, Gate.containing,
      Gate.withErrorProps]

theorem gate_errorProps (q : QueryOptions) :
    (q.gate disable tooltip).errorProps =
      if disable then some { disabled := true, tooltip } else none := by
  cases disable with
  | true => cases tooltip <;> rfl
  | false =>
      cases all : q.matchAll <;> cases below : q.containsResource <;>
        simp [gate, all, below, Gate.ofAccess, Gate.matchingAll, Gate.containing]

theorem gate_guards {α : Type} [Fragment α] (q : QueryOptions) (children : List α)
    (renderError : Unit → Option α) :
    (q.gate disable tooltip).Guards snapshot children renderError := by
  apply Gate.guards_of_disabled
  intro _ _ props given
  rw [gate_errorProps] at given
  cases disable with
  | true =>
      cases given
      rfl
  | false => cases given

end QueryOptions

/-! ## Answers -/

def refusalText (disable : Bool) (tooltip : Option Text) : Text :=
  if disable then
    "disable ".toList ++ renderProps { disabled := true, tooltip } ++ ['\n']
  else "hide\n".toList

theorem refusalText_ne_render : refusalText disable tooltip ≠ "render\n".toList := by
  cases disable <;> simp [refusalText]

theorem check_of_granted (granted : snapshot.grants q.query = true) :
    check snapshot q false = { exit := 0, stdout := "allow\n".toList } := by
  simp [check, granted]

theorem check_of_refused (refused : snapshot.grants q.query = false) :
    check snapshot q false = { exit := 2, stdout := "deny\n".toList } := by
  simp [check, refused, deniedExit]

theorem gate_of_granted (granted : snapshot.grants q.query = true) :
    gate snapshot q disable tooltip = { exit := 0, stdout := "render\n".toList } := by
  have decided : (q.gate disable tooltip).decide snapshot = .render := by
    rw [Gate.decide, q.gate_query, if_pos granted]
  rw [gate, decided]
  rfl

theorem gate_of_refused (refused : snapshot.grants q.query = false) :
    gate snapshot q disable tooltip = { exit := 0, stdout := refusalText disable tooltip } := by
  have decided : (q.gate disable tooltip).decide snapshot =
      if disable then .disable { disabled := true, tooltip } else .hide := by
    rw [Gate.decide, q.gate_query, refused, q.gate_errorProps]
    cases disable <;> rfl
  rw [gate, decided]
  cases disable <;> rfl

/-! ## Session files -/

def Surroundings.Holds (s : Surroundings library) (path : Text) (payload : Payload) : Prop :=
  ∃ content, s.files path = .bytes content ∧ Payload.load content = .ok payload

theorem loadSnapshot_spec (s : Surroundings library) (path : Text) :
    (∃ payload, s.Holds path payload ∧ loadSnapshot s path = .ok (some payload.session)) ∨
      (∃ e, (∀ payload, ¬ s.Holds path payload) ∧ loadSnapshot s path = .error e) := by
  unfold loadSnapshot Surroundings.Holds
  cases s.files path with
  | missing => exact .inr ⟨_, by simp, rfl⟩
  | directory => exact .inr ⟨_, by simp, rfl⟩
  | bytes content =>
      cases loaded : Payload.load content with
      | error e => exact .inr ⟨.payload e, by simp [loaded], by simp [loaded]⟩
      | ok payload =>
          refine .inl ⟨payload, ⟨content, rfl, loaded⟩, ?_⟩
          simp only [loaded]
          rfl

/-! ## Agreement -/

/-- What the two commands make of one query on one file: the same failure, or two answers that both
follow the decision on the query. -/
inductive Agreement (s : Surroundings library) (q : QueryOptions) (disable : Bool) (tooltip : Option Text)
    (checked gated : Outcome) : Prop
  | failed (e : Failure) (unusable : ∀ payload, ¬ s.Holds q.session payload)
      (check : checked = { exit := 1, stdout := [], error := some e })
      (gate : gated = { exit := 1, stdout := [], error := some e })
  | answered (payload : Payload) (granted : Bool) (held : s.Holds q.session payload)
      (decided :
        Snapshot.grants (some payload.session)
          { resources := q.resources, scopes := q.scopes, matchAll := q.matchAll
            containsResource := q.containsResource } = granted)
      (quiet : checked.error = none ∧ gated.error = none)
      (allows : checked.exit = 0 ∧ checked.stdout = "allow\n".toList ↔ granted = true)
      (denies : checked.exit = 2 ∧ checked.stdout = "deny\n".toList ↔ granted = false)
      (shown : gated.exit = 0)
      (renders : gated.stdout = "render\n".toList ↔ checked.stdout = "allow\n".toList)
      (refused : checked.stdout = "deny\n".toList → gated.stdout = refusalText disable tooltip)

theorem perform_agree (s : Surroundings library) (q : QueryOptions) (disable : Bool)
    (tooltip : Option Text) (config config' : Option Text) :
    Agreement s q disable tooltip (perform s (.check q false) config).1
      (perform s (.gate q disable tooltip) config').1 := by
  simp only [perform, offline]
  rcases loadSnapshot_spec s q.session with ⟨payload, held, loaded⟩ | ⟨e, unusable, failed⟩
  · have decided := congrArg (Snapshot.grants (some payload.session)) q.query_eq
    simp only [loaded]
    cases granted : Snapshot.grants (some payload.session) q.query with
    | true =>
        rw [check_of_granted granted, gate_of_granted granted]
        rw [granted] at decided
        exact .answered payload true held decided.symm ⟨rfl, rfl⟩ (by simp) (by simp) rfl (by simp)
          (by simp)
    | false =>
        rw [check_of_refused granted, gate_of_refused granted]
        rw [granted] at decided
        exact .answered payload false held decided.symm ⟨rfl, rfl⟩ (by simp) (by simp) rfl
          (iff_of_false refusalText_ne_render (by decide)) (fun _ => rfl)
  · simp only [failed]
    exact .failed e unusable rfl rfl

/-- The offline commands agree on every query, and every query that names a file, a resource and a
scope has command lines that ask it. The command line refuses a tooltip where nothing is disabled,
so no line of `gate` has one there. -/
theorem check_gate_agree (s : Surroundings library) (q : QueryOptions) (disable : Bool)
    (tooltip : Option Text) :
    (∀ config config', Agreement s q disable tooltip (perform s (.check q false) config).1
      (perform s (.gate q disable tooltip) config').1) ∧
    (q.Written →
      run q.checkLine s = perform s (.check q false) none ∧
      ((tooltip.isSome → disable = true) →
        run (q.gateLine disable tooltip) s = perform s (.gate q disable tooltip) none)) := by
  refine ⟨perform_agree s q disable tooltip, fun written => ⟨?_, fun shown => ?_⟩⟩
  · rw [run, QueryOptions.parse?_checkLine written]
  · rw [run, QueryOptions.parse?_gateLine written shown]

/-- One of two scopes is granted, and both are asked for. -/
theorem check_gate_agree_in_part :
    let file := "[\"alice\",\x7b\x7d,\x7b\"a/*\":\"s3:GetObject\"\x7d]".toUTF8.toList
    let server : Http.Server :=
      { origin := { secure := false, host := .name [], port := 80 }, script := [] }
    let s : Surroundings Http.scripted :=
      { files := fun path => if path = "s.json".toList then .bytes file else .missing
        environment := {}
        link := { state := { server } } }
    let q : QueryOptions :=
      { session := "s.json".toList, resources := ["a/b".toList, "c".toList]
        scopes := ["s3:GetObject".toList, "s3:PutObject".toList], matchAll := true }
    let tooltip := some "no".toList
    Agreement s q true tooltip (run q.checkLine s).1 (run (q.gateLine true tooltip) s).1 ∧
      (run q.checkLine s).1 = { exit := 2, stdout := "deny\n".toList } ∧
      (run (q.gateLine true tooltip) s).1.stdout =
        "disable \x7b\"disabled\":true,\"tooltip\":\"no\"\x7d\n".toList := by
  intro file server s q tooltip
  obtain ⟨agree, lines⟩ := check_gate_agree s q true tooltip
  obtain ⟨check, gate⟩ := lines ⟨by decide, by decide, by decide⟩
  have denied : (perform s (.check q false) none).1 = { exit := 2, stdout := "deny\n".toList } := by
    decide +kernel
  have disabled : (perform s (.gate q true tooltip) none).1.stdout =
      "disable \x7b\"disabled\":true,\"tooltip\":\"no\"\x7d\n".toList := by
    decide +kernel
  rw [check, gate fun _ => rfl]
  exact ⟨agree none none, denied, disabled⟩

end ConsoleAccess.Command
