import ConsoleAccess.Proofs.Command.Offline
import ConsoleAccess.Proofs.Json.Printing

/-!
# The line of a disabled affordance

Error properties are printed as JSON that holds just what is set in them
(`denotes_renderProps_iff`), on one line (`renderProps_unbroken`). So what `gate` prints of a query
that is refused is one line which gives the tooltip back, whatever it is (`disabled_line_exact`).
-/

namespace ConsoleAccess.Command
open Json (Denotes Tree)

theorem denotes_renderProps_iff (props : ErrorProps) {tree : Tree} :
    Denotes (renderProps props) tree ↔
      tree = .object ((some "disabled".toList, .bool props.disabled) ::
        props.tooltip.toList.map fun t => (some "tooltip".toList, .string (some t))) := by
  rw [renderProps, Json.denotes_renderObject_iff]
  cases props.tooltip <;> rfl

theorem renderProps_unbroken (props : ErrorProps) :
    '\n' ∉ renderProps props ∧ '\r' ∉ renderProps props := by
  have visible := Json.renderObject_visible
    (("disabled".toList, .bool props.disabled) ::
      (props.tooltip.map fun t => ("tooltip".toList, Json.Scalar.string t)).toList)
  constructor
  · exact fun broken => absurd (visible _ broken) (by decide)
  · exact fun broken => absurd (visible _ broken) (by decide)

variable {library : Http.Library} {s : Surroundings library} {q : QueryOptions} {payload : Payload}

theorem loadSnapshot_of_holds {path : Text} (held : s.Holds path payload) :
    loadSnapshot s path = .ok (some payload.session) := by
  obtain ⟨content, file, loaded⟩ := held
  rw [loadSnapshot, file]
  simp only [loaded]
  rfl

theorem run_gate_of_refused (held : s.Holds q.session payload)
    (refused : Snapshot.grants (some payload.session) q.query = false) {args : List Text}
    {disable : Bool} {tooltip config : Option Text}
    (parsed : parse? args = some (.run (.gate q disable tooltip) config)) :
    (run args s).1 = { exit := 0, stdout := refusalText disable tooltip } := by
  simp only [run, parsed, perform, offline, loadSnapshot_of_holds held, gate_of_refused refused]

theorem disabled_line_exact (s : Surroundings library) (q : QueryOptions) (tooltip : Option Text)
    (payload : Payload) (held : s.Holds q.session payload)
    (refused : Snapshot.grants (some payload.session)
      { resources := q.resources, scopes := q.scopes, matchAll := q.matchAll
        containsResource := q.containsResource } = false) :
    ∃ object, '\n' ∉ object ∧ '\r' ∉ object ∧
      (∀ tree, Denotes object tree ↔
        tree = .object ((some "disabled".toList, .bool true) ::
          tooltip.toList.map fun t => (some "tooltip".toList, .string (some t)))) ∧
      (∀ args config, parse? args = some (.run (.gate q true tooltip) config) →
        (run args s).1 = { exit := 0, stdout := "disable ".toList ++ object ++ ['\n'] }) ∧
      (q.Written → parse? (q.gateLine true tooltip) = some (.run (.gate q true tooltip) none)) := by
  rw [← q.query_eq] at refused
  obtain ⟨line, carriage⟩ := renderProps_unbroken { disabled := true, tooltip }
  refine ⟨renderProps { disabled := true, tooltip }, line, carriage,
    fun tree => denotes_renderProps_iff _, fun args config parsed => ?_, fun written => ?_⟩
  · rw [run_gate_of_refused held refused parsed]
    rfl
  · exact QueryOptions.parse?_gateLine written fun _ => rfl

/-- A tooltip that looks like the end of the line and a further verdict. -/
theorem disabled_line_exact_forged :
    let file := "\x7b\x7d".toUTF8.toList
    let server : Http.Server :=
      { origin := { secure := false, host := .name [], port := 80 }, script := [] }
    let s : Surroundings Http.scripted :=
      { files := fun path => if path = "s.json".toList then .bytes file else .missing
        environment := {}
        link := { state := { server } } }
    let q : QueryOptions :=
      { session := "s.json".toList, resources := ["a".toList], scopes := ["s3:GetObject".toList] }
    let tooltip := "no\"\x7d\r\nrender".toList
    let object := "\x7b\"disabled\":true,\"tooltip\":\"no\\\"\x7d\\r\\nrender\"\x7d".toList
    (run (q.gateLine true (some tooltip)) s).1 =
        { exit := 0, stdout := "disable ".toList ++ object ++ ['\n'] } ∧
      Denotes object (.object [(some "disabled".toList, .bool true),
        (some "tooltip".toList, .string (some tooltip))]) := by
  intro file server s q tooltip object
  have decoded : Utf8.decode? file = some "\x7b\x7d".toList := by decide +kernel
  have held : s.Holds q.session {} := by
    refine ⟨file, rfl, ?_⟩
    rw [Payload.load, decoded]
    rfl
  have refused : Snapshot.grants (some (Payload.session {}))
      { resources := q.resources, scopes := q.scopes, matchAll := q.matchAll
        containsResource := q.containsResource } = false := by decide +kernel
  obtain ⟨object', -, -, reads, prints, line⟩ :=
    disabled_line_exact s q (some tooltip) _ held refused
  have written : (run (q.gateLine true (some tooltip)) s).1 =
      { exit := 0, stdout := "disable ".toList ++ object ++ ['\n'] } := by decide +kernel
  have printed := prints _ none (line ⟨by decide, by decide, by decide⟩)
  have same : object = object' := by
    rw [written, Outcome.mk.injEq, List.append_left_inj, List.append_right_inj] at printed
    exact printed.2.1
  rw [← same] at reads
  exact ⟨written, (reads _).2 rfl⟩

end ConsoleAccess.Command
