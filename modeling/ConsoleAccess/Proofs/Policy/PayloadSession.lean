import ConsoleAccess.Policy.Payload
import ConsoleAccess.Proofs.Policy.Monotonicity

/-!
# Sessions of payloads

A session holds the valid statements of its payload under their own ids. A permission is added by
one step, which fills at most its own id and only where that is free
(`Payload.getElem?_addPermission`), so over all permissions the first offer for a free id is what
stands there (`Payload.statement?_session`).

What a permission offers is an allow (`Payload.effect_of_offer?`): permissions only grant, and a deny
among the statements refuses whatever they are.
-/

namespace ConsoleAccess

theorem Statement.effect_of_ofPermission? {resource : Text} {actions : Json} {s : Statement}
    (made : ofPermission? resource actions = some s) : s.effect = .allow := by
  obtain ⟨texts, -, valid⟩ := Option.bind_eq_some_iff.1 made
  cases result : make .allow texts [resource] with
  | error e =>
      rw [result] at valid
      cases valid
  | ok t =>
      rw [result] at valid
      cases valid
      exact effect_of_make result

namespace Payload

def offer? (id : Text) (permission : Text × Json) : Option Statement :=
  if permissionId permission.1 = id then Statement.ofPermission? permission.1 permission.2 else none

theorem effect_of_offer? {id : Text} {permission : Text × Json} {s : Statement}
    (offered : offer? id permission = some s) : s.effect = .allow := by
  unfold offer? at offered
  split at offered
  · exact Statement.effect_of_ofPermission? offered
  · cases offered

theorem getElem?_addPermission (statements : Dictionary Statement) (permission : Text × Json)
    (id : Text) :
    (addPermission statements permission)[id]? = statements[id]?.or (offer? id permission) := by
  unfold addPermission offer?
  cases Statement.ofPermission? permission.1 permission.2 with
  | none => simp
  | some s =>
      simp only [Std.ExtTreeMap.getElem?_insertIfNew, Std.LawfulEqCmp.compare_eq_iff_eq,
        Std.ExtTreeMap.mem_iff_isSome_getElem?]
      by_cases own : permissionId permission.1 = id
      · subst own
        cases statements[permissionId permission.1]? <;> simp
      · simp [own]

theorem getElem?_foldl_addPermission (permissions : List (Text × Json))
    (statements : Dictionary Statement) (id : Text) :
    (permissions.foldl addPermission statements)[id]? =
      statements[id]?.or (permissions.findSome? (offer? id)) := by
  induction permissions generalizing statements with
  | nil => simp
  | cons permission permissions ih =>
      rw [List.foldl_cons, ih, getElem?_addPermission, Option.or_assoc, List.findSome?_cons]
      cases offer? id permission <;> rfl

theorem statement?_session (p : Payload) (id : Text) :
    p.session.statement? id = (p.statements[id]?.bind Statement.ofJson?).or
      (p.permissions.toList.findSome? (offer? id)) := by
  have valid : p.validStatements[id]? = p.statements[id]?.bind Statement.ofJson? :=
    Std.ExtTreeMap.getElem?_filterMap'
  rw [← valid]
  exact getElem?_foldl_addPermission _ _ _

theorem holds_session_of_valid {p : Payload} {id : Text} {raw : Json} {s : Statement}
    (entry : p.statements[id]? = some raw) (valid : Statement.ofJson? raw = some s) :
    p.session.Holds s := by
  refine ⟨id, ?_⟩
  rw [statement?_session, entry, Option.bind_some, valid]
  rfl

theorem valid_or_allow_of_holds_session {p : Payload} {s : Statement} (held : p.session.Holds s) :
    (∃ (id : Text) (raw : Json), p.statements[id]? = some raw ∧ Statement.ofJson? raw = some s) ∨
      s.effect = .allow := by
  obtain ⟨id, held⟩ := held
  rw [statement?_session, Option.or_eq_some_iff] at held
  rcases held with valid | ⟨-, offered⟩
  · obtain ⟨raw, entry, valid⟩ := Option.bind_eq_some_iff.1 valid
    exact Or.inl ⟨id, raw, entry, valid⟩
  · obtain ⟨permission, -, offered⟩ := List.exists_of_findSome?_eq_some offered
    exact Or.inr (effect_of_offer? offered)

theorem holds_session_iff_of_no_permissions {p : Payload} (empty : p.permissions = ∅)
    {s : Statement} : p.session.Holds s ↔
      ∃ (id : Text) (raw : Json), p.statements[id]? = some raw ∧ Statement.ofJson? raw = some s := by
  have only (id : Text) : p.session.statement? id = p.statements[id]?.bind Statement.ofJson? := by
    rw [statement?_session, empty]
    exact Option.or_none
  simp only [Session.Holds, only, Option.bind_eq_some_iff]

theorem permissions_only_grant (p : Payload) (q : Query) :
    (Snapshot.grants (some { p with permissions := ∅ }.session) q = true →
      Snapshot.grants (some p.session) q = true) ∧
    ∀ (id : Text) (raw : Json) (d : Statement),
      p.statements[id]? = some raw → Statement.ofJson? raw = some d → d.effect = .deny →
      ∀ r ∈ Text.present q.resources, ∀ c ∈ Text.present q.scopes,
        d.appliesTo r c false = true →
          ∀ permissions, Snapshot.grants (some { p with permissions }.session) q = false := by
  constructor
  · apply Snapshot.grants_of_holds
    · intro s _ held
      obtain ⟨id, raw, entry, valid⟩ := (holds_session_iff_of_no_permissions rfl).1 held
      exact holds_session_of_valid entry valid
    · intro d denies held
      rcases valid_or_allow_of_holds_session held with ⟨id, raw, entry, valid⟩ | allows
      · exact (holds_session_iff_of_no_permissions rfl).2 ⟨id, raw, entry, valid⟩
      · rw [denies] at allows
        cases allows
  · intro id raw d entry valid denies r named c asked applies permissions
    have held : { p with permissions }.session.Holds d := holds_session_of_valid entry valid
    exact Snapshot.refuses_of_speaks named asked
      ⟨d, Session.mem_statements_iff.2 held, denies, applies⟩

/-- A permission whose id is that of a deny. -/
theorem permissions_only_grant_at_own_id :
    let get : ActionPattern := ⟨"s3:GetObject".toList, by decide, by decide⟩
    let bucket : ResourcePattern := ⟨"bucket/".toList, true, "bucket/*".toList, by decide⟩
    let refusal := Json.object [("effect".toList, .string "deny".toList),
      ("actions".toList, .string "s3:GetObject".toList),
      ("resources".toList, .string "bucket/*".toList)]
    let all := Json.array [.string "allow".toList, .string "*".toList, .string "*".toList]
    let p : Payload :=
      { statements :=
          .ofList [(permissionId "bucket/*".toList, refusal), ("1".toList, all)] compare
        permissions := .ofList [("bucket/*".toList, .string "s3:GetObject".toList)] compare }
    let upload : Query := { resources := ["bucket/a".toList], scopes := ["s3:PutObject".toList] }
    let read : Query := { resources := ["bucket/a".toList], scopes := ["s3:GetObject".toList] }
    Snapshot.grants (some { p with permissions := ∅ }.session) upload = true ∧
      Snapshot.grants (some p.session) upload = true ∧
      p.statements[permissionId "bucket/*".toList]? = some refusal ∧
      Statement.ofJson? refusal = some (.on .deny get bucket) ∧
      (Statement.on .deny get bucket).appliesTo "bucket/a".toList "s3:GetObject".toList false = true ∧
      Snapshot.grants (some p.session) read = false := by
  intro get bucket refusal all p upload read
  have before : Snapshot.grants (some { p with permissions := ∅ }.session) upload = true := by
    decide +kernel
  have entry : p.statements[permissionId "bucket/*".toList]? = some refusal := by rfl
  have valid : Statement.ofJson? refusal = some (.on .deny get bucket) := by rfl
  have applies : (Statement.on .deny get bucket).appliesTo "bucket/a".toList
      "s3:GetObject".toList false = true := by decide
  refine ⟨before, (permissions_only_grant p upload).1 before, entry, valid, applies, ?_⟩
  exact (permissions_only_grant p read).2 _ refusal _ entry valid rfl _ (by decide) _ (by decide)
    applies p.permissions

end Payload
end ConsoleAccess
