import ConsoleAccess.Proofs.Policy.PayloadSession

/-!
# The entries of a payload in its session

A session holds no more and no less than its payload says: under each id the statement given for it
(`States`), and where none is given that validates, the one that a permission makes (`Permits`). An id
belongs to one permission at most (`permissionId_injective`), so the order in which permissions are
added does not count (`findSome?_offer?_eq_some_iff`), and a session is told by its look-ups alone
(`Session.ext_statement?`): entries that do not validate leave no trace.
-/

namespace ConsoleAccess

theorem Session.ext_statement? {s s' : Session} (identity : s.identity = s'.identity)
    (same : ∀ id, s.statement? id = s'.statement? id) : s = s' := by
  obtain ⟨who, statements⟩ := s
  obtain ⟨who', statements'⟩ := s'
  have statements_eq : statements = statements' := Std.ExtTreeMap.ext_getElem? fun {id} => same id
  subst statements_eq
  exact congrArg (Session.mk · statements) identity

/-! ## Listed texts -/

inductive Lists : Json → List Text → Prop
  | one (t : Text) : Lists (.string t) [t]
  | many (ts : List Text) : Lists (.array (ts.map .string)) ts

theorem text?_eq_some_iff {v : Json} {t : Text} : v.text? = some t ↔ v = .string t := by
  cases v <;> simp [Json.text?]

theorem mapM_text?_eq_some_iff {items : List Json} {texts : List Text} :
    items.mapM Json.text? = some texts ↔ items = texts.map .string := by
  induction items generalizing texts with
  | nil => cases texts <;> simp
  | cons item items ih =>
      cases texts <;> simp [List.mapM_cons, Option.bind_eq_some_iff, text?_eq_some_iff, ih]

theorem oneOrMany?_eq_some_iff {raw : Json} {texts : List Text} :
    Statement.oneOrMany? raw = some texts ↔ Lists raw texts := by
  constructor
  · intro read
    cases raw with
    | string t =>
        cases read
        exact .one t
    | array items =>
        rw [mapM_text?_eq_some_iff.1 read]
        exact .many texts
    | null | bool | number | object => cases read
  · intro lists
    cases lists with
    | one t => rfl
    | many => exact mapM_text?_eq_some_iff.2 rfl

theorem toOption_eq_some_iff {ε α : Type} {x : Except ε α} {a : α} :
    x.toOption = some a ↔ x = .ok a := by
  cases x <;> simp [Except.toOption]

namespace Payload

/-! ## What a payload says of an id -/

def States (p : Payload) (id : Text) (s : Statement) : Prop :=
  ∃ raw, p.statements[id]? = some raw ∧ Statement.ofJson? raw = some s

/-- The payload has a permission of this id, and what it allows on its resource is a statement. -/
def Permits (p : Payload) (id : Text) (s : Statement) : Prop :=
  ∃ resource raw actions, id = permissionId resource ∧ p.permissions[resource]? = some raw ∧
    Lists raw actions ∧ Statement.make .allow actions [resource] = .ok s

theorem permissionId_injective : Function.Injective permissionId := by
  intro r r' same
  exact List.append_cancel_left same

theorem ofPermission?_eq_some_iff {resource : Text} {raw : Json} {s : Statement} :
    Statement.ofPermission? resource raw = some s ↔
      ∃ actions, Lists raw actions ∧ Statement.make .allow actions [resource] = .ok s := by
  simp only [Statement.ofPermission?, Option.bind_eq_some_iff, oneOrMany?_eq_some_iff,
    toOption_eq_some_iff]

theorem offer?_eq_some_iff {id : Text} {permission : Text × Json} {s : Statement} :
    offer? id permission = some s ↔ permissionId permission.1 = id ∧
      Statement.ofPermission? permission.1 permission.2 = some s := by
  unfold offer?
  split <;> simp [*]

theorem findSome?_offer?_eq_some_iff {p : Payload} {id : Text} {s : Statement} :
    p.permissions.toList.findSome? (offer? id) = some s ↔ p.Permits id s := by
  have entry (r : Text) (raw : Json) :
      (r, raw) ∈ p.permissions.toList ↔ p.permissions[r]? = some raw :=
    Std.ExtTreeMap.mem_toList_iff_getElem?_eq_some
  have permits_iff : p.Permits id s ↔ ∃ r raw, p.permissions[r]? = some raw ∧
      offer? id (r, raw) = some s := by
    simp only [Permits, offer?_eq_some_iff, ofPermission?_eq_some_iff]
    constructor
    · rintro ⟨r, raw, actions, rfl, found, lists, made⟩
      exact ⟨r, raw, found, rfl, actions, lists, made⟩
    · rintro ⟨r, raw, found, rfl, actions, lists, made⟩
      exact ⟨r, raw, actions, rfl, found, lists, made⟩
  rw [permits_iff]
  constructor
  · intro found
    obtain ⟨⟨r, raw⟩, member, offered⟩ := List.exists_of_findSome?_eq_some found
    exact ⟨r, raw, (entry r raw).1 member, offered⟩
  · rintro ⟨r, raw, found, offered⟩
    -- Some permission makes an offer for the id, and it can be no other than this one.
    have offers : (p.permissions.toList.findSome? (offer? id)).isSome := by
      rw [List.findSome?_isSome_iff]
      exact ⟨(r, raw), (entry r raw).2 found, by rw [offered]; rfl⟩
    obtain ⟨s', first⟩ := Option.isSome_iff_exists.1 offers
    obtain ⟨⟨r', raw'⟩, member, offered'⟩ := List.exists_of_findSome?_eq_some first
    have same_id := (offer?_eq_some_iff.1 offered').1.trans (offer?_eq_some_iff.1 offered).1.symm
    obtain rfl : r' = r := permissionId_injective same_id
    obtain rfl : raw' = raw := by
      have found' := (entry r' raw').1 member
      rw [found] at found'
      exact (Option.some.inj found').symm
    rw [first, ← offered', offered]

theorem statement?_session_eq_some_iff {p : Payload} {id : Text} {s : Statement} :
    p.session.statement? id = some s ↔
      p.States id s ∨ p.Permits id s ∧ ¬ ∃ s', p.States id s' := by
  have stated (s : Statement) : p.statements[id]?.bind Statement.ofJson? = some s ↔ p.States id s :=
    Option.bind_eq_some_iff
  rw [statement?_session, Option.or_eq_some_iff, findSome?_offer?_eq_some_iff, stated,
    Option.eq_none_iff_forall_ne_some]
  simp only [ne_eq, stated, not_exists]
  rw [and_comm]

theorem session_congr {p p' : Payload} (identity : p.identity = p'.identity)
    (states : ∀ id s, p.States id s ↔ p'.States id s)
    (permits : ∀ id s, p.Permits id s ↔ p'.Permits id s) : p.session = p'.session := by
  apply Session.ext_statement?
  · rw [session, session, identity]
  · intro id
    apply Option.ext
    intro s
    simp only [statement?_session_eq_some_iff, states, permits]

/-! ## Entries without effect -/

theorem getElem?_erase_eq_some_iff {β : Type} {m : Dictionary β} {key key' : Text} {b : β} :
    (m.erase key)[key']? = some b ↔ key ≠ key' ∧ m[key']? = some b := by
  rw [Std.ExtTreeMap.getElem?_erase]
  by_cases same : key = key' <;> simp [same]

theorem session_erase_statement {p : Payload} {id : Text} {raw : Json}
    (entry : p.statements[id]? = some raw) (invalid : Statement.ofJson? raw = none) :
    { p with statements := p.statements.erase id }.session = p.session := by
  refine session_congr rfl (fun id' s => ?_) fun _ _ => Iff.rfl
  simp only [States, getElem?_erase_eq_some_iff]
  refine exists_congr fun raw' => ⟨fun ⟨⟨_, found⟩, valid⟩ => ⟨found, valid⟩, ?_⟩
  rintro ⟨found, valid⟩
  refine ⟨⟨?_, found⟩, valid⟩
  rintro rfl
  rw [entry] at found
  cases found
  rw [invalid] at valid
  cases valid

theorem session_erase_permission {p : Payload} {resource : Text} {raw : Json}
    (entry : p.permissions[resource]? = some raw)
    (invalid : ∀ actions s, Lists raw actions → Statement.make .allow actions [resource] ≠ .ok s) :
    { p with permissions := p.permissions.erase resource }.session = p.session := by
  refine session_congr rfl (fun _ _ => Iff.rfl) fun id s => ?_
  simp only [Permits, getElem?_erase_eq_some_iff]
  constructor
  · rintro ⟨r, raw', actions, own, ⟨-, found⟩, lists, made⟩
    exact ⟨r, raw', actions, own, found, lists, made⟩
  · rintro ⟨r, raw', actions, own, found, lists, made⟩
    refine ⟨r, raw', actions, own, ⟨?_, found⟩, lists, made⟩
    rintro rfl
    rw [entry] at found
    cases found
    exact invalid actions s lists made

/-! ## The session -/

theorem mem_keys_session_iff {p : Payload} {id : Text} :
    id ∈ p.session.statements.keys ↔ ∃ s, p.States id s ∨ p.Permits id s := by
  rw [Std.ExtTreeMap.mem_keys, Std.ExtTreeMap.mem_iff_isSome_getElem?, Option.isSome_iff_exists]
  change (∃ s, p.session.statement? id = some s) ↔ _
  simp only [statement?_session_eq_some_iff]
  constructor
  · rintro ⟨s, states | ⟨permits, -⟩⟩
    · exact ⟨s, Or.inl states⟩
    · exact ⟨s, Or.inr permits⟩
  · rintro ⟨s, states | permits⟩
    · exact ⟨s, Or.inl states⟩
    · by_cases taken : ∃ s', p.States id s'
      · obtain ⟨s', states⟩ := taken
        exact ⟨s', Or.inl states⟩
      · exact ⟨s, Or.inr ⟨permits, taken⟩⟩

theorem session_exact (p : Payload) :
    (∀ id s, p.session.statement? id = some s ↔
      p.States id s ∨ p.Permits id s ∧ ¬ ∃ s', p.States id s') ∧
    (∀ id raw, p.statements[id]? = some raw → Statement.ofJson? raw = none →
      { p with statements := p.statements.erase id }.session = p.session) ∧
    (∀ resource raw, p.permissions[resource]? = some raw →
      (∀ actions s, Lists raw actions → Statement.make .allow actions [resource] ≠ .ok s) →
        { p with permissions := p.permissions.erase resource }.session = p.session) ∧
    Function.Injective permissionId ∧
    (∃ ids : List Text, ids.Nodup ∧ (∀ id, id ∈ ids ↔ ∃ s, p.States id s ∨ p.Permits id s) ∧
      ids.length = p.session.size) ∧
    p.session.identity = p.identity.getD [] := by
  refine ⟨fun _ _ => statement?_session_eq_some_iff, fun _ _ => session_erase_statement,
    fun _ _ => session_erase_permission, permissionId_injective, ?_, rfl⟩
  refine ⟨p.session.statements.keys, ?_, fun _ => mem_keys_session_iff, Std.ExtTreeMap.length_keys⟩
  exact Std.ExtTreeMap.nodup_keys

/-- Two statements stand under ids of permissions, and only the one that validates keeps its id. -/
theorem session_exact_at_own_ids :
    let get : ActionPattern := ⟨"s3:GetObject".toList, by decide, by decide⟩
    let bucket : ResourcePattern := ⟨"b/".toList, true, "b/*".toList, by decide⟩
    let other : ResourcePattern := ⟨"c/".toList, true, "c/*".toList, by decide⟩
    let refusal := Json.array [.string "deny".toList, .string "s3:GetObject".toList,
      .string "b/*".toList]
    let p : Payload :=
      { statements := .ofList [(permissionId "b/*".toList, refusal),
          (permissionId "c/*".toList, .string "deny".toList)] compare
        permissions := .ofList [("b/*".toList, .string "s3:GetObject".toList),
          ("c/*".toList, .array [.string "s3:GetObject".toList]), ("d/*".toList, .null)] compare }
    p.session.statement? (permissionId "b/*".toList) = some (.on .deny get bucket) ∧
      p.session.statement? (permissionId "c/*".toList) = some (.on .allow get other) ∧
      p.session.size = 2 ∧
      { p with statements := p.statements.erase (permissionId "c/*".toList) }.session = p.session ∧
      { p with permissions := p.permissions.erase "d/*".toList }.session = p.session := by
  intro get bucket other refusal p
  obtain ⟨looked_up, without_statement, without_permission, -⟩ := session_exact p
  have entry : p.statements[permissionId "c/*".toList]? = some (.string "deny".toList) := by rfl
  have invalid : Statement.ofJson? (.string "deny".toList) = none := by rfl
  have states : p.States (permissionId "b/*".toList) (.on .deny get bucket) :=
    ⟨refusal, by rfl, by rfl⟩
  have permits : p.Permits (permissionId "c/*".toList) (.on .allow get other) :=
    ⟨"c/*".toList, _, ["s3:GetObject".toList], rfl, by rfl, .many _, by rfl⟩
  have free : ¬ ∃ s, p.States (permissionId "c/*".toList) s := by
    rintro ⟨s, raw, found, valid⟩
    rw [entry] at found
    cases found
    rw [invalid] at valid
    cases valid
  refine ⟨(looked_up _ _).2 (Or.inl states), (looked_up _ _).2 (Or.inr ⟨permits, free⟩), ?_, ?_, ?_⟩
  · decide +kernel
  · exact without_statement _ _ entry invalid
  · exact without_permission _ .null (by rfl) fun actions s lists => nomatch lists

end Payload
end ConsoleAccess
