import ConsoleAccess.Policy.Query
import ConsoleAccess.Proofs.Policy.Matching

/-!
# Decisions on queries

`Snapshot.grants_iff` opens a decision: it needs a session, a resource and a scope, no deny on any
pair of them, and allows on all scopes or on one. The allows can be put back into decisions on one
resource and one scope each (`Snapshot.allowed_iff_pair`), but the denies cannot: one of them
refuses the whole query.

`Query.answer` is the decision on statements visited in a given order.
-/

namespace ConsoleAccess

/-! ## Statements of a session -/

namespace Session

def Holds (session : Session) (s : Statement) : Prop := ∃ id, session.statement? id = some s

theorem mem_statements_iff {session : Session} {s : Statement} :
    s ∈ Snapshot.statements (some session) ↔ session.Holds s := by
  simp only [Snapshot.statements, List.mem_map, Prod.exists, exists_eq_right, Holds, statement?,
    Std.ExtTreeMap.mem_toList_iff_getElem?_eq_some]

@[simp] theorem statement?_ofIdentity (who id : Text) : (ofIdentity who).statement? id = none := by
  simp [ofIdentity, statement?]

theorem statement?_insert {session : Session} {id id' : Text} {s : Statement} :
    (session.insert id s).statement? id' = if id = id' then some s else session.statement? id' := by
  simp only [statement?, insert, Std.ExtTreeMap.getElem?_insert, Std.LawfulEqCmp.compare_eq_iff_eq]

theorem not_holds_ofIdentity {who : Text} {s : Statement} : ¬ (ofIdentity who).Holds s := by
  simp [Holds]

theorem holds_insert_iff {session : Session} {id : Text} {s t : Statement}
    (unused : session.statement? id = none) :
    (session.insert id s).Holds t ↔ t = s ∨ session.Holds t := by
  simp only [Holds, statement?_insert]
  constructor
  · rintro ⟨id', held⟩
    split at held
    · exact Or.inl (Option.some.inj held).symm
    · exact Or.inr ⟨id', held⟩
  · rintro (rfl | ⟨id', held⟩)
    · exact ⟨id, if_pos rfl⟩
    · refine ⟨id', ?_⟩
      rw [if_neg, held]
      rintro rfl
      rw [unused] at held
      cases held

theorem Holds.insert {session : Session} {id : Text} {s t : Statement}
    (unused : session.statement? id = none) (held : session.Holds t) :
    (session.insert id s).Holds t :=
  (holds_insert_iff unused).2 (Or.inr held)

theorem holds_of_holds_insert {session : Session} {id : Text} {s t : Statement}
    (unused : session.statement? id = none) (other : t.effect ≠ s.effect)
    (held : (session.insert id s).Holds t) : session.Holds t := by
  rcases (holds_insert_iff unused).1 held with same | held
  · exact absurd (congrArg Statement.effect same) other
  · exact held

theorem holds_ofIdentity_insert_iff {who id : Text} {s t : Statement} :
    ((ofIdentity who).insert id s).Holds t ↔ t = s := by
  rw [holds_insert_iff (statement?_ofIdentity who id), or_iff_left not_holds_ofIdentity]

end Session

/-! ## Statements that speak of a pair -/

def Speaks (statements : List Statement) (effect : Effect) (resource scope : Text) (below : Bool) :
    Prop :=
  ∃ s ∈ statements, s.effect = effect ∧ s.appliesTo resource scope below = true

theorem speaks_congr {statements statements' : List Statement} {effect : Effect}
    {resource resource' scope scope' : Text} {below : Bool}
    (values : ∀ s, s ∈ statements ↔ s ∈ statements')
    (sameResource : normalizeResource resource = normalizeResource resource')
    (sameScope : scope.lower = scope'.lower) :
    Speaks statements effect resource scope below ↔
      Speaks statements' effect resource' scope' below := by
  simp only [Speaks, values, Statement.appliesTo_congr _ below sameResource sameScope]

theorem speaks_trim {statements : List Statement} {effect : Effect} {resource scope : Text}
    {below : Bool} :
    Speaks statements effect resource.trim scope below ↔
      Speaks statements effect resource scope below :=
  speaks_congr (fun _ => Iff.rfl) (normalizeResource_trim resource) rfl

theorem Speaks.named {statements : List Statement} {effect : Effect} {resource scope : Text}
    {below : Bool} (h : Speaks statements effect resource scope below) :
    normalizeResource resource ≠ [] := by
  obtain ⟨s, -, -, applies⟩ := h
  exact Statement.named_of_appliesTo applies

theorem Speaks.signedIn {snapshot : Snapshot} {effect : Effect} {resource scope : Text}
    {below : Bool} (spoken : Speaks snapshot.statements effect resource scope below) :
    snapshot.isSome = true := by
  obtain ⟨s, held, -⟩ := spoken
  cases snapshot with
  | none => cases held
  | some session => rfl

theorem exists_speaks_present_iff {statements : List Statement} {effect : Effect}
    {resources : List Text} {scope : Text} {below : Bool} :
    (∃ r ∈ Text.present resources, Speaks statements effect r scope below) ↔
      ∃ r ∈ resources, Speaks statements effect r scope below := by
  constructor
  · rintro ⟨r, present, spoken⟩
    obtain ⟨-, raw, asked, rfl⟩ := Text.mem_present.1 present
    exact ⟨raw, asked, speaks_trim.1 spoken⟩
  · -- What a statement speaks of is not blank, so it is among the present ones.
    rintro ⟨raw, asked, spoken⟩
    exact ⟨raw.trim, Text.mem_present.2 ⟨trim_ne_nil_of_named spoken.named, raw, asked, rfl⟩,
      speaks_trim.2 spoken⟩

def spokenOf (statements : List Statement) (effect : Effect) (resources : List Text) (below : Bool)
    (scope : Text) : Bool :=
  (statements.filter fun s => s.effect == effect).any fun s =>
    resources.any fun r => s.appliesTo r scope below

theorem spokenOf_iff {statements : List Statement} {effect : Effect} {resources : List Text}
    {below : Bool} {scope : Text} :
    spokenOf statements effect resources below scope = true ↔
      ∃ r ∈ resources, Speaks statements effect r scope below := by
  simp only [spokenOf, List.any_filter, List.any_eq_true, Bool.and_eq_true, beq_iff_eq, Speaks]
  constructor
  · rintro ⟨s, held, kind, r, asked, applies⟩
    exact ⟨r, asked, s, held, kind, applies⟩
  · rintro ⟨r, asked, s, held, kind, applies⟩
    exact ⟨s, held, kind, r, asked, applies⟩

/-! ## Decisions -/

namespace Query

def Satisfied (q : Query) (holds : Text → Prop) : Prop :=
  if q.matchAll then ∀ c ∈ Text.present q.scopes, holds c else ∃ c ∈ Text.present q.scopes, holds c

theorem satisfied_congr {q : Query} {holds holds' : Text → Prop}
    (same : ∀ c ∈ Text.present q.scopes, holds c ↔ holds' c) :
    q.Satisfied holds ↔ q.Satisfied holds' := by
  unfold Satisfied
  split
  · exact forall₂_congr same
  · exact exists_congr fun c => and_congr_right (same c)

theorem satisfied_exists {q : Query} (asked : Text.present q.scopes ≠ []) {holds : Text → Prop}
    (enough : q.Satisfied holds) : ∃ c ∈ Text.present q.scopes, holds c := by
  unfold Satisfied at enough
  split at enough
  · obtain ⟨c, member⟩ := List.exists_mem_of_ne_nil _ asked
    exact ⟨c, member, enough c member⟩
  · exact enough

/-- The decision for a signed-in user, with the statements visited in the order given. -/
def answer (q : Query) (visited : List Statement) : Bool :=
  let resources := Text.present q.resources
  let scopes := Text.present q.scopes
  let granted := spokenOf visited .allow resources q.containsResource
  !resources.isEmpty && !scopes.isEmpty && !(scopes.any (spokenOf visited .deny resources false)) &&
    if q.matchAll then scopes.all granted else scopes.any granted

theorem answer_iff {q : Query} {visited : List Statement} :
    q.answer visited = true ↔
      Text.present q.resources ≠ [] ∧ Text.present q.scopes ≠ [] ∧
      (∀ r ∈ Text.present q.resources, ∀ c ∈ Text.present q.scopes,
        ¬ Speaks visited .deny r c false) ∧
      q.Satisfied fun c => ∃ r ∈ Text.present q.resources,
        Speaks visited .allow r c q.containsResource := by
  have undenied : (Text.present q.scopes).any
        (spokenOf visited .deny (Text.present q.resources) false) = false ↔
      ∀ r ∈ Text.present q.resources, ∀ c ∈ Text.present q.scopes,
        ¬ Speaks visited .deny r c false := by
    simp only [List.any_eq_false, spokenOf_iff, not_exists, not_and]
    exact ⟨fun h r hr c hc => h c hc r hr, fun h c hc r hr => h r hr c hc⟩
  unfold answer Satisfied
  simp only [Bool.and_eq_true, Bool.not_eq_true', undenied, List.isEmpty_eq_false_iff, and_assoc]
  cases q.matchAll <;> simp [spokenOf_iff]

end Query

theorem Snapshot.grants_eq_answer (snapshot : Snapshot) (q : Query) :
    snapshot.grants q = (snapshot.isSome && q.answer snapshot.statements) := by
  simp only [Snapshot.grants, Query.answer, Bool.and_assoc]
  rfl

theorem Snapshot.grants_iff {snapshot : Snapshot} {q : Query} :
    snapshot.grants q = true ↔
      snapshot.isSome = true ∧ Text.present q.resources ≠ [] ∧ Text.present q.scopes ≠ [] ∧
      (∀ r ∈ Text.present q.resources, ∀ c ∈ Text.present q.scopes,
        ¬ Speaks snapshot.statements .deny r c false) ∧
      q.Satisfied fun c => ∃ r ∈ Text.present q.resources,
        Speaks snapshot.statements .allow r c q.containsResource := by
  rw [grants_eq_answer, Bool.and_eq_true, Query.answer_iff]

theorem Snapshot.undenied_of_grants {snapshot : Snapshot} {q : Query}
    (granted : snapshot.grants q = true) :
    ∀ r ∈ Text.present q.resources, ∀ c ∈ Text.present q.scopes,
      ¬ Speaks snapshot.statements .deny r c false :=
  (grants_iff.1 granted).2.2.2.1

theorem Snapshot.refuses_of_speaks {snapshot : Snapshot} {q : Query} {r c : Text}
    (named : r ∈ Text.present q.resources) (asked : c ∈ Text.present q.scopes)
    (denied : Speaks snapshot.statements .deny r c false) : snapshot.grants q = false := by
  rw [← Bool.not_eq_true]
  intro granted
  exact undenied_of_grants granted r named c asked denied

theorem Snapshot.named_of_grants {snapshot : Snapshot} {resource : Text} {scopes : List Text}
    {matchAll below : Bool}
    (granted : snapshot.grants
      { resources := [resource], scopes, matchAll, containsResource := below } = true) :
    normalizeResource resource ≠ [] := by
  obtain ⟨-, -, asked, -, enough⟩ := grants_iff.1 granted
  obtain ⟨c, -, allowed⟩ := Query.satisfied_exists asked enough
  obtain ⟨r, given, spoken⟩ := exists_speaks_present_iff.1 allowed
  rw [List.mem_singleton] at given
  subst given
  exact spoken.named

/-! ## Single pairs -/

def Query.pair (q : Query) (resource scope : Text) : Query :=
  { resources := [resource], scopes := [scope], containsResource := q.containsResource }

theorem Snapshot.grants_pair_iff {snapshot : Snapshot} {resource scope : Text} {matchAll below : Bool}
    (named : resource.trim ≠ []) (asked : scope.trim ≠ []) :
    snapshot.grants
        { resources := [resource], scopes := [scope], matchAll, containsResource := below } = true ↔
      snapshot.isSome = true ∧ ¬ Speaks snapshot.statements .deny resource scope.trim false ∧
        Speaks snapshot.statements .allow resource scope.trim below := by
  simp only [grants_iff, Query.Satisfied, Text.present_singleton named, Text.present_singleton asked,
    List.mem_singleton, forall_eq, exists_eq_left, ite_self, speaks_trim, ne_eq, List.cons_ne_nil,
    not_false_eq_true, true_and]

theorem Snapshot.grants_of_lone_allow {who id resource scope : Text} {s : Statement}
    {matchAll below : Bool} (kind : s.effect = .allow) (asked : scope.trim ≠ [])
    (applies : s.appliesTo resource scope.trim false = true) :
    Snapshot.grants (some ((Session.ofIdentity who).insert id s))
      { resources := [resource], scopes := [scope], matchAll, containsResource := below } = true := by
  have named := trim_ne_nil_of_named (Statement.named_of_appliesTo applies)
  rw [grants_pair_iff named asked]
  refine ⟨rfl, ?_, s, ?_, kind, Statement.appliesTo_of_appliesTo_directly below applies⟩
  · rintro ⟨d, held, denies, -⟩
    rw [Session.mem_statements_iff, Session.holds_ofIdentity_insert_iff] at held
    rw [held, kind] at denies
    cases denies
  · rw [Session.mem_statements_iff, Session.holds_ofIdentity_insert_iff]

theorem Snapshot.refuses_of_deny {session : Session} {resource scope : Text} {s : Statement}
    {matchAll below : Bool} (held : session.Holds s) (kind : s.effect = .deny)
    (asked : scope.trim ≠ []) (applies : s.appliesTo resource scope.trim false = true) :
    Snapshot.grants (some session)
      { resources := [resource], scopes := [scope], matchAll, containsResource := below } =
        false := by
  have named := trim_ne_nil_of_named (Statement.named_of_appliesTo applies)
  rw [← Bool.not_eq_true, grants_pair_iff named asked]
  rintro ⟨-, undenied, -⟩
  exact undenied ⟨s, Session.mem_statements_iff.2 held, kind, applies⟩

theorem Snapshot.allowed_iff_pair {snapshot : Snapshot} {q : Query}
    (signedIn : snapshot.isSome = true)
    (undenied : ∀ r ∈ Text.present q.resources, ∀ c ∈ Text.present q.scopes,
      ¬ Speaks snapshot.statements .deny r c false)
    {c : Text} (asked : c ∈ Text.present q.scopes) :
    (∃ r ∈ Text.present q.resources, Speaks snapshot.statements .allow r c q.containsResource) ↔
      ∃ r ∈ Text.present q.resources, snapshot.grants (q.pair r c) = true := by
  refine exists_congr fun r => and_congr_right fun named => ?_
  rw [Query.pair, grants_pair_iff (Text.trim_ne_nil_of_mem_present named)
    (Text.trim_ne_nil_of_mem_present asked), Text.trim_of_mem_present asked]
  exact ⟨fun allowed => ⟨signedIn, undenied r named c asked, allowed⟩, fun h => h.2.2⟩

theorem undenied_iff {statements : List Statement} {resources scopes : List Text} :
    (∀ r ∈ resources, ∀ c ∈ scopes, ¬ Speaks statements .deny r c false) ↔
      ∀ d ∈ statements, d.effect = .deny → ∀ r ∈ resources, ∀ c ∈ scopes,
        d.appliesTo r c false = false := by
  constructor
  · intro undenied d held kind r named c asked
    exact (Bool.not_eq_true _).mp fun applies =>
      undenied r named c asked ⟨d, held, kind, applies⟩
  · rintro silent r named c asked ⟨d, held, kind, applies⟩
    rw [silent d held kind r named c asked] at applies
    exact Bool.false_ne_true applies

theorem undenied_present_iff {statements : List Statement} {resources scopes : List Text} :
    (∀ r ∈ Text.present resources, ∀ c ∈ scopes, ¬ Speaks statements .deny r c false) ↔
      ∀ d ∈ statements, d.effect = .deny → ∀ r ∈ resources, ∀ c ∈ scopes,
        d.appliesTo r c false = false := by
  rw [← undenied_iff]
  constructor
  · intro undenied r asked c scope denied
    obtain ⟨r', present, denied⟩ := exists_speaks_present_iff.2 ⟨r, asked, denied⟩
    exact undenied r' present c scope denied
  · intro undenied r present c scope denied
    obtain ⟨r', asked, denied⟩ := exists_speaks_present_iff.1 ⟨r, present, denied⟩
    exact undenied r' asked c scope denied

theorem undenied_singleton_iff {statements : List Statement} {resource : Text}
    {scopes : List Text} :
    (∀ r ∈ Text.present [resource], ∀ c ∈ scopes, ¬ Speaks statements .deny r c false) ↔
      ∀ d ∈ statements, d.effect = .deny → ∀ c ∈ scopes, d.appliesTo resource c false = false := by
  rw [undenied_present_iff]
  simp only [List.mem_singleton, forall_eq]

theorem Snapshot.grants_any_iff {snapshot : Snapshot} {q : Query} (any : q.matchAll = false) :
    snapshot.grants q = true ↔
      (∀ d ∈ snapshot.statements, d.effect = .deny → ∀ r ∈ q.resources,
        ∀ c ∈ Text.present q.scopes, d.appliesTo r c false = false) ∧
      ∃ c ∈ Text.present q.scopes, ∃ r ∈ q.resources,
        Speaks snapshot.statements .allow r c q.containsResource := by
  rw [grants_iff, undenied_present_iff, Query.Satisfied, any, if_neg Bool.false_ne_true]
  simp only [exists_speaks_present_iff]
  constructor
  · rintro ⟨-, -, -, silent, allowed⟩
    exact ⟨silent, allowed⟩
  · rintro ⟨silent, c, asked, allowed⟩
    obtain ⟨r, present, spoken⟩ := exists_speaks_present_iff.2 allowed
    exact ⟨spoken.signedIn, List.ne_nil_of_mem present, List.ne_nil_of_mem asked, silent, c, asked,
      allowed⟩

theorem Snapshot.grants_iff_pairs (snapshot : Snapshot) (q : Query) :
    snapshot.grants q = true ↔
      snapshot.isSome = true ∧ Text.present q.resources ≠ [] ∧ Text.present q.scopes ≠ [] ∧
      (∀ d ∈ snapshot.statements, d.effect = .deny →
        ∀ r ∈ Text.present q.resources, ∀ c ∈ Text.present q.scopes,
          d.appliesTo r c false = false) ∧
      if q.matchAll then
        ∀ c ∈ Text.present q.scopes, ∃ r ∈ Text.present q.resources,
          snapshot.grants (q.pair r c) = true
      else
        ∃ c ∈ Text.present q.scopes, ∃ r ∈ Text.present q.resources,
          snapshot.grants (q.pair r c) = true := by
  rw [grants_iff, ← undenied_iff]
  refine and_congr_right fun signedIn => and_congr_right fun _ => and_congr_right fun _ =>
    and_congr_right fun undenied => ?_
  exact Query.satisfied_congr fun c asked => allowed_iff_pair signedIn undenied asked

end ConsoleAccess
