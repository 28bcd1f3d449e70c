import ConsoleAccess.Proofs.Policy.Decision

/-!
# Statements and the requests they are written for

A statement on one resource and one action should apply to that resource and that action. The
granted resource is normalised twice, once for the set and once for the pattern, and the requested
one only once, so they meet only where the second normalisation changes nothing that matters
(`KeepsName`).

Otherwise the statement is refused for want of resources, or it is accepted and passes its own
request over: a deny then stops nothing (`Snapshot.grants_despite_deny`).
-/

namespace ConsoleAccess

/-- Normalising the name a second time leaves it as it is, or leaves a wildcard that takes it in. -/
def KeepsName (resource : Text) : Prop :=
  normalizeResource (normalizeResource resource) = normalizeResource resource ∨
    ∃ stem, stem ≠ [] ∧ normalizeResource (normalizeResource resource) = stem ++ ['*'] ∧
      stem <+: normalizeResource resource

/-- The action is written without blanks around it, or is a wildcard that takes the blanks in. -/
def KeepsScope (action : Text) : Prop :=
  action.trim = action ∨ ∃ stem, action.trim = stem ++ ['*'] ∧ stem.lower <+: action.lower

/-! ## The granted resource -/

theorem ResourcePattern.covers_own_iff {resource : Text} {p : ResourcePattern}
    (named : normalizeResource resource ≠ [])
    (parsed : parse? (normalizeResource resource) = some p) :
    p.covers resource = true ↔ KeepsName resource := by
  have shorter := length_normalizeResource_le (normalizeResource resource)
  obtain ⟨written, star, plain⟩ := splitResource?_eq_some (parse?_eq_some_iff.1 parsed)
  rw [covers_iff, and_iff_right named, KeepsName]
  cases kind : p.wildcard with
  | false =>
      rw [kind, if_neg Bool.false_ne_true, List.append_nil] at written
      rw [if_neg Bool.false_ne_true, written]
      refine (or_iff_left ?_).symm
      rintro ⟨stem, -, split, -⟩
      rw [Text.dropEnd?_eq_some_iff.2 split] at plain
      cases plain kind
  | true =>
      rw [kind, if_pos rfl] at written
      rw [if_pos rfl, written]
      have stem : p.literal ≠ [] := by
        intro empty
        rw [empty] at written
        exact star written
      constructor
      · rintro (leads | container)
        · exact Or.inr ⟨p.literal, stem, rfl, leads⟩
        · -- The literal is shorter than the name, so it is not the name and a slash.
          rw [written, container] at shorter
          simp only [List.length_append, List.length_singleton] at shorter
          omega
      · rintro (same | ⟨stem, -, split, leads⟩)
        · exact Or.inl ⟨['*'], same⟩
        · rw [List.append_left_inj] at split
          exact Or.inl (split ▸ leads)

theorem ResourceSet.parse_singleton_star {resource : Text}
    (star : normalizeResource resource = ['*']) : parse [resource] = .ok .all := by
  simp [parse, star]

theorem ResourceSet.parse_singleton {resource : Text} (star : normalizeResource resource ≠ ['*']) :
    parse [resource] = match ResourcePattern.parse? (normalizeResource resource) with
      | some p => .ok (.patterns (.ofList [p] compare))
      | none => .error .noResources := by
  cases parsed : ResourcePattern.parse? (normalizeResource resource) <;>
    simp [parse, parsed, Ne.symm star]

theorem ResourceSet.parse_singleton_ok_iff {resource : Text} :
    (∃ set, parse [resource] = .ok set) ↔ normalizeResource resource = ['*'] ∨
      ¬ (normalizeResource (normalizeResource resource) = [] ∨
        normalizeResource (normalizeResource resource) = ['*']) := by
  by_cases star : normalizeResource resource = ['*']
  · simp [parse_singleton_star star, star]
  · rw [parse_singleton star, or_iff_right star, ← ResourcePattern.parse?_eq_none_iff]
    cases ResourcePattern.parse? (normalizeResource resource) <;> simp

theorem KeepsName.parsed {resource : Text} (kept : KeepsName resource)
    (named : normalizeResource resource ≠ []) (star : normalizeResource resource ≠ ['*']) :
    ResourcePattern.parse? (normalizeResource resource) ≠ none := by
  rw [Ne, ResourcePattern.parse?_eq_none_iff]
  rcases kept with same | ⟨stem, nonempty, split, -⟩
  · rw [same]
    exact not_or.2 ⟨named, star⟩
  · rw [split]
    rintro (empty | lone)
    · exact List.append_ne_nil_of_right_ne_nil _ (List.cons_ne_nil _ _) empty
    · exact nonempty (List.append_left_eq_self.1 lone)

theorem ResourceSet.covers_own_iff {resource : Text} (named : normalizeResource resource ≠ []) :
    (∃ set, parse [resource] = .ok set ∧ set.covers resource false = true) ↔
      KeepsName resource := by
  by_cases star : normalizeResource resource = ['*']
  · have kept : KeepsName resource := by
      rw [KeepsName, star]
      exact Or.inl (by decide)
    simp [parse_singleton_star star, covers, star, kept]
  · rw [parse_singleton star]
    cases parsed : ResourcePattern.parse? (normalizeResource resource) with
    | some p => simp [covers, ResourcePattern.covers_own_iff named parsed]
    | none =>
        simp only [reduceCtorEq, false_and, exists_false, false_iff]
        exact fun kept => kept.parsed named star parsed

/-! ## The statement -/

theorem ActionPattern.covers_own_iff {action : Text} (nonblank : action.trim ≠ []) :
    ActionPattern.covers ⟨action.trim, action.trim_isTrimmed, nonblank⟩ action = true ↔
      KeepsScope action := by
  rw [covers_iff]
  refine or_congr_left ⟨fun same => ?_, fun same => congrArg Text.lower same⟩
  refine action.trim_sublist.eq_of_length ?_
  rw [← Text.length_lower, same, Text.length_lower]

namespace Statement

theorem make_singleton_iff {effect : Effect} {action resource : Text} (nonblank : action.trim ≠ [])
    {s : Statement} :
    make effect [action] [resource] = .ok s ↔ ∃ set, ResourceSet.parse [resource] = .ok set ∧
      s = { effect, resources := set
            actions := .ofList [⟨action.trim, action.trim_isTrimmed, nonblank⟩] compare } := by
  have actions : [action].filterMap ActionPattern.parse? =
      [⟨action.trim, action.trim_isTrimmed, nonblank⟩] := by
    simp [ActionPattern.parse?_of_trim_ne_nil nonblank]
  unfold make ofParts
  rw [actions]
  cases ResourceSet.parse [resource] with
  | error e => simp
  | ok set => simp [eq_comm]

theorem make_singleton_ok_iff {effect : Effect} {action resource : Text}
    (nonblank : action.trim ≠ []) :
    (∃ s, make effect [action] [resource] = .ok s) ↔
      ∃ set, ResourceSet.parse [resource] = .ok set := by
  simp only [make_singleton_iff nonblank]
  exact ⟨fun ⟨_, set, parsed, _⟩ => ⟨set, parsed⟩, fun ⟨set, parsed⟩ => ⟨_, set, parsed, rfl⟩⟩

theorem appliesTo_own_iff {action resource : Text} (named : normalizeResource resource ≠ [])
    (nonblank : action.trim ≠ []) (effect : Effect) (scope : Text) :
    (∃ s, make effect [action] [resource] = .ok s ∧ s.appliesTo resource scope false = true) ↔
      KeepsName resource ∧
        ActionPattern.covers ⟨action.trim, action.trim_isTrimmed, nonblank⟩ scope = true := by
  rw [← ResourceSet.covers_own_iff named]
  simp only [make_singleton_iff nonblank, appliesTo_iff, coversScope_iff]
  constructor
  · rintro ⟨_, ⟨set, parsed, rfl⟩, scopes, covered⟩
    exact ⟨⟨set, parsed, covered⟩, by simpa using scopes⟩
  · rintro ⟨⟨set, parsed, covered⟩, scopes⟩
    exact ⟨_, ⟨set, parsed, rfl⟩, by simpa using scopes, covered⟩

end Statement

/-! ## The request -/

/-- A statement on one action and one resource does what it was written for: it is accepted and
applies to them, an allow is enough to grant them, and a deny keeps any session from granting them.
-/
structure ActsOnItself (effect : Effect) (resource action scope : Text) (s : Statement) : Prop where
  made : Statement.make effect [action] [resource] = .ok s
  applies : s.appliesTo resource scope false = true
  granted : effect = .allow → ∀ who id matchAll below,
    Snapshot.grants (some ((Session.ofIdentity who).insert id s))
      { resources := [resource], scopes := [action], matchAll, containsResource := below } = true
  refused : effect = .deny → ∀ session : Session, session.Holds s → ∀ matchAll below,
    Snapshot.grants (some session)
      { resources := [resource], scopes := [action], matchAll, containsResource := below } = false

section
variable {effect : Effect} {resource action : Text}

theorem exists_actsOnItself_iff {scope : Text} (named : normalizeResource resource ≠ [])
    (nonblank : action.trim ≠ []) :
    (∃ s, ActsOnItself effect resource action scope s) ↔ KeepsName resource ∧
      ActionPattern.covers ⟨action.trim, action.trim_isTrimmed, nonblank⟩ scope = true := by
  rw [← Statement.appliesTo_own_iff named nonblank effect]
  constructor
  · rintro ⟨s, acts⟩
    exact ⟨s, acts.made, acts.applies⟩
  · rintro ⟨s, made, applies⟩
    have kept := ((Statement.appliesTo_own_iff named nonblank _ _).1 ⟨s, made, applies⟩).1
    have kind := Statement.effect_of_make made
    -- A query trims its scopes, so what decides it is whether the trimmed action is covered.
    have trimmed : s.appliesTo resource action.trim false = true := by
      obtain ⟨s', made', applies'⟩ :=
        (Statement.appliesTo_own_iff named nonblank effect action.trim).2
          ⟨kept, ActionPattern.covers_iff.2 (Or.inl rfl)⟩
      rw [made, Except.ok.injEq] at made'
      rwa [made']
    refine ⟨s, made, applies, fun allows who id matchAll below => ?_,
      fun denies session held matchAll below => ?_⟩
    · exact Snapshot.grants_of_lone_allow (kind.trans allows) nonblank trimmed
    · exact Snapshot.refuses_of_deny held (kind.trans denies) nonblank trimmed

/-- The three conditions: under which the statement acts on its request as a query puts it, on the
request as it is written, and is accepted at all. -/
theorem actsOnItself_iff (named : normalizeResource resource ≠ []) (nonblank : action.trim ≠ [])
    (effect : Effect) :
    ((∃ s, ActsOnItself effect resource action action.trim s) ↔ KeepsName resource) ∧
      ((∃ s, ActsOnItself effect resource action action s) ↔
        KeepsName resource ∧ KeepsScope action) ∧
      ((∃ s, Statement.make effect [action] [resource] = .ok s) ↔
        normalizeResource resource = ['*'] ∨
          ¬ (normalizeResource (normalizeResource resource) = [] ∨
            normalizeResource (normalizeResource resource) = ['*'])) := by
  refine ⟨?_, ?_, ?_⟩
  · rw [exists_actsOnItself_iff named nonblank]
    exact and_iff_left (ActionPattern.covers_iff.2 (Or.inl rfl))
  · rw [exists_actsOnItself_iff named nonblank, ActionPattern.covers_own_iff nonblank]
  · rw [Statement.make_singleton_ok_iff nonblank, ResourceSet.parse_singleton_ok_iff]

theorem actsOnItself_iff_wildcard :
    let resource := "arn:aws:s3:::arn:aws:s3:::a*".toList
    let action := "s3:Get*".toList
    normalizeResource resource ≠ [] ∧ Text.trim action ≠ [] ∧
      ∃ s, ActsOnItself .deny resource action action s := by
  intro resource action
  have named : normalizeResource resource ≠ [] := by decide
  have nonblank : Text.trim action ≠ [] := by decide
  have kept : KeepsName resource := Or.inr ⟨['a'], by decide, by decide, by decide⟩
  exact ⟨named, nonblank, (actsOnItself_iff named nonblank .deny).2.1.2 ⟨kept, Or.inl (by decide)⟩⟩

theorem Snapshot.grants_despite_deny {s : Statement} (named : normalizeResource resource ≠ [])
    (nonblank : action.trim ≠ []) (made : Statement.make .deny [action] [resource] = .ok s)
    (lost : ¬ KeepsName resource) :
    s.appliesTo resource action.trim false = false ∧
      ∃ session : Session, session.Holds s ∧
        Snapshot.grants (some session) { resources := [resource], scopes := [action] } = true := by
  have silent : ¬ s.appliesTo resource action.trim false = true := fun applies =>
    lost ((Statement.appliesTo_own_iff named nonblank _ _).1 ⟨s, made, applies⟩).1
  let all := Statement.everywhere .allow ⟨['*'], by decide, by decide⟩
  let session := ((Session.ofIdentity []).insert ['d'] s).insert ['a'] all
  have unused : ((Session.ofIdentity []).insert ['d'] s).statement? ['a'] = none := by
    rw [Session.statement?_insert, if_neg (by decide), Session.statement?_ofIdentity]
  have held (t : Statement) : session.Holds t ↔ t = all ∨ t = s := by
    rw [Session.holds_insert_iff unused, Session.holds_ofIdentity_insert_iff]
  refine ⟨Bool.eq_false_iff.2 silent, session, (held s).2 (Or.inr rfl), ?_⟩
  rw [grants_pair_iff (trim_ne_nil_of_named named) nonblank]
  refine ⟨rfl, ?_, all, Session.mem_statements_iff.2 ((held all).2 (Or.inl rfl)), rfl, ?_⟩
  · rintro ⟨d, member, denies, applies⟩
    rcases (held d).1 (Session.mem_statements_iff.1 member) with rfl | rfl
    · cases denies
    · exact silent applies
  · rw [Statement.appliesTo_everywhere_iff]
    exact ⟨ActionPattern.covers_iff.2 (Or.inr ⟨[], rfl, List.nil_prefix⟩), named⟩

end

theorem deny_misses_doubled_prefix :
    let resource := "arn:aws:s3:::arn:aws:s3:::b".toList
    let action := "s3:GetObject".toList
    normalizeResource resource ≠ [] ∧ Text.trim action ≠ [] ∧
      ∃ s, Statement.make .deny [action] [resource] = .ok s ∧
        s.appliesTo resource action false = false ∧
        ∃ session : Session, session.Holds s ∧
          Snapshot.grants (some session) { resources := [resource], scopes := [action] } = true := by
  intro resource action
  have named : normalizeResource resource ≠ [] := by decide
  have nonblank : Text.trim action ≠ [] := by decide
  have once : normalizeResource resource = "arn:aws:s3:::b".toList := by decide
  have again : normalizeResource "arn:aws:s3:::b".toList = ['b'] := by decide
  have lost : ¬ KeepsName resource := by
    rw [KeepsName, once, again]
    rintro (same | ⟨stem, nonempty, split, -⟩)
    · exact absurd same (by decide)
    · have last := congrArg List.getLast? split
      simp at last
  obtain ⟨s, made⟩ : ∃ s, Statement.make .deny [action] [resource] = .ok s := by
    rw [Statement.make_singleton_ok_iff nonblank, ResourceSet.parse_singleton_ok_iff, once, again]
    exact Or.inr (by decide)
  obtain ⟨silent, session, held, granted⟩ :=
    Snapshot.grants_despite_deny named nonblank made lost
  exact ⟨named, nonblank, s, made, silent, session, held, granted⟩

end ConsoleAccess
