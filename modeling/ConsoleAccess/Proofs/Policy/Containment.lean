import ConsoleAccess.Proofs.Policy.Monotonicity

/-!
# Containment along paths

A pattern contains a request that is its literal or leads to it along whole path segments
(`ResourcePattern.contains_iff`, `IsAncestor`). Whatever reaches a resource, directly or below it,
also reaches each of its ancestors (`ResourcePattern.reaches_ancestor`): by its literal, by what it
starts with, or by lying below.

So a containment check that holds for a resource holds for each of its ancestors that no deny speaks
of itself.
-/

namespace ConsoleAccess

def IsAncestor (a r : Text) : Prop :=
  (∃ x, r = a ++ '/' :: x) ∨ a.getLast? = some '/' ∧ ∃ x, r = a ++ x

def Canonical (resource : Text) : Prop := resource ≠ [] ∧ normalizeResource resource = resource

instance (resource : Text) : Decidable (Canonical resource) :=
  inferInstanceAs (Decidable (resource ≠ [] ∧ normalizeResource resource = resource))

section
variable {a l r s : Text}

theorem isAncestor_append_iff :
    IsAncestor a (a ++ s) ↔ s.head? = some '/' ∨ a.getLast? = some '/' := by
  simp only [IsAncestor, List.append_cancel_left_eq, exists_eq', and_true]
  refine or_congr_left ?_
  cases s <;> simp

theorem IsAncestor.isPrefix (ancestor : IsAncestor a r) : a <+: r := by
  rcases ancestor with ⟨x, rfl⟩ | ⟨-, x, rfl⟩
  · exact List.prefix_append a _
  · exact List.prefix_append a x

theorem IsAncestor.of_prefix_right (ancestor : IsAncestor a r) (longer : r <+: s) :
    IsAncestor a s := by
  obtain ⟨y, rfl⟩ := longer
  rcases ancestor with ⟨x, rfl⟩ | ⟨slash, x, rfl⟩
  · exact Or.inl ⟨x ++ y, List.append_assoc a _ y⟩
  · exact Or.inr ⟨slash, x ++ y, List.append_assoc a x y⟩

theorem IsAncestor.between (ancestor : IsAncestor a r) (lower : a <+: l) (upper : l <+: r) :
    l = a ∨ IsAncestor a l := by
  obtain ⟨s, rfl⟩ := lower
  obtain ⟨t, rfl⟩ := upper
  rw [List.append_assoc, isAncestor_append_iff] at ancestor
  cases s with
  | nil => exact Or.inl (List.append_nil a)
  | cons c s => exact Or.inr (isAncestor_append_iff.2 ancestor)

end

namespace ResourcePattern

theorem contains_iff {p : ResourcePattern} {request : Text} :
    p.contains request = true ↔ normalizeResource request ≠ [] ∧
      (p.literal = normalizeResource request ∨
        IsAncestor (normalizeResource request) p.literal) := by
  rw [contains, Bool.and_eq_true, Bool.not_eq_true', List.isEmpty_eq_false_iff]
  refine and_congr_right fun _ => ?_
  cases split : (normalizeResource request).isPrefixOf? p.literal with
  | none =>
      have apart : ¬ normalizeResource request <+: p.literal := by
        rintro ⟨rest, literal⟩
        rw [List.isPrefixOf?_eq_some_iff_append_eq.2 literal] at split
        cases split
      simp only [Bool.false_eq_true, false_iff, not_or]
      constructor
      · intro same
        exact apart (same ▸ List.prefix_rfl)
      · intro below
        exact apart below.isPrefix
  | some rest =>
      rw [← List.append_eq_of_isPrefixOf?_eq_some split, isAncestor_append_iff]
      cases rest with
      | nil => simp
      | cons c rest => simp [or_comm]

variable {p : ResourcePattern} {a r : Text}

theorem reaches_ancestor_of_covers (named : normalizeResource a ≠ [])
    (ancestor : IsAncestor (normalizeResource a) (normalizeResource r))
    (covered : p.covers r = true) : p.covers a = true ∨ p.contains a = true := by
  cases kind : p.wildcard with
  | false =>
      have matched := (covers_iff.1 covered).2
      rw [kind, if_neg Bool.false_ne_true] at matched
      exact Or.inr (contains_iff.2 ⟨named, Or.inr (matched ▸ ancestor)⟩)
  | true =>
      rw [covers_iff_of_wildcard kind] at covered
      have higher := ancestor.of_prefix_right (List.prefix_append _ ['/'])
      -- The literal and the ancestor both start the resource, so one of them starts the other.
      rcases List.prefix_or_prefix_of_prefix covered.2 higher.isPrefix with short | long
      · left
        rw [covers_iff_of_wildcard kind]
        exact ⟨named, List.prefix_append_of_prefix short⟩
      · right
        rw [contains_iff]
        exact ⟨named, higher.between long covered.2⟩

theorem contains_ancestor (named : normalizeResource a ≠ [])
    (ancestor : IsAncestor (normalizeResource a) (normalizeResource r))
    (contained : p.contains r = true) : p.contains a = true := by
  obtain ⟨-, same | below⟩ := contains_iff.1 contained
  · exact contains_iff.2 ⟨named, Or.inr (same ▸ ancestor)⟩
  · exact contains_iff.2 ⟨named, Or.inr (ancestor.of_prefix_right below.isPrefix)⟩

theorem reaches_ancestor (named : normalizeResource a ≠ [])
    (ancestor : IsAncestor (normalizeResource a) (normalizeResource r))
    (reached : p.covers r = true ∨ p.contains r = true) :
    p.covers a = true ∨ p.contains a = true := by
  rcases reached with covered | contained
  · exact reaches_ancestor_of_covers named ancestor covered
  · exact Or.inr (contains_ancestor named ancestor contained)

end ResourcePattern

theorem ResourceSet.covers_ancestor {set : ResourceSet} {a r : Text}
    (named : normalizeResource a ≠ [])
    (ancestor : IsAncestor (normalizeResource a) (normalizeResource r))
    (reached : set.covers r true = true) : set.covers a true = true := by
  cases set with
  | all => simp [covers, named]
  | patterns members =>
      simp only [covers, List.any_eq_true, Bool.true_and, Bool.or_eq_true] at reached ⊢
      obtain ⟨p, member, reached⟩ := reached
      exact ⟨p, member, ResourcePattern.reaches_ancestor named ancestor reached⟩

theorem Speaks.ancestor {statements : List Statement} {effect : Effect} {a r scope : Text}
    (named : normalizeResource a ≠ [])
    (ancestor : IsAncestor (normalizeResource a) (normalizeResource r))
    (spoken : Speaks statements effect r scope true) : Speaks statements effect a scope true := by
  obtain ⟨s, held, kind, applies⟩ := spoken
  rw [Statement.appliesTo_iff] at applies
  refine ⟨s, held, kind, Statement.appliesTo_iff.2 ⟨applies.1, ?_⟩⟩
  exact ResourceSet.covers_ancestor named ancestor applies.2

theorem Query.Loosens.of_ancestor {visited : List Statement} {a r : Text} {scopes : List Text}
    {matchAll : Bool} (named : normalizeResource a ≠ [])
    (ancestor : IsAncestor (normalizeResource a) (normalizeResource r))
    (undenied : ∀ r' ∈ Text.present [a], ∀ c ∈ Text.present scopes,
      ¬ Speaks visited .deny r' c false) :
    Loosens visited visited { resources := [r], scopes, matchAll, containsResource := true }
      { resources := [a], scopes, matchAll, containsResource := true } where
  scopes := rfl
  matchAll := id
  denies r' asked c member denied := absurd denied (undenied r' asked c member)
  allows r' asked c _ allowed := by
    obtain ⟨raw, given, allowed⟩ := exists_speaks_present_iff.1 ⟨r', asked, allowed⟩
    rw [List.mem_singleton] at given
    subst given
    exact exists_speaks_present_iff.2
      ⟨a, List.mem_singleton_self a, allowed.ancestor named ancestor⟩

theorem Snapshot.grants_ancestor_iff {snapshot : Snapshot} {a r : Text} {scopes : List Text}
    {matchAll : Bool} (higher : Canonical a) (lower : Canonical r) (ancestor : IsAncestor a r)
    (granted : snapshot.grants
      { resources := [r], scopes, matchAll, containsResource := true } = true) :
    snapshot.grants { resources := [a], scopes, matchAll, containsResource := true } = true ↔
      ∀ d ∈ snapshot.statements, d.effect = .deny → ∀ c ∈ Text.present scopes,
        d.appliesTo a c false = false := by
  rw [← undenied_singleton_iff]
  constructor
  · exact undenied_of_grants
  · intro undenied
    rw [← higher.2, ← lower.2] at ancestor
    have named : normalizeResource a ≠ [] := by
      rw [higher.2]
      exact higher.1
    exact grants_of_loosens (.of_ancestor named ancestor undenied) granted

/-- Of two folders above a granted one, the upper is denied itself. -/
theorem Snapshot.grants_ancestor_iff_folders :
    let put : ActionPattern := ⟨"s3:Put*".toList, by decide, by decide⟩
    let drafts : ResourcePattern :=
      ⟨"bucket/photos/drafts/".toList, true, "bucket/photos/drafts/*".toList, by decide⟩
    let bucket : ResourcePattern := ⟨"bucket".toList, false, "bucket".toList, by decide⟩
    let session := ((Session.ofIdentity "alice".toList).insert "1".toList
      (.on .allow put drafts)).insert "2".toList (.on .deny put bucket)
    let folder := "bucket/photos/drafts/2024".toList
    let asking (resource : Text) : Query :=
      { resources := [resource], scopes := ["s3:PutObject".toList], containsResource := true }
    Canonical folder ∧ Canonical "bucket/photos/".toList ∧ Canonical "bucket".toList ∧
      IsAncestor "bucket/photos/".toList folder ∧ IsAncestor "bucket".toList folder ∧
      grants (some session) (asking folder) = true ∧
      grants (some session) (asking "bucket/photos/".toList) = true ∧
      grants (some session) (asking "bucket".toList) = false := by
  intro put drafts bucket session folder asking
  have lower : Canonical folder := by decide
  have photos : Canonical "bucket/photos/".toList := by decide
  have whole : Canonical "bucket".toList := by decide
  have inPhotos : IsAncestor "bucket/photos/".toList folder :=
    Or.inr ⟨by decide, "drafts/2024".toList, by decide⟩
  have inBucket : IsAncestor "bucket".toList folder :=
    Or.inl ⟨"photos/drafts/2024".toList, by decide⟩
  have granted : grants (some session) (asking folder) = true := by decide
  refine ⟨lower, photos, whole, inPhotos, inBucket, granted, ?_, ?_⟩
  · exact (grants_ancestor_iff photos lower inPhotos granted).2 (by decide)
  · rw [← Bool.not_eq_true, grants_ancestor_iff whole lower inBucket granted]
    decide

end ConsoleAccess
