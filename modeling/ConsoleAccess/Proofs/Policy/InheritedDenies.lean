import ConsoleAccess.Proofs.Policy.WildcardGrants

/-!
# Denies below a resource

A wildcard that covers a resource covers all that goes on from it after a slash, and only such a one
does (`ResourcePattern.covers_iff_below`): its literal starts the resource or the resource and a
slash, and so does everything below. The names of resources below are not cut short by trimming or
by dropping the prefix (`normalizeResource_below`), so a deny on a resource and what lies in it refuses
every query that asks for something there (`Snapshot.refuses_below`).
-/

namespace ConsoleAccess

/-! ## Names below a resource -/

section
variable {r x : Text}

theorem not_arn_prefix_below (unprefixed : ¬ resourceArn <+: r) :
    ¬ resourceArn <+: r ++ '/' :: x := by
  intro starts
  rcases List.prefix_or_prefix_of_prefix starts (List.prefix_append r _) with whole | ⟨rest, split⟩
  · exact unprefixed whole
  · rw [← split, List.prefix_append_right_inj] at starts
    cases rest with
    | nil =>
        rw [List.append_nil] at split
        exact unprefixed (split ▸ List.prefix_rfl)
    | cons d rest =>
        -- The prefix that names drop has no slash.
        have slash : '/' ∈ resourceArn := by
          rw [← split, ← (List.cons_prefix_cons.1 starts).1]
          simp
        exact absurd slash (by decide)

theorem normalizeResource_below (canonical : Canonical r) :
    normalizeResource (r ++ '/' :: x) = r ++ '/' :: x.trimEnd := by
  obtain ⟨trimmed, unprefixed⟩ := normalizeResource_eq_self_iff.1 canonical.2
  have trim : Text.trim (r ++ '/' :: x) = r ++ '/' :: x.trimEnd :=
    Text.trim_append_cons trimmed.1 (by decide)
  rw [← normalizeResource_trim, trim, normalizeResource_eq_self_iff]
  exact ⟨trim ▸ Text.trim_isTrimmed _, not_arn_prefix_below unprefixed⟩

theorem normalizeResource_arn_below :
    normalizeResource (resourceArn ++ (r ++ '/' :: x)) = r ++ '/' :: x.trimEnd := by
  have starts : Text.StartsVisible (resourceArn ++ r) := by
    have head : (resourceArn ++ r).head? = some 'a' := rfl
    rw [Text.StartsVisible, head]
    rintro c ⟨⟩
    decide
  unfold normalizeResource
  rw [← List.append_assoc, Text.trim_append_cons starts (by decide), List.append_assoc,
    List.isPrefixOf?_eq_some_iff_append_eq.2 rfl, Option.getD_some]

theorem ResourcePattern.covers_iff_below {p : ResourcePattern} (star : p.wildcard = true)
    (canonical : Canonical r) :
    p.covers r = true ↔ ∀ x : Text, p.covers (r ++ '/' :: x) = true := by
  simp only [covers_iff_of_wildcard star, normalizeResource_below canonical, canonical.2]
  constructor
  · rintro ⟨named, starts⟩ x
    refine ⟨List.append_ne_nil_of_left_ne_nil named _, starts.trans ?_⟩
    exact ⟨x.trimEnd ++ ['/'], by simp⟩
  · intro below
    have folder := (below []).2
    have inside := (below ['a']).2
    refine ⟨canonical.1, ?_⟩
    rcases List.prefix_concat_iff.1 folder with double | starts
    · -- A literal that goes on with two slashes covers no other name in the folder.
      rw [double, List.append_assoc, List.append_assoc, List.prefix_append_right_inj] at inside
      exact absurd inside (by decide)
    · exact starts

end

/-! ## Denies -/

def Statement.TakesIn (s : Statement) (resource : Text) : Prop :=
  s.resources = .all ∨ ∃ p ∈ s.wildcards, p.covers resource = true

theorem Statement.TakesIn.covers_below {s : Statement} {r raw x : Text} (taken : s.TakesIn r)
    (canonical : Canonical r) (name : normalizeResource raw = normalizeResource (r ++ '/' :: x)) :
    s.resources.covers raw false = true := by
  rw [s.resources.covers_congr false name]
  rcases taken with all | ⟨p, member, covered⟩
  · simp [all, ResourceSet.covers, normalizeResource_below canonical]
  · obtain ⟨members, set, member, star⟩ := mem_wildcards_iff.1 member
    simp only [set, ResourceSet.covers, List.any_eq_true, Bool.false_and, Bool.or_false]
    exact ⟨p, Std.ExtTreeSet.mem_toList.2 member,
      (ResourcePattern.covers_iff_below star canonical).1 covered x⟩

namespace Snapshot

theorem refuses_below {snapshot : Snapshot} {d : Statement} {r c x : Text} {q : Query}
    (canonical : Canonical r) (written : c ≠ [] ∧ c.IsTrimmed) (held : d ∈ snapshot.statements)
    (denies : d.effect = .deny) (scope : d.coversScope c = true) (taken : d.TakesIn r)
    (named : r ++ '/' :: x ∈ q.resources ∨ resourceArn ++ (r ++ '/' :: x) ∈ q.resources)
    (asked : c ∈ q.scopes) : snapshot.grants q = false := by
  obtain ⟨raw, named, name⟩ : ∃ raw ∈ q.resources,
      normalizeResource raw = normalizeResource (r ++ '/' :: x) := by
    rcases named with plain | arn
    · exact ⟨_, plain, rfl⟩
    · exact ⟨_, arn, normalizeResource_arn_below.trans (normalizeResource_below canonical).symm⟩
  have denied : Speaks snapshot.statements .deny raw c false :=
    ⟨d, held, denies, Statement.appliesTo_iff.2 ⟨scope, taken.covers_below canonical name⟩⟩
  obtain ⟨raw', present, denied⟩ := exists_speaks_present_iff.2 ⟨raw, named, denied⟩
  have asked : c ∈ Text.present q.scopes :=
    Text.mem_present.2 ⟨written.1, c, asked, Text.trim_eq_self_iff.2 written.2⟩
  exact refuses_of_speaks present asked denied

/-- A deny on a folder, met through a file in it that is asked for among others under its full
name. -/
theorem refuses_below_folder :
    let all : ActionPattern := ⟨"*".toList, by decide, by decide⟩
    let delete : ActionPattern := ⟨"s3:Delete*".toList, by decide, by decide⟩
    let locked : ResourcePattern := ⟨"b/locked/".toList, true, "b/locked/*".toList, by decide⟩
    let session := ((Session.ofIdentity "alice".toList).insert "1".toList
      (.everywhere .allow all)).insert "2".toList (.on .deny delete locked)
    let r := "b/locked".toList
    let c := "s3:DeleteObject".toList
    let x := "é\t".toList
    let q : Query :=
      { resources := ["b/open".toList, resourceArn ++ (r ++ '/' :: x)]
        scopes := ["s3:GetObject".toList, c], containsResource := true }
    Canonical r ∧ (c ≠ [] ∧ Text.IsTrimmed c) ∧
      Statement.on .deny delete locked ∈ statements (some session) ∧
      (Statement.on .deny delete locked).coversScope c = true ∧
      (Statement.on .deny delete locked).TakesIn r ∧
      resourceArn ++ (r ++ '/' :: x) ∈ q.resources ∧ c ∈ q.scopes ∧
      grants (some session) q = false ∧
      grants (some session) { q with resources := ["b/open".toList] } = true := by
  intro all delete locked session r c x q
  have canonical : Canonical r := by decide
  have written : c ≠ [] ∧ Text.IsTrimmed c := by decide
  have held : Statement.on .deny delete locked ∈ statements (some session) := by decide
  have scope : (Statement.on .deny delete locked).coversScope c = true := by decide
  have taken : (Statement.on .deny delete locked).TakesIn r :=
    Or.inr ⟨locked, by decide, by decide⟩
  have named : resourceArn ++ (r ++ '/' :: x) ∈ q.resources := by decide
  have asked : c ∈ q.scopes := by decide
  exact ⟨canonical, written, held, scope, taken, named, asked,
    refuses_below canonical written held rfl scope taken (Or.inr named) asked, by decide⟩

end Snapshot
end ConsoleAccess
