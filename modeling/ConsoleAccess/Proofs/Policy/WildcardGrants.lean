import ConsoleAccess.Policy.Grants
import ConsoleAccess.Proofs.Policy.Containment

/-!
# Appending wildcard grants

The wildcard grants of a path are the texts of allowed wildcards that cover it or lie below it
(`Snapshot.mem_wildcardGrants_iff`). Asked for along with the path they are resources like any other,
so denies count against them: a query that is granted without them stays granted exactly if no deny
on its scopes has a wildcard that takes in one of theirs (`Snapshot.TakesBack`). Such a deny does not
reach the path itself; it lies below it, or it spells out the star (`Snapshot.TakesBack.below`).
-/

namespace ConsoleAccess

theorem Statement.mem_wildcards_iff {s : Statement} {p : ResourcePattern} :
    p ∈ s.wildcards ↔
      ∃ members, s.resources = .patterns members ∧ p ∈ members ∧ p.wildcard = true := by
  unfold wildcards
  cases s.resources with
  | all => simp
  | patterns members => simp [Std.ExtTreeSet.mem_toList]

/-! ## Wildcards as requests -/

namespace ResourcePattern

variable {e p : ResourcePattern}

theorem text_of_wildcard (star : p.wildcard = true) : p.text = p.literal ++ ['*'] := by
  rw [text, if_pos star]

theorem getLast?_normalizeResource_text (star : p.wildcard = true) :
    (normalizeResource p.text).getLast? = some '*' := by
  apply getLast?_normalizeResource
  · rw [text_of_wildcard star, List.getLast?_concat]
  · decide
  · decide

theorem named_text (star : p.wildcard = true) : normalizeResource p.text ≠ [] := by
  intro empty
  have last := getLast?_normalizeResource_text star
  rw [empty] at last
  cases last

theorem covers_text_iff (star : p.wildcard = true) :
    e.covers p.text = true ↔
      e.wildcard = true ∧ e.literal <+: normalizeResource p.text ++ ['/'] := by
  cases kind : e.wildcard with
  | false =>
      have last := getLast?_normalizeResource_text star
      rw [covers_iff, kind, if_neg Bool.false_ne_true]
      simp only [Bool.false_eq_true, false_and, iff_false, not_and]
      intro _ same
      rw [← same] at last
      exact getLast?_literal kind last
  | true =>
      rw [covers_iff_of_wildcard kind, and_iff_right (named_text star), and_iff_right rfl]

theorem covers_of_prefix_literal {path : Text} (wild : e.wildcard = true) (star : p.wildcard = true)
    (starts : e.literal <+: p.literal) (covered : p.covers path = true) : e.covers path = true := by
  rw [covers_iff_of_wildcard star] at covered
  rw [covers_iff_of_wildcard wild]
  exact ⟨covered.1, starts.trans covered.2⟩

theorem covers_or_below_of_contains {path : Text} (wild : e.wildcard = true)
    (starts : e.literal <+: p.literal) (contained : p.contains path = true) :
    e.covers path = true ∨ IsAncestor (normalizeResource path) e.literal := by
  obtain ⟨named, lies⟩ := contains_iff.1 contained
  have covers_of_leads (leads : e.literal <+: normalizeResource path) : e.covers path = true :=
    (covers_iff_of_wildcard wild).2 ⟨named, List.prefix_append_of_prefix leads⟩
  rcases lies with same | ancestor
  · exact Or.inl (covers_of_leads (same ▸ starts))
  · -- Both the path and the wildcard start the literal that lies below the path.
    rcases List.prefix_or_prefix_of_prefix starts ancestor.isPrefix with higher | lower
    · exact Or.inl (covers_of_leads higher)
    · rcases ancestor.between lower starts with same | below
      · exact Or.inl (covers_of_leads (same ▸ List.prefix_rfl))
      · exact Or.inr below

theorem below_or_extends_of_takes {path : Text} (star : p.wildcard = true)
    (wild : e.wildcard = true) (near : p.covers path = true ∨ p.contains path = true)
    (apart : e.covers path ≠ true) (takes : e.literal <+: p.text ++ ['/']) :
    IsAncestor (normalizeResource path) e.literal ∨ p.text <+: e.literal := by
  rcases List.prefix_or_prefix_of_prefix takes (List.prefix_append p.text ['/']) with short | long
  · rw [text_of_wildcard star, List.prefix_concat_iff, ← text_of_wildcard star] at short
    rcases short with same | starts
    · exact Or.inr (same ▸ List.prefix_rfl)
    · rcases near with covered | contained
      · exact absurd (covers_of_prefix_literal wild star starts covered) apart
      · exact Or.inl ((covers_or_below_of_contains wild starts contained).resolve_left apart)
  · exact Or.inr long

end ResourcePattern

theorem Statement.covers_text_iff {d : Statement} {p : ResourcePattern}
    (star : p.wildcard = true) :
    d.resources.covers p.text false = true ↔ d.resources = .all ∨
      ∃ e ∈ d.wildcards, e.literal <+: normalizeResource p.text ++ ['/'] := by
  simp only [mem_wildcards_iff]
  cases d.resources with
  | all => simp [ResourceSet.covers, ResourcePattern.named_text star]
  | patterns members =>
      simp [ResourceSet.covers, ResourcePattern.covers_text_iff star, and_assoc]

/-! ## Grants -/

namespace Snapshot

/-- An allow on one of the scopes has the wildcard, and it covers the path or lies below it. -/
structure IsWildcardGrant (snapshot : Snapshot) (path : Text) (scopes : List Text)
    (p : ResourcePattern) : Prop where
  allowed : ∃ s ∈ snapshot.statements, s.effect = .allow ∧
    (∃ c ∈ scopes, s.coversScope c = true) ∧ p ∈ s.wildcards
  near : p.covers path = true ∨ p.contains path = true

/-- A deny on one of the scopes has the wildcard `e`, which takes in all that the grant `p` does. -/
structure TakesBack (snapshot : Snapshot) (path : Text) (scopes : List Text)
    (e p : ResourcePattern) : Prop where
  grant : IsWildcardGrant snapshot path scopes p
  denied : ∃ d ∈ snapshot.statements, d.effect = .deny ∧
    (∃ c ∈ Text.present scopes, d.coversScope c = true) ∧ e ∈ d.wildcards
  takes : e.literal <+: normalizeResource p.text ++ ['/']

variable {snapshot : Snapshot} {path : Text} {scopes : List Text} {e p : ResourcePattern}

theorem IsWildcardGrant.wildcard (grant : IsWildcardGrant snapshot path scopes p) :
    p.wildcard = true := by
  obtain ⟨s, -, -, -, member⟩ := grant.allowed
  obtain ⟨members, -, -, star⟩ := Statement.mem_wildcards_iff.1 member
  exact star

theorem mem_wildcardGrants_iff {g : Text} :
    g ∈ snapshot.wildcardGrants path scopes ↔
      ∃ p, IsWildcardGrant snapshot path scopes p ∧ p.text = g := by
  simp only [wildcardGrants, Std.ExtTreeSet.mem_toList, Std.ExtTreeSet.mem_ofList,
    List.contains_iff_mem, List.mem_map, List.mem_filter, List.mem_flatMap, withEffect, beq_iff_eq,
    List.any_eq_true, Bool.or_eq_true]
  constructor
  · rintro ⟨p, ⟨⟨s, ⟨⟨held, allows⟩, scope⟩, member⟩, near⟩, text⟩
    exact ⟨p, ⟨⟨s, held, allows, scope, member⟩, near⟩, text⟩
  · rintro ⟨p, ⟨⟨s, held, allows, scope, member⟩, near⟩, text⟩
    exact ⟨p, ⟨⟨s, ⟨⟨held, allows⟩, scope⟩, member⟩, near⟩, text⟩

theorem exists_denied_wildcardGrant_iff (named : normalizeResource path ≠ [])
    (silent : ∀ d ∈ snapshot.statements, d.effect = .deny → ∀ c ∈ Text.present scopes,
      d.appliesTo path c false = false) :
    (∃ d ∈ snapshot.statements, d.effect = .deny ∧ ∃ g ∈ snapshot.wildcardGrants path scopes,
      ∃ c ∈ Text.present scopes, d.appliesTo g c false = true) ↔
        ∃ e p, TakesBack snapshot path scopes e p := by
  constructor
  · rintro ⟨d, held, denies, g, listed, c, asked, applies⟩
    obtain ⟨p, grant, rfl⟩ := mem_wildcardGrants_iff.1 listed
    obtain ⟨scope, covered⟩ := Statement.appliesTo_iff.1 applies
    rcases (Statement.covers_text_iff grant.wildcard).1 covered with all | ⟨e, member, takes⟩
    · -- A deny on every resource would have refused the path.
      have quiet := silent d held denies c asked
      rw [Statement.appliesTo, scope, all] at quiet
      simp [ResourceSet.covers, named] at quiet
    · exact ⟨e, p, grant, ⟨d, held, denies, ⟨c, asked, scope⟩, member⟩, takes⟩
  · rintro ⟨e, p, grant, ⟨d, held, denies, ⟨c, asked, scope⟩, member⟩, takes⟩
    have covered := (Statement.covers_text_iff grant.wildcard).2 (Or.inr ⟨e, member, takes⟩)
    exact ⟨d, held, denies, p.text, mem_wildcardGrants_iff.2 ⟨p, grant, rfl⟩, c, asked,
      Statement.appliesTo_iff.2 ⟨scope, covered⟩⟩

theorem TakesBack.below (taken : TakesBack snapshot path scopes e p)
    (silent : ∀ d ∈ snapshot.statements, d.effect = .deny → ∀ c ∈ Text.present scopes,
      d.appliesTo path c false = false)
    (canonical : normalizeResource p.text = p.text) :
    IsAncestor (normalizeResource path) e.literal ∨ p.text <+: e.literal := by
  obtain ⟨d, held, denies, ⟨c, asked, scope⟩, member⟩ := taken.denied
  obtain ⟨members, set, member, wild⟩ := Statement.mem_wildcards_iff.1 member
  have apart : e.covers path ≠ true := by
    have quiet := silent d held denies c asked
    rw [Statement.appliesTo, scope, Bool.true_and, set] at quiet
    simp only [ResourceSet.covers, Bool.false_and, Bool.or_false, List.any_eq_false] at quiet
    exact quiet e (Std.ExtTreeSet.mem_toList.2 member)
  have takes := taken.takes
  rw [canonical] at takes
  exact ResourcePattern.below_or_extends_of_takes taken.grant.wildcard wild taken.grant.near apart
    takes

theorem grants_with_wildcardGrants_iff {below : Bool}
    (granted : snapshot.grants
      { resources := [path], scopes, containsResource := below } = true) :
    (snapshot.grants (Query.withResources { resources := [path], scopes, containsResource := below }
        (snapshot.wildcardGrants path scopes)) = true ↔
      ¬ ∃ e p, TakesBack snapshot path scopes e p) ∧
    ∀ e p, TakesBack snapshot path scopes e p → normalizeResource p.text = p.text →
      IsAncestor (normalizeResource path) e.literal ∨ p.text <+: e.literal := by
  have named : normalizeResource path ≠ [] := named_of_grants granted
  have silent : ∀ d ∈ snapshot.statements, d.effect = .deny → ∀ c ∈ Text.present scopes,
      d.appliesTo path c false = false :=
    undenied_singleton_iff.1 (undenied_of_grants granted)
  constructor
  · rw [grants_withResources_iff granted, ← exists_denied_wildcardGrant_iff named silent]
    simp
  · intro e p taken canonical
    exact taken.below silent canonical

theorem grants_with_wildcardGrants_iff_folder :
    let put : ActionPattern := ⟨"s3:PutObject".toList, by decide, by decide⟩
    let bucket : ResourcePattern := ⟨"bucket/".toList, true, "bucket/*".toList, by decide⟩
    let folder : ResourcePattern := ⟨"bucket/a/".toList, true, "bucket/a/*".toList, by decide⟩
    let closed : ResourcePattern := ⟨"bucket/a".toList, true, "bucket/a*".toList, by decide⟩
    let session := (((Session.ofIdentity "alice".toList).insert "1".toList
      (.on .allow put bucket)).insert "2".toList (.on .allow put folder)).insert "3".toList
        (.on .deny put closed)
    let q : Query := { resources := ["bucket".toList], scopes := ["s3:PutObject".toList] }
    grants (some session) q = true ∧
      TakesBack (some session) "bucket".toList q.scopes closed folder ∧
      normalizeResource folder.text = folder.text ∧
      ¬ grants (some session)
        (q.withResources (wildcardGrants (some session) "bucket".toList q.scopes)) = true ∧
      (IsAncestor "bucket".toList closed.literal ∨ folder.text <+: closed.literal) := by
  intro put bucket folder closed session q
  have granted : grants (some session) q = true := by decide
  have canonical : normalizeResource folder.text = folder.text := by decide
  have taken : TakesBack (some session) "bucket".toList q.scopes closed folder :=
    { grant := ⟨⟨.on .allow put folder, by decide, rfl, ⟨_, List.mem_singleton_self _, by decide⟩,
        by decide⟩, Or.inr (by decide)⟩
      denied := ⟨.on .deny put closed, by decide, rfl, ⟨_, List.mem_singleton_self _, by decide⟩,
        by decide⟩
      takes := by decide }
  obtain ⟨kept, lies⟩ := grants_with_wildcardGrants_iff granted
  exact ⟨granted, taken, canonical, fun still => kept.1 still ⟨closed, folder, taken⟩,
    lies closed folder taken canonical⟩

/-- Uploads are granted in the bucket, and no longer when the granted drafts are asked for too, since
the folder that they lie in is denied. -/
theorem wildcardGrants_take_access_away :
    let put : ActionPattern := ⟨"s3:PutObject".toList, by decide, by decide⟩
    let bucket : ResourcePattern := ⟨"bucket/".toList, true, "bucket/*".toList, by decide⟩
    let drafts : ResourcePattern :=
      ⟨"bucket/private/drafts/".toList, true, "bucket/private/drafts/*".toList, by decide⟩
    let closed : ResourcePattern :=
      ⟨"bucket/private/".toList, true, "bucket/private/*".toList, by decide⟩
    let session := (((Session.ofIdentity "alice".toList).insert "1".toList
      (.on .allow put bucket)).insert "2".toList (.on .allow put drafts)).insert "3".toList
        (.on .deny put closed)
    let q : Query := { resources := ["bucket/".toList], scopes := ["s3:PutObject".toList] }
    let grantTexts := wildcardGrants (some session) "bucket/".toList q.scopes
    grants (some session) q = true ∧
      grantTexts = ["bucket/*".toList, "bucket/private/drafts/*".toList] ∧
      grants (some session) (q.withResources grantTexts) = false := by
  decide

end Snapshot
end ConsoleAccess
