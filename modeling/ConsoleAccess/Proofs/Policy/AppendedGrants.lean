import ConsoleAccess.Proofs.Policy.WildcardGrants

/-!
# Decisions with wildcard grants appended

A wildcard grant of a path is allowed on the path itself, directly or below it
(`Snapshot.speaks_of_path_of_mem`), and as a requested resource it is allowed under its own text if
that text is its name (`Snapshot.speaks_of_mem`). From these follow the two readings of "somewhere
below" for queries that ask for any scope: what appending the grants decides
(`Snapshot.grants_appended_iff`), and that containment grants whatever they grant
(`Snapshot.contained_of_appended`).
-/

namespace ConsoleAccess

namespace ResourcePattern

def StartsPlainly (p : ResourcePattern) : Prop :=
  p.literal.StartsVisible ∧ ¬ resourceArn <+: p.literal

instance (p : ResourcePattern) : Decidable p.StartsPlainly :=
  inferInstanceAs (Decidable (p.literal.StartsVisible ∧ ¬ resourceArn <+: p.literal))

variable {p : ResourcePattern}

theorem normalizeResource_text_iff (star : p.wildcard = true) :
    normalizeResource p.text = p.text ↔ p.StartsPlainly := by
  rw [normalizeResource_eq_self_iff, text_of_wildcard star, Text.isTrimmed_concat_iff (by decide),
    List.prefix_concat_iff]
  refine and_congr_right fun _ => not_congr ?_
  refine or_iff_right fun same => ?_
  have last := congrArg List.getLast? same
  rw [List.getLast?_concat] at last
  revert last
  decide

end ResourcePattern

namespace Snapshot

variable {snapshot : Snapshot} {path g : Text} {scopes : List Text} {below : Bool}

/-! ## What speaks of a grant -/

theorem speaks_of_path_of_mem (listed : g ∈ snapshot.wildcardGrants path scopes) :
    ∃ c ∈ scopes, Speaks snapshot.statements .allow path c true := by
  obtain ⟨p, ⟨⟨s, held, allows, ⟨c, asked, scope⟩, member⟩, near⟩, rfl⟩ :=
    mem_wildcardGrants_iff.1 listed
  obtain ⟨members, set, member, -⟩ := Statement.mem_wildcards_iff.1 member
  have reached : s.resources.covers path true = true := by
    simp only [set, ResourceSet.covers, List.any_eq_true, Bool.true_and, Bool.or_eq_true]
    exact ⟨p, Std.ExtTreeSet.mem_toList.2 member, near⟩
  exact ⟨c, asked, s, held, allows, Statement.appliesTo_iff.2 ⟨scope, reached⟩⟩

theorem speaks_of_mem (plainly : ∀ s ∈ snapshot.statements, s.effect = .allow →
      ∀ p ∈ s.wildcards, p.StartsPlainly)
    (listed : g ∈ snapshot.wildcardGrants path scopes) :
    ∃ c ∈ scopes, Speaks snapshot.statements .allow g c false := by
  obtain ⟨p, grant, rfl⟩ := mem_wildcardGrants_iff.1 listed
  obtain ⟨s, held, allows, ⟨c, asked, scope⟩, member⟩ := grant.allowed
  have name := (ResourcePattern.normalizeResource_text_iff grant.wildcard).2
    (plainly s held allows p member)
  have starts : p.literal <+: normalizeResource p.text ++ ['/'] := by
    rw [name, ResourcePattern.text_of_wildcard grant.wildcard, List.append_assoc]
    exact List.prefix_append p.literal _
  have covered := (Statement.covers_text_iff grant.wildcard).2 (Or.inr ⟨p, member, starts⟩)
  exact ⟨c, asked, s, held, allows, Statement.appliesTo_iff.2 ⟨scope, covered⟩⟩

/-! ## Decisions -/

theorem grants_on_iff (written : ∀ c ∈ scopes, c ≠ [] ∧ c.IsTrimmed) :
    snapshot.grants { resources := [path], scopes, containsResource := below } = true ↔
      (∀ d ∈ snapshot.statements, d.effect = .deny → ∀ c ∈ scopes,
        d.appliesTo path c false = false) ∧
      ∃ c ∈ scopes, Speaks snapshot.statements .allow path c below := by
  rw [grants_any_iff rfl]
  simp only [Text.present_eq_self written, List.mem_singleton, forall_eq, exists_eq_left]

theorem contained_iff_of_wildcardGrants (written : ∀ c ∈ scopes, c ≠ [] ∧ c.IsTrimmed)
    (nonempty : snapshot.wildcardGrants path scopes ≠ []) :
    snapshot.grants { resources := [path], scopes, containsResource := true } = true ↔
      ∀ d ∈ snapshot.statements, d.effect = .deny → ∀ c ∈ scopes,
        d.appliesTo path c false = false := by
  obtain ⟨g, listed⟩ := List.exists_mem_of_ne_nil _ nonempty
  rw [grants_on_iff written, and_iff_left (speaks_of_path_of_mem listed)]

theorem grants_appended_iff
    (plainly : ∀ s ∈ snapshot.statements, s.effect = .allow → ∀ p ∈ s.wildcards, p.StartsPlainly)
    (written : ∀ c ∈ scopes, c ≠ [] ∧ c.IsTrimmed) :
    snapshot.grants (Query.withResources { resources := [path], scopes, containsResource := below }
        (snapshot.wildcardGrants path scopes)) = true ↔
      (∀ d ∈ snapshot.statements, d.effect = .deny →
        ∀ r ∈ path :: snapshot.wildcardGrants path scopes, ∀ c ∈ scopes,
          d.appliesTo r c false = false) ∧
      (snapshot.wildcardGrants path scopes ≠ [] ∨
        ∃ s ∈ snapshot.statements, s.effect = .allow ∧ ∃ c ∈ scopes,
          s.appliesTo path c below = true) := by
  rw [grants_any_iff rfl]
  simp only [Query.withResources, Text.present_eq_self written, List.cons_append, List.nil_append]
  refine and_congr_right fun _ => ?_
  constructor
  · rintro ⟨c, asked, r, named, spoken⟩
    rcases List.mem_cons.1 named with rfl | listed
    · obtain ⟨s, held, allows, applies⟩ := spoken
      exact Or.inr ⟨s, held, allows, c, asked, applies⟩
    · exact Or.inl (List.ne_nil_of_mem listed)
  · rintro (nonempty | ⟨s, held, allows, c, asked, applies⟩)
    · obtain ⟨g, listed⟩ := List.exists_mem_of_ne_nil _ nonempty
      obtain ⟨c, asked, s, held, allows, applies⟩ := speaks_of_mem plainly listed
      exact ⟨c, asked, g, List.mem_cons_of_mem path listed, s, held, allows,
        Statement.appliesTo_of_appliesTo_directly below applies⟩
    · exact ⟨c, asked, path, List.mem_cons_self, s, held, allows, applies⟩

/-- Two folders of a bucket are granted, and appending them is refused once one of them is denied. -/
theorem grants_appended_iff_folders :
    let put : ActionPattern := ⟨"s3:PutObject".toList, by decide, by decide⟩
    let photos : ResourcePattern :=
      ⟨"bucket/photos/".toList, true, "bucket/photos/*".toList, by decide⟩
    let drafts : ResourcePattern :=
      ⟨"bucket/drafts/".toList, true, "bucket/drafts/*".toList, by decide⟩
    let session := ((Session.ofIdentity "alice".toList).insert "1".toList
      (.on .allow put photos)).insert "2".toList (.on .allow put drafts)
    let closed := session.insert "3".toList (.on .deny put drafts)
    let scopes := ["s3:PutObject".toList]
    let asking (session : Session) : Query :=
      Query.withResources { resources := ["bucket".toList], scopes }
        (wildcardGrants (some session) "bucket".toList scopes)
    (∀ s ∈ statements (some closed), s.effect = .allow → ∀ p ∈ s.wildcards, p.StartsPlainly) ∧
      (∀ c ∈ scopes, c ≠ [] ∧ Text.IsTrimmed c) ∧
      wildcardGrants (some closed) "bucket".toList scopes =
        ["bucket/drafts/*".toList, "bucket/photos/*".toList] ∧
      grants (some session) (asking session) = true ∧
      ¬ grants (some closed) (asking closed) = true := by
  intro put photos drafts session closed scopes asking
  have plainly : ∀ s ∈ statements (some closed), s.effect = .allow →
      ∀ p ∈ s.wildcards, p.StartsPlainly := by decide
  have written : ∀ c ∈ scopes, c ≠ [] ∧ Text.IsTrimmed c := by decide
  have listed : wildcardGrants (some closed) "bucket".toList scopes =
      ["bucket/drafts/*".toList, "bucket/photos/*".toList] := by decide
  refine ⟨plainly, written, listed, ?_, ?_⟩
  · exact (grants_appended_iff (by decide) written).2 (by decide)
  · intro granted
    obtain ⟨silent, -⟩ := (grants_appended_iff plainly written).1 granted
    have quiet := silent (.on .deny put drafts) (by decide) rfl "bucket/drafts/*".toList
      (by decide) _ (List.mem_singleton_self _)
    exact absurd quiet (by decide)

theorem contained_of_appended (below : Bool) (written : ∀ c ∈ scopes, c ≠ [] ∧ c.IsTrimmed) :
    (snapshot.grants (Query.withResources { resources := [path], scopes, containsResource := below }
        (snapshot.wildcardGrants path scopes)) = true →
      snapshot.grants { resources := [path], scopes, containsResource := true } = true) ∧
    (snapshot.wildcardGrants path scopes ≠ [] →
      (snapshot.grants { resources := [path], scopes, containsResource := true } = false ↔
        ∃ d ∈ snapshot.statements, d.effect = .deny ∧ ∃ c ∈ scopes,
          d.appliesTo path c false = true)) := by
  constructor
  · intro granted
    obtain ⟨silent, c, asked, r, named, spoken⟩ := (grants_any_iff rfl).1 granted
    simp only [Query.withResources, Text.present_eq_self written] at silent asked named spoken
    rw [grants_on_iff written]
    refine ⟨fun d held denies => silent d held denies path List.mem_cons_self, ?_⟩
    -- An allow on a grant may come from a statement that does not reach the path, but the one that
    -- the grant was found in does.
    rcases List.mem_cons.1 named with rfl | listed
    · exact ⟨c, asked, spoken.contained⟩
    · exact speaks_of_path_of_mem listed
  · intro nonempty
    rw [← Bool.not_eq_true, contained_iff_of_wildcardGrants written nonempty]
    simp only [not_forall, exists_prop, Bool.not_eq_false]

/-- A folder of the bucket is granted; denying the bucket itself refuses both queries. -/
theorem contained_of_appended_folder :
    let put : ActionPattern := ⟨"s3:PutObject".toList, by decide, by decide⟩
    let photos : ResourcePattern :=
      ⟨"bucket/photos/".toList, true, "bucket/photos/*".toList, by decide⟩
    let bucket : ResourcePattern := ⟨"bucket".toList, false, "bucket".toList, by decide⟩
    let session := (Session.ofIdentity "alice".toList).insert "1".toList (.on .allow put photos)
    let closed := session.insert "2".toList (.on .deny put bucket)
    let q : Query := { resources := ["bucket".toList], scopes := ["s3:PutObject".toList] }
    (∀ c ∈ q.scopes, c ≠ [] ∧ c.IsTrimmed) ∧
      grants (some session)
        (q.withResources (wildcardGrants (some session) "bucket".toList q.scopes)) = true ∧
      grants (some session) q.containing = true ∧
      wildcardGrants (some closed) "bucket".toList q.scopes ≠ [] ∧
      grants (some closed) q.containing = false := by
  intro put photos bucket session closed q
  have written : ∀ c ∈ q.scopes, c ≠ [] ∧ c.IsTrimmed := by decide
  have appended : grants (some session)
      (q.withResources (wildcardGrants (some session) "bucket".toList q.scopes)) = true := by decide
  have listed : wildcardGrants (some closed) "bucket".toList q.scopes ≠ [] := by decide
  have denied : ∃ d ∈ statements (some closed), d.effect = .deny ∧ ∃ c ∈ q.scopes,
      d.appliesTo "bucket".toList c false = true := by decide
  exact ⟨written, appended, (contained_of_appended false written).1 appended, listed,
    ((contained_of_appended false written).2 listed).2 denied⟩

end Snapshot
end ConsoleAccess
