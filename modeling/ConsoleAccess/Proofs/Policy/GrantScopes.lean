import ConsoleAccess.Proofs.Policy.WildcardGrants

/-!
# How wildcard grants read scopes

A decision trims its scopes and leaves blank ones out; wildcard grants take them as they are written.
So two lists of scopes give the same grants in every session exactly if each action pattern covers
one of either list or of neither (`Snapshot.wildcardGrants_eq_iff`), and lists that a decision cannot
tell apart may give different grants. `ReadAsTrimmed` describes the lists whose grants are those of
their trimmed scopes (`ActionPattern.coversOne_present_iff`).
-/

namespace ConsoleAccess

namespace ActionPattern

def CoversOne (p : ActionPattern) (scopes : List Text) : Prop := ∃ c ∈ scopes, p.covers c = true

def startingWith (stem : Text) (visible : stem.StartsVisible) : ActionPattern :=
  ⟨stem ++ ['*'], (Text.isTrimmed_concat_iff (by decide)).2 visible, List.concat_ne_nil _ _⟩

theorem startingWith_covers_iff {stem scope : Text} {visible : stem.StartsVisible} :
    (startingWith stem visible).covers scope = true ↔ stem.lower <+: scope.lower := by
  rw [covers_iff]
  constructor
  · rintro (same | ⟨stem', split, leads⟩)
    · rw [← same]
      exact Text.lower_prefix_of_prefix (List.prefix_append stem _)
    · rwa [List.append_cancel_right split]
  · exact fun leads => Or.inr ⟨stem, rfl, leads⟩

end ActionPattern

theorem Statement.any_coversScope_iff {s : Statement} {scopes : List Text} :
    scopes.any s.coversScope = true ↔ ∃ p ∈ s.actions, p.CoversOne scopes := by
  simp only [List.any_eq_true, coversScope_iff, ActionPattern.CoversOne]
  constructor
  · rintro ⟨c, asked, p, member, covered⟩
    exact ⟨p, member, c, asked, covered⟩
  · rintro ⟨p, member, c, asked, covered⟩
    exact ⟨c, asked, p, member, covered⟩

/-! ## Lists that give the same grants -/

namespace Snapshot

theorem wildcardGrants_congr {scopes scopes' : List Text} (snapshot : Snapshot) (path : Text)
    (same : ∀ p : ActionPattern, p.CoversOne scopes ↔ p.CoversOne scopes') :
    snapshot.wildcardGrants path scopes = snapshot.wildcardGrants path scopes' := by
  have reads (s : Statement) : scopes.any s.coversScope = scopes'.any s.coversScope := by
    rw [Bool.eq_iff_iff]
    simp only [Statement.any_coversScope_iff, same]
  simp only [wildcardGrants, reads]

def allowing (p : ActionPattern) (r : ResourcePattern) : Snapshot :=
  some ((Session.ofIdentity []).insert [] (.on .allow p r))

theorem mem_statements_allowing_iff {p : ActionPattern} {r : ResourcePattern} {s : Statement} :
    s ∈ (allowing p r).statements ↔ s = .on .allow p r := by
  rw [allowing, Session.mem_statements_iff, Session.holds_ofIdentity_insert_iff]

theorem mem_wildcardGrants_allowing_iff {p : ActionPattern} {r : ResourcePattern} {path : Text}
    {scopes : List Text} (star : r.wildcard = true) (near : r.covers path = true) :
    r.text ∈ (allowing p r).wildcardGrants path scopes ↔ p.CoversOne scopes := by
  rw [mem_wildcardGrants_iff]
  constructor
  · rintro ⟨q, ⟨⟨s, member, -, ⟨c, asked, scope⟩, -⟩, -⟩, -⟩
    rw [mem_statements_allowing_iff.1 member, Statement.coversScope_on_iff] at scope
    exact ⟨c, asked, scope⟩
  · rintro ⟨c, asked, covered⟩
    have listed : r ∈ (Statement.on .allow p r).wildcards :=
      Statement.mem_wildcards_iff.2 ⟨_, rfl, by simp, star⟩
    have scope : (Statement.on .allow p r).coversScope c = true :=
      Statement.coversScope_on_iff.2 covered
    have held := mem_statements_allowing_iff.2 (Eq.refl (Statement.on .allow p r))
    exact ⟨r, ⟨⟨_, held, rfl, ⟨c, asked, scope⟩, listed⟩, Or.inl near⟩, rfl⟩

theorem wildcardGrants_eq_iff {scopes scopes' : List Text} :
    (∀ (snapshot : Snapshot) (path : Text),
      snapshot.wildcardGrants path scopes = snapshot.wildcardGrants path scopes') ↔
    ∀ p : ActionPattern, p.CoversOne scopes ↔ p.CoversOne scopes' := by
  constructor
  · intro same p
    let r : ResourcePattern := ⟨"b/".toList, true, "b/*".toList, by decide⟩
    have near : r.covers ['b'] = true := by decide
    rw [← mem_wildcardGrants_allowing_iff rfl near, same, mem_wildcardGrants_allowing_iff rfl near]
  · intro same snapshot path
    exact wildcardGrants_congr snapshot path same

end Snapshot

/-! ## Lists read as trimmed -/

/-- Written as they are, the scopes are covered by the same patterns as trimmed. -/
structure ReadAsTrimmed (scopes : List Text) : Prop where
  nonblank : scopes ≠ [] → Text.present scopes ≠ []
  kept : ∀ t ∈ Text.present scopes, ∃ c ∈ scopes,
    t.lower = c.lower ∨ t.getLast? = some '*' ∧ t.lower <+: c.lower
  within : ∀ c ∈ scopes, c.StartsVisible → ∃ t ∈ Text.present scopes, c.lower <+: t.lower

namespace ActionPattern

variable {p : ActionPattern} {scopes : List Text}

theorem exists_stem_of_lower_eq {t : Text} (same : p.text.lower = t.lower)
    (star : t.getLast? = some '*') : ∃ stem, p.text = stem ++ ['*'] := by
  have last := congrArg List.getLast? same
  rw [Text.lower, Text.lower, List.getLast?_map, List.getLast?_map, star, Option.map_some,
    Option.map_eq_some_iff] at last
  obtain ⟨c, last, lowered⟩ := last
  rw [Text.toLower_eq_star_iff.1 lowered] at last
  exact List.getLast?_eq_some_iff.1 last

theorem coversOne_present_of_coversOne (read : ReadAsTrimmed scopes) (covered : p.CoversOne scopes) :
    p.CoversOne (Text.present scopes) := by
  obtain ⟨c, asked, covered⟩ := covered
  rcases covers_iff.1 covered with same | ⟨stem, split, leads⟩
  · -- A scope that is the pattern up to letter case is written trimmed.
    have trimmed : c.trim = c := by
      rw [Text.trim_eq_self_iff, ← Text.isTrimmed_lower_iff, ← same, Text.isTrimmed_lower_iff]
      exact p.trimmed
    have nonempty : c ≠ [] := by
      rintro rfl
      exact p.nonempty (List.map_eq_nil_iff.1 same)
    exact ⟨c, Text.mem_present.2 ⟨nonempty, c, asked, trimmed⟩, covered⟩
  · cases stem with
    | nil =>
        obtain ⟨t, present⟩ := List.exists_mem_of_ne_nil _ (read.nonblank (List.ne_nil_of_mem asked))
        exact ⟨t, present, covers_iff.2 (Or.inr ⟨[], split, List.nil_prefix⟩)⟩
    | cons d stem =>
        have trimmed := p.trimmed
        rw [split, Text.isTrimmed_concat_iff (by decide)] at trimmed
        have visible :=
          (Text.startsVisible_iff_of_lower_isPrefix (List.cons_ne_nil d stem) leads).1 trimmed
        obtain ⟨t, present, starts⟩ := read.within c asked visible
        exact ⟨t, present, covers_iff.2 (Or.inr ⟨d :: stem, split, leads.trans starts⟩)⟩

theorem coversOne_of_coversOne_present (read : ReadAsTrimmed scopes)
    (covered : p.CoversOne (Text.present scopes)) : p.CoversOne scopes := by
  obtain ⟨t, present, covered⟩ := covered
  obtain ⟨c, asked, same | ⟨star, leads⟩⟩ := read.kept t present
  · exact ⟨c, asked, by rwa [← p.covers_congr same]⟩
  · refine ⟨c, asked, covers_iff.2 (Or.inr ?_)⟩
    rcases covers_iff.1 covered with same | ⟨stem, split, starts⟩
    · obtain ⟨stem, split⟩ := exists_stem_of_lower_eq same star
      rw [← same, split, Text.lower_append] at leads
      exact ⟨stem, split, (List.prefix_append _ _).trans leads⟩
    · exact ⟨stem, split, starts.trans leads⟩

theorem coversOne_present_iff :
    (∀ p : ActionPattern, p.CoversOne scopes ↔ p.CoversOne (Text.present scopes)) ↔
      ReadAsTrimmed scopes := by
  constructor
  · intro same
    refine ⟨?_, ?_, ?_⟩
    · intro nonempty
      obtain ⟨c, asked⟩ := List.exists_mem_of_ne_nil scopes nonempty
      have covers : (startingWith [] (by decide)).covers c = true :=
        startingWith_covers_iff.2 List.nil_prefix
      obtain ⟨t, present, -⟩ := (same _).1 ⟨c, asked, covers⟩
      exact List.ne_nil_of_mem present
    · intro t present
      have trimmed : t.IsTrimmed := Text.trim_eq_self_iff.1 (Text.trim_of_mem_present present)
      by_cases star : t.getLast? = some '*'
      · have covers : (startingWith t trimmed.1).covers t = true :=
          startingWith_covers_iff.2 List.prefix_rfl
        obtain ⟨c, asked, covered⟩ := (same _).2 ⟨t, present, covers⟩
        exact ⟨c, asked, Or.inr ⟨star, startingWith_covers_iff.1 covered⟩⟩
      · let exactly : ActionPattern := ⟨t, trimmed, (Text.mem_present.1 present).1⟩
        have covers : exactly.covers t = true := covers_iff.2 (Or.inl rfl)
        obtain ⟨c, asked, covered⟩ := (same exactly).2 ⟨t, present, covers⟩
        rcases covers_iff.1 covered with letters | ⟨stem, split, -⟩
        · exact ⟨c, asked, Or.inl letters⟩
        · exact absurd (List.getLast?_eq_some_iff.2 ⟨stem, split⟩) star
    · intro c asked visible
      have covers : (startingWith c visible).covers c = true :=
        startingWith_covers_iff.2 List.prefix_rfl
      obtain ⟨t, present, covered⟩ := (same (startingWith c visible)).1 ⟨c, asked, covers⟩
      exact ⟨t, present, startingWith_covers_iff.1 covered⟩
  · intro read p
    exact ⟨coversOne_present_of_coversOne read, coversOne_of_coversOne_present read⟩

end ActionPattern

theorem readAsTrimmed_of_written {scopes : List Text}
    (written : ∀ c ∈ scopes, c ≠ [] ∧ c.IsTrimmed) : ReadAsTrimmed scopes := by
  rw [← ActionPattern.coversOne_present_iff, Text.present_eq_self written]
  exact fun p => Iff.rfl

namespace Snapshot

/-- Of two lists that a decision reads alike one is read as trimmed, and they give the same grants
just if the other one is too. -/
theorem wildcardGrants_agree_iff {scopes scopes' : List Text}
    (same : ∀ t, t ∈ Text.present scopes ↔ t ∈ Text.present scopes')
    (read : ReadAsTrimmed scopes') :
    (∀ (snapshot : Snapshot) (path : Text),
      snapshot.wildcardGrants path scopes = snapshot.wildcardGrants path scopes') ↔
    ReadAsTrimmed scopes := by
  rw [wildcardGrants_eq_iff, ← ActionPattern.coversOne_present_iff]
  refine forall_congr' fun p => ?_
  have trimmed : p.CoversOne scopes' ↔ p.CoversOne (Text.present scopes) := by
    rw [ActionPattern.coversOne_present_iff.2 read p]
    exact exists_congr fun t => and_congr_left fun _ => (same t).symm
  rw [trimmed]

/-- A blank in front of a scope does no harm where the list has the scope without it too. -/
theorem wildcardGrants_agree_iff_spaced :
    let scopes := ["s3:GetObject".toList, "s3:getobject".toList]
    let spaced := [" s3:GetObject".toList, "s3:getobject".toList]
    let alone := [" s3:PutObject".toList]
    (∀ t, t ∈ Text.present spaced ↔ t ∈ Text.present scopes) ∧ ReadAsTrimmed scopes ∧
      (∀ (snapshot : Snapshot) (path : Text),
        snapshot.wildcardGrants path spaced = snapshot.wildcardGrants path scopes) ∧
      ¬ ∀ (snapshot : Snapshot) (path : Text),
        snapshot.wildcardGrants path alone =
          snapshot.wildcardGrants path ["s3:PutObject".toList] := by
  intro scopes spaced alone
  have same : Text.present spaced = Text.present scopes := by decide
  have read : ReadAsTrimmed scopes := readAsTrimmed_of_written (by decide)
  have readSpaced : ReadAsTrimmed spaced := ⟨by decide, by decide, by decide⟩
  have sameAlone : Text.present alone = Text.present ["s3:PutObject".toList] := by decide
  refine ⟨fun t => by rw [same], read, ?_, ?_⟩
  · exact (wildcardGrants_agree_iff (fun t => by rw [same]) read).2 readSpaced
  · rw [wildcardGrants_agree_iff (fun t => by rw [sameAlone]) (readAsTrimmed_of_written (by decide))]
    intro readAlone
    exact absurd readAlone.kept (by decide)

/-- A blank in front of the scope loses the grant, and with it the decision; a blank scope alone gives
a grant that no scope asks for. -/
theorem wildcardGrants_read_blanks :
    let put : ActionPattern := ⟨"s3:PutObject".toList, by decide, by decide⟩
    let all : ActionPattern := ⟨"*".toList, by decide, by decide⟩
    let photos : ResourcePattern :=
      ⟨"bucket/photos/".toList, true, "bucket/photos/*".toList, by decide⟩
    let path := "bucket".toList
    let scopes := ["s3:PutObject".toList]
    let spaced := [" s3:PutObject".toList]
    let grantedWith (scopes : List Text) : Bool :=
      (allowing put photos).grants (Query.withResources { resources := [path], scopes }
        ((allowing put photos).wildcardGrants path scopes))
    (Text.present spaced = Text.present scopes ∧
      (allowing put photos).wildcardGrants path scopes = ["bucket/photos/*".toList] ∧
      (allowing put photos).wildcardGrants path spaced = [] ∧
      grantedWith scopes = true ∧ grantedWith spaced = false) ∧
    Text.present [" ".toList] = Text.present [] ∧
      (allowing all photos).wildcardGrants path [] = [] ∧
      (allowing all photos).wildcardGrants path [" ".toList] = ["bucket/photos/*".toList] := by
  decide

end Snapshot
end ConsoleAccess
