import ConsoleAccess.Proofs.Policy.Decision

/-!
# What a decision depends on

Two queries ask the same question if they have the same flags, name the same resources after
normalisation and the same scopes up to letter case (`Query.SameQuestion`). Sessions that hold the
same statement values answer the same question alike, whatever ids the statements stand under and in
whatever order they are visited (`Query.answer_congr`).

A resource can be blank to one filter and not to another: the bare prefix `arn:aws:s3:::` is a
present text without a name. No statement speaks of it (`Speaks.named`), so it never decides.
-/

namespace ConsoleAccess

namespace Query

def AsksOn (q : Query) (name : Text) : Prop :=
  name ≠ [] ∧ ∃ raw ∈ q.resources, normalizeResource raw = name

def AsksFor (q : Query) (scope : Text) : Prop := ∃ c ∈ Text.present q.scopes, c.lower = scope

/-- The queries differ at most in how resources and scopes are written, ordered and repeated. -/
structure SameQuestion (q q' : Query) : Prop where
  matchAll : q.matchAll = q'.matchAll
  containsResource : q.containsResource = q'.containsResource
  resources : ∀ name, q.AsksOn name ↔ q'.AsksOn name
  scopes : ∀ scope, q.AsksFor scope ↔ q'.AsksFor scope

theorem SameQuestion.symm {q q' : Query} (same : SameQuestion q q') : SameQuestion q' q where
  matchAll := same.matchAll.symm
  containsResource := same.containsResource.symm
  resources name := (same.resources name).symm
  scopes scope := (same.scopes scope).symm

theorem asksOn_iff {q : Query} {name : Text} :
    q.AsksOn name ↔ name ≠ [] ∧ ∃ r ∈ Text.present q.resources, normalizeResource r = name := by
  refine and_congr_right fun named => ?_
  constructor
  · rintro ⟨raw, asked, rfl⟩
    exact ⟨raw.trim, Text.mem_present.2 ⟨trim_ne_nil_of_named named, raw, asked, rfl⟩,
      normalizeResource_trim raw⟩
  · rintro ⟨r, present, name⟩
    obtain ⟨-, raw, asked, rfl⟩ := Text.mem_present.1 present
    exact ⟨raw, asked, by rw [← normalizeResource_trim, name]⟩

theorem SameQuestion.resource {q q' : Query} (same : SameQuestion q q') {r : Text}
    (asked : r ∈ Text.present q.resources) (named : normalizeResource r ≠ []) :
    ∃ r' ∈ Text.present q'.resources, normalizeResource r = normalizeResource r' := by
  have asks : q.AsksOn (normalizeResource r) := asksOn_iff.2 ⟨named, r, asked, rfl⟩
  obtain ⟨-, r', asked', name⟩ := asksOn_iff.1 ((same.resources _).1 asks)
  exact ⟨r', asked', name.symm⟩

theorem SameQuestion.scope {q q' : Query} (same : SameQuestion q q') {c : Text}
    (asked : c ∈ Text.present q.scopes) : ∃ c' ∈ Text.present q'.scopes, c.lower = c'.lower := by
  obtain ⟨c', asked', letters⟩ := (same.scopes _).1 ⟨c, asked, rfl⟩
  exact ⟨c', asked', letters.symm⟩

variable {q q' : Query} {visited visited' : List Statement}

theorem SameQuestion.speaks (same : SameQuestion q q')
    (values : ∀ s, s ∈ visited ↔ s ∈ visited') {effect : Effect} {r c c' : Text} {below : Bool}
    (asked : r ∈ Text.present q.resources) (letters : c.lower = c'.lower)
    (spoken : Speaks visited effect r c below) :
    ∃ r' ∈ Text.present q'.resources, Speaks visited' effect r' c' below := by
  obtain ⟨r', asked', name⟩ := same.resource asked spoken.named
  exact ⟨r', asked', (speaks_congr values name letters).1 spoken⟩

theorem SameQuestion.undenied (same : SameQuestion q q')
    (values : ∀ s, s ∈ visited ↔ s ∈ visited')
    (undenied : ∀ r ∈ Text.present q.resources, ∀ c ∈ Text.present q.scopes,
      ¬ Speaks visited .deny r c false) :
    ∀ r ∈ Text.present q'.resources, ∀ c ∈ Text.present q'.scopes,
      ¬ Speaks visited' .deny r c false := by
  intro r' named' c' asked' denied
  obtain ⟨c, asked, letters⟩ := same.symm.scope asked'
  obtain ⟨r, named, denied⟩ :=
    same.symm.speaks (fun s => (values s).symm) named' letters denied
  exact undenied r named c asked denied

theorem SameQuestion.satisfied (same : SameQuestion q q')
    (values : ∀ s, s ∈ visited ↔ s ∈ visited')
    (enough : q.Satisfied fun c => ∃ r ∈ Text.present q.resources,
      Speaks visited .allow r c q.containsResource) :
    q'.Satisfied fun c => ∃ r ∈ Text.present q'.resources,
      Speaks visited' .allow r c q'.containsResource := by
  unfold Satisfied at enough ⊢
  rw [same.matchAll, same.containsResource] at enough
  by_cases all : q'.matchAll = true
  · rw [if_pos all] at enough ⊢
    intro c' asked'
    obtain ⟨c, asked, letters⟩ := same.symm.scope asked'
    obtain ⟨r, named, allowed⟩ := enough c asked
    exact same.speaks values named letters.symm allowed
  · rw [if_neg all] at enough ⊢
    obtain ⟨c, asked, r, named, allowed⟩ := enough
    obtain ⟨c', asked', letters⟩ := same.scope asked
    exact ⟨c', asked', same.speaks values named letters allowed⟩

theorem answer_of_sameQuestion (same : SameQuestion q q')
    (values : ∀ s, s ∈ visited ↔ s ∈ visited') (answered : q.answer visited = true) :
    q'.answer visited' = true := by
  obtain ⟨-, asked, undenied, enough⟩ := answer_iff.1 answered
  -- Both filters let something through, since an allow speaks of a named resource.
  obtain ⟨c, member, r, named, allowed⟩ := satisfied_exists asked enough
  obtain ⟨r', named', -⟩ := same.resource named allowed.named
  obtain ⟨c', asked', -⟩ := same.scope member
  exact answer_iff.2 ⟨List.ne_nil_of_mem named', List.ne_nil_of_mem asked',
    same.undenied values undenied, same.satisfied values enough⟩

theorem answer_congr (same : SameQuestion q q') (values : ∀ s, s ∈ visited ↔ s ∈ visited') :
    q.answer visited = q'.answer visited' := by
  rw [Bool.eq_iff_iff]
  exact ⟨answer_of_sameQuestion same values,
    answer_of_sameQuestion same.symm fun s => (values s).symm⟩

end Query

theorem Snapshot.grants_eq_of_sameQuestion {session session' : Session} {q q' : Query}
    (values : ∀ s, session.Holds s ↔ session'.Holds s) (same : q.SameQuestion q') :
    Snapshot.grants (some session) q = Snapshot.grants (some session') q' ∧
      ∀ visited, visited.Perm (Snapshot.statements (some session)) →
        q.answer visited = Snapshot.grants (some session') q' := by
  have members : ∀ s, s ∈ Snapshot.statements (some session) ↔
      s ∈ Snapshot.statements (some session') := by
    simpa only [Session.mem_statements_iff] using values
  simp only [grants_eq_answer, Option.isSome_some, Bool.true_and]
  refine ⟨Query.answer_congr same members, fun visited order => ?_⟩
  exact Query.answer_congr same fun s => order.mem_iff.trans (members s)

theorem Snapshot.grants_eq_of_sameQuestion_rewritten :
    let reads := Statement.everywhere .allow ⟨"s3:Get*".toList, by decide, by decide⟩
    let once := (Session.ofIdentity "alice".toList).insert "1".toList reads
    let twice := ((Session.ofIdentity "bob".toList).insert "x".toList reads).insert
      "y".toList reads
    let asked : Query :=
      { resources := [" arn:aws:s3:::b/a\t".toList, "arn:aws:s3:::".toList]
        scopes := ["S3:getobject".toList, " ".toList] }
    let rewritten : Query := { resources := ["b/a".toList], scopes := [" s3:GetObject".toList] }
    (∀ s, once.Holds s ↔ twice.Holds s) ∧ asked.SameQuestion rewritten ∧
      Snapshot.grants (some once) asked = Snapshot.grants (some twice) rewritten ∧
      ∀ visited, visited.Perm (Snapshot.statements (some once)) →
        asked.answer visited = Snapshot.grants (some twice) rewritten := by
  intro reads once twice asked rewritten
  have values : ∀ s, once.Holds s ↔ twice.Holds s := by
    intro s
    have unused : ((Session.ofIdentity "bob".toList).insert "x".toList reads).statement?
        "y".toList = none := by
      rw [Session.statement?_insert, if_neg (by decide), Session.statement?_ofIdentity]
    simp only [once, twice, Session.holds_ofIdentity_insert_iff, Session.holds_insert_iff unused,
      or_self]
  have same : asked.SameQuestion rewritten := by
    refine ⟨rfl, rfl, fun name => ?_, fun scope => ?_⟩
    · have first : normalizeResource " arn:aws:s3:::b/a\t".toList = "b/a".toList := by decide
      have second : normalizeResource "arn:aws:s3:::".toList = [] := by decide
      have third : normalizeResource "b/a".toList = "b/a".toList := by decide
      simp only [Query.AsksOn, asked, rewritten, List.mem_cons, List.not_mem_nil, or_false,
        exists_eq_or_imp, exists_eq_left, first, second, third]
      grind
    · have first : Text.present asked.scopes = ["S3:getobject".toList] := by decide
      have second : Text.present rewritten.scopes = ["s3:GetObject".toList] := by decide
      have third : Text.lower "S3:getobject".toList = Text.lower "s3:GetObject".toList := by decide
      simp only [Query.AsksFor, first, second, List.mem_singleton, exists_eq_left, third]
  exact ⟨values, same, grants_eq_of_sameQuestion values same⟩
end ConsoleAccess
