import ConsoleAccess.Policy.Scopes
import ConsoleAccess.Proofs.Policy.GrantScopes
import Mathlib.Data.List.Infix

/-!
# Wildcards among the scopes

A wildcard that is asked for as a scope is compared like any other text. It still stands for all
that it covers: a pattern that covers the text of another covers whatever that one covers, unless it
is that text with one more star (`ActionPattern.subsumes_iff`). So where no pattern ends in two
stars, a granted wildcard scope grants each of its instances (`Snapshot.grants_instances`).
-/

namespace ConsoleAccess

namespace ActionPattern

variable {p q : ActionPattern} {scope : Text}

def Subsumes (p q : ActionPattern) : Prop := ∀ scope, q.covers scope = true → p.covers scope = true

def StarredTwice (p q : Text) : Prop := q.getLast? = some '*' ∧ p.lower = q.lower ++ ['*']

theorem covers_of_covers_text (covered : p.covers q.text = true)
    (single : ¬ StarredTwice p.text q.text) (instanced : q.covers scope = true) :
    p.covers scope = true := by
  rw [covers_iff] at covered instanced ⊢
  rcases covered with same | ⟨stem, split, leads⟩
  · rcases instanced with equal | ⟨stem, split, leads⟩
    · exact Or.inl (same.trans equal)
    · -- A text that agrees with a wildcard is one with the same stem.
      obtain ⟨stem', split'⟩ :=
        exists_stem_of_lower_eq same (List.getLast?_eq_some_iff.2 ⟨stem, split⟩)
      rw [split, split', Text.lower_append, Text.lower_append] at same
      exact Or.inr ⟨stem', split', (List.append_cancel_right same) ▸ leads⟩
  · right
    refine ⟨stem, split, ?_⟩
    rcases instanced with equal | ⟨stem', split', leads'⟩
    · rwa [← equal]
    · rw [split', Text.lower_append] at leads
      rcases List.prefix_concat_iff.1 leads with same | shorter
      · refine absurd ⟨List.getLast?_eq_some_iff.2 ⟨stem', split'⟩, ?_⟩ single
        rw [split, split', Text.lower_append, Text.lower_append, same]
        rfl
      · exact shorter.trans leads'

theorem subsumes_iff :
    p.Subsumes q ↔ p.covers q.text = true ∧ ¬ StarredTwice p.text q.text := by
  constructor
  · intro subsumes
    refine ⟨subsumes q.text (covers_iff.2 (Or.inl rfl)), ?_⟩
    rintro ⟨star, longer⟩
    -- The stem of the second pattern is a scope too short for the first.
    obtain ⟨stem, split⟩ := List.getLast?_eq_some_iff.1 star
    have covered := subsumes stem (covers_iff.2 (Or.inr ⟨stem, split, List.prefix_rfl⟩))
    have length := congrArg List.length longer
    simp only [split, Text.length_lower, List.length_append, List.length_singleton] at length
    rcases covers_iff.1 covered with same | ⟨stem', split', leads⟩
    · have shorter := congrArg List.length same
      simp only [Text.length_lower] at shorter
      omega
    · have shorter := leads.length_le
      simp only [split', Text.length_lower, List.length_append, List.length_singleton]
        at length shorter
      omega
  · rintro ⟨covered, single⟩ scope instanced
    exact covers_of_covers_text covered single instanced

example :
    let twice : ActionPattern := ⟨"s3:**".toList, by decide, by decide⟩
    let all : ActionPattern := ⟨"s3:*".toList, by decide, by decide⟩
    twice.covers all.text = true ∧ all.covers "s3:GetObject".toList = true ∧
      twice.covers "s3:GetObject".toList = false := by decide

theorem not_starredTwice_of_single {s t : Text} (single : ¬ ['*', '*'] <:+ s) :
    ¬ StarredTwice s t := by
  rintro ⟨star, longer⟩
  obtain ⟨stem, rfl⟩ := List.getLast?_eq_some_iff.1 star
  have longer : s.map Char.toLower = Text.lower stem ++ ['*', '*'] := by
    rw [← Text.lower, longer, Text.lower_append, List.append_assoc]
    rfl
  obtain ⟨front, stars, rfl, -, lowered⟩ := List.map_eq_append_iff.1 longer
  have same : stars = ['*', '*'] := by
    rcases stars with _ | ⟨c, _ | ⟨d, _ | ⟨e, rest⟩⟩⟩ <;>
      simp_all [Text.toLower_eq_star_iff]
  exact single (same ▸ List.suffix_append front stars)

theorem subsumes_of_covers_text (single : ¬ ['*', '*'] <:+ p.text)
    (covered : p.covers q.text = true) : p.Subsumes q :=
  subsumes_iff.2 ⟨covered, not_starredTwice_of_single single⟩

end ActionPattern

/-- A stem in front of a visible text starts visibly too, or is empty. -/
theorem Text.startsVisible_of_lower_isPrefix {stem scope : Text} (visible : scope.StartsVisible)
    (leads : stem.lower <+: scope.lower) : stem.StartsVisible := by
  by_cases empty : stem = []
  · rw [empty]
    decide
  · exact (startsVisible_iff_of_lower_isPrefix empty leads).2 visible

theorem Statement.coversScope_of_wildcard {s : Statement} {stem scope : Text}
    (single : ∀ a ∈ s.actions, ¬ ['*', '*'] <:+ a.text) (visible : stem.StartsVisible)
    (leads : stem.lower <+: scope.lower) (covered : s.coversScope (stem ++ ['*']) = true) :
    s.coversScope scope = true := by
  obtain ⟨a, action, covered⟩ := coversScope_iff.1 covered
  have subsumes : a.Subsumes (.startingWith stem visible) :=
    ActionPattern.subsumes_of_covers_text (single a action) covered
  exact coversScope_iff.2
    ⟨a, action, subsumes scope (ActionPattern.startingWith_covers_iff.2 leads)⟩

/-! ## Queries for one scope -/

namespace Snapshot

variable {snapshot : Snapshot} {resources : List Text} {scope : Text} {matchAll below : Bool}

theorem grants_one_scope_iff (asked : scope.trim ≠ []) :
    snapshot.grants
        { resources, scopes := [scope], matchAll, containsResource := below } = true ↔
      (∀ d ∈ snapshot.statements, d.effect = .deny → ∀ r ∈ resources,
        d.appliesTo r scope.trim false = false) ∧
      ∃ r ∈ resources, Speaks snapshot.statements .allow r scope.trim below := by
  have anyMode :
      snapshot.grants { resources, scopes := [scope], matchAll, containsResource := below } =
        snapshot.grants { resources, scopes := [scope], containsResource := below } := by
    cases matchAll <;> simp [grants, Text.present_singleton asked]
  rw [anyMode, grants_any_iff rfl]
  simp only [Text.present_singleton asked, List.mem_singleton, forall_eq, exists_eq_left]

theorem grants_instances :
    (∀ p q : ActionPattern, ¬ ['*', '*'] <:+ p.text → p.covers q.text = true → p.Subsumes q) ∧
    ∀ snapshot : Snapshot,
      (∀ s ∈ snapshot.statements, s.effect ≠ .deny) →
      (∀ s ∈ snapshot.statements, ∀ a ∈ s.actions, ¬ ['*', '*'] <:+ a.text) →
      ∀ (resources : List Text) (stem : Text) (matchAll below : Bool),
        snapshot.grants { resources, scopes := [stem ++ ['*']], matchAll, containsResource := below } =
          true →
        ∀ scope : Text, scope ≠ [] → scope.IsTrimmed → stem.lower <+: scope.lower → ∀ mode : Bool,
          snapshot.grants
            { resources, scopes := [scope], matchAll := mode, containsResource := below } = true := by
  refine ⟨fun p q single => ActionPattern.subsumes_of_covers_text single, ?_⟩
  intro snapshot allows single resources stem matchAll below granted scope nonempty trimmed leads
    mode
  have visible := Text.startsVisible_of_lower_isPrefix trimmed.1 leads
  have wildcard : Text.trim (stem ++ ['*']) = stem ++ ['*'] :=
    Text.trim_eq_self_iff.2 ((Text.isTrimmed_concat_iff (by decide)).2 visible)
  have plain : scope.trim = scope := Text.trim_eq_self_iff.2 trimmed
  rw [grants_one_scope_iff (by rw [wildcard]; exact List.concat_ne_nil _ _), wildcard] at granted
  rw [grants_one_scope_iff (by rwa [plain]), plain]
  obtain ⟨-, r, named, s, held, kind, applies⟩ := granted
  obtain ⟨covered, reached⟩ := Statement.appliesTo_iff.1 applies
  have instanced := Statement.coversScope_of_wildcard (single s held) visible leads covered
  exact ⟨fun d member denies => absurd denies (allows d member),
    r, named, s, held, kind, Statement.appliesTo_iff.2 ⟨instanced, reached⟩⟩

/-- The scope that uploads ask for, granted by a wider wildcard in other letters. -/
theorem grants_instances_upload :
    let put : ActionPattern := ⟨"S3:P*".toList, by decide, by decide⟩
    let asked : ActionPattern := ⟨Scopes.putActions, by decide, by decide⟩
    let bucket : ResourcePattern := ⟨"b/".toList, true, "b/*".toList, by decide⟩
    let snapshot := allowing put bucket
    let stem := "s3:Put".toList
    let scope := "s3:putObjectRetention".toList
    let asking (scope : Text) (matchAll : Bool) : Query :=
      { resources := ["b/a".toList], scopes := [scope], matchAll }
    ¬ ['*', '*'] <:+ put.text ∧ put.covers asked.text = true ∧ asked.covers scope = true ∧
      put.covers scope = true ∧
      (∀ s ∈ snapshot.statements, s.effect ≠ .deny) ∧
      (∀ s ∈ snapshot.statements, ∀ a ∈ s.actions, ¬ ['*', '*'] <:+ a.text) ∧
      snapshot.grants (asking (stem ++ ['*']) false) = true ∧
      scope ≠ [] ∧ Text.IsTrimmed scope ∧ Text.lower stem <+: Text.lower scope ∧
      snapshot.grants (asking scope true) = true := by
  intro put asked bucket snapshot stem scope asking
  have single : ¬ ['*', '*'] <:+ put.text := by decide
  have covered : put.covers asked.text = true := by decide
  have instanced : asked.covers scope = true := by decide
  have allows : ∀ s ∈ snapshot.statements, s.effect ≠ .deny := by decide
  have singles : ∀ s ∈ snapshot.statements, ∀ a ∈ s.actions, ¬ ['*', '*'] <:+ a.text := by
    intro s held a action
    rw [mem_statements_allowing_iff.1 held] at action
    obtain rfl : put = a := by simpa [Statement.on] using action
    exact single
  have granted : snapshot.grants (asking (stem ++ ['*']) false) = true := by decide
  have nonempty : scope ≠ [] := by decide
  have trimmed : Text.IsTrimmed scope := by decide
  have leads : Text.lower stem <+: Text.lower scope := by decide
  exact ⟨single, covered, instanced, grants_instances.1 put asked single covered scope instanced,
    allows, singles, granted, nonempty, trimmed, leads,
    grants_instances.2 snapshot allows singles _ stem false false granted scope nonempty trimmed
      leads true⟩

end Snapshot
end ConsoleAccess
