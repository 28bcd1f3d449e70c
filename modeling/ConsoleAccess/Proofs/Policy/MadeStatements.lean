import ConsoleAccess.Proofs.Policy.Matching

/-!
# Statements made of texts

What a statement keeps of the texts that it is made of: the effect that they name in any letters
(`Effect.parse_eq_ok_iff`), the resources that they stand for (`ResourceSet.parse_eq_ok_iff`) and
the actions among them that are not blank (`Statement.make_eq_ok_iff`). The order and the
repetitions of texts leave no trace (`Statement.MadeOf.congr`).
-/

namespace ConsoleAccess

theorem Effect.parse_eq_ok_iff {raw : Text} {e : Effect} :
    parse raw = .ok e ↔ raw.lower = e.text := by
  have allow : Text.lower Effect.allow.text = Effect.allow.text := by decide
  have deny : Text.lower Effect.deny.text = Effect.deny.text := by decide
  have apart : Effect.allow.text ≠ Effect.deny.text := by decide
  simp only [parse, Text.sameLetters_iff, allow, deny]
  split
  · next same => cases e <;> simp [same, apart]
  · next other =>
      split
      · next same => cases e <;> simp [same, apart.symm]
      · next neither => cases e <;> simp [other, neither]

/-! ## Resources -/

namespace ResourceSet

/-- Granted texts stand for all resources if one of them is a star, and else for the patterns that
they spell, of which there must be one. -/
inductive StandFor (raw : List Text) : ResourceSet → Prop
  | all (star : ∃ r ∈ raw, normalizeResource r = ['*']) : StandFor raw .all
  | patterns (members : Std.ExtTreeSet ResourcePattern compare)
      (plain : ∀ r ∈ raw, normalizeResource r ≠ ['*']) (nonempty : ∃ p, p ∈ members)
      (spelled : ∀ p, p ∈ members ↔
        ∃ r ∈ raw, ResourcePattern.parse? (normalizeResource r) = some p) :
      StandFor raw (.patterns members)

variable {raw raw' : List Text} {set set' : ResourceSet}

theorem StandFor.unique (first : StandFor raw set) (second : StandFor raw set') : set = set' := by
  cases first with
  | all star =>
      cases second with
      | all => rfl
      | patterns members plain =>
          obtain ⟨r, granted, name⟩ := star
          exact absurd name (plain r granted)
  | patterns members plain nonempty spelled =>
      cases second with
      | all star =>
          obtain ⟨r, granted, name⟩ := star
          exact absurd name (plain r granted)
      | patterns members' _ _ spelled' =>
          have same : members = members' := Std.ExtTreeSet.ext_mem fun p => by
            rw [spelled, spelled']
          rw [same]

theorem StandFor.congr (same : ∀ r, r ∈ raw ↔ r ∈ raw') (stand : StandFor raw set) :
    StandFor raw' set := by
  cases stand with
  | all star => exact .all (by simpa only [same] using star)
  | patterns members plain nonempty spelled =>
      exact .patterns members (by simpa only [same] using plain) nonempty
        (by simpa only [same] using spelled)

theorem StandFor.eq_iff (stand : StandFor raw set) : set = set' ↔ StandFor raw set' :=
  ⟨fun same => same ▸ stand, stand.unique⟩

theorem mem_spelled_iff {p : ResourcePattern} :
    p ∈ (raw.map normalizeResource).filterMap ResourcePattern.parse? ↔
      ∃ r ∈ raw, ResourcePattern.parse? (normalizeResource r) = some p := by
  simp only [List.mem_filterMap, List.mem_map, exists_exists_and_eq_and]

theorem standFor_spelled (plain : ∀ r ∈ raw, normalizeResource r ≠ ['*'])
    (nonempty : (raw.map normalizeResource).filterMap ResourcePattern.parse? ≠ []) :
    StandFor raw (.patterns
      (.ofList ((raw.map normalizeResource).filterMap ResourcePattern.parse?) compare)) := by
  have members (p : ResourcePattern) :
      p ∈ (Std.ExtTreeSet.ofList ((raw.map normalizeResource).filterMap ResourcePattern.parse?)
        compare) ↔ ∃ r ∈ raw, ResourcePattern.parse? (normalizeResource r) = some p := by
    rw [Std.ExtTreeSet.mem_ofList, List.contains_iff_mem, mem_spelled_iff]
  refine .patterns _ plain ?_ members
  obtain ⟨p, found⟩ := List.exists_mem_of_ne_nil _ nonempty
  exact ⟨p, (members p).2 (mem_spelled_iff.1 found)⟩

theorem not_standFor_of_none (plain : ∀ r ∈ raw, normalizeResource r ≠ ['*'])
    (none : (raw.map normalizeResource).filterMap ResourcePattern.parse? = []) :
    ¬ StandFor raw set := by
  rintro (⟨r, granted, name⟩ | ⟨members, -, ⟨p, member⟩, spelled⟩)
  · exact plain r granted name
  · have found := mem_spelled_iff.2 ((spelled p).1 member)
    rw [none] at found
    cases found

theorem parse_eq_ok_iff : parse raw = .ok set ↔ StandFor raw set := by
  unfold parse
  simp only [List.contains_iff_mem, List.mem_map]
  split
  · next star => rw [Except.ok.injEq, (StandFor.all star).eq_iff]
  · next other =>
      have plain : ∀ r ∈ raw, normalizeResource r ≠ ['*'] := fun r granted name =>
        other ⟨r, granted, name⟩
      split
      · next none =>
          simp only [reduceCtorEq, false_iff]
          exact not_standFor_of_none plain none
      · next nonempty =>
          rw [Except.ok.injEq, (standFor_spelled plain nonempty).eq_iff]

theorem exists_standFor_iff : (∃ set, StandFor raw set) ↔ ∃ r ∈ raw,
    normalizeResource r = ['*'] ∨ ∃ p, ResourcePattern.parse? (normalizeResource r) = some p := by
  constructor
  · rintro ⟨set, ⟨r, granted, name⟩ | ⟨members, -, ⟨p, member⟩, spelled⟩⟩
    · exact ⟨r, granted, Or.inl name⟩
    · obtain ⟨r, granted, parsed⟩ := (spelled p).1 member
      exact ⟨r, granted, Or.inr ⟨p, parsed⟩⟩
  · rintro ⟨r, granted, valid⟩
    by_cases star : ∃ r ∈ raw, normalizeResource r = ['*']
    · exact ⟨_, .all star⟩
    · have plain : ∀ r ∈ raw, normalizeResource r ≠ ['*'] := fun r granted name =>
        star ⟨r, granted, name⟩
      obtain ⟨p, parsed⟩ := valid.resolve_left (plain r granted)
      have member := mem_spelled_iff.2 ⟨r, granted, parsed⟩
      exact ⟨_, standFor_spelled plain (List.ne_nil_of_mem member)⟩

end ResourceSet

/-! ## Actions -/

namespace ActionPattern

theorem map_text_filterMap_parse? (actions : List Text) :
    (actions.filterMap parse?).map text = Text.present actions := by
  induction actions with
  | nil => rfl
  | cons raw actions ih =>
      by_cases blank : raw.trim = []
      · have none : parse? raw = none := dif_pos blank
        simpa [Text.present, none, blank] using ih
      · simpa [Text.present, parse?_of_trim_ne_nil blank, blank] using ih

end ActionPattern

namespace Statement

theorem mem_actionTexts_iff {s : Statement} {t : Text} :
    t ∈ s.actionTexts ↔ ∃ p ∈ s.actions, p.text = t := by
  simp [actionTexts, Std.ExtTreeSet.mem_toList]

structure MadeOf (effect : Effect) (actions resources : List Text) (s : Statement) : Prop where
  effect : s.effect = effect
  visible : Text.present actions ≠ []
  actions : ∀ t, t ∈ s.actionTexts ↔ t ∈ Text.present actions
  resources : ResourceSet.StandFor resources s.resources

variable {effect : Effect} {actions actions' resources resources' : List Text} {s s' : Statement}

theorem MadeOf.unique (first : MadeOf effect actions resources s)
    (second : MadeOf effect actions resources s') : s = s' := by
  have actions : s.actions = s'.actions := Std.ExtTreeSet.ext_mem fun p => by
    have texts := (first.actions p.text).trans (second.actions p.text).symm
    simpa only [mem_actionTexts_iff, ← ActionPattern.ext_iff, exists_eq_right] using texts
  have resources : s.resources = s'.resources := first.resources.unique second.resources
  have effect : s.effect = s'.effect := first.effect.trans second.effect.symm
  obtain ⟨e, as, rs⟩ := s
  obtain ⟨e', as', rs'⟩ := s'
  subst effect actions resources
  rfl

theorem MadeOf.congr (sameActions : ∀ t, t ∈ actions ↔ t ∈ actions')
    (sameResources : ∀ t, t ∈ resources ↔ t ∈ resources')
    (made : MadeOf effect actions resources s) : MadeOf effect actions' resources' s := by
  have present (t : Text) : t ∈ Text.present actions ↔ t ∈ Text.present actions' := by
    simp only [Text.mem_present, sameActions]
  obtain ⟨t, visible⟩ := List.exists_mem_of_ne_nil _ made.visible
  exact
    { effect := made.effect
      visible := List.ne_nil_of_mem ((present t).1 visible)
      actions := fun t => (made.actions t).trans (present t)
      resources := made.resources.congr sameResources }

theorem madeOf_found {set : ResourceSet} (visible : actions.filterMap ActionPattern.parse? ≠ [])
    (stand : ResourceSet.StandFor resources set) :
    MadeOf effect actions resources
      { effect, actions := .ofList (actions.filterMap ActionPattern.parse?), resources := set } := by
  have texts := ActionPattern.map_text_filterMap_parse? actions
  refine { effect := rfl, visible := ?_, actions := fun t => ?_, resources := stand }
  · rwa [← texts, Ne, List.map_eq_nil_iff]
  · simp only [mem_actionTexts_iff, Std.ExtTreeSet.mem_ofList, List.contains_iff_mem]
    rw [← texts, List.mem_map]

theorem exists_madeOf {set : ResourceSet} (visible : Text.present actions ≠ [])
    (stand : ResourceSet.StandFor resources set) : ∃ s, MadeOf effect actions resources s := by
  rw [← ActionPattern.map_text_filterMap_parse?, Ne, List.map_eq_nil_iff] at visible
  exact ⟨_, madeOf_found visible stand⟩

theorem make_eq_ok_iff :
    make effect actions resources = .ok s ↔ MadeOf effect actions resources s := by
  cases parsed : ResourceSet.parse resources with
  | error e =>
      simp only [make, parsed, reduceCtorEq, false_iff]
      intro made
      rw [ResourceSet.parse_eq_ok_iff.2 made.resources] at parsed
      cases parsed
  | ok set =>
      have stand := ResourceSet.parse_eq_ok_iff.1 parsed
      simp only [make, parsed, ofParts]
      split
      · next blank =>
          simp only [reduceCtorEq, false_iff]
          intro made
          apply made.visible
          rw [← ActionPattern.map_text_filterMap_parse?, blank, List.map_nil]
      · next visible =>
          have found : MadeOf effect actions resources _ := madeOf_found visible stand
          rw [Except.ok.injEq]
          exact ⟨fun same => same ▸ found, found.unique⟩

theorem parse_eq_ok_iff {raw : Text} : parse raw actions resources = .ok s ↔
    raw.lower = s.effect.text ∧ MadeOf s.effect actions resources s := by
  rw [← Effect.parse_eq_ok_iff]
  cases named : Effect.parse raw with
  | error e => simp [parse, named]
  | ok effect =>
      simp only [parse, named, Except.ok.injEq, make_eq_ok_iff]
      constructor
      · intro made
        have same := made.effect
        subst same
        exact ⟨rfl, made⟩
      · rintro ⟨rfl, made⟩
        exact made

end Statement

end ConsoleAccess
