import ConsoleAccess.Policy.Statement
import ConsoleAccess.Proofs.Text.Letters
import ConsoleAccess.Proofs.Text.Trimming
import Mathlib.Data.List.Basic

/-!
# What patterns and statements speak of

Matching in the terms of texts, without bytes, options or trees:

* `ActionPattern.covers_iff`: a scope agrees with the pattern up to letter case, or starts with what
  comes before its star.
* `ResourcePattern.covers_iff`: a resource is the literal, starts with it, or is what the literal
  has before a last slash.
* `Statement.appliesTo_iff`: one of the actions covers the scope and the resources cover the
  resource.

A statement sees no more of a request than the normalised resource and the scope up to letter case
(`Statement.appliesTo_congr`).
-/

namespace ConsoleAccess

/-! ## Actions -/

namespace ActionPattern

theorem covers_iff {p : ActionPattern} {scope : Text} :
    p.covers scope = true ↔ p.text.lower = scope.lower ∨
      ∃ stem, p.text = stem ++ ['*'] ∧ stem.lower <+: scope.lower := by
  rw [covers, Bool.or_eq_true, Text.sameLetters_iff]
  refine or_congr_right ?_
  cases star : p.text.dropEnd? '*' with
  | none =>
      simp only [Bool.false_eq_true, false_iff, not_exists, not_and]
      intro stem split
      rw [Text.dropEnd?_eq_some_iff.2 split] at star
      cases star
  | some stem =>
      have split := Text.dropEnd?_eq_some_iff.1 star
      simp only [Text.takeBytes?_any_sameLetters_iff]
      constructor
      · exact fun leads => ⟨stem, split, leads⟩
      · rintro ⟨stem', split', leads⟩
        rw [split, List.append_left_inj] at split'
        rwa [split']

theorem covers_congr (p : ActionPattern) {scope scope' : Text} (same : scope.lower = scope'.lower) :
    p.covers scope = p.covers scope' := by
  rw [Bool.eq_iff_iff, covers_iff, covers_iff, same]

theorem parse?_of_trim_ne_nil {raw : Text} (h : raw.trim ≠ []) :
    parse? raw = some ⟨raw.trim, raw.trim_isTrimmed, h⟩ := by
  rw [parse?, dif_neg h]

end ActionPattern

/-! ## Resources -/

@[simp] theorem normalizeResource_trim (raw : Text) :
    normalizeResource raw.trim = normalizeResource raw := by
  simp [normalizeResource]

theorem normalizeResource_suffix (raw : Text) : normalizeResource raw <:+ raw.trim := by
  unfold normalizeResource
  cases split : resourceArn.isPrefixOf? raw.trim with
  | none => exact List.suffix_rfl
  | some rest => exact ⟨resourceArn, List.append_eq_of_isPrefixOf?_eq_some split⟩

theorem normalizeResource_eq_self_iff {raw : Text} :
    normalizeResource raw = raw ↔ raw.IsTrimmed ∧ ¬ resourceArn <+: raw := by
  constructor
  · intro same
    have trimmed : raw.trim = raw := by
      have suffix := normalizeResource_suffix raw
      rw [same] at suffix
      exact raw.trim_sublist.eq_of_length_le suffix.length_le
    refine ⟨Text.trim_eq_self_iff.1 trimmed, ?_⟩
    rintro ⟨rest, split⟩
    -- The name would be shorter by the prefix.
    rw [normalizeResource, trimmed, List.isPrefixOf?_eq_some_iff_append_eq.2 split,
      Option.getD_some] at same
    have longer := congrArg List.length split
    rw [List.length_append, same] at longer
    have positive : 0 < resourceArn.length := by decide
    omega
  · rintro ⟨trimmed, unprefixed⟩
    unfold normalizeResource
    rw [Text.trim_eq_self_iff.2 trimmed]
    cases split : resourceArn.isPrefixOf? raw with
    | none => rfl
    | some rest => exact absurd ⟨rest, List.append_eq_of_isPrefixOf?_eq_some split⟩ unprefixed

theorem getLast?_normalizeResource {raw : Text} {c : Char} (last : raw.getLast? = some c)
    (visible : Text.isBlank c = false) (colon : c ≠ ':') :
    (normalizeResource raw).getLast? = some c := by
  have trimmed := Text.getLast?_trim last visible
  unfold normalizeResource
  cases split : resourceArn.isPrefixOf? raw.trim with
  | none => exact trimmed
  | some rest =>
      rw [← List.append_eq_of_isPrefixOf?_eq_some split] at trimmed
      cases rest with
      | nil =>
          have arnEnd : resourceArn.getLast? = some ':' := by decide
          rw [List.append_nil, arnEnd, Option.some.injEq] at trimmed
          exact absurd trimmed.symm colon
      | cons d rest =>
          rwa [List.getLast?_append_of_ne_nil _ (List.cons_ne_nil d rest)] at trimmed

theorem length_normalizeResource_le (raw : Text) : (normalizeResource raw).length ≤ raw.length :=
  (normalizeResource_suffix raw).length_le.trans raw.length_trim_le

theorem trim_ne_nil_of_named {raw : Text} (named : normalizeResource raw ≠ []) : raw.trim ≠ [] := by
  intro blank
  have suffix := normalizeResource_suffix raw
  rw [blank] at suffix
  exact named (List.suffix_nil.1 suffix)

theorem splitResource?_eq_none_iff {raw : Text} :
    splitResource? raw = none ↔ normalizeResource raw = [] ∨ normalizeResource raw = ['*'] := by
  simp only [splitResource?, Bool.or_eq_true, decide_eq_true_eq]
  split
  · simp_all
  · split <;> simp_all

theorem splitResource?_eq_some {raw literal : Text} {wildcard : Bool}
    (split : splitResource? raw = some (literal, wildcard)) :
    normalizeResource raw = literal ++ (if wildcard then ['*'] else []) ∧
      normalizeResource raw ≠ ['*'] ∧ (wildcard = false → literal.dropEnd? '*' = none) := by
  have kept : ¬ (normalizeResource raw = [] ∨ normalizeResource raw = ['*']) := by
    rw [← splitResource?_eq_none_iff, split]
    exact Option.some_ne_none _
  simp only [splitResource?, Bool.or_eq_true, decide_eq_true_eq, if_neg kept] at split
  cases star : (normalizeResource raw).dropEnd? '*' with
  | none =>
      rw [star] at split
      cases split
      simp_all
  | some stem =>
      rw [star] at split
      cases split
      simp_all [Text.dropEnd?_eq_some_iff]

namespace ResourcePattern

theorem covers_iff {p : ResourcePattern} {request : Text} :
    p.covers request = true ↔ normalizeResource request ≠ [] ∧
      if p.wildcard then
        p.literal <+: normalizeResource request ∨ p.literal = normalizeResource request ++ ['/']
      else p.literal = normalizeResource request := by
  unfold covers
  cases p.wildcard <;> simp [Text.dropEnd?_eq_some_iff]

theorem covers_iff_of_wildcard {p : ResourcePattern} {request : Text} (star : p.wildcard = true) :
    p.covers request = true ↔
      normalizeResource request ≠ [] ∧ p.literal <+: normalizeResource request ++ ['/'] := by
  rw [covers_iff, if_pos star, List.prefix_concat_iff, or_comm]

theorem getLast?_literal {p : ResourcePattern} (plain : p.wildcard = false) :
    p.literal.getLast? ≠ some '*' := by
  intro star
  obtain ⟨raw, split⟩ := p.written
  have none := (splitResource?_eq_some split).2.2 plain
  rw [Text.dropEnd?, if_pos star] at none
  cases none

theorem covers_congr (p : ResourcePattern) {request request' : Text}
    (same : normalizeResource request = normalizeResource request') :
    p.covers request = p.covers request' := by
  unfold covers; rw [same]

theorem contains_congr (p : ResourcePattern) {request request' : Text}
    (same : normalizeResource request = normalizeResource request') :
    p.contains request = p.contains request' := by
  unfold contains; rw [same]

theorem parse?_eq_some_iff {raw : Text} {p : ResourcePattern} :
    parse? raw = some p ↔ splitResource? raw = some (p.literal, p.wildcard) := by
  rw [← parse?_map, Option.map_eq_some_iff]
  constructor
  · exact fun parsed => ⟨p, parsed, rfl⟩
  · rintro ⟨q, parsed, same⟩
    rw [parsed, Option.some.injEq]
    exact ext (congrArg Prod.fst same) (congrArg Prod.snd same)

theorem parse?_eq_none_iff {raw : Text} :
    parse? raw = none ↔ normalizeResource raw = [] ∨ normalizeResource raw = ['*'] := by
  rw [← Option.map_eq_none_iff, parse?_map, splitResource?_eq_none_iff]

end ResourcePattern

namespace ResourceSet

theorem covers_congr (set : ResourceSet) {request request' : Text} (below : Bool)
    (same : normalizeResource request = normalizeResource request') :
    set.covers request below = set.covers request' below := by
  cases set with
  | all => simp only [covers, same]
  | patterns members =>
      simp only [covers, ResourcePattern.covers_congr _ same, ResourcePattern.contains_congr _ same]

theorem covers_unnamed (set : ResourceSet) {request : Text} (below : Bool)
    (unnamed : normalizeResource request = []) : set.covers request below = false := by
  cases set with
  | all => simp [covers, unnamed]
  | patterns members => simp [covers, ResourcePattern.covers, ResourcePattern.contains, unnamed]

theorem covers_of_covers_directly {set : ResourceSet} {request : Text} (below : Bool)
    (direct : set.covers request false = true) : set.covers request below = true := by
  cases set with
  | all => exact direct
  | patterns members =>
      simp only [covers, List.any_eq_true, Bool.false_and, Bool.or_false] at direct ⊢
      obtain ⟨p, member, covered⟩ := direct
      exact ⟨p, member, by rw [covered, Bool.true_or]⟩

end ResourceSet

/-! ## Statements -/

namespace Statement

theorem coversScope_iff {s : Statement} {scope : Text} :
    s.coversScope scope = true ↔ ∃ p ∈ s.actions, p.covers scope = true := by
  simp [coversScope, Std.ExtTreeSet.mem_toList]

theorem coversScope_congr (s : Statement) {scope scope' : Text} (same : scope.lower = scope'.lower) :
    s.coversScope scope = s.coversScope scope' := by
  simp only [coversScope, ActionPattern.covers_congr _ same]

theorem appliesTo_iff {s : Statement} {resource scope : Text} {below : Bool} :
    s.appliesTo resource scope below = true ↔
      s.coversScope scope = true ∧ s.resources.covers resource below = true := by
  rw [appliesTo, Bool.and_eq_true]

theorem appliesTo_congr (s : Statement) {resource resource' scope scope' : Text} (below : Bool)
    (sameResource : normalizeResource resource = normalizeResource resource')
    (sameScope : scope.lower = scope'.lower) :
    s.appliesTo resource scope below = s.appliesTo resource' scope' below := by
  rw [appliesTo, appliesTo, s.coversScope_congr sameScope, s.resources.covers_congr below sameResource]

theorem appliesTo_of_appliesTo_directly {s : Statement} {resource scope : Text} (below : Bool)
    (direct : s.appliesTo resource scope false = true) : s.appliesTo resource scope below = true := by
  rw [appliesTo_iff] at direct ⊢
  exact ⟨direct.1, ResourceSet.covers_of_covers_directly below direct.2⟩

theorem effect_of_make {effect : Effect} {actions resources : List Text} {s : Statement}
    (made : make effect actions resources = .ok s) : s.effect = effect := by
  unfold make ofParts at made
  cases set : ResourceSet.parse resources with
  | error e =>
      rw [set] at made
      cases made
  | ok set =>
      simp only [set] at made
      split at made
      · cases made
      · cases made
        rfl

def everywhere (effect : Effect) (p : ActionPattern) : Statement :=
  { effect, actions := .ofList [p] compare, resources := .all }

theorem appliesTo_everywhere_iff {effect : Effect} {p : ActionPattern} {resource scope : Text}
    {below : Bool} :
    (everywhere effect p).appliesTo resource scope below = true ↔
      p.covers scope = true ∧ normalizeResource resource ≠ [] := by
  simp [appliesTo_iff, coversScope_iff, everywhere, ResourceSet.covers]

def on (effect : Effect) (p : ActionPattern) (r : ResourcePattern) : Statement :=
  { effect, actions := .ofList [p] compare, resources := .patterns (.ofList [r] compare) }

theorem coversScope_on_iff {effect : Effect} {p : ActionPattern} {r : ResourcePattern}
    {scope : Text} : (on effect p r).coversScope scope = true ↔ p.covers scope = true := by
  simp [coversScope_iff, on]

theorem named_of_appliesTo {s : Statement} {resource scope : Text} {below : Bool}
    (applies : s.appliesTo resource scope below = true) : normalizeResource resource ≠ [] := by
  intro unnamed
  rw [appliesTo_iff, s.resources.covers_unnamed below unnamed] at applies
  exact Bool.false_ne_true applies.2

end Statement
end ConsoleAccess
