import ConsoleAccess.Proofs.Text.Trimming
import ConsoleAccess.Text.Case
import ConsoleAccess.Text.Utf8

/-!
# Letter case, blanks and byte lengths

Lowering letters keeps what is blank, so also what is trimmed. It keeps the bytes that each character
takes, so a cut after some number of bytes falls between the same characters of two texts that agree
up to letter case.
-/

namespace ConsoleAccess.Text

theorem toNat_toLower (c : Char) :
    c.toLower.toNat = if 65 ≤ c.toNat ∧ c.toNat ≤ 90 then c.toNat + 32 else c.toNat := by
  have letter : c.val ≥ 'A'.val ∧ c.val ≤ 'Z'.val ↔ 65 ≤ c.toNat ∧ c.toNat ≤ 90 := by
    simp [UInt32.le_iff_toNat_le]
  unfold Char.toLower
  split
  · next upper =>
      have bounds := letter.1 upper
      rw [if_pos bounds]
      change (c.val + 32).toNat = c.toNat + 32
      rw [UInt32.toNat_add]
      change (c.toNat + 32) % 2 ^ 32 = c.toNat + 32
      omega
  · next other => rw [if_neg (mt letter.2 other)]

/-- Lowering leaves a character alone or takes a letter to the one 32 places on. -/
theorem toLower_eq_self_or_letter (c : Char) :
    c.toLower = c ∨ (65 ≤ c.toNat ∧ c.toNat ≤ 90) ∧ c.toLower.toNat = c.toNat + 32 := by
  have value := toNat_toLower c
  by_cases upper : 65 ≤ c.toNat ∧ c.toNat ≤ 90
  · rw [if_pos upper] at value
    exact Or.inr ⟨upper, value⟩
  · rw [if_neg upper] at value
    exact Or.inl (Char.ext (UInt32.toNat_inj.1 value))

theorem utf8Size_of_small {c : Char} (small : c.toNat ≤ 127) : c.utf8Size = 1 := by
  rw [Char.utf8Size_eq_one_iff, UInt32.le_iff_toNat_le]
  exact small

theorem utf8Size_toLower (c : Char) : c.toLower.utf8Size = c.utf8Size := by
  rcases toLower_eq_self_or_letter c with same | ⟨upper, lowered⟩
  · rw [same]
  · rw [utf8Size_of_small, utf8Size_of_small] <;> omega

theorem isBlank_eq_false_of_letter {c : Char} (first : 65 ≤ c.toNat) (last : c.toNat ≤ 122) :
    isBlank c = false := by
  simp only [isBlank, blankRanges, List.any_cons, List.any_nil, Bool.or_eq_false_iff,
    Bool.and_eq_false_iff, decide_eq_false_iff_not, and_true]
  omega

theorem isBlank_toLower (c : Char) : isBlank c.toLower = isBlank c := by
  rcases toLower_eq_self_or_letter c with same | ⟨upper, lowered⟩
  · rw [same]
  · rw [isBlank_eq_false_of_letter, isBlank_eq_false_of_letter] <;> omega

theorem toLower_eq_star_iff {c : Char} : c.toLower = '*' ↔ c = '*' := by
  rcases toLower_eq_self_or_letter c with same | ⟨upper, lowered⟩
  · rw [same]
  · have star : '*'.toNat = 42 := rfl
    constructor
    · intro isStar
      rw [isStar] at lowered
      omega
    · rintro rfl
      omega

theorem isTrimmed_lower_iff {t : Text} : t.lower.IsTrimmed ↔ t.IsTrimmed := by
  simp [IsTrimmed, lower, isBlank_toLower]

@[simp] theorem byteSize_nil : byteSize [] = 0 := rfl

@[simp] theorem byteSize_cons (c : Char) (t : Text) :
    byteSize (c :: t) = c.utf8Size + byteSize t := rfl

@[simp] theorem byteSize_lower (t : Text) : t.lower.byteSize = t.byteSize := by
  induction t with
  | nil => rfl
  | cons c t ih => simp_all [lower, utf8Size_toLower]

theorem byteSize_eq_zero_iff {t : Text} : t.byteSize = 0 ↔ t = [] := by
  cases t with
  | nil => simp
  | cons c t =>
      have positive := c.utf8Size_pos
      simp only [byteSize_cons, reduceCtorEq, iff_false]
      omega

theorem takeBytes?_eq_some_iff {t head : Text} {n : Nat} :
    t.takeBytes? n = some head ↔ head <+: t ∧ head.byteSize = n := by
  induction t generalizing n head with
  | nil =>
      cases n with
      | zero =>
          simp only [takeBytes?, Option.some.injEq, List.prefix_nil, byteSize_eq_zero_iff, and_self]
          exact eq_comm
      | succ n =>
          simp only [takeBytes?, reduceCtorEq, List.prefix_nil, false_iff, not_and]
          rintro rfl
          simp
  | cons c t ih =>
      cases n with
      | zero =>
          simp only [takeBytes?, Option.some.injEq, byteSize_eq_zero_iff]
          constructor
          · rintro rfl
            exact ⟨List.nil_prefix, rfl⟩
          · exact fun h => h.2.symm
      | succ n =>
          have positive := c.utf8Size_pos
          simp only [takeBytes?]
          cases head with
          | nil => split <;> simp
          | cons d head =>
              rw [List.cons_prefix_cons, byteSize_cons]
              split
              · next fits =>
                  simp only [Option.map_eq_some_iff, List.cons.injEq, ih]
                  constructor
                  · rintro ⟨rest, ⟨leads, size⟩, rfl, rfl⟩
                    exact ⟨⟨rfl, leads⟩, by omega⟩
                  · rintro ⟨⟨rfl, leads⟩, size⟩
                    exact ⟨head, ⟨leads, by omega⟩, rfl, rfl⟩
              · next tooLong =>
                  simp only [reduceCtorEq, false_iff, not_and]
                  rintro ⟨rfl, -⟩
                  omega

theorem lower_prefix_of_prefix {s t : Text} (h : s <+: t) : s.lower <+: t.lower :=
  h.map Char.toLower

theorem startsVisible_iff_of_lower_isPrefix {s t : Text} (nonempty : s ≠ [])
    (leads : s.lower <+: t.lower) : s.StartsVisible ↔ t.StartsVisible := by
  cases s with
  | nil => exact absurd rfl nonempty
  | cons d s =>
      cases t with
      | nil => cases List.prefix_nil.1 leads
      | cons e t =>
          have same : d.toLower = e.toLower := (List.cons_prefix_cons.1 leads).1
          have blank : isBlank d = isBlank e := by
            rw [← isBlank_toLower, same, isBlank_toLower]
          simp [StartsVisible, blank]

theorem takeBytes?_any_sameLetters_iff {t stem : Text} :
    (t.takeBytes? stem.byteSize).any (·.sameLetters stem) = true ↔ stem.lower <+: t.lower := by
  simp only [Option.any_eq_true, takeBytes?_eq_some_iff, sameLetters_iff]
  constructor
  · rintro ⟨head, ⟨leads, -⟩, same⟩
    rw [← same]
    exact lower_prefix_of_prefix leads
  · intro leads
    obtain ⟨head, starts, same⟩ := List.prefix_map_iff.1 leads
    refine ⟨head, ⟨starts, ?_⟩, same.symm⟩
    rw [← byteSize_lower head, ← byteSize_lower stem, same, lower]

end ConsoleAccess.Text
