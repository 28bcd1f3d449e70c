/-!
Blank characters: the members of Unicode's White_Space property, and trimming by them.

* `Text.trim` drops blanks at both ends and nothing else.
* `Text.trim_isTrimmed`: what is left neither starts nor ends with a blank.
-/

namespace ConsoleAccess

/-- Texts are lists of characters (Unicode scalar values). -/
abbrev Text := List Char

namespace Text

def blankRanges : List (Nat × Nat) :=
  [(0x09, 0x0D), (0x20, 0x20), (0x85, 0x85), (0xA0, 0xA0), (0x1680, 0x1680), (0x2000, 0x200A),
    (0x2028, 0x2029), (0x202F, 0x202F), (0x205F, 0x205F), (0x3000, 0x3000)]

def isBlank (c : Char) : Bool :=
  blankRanges.any fun (first, last) => first ≤ c.toNat && c.toNat ≤ last

def trimStart (t : Text) : Text := t.dropWhile isBlank

def trimEnd (t : Text) : Text := (t.reverse.dropWhile isBlank).reverse

def trim (t : Text) : Text := t.trimStart.trimEnd

def IsTrimmed (t : Text) : Prop :=
  (∀ c ∈ t.head?, isBlank c = false) ∧ (∀ c ∈ t.getLast?, isBlank c = false)

instance (t : Text) : Decidable t.IsTrimmed :=
  decidable_of_iff (t.head?.all (!isBlank ·) = true ∧ t.getLast?.all (!isBlank ·) = true)
    (by simp [IsTrimmed, Option.all_eq_true])

example : (blankRanges.map fun (first, last) => last + 1 - first).sum = 25 := by decide

theorem head?_dropWhile_isBlank (t : Text) :
    ∀ c ∈ (t.dropWhile isBlank).head?, isBlank c = false := by
  intro c hc
  have := List.head?_dropWhile_not isBlank t
  cases h : (t.dropWhile isBlank).head? with
  | none => simp [h] at hc
  | some d => simp [h] at hc this; simp_all

theorem trimEnd_isPrefix (t : Text) : t.trimEnd <+: t := by
  rw [← List.reverse_suffix]
  simpa [trimEnd] using List.dropWhile_suffix isBlank

theorem trim_isTrimmed (t : Text) : t.trim.IsTrimmed := by
  constructor
  · intro c hc
    obtain ⟨rest, h⟩ := trimEnd_isPrefix t.trimStart
    refine head?_dropWhile_isBlank t c ?_
    change c ∈ t.trimStart.head?
    cases hd : t.trimStart.trimEnd with
    | nil => simp [trim, hd] at hc
    | cons d ds => rw [← h, hd]; simpa [trim, hd] using hc
  · intro c hc
    refine head?_dropWhile_isBlank t.trimStart.reverse c ?_
    simpa [trim, trimEnd] using hc

end Text
end ConsoleAccess
