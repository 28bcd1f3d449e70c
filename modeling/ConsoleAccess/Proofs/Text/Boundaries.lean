import ConsoleAccess.Proofs.Text.Order

/-!
# Texts by their bytes

Cutting, comparing and shortening a text through its UTF-8 bytes alone. A character has one byte
below 128, or a first byte from 192 on and then tail bytes between these
(`Utf8.utf8EncodeChar_cases`), so a cut is between characters just if no tail byte follows it
(`Utf8.isBoundary_bytes`), and the bytes of ASCII letters and stars stand for these characters only.

Each operation on bytes is the one on characters: `Utf8.cut?_bytes`, `Utf8.sameLetters_bytes` and
`Utf8.dropStar?_bytes`.
-/

namespace ConsoleAccess.Utf8

variable {b : UInt8} {c : Char} {t : Text} {n : Nat}

/-! ## The bytes of one character -/

def isTail (b : UInt8) : Bool := 0x80 ≤ b && b ≤ 0xBF

theorem isTail_iff : isTail b = true ↔ 128 ≤ b.toNat ∧ b.toNat ≤ 191 := by
  simp [isTail, UInt8.le_iff_toNat_le]

theorem isTail_digit (v : Nat) : isTail (UInt8.ofNat (v % 64 + 128)) = true := by
  rw [isTail_iff, UInt8.toNat_ofNat']
  omega

theorem utf8EncodeChar_cases (c : Char) :
    c.toNat ≤ 127 ∧ String.utf8EncodeChar c = [UInt8.ofNat c.toNat] ∨
      127 < c.toNat ∧ ∃ first tails, String.utf8EncodeChar c = first :: tails ∧
        192 ≤ first.toNat ∧ ∀ b ∈ tails, isTail b = true := by
  unfold String.utf8EncodeChar
  simp only [Char.toNat]
  generalize c.val.toNat = v
  split_ifs with one two three
  · exact Or.inl ⟨one, rfl⟩
  all_goals
    refine Or.inr ⟨by omega, _, _, rfl, ?_, ?_⟩
    · rw [UInt8.toNat_ofNat']
      omega
    · simp only [List.forall_mem_cons, isTail_digit, true_and]
      exact List.forall_mem_nil _

theorem exists_tails (c : Char) :
    ∃ first tails, String.utf8EncodeChar c = first :: tails ∧ isTail first = false ∧
      ∀ b ∈ tails, isTail b = true := by
  rcases utf8EncodeChar_cases c with ⟨small, code⟩ | ⟨-, first, tails, code, lead, tail⟩
  · refine ⟨_, [], code, ?_, List.forall_mem_nil _⟩
    rw [← Bool.not_eq_true, isTail_iff, UInt8.toNat_ofNat']
    omega
  · refine ⟨first, tails, code, ?_, tail⟩
    rw [← Bool.not_eq_true, isTail_iff]
    omega

theorem high_of_mem_utf8EncodeChar (wide : 127 < c.toNat) (member : b ∈ String.utf8EncodeChar c) :
    127 < b.toNat := by
  rcases utf8EncodeChar_cases c with ⟨small, -⟩ | ⟨-, first, tails, code, lead, tail⟩
  · omega
  · rw [code, List.mem_cons] at member
    rcases member with rfl | member
    · omega
    · have bounds := isTail_iff.1 (tail b member)
      omega

/-! ## Cuts -/

def isBoundary (bytes : List UInt8) (n : Nat) : Bool :=
  n == 0 ||
    match bytes[n]? with
    | some b => !isTail b
    | none => n == bytes.length

def cut? (bytes : List UInt8) (n : Nat) : Option (List UInt8) :=
  if isBoundary bytes n then some (bytes.take n) else none

theorem isTail_head_bytes (t : Text) : ∀ b ∈ t.bytes[0]?, isTail b = false := by
  intro b head
  cases t with
  | nil => cases head
  | cons c t =>
      obtain ⟨first, tails, code, lead, -⟩ := exists_tails c
      rw [Text.bytes_cons, code] at head
      cases head
      exact lead

theorem isBoundary_behind (front : List UInt8) (t : Text) (n : Nat) :
    isBoundary (front ++ t.bytes) (front.length + n) = isBoundary t.bytes n := by
  have next : (front ++ t.bytes)[front.length + n]? = t.bytes[n]? := by
    rw [List.getElem?_append_right (Nat.le_add_right _ _), Nat.add_sub_cancel_left]
  have ending : (front.length + n == (front ++ t.bytes).length) = (n == t.bytes.length) := by
    simp
  simp only [isBoundary, next, ending]
  cases n with
  | succ n => rfl
  | zero =>
      -- A cut right behind the front is one, for the text starts with no tail byte.
      cases head : t.bytes[0]? with
      | some b => simp [isTail_head_bytes t b head]
      | none =>
          have empty : t.bytes.length = 0 := by simpa using head
          simp [empty]

theorem isBoundary_inside (rest : List UInt8) (positive : 0 < n) (inside : n < c.utf8Size) :
    isBoundary (String.utf8EncodeChar c ++ rest) n = false := by
  obtain ⟨first, tails, code, -, tail⟩ := exists_tails c
  obtain ⟨m, rfl⟩ : ∃ m, n = m + 1 := ⟨n - 1, by omega⟩
  rw [← String.length_utf8EncodeChar, code, List.length_cons] at inside
  have short : m < tails.length := by omega
  have next : (first :: tails ++ rest)[m + 1]? = some tails[m] := by
    rw [List.cons_append, List.getElem?_cons_succ, List.getElem?_append_left short,
      List.getElem?_eq_getElem short]
  rw [code, isBoundary, next]
  simp [tail _ (List.getElem_mem short)]

theorem isBoundary_bytes (t : Text) (n : Nat) :
    isBoundary t.bytes n = (t.takeBytes? n).isSome := by
  fun_induction Text.takeBytes? t n with
  | case1 t => rfl
  | case2 n => rfl
  | case3 c t n fits ih =>
      have behind := isBoundary_behind (String.utf8EncodeChar c) t (n + 1 - c.utf8Size)
      rw [String.length_utf8EncodeChar, Nat.add_sub_cancel' fits] at behind
      rw [Text.bytes_cons, behind, ih, Option.isSome_map]
  | case4 c t n tooLong => exact isBoundary_inside _ n.succ_pos (Nat.lt_of_not_le tooLong)

theorem take_bytes_of_isPrefix {head : Text} (leads : head <+: t) :
    t.bytes.take head.byteSize = head.bytes := by
  obtain ⟨rest, rfl⟩ := leads
  rw [Text.bytes_append, ← Text.length_bytes]
  exact List.take_left

theorem cut?_bytes (t : Text) (n : Nat) : cut? t.bytes n = (t.takeBytes? n).map Text.bytes := by
  rw [cut?, isBoundary_bytes]
  cases taken : t.takeBytes? n with
  | none => rfl
  | some head =>
      obtain ⟨leads, rfl⟩ := Text.takeBytes?_eq_some_iff.1 taken
      rw [Option.isSome_some, if_pos rfl, take_bytes_of_isPrefix leads, Option.map_some]

example : cut? (Text.bytes ['é', 'é']) 3 = none ∧
    cut? (Text.bytes ['é', 'é']) 2 = some [0xC3, 0xA9] := by decide

/-! ## Letter case -/

def isCapital (b : UInt8) : Bool := 0x41 ≤ b && b ≤ 0x5A

theorem isCapital_iff : isCapital b = true ↔ 65 ≤ b.toNat ∧ b.toNat ≤ 90 := by
  simp [isCapital, UInt8.le_iff_toNat_le]

def lowerByte (b : UInt8) : UInt8 := if isCapital b then b + 0x20 else b

def sameLetters (s t : List UInt8) : Bool := s.map lowerByte == t.map lowerByte

theorem lowerByte_of_high (high : 127 < b.toNat) : lowerByte b = b := by
  rw [lowerByte, if_neg]
  rw [isCapital_iff]
  omega

theorem lowerByte_ofNat (small : c.toNat ≤ 127) :
    lowerByte (UInt8.ofNat c.toNat) = UInt8.ofNat c.toLower.toNat := by
  have capital : isCapital (UInt8.ofNat c.toNat) = true ↔ 65 ≤ c.toNat ∧ c.toNat ≤ 90 := by
    rw [isCapital_iff, UInt8.toNat_ofNat', Nat.mod_eq_of_lt (by omega)]
  simp only [lowerByte, capital, Text.toNat_toLower]
  split_ifs
  · rw [UInt8.ofNat_add]
    rfl
  · rfl

theorem utf8EncodeChar_toLower (c : Char) :
    String.utf8EncodeChar c.toLower = (String.utf8EncodeChar c).map lowerByte := by
  rcases utf8EncodeChar_cases c with ⟨small, code⟩ | ⟨wide, -⟩
  · have lowered : c.toLower.toNat ≤ 127 := by
      rw [Text.toNat_toLower]
      split_ifs <;> omega
    rcases utf8EncodeChar_cases c.toLower with ⟨-, code'⟩ | ⟨wide, -⟩
    · rw [code, code', List.map_singleton, lowerByte_ofNat small]
    · omega
  · have same : c.toLower = c := by
      rcases Text.toLower_eq_self_or_letter c with same | ⟨upper, -⟩
      · exact same
      · omega
    have kept : (String.utf8EncodeChar c).map lowerByte = String.utf8EncodeChar c := by
      rw [List.map_congr_left fun b member =>
        lowerByte_of_high (high_of_mem_utf8EncodeChar wide member), List.map_id']
    rw [same, kept]

theorem bytes_lower (t : Text) : t.lower.bytes = t.bytes.map lowerByte := by
  rw [Text.lower, Text.bytes, Text.bytes, List.flatMap_map, List.map_flatMap]
  exact List.flatMap_congr fun c _ => utf8EncodeChar_toLower c

theorem sameLetters_bytes (s t : Text) : sameLetters s.bytes t.bytes = s.sameLetters t := by
  rw [Bool.eq_iff_iff, Text.sameLetters_iff, sameLetters, beq_iff_eq, ← bytes_lower, ← bytes_lower]
  exact Text.bytes_injective.eq_iff

/-! ## Stars -/

def dropStar? (bytes : List UInt8) : Option (List UInt8) :=
  if bytes.getLast? = some 0x2A then some bytes.dropLast else none

theorem dropStar?_eq_some_iff {bytes stem : List UInt8} :
    dropStar? bytes = some stem ↔ bytes = stem ++ [0x2A] := by
  rw [dropStar?, Option.ite_none_right_eq_some, Option.some.injEq]
  constructor
  · rintro ⟨star, rfl⟩
    obtain ⟨front, rfl⟩ := List.getLast?_eq_some_iff.1 star
    rw [List.dropLast_concat]
  · rintro rfl
    exact ⟨List.getLast?_concat, List.dropLast_concat⟩

theorem eq_star_of_mem_utf8EncodeChar (member : 0x2A ∈ String.utf8EncodeChar c) : c = '*' := by
  rcases utf8EncodeChar_cases c with ⟨small, code⟩ | ⟨wide, -⟩
  · rw [code, List.mem_singleton] at member
    have value := congrArg UInt8.toNat member
    rw [UInt8.toNat_ofNat'] at value
    change 42 = c.toNat % 256 at value
    have star : c.toNat = '*'.toNat := by
      change c.toNat = 42
      omega
    rw [← Char.ofNat_toNat c, star, Char.ofNat_toNat]
  · exact absurd (high_of_mem_utf8EncodeChar wide member) (by decide)

theorem bytes_concat_star (stem : Text) : Text.bytes (stem ++ ['*']) = stem.bytes ++ [0x2A] := by
  rw [Text.bytes_append]
  rfl

theorem exists_front_of_star {stem : List UInt8} (split : t.bytes = stem ++ [0x2A]) :
    ∃ front : Text, t = front ++ ['*'] ∧ front.bytes = stem := by
  rcases List.eq_nil_or_concat' t with rfl | ⟨front, c, rfl⟩
  · exact absurd split.symm (List.concat_ne_nil _ _)
  · -- The last byte belongs to the last character.
    have last : 0x2A ∈ String.utf8EncodeChar c := by
      have ending := congrArg List.getLast? split
      rw [Text.bytes_append, List.getLast?_concat, Text.bytes_cons, Text.bytes_nil,
        List.append_nil, List.getLast?_append_of_ne_nil _ String.utf8EncodeChar_ne_nil] at ending
      exact List.mem_of_getLast? ending
    obtain rfl := eq_star_of_mem_utf8EncodeChar last
    rw [bytes_concat_star] at split
    exact ⟨front, rfl, List.append_cancel_right split⟩

theorem dropStar?_bytes (t : Text) : dropStar? t.bytes = (t.dropEnd? '*').map Text.bytes := by
  ext stem
  simp only [dropStar?_eq_some_iff, Option.map_eq_some_iff, Text.dropEnd?_eq_some_iff]
  constructor
  · exact exists_front_of_star
  · rintro ⟨front, rfl, rfl⟩
    exact bytes_concat_star front

end ConsoleAccess.Utf8
