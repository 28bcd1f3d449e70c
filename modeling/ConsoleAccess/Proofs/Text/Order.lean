import ConsoleAccess.Proofs.Text.Letters
import Mathlib.Data.List.Destutter
import Mathlib.Data.List.Sort
import Mathlib.Tactic.SplitIfs

/-!
# The order of texts

Texts are ordered by their code points, and that is the order of their UTF-8 bytes
(`Text.bytes_lt_bytes`). The bytes of a character are the digits of its code point, each with a mark
added, so the first digit in which two characters differ decides between them
(`Text.digit_cons_lt`); the marks of first bytes grow with the number of bytes that follow. So texts
of equal bytes are equal (`Text.bytes_injective`).

A list in which each text comes before the next is told by its members alone
(`Text.Increasing.eq_of_mem_iff`), so sorting and dropping repetitions gives what a set of texts
lists (`Text.sortedDistinct_eq_toList`).
-/

namespace ConsoleAccess.Text

/-! ## Bytes -/

def bytes (t : Text) : List UInt8 := t.flatMap String.utf8EncodeChar

@[simp] theorem bytes_nil : bytes [] = [] := rfl

@[simp] theorem bytes_cons (c : Char) (t : Text) :
    bytes (c :: t) = String.utf8EncodeChar c ++ bytes t := rfl

theorem bytes_append (s t : Text) : bytes (s ++ t) = s.bytes ++ t.bytes := List.flatMap_append

@[simp] theorem length_bytes (t : Text) : t.bytes.length = t.byteSize := by
  induction t with
  | nil => rfl
  | cons c t ih =>
      rw [bytes_cons, List.length_append, String.length_utf8EncodeChar, ih, byteSize_cons]

section
variable {m n v w : Nat} {s t : List UInt8}

theorem byte_cons_lt (small : n < 256) (less : m < n) :
    UInt8.ofNat m :: s < UInt8.ofNat n :: t := by
  rw [List.cons_lt_cons_iff, UInt8.lt_iff_toNat_lt, UInt8.toNat_ofNat', UInt8.toNat_ofNat']
  left
  omega

theorem digit_cons_lt (place base mark : Nat) (positive : 0 < base)
    (fits : base + mark ≤ 256) (less : v % (base * place) < w % (base * place))
    (rest : v % place < w % place → s < t) :
    UInt8.ofNat (v / place % base + mark) :: s < UInt8.ofNat (w / place % base + mark) :: t := by
  have digit (n : Nat) : n / place % base = n % (base * place) / place := by
    rw [Nat.mul_comm, Nat.mod_mul_right_div_self]
  have remainder (n : Nat) : n % place = n % (base * place) % place := by
    rw [Nat.mod_mul_left_mod]
  rw [digit, digit]
  have ordered : v % (base * place) / place ≤ w % (base * place) / place :=
    Nat.div_le_div_right less.le
  rcases ordered.lt_or_eq with lower | same
  · have bound : w % (base * place) / place < base := by
      rw [← digit]
      exact Nat.mod_lt _ positive
    exact byte_cons_lt (by omega) (by omega)
  · rw [same]
    refine List.cons_lt_cons_iff.2 (Or.inr ⟨rfl, rest ?_⟩)
    rw [remainder v, remainder w]
    have first := Nat.div_add_mod (v % (base * place)) place
    have second := Nat.div_add_mod (w % (base * place)) place
    rw [same] at first
    omega

theorem utf8EncodeChar_append_lt {c d : Char} (less : c < d) :
    String.utf8EncodeChar c ++ s < String.utf8EncodeChar d ++ t := by
  have less : c.val.toNat < d.val.toNat := less
  have bound : d.val.toNat < 0x110000 := by
    have valid := d.valid
    simp only [UInt32.isValidChar, Nat.isValidChar] at valid
    omega
  unfold String.utf8EncodeChar
  simp only
  generalize c.val.toNat = v at *
  generalize d.val.toNat = w at *
  split_ifs
  -- Of two lengths the longer has the greater first byte; of one length the digits decide.
  all_goals try omega
  all_goals try exact byte_cons_lt (by omega) (by omega)
  · refine digit_cons_lt 64 32 192 (by decide) (by decide) (by omega) fun less => ?_
    exact byte_cons_lt (by omega) (by omega)
  · refine digit_cons_lt 4096 16 224 (by decide) (by decide) (by omega) fun less => ?_
    refine digit_cons_lt 64 64 128 (by decide) (by decide) less fun less => ?_
    exact byte_cons_lt (by omega) (by omega)
  · refine digit_cons_lt 262144 8 240 (by decide) (by decide) (by omega) fun less => ?_
    refine digit_cons_lt 4096 64 128 (by decide) (by decide) less fun less => ?_
    refine digit_cons_lt 64 64 128 (by decide) (by decide) less fun less => ?_
    exact byte_cons_lt (by omega) (by omega)

end

theorem bytes_lt_bytes {s t : Text} (less : compare s t = .lt) : s.bytes < t.bytes := by
  induction s generalizing t with
  | nil =>
      cases t with
      | nil => cases less
      | cons d t =>
          cases code : String.utf8EncodeChar d with
          | nil =>
              have length := String.length_utf8EncodeChar d
              have positive := d.utf8Size_pos
              rw [code, List.length_nil] at length
              omega
          | cons b rest =>
              rw [bytes_cons, code]
              exact List.nil_lt_cons _ _
  | cons c s ih =>
      cases t with
      | nil => cases less
      | cons d t =>
          rw [List.compare_cons_cons, Ordering.then_eq_lt] at less
          rcases less with less | ⟨same, less⟩
          · exact utf8EncodeChar_append_lt (compareOfLessAndEq_eq_lt.1 less)
          · rw [Std.LawfulEqOrd.eq_of_compare same]
            exact List.append_left_lt (ih less)

theorem bytes_injective : Function.Injective bytes := by
  have apart {s t : Text} (less : compare s t = .lt) : s.bytes ≠ t.bytes := by
    intro same
    have below := bytes_lt_bytes less
    rw [same] at below
    exact List.lt_irrefl _ below
  intro s t same
  cases order : compare s t with
  | eq => exact Std.LawfulEqOrd.eq_of_compare order
  | lt => exact absurd same (apart order)
  | gt =>
      rw [Std.OrientedOrd.eq_swap, Ordering.swap_eq_gt] at order
      exact absurd same.symm (apart order)

/-! ## Increasing lists -/

def Increasing (texts : List Text) : Prop := texts.Pairwise fun s t => compare s t = .lt

variable {texts texts' : List Text}

theorem Increasing.bytes (increasing : Increasing texts) :
    (texts.map Text.bytes).Pairwise (· < ·) :=
  increasing.map Text.bytes fun _ _ => bytes_lt_bytes

theorem Increasing.eq_of_mem_iff (increasing : Increasing texts) (increasing' : Increasing texts')
    (same : ∀ t, t ∈ texts ↔ t ∈ texts') : texts = texts' := by
  have antisymm : Std.Antisymm fun s t : Text => compare s t = .lt := by
    constructor
    intro s t less more
    rw [Std.OrientedOrd.eq_swap, more] at less
    cases less
  have irrefl : Std.Irrefl fun s t : Text => compare s t = .lt := by
    constructor
    intro t less
    rw [Std.ReflOrd.compare_self] at less
    cases less
  exact List.Pairwise.eq_of_mem_iff increasing increasing' same

def sortedDistinct (texts : List Text) : List Text :=
  (texts.mergeSort fun s t => (compare s t).isLE).destutter (· ≠ ·)

theorem pairwise_mergeSort_on {α : Type} (key : α → Text) (entries : List α) :
    (entries.mergeSort fun a b => (compare (key a) (key b)).isLE).Pairwise
      fun a b => (compare (key a) (key b)).isLE := by
  apply List.pairwise_mergeSort
  · intro a b c
    exact Std.TransOrd.isLE_trans
  · intro a b
    rw [Std.OrientedOrd.eq_swap]
    cases compare (key b) (key a) <;> rfl

theorem pairwise_mergeSort (texts : List Text) :
    (texts.mergeSort fun s t => (compare s t).isLE).Pairwise fun s t => (compare s t).isLE :=
  pairwise_mergeSort_on id texts

theorem sortedDistinct_eq_dedup (texts : List Text) :
    sortedDistinct texts = (texts.mergeSort fun s t => (compare s t).isLE).dedup := by
  have antisymm : Std.Antisymm fun s t : Text => (compare s t).isLE = true := by
    constructor
    intro s t lower upper
    exact Std.LawfulEqOrd.eq_of_compare (Std.OrientedCmp.isLE_antisymm lower upper)
  exact (pairwise_mergeSort texts).destutter_eq_dedup

theorem mem_sortedDistinct_iff {t : Text} : t ∈ sortedDistinct texts ↔ t ∈ texts := by
  rw [sortedDistinct_eq_dedup, List.mem_dedup, List.mem_mergeSort]

theorem increasing_sortedDistinct (texts : List Text) : Increasing (sortedDistinct texts) := by
  rw [sortedDistinct_eq_dedup]
  have sorted := (pairwise_mergeSort texts).sublist (List.dedup_sublist _)
  have distinct := List.nodup_dedup (texts.mergeSort fun s t => (compare s t).isLE)
  refine (sorted.and distinct).imp fun {s t} ⟨lower, apart⟩ => ?_
  rcases Ordering.isLE_iff_eq_lt_or_eq_eq.1 lower with less | same
  · exact less
  · exact absurd (Std.LawfulEqOrd.eq_of_compare same) apart

theorem sortedDistinct_eq_toList {listed : TextSet} (same : ∀ t, t ∈ texts ↔ t ∈ listed) :
    sortedDistinct texts = listed.toList := by
  apply (increasing_sortedDistinct texts).eq_of_mem_iff Std.ExtTreeSet.ordered_toList
  intro t
  rw [mem_sortedDistinct_iff, same, Std.ExtTreeSet.mem_toList]

end ConsoleAccess.Text
