import ConsoleAccess.Dictionary
import Mathlib.Data.List.DropRight

/-!
# Trimming

A trimmed text is one that trimming leaves alone, so trimming twice is trimming once, and the texts
that `Text.present` keeps are trimmed.
-/

namespace ConsoleAccess.Text

theorem trimEnd_eq_rdropWhile (t : Text) : t.trimEnd = List.rdropWhile isBlank t := rfl

def StartsVisible (t : Text) : Prop := ∀ c ∈ t.head?, isBlank c = false

instance (t : Text) : Decidable t.StartsVisible :=
  decidable_of_iff (t.head?.all (!isBlank ·) = true) (by simp [StartsVisible, Option.all_eq_true])

theorem trimStart_eq_self {t : Text} (head : t.StartsVisible) :
    t.trimStart = t := by
  cases t with
  | nil => rfl
  | cons c t => simp [trimStart, head c (by simp)]

theorem trimEnd_eq_self {t : Text} (last : ∀ c ∈ t.getLast?, isBlank c = false) :
    t.trimEnd = t := by
  rw [trimEnd_eq_rdropWhile, List.rdropWhile_eq_self_iff]
  intro nonempty
  rw [last _ (List.getLast?_eq_some_getLast nonempty)]
  exact Bool.false_ne_true

theorem trim_eq_self_iff {t : Text} : t.trim = t ↔ t.IsTrimmed := by
  constructor
  · intro same
    rw [← same]
    exact t.trim_isTrimmed
  · rintro ⟨head, last⟩
    rw [trim, trimStart_eq_self head, trimEnd_eq_self last]

theorem isTrimmed_concat_iff {t : Text} {c : Char} (visible : isBlank c = false) :
    IsTrimmed (t ++ [c]) ↔ t.StartsVisible := by
  have last : ∀ d ∈ (t ++ [c]).getLast?, isBlank d = false := by
    rw [List.getLast?_concat]
    rintro d ⟨⟩
    exact visible
  rw [IsTrimmed, and_iff_left last]
  cases t with
  | nil => simp [StartsVisible, visible]
  | cons d t => rfl

theorem trimEnd_append_cons {s t : Text} {c : Char} (visible : isBlank c = false) :
    trimEnd (s ++ c :: t) = s ++ c :: trimEnd t := by
  rw [trimEnd, trimEnd, List.reverse_append, List.reverse_cons, List.append_assoc,
    List.dropWhile_append]
  split
  · next blank =>
      rw [List.isEmpty_iff.1 blank]
      simp [visible]
  · simp

theorem trim_append_cons {s t : Text} {c : Char} (starts : s.StartsVisible)
    (visible : isBlank c = false) : trim (s ++ c :: t) = s ++ c :: trimEnd t := by
  have head : StartsVisible (s ++ c :: t) := by
    cases s with
    | nil => simpa [StartsVisible] using visible
    | cons d s => simpa [StartsVisible] using starts
  rw [trim, trimStart_eq_self head, trimEnd_append_cons visible]

theorem trim_sublist (t : Text) : t.trim.Sublist t :=
  (trimEnd_isPrefix t.trimStart).sublist.trans (List.dropWhile_sublist _)

theorem length_trim_le (t : Text) : t.trim.length ≤ t.length := t.trim_sublist.length_le

@[simp] theorem trim_trim (t : Text) : t.trim.trim = t.trim :=
  trim_eq_self_iff.2 t.trim_isTrimmed

theorem getLast?_trim {t : Text} {c : Char} (last : t.getLast? = some c)
    (visible : isBlank c = false) : t.trim.getLast? = some c := by
  have nonempty : t.trimStart ≠ [] := by
    rw [trimStart, Ne, List.dropWhile_eq_nil_iff]
    intro blank
    have := blank c (List.mem_of_getLast? last)
    rw [visible] at this
    cases this
  have same : t.trimStart.getLast? = some c := by
    obtain ⟨head, split⟩ : t.trimStart <:+ t := List.dropWhile_suffix isBlank
    rwa [← split, List.getLast?_append_of_ne_nil _ nonempty] at last
  rw [trim, trimEnd_eq_self, same]
  rw [same]
  intro d mem
  cases mem
  exact visible

theorem trim_of_mem_present {texts : List Text} {t : Text} (h : t ∈ present texts) :
    t.trim = t := by
  obtain ⟨-, raw, -, rfl⟩ := mem_present.1 h
  exact trim_trim raw

theorem trim_ne_nil_of_mem_present {texts : List Text} {t : Text} (h : t ∈ present texts) :
    t.trim ≠ [] := by
  rw [trim_of_mem_present h]
  exact (mem_present.1 h).1

theorem present_singleton {raw : Text} (nonblank : raw.trim ≠ []) : present [raw] = [raw.trim] := by
  simp [present, nonblank]

theorem present_eq_self {texts : List Text} (plain : ∀ t ∈ texts, t ≠ [] ∧ t.IsTrimmed) :
    present texts = texts := by
  have trimmed : texts.map trim = texts := by
    rw [List.map_congr_left fun t member => trim_eq_self_iff.2 (plain t member).2, List.map_id']
  rw [present, trimmed, List.filter_eq_self]
  intro t member
  exact decide_eq_true (plain t member).1

theorem present_append (texts extra : List Text) :
    present (texts ++ extra) = present texts ++ present extra := by
  simp [present]

end ConsoleAccess.Text
