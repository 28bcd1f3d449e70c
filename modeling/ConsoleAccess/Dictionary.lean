import ConsoleAccess.Text.Blank
import Std.Data.ExtTreeMap
import Std.Data.ExtTreeSet

/-!
Texts as keys. The order of texts is that of their code points, which is also the order of their
UTF-8 bytes; a dictionary lists its entries in it, so two dictionaries with the same entries are
equal.
-/

namespace ConsoleAccess

abbrev Dictionary (β : Type) := Std.ExtTreeMap Text β compare

abbrev TextSet := Std.ExtTreeSet Text compare

namespace Text

def dropEnd? (c : Char) (t : Text) : Option Text :=
  if t.getLast? = some c then some t.dropLast else none

theorem dropEnd?_eq_some_iff {c : Char} {s t : Text} : t.dropEnd? c = some s ↔ t = s ++ [c] := by
  unfold dropEnd?
  constructor
  · split
    · next h =>
      obtain ⟨init, rfl⟩ := List.getLast?_eq_some_iff.1 h
      simp +contextual
    · simp
  · rintro rfl; simp

def present (texts : List Text) : List Text := (texts.map trim).filter (· ≠ [])

theorem mem_present {texts : List Text} {t : Text} :
    t ∈ present texts ↔ t ≠ [] ∧ ∃ raw ∈ texts, raw.trim = t := by
  simp [present, and_comm]

end Text
end ConsoleAccess
