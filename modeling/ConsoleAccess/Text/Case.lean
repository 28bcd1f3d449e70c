import ConsoleAccess.Text.Blank

/-!
Letter case. Names of actions and effects are compared with the letters `A` to `Z` lowered and every
other character left as it is.
-/

namespace ConsoleAccess.Text

def lower (t : Text) : Text := t.map Char.toLower

def sameLetters (s t : Text) : Bool := s.lower == t.lower

theorem sameLetters_iff {s t : Text} : sameLetters s t = true ↔ s.lower = t.lower := by
  simp [sameLetters]

@[simp] theorem lower_nil : lower [] = [] := rfl

@[simp] theorem lower_append (s t : Text) : lower (s ++ t) = s.lower ++ t.lower := by simp [lower]

@[simp] theorem length_lower (t : Text) : t.lower.length = t.length := by simp [lower]

example : 'É'.toLower = 'É' ∧ 'É' ≠ 'é' ∧ 'Z'.toLower = 'z' := by decide

end ConsoleAccess.Text
