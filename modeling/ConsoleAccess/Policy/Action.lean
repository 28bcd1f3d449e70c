import ConsoleAccess.Dictionary
import ConsoleAccess.Text.Case
import ConsoleAccess.Text.Utf8

/-!
Action patterns: a name such as `s3:GetObject`, or a text that ends in a star and stands for every
name that starts with what comes before the star.
-/

namespace ConsoleAccess

structure ActionPattern where
  text : Text
  trimmed : text.IsTrimmed
  nonempty : text ≠ []
deriving DecidableEq

namespace ActionPattern

@[ext] theorem ext {p q : ActionPattern} (h : p.text = q.text) : p = q := by
  cases p; cases q; cases h; rfl

instance : Ord ActionPattern := ⟨compareOn text⟩

instance : Std.TransOrd ActionPattern :=
  inferInstanceAs (Std.TransCmp (compareOn ActionPattern.text))

instance : Std.LawfulEqOrd ActionPattern where
  eq_of_compare {p q} h := by
    have h : compare p.text q.text = .eq := h
    exact ext (Std.LawfulEqOrd.eq_of_compare h)

def parse? (raw : Text) : Option ActionPattern :=
  if h : raw.trim = [] then none else some ⟨raw.trim, raw.trim_isTrimmed, h⟩

/-- Names agree up to the case of ASCII letters. A star at the end takes in every scope whose first
bytes, as many as the text before the star has, are that text. -/
def covers (p : ActionPattern) (scope : Text) : Bool :=
  p.text.sameLetters scope ||
    match p.text.dropEnd? '*' with
    | some stem => (scope.takeBytes? stem.byteSize).any fun head => head.sameLetters stem
    | none => false

end ActionPattern
end ConsoleAccess
