import ConsoleAccess.Text.Case

/-!
Effects of statements, and what can be wrong with a statement.
-/

namespace ConsoleAccess

inductive StatementError
  | unknownEffect (text : Text)
  | noResources
  | noActions
deriving DecidableEq, Repr

def StatementError.message : StatementError → Text
  | .unknownEffect text =>
    "invalid statement: unknown effect '".toList ++ text ++ [Char.ofNat 39]
  | .noResources => "invalid statement: statement has no resources".toList
  | .noActions => "invalid statement: statement has no actions".toList

inductive Effect
  | allow
  | deny
deriving DecidableEq, Repr

namespace Effect

def text : Effect → Text
  | .allow => "allow".toList
  | .deny => "deny".toList

/-- Reads an effect in any letter case; blanks around it are not skipped. -/
def parse (raw : Text) : Except StatementError Effect :=
  if raw.sameLetters allow.text then .ok .allow
  else if raw.sameLetters deny.text then .ok .deny
  else .error (.unknownEffect raw)

theorem parse_text (e : Effect) : parse e.text = .ok e := by cases e <;> rfl

end Effect
end ConsoleAccess
