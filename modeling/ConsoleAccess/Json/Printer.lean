import ConsoleAccess.Text.Digits

/-!
Writing JSON text: strings with the fewest escapes, and flat objects without blanks.
-/

namespace ConsoleAccess.Json

def escape (c : Char) : Text :=
  match c with
  | '"' => ['\\', '"']
  | '\\' => ['\\', '\\']
  | '\x08' => ['\\', 'b']
  | '\x0C' => ['\\', 'f']
  | '\n' => ['\\', 'n']
  | '\r' => ['\\', 'r']
  | '\t' => ['\\', 't']
  | _ =>
    if c.toNat < 0x20 then '\\' :: 'u' :: hexText 4 c.toNat else [c]

def quote (t : Text) : Text := '"' :: t.flatMap escape ++ ['"']

inductive Scalar
  | bool (b : Bool)
  | string (t : Text)
deriving DecidableEq, Repr

def Scalar.render : Scalar → Text
  | .bool true => "true".toList
  | .bool false => "false".toList
  | .string t => quote t

def renderMember (m : Text × Scalar) : Text := quote m.1 ++ ':' :: m.2.render

def renderObject (members : List (Text × Scalar)) : Text :=
  '\x7b' :: [','].intercalate (members.map renderMember) ++ ['\x7d']

example : renderObject [(['a'], .string ['"', '\n', '\x01']), (['b'], .bool true)] =
    "\x7b\"a\":\"\\\"\\n\\u0001\",\"b\":true\x7d".toList := by decide

end ConsoleAccess.Json
