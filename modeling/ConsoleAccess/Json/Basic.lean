import ConsoleAccess.Dictionary
import ConsoleAccess.Json.Numeral

/-!
JSON values, and the trees of what a text says. A tree keeps every member and every numeral as
written, so it exists for each well-formed text; it has a value if its nesting, its numerals and its
strings are within what a value can hold.

* `Json.Tree.value?` gives the value; of members with one name the last counts.
-/

namespace ConsoleAccess

/-- JSON values. The members of an object stand in order of their names. -/
inductive Json
  | null
  | bool (b : Bool)
  | number (n : Numeral)
  | string (t : Text)
  | array (items : List Json)
  | object (members : List (Text × Json))

namespace Json

/-- What a text says. A string with an unpaired surrogate escape has no text. -/
inductive Tree
  | null
  | bool (b : Bool)
  | number (n : Numeral)
  | string (text? : Option Text)
  | array (items : List Tree)
  | object (members : List (Option Text × Tree))

def maxNesting : Nat := 127

/-- Of members with one name the last, in order of the names. -/
def lastOfEach {β : Type} (members : List (Text × β)) : List (Text × β) :=
  (Std.ExtTreeMap.ofList members compare : Dictionary β).toList

mutual

def Tree.value? (levels : Nat) : Tree → Option Json
  | .null => some .null
  | .bool b => some (.bool b)
  | .number n => if n.inRange then some (.number n) else none
  | .string text? => text?.map Json.string
  | .array items =>
    match levels with
    | 0 => none
    | levels + 1 => (Tree.values? levels items).map Json.array
  | .object members =>
    match levels with
    | 0 => none
    | levels + 1 => (Tree.memberValues? levels members).map fun ms => .object (lastOfEach ms)

def Tree.values? (levels : Nat) : List Tree → Option (List Json)
  | [] => some []
  | t :: rest =>
    match t.value? levels, Tree.values? levels rest with
    | some v, some vs => some (v :: vs)
    | _, _ => none

def Tree.memberValues? (levels : Nat) : List (Option Text × Tree) → Option (List (Text × Json))
  | [] => some []
  | (name?, t) :: rest =>
    match name?, t.value? levels, Tree.memberValues? levels rest with
    | some name, some v, some vs => some ((name, v) :: vs)
    | _, _, _ => none

end

def text? : Json → Option Text
  | .string t => some t
  | _ => none

def named? (members : List (Option Text × Tree)) : Option (List (Text × Tree)) :=
  members.mapM fun (name?, value) => name?.map (·, value)

def soleMember? {β : Type} (names : List Text) (members : List (Text × β)) :
    Option (Option β) :=
  match members.filter fun m => names.contains m.1 with
  | [] => some none
  | [(_, value)] => some (some value)
  | _ => none

end Json
end ConsoleAccess
