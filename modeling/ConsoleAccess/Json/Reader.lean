import ConsoleAccess.Json.Token

/-!
Reading JSON text into trees. The text must be one value and nothing else; in a list of items or
members no comma may be missing or left over.
-/

namespace ConsoleAccess.Json

namespace Tree

mutual

def take? : Nat → List Token → Option (Tree × List Token)
  | 0, _ => none
  | fuel + 1, tokens =>
    match tokens with
    | .null :: rest => some (.null, rest)
    | .bool b :: rest => some (.bool b, rest)
    | .number n :: rest => some (.number n, rest)
    | .string text? :: rest => some (.string text?, rest)
    | .openArray :: .closeArray :: rest => some (.array [], rest)
    | .openArray :: rest => takeItems? [] fuel rest
    | .openObject :: .closeObject :: rest => some (.object [], rest)
    | .openObject :: rest => takeMembers? [] fuel rest
    | _ => none

def takeItems? (done : List Tree) : Nat → List Token → Option (Tree × List Token)
  | 0, _ => none
  | fuel + 1, tokens =>
    match take? fuel tokens with
    | some (item, .comma :: rest) => takeItems? (item :: done) fuel rest
    | some (item, .closeArray :: rest) => some (.array (item :: done).reverse, rest)
    | _ => none

def takeMembers? (done : List (Option Text × Tree)) :
    Nat → List Token → Option (Tree × List Token)
  | 0, _ => none
  | fuel + 1, tokens =>
    match tokens with
    | .string name? :: .colon :: rest =>
      match take? fuel rest with
      | some (value, .comma :: rest) => takeMembers? ((name?, value) :: done) fuel rest
      | some (value, .closeObject :: rest) =>
        some (.object ((name?, value) :: done).reverse, rest)
      | _ => none
    | _ => none

end

/-- The tree of a list of tokens that make up one value. Two calls take a token at least. -/
def ofTokens? (tokens : List Token) : Option Tree :=
  match take? (2 * tokens.length + 1) tokens with
  | some (tree, []) => some tree
  | _ => none

def read? (t : Text) : Option Tree := (Token.ofText? t).bind ofTokens?

end Tree

def read? (t : Text) : Option Json := (Tree.read? t).bind (Tree.value? maxNesting)

end ConsoleAccess.Json
