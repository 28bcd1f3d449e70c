import ConsoleAccess.Toml.Document

/-!
Reading TOML text: expressions line by line, with comments and blank lines between them. Arrays and
inline tables may run over lines, with comments in them, and may end in a comma.
-/

namespace ConsoleAccess.Toml

/-! ## Blanks and comments -/

def skipBlanks (t : Text) : Text := t.dropWhile isBlank

def skipComment (t : Text) : Text :=
  match t with
  | '#' :: t => t.dropWhile isPlain
  | _ => t

/-- Skips blanks, comments and line breaks. A carriage return counts only before a line feed. -/
def skipGap (inComment : Bool) : Text → Option Text
  | [] => some []
  | '\r' :: '\n' :: t => skipGap false t
  | '\n' :: t => skipGap false t
  | c :: t =>
    if inComment then if isPlain c then skipGap true t else none
    else if isBlank c then skipGap false t
    else if c = '#' then skipGap true t
    else some (c :: t)

/-! ## Keys -/

def isBare (c : Char) : Bool := c.isAlphanum || c == '_' || c == '-'

def name? (t : Text) : Option (Text × Text) :=
  match t with
  | [] => none
  | c :: _ =>
    if c == '"' || c == apostrophe then line? t
    else
      match t.span isBare with
      | ([], _) => none
      | (name, rest) => some (name, rest)

def names? (done : List Text) (most : Nat) (t : Text) : Option (Key × Text) :=
  match most with
  | 0 => none
  | most + 1 =>
    match name? (skipBlanks t) with
    | none => none
    | some (name, rest) =>
      match skipBlanks rest with
      | '.' :: rest => names? (name :: done) most rest
      | rest => some ({ path := done.reverse, last := name }, rest)

def maxNames : Nat := 80

def key? (t : Text) : Option (Key × Text) := names? [] maxNames t

def entryKey? (t : Text) : Option (Key × Text) :=
  (key? t).bind fun (key, rest) =>
    match skipGap false rest with
    | some ('=' :: rest) => (skipGap false rest).map (key, ·)
    | _ => none

/-! ## Values -/

def maxNesting : Nat := 80

mutual

def value? (levels : Nat) : Nat → Text → Option (Node × Text)
  | 0, _ => none
  | fuel + 1, t =>
    match t, levels with
    | '[' :: _, 0 => none
    | '\x7b' :: _, 0 => none
    | '[' :: t, levels + 1 => items? levels [] fuel t
    | '\x7b' :: t, levels + 1 => entries? levels [] fuel t
    | _, _ => (scalar? t).map fun (s, rest) => (.scalar s, rest)

def items? (levels : Nat) (done : List Node) : Nat → Text → Option (Node × Text)
  | 0, _ => none
  | fuel + 1, t =>
    match skipGap false t with
    | none => none
    | some (']' :: rest) => some (.array done.reverse, rest)
    | some t =>
      match value? levels fuel t with
      | none => none
      | some (item, rest) =>
        match skipGap false rest with
        | some (',' :: rest) => items? levels (item :: done) fuel rest
        | some (']' :: rest) => some (.array (item :: done).reverse, rest)
        | _ => none

def entries? (levels : Nat) (done : Entries) : Nat → Text → Option (Node × Text)
  | 0, _ => none
  | fuel + 1, t =>
    match skipGap false t with
    | none => none
    | some ('\x7d' :: rest) => some (.table .inline done, rest)
    | some t =>
      match entryKey? t with
      | none => none
      | some (key, rest) =>
        match value? levels fuel rest with
        | none => none
        | some (value, rest) =>
          match Entries.insertDotted done key.path key.last value, skipGap false rest with
          | some done, some (',' :: rest) => entries? levels done fuel rest
          | some done, some ('\x7d' :: rest) => some (.table .inline done, rest)
          | _, _ => none

end

/-! ## Lines -/

def header? (t : Text) : Option (Expression × Text) :=
  match t with
  | '[' :: '[' :: t =>
    match key? t with
    | some (key, ']' :: ']' :: rest) => some (.itemHeader key, rest)
    | _ => none
  | '[' :: t =>
    match key? t with
    | some (key, ']' :: rest) => some (.header key, rest)
    | _ => none
  | _ => none

def entry? (t : Text) : Option (Expression × Text) :=
  match key? t with
  | some (key, '=' :: rest) =>
    let t := skipBlanks rest
    (value? maxNesting (2 * t.length + 2) t).map fun (value, rest) => (.entry key value, rest)
  | _ => none

def expression? (t : Text) : Option (Expression × Text) :=
  match t with
  | '[' :: _ => header? t
  | _ => entry? t

def lines? (done : List Expression) : Nat → Text → Option (List Expression)
  | 0, _ => none
  | fuel + 1, t =>
    let finish := fun (done : List Expression) (rest : Text) =>
      match skipComment (skipBlanks rest) with
      | [] => some done.reverse
      | rest => if startsWithBreak rest then lines? done fuel (dropBreak rest) else none
    match skipBlanks t with
    | [] => some done.reverse
    | c :: rest =>
      if c = '#' || startsWithBreak (c :: rest) then finish done (c :: rest)
      else
        match expression? (c :: rest) with
        | some (e, rest) => finish (e :: done) rest
        | none => none

/-- Reads a document. A byte order mark at its start is skipped. -/
def read? (t : Text) : Option Entries :=
  let t :=
    match t with
    | '\uFEFF' :: t => t
    | _ => t
  (lines? [] (t.length + 1) t).bind ofExpressions?

end ConsoleAccess.Toml
