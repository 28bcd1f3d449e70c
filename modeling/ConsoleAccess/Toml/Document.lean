import ConsoleAccess.Toml.Scalar

/-!
TOML documents as trees of tables. A document is built from its expressions one by one; each may
only add to what is there, and a table remembers how it came about, because that decides what may
still be added:

* a table named by a header may not be named by a header again, and takes no dotted keys from
  outside;
* a table that stands on the way to a header may get a header of its own later;
* a table made by dotted keys takes more dotted keys, but no header;
* an inline table is complete;
* dotted keys lead through the last table of an array of tables, but add no entry to it.
-/

namespace ConsoleAccess.Toml

inductive Origin
  | header
  | onTheWay
  | dotted
  | inline
deriving DecidableEq, Repr

/-- Values. The tables of an array of tables stand last first. -/
inductive Node
  | scalar (s : Scalar)
  | array (items : List Node)
  | table (origin : Origin) (entries : List (Text × Node))
  | tables (items : List (List (Text × Node)))

mutual

def Node.hasValue : Node → Bool
  | .scalar s => s.hasValue
  | .array items => itemsHaveValues items
  | .table _ entries => entriesHaveValues entries
  | .tables items => tablesHaveValues items

def itemsHaveValues : List Node → Bool
  | [] => true
  | item :: items => item.hasValue && itemsHaveValues items

def entriesHaveValues : List (Text × Node) → Bool
  | [] => true
  | (_, node) :: entries => node.hasValue && entriesHaveValues entries

def tablesHaveValues : List (List (Text × Node)) → Bool
  | [] => true
  | table :: tables => entriesHaveValues table && tablesHaveValues tables

end

abbrev Entries := List (Text × Node)

structure Key where
  path : List Text
  last : Text
deriving DecidableEq, Repr

namespace Entries

def find? (es : Entries) (name : Text) : Option Node := es.lookup name

def set (es : Entries) (name : Text) (node : Node) : Entries :=
  if (es.find? name).isSome then es.map fun e => if e.1 == name then (name, node) else e
  else es ++ [(name, node)]

/-- Changes the table that a header's names lead to. Missing tables are made, and of an array of
tables the last is entered. -/
def follow (es : Entries) (path : List Text) (change : Entries → Option Entries) :
    Option Entries :=
  match path with
  | [] => change es
  | name :: path =>
    match es.find? name with
    | none => (follow [] path change).map fun sub => es.set name (.table .onTheWay sub)
    | some (.table .inline _) => none
    | some (.table origin sub) =>
      (follow sub path change).map fun sub => es.set name (.table origin sub)
    | some (.tables (last :: before)) =>
      (follow last path change).map fun last => es.set name (.tables (last :: before))
    | _ => none

/-- Adds a value under a dotted key, below tables that dotted keys have made. -/
def insertDotted (es : Entries) (path : List Text) (name : Text) (node : Node) : Option Entries :=
  match path with
  | [] => if (es.find? name).isSome then none else some (es.set name node)
  | first :: path =>
    match es.find? first with
    | none => (insertDotted [] path name node).map fun sub => es.set first (.table .dotted sub)
    | some (.table .dotted sub) =>
      (insertDotted sub path name node).map fun sub => es.set first (.table .dotted sub)
    | some (.table .onTheWay sub) =>
      if path.isEmpty then none
      else (insertDotted sub path name node).map fun sub => es.set first (.table .onTheWay sub)
    | some (.tables (last :: before)) =>
      if path.isEmpty then none
      else
        (insertDotted last path name node).map fun last => es.set first (.tables (last :: before))
    | _ => none

def openTable (es : Entries) (name : Text) : Option Entries :=
  match es.find? name with
  | none => some (es.set name (.table .header []))
  | some (.table .onTheWay sub) => some (es.set name (.table .header sub))
  | _ => none

def openItem (es : Entries) (name : Text) : Option Entries :=
  match es.find? name with
  | none => some (es.set name (.tables [[]]))
  | some (.tables items) => some (es.set name (.tables ([] :: items)))
  | _ => none

end Entries

inductive Expression
  | header (key : Key)
  | itemHeader (key : Key)
  | entry (key : Key) (value : Node)

structure Draft where
  root : Entries := []
  current : List Text := []

namespace Draft

def add (d : Draft) : Expression → Option Draft
  | .header key =>
    (d.root.follow key.path (Entries.openTable · key.last)).map fun root =>
      { root, current := key.path ++ [key.last] }
  | .itemHeader key =>
    (d.root.follow key.path (Entries.openItem · key.last)).map fun root =>
      { root, current := key.path ++ [key.last] }
  | .entry key value =>
    (d.root.follow d.current (Entries.insertDotted · key.path key.last value)).map fun root =>
      { d with root }

end Draft

def ofExpressions? (expressions : List Expression) : Option Entries :=
  (expressions.foldlM Draft.add {}).map Draft.root

end ConsoleAccess.Toml
