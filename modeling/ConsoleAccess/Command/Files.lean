import ConsoleAccess.Dictionary
import ConsoleAccess.Text.Utf8

/-!
The files that a command sees: those below the directory it runs in, by names with slashes between
the directories. Of the rest of the file system only what every system has is known.

* `Files.find`: what a path leads to.
-/

namespace ConsoleAccess

inductive FileContent
  | missing
  | directory
  | bytes (content : List UInt8)
deriving DecidableEq, Repr

abbrev Files := List (Text × List UInt8)

namespace Files

/-- Where the names of a path have led to. Names stand last one first. -/
inductive Place
  | inside (names : List Text)
  | above (levels : Nat)
  | outside (names : List Text)
deriving DecidableEq, Repr

/-! ## What a place holds -/

def contentAt (files : Files) (names : List Text) : FileContent :=
  match files.find? fun f => f.1.splitOn '/' == names with
  | some (_, content) => .bytes content
  | none =>
    if names.isEmpty || files.any fun f => names.isPrefixOf (f.1.splitOn '/') then .directory
    else .missing

def everywhere : Files := [("dev/null".toList, [])]

def standardDirectories : List Text := ["etc".toList, "tmp".toList, "usr".toList]

def Place.content (files : Files) : Place → FileContent
  | .inside names => contentAt files names.reverse
  | .above _ => .directory
  | .outside [name] =>
    if standardDirectories.contains name then .directory else contentAt everywhere [name]
  | .outside names => contentAt everywhere names.reverse

/-! ## Paths -/

/-- How many levels below the root a command runs at most. -/
def maxDepth : Nat := 4

def Place.parent : Place → Place
  | .inside (_ :: names) => .inside names
  | .inside [] => .above 1
  | .above levels => if levels + 1 < maxDepth then .above (levels + 1) else .outside []
  | .outside names => .outside names.tail

def Place.child? (name : Text) : Place → Option Place
  | .inside names => some (.inside (name :: names))
  | .above _ => none
  | .outside names => some (.outside (name :: names))

def Place.follow? (files : Files) (place : Place) (name : Text) : Option Place :=
  if place.content files ≠ .directory then none
  else if name = [] || name = ['.'] then some place
  else if name = ['.', '.'] then some place.parent
  else place.child? name

def walk (files : Files) (start : Place) (names : List Text) : FileContent :=
  match names.foldlM (Place.follow? files) start with
  | some place => place.content files
  | none => .missing

def maxPathSize : Nat := 4095

/-- What a path leads to; one that is too long leads nowhere. -/
def find (files : Files) (path : Text) : FileContent :=
  if path.isEmpty || maxPathSize < path.byteSize then .missing
  else
    match path with
    | '/' :: rest => walk files (.outside []) (rest.splitOn '/')
    | _ => walk files (.inside []) (path.splitOn '/')

example : find [("a/b".toList, [1])] "a/../a//b".toList = .bytes [1] := by decide +kernel
example : find [("a".toList, [1])] "a/../a".toList = .missing := by decide +kernel
example : find [] "../../../../dev/null".toList = .bytes [] := by decide +kernel

end Files
end ConsoleAccess
