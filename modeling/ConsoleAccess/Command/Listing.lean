import ConsoleAccess.Policy.Session

/-!
The listing of a session: who is signed in, and a table of the statements in order of their ids.
-/

namespace ConsoleAccess.Listing

def pad (width : Nat) (t : Text) : Text := t ++ List.replicate (width - t.length) ' '

def line (id effect actions resources : Text) : Text :=
  pad 24 id ++ "  ".toList ++ pad 6 effect ++ "  ".toList ++ pad 40 actions ++ "  ".toList ++
    resources

def heading : Text :=
  line "STATEMENT".toList "EFFECT".toList "ACTIONS".toList "RESOURCES".toList

def rule : Text := List.replicate 100 '-'

def commaSeparated (texts : List Text) : Text := [','].intercalate texts

def resourcesText (set : ResourceSet) : Text :=
  match set.texts? with
  | none => ['*']
  | some texts => commaSeparated texts

def row (entry : Text × Statement) : Text :=
  line entry.1 entry.2.effect.text (commaSeparated entry.2.actionTexts)
    (resourcesText entry.2.resources)

def lines (snapshot : Snapshot) : List Text :=
  match snapshot with
  | none => ["Not signed in.".toList]
  | some session =>
    ("Identity: ".toList ++ session.identity) ::
      if session.statements.isEmpty then ["No statements granted.".toList]
      else heading :: rule :: session.statements.toList.map row

def render (snapshot : Snapshot) : Text := (lines snapshot).flatMap (· ++ ['\n'])

end ConsoleAccess.Listing
