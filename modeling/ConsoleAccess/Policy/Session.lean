import ConsoleAccess.Policy.Statement

/-!
Sessions: who is signed in, and the statements granted, each under an id. A snapshot is the session
as it stood at one moment, or nothing for a signed-out user.
-/

namespace ConsoleAccess

structure Session where
  identity : Text
  statements : Dictionary Statement
deriving DecidableEq

namespace Session

def ofIdentity (identity : Text) : Session := { identity, statements := ∅ }

def insert (s : Session) (id : Text) (statement : Statement) : Session :=
  { s with statements := s.statements.insert id statement }

def statement? (s : Session) (id : Text) : Option Statement := s.statements[id]?

def size (s : Session) : Nat := s.statements.size

end Session

abbrev Snapshot := Option Session

namespace Snapshot

def statements (snapshot : Snapshot) : List Statement :=
  match snapshot with
  | some session => session.statements.toList.map Prod.snd
  | none => []

def withEffect (snapshot : Snapshot) (effect : Effect) : List Statement :=
  snapshot.statements.filter fun s => s.effect == effect

end Snapshot
end ConsoleAccess
