import ConsoleAccess.Policy.Payload

/-!
The policy cache: the session in force, shared by all who ask for access. Each access is one step,
and between two steps of one party any steps of others may fall.
-/

namespace ConsoleAccess

structure Cache where
  current : Snapshot := none
deriving DecidableEq

namespace Cache

inductive Step
  | load (session : Session)
  | clear
  | get
deriving DecidableEq

def apply (cache : Cache) : Step → Cache
  | .load session => { cache with current := some session }
  | .clear => { cache with current := none }
  | .get => cache

def get (cache : Cache) : Snapshot := cache.current

def run (cache : Cache) (steps : List Step) : Cache := steps.foldl apply cache

end Cache
end ConsoleAccess
