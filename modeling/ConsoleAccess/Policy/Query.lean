import ConsoleAccess.Policy.Session

/-!
Access queries, and the decision on them: nothing is granted unless a statement allows it, and a
deny that applies to any requested pair refuses the whole query.
-/

namespace ConsoleAccess

/-- A question about some scopes on some resources. With `matchAll` every scope must be granted,
else one is enough; with `containsResource` a grant below a requested resource counts too. -/
structure Query where
  resources : List Text
  scopes : List Text
  matchAll : Bool := false
  containsResource : Bool := false
deriving DecidableEq, Repr

namespace Query

def matchingAll (q : Query) : Query := { q with matchAll := true }

def containing (q : Query) : Query := { q with containsResource := true }

def withResources (q : Query) (extra : List Text) : Query :=
  { q with resources := q.resources ++ extra }

end Query

def Snapshot.speaksOf (snapshot : Snapshot) (effect : Effect) (resources : List Text) (scope : Text)
    (below : Bool) : Bool :=
  (snapshot.withEffect effect).any fun s => resources.any fun r => s.appliesTo r scope below

/-- Decides a query. Denies ignore what lies below a resource. -/
def Snapshot.grants (snapshot : Snapshot) (q : Query) : Bool :=
  let resources := Text.present q.resources
  let scopes := Text.present q.scopes
  let granted := fun scope => snapshot.speaksOf .allow resources scope q.containsResource
  snapshot.isSome && !resources.isEmpty && !scopes.isEmpty &&
    !(scopes.any fun scope => snapshot.speaksOf .deny resources scope false) &&
    if q.matchAll then scopes.all granted else scopes.any granted

end ConsoleAccess
