import ConsoleAccess.Policy.Query

/-!
Wildcard grants: the wildcard patterns of allow statements that take in a path or lie beneath it.
Asked for along with the path, they keep an affordance open where the session may act somewhere
below.
-/

namespace ConsoleAccess

namespace Statement

/-- The patterns of a statement that end in a star. A statement on all resources has none. -/
def wildcards (s : Statement) : List ResourcePattern :=
  match s.resources with
  | .all => []
  | .patterns members => members.toList.filter ResourcePattern.wildcard

end Statement

namespace Snapshot

def wildcardGrants (snapshot : Snapshot) (path : Text) (scopes : List Text) : List Text :=
  let statements := (snapshot.withEffect .allow).filter fun s => scopes.any s.coversScope
  let patterns := (statements.flatMap Statement.wildcards).filter fun p =>
    p.covers path || p.contains path
  (Std.ExtTreeSet.ofList (patterns.map ResourcePattern.text) compare).toList

end Snapshot
end ConsoleAccess
