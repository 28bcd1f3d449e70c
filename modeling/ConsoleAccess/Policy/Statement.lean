import ConsoleAccess.Policy.Action
import ConsoleAccess.Policy.Resource

/-!
Statements: an effect on some actions and resources. A statement is read once, from raw texts; of
two faults the one named first counts, in the order effect, resources, actions.
-/

namespace ConsoleAccess

structure Statement where
  effect : Effect
  actions : Std.ExtTreeSet ActionPattern compare
  resources : ResourceSet
deriving DecidableEq

namespace Statement

def ofParts (effect : Effect) (actions : List Text) (resources : ResourceSet) :
    Except StatementError Statement :=
  match actions.filterMap ActionPattern.parse? with
  | [] => .error .noActions
  | found => .ok { effect, actions := .ofList found, resources }

def make (effect : Effect) (actions resources : List Text) : Except StatementError Statement :=
  match ResourceSet.parse resources with
  | .ok set => ofParts effect actions set
  | .error e => .error e

def parse (effect : Text) (actions resources : List Text) : Except StatementError Statement :=
  match Effect.parse effect with
  | .ok e => make e actions resources
  | .error e => .error e

def actionTexts (s : Statement) : List Text := s.actions.toList.map ActionPattern.text

def coversScope (s : Statement) (scope : Text) : Bool :=
  s.actions.toList.any fun p => p.covers scope

def appliesTo (s : Statement) (resource scope : Text) (below : Bool) : Bool :=
  s.coversScope scope && s.resources.covers resource below

end Statement
end ConsoleAccess
