import ConsoleAccess.Policy.Query

/-!
Gates: how a piece of the console is shown, given what the session may do. A gate shapes the display
and protects nothing; the server checks every request again.
-/

namespace ConsoleAccess

structure ErrorProps where
  disabled : Bool
  tooltip : Option Text := none
deriving DecidableEq, Repr

/-- Properties of which nothing is set disable nothing. -/
instance : Inhabited ErrorProps := ⟨{ disabled := false }⟩

namespace ErrorProps

def disabling : ErrorProps := { disabled := true }

def withTooltip (props : ErrorProps) (tooltip : Text) : ErrorProps :=
  { props with tooltip := some tooltip }

end ErrorProps

inductive Verdict
  | render
  | disable (props : ErrorProps)
  | hide
deriving DecidableEq, Repr

def Verdict.isAllowed (v : Verdict) : Bool := v == .render

/-- A query, and the properties for its refusal if children are then to be disabled and not hidden.
-/
structure Gate where
  query : Query
  errorProps : Option ErrorProps := none
deriving DecidableEq, Repr

/-- Pieces of a display that can carry error properties. -/
class Fragment (α : Type) where
  withProps : α → ErrorProps → α

structure Rendering (α : Type) where
  fragments : List α
  errorCalled : Bool
deriving DecidableEq, Repr

namespace Gate

def ofAccess (resources scopes : List Text) : Gate := { query := { resources, scopes } }

def matchingAll (g : Gate) : Gate := { g with query := g.query.matchingAll }

def containing (g : Gate) : Gate := { g with query := g.query.containing }

def withErrorProps (g : Gate) (props : ErrorProps) : Gate := { g with errorProps := some props }

def decide (g : Gate) (snapshot : Snapshot) : Verdict :=
  if snapshot.grants g.query then .render
  else match g.errorProps with
    | some props => .disable props
    | none => .hide

/-- Shows the children as the verdict says; only hidden children are replaced by the error fragment.
-/
def render {α : Type} [Fragment α] (g : Gate) (snapshot : Snapshot) (children : List α)
    (renderError : Unit → Option α) : Rendering α :=
  match g.decide snapshot with
  | .render => { fragments := children, errorCalled := false }
  | .disable props =>
    { fragments := children.map (Fragment.withProps · props), errorCalled := false }
  | .hide => { fragments := (renderError ()).toList, errorCalled := true }

end Gate

structure Label where
  label : Text
  props : Option ErrorProps := none
deriving DecidableEq, Repr

instance : Fragment Label := ⟨fun l props => { l with props := some props }⟩

end ConsoleAccess
