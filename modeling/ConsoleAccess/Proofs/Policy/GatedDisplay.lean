import ConsoleAccess.Policy.Gate
import ConsoleAccess.Proofs.Policy.Matching
import Mathlib.Data.List.Forall2

/-!
# What gates leave to be used

A gate guards its children if it shows them unchanged where the query is granted, and where it is
refused shows what stands in for them or every one of them disabled (`Gate.Guards`). It does unless
it has error properties that disable nothing: these are put on the children all the same
(`Gate.isDisabled_of_refused`), so refused children can be used.
-/

namespace ConsoleAccess

section
variable {α : Type} [Fragment α]

def Disables (child shown : α) : Prop :=
  ∃ props : ErrorProps, props.disabled = true ∧ shown = Fragment.withProps child props

namespace Gate

/-- Granted children are shown as they are. Refused ones give way to what `renderError` makes, which
is called just if there are no error properties, or every one of them is disabled. -/
structure Guards (g : Gate) (snapshot : Snapshot) (children : List α)
    (renderError : Unit → Option α) : Prop where
  granted : snapshot.grants g.query = true →
    g.render snapshot children renderError = { fragments := children, errorCalled := false }
  errorCalled : snapshot.grants g.query = false →
    ((g.render snapshot children renderError).errorCalled = true ↔ g.errorProps = none)
  refused : snapshot.grants g.query = false →
    let shown := g.render snapshot children renderError
    shown.errorCalled = true ∧ shown.fragments = (renderError ()).toList ∨
      shown.errorCalled = false ∧ List.Forall₂ Disables children shown.fragments

variable {g : Gate} {snapshot : Snapshot} {children : List α} {renderError : Unit → Option α}
  {props : ErrorProps}

/-! ## Displays -/

theorem render_of_granted (granted : snapshot.grants g.query = true) :
    g.render snapshot children renderError = { fragments := children, errorCalled := false } := by
  rw [render, decide, if_pos granted]

theorem render_of_errorProps (refused : snapshot.grants g.query = false)
    (given : g.errorProps = some props) :
    g.render snapshot children renderError =
      { fragments := children.map (Fragment.withProps · props), errorCalled := false } := by
  rw [render, decide, refused, given]
  rfl

theorem render_of_hidden (refused : snapshot.grants g.query = false)
    (hides : g.errorProps = none) :
    g.render snapshot children renderError =
      { fragments := (renderError ()).toList, errorCalled := true } := by
  rw [render, decide, refused, hides]
  rfl

/-! ## Guarding -/

theorem guards_of_disabled
    (disabled : snapshot.grants g.query = false → children ≠ [] →
      ∀ props ∈ g.errorProps, props.disabled = true) :
    g.Guards snapshot children renderError where
  granted := render_of_granted
  errorCalled refused := by
    cases given : g.errorProps with
    | none => simp [render_of_hidden refused given]
    | some props => simp [render_of_errorProps refused given]
  refused refused := by
    cases given : g.errorProps with
    | none =>
        rw [render_of_hidden refused given]
        exact Or.inl ⟨rfl, rfl⟩
    | some props =>
        rw [render_of_errorProps refused given]
        refine Or.inr ⟨rfl, ?_⟩
        rw [List.forall₂_map_right_iff, List.forall₂_same]
        intro child member
        exact ⟨props, disabled refused (List.ne_nil_of_mem member) props given, rfl⟩

section
variable {isDisabled : α → Bool}
  (shows : ∀ child props, isDisabled (Fragment.withProps child props) = props.disabled)
include shows

theorem isDisabled_of_refused (refused : snapshot.grants g.query = false)
    (given : g.errorProps = some props) {shown : α}
    (member : shown ∈ (g.render snapshot children renderError).fragments) :
    isDisabled shown = props.disabled := by
  rw [render_of_errorProps refused given] at member
  obtain ⟨child, -, rfl⟩ := List.mem_map.1 member
  exact shows child props

theorem Guards.disabled (guards : g.Guards snapshot children renderError)
    (refused : snapshot.grants g.query = false) (nonempty : children ≠ [])
    (given : g.errorProps = some props) : props.disabled = true := by
  have guarded := guards.refused refused
  rw [render_of_errorProps refused given] at guarded
  obtain ⟨called, -⟩ | ⟨-, copies⟩ := guarded
  · cases called
  · rw [List.forall₂_map_right_iff, List.forall₂_same] at copies
    obtain ⟨child, member⟩ := List.exists_mem_of_ne_nil children nonempty
    obtain ⟨other, disables, same⟩ := copies child member
    rw [← shows child, same, shows child]
    exact disables

theorem guards_iff (g : Gate) (snapshot : Snapshot) (children : List α)
    (renderError : Unit → Option α) :
    (g.Guards snapshot children renderError ↔
      (snapshot.grants g.query = false → children ≠ [] →
        ∀ props ∈ g.errorProps, props.disabled = true)) ∧
    (snapshot.grants g.query = false → ∀ props ∈ g.errorProps,
      ∀ shown ∈ (g.render snapshot children renderError).fragments,
        isDisabled shown = props.disabled) := by
  refine ⟨⟨?_, guards_of_disabled⟩, ?_⟩
  · intro guards refused nonempty props given
    exact guards.disabled shows refused nonempty given
  · intro refused props given shown member
    exact isDisabled_of_refused shows refused given member

end
end Gate
end

def Label.isDisabled (l : Label) : Bool := l.props.any ErrorProps.disabled

theorem Label.isDisabled_withProps (l : Label) (props : ErrorProps) :
    (Fragment.withProps l props).isDisabled = props.disabled := rfl

namespace Gate

/-- Two gates on a signed-out user show one tooltip, and of the two only the first disables. -/
theorem guards_iff_tooltips :
    let asked := Gate.ofAccess ["bucket".toList] ["s3:PutObject".toList]
    let disabling := asked.withErrorProps (ErrorProps.disabling.withTooltip "no".toList)
    let explaining := asked.withErrorProps (ErrorProps.withTooltip default "no".toList)
    let children : List Label := [{ label := "upload".toList }, { label := "delete".toList }]
    (∀ (child : Label) (props : ErrorProps),
      (Fragment.withProps child props).isDisabled = props.disabled) ∧
    Snapshot.grants none asked.query = false ∧
      disabling.Guards none children (fun _ => none) ∧
      ¬ explaining.Guards none children (fun _ => none) ∧
      ∀ shown ∈ (explaining.render none children fun _ => none).fragments,
        shown.isDisabled = false := by
  intro asked disabling explaining children
  have refused : Snapshot.grants none asked.query = false := rfl
  have first := (guards_iff Label.isDisabled_withProps disabling none children fun _ => none).1
  obtain ⟨second, shown⟩ :=
    guards_iff Label.isDisabled_withProps explaining none children fun _ => none
  refine ⟨Label.isDisabled_withProps, refused, first.2 ?_, ?_, ?_⟩
  · rintro - - props given
    cases given
    rfl
  · intro guards
    have disables := second.1 guards refused (List.cons_ne_nil _ _) _ rfl
    exact Bool.false_ne_true disables
  · exact shown refused _ rfl

/-- A button behind properties of which nothing is set stays enabled where listing is refused. One
that has such properties already is even shown unchanged. -/
theorem refused_child_stays_enabled :
    let list : ActionPattern := ⟨"s3:ListBucket".toList, by decide, by decide⟩
    let bucket : ResourcePattern := ⟨"bucket1".toList, false, "bucket1".toList, by decide⟩
    let session := (Session.ofIdentity "alice".toList).insert "1".toList (.on .allow list bucket)
    let g := (Gate.ofAccess ["bucket2".toList] ["s3:ListBucket".toList]).withErrorProps default
    let browse : Label := { label := "browse".toList }
    let shown : Label := { label := "browse".toList, props := some { disabled := false } }
    Snapshot.grants (some session) g.query = false ∧
      g.render (some session) [browse] (fun _ => none) =
        { fragments := [shown], errorCalled := false } ∧
      g.render (some session) [shown] (fun _ => none) =
        { fragments := [shown], errorCalled := false } ∧
      ¬ g.Guards (some session) [browse] fun _ => none := by
  intro list bucket session g browse shown
  have refused : Snapshot.grants (some session) g.query = false := by decide
  refine ⟨refused, render_of_errorProps refused rfl, render_of_errorProps refused rfl, ?_⟩
  intro guards
  exact Bool.false_ne_true
    (guards.disabled Label.isDisabled_withProps refused (List.cons_ne_nil _ _) rfl)

end Gate
end ConsoleAccess
