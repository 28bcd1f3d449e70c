import ConsoleAccess.Command.Arguments
import Mathlib.Data.List.TakeDrop

/-!
# Command lines written out

Options that a command knows can be written out as arguments and are read back as they were:
`scan_arguments` is the round trip for any options that fit together, by induction over them with
the options read before as the invariant. `QueryOptions.parse?_checkLine` and `parse?_gateLine` are
its cases for the two offline commands, so every query has a command line.
-/

namespace ConsoleAccess.Command

/-! ## Options -/

namespace Opt

theorem long_injective {o o' : Opt} (same : o.long.toList = o'.long.toList) : o = o' := by
  -- A search by name among all options is a left inverse; comparing all pairs of names is slow.
  have found (o : Opt) :
      (everywhere ++ queryOpts ++ [Opt.version, .wildcardGrants, .disable, .tooltip]).find?
        (fun o' => o'.long.toList == o.long.toList) = some o := by
    cases o <;> rfl
  have named := found o
  rw [same, found o'] at named
  exact (Option.some.inj named).symm

theorem long_plain (o : Opt) : ∀ c ∈ o.long.toList, (c != '=') = true := by
  have plain : (o.long.toList.all (· != '=')) = true := by cases o <;> rfl
  exact List.all_eq_true.1 plain

theorem long_ne_nil (o : Opt) : o.long.toList ≠ [] := by
  cases o <;> decide

def spelled (o : Opt) (value : Text) : Text :=
  '-' :: '-' :: (o.long.toList ++ if o.takesValue then '=' :: value else [])

end Opt

namespace Given

def flag (o : Opt) (on : Bool) : Given := if on then [(o, [])] else []

def each (o : Opt) (values : List Text) : Given := values.map fun value => (o, value)

def arguments (g : Given) : List Text := g.map fun p => p.1.spelled p.2

variable (g h : Given) (o o' : Opt) (on : Bool) (texts : List Text)

@[simp] theorem has_nil : Given.has [] o = false := rfl

@[simp] theorem has_append : Given.has (g ++ h) o = (g.has o || h.has o) := List.any_append

@[simp] theorem has_cons (value : Text) :
    Given.has ((o', value) :: g) o = (decide (o' = o) || g.has o) := by
  simp [has, beq_eq_decide]

@[simp] theorem has_flag : (flag o on).has o' = (on && decide (o = o')) := by
  cases on <;> simp [flag]

@[simp] theorem has_each : (each o texts).has o' = (!texts.isEmpty && decide (o = o')) := by
  induction texts with
  | nil => rfl
  | cons text texts ih => simp_all [each]

@[simp] theorem values_nil : Given.values [] o = [] := rfl

@[simp] theorem values_append : Given.values (g ++ h) o = g.values o ++ h.values o := by
  simp [values]

@[simp] theorem values_cons (value : Text) :
    Given.values ((o', value) :: g) o = if o' = o then value :: g.values o else g.values o := by
  by_cases same : o' = o <;> simp [values, same]

@[simp] theorem values_flag : (flag o on).values o' = if on ∧ o = o' then [[]] else [] := by
  cases on <;> simp [flag]

@[simp] theorem values_each : (each o texts).values o' = if o = o' then texts else [] := by
  by_cases same : o = o' <;> simp [each, values, same, List.filter_map, Function.comp_def]

theorem values_eq_nil {g : Given} {o : Opt} (absent : g.has o = false) : g.values o = [] := by
  simp only [has, List.any_eq_false, values] at absent ⊢
  rw [List.filter_eq_nil_iff.2 absent, List.map_nil]

theorem add?_eq {g : Given} {o : Opt} {value : Text}
    (once : g.has o = true → o.mayRepeat = true) (accepted : o.accepts value = true) :
    g.add? o value = some (g ++ [(o, value)]) := by
  rw [add?, if_neg]
  cases had : g.has o <;> simp_all

/-- Options that may be set after others. -/
inductive Fit (allowed : List Opt) : Given → Given → Prop
  | nil (g : Given) : Fit allowed g []
  | cons {g later : Given} {o : Opt} {value : Text} (mem : o ∈ allowed)
      (once : g.has o = true → o.mayRepeat = true) (accepted : o.accepts value = true)
      (plain : o.takesValue = true ∨ value = [] ∧ o ≠ .help ∧ o ≠ .version)
      (rest : Fit allowed (g ++ [(o, value)]) later) : Fit allowed g ((o, value) :: later)

namespace Fit
variable {allowed : List Opt} {g h later : Given} {o : Opt} {on : Bool} {texts : List Text}

theorem append (first : Fit allowed g h) (second : Fit allowed (g ++ h) later) :
    Fit allowed g (h ++ later) := by
  induction first with
  | nil g => simpa using second
  | cons mem once accepted plain rest ih =>
      exact .cons mem once accepted plain (ih (by simpa using second))

theorem flag (mem : o ∈ allowed) (new : g.has o = false) (accepted : o.accepts [] = true)
    (plain : o ≠ .help ∧ o ≠ .version) : Fit allowed g (Given.flag o on) := by
  cases on with
  | false => exact .nil g
  | true =>
      exact .cons mem (by simp [new]) accepted (.inr ⟨rfl, plain⟩) (.nil _)

theorem each (mem : o ∈ allowed) (repeats : o.mayRepeat = true)
    (accepted : ∀ text ∈ texts, o.accepts text = true) (valued : o.takesValue = true) :
    Fit allowed g (Given.each o texts) := by
  induction texts generalizing g with
  | nil => exact .nil g
  | cons text texts ih =>
      exact .cons mem (fun _ => repeats) (accepted text List.mem_cons_self) (.inl valued)
        (ih fun text later => accepted text (List.mem_cons_of_mem _ later))

end Fit
end Given

/-! ## Reading what is written -/

variable {allowed : List Opt} {g : Given} {o : Opt} {value : Text}

theorem find?_long (mem : o ∈ allowed) :
    (allowed.find? fun o' => o'.long.toList == o.long.toList) = some o := by
  have known : (allowed.find? fun o' => o'.long.toList == o.long.toList).isSome :=
    List.find?_isSome.2 ⟨o, mem, by simp⟩
  obtain ⟨found, is⟩ := Option.isSome_iff_exists.1 known
  have same := List.find?_some is
  rw [beq_iff_eq] at same
  rw [is, Opt.long_injective same]

theorem span_long (o : Opt) (rest : Text) (ends : ∀ c ∈ rest.head?, c = '=') :
    (o.long.toList ++ rest).span (· != '=') = (o.long.toList, rest) := by
  rw [List.span_eq_takeWhile_dropWhile, List.takeWhile_append_of_pos o.long_plain,
    List.dropWhile_append_of_pos o.long_plain]
  cases rest with
  | nil => simp
  | cons c rest => simp [ends c rfl]

theorem readLong_spelled (mem : o ∈ allowed) (once : g.has o = true → o.mayRepeat = true)
    (accepted : o.accepts value = true)
    (plain : o.takesValue = true ∨ value = [] ∧ o ≠ .help ∧ o ≠ .version) :
    readLong allowed g (o.long.toList ++ if o.takesValue then '=' :: value else []) =
      .given (g ++ [(o, value)]) := by
  have added := Given.add?_eq once accepted
  have split := span_long o (if o.takesValue then '=' :: value else [])
    (by cases o.takesValue <;> simp)
  simp only [readLong, split, find?_long mem]
  cases valued : o.takesValue with
  | true => simp [takeValue, added]
  | false =>
      obtain ⟨rfl, notHelp, notVersion⟩ := plain.resolve_left (by simp [valued])
      simp [takeFlag, added]

theorem scan_spelled (mem : o ∈ allowed) (once : g.has o = true → o.mayRepeat = true)
    (accepted : o.accepts value = true)
    (plain : o.takesValue = true ∨ value = [] ∧ o ≠ .help ∧ o ≠ .version) (args : List Text) :
    scan allowed g none (o.spelled value :: args) =
      scan allowed (g ++ [(o, value)]) none args := by
  rw [Opt.spelled, scan]
  simp [o.long_ne_nil, isValue, readLong_spelled mem once accepted plain]

theorem scan_arguments {given : Given} (fit : Given.Fit allowed g given) :
    scan allowed g none given.arguments = .options (g ++ given) [] := by
  -- `Fit` adds to the options read so far as `scan` does.
  induction fit with
  | nil g => simp [Given.arguments, scan]
  | cons mem once accepted plain rest ih =>
      simpa [Given.arguments, scan_spelled mem once accepted plain] using ih

/-! ## Offline commands -/

theorem parse?_command {name : Text} {own : List Opt} {action? : Given → Option Action}
    {given : Given} (word : isValue name = true)
    (known : commands.lookup name = some (own, action?))
    (fit : Given.Fit (everywhere ++ own) [] given) :
    parse? (name :: given.arguments) =
      (action? given).map fun action => .run action (given.value? .config) := by
  have dashes : name ≠ ['-', '-'] := by
    rintro rfl
    exact absurd word (by decide)
  simp only [parse?, scan, dashes, if_false, word, if_true, parseCommand, known,
    scan_arguments fit, List.nil_append]
  simp [Given.value?]

namespace QueryOptions

def given (q : QueryOptions) : Given :=
  [(.session, q.session)] ++ Given.each .resource q.resources ++ Given.each .scope q.scopes ++
    Given.flag .matchAll q.matchAll ++ Given.flag .containsResource q.containsResource

def display (disable : Bool) (tooltip : Option Text) : Given :=
  Given.flag .disable disable ++ Given.each .tooltip tooltip.toList

def checkLine (q : QueryOptions) : List Text := "check".toList :: q.given.arguments

def gateLine (q : QueryOptions) (disable : Bool) (tooltip : Option Text) : List Text :=
  "gate".toList :: (q.given ++ display disable tooltip).arguments

structure Written (q : QueryOptions) : Prop where
  session : q.session ≠ []
  resources : q.resources ≠ []
  scopes : q.scopes ≠ []

variable {q : QueryOptions} {disable : Bool} {tooltip : Option Text}

theorem fit_given (written : q.Written) {allowed : List Opt} (known : queryOpts ⊆ allowed) :
    Given.Fit allowed [] q.given := by
  have session : Given.Fit allowed [] [(.session, q.session)] :=
    .cons (known (by decide)) (by simp) (by simpa [Opt.accepts] using written.session) (.inl rfl)
      (.nil _)
  have resources (g : Given) : Given.Fit allowed g (Given.each .resource q.resources) :=
    .each (known (by decide)) rfl (fun _ _ => rfl) rfl
  have scopes (g : Given) : Given.Fit allowed g (Given.each .scope q.scopes) :=
    .each (known (by decide)) rfl (fun _ _ => rfl) rfl
  have values := (session.append (resources _)).append (scopes _)
  exact (values.append (.flag (known (by decide)) (by simp) rfl (by decide))).append
    (.flag (known (by decide)) (by simp) rfl (by decide))

theorem fit_display {g : Given} {allowed : List Opt} (known : [.disable, .tooltip] ⊆ allowed)
    (new : g.has .disable = false ∧ g.has .tooltip = false) :
    Given.Fit allowed g (display disable tooltip) := by
  have flag : Given.Fit allowed g (Given.flag .disable disable) :=
    .flag (known (by decide)) new.1 rfl (by decide)
  refine flag.append ?_
  cases tooltip with
  | none => exact .nil _
  | some text => exact .cons (known (by decide)) (by simp [new.2]) rfl (.inl rfl) (.nil _)

theorem queryOptions?_given (written : q.Written) (more : Given)
    (other : ∀ o ∈ queryOpts, more.has o = false) :
    queryOptions? (q.given ++ more) = some q := by
  have quiet : ∀ o ∈ queryOpts, more.values o = [] := fun o mem =>
    Given.values_eq_nil (other o mem)
  obtain ⟨session, resources, scopes, matchAll, containsResource⟩ := q
  obtain ⟨r, resources, rfl⟩ := List.exists_cons_of_ne_nil written.resources
  obtain ⟨s, scopes, rfl⟩ := List.exists_cons_of_ne_nil written.scopes
  simp only [queryOpts, List.forall_mem_cons] at quiet other
  simp [queryOptions?, Given.value?, given, quiet, other]

theorem parse?_checkLine (written : q.Written) :
    parse? q.checkLine = some (.run (.check q false) none) := by
  have fit : Given.Fit (everywhere ++ (queryOpts ++ [.wildcardGrants])) [] q.given :=
    fit_given written (by decide)
  have asked := queryOptions?_given written [] (fun _ _ => rfl)
  rw [List.append_nil] at asked
  rw [checkLine, parse?_command (by decide) rfl fit, checkAction?, asked]
  simp [given, Given.value?]

theorem parse?_gateLine (written : q.Written) (shown : tooltip.isSome → disable = true) :
    parse? (q.gateLine disable tooltip) = some (.run (.gate q disable tooltip) none) := by
  have fit : Given.Fit (everywhere ++ (queryOpts ++ [.disable, .tooltip])) []
      (q.given ++ display disable tooltip) :=
    (fit_given written (by decide)).append
      (fit_display (by decide) ⟨by simp [given], by simp [given]⟩)
  have asked := queryOptions?_given written (display disable tooltip)
    (by simp [queryOpts, display])
  rw [gateLine, parse?_command (by decide) rfl fit, gateAction?, asked]
  cases tooltip with
  | none => simp [given, display, Given.value?]
  | some text => simp [given, display, Given.value?, shown]

end QueryOptions
end ConsoleAccess.Command
