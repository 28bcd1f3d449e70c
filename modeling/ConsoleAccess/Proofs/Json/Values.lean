import ConsoleAccess.Json.Basic
import Mathlib.Data.List.Forall2

/-!
# Members and values

What trees hold, apart from how it is looked up: the values under given names (`under`), which trees
have a value (`Tree.Within`), and the last member of a name (`IsLast`), the one that counts in a
dictionary (`getElem?_ofList_iff`).
-/

namespace ConsoleAccess

def IsLast {κ β : Type} (members : List (κ × β)) (name : κ) (value : β) : Prop :=
  ∃ before after, members = before ++ (name, value) :: after ∧ ∀ m ∈ after, m.1 ≠ name

section
variable {κ β : Type} {members : List (κ × β)} {name : κ} {value : β} {m : κ × β}

theorem not_isLast_nil : ¬ IsLast [] name value := by
  rintro ⟨before, after, same, -⟩
  exact List.append_ne_nil_of_right_ne_nil before (List.cons_ne_nil _ after) same.symm

theorem isLast_cons_iff :
    IsLast (m :: members) name value ↔
      IsLast members name value ∨ m = (name, value) ∧ ∀ m' ∈ members, m'.1 ≠ name := by
  constructor
  · rintro ⟨before, after, same, later⟩
    cases before with
    | nil =>
        obtain ⟨rfl, rfl⟩ := List.cons.inj same
        exact .inr ⟨rfl, later⟩
    | cons b before =>
        obtain ⟨rfl, rfl⟩ := List.cons.inj same
        exact .inl ⟨before, after, rfl, later⟩
  · rintro (⟨before, after, rfl, later⟩ | ⟨rfl, later⟩)
    · exact ⟨m :: before, after, rfl, later⟩
    · exact ⟨[], members, rfl, later⟩

end

theorem getElem?_insertMany_iff {β : Type} {d : Dictionary β} {members : List (Text × β)}
    {name : Text} {value : β} :
    (d.insertMany members)[name]? = some value ↔
      IsLast members name value ∨ (∀ m ∈ members, m.1 ≠ name) ∧ d[name]? = some value := by
  induction members generalizing d with
  | nil => simp [not_isLast_nil]
  | cons m members ih =>
      obtain ⟨own, v⟩ := m
      rw [Std.ExtTreeMap.insertMany_cons, ih, isLast_cons_iff, Std.ExtTreeMap.getElem?_insert]
      by_cases same : own = name
      · simp [same, and_comm]
      · simp [same]

theorem getElem?_ofList_iff {β : Type} {members : List (Text × β)} {name : Text} {value : β} :
    (Std.ExtTreeMap.ofList members compare : Dictionary β)[name]? = some value ↔
      IsLast members name value := by
  rw [Std.ExtTreeMap.ofList_eq_insertMany_empty, getElem?_insertMany_iff]
  simp

namespace Json

/-! ## Members -/

def Named (members : List (Option Text × Tree)) : Prop := ∀ m ∈ members, m.1 ≠ none

def under (names : List Text) (members : List (Option Text × Tree)) : List Tree :=
  (members.filter fun m => m.1.any names.contains).map Prod.snd

theorem named?_cons (name? : Option Text) (value : Tree) (members : List (Option Text × Tree)) :
    named? ((name?, value) :: members) =
      name?.bind fun name => (named? members).map ((name, value) :: ·) := by
  cases name? with
  | none => rfl
  | some name =>
      rw [named?, List.mapM_cons, ← named?]
      cases named? members <;> rfl

theorem named?_eq_some_iff {members : List (Option Text × Tree)} {ms : List (Text × Tree)} :
    named? members = some ms ↔ members = ms.map fun m => (some m.1, m.2) := by
  induction members generalizing ms with
  | nil => cases ms <;> simp [named?]
  | cons m members ih =>
      obtain ⟨name?, value⟩ := m
      rw [named?_cons]
      cases ms with
      | nil => cases name? <;> simp
      | cons m ms =>
          obtain ⟨name, other⟩ := m
          cases name? <;> simp [ih, and_comm]

theorem exists_named?_iff {members : List (Option Text × Tree)} :
    (∃ ms, named? members = some ms) ↔ Named members := by
  simp only [named?_eq_some_iff]
  constructor
  · rintro ⟨ms, rfl⟩ m member
    obtain ⟨own, -, rfl⟩ := List.mem_map.1 member
    exact Option.some_ne_none own.1
  · intro named
    induction members with
    | nil => exact ⟨[], rfl⟩
    | cons m members ih =>
        obtain ⟨ms, rfl⟩ := ih fun m' member => named m' (List.mem_cons_of_mem m member)
        obtain ⟨name, own⟩ := Option.ne_none_iff_exists'.1 (named m List.mem_cons_self)
        exact ⟨(name, m.2) :: ms, by rw [List.map_cons, ← own]⟩

theorem soleMember?_eq_some_iff_under {ms : List (Text × Tree)} {names : List Text}
    {value? : Option Tree} :
    soleMember? names ms = some value? ↔
      under names (ms.map fun m => (some m.1, m.2)) = value?.toList := by
  have kept : under names (ms.map fun m => (some m.1, m.2)) =
      (ms.filter fun m => names.contains m.1).map Prod.snd := by
    simp [under, List.filter_map, Function.comp_def]
  rw [kept]
  unfold soleMember?
  split
  · next none =>
    rw [none]
    cases value? <;> simp
  · next one =>
    rw [one]
    cases value? <;> simp
  · next none one =>
    cases value? with
    | none => simpa using none
    | some value =>
        simp only [reduceCtorEq, false_iff, Option.toList_some, List.map_eq_singleton_iff]
        rintro ⟨⟨name, v⟩, kept, -⟩
        exact one name v kept

theorem bind_soleMember?_eq_some_iff {members : List (Option Text × Tree)} {names : List Text}
    {value? : Option Tree} :
    (named? members).bind (soleMember? names) = some value? ↔
      Named members ∧ under names members = value?.toList := by
  rw [Option.bind_eq_some_iff, ← exists_named?_iff]
  constructor
  · rintro ⟨ms, named, sole⟩
    rw [soleMember?_eq_some_iff_under, ← named?_eq_some_iff.1 named] at sole
    exact ⟨⟨ms, named⟩, sole⟩
  · rintro ⟨⟨ms, named⟩, sole⟩
    rw [named?_eq_some_iff.1 named] at sole
    exact ⟨ms, named, soleMember?_eq_some_iff_under.2 sole⟩

/-- Of members that are all named, just one goes by the name. -/
theorem under_eq_singleton_iff {name : Text} {members : List (Option Text × Tree)} {v : Tree} :
    Named members ∧ under [name] members = [v] ↔
      ∃ before after, members = before ++ (some name, v) :: after ∧
        ∀ m ∈ before ++ after, ∃ other, m.1 = some other ∧ other ≠ name := by
  have other_iff (m : Option Text × Tree) :
      (∃ other, m.1 = some other ∧ other ≠ name) ↔
        m.1 ≠ none ∧ ¬ m.1.any [name].contains = true := by
    obtain ⟨name?, value⟩ := m
    cases name? <;> simp
  constructor
  · rintro ⟨named, one⟩
    obtain ⟨m, kept, rfl⟩ := List.map_eq_singleton_iff.1 one
    obtain ⟨before, after, rfl, earlier, own, later⟩ := List.filter_eq_cons_iff.1 kept
    obtain ⟨name?, value⟩ := m
    obtain ⟨_, rfl, same⟩ := (Option.any_eq_true _ _).1 own
    obtain rfl := List.mem_singleton.1 (List.contains_iff_mem.1 same)
    refine ⟨before, after, rfl, fun m member => (other_iff m).2 ⟨named m ?_, ?_⟩⟩
    · rcases List.mem_append.1 member with member | member
      · exact List.mem_append_left _ member
      · exact List.mem_append_right _ (List.mem_cons_of_mem _ member)
    · rcases List.mem_append.1 member with member | member
      · exact earlier m member
      · exact List.filter_eq_nil_iff.1 later m member
  · rintro ⟨before, after, rfl, others⟩
    simp only [other_iff] at others
    have earlier : before.filter (fun m => m.1.any [name].contains) = [] :=
      List.filter_eq_nil_iff.2 fun m member => (others m (List.mem_append_left _ member)).2
    have later : after.filter (fun m => m.1.any [name].contains) = [] :=
      List.filter_eq_nil_iff.2 fun m member => (others m (List.mem_append_right _ member)).2
    refine ⟨fun m member => ?_, ?_⟩
    · rcases List.mem_append.1 member with member | member
      · exact (others m (List.mem_append_left _ member)).1
      · rcases List.mem_cons.1 member with rfl | member
        · exact Option.some_ne_none name
        · exact (others m (List.mem_append_right _ member)).1
    · simp [under, earlier, later]

/-! ## Values -/

namespace Tree

/-- The tree nests at most so deep, its numbers are in range, and its strings and names have a text.
-/
inductive Within : Nat → Tree → Prop
  | null {levels : Nat} : Within levels .null
  | bool {levels : Nat} (b : Bool) : Within levels (.bool b)
  | number {levels : Nat} {n : Numeral} (inRange : n.inRange = true) : Within levels (.number n)
  | string {levels : Nat} (t : Text) : Within levels (.string (some t))
  | array {levels : Nat} {items : List Tree} (values : ∀ item ∈ items, Within levels item) :
      Within (levels + 1) (.array items)
  | object {levels : Nat} {members : List (Option Text × Tree)} (names : Named members)
      (values : ∀ m ∈ members, Within levels m.2) : Within (levels + 1) (.object members)

theorem values?_eq_some_iff {levels : Nat} {items : List Tree} {vs : List Json} :
    values? levels items = some vs ↔
      List.Forall₂ (fun item v => item.value? levels = some v) items vs := by
  induction items generalizing vs with
  | nil => cases vs <;> simp [values?]
  | cons item items ih =>
      rw [values?, List.forall₂_cons_left_iff]
      simp only [← ih]
      split
      · next v vs' value values => simp [value, values, eq_comm]
      · next missing =>
        simp only [reduceCtorEq, false_iff]
        rintro ⟨v, vs', value, values, -⟩
        exact missing v vs' value values

theorem memberValues?_eq_some_iff {levels : Nat} {members : List (Option Text × Tree)}
    {ms : List (Text × Json)} :
    memberValues? levels members = some ms ↔
      List.Forall₂ (fun m v => m.1 = some v.1 ∧ m.2.value? levels = some v.2) members ms := by
  induction members generalizing ms with
  | nil => cases ms <;> simp [memberValues?]
  | cons m members ih =>
      obtain ⟨name?, tree⟩ := m
      rw [memberValues?.eq_def, List.forall₂_cons_left_iff]
      simp only [← ih]
      split
      · next name v vs value values =>
        simp only [value, values, Option.some.injEq, Prod.exists]
        constructor
        · rintro rfl
          exact ⟨name, v, vs, ⟨rfl, rfl⟩, rfl, rfl⟩
        · rintro ⟨_, _, _, ⟨rfl, rfl⟩, rfl, rfl⟩
          rfl
      · next missing =>
        simp only [reduceCtorEq, false_iff]
        rintro ⟨⟨name, v⟩, vs, ⟨rfl, value⟩, values, -⟩
        exact missing name v vs rfl value values

theorem exists_forall₂_iff {α β : Type} {R : α → β → Prop} {xs : List α} :
    (∃ ys, List.Forall₂ R xs ys) ↔ ∀ x ∈ xs, ∃ y, R x y := by
  induction xs with
  | nil => simp
  | cons x xs ih =>
      simp only [List.forall₂_cons_left_iff, List.forall_mem_cons, ← ih]
      constructor
      · rintro ⟨_, y, ys, first, rest, rfl⟩
        exact ⟨⟨y, first⟩, ys, rest⟩
      · rintro ⟨⟨y, first⟩, ys, rest⟩
        exact ⟨y :: ys, y, ys, first, rest, rfl⟩

theorem exists_memberValues?_iff {levels : Nat} {members : List (Option Text × Tree)} :
    (∃ ms, memberValues? levels members = some ms) ↔
      Named members ∧ ∀ m ∈ members, ∃ v, m.2.value? levels = some v := by
  simp only [memberValues?_eq_some_iff, exists_forall₂_iff]
  constructor
  · intro each
    refine ⟨fun m member => ?_, fun m member => ?_⟩
    · obtain ⟨v, name, -⟩ := each m member
      rw [name]
      exact Option.some_ne_none v.1
    · obtain ⟨v, -, value⟩ := each m member
      exact ⟨v.2, value⟩
  · rintro ⟨named, values⟩ m member
    obtain ⟨name, own⟩ := Option.ne_none_iff_exists'.1 (named m member)
    obtain ⟨v, value⟩ := values m member
    exact ⟨(name, v), own, value⟩

theorem exists_value?_of_within {levels : Nat} {tree : Tree} (within : tree.Within levels) :
    ∃ v, tree.value? levels = some v := by
  induction within with
  | null => exact ⟨.null, rfl⟩
  | bool b => exact ⟨.bool b, rfl⟩
  | number inRange => exact ⟨_, if_pos inRange⟩
  | string t => exact ⟨.string t, rfl⟩
  | array _ ih =>
      obtain ⟨vs, values⟩ := exists_forall₂_iff.2 ih
      rw [value?, values?_eq_some_iff.2 values]
      exact ⟨.array vs, rfl⟩
  | object named _ ih =>
      obtain ⟨ms, values⟩ := exists_memberValues?_iff.2 ⟨named, ih⟩
      rw [value?, values]
      exact ⟨.object (lastOfEach ms), rfl⟩

theorem within_of_value? {levels : Nat} {tree : Tree} {v : Json}
    (value : tree.value? levels = some v) : tree.Within levels := by
  induction levels using Nat.strongRecOn generalizing tree v with
  | ind levels ih =>
    cases tree with
    | null => exact .null
    | bool b => exact .bool b
    | number n =>
        by_cases inRange : n.inRange = true
        · exact .number inRange
        · exact absurd ((if_neg inRange).symm.trans value) nofun
    | string text? =>
        cases text? with
        | none => cases value
        | some t => exact .string t
    | array items =>
        cases levels with
        | zero => cases value
        | succ levels =>
            obtain ⟨vs, values, -⟩ := Option.map_eq_some_iff.1 value
            refine .array fun item member => ?_
            obtain ⟨v, value⟩ := exists_forall₂_iff.1 ⟨vs, values?_eq_some_iff.1 values⟩ item member
            exact ih levels (Nat.lt_succ_self levels) value
    | object members =>
        cases levels with
        | zero => cases value
        | succ levels =>
            obtain ⟨ms, values, -⟩ := Option.map_eq_some_iff.1 value
            obtain ⟨named, each⟩ := exists_memberValues?_iff.1 ⟨ms, values⟩
            refine .object named fun m member => ?_
            obtain ⟨v, value⟩ := each m member
            exact ih levels (Nat.lt_succ_self levels) value

theorem within_iff {levels : Nat} {tree : Tree} :
    tree.Within levels ↔ ∃ v, tree.value? levels = some v :=
  ⟨exists_value?_of_within, fun ⟨_, value⟩ => within_of_value? value⟩

theorem absent_iff {members : List (Option Text × Tree)} {ms : List (Text × Json)}
    (names : List.Forall₂ (fun m v => m.1 = some v.1) members ms) {name : Text} :
    (∀ m ∈ members, m.1 ≠ some name) ↔ ∀ m ∈ ms, m.1 ≠ name := by
  induction names with
  | nil => simp
  | cons own _ ih => simp only [List.forall_mem_cons, own, ih, ne_eq, Option.some.injEq]

theorem isLast_memberValues_iff {levels : Nat} {members : List (Option Text × Tree)}
    {ms : List (Text × Json)} (values : memberValues? levels members = some ms) {name : Text}
    {v : Json} :
    IsLast ms name v ↔
      ∃ tree, IsLast members (some name) tree ∧ tree.value? levels = some v := by
  rw [memberValues?_eq_some_iff] at values
  induction values with
  | nil => simp [not_isLast_nil]
  | @cons m m' members ms own rest ih =>
      obtain ⟨name?, tree⟩ := m
      obtain ⟨own_name, v'⟩ := m'
      obtain ⟨rfl, value⟩ := own
      simp only [isLast_cons_iff, ih, ← absent_iff (rest.imp fun _ _ own => own.1)]
      constructor
      · rintro (⟨tree, last, value⟩ | ⟨same, absent⟩)
        · exact ⟨tree, .inl last, value⟩
        · cases same
          exact ⟨tree, .inr ⟨rfl, absent⟩, value⟩
      · rintro ⟨tree', last | ⟨same, absent⟩, value'⟩
        · exact .inl ⟨tree', last, value'⟩
        · cases same
          cases value.symm.trans value'
          exact .inr ⟨rfl, absent⟩

end Tree
end Json
end ConsoleAccess
