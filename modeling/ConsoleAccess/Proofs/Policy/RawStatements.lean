import ConsoleAccess.Proofs.Policy.MadeStatements
import ConsoleAccess.Proofs.Policy.PayloadEntries
import Mathlib.Data.List.Forall2
import Mathlib.Data.List.Perm.Basic

/-!
# Raw statements

A raw value is a statement just if it is a record of three parts (`IsRecord`) that spell an effect,
actions and resources (`Spells`), and a statement can be made of these (`Statement.MadeOf`). No part
of this sees an order: values that differ only in the order of members and of listed texts
(`Rearranged`) are the same statement, or none (`Statement.ofJson?_rearranged`).
-/

namespace ConsoleAccess

/-! ## Records -/

def HasSole (members : List (Text × Json)) (names : List Text) (value : Json) : Prop :=
  ∃ name, members.filter (fun m => names.contains m.1) = [(name, value)]

/-- The value is a record of these three parts: an object that has each of them once, under either
of its names, or an array of the three in order. -/
inductive IsRecord : Json → Json → Json → Json → Prop
  | object {members : List (Text × Json)} {e a r : Json}
      (effect : HasSole members ["effect".toList, "Effect".toList] e)
      (actions : HasSole members ["actions".toList, "Action".toList] a)
      (resources : HasSole members ["resources".toList, "Resource".toList] r) :
      IsRecord (.object members) e a r
  | array (e a r : Json) : IsRecord (.array [e, a, r]) e a r

theorem soleMember?_eq_some_iff {members : List (Text × Json)} {names : List Text} {value : Json} :
    Json.soleMember? names members = some (some value) ↔ HasSole members names value := by
  unfold Json.soleMember? HasSole
  split
  · next none => simp only [none, reduceCtorEq, Option.some.injEq, exists_false]
  · next name other one =>
      rw [Option.some.injEq, Option.some.injEq, one]
      simp
  · next many =>
      simp only [reduceCtorEq, false_iff]
      rintro ⟨name, one⟩
      exact many name value one

theorem IsRecord.ofJson? {v e a r : Json} (record : IsRecord v e a r) :
    Statement.ofJson? v = Statement.ofValues? e a r := by
  cases record with
  | object effect actions resources =>
      rw [← soleMember?_eq_some_iff] at effect actions resources
      simp only [Statement.ofJson?, effect, actions, resources]
  | array => rfl

theorem isRecord_of_ofJson? {v : Json} {s : Statement} (read : Statement.ofJson? v = some s) :
    ∃ e a r, IsRecord v e a r := by
  unfold Statement.ofJson? at read
  split at read
  · split at read
    · next effect actions resources =>
        rw [soleMember?_eq_some_iff] at effect actions resources
        exact ⟨_, _, _, .object effect actions resources⟩
    · cases read
  · exact ⟨_, _, _, .array _ _ _⟩
  · cases read

/-! ## Statements -/

def Spells (v : Json) (effect : Effect) (actions resources : List Text) : Prop :=
  ∃ e a r, IsRecord v (.string e) a r ∧ e.lower = effect.text ∧ Lists a actions ∧ Lists r resources

namespace Statement

theorem ofValues?_eq_some_iff {e a r : Json} {s : Statement} :
    ofValues? e a r = some s ↔ ∃ name actions resources, e = .string name ∧
      name.lower = s.effect.text ∧ Lists a actions ∧ Lists r resources ∧
        MadeOf s.effect actions resources s := by
  simp only [← oneOrMany?_eq_some_iff, ← text?_eq_some_iff]
  unfold ofValues?
  split
  · next name actions resources text listed listed' =>
      simp [text, listed, listed', toOption_eq_some_iff, parse_eq_ok_iff]
  · next missing =>
      simp only [reduceCtorEq, false_iff]
      rintro ⟨name, actions, resources, text, -, listed, listed', -⟩
      exact missing name actions resources text listed listed'

theorem ofJson?_eq_some_iff {v : Json} {s : Statement} :
    ofJson? v = some s ↔ ∃ actions resources,
      Spells v s.effect actions resources ∧ MadeOf s.effect actions resources s := by
  constructor
  · intro read
    obtain ⟨e, a, r, record⟩ := isRecord_of_ofJson? read
    rw [record.ofJson?, ofValues?_eq_some_iff] at read
    obtain ⟨name, actions, resources, rfl, spelled, listed, listed', made⟩ := read
    exact ⟨actions, resources, ⟨name, a, r, record, spelled, listed, listed'⟩, made⟩
  · rintro ⟨actions, resources, ⟨name, a, r, record, spelled, listed, listed'⟩, made⟩
    rw [record.ofJson?, ofValues?_eq_some_iff]
    exact ⟨name, actions, resources, rfl, spelled, listed, listed', made⟩

end Statement

/-! ## Order -/

inductive Shuffled : Json → Json → Prop
  | refl (v : Json) : Shuffled v v
  | items {vs vs' : List Json} (perm : vs.Perm vs') : Shuffled (.array vs) (.array vs')

structure ShuffledMember (m m' : Text × Json) : Prop where
  name : m.1 = m'.1
  value : Shuffled m.2 m'.2

inductive Rearranged : Json → Json → Prop
  | members {ms ms' : List (Text × Json)} (perm : ms.Perm ms') :
      Rearranged (.object ms) (.object ms')
  | object {ms ms' : List (Text × Json)} (parts : List.Forall₂ ShuffledMember ms ms') :
      Rearranged (.object ms) (.object ms')
  | array {vs vs' : List Json} (parts : List.Forall₂ Shuffled vs vs') :
      Rearranged (.array vs) (.array vs')
  | trans {v w u : Json} (first : Rearranged v w) (second : Rearranged w u) : Rearranged v u

theorem Shuffled.symm {v v' : Json} (shuffled : Shuffled v v') : Shuffled v' v := by
  cases shuffled with
  | refl => exact .refl v
  | items perm => exact .items perm.symm

theorem Shuffled.trans {v w u : Json} (first : Shuffled v w) (second : Shuffled w u) :
    Shuffled v u := by
  cases first with
  | refl => exact second
  | items perm =>
      cases second with
      | refl => exact .items perm
      | items perm' => exact .items (perm.trans perm')

theorem Rearranged.symm {v v' : Json} (same : Rearranged v v') : Rearranged v' v := by
  induction same with
  | members perm => exact .members perm.symm
  | object parts => exact .object (parts.imp fun _ _ part => ⟨part.name.symm, part.value.symm⟩).flip
  | array parts => exact .array (parts.imp fun _ _ part => part.symm).flip
  | trans _ _ first second => exact second.trans first

section
variable {members members' : List (Text × Json)} {names : List Text} {value : Json}

theorem HasSole.perm (sole : HasSole members names value) (perm : members.Perm members') :
    HasSole members' names value := by
  obtain ⟨name, one⟩ := sole
  refine ⟨name, List.perm_singleton.1 ?_⟩
  rw [← one]
  exact (perm.filter _).symm

theorem HasSole.shuffled (sole : HasSole members names value)
    (parts : List.Forall₂ ShuffledMember members members') :
    ∃ value', HasSole members' names value' ∧ Shuffled value value' := by
  obtain ⟨name, one⟩ := sole
  have named : ∀ ⦃m m'⦄, ShuffledMember m m' →
      (names.contains m.1 = true ↔ names.contains m'.1 = true) :=
    fun m m' part => by rw [part.name]
  have kept : List.Forall₂ ShuffledMember [(name, value)]
      (members'.filter fun m => names.contains m.1) := one ▸ List.rel_filter named parts
  obtain ⟨⟨name', value'⟩, rest, part, none, one'⟩ := List.forall₂_cons_left_iff.1 kept
  rw [List.forall₂_nil_left_iff.1 none] at one'
  exact ⟨value', ⟨name', one'⟩, part.value⟩

end

theorem IsRecord.rearranged {v v' e a r : Json} (record : IsRecord v e a r)
    (same : Rearranged v v') : ∃ e' a' r', IsRecord v' e' a' r' ∧
      Shuffled e e' ∧ Shuffled a a' ∧ Shuffled r r' := by
  induction same generalizing e a r with
  | members perm =>
      obtain ⟨effect, actions, resources⟩ := record
      exact ⟨e, a, r, .object (effect.perm perm) (actions.perm perm) (resources.perm perm),
        .refl e, .refl a, .refl r⟩
  | object parts =>
      obtain ⟨effect, actions, resources⟩ := record
      obtain ⟨e', effect, toE⟩ := effect.shuffled parts
      obtain ⟨a', actions, toA⟩ := actions.shuffled parts
      obtain ⟨r', resources, toR⟩ := resources.shuffled parts
      exact ⟨e', a', r', .object effect actions resources, toE, toA, toR⟩
  | array parts =>
      cases record
      simp only [List.forall₂_cons_left_iff, List.forall₂_nil_left_iff] at parts
      obtain ⟨e', -, toE, ⟨a', -, toA, ⟨r', -, toR, rfl, rfl⟩, rfl⟩, rfl⟩ := parts
      exact ⟨e', a', r', .array e' a' r', toE, toA, toR⟩
  | trans _ _ first second =>
      obtain ⟨e', a', r', record, toE, toA, toR⟩ := first record
      obtain ⟨e'', a'', r'', record, toE', toA', toR'⟩ := second record
      exact ⟨e'', a'', r'', record, toE.trans toE', toA.trans toA', toR.trans toR'⟩

theorem Lists.shuffled {v v' : Json} {texts : List Text} (lists : Lists v texts)
    (shuffled : Shuffled v v') : ∃ texts', Lists v' texts' ∧ texts.Perm texts' := by
  cases shuffled with
  | refl => exact ⟨texts, lists, .refl texts⟩
  | items perm =>
      cases lists with
      | many =>
          have spelled : List.Forall₂ (· = Json.string ·) (texts.map Json.string) texts :=
            List.forall₂_map_left_iff.2 (List.forall₂_same.2 fun _ _ => rfl)
          obtain ⟨texts', spelled', perm'⟩ := List.perm_comp_forall₂ perm.symm spelled
          rw [← List.forall₂_map_right_iff (R := Eq), List.forall₂_eq_eq_eq] at spelled'
          exact ⟨texts', spelled' ▸ .many texts', perm'.symm⟩

theorem Spells.rearranged {v v' : Json} {effect : Effect} {actions resources : List Text}
    (spells : Spells v effect actions resources) (same : Rearranged v v') :
    ∃ actions' resources', Spells v' effect actions' resources' ∧
      actions.Perm actions' ∧ resources.Perm resources' := by
  obtain ⟨name, a, r, record, spelled, listed, listed'⟩ := spells
  obtain ⟨e', a', r', record, toE, toA, toR⟩ := record.rearranged same
  cases toE
  obtain ⟨actions', listed, perm⟩ := listed.shuffled toA
  obtain ⟨resources', listed', perm'⟩ := listed'.shuffled toR
  exact ⟨actions', resources', ⟨name, a', r', record, spelled, listed, listed'⟩, perm, perm'⟩

namespace Statement

theorem ofJson?_of_rearranged {v v' : Json} {s : Statement} (same : Rearranged v v')
    (read : ofJson? v = some s) : ofJson? v' = some s := by
  rw [ofJson?_eq_some_iff] at read ⊢
  obtain ⟨actions, resources, spells, made⟩ := read
  obtain ⟨actions', resources', spells, perm, perm'⟩ := spells.rearranged same
  exact ⟨actions', resources', spells, made.congr (fun _ => perm.mem_iff) fun _ => perm'.mem_iff⟩

theorem ofJson?_rearranged {v v' : Json} (same : Rearranged v v') : ofJson? v' = ofJson? v :=
  Option.ext fun _ => ⟨ofJson?_of_rearranged same.symm, ofJson?_of_rearranged same⟩

/-! ## Acceptance -/

theorem ofJson?_exact (v : Json) :
    ((∃ s, ofJson? v = some s) ↔ ∃ effect actions resources, Spells v effect actions resources ∧
      Text.present actions ≠ [] ∧ ∃ r ∈ resources, normalizeResource r = ['*'] ∨
        ∃ p, ResourcePattern.parse? (normalizeResource r) = some p) ∧
    (∀ s, ofJson? v = some s ↔ ∃ actions resources, Spells v s.effect actions resources ∧
      Text.present actions ≠ [] ∧ (∀ t, t ∈ s.actionTexts ↔ t ∈ Text.present actions) ∧
      ResourceSet.StandFor resources s.resources) ∧
    ∀ v', Rearranged v v' → ofJson? v' = ofJson? v := by
  refine ⟨?_, fun s => ?_, fun _ => ofJson?_rearranged⟩
  · constructor
    · rintro ⟨s, read⟩
      obtain ⟨actions, resources, spells, made⟩ := ofJson?_eq_some_iff.1 read
      exact ⟨s.effect, actions, resources, spells, made.visible,
        ResourceSet.exists_standFor_iff.1 ⟨s.resources, made.resources⟩⟩
    · rintro ⟨effect, actions, resources, spells, visible, valid⟩
      obtain ⟨set, stand⟩ := ResourceSet.exists_standFor_iff.2 valid
      obtain ⟨s, made⟩ : ∃ s, MadeOf effect actions resources s := exists_madeOf visible stand
      have own := made.effect
      subst own
      exact ⟨s, ofJson?_eq_some_iff.2 ⟨actions, resources, spells, made⟩⟩
  · rw [ofJson?_eq_some_iff]
    refine exists_congr fun actions => exists_congr fun resources => and_congr_right fun _ => ?_
    exact ⟨fun made => ⟨made.visible, made.actions, made.resources⟩,
      fun ⟨visible, texts, stand⟩ => ⟨rfl, visible, texts, stand⟩⟩

/-- The members of a refusal in another order, and what one of them lists. -/
theorem ofJson?_exact_refusal :
    let get : ActionPattern := ⟨"s3:GetObject".toList, by decide, by decide⟩
    let bucket : ResourcePattern := ⟨"b/".toList, true, "b/*".toList, by decide⟩
    let action := Json.string "s3:GetObject".toList
    let blank := Json.string " ".toList
    let record (actions : List Json) : List (Text × Json) :=
      [("Effect".toList, .string "DENY".toList), ("Action".toList, .array actions),
        ("resources".toList, .string "b/*".toList), ("note".toList, .null)]
    let v := Json.object (record [action, blank])
    let v' := Json.object (record [blank, action]).reverse
    Rearranged v v' ∧ ofJson? v = some (.on .deny get bucket) ∧
      ofJson? v' = some (.on .deny get bucket) := by
  intro get bucket action blank record v v'
  have same : Rearranged v v' := by
    have listed : List.Forall₂ ShuffledMember (record [action, blank]) (record [blank, action]) :=
      .cons ⟨rfl, .refl _⟩ (.cons ⟨rfl, .items (.swap _ _ _)⟩
        (.cons ⟨rfl, .refl _⟩ (.cons ⟨rfl, .refl _⟩ .nil)))
    exact .trans (.object listed) (.members (List.reverse_perm _).symm)
  have read : ofJson? v = some (.on .deny get bucket) := by rfl
  obtain ⟨-, -, unordered⟩ := ofJson?_exact v
  exact ⟨same, read, (unordered v' same).trans read⟩

end Statement
end ConsoleAccess
