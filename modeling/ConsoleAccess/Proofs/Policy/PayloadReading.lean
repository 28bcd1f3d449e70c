import ConsoleAccess.Policy.Payload
import ConsoleAccess.Proofs.Json.Grammar
import ConsoleAccess.Proofs.Json.Values
import Mathlib.Data.List.Perm.Basic

/-!
# Reading payloads

Which texts are payloads (`Payload.Acceptable`), and what these hold (`Payload.Holds`). Both see only
the values given for the three parts, so a member of any other name can come, go and move, and the
order of members does not count (`Payload.parse_exact`). Names must be texts all the same, those of
members that are otherwise ignored too.
-/

namespace ConsoleAccess
open Json

namespace Payload

def identityNames : List Text := ["identity".toList, "accessKey".toList]

def statementsNames : List Text := ["statements".toList]

def permissionsNames : List Text := ["permissions".toList]

def partNames : List Text := identityNames ++ statementsNames ++ permissionsNames

def IsIdentity (v : Tree) : Prop := v = .null ∨ ∃ t, v = .string (some t)

def IsMap (v : Tree) : Prop :=
  ∃ members, v = .object members ∧ Named members ∧ ∀ m ∈ members, m.2.Within valueNesting

def AtMostOne (values : List Tree) (P : Tree → Prop) : Prop :=
  values.length ≤ 1 ∧ ∀ v ∈ values, P v

def Entry (values : List Tree) (name : Text) (raw : Json) : Prop :=
  ∃ members tree, .object members ∈ values ∧ IsLast members (some name) tree ∧
    tree.value? valueNesting = some raw

structure Acceptable (identity statements permissions : List Tree) : Prop where
  identity : AtMostOne identity IsIdentity
  statements : AtMostOne statements IsMap
  permissions : AtMostOne permissions IsMap

structure Holds (identity statements permissions : List Tree) (p : Payload) : Prop where
  identity (t : Text) : p.identity = some t ↔ .string (some t) ∈ identity
  statements (name : Text) (raw : Json) : p.statements[name]? = some raw ↔ Entry statements name raw
  permissions (name : Text) (raw : Json) :
    p.permissions[name]? = some raw ↔ Entry permissions name raw

/-! ## Parts -/

theorem atMostOne_toList_iff {value? : Option Tree} {P : Tree → Prop} :
    AtMostOne value?.toList P ↔ ∀ v ∈ value?, P v := by
  cases value? <;> simp [AtMostOne]

theorem exists_toList_of_atMostOne {values : List Tree} {P : Tree → Prop}
    (one : AtMostOne values P) : ∃ value?, values = Option.toList value? := by
  match values, one.1 with
  | [], _ => exact ⟨none, rfl⟩
  | [v], _ => exact ⟨some v, rfl⟩

theorem AtMostOne.perm {values values' : List Tree} {P : Tree → Prop} (one : AtMostOne values P)
    (perm : values.Perm values') : AtMostOne values' P :=
  ⟨perm.length_eq ▸ one.1, fun v given => one.2 v (perm.mem_iff.2 given)⟩

theorem exists_identity?_iff (v : Tree) : (∃ who, identity? v = some who) ↔ IsIdentity v := by
  constructor
  · rintro ⟨who, read⟩
    unfold identity? at read
    split at read
    · exact .inl rfl
    · exact .inr ⟨_, rfl⟩
    · cases read
  · rintro (rfl | ⟨t, rfl⟩)
    · exact ⟨none, rfl⟩
    · exact ⟨some t, rfl⟩

theorem eq_some_of_identity? {v : Tree} {who : Option Text} (read : identity? v = some who)
    (t : Text) : who = some t ↔ v = .string (some t) := by
  unfold identity? at read
  split at read
  · cases read
    simp
  · cases read
    simp
  · cases read

theorem exists_map?_iff (v : Tree) : (∃ d, map? v = some d) ↔ IsMap v := by
  constructor
  · rintro ⟨d, read⟩
    unfold map? at read
    split at read
    · next members =>
      obtain ⟨ms, values, -⟩ := Option.map_eq_some_iff.1 read
      obtain ⟨named, each⟩ := Tree.exists_memberValues?_iff.1 ⟨ms, values⟩
      exact ⟨members, rfl, named, fun m member => Tree.within_iff.2 (each m member)⟩
    · cases read
  · rintro ⟨members, rfl, named, within⟩
    have each := fun m member => Tree.within_iff.1 (within m member)
    obtain ⟨ms, values⟩ := Tree.exists_memberValues?_iff.2 ⟨named, each⟩
    rw [map?, values]
    exact ⟨_, rfl⟩

theorem getElem?_of_map? {v : Tree} {d : Dictionary Json} (read : map? v = some d) (name : Text)
    (raw : Json) : d[name]? = some raw ↔ Entry [v] name raw := by
  unfold map? at read
  split at read
  · next members =>
    obtain ⟨ms, values, rfl⟩ := Option.map_eq_some_iff.1 read
    rw [getElem?_ofList_iff, Tree.isLast_memberValues_iff values]
    simp [Entry]
  · cases read

theorem entry_nil (name : Text) (raw : Json) : ¬ Entry [] name raw := by
  rintro ⟨members, tree, given, -⟩
  cases given

section
variable {i s q : Option Tree} {p : Payload}

theorem ofParts?_eq_some_iff : ofParts? i s q = some p ↔
    i.elim (some none) identity? = some p.identity ∧ s.elim (some ∅) map? = some p.statements ∧
      q.elim (some ∅) map? = some p.permissions := by
  unfold ofParts?
  split
  · next who statements permissions readWho readStatements readPermissions =>
    rw [readWho, readStatements, readPermissions]
    constructor
    · rintro ⟨⟩
      exact ⟨rfl, rfl, rfl⟩
    · rintro ⟨⟨⟩, ⟨⟩, ⟨⟩⟩
      rfl
  · next missing =>
    simp only [reduceCtorEq, false_iff]
    rintro ⟨readWho, readStatements, readPermissions⟩
    exact missing _ _ _ readWho readStatements readPermissions

theorem exists_elim_iff {α : Type} (default : α) {read : Tree → Option α} {P : Tree → Prop}
    (each : ∀ v, (∃ a, read v = some a) ↔ P v) (value? : Option Tree) :
    (∃ a, value?.elim (some default) read = some a) ↔ AtMostOne value?.toList P := by
  rw [atMostOne_toList_iff]
  cases value? with
  | none => simp
  | some v => simp [each]

theorem exists_ofParts?_iff :
    (∃ p, ofParts? i s q = some p) ↔ Acceptable i.toList s.toList q.toList := by
  have readWho := exists_elim_iff none exists_identity?_iff i
  have readMap := exists_elim_iff ∅ exists_map?_iff
  constructor
  · rintro ⟨p, read⟩
    obtain ⟨who, statements, permissions⟩ := ofParts?_eq_some_iff.1 read
    exact ⟨readWho.1 ⟨_, who⟩, (readMap s).1 ⟨_, statements⟩, (readMap q).1 ⟨_, permissions⟩⟩
  · intro acceptable
    obtain ⟨identity, who⟩ := readWho.2 acceptable.identity
    obtain ⟨statements, raw⟩ := (readMap s).2 acceptable.statements
    obtain ⟨permissions, raw'⟩ := (readMap q).2 acceptable.permissions
    exact ⟨⟨identity, statements, permissions⟩, ofParts?_eq_some_iff.2 ⟨who, raw, raw'⟩⟩

theorem getElem?_of_elim {value? : Option Tree} {d : Dictionary Json}
    (read : value?.elim (some ∅) map? = some d) (name : Text) (raw : Json) :
    d[name]? = some raw ↔ Entry value?.toList name raw := by
  cases value? with
  | none =>
      cases read
      simp [entry_nil]
  | some v => exact getElem?_of_map? read name raw

theorem holds_of_ofParts? (read : ofParts? i s q = some p) : Holds i.toList s.toList q.toList p := by
  obtain ⟨who, statements, permissions⟩ := ofParts?_eq_some_iff.1 read
  refine ⟨fun t => ?_, getElem?_of_elim statements, getElem?_of_elim permissions⟩
  cases i with
  | none =>
      rw [← Option.some.inj who]
      simp
  | some v => rw [eq_some_of_identity? who]; simp [eq_comm]

end

theorem Holds.unique {i s q i' s' q' : List Tree} {p p' : Payload} (held : Holds i s q p)
    (held' : Holds i' s' q' p') (identity : i.Perm i') (statements : s.Perm s')
    (permissions : q.Perm q') : p = p' := by
  have entry {values values' : List Tree} (perm : values.Perm values') (name : Text) (raw : Json) :
      Entry values name raw ↔ Entry values' name raw := by
    simp only [Entry, perm.mem_iff]
  have who : p.identity = p'.identity := Option.ext fun t => by
    rw [held.identity, held'.identity, identity.mem_iff]
  have raw_statements : p.statements = p'.statements :=
    Std.ExtTreeMap.ext_getElem? fun {name} => Option.ext fun raw => by
      rw [held.statements, held'.statements, entry statements]
  have raw_permissions : p.permissions = p'.permissions :=
    Std.ExtTreeMap.ext_getElem? fun {name} => Option.ext fun raw => by
      rw [held.permissions, held'.permissions, entry permissions]
  obtain ⟨who, statements, permissions⟩ := p
  cases who
  cases raw_statements
  cases raw_permissions
  rfl

/-! ## Records and lists of parts -/

theorem ofTree?_object_iff {members : List (Option Text × Tree)} {p : Payload} :
    ofTree? (.object members) = some p ↔ Named members ∧ ∃ i s q : Option Tree,
      under identityNames members = i.toList ∧ under statementsNames members = s.toList ∧
        under permissionsNames members = q.toList ∧ ofParts? i s q = some p := by
  rw [← exists_named?_iff]
  constructor
  · intro read
    rw [ofTree?.eq_def] at read
    simp only at read
    split at read
    · cases read
    · next ms named =>
      refine ⟨⟨ms, named⟩, ?_⟩
      obtain rfl := named?_eq_some_iff.1 named
      split at read
      · next i s q who statements permissions =>
        rw [soleMember?_eq_some_iff_under] at who statements permissions
        exact ⟨i, s, q, who, statements, permissions, read⟩
      · cases read
  · rintro ⟨⟨ms, named⟩, i, s, q, who, statements, permissions, read⟩
    rw [ofTree?.eq_def]
    simp only [named]
    obtain rfl := named?_eq_some_iff.1 named
    rw [← soleMember?_eq_some_iff_under] at who statements permissions
    unfold identityNames at who
    unfold statementsNames at statements
    unfold permissionsNames at permissions
    simp only [who, statements, permissions, read]

theorem ofTree?_array_iff {items : List Tree} {p : Payload} :
    ofTree? (.array items) = some p ↔
      items.length ≤ 3 ∧ ofParts? items[0]? items[1]? items[2]? = some p := by
  match items with
  | [] =>
    have empty : ofParts? none none none = some {} := rfl
    simp [ofTree?, empty]
  | [_] | [_, _] | [_, _, _] => simp [ofTree?]
  | _ :: _ :: _ :: _ :: _ => simp [ofTree?]

def parts (members : List (Option Text × Tree)) : List (Option Text × Tree) :=
  members.filter fun m => m.1.any partNames.contains

theorem under_parts {names : List Text} (among : names ⊆ partNames)
    (members : List (Option Text × Tree)) : under names (parts members) = under names members := by
  have own (m : Option Text × Tree) :
      (m.1.any names.contains && m.1.any partNames.contains) = m.1.any names.contains := by
    obtain ⟨name?, value⟩ := m
    cases name? with
    | none => rfl
    | some name =>
        simp only [Option.any_some, Bool.and_eq_left_iff_imp, List.contains_iff_mem]
        exact fun own => among own
  rw [under, parts, List.filter_filter]
  simp only [own]
  rfl

theorem exists_ofTree?_object_iff {members : List (Option Text × Tree)} :
    (∃ p, ofTree? (.object members) = some p) ↔ Named members ∧
      Acceptable (under identityNames members) (under statementsNames members)
        (under permissionsNames members) := by
  constructor
  · rintro ⟨p, read⟩
    obtain ⟨named, i, s, q, who, statements, permissions, read⟩ := ofTree?_object_iff.1 read
    rw [who, statements, permissions]
    exact ⟨named, exists_ofParts?_iff.1 ⟨p, read⟩⟩
  · rintro ⟨named, acceptable⟩
    obtain ⟨i, who⟩ := exists_toList_of_atMostOne acceptable.identity
    obtain ⟨s, statements⟩ := exists_toList_of_atMostOne acceptable.statements
    obtain ⟨q, permissions⟩ := exists_toList_of_atMostOne acceptable.permissions
    rw [who, statements, permissions] at acceptable
    obtain ⟨p, read⟩ := exists_ofParts?_iff.2 acceptable
    exact ⟨p, ofTree?_object_iff.2 ⟨named, i, s, q, who, statements, permissions, read⟩⟩

theorem holds_of_ofTree?_object {members : List (Option Text × Tree)} {p : Payload}
    (read : ofTree? (.object members) = some p) :
    Holds (under identityNames members) (under statementsNames members)
      (under permissionsNames members) p := by
  obtain ⟨-, i, s, q, who, statements, permissions, read⟩ := ofTree?_object_iff.1 read
  rw [who, statements, permissions]
  exact holds_of_ofParts? read

theorem ofTree?_of_perm {members members' : List (Option Text × Tree)} {p : Payload}
    (read : ofTree? (.object members) = some p) (named : Named members → Named members')
    (perm : (parts members).Perm (parts members')) : ofTree? (.object members') = some p := by
  have under_perm {names : List Text} (among : names ⊆ partNames) :
      (under names members).Perm (under names members') := by
    rw [← under_parts among, ← under_parts among members']
    exact (perm.filter _).map _
  have identity : (under identityNames members).Perm (under identityNames members') :=
    under_perm (by simp [partNames])
  have statements : (under statementsNames members).Perm (under statementsNames members') :=
    under_perm (by simp [partNames])
  have permissions : (under permissionsNames members).Perm (under permissionsNames members') :=
    under_perm (by simp [partNames])
  obtain ⟨own, acceptable⟩ := exists_ofTree?_object_iff.1 ⟨p, read⟩
  have acceptable' : Acceptable (under identityNames members') (under statementsNames members')
      (under permissionsNames members') :=
    ⟨acceptable.identity.perm identity, acceptable.statements.perm statements,
      acceptable.permissions.perm permissions⟩
  obtain ⟨p', read'⟩ := exists_ofTree?_object_iff.2 ⟨named own, acceptable'⟩
  have same : p = p' := (holds_of_ofTree?_object read).unique (holds_of_ofTree?_object read')
    identity statements permissions
  rw [read', same]

/-! ## Texts -/

theorem parse_of_denotes {t : Text} {tree : Tree} (said : Denotes t tree) :
    parse t = (ofTree? tree).elim (.error .unparsable) .ok := by
  rw [parse, read?, Tree.read?_eq_some_iff.2 said, Option.bind_some]
  cases ofTree? tree <;> rfl

theorem parse_ok_iff {t : Text} {tree : Tree} (said : Denotes t tree) {p : Payload} :
    parse t = .ok p ↔ ofTree? tree = some p := by
  rw [parse_of_denotes said]
  cases ofTree? tree <;> simp

theorem denotes_of_parse {t : Text} {p : Payload} (read : parse t = .ok p) :
    (∃ members, Denotes t (.object members)) ∨ ∃ items, Denotes t (.array items) := by
  unfold parse at read
  split at read
  · next p' found =>
    obtain ⟨tree, said, found⟩ := Option.bind_eq_some_iff.1 found
    have said := Tree.read?_eq_some_iff.1 said
    cases tree with
    | object members => exact .inl ⟨members, said⟩
    | array items => exact .inr ⟨items, said⟩
    | null | bool | number | string => cases found
  · cases read

theorem parse_error {t : Text} {e : PayloadError} (refused : parse t = .error e) :
    e = .unparsable := by
  unfold parse at refused
  split at refused <;> cases refused
  rfl

theorem parse_exact (t : Text) :
    (∀ members, Denotes t (.object members) →
      ((∃ p, parse t = .ok p) ↔ Named members ∧
        Acceptable (under identityNames members) (under statementsNames members)
          (under permissionsNames members)) ∧
      (∀ p, parse t = .ok p → Holds (under identityNames members) (under statementsNames members)
        (under permissionsNames members) p) ∧
      ∀ t' members', Denotes t' (.object members') → (Named members ↔ Named members') →
        (parts members).Perm (parts members') → parse t' = parse t) ∧
    (∀ items, Denotes t (.array items) →
      ((∃ p, parse t = .ok p) ↔ items.length ≤ 3 ∧
        Acceptable items[0]?.toList items[1]?.toList items[2]?.toList) ∧
      ∀ p, parse t = .ok p → Holds items[0]?.toList items[1]?.toList items[2]?.toList p) ∧
    ((∃ p, parse t = .ok p) →
      (∃ members, Denotes t (.object members)) ∨ ∃ items, Denotes t (.array items)) ∧
    ∀ e, parse t = .error e → e = .unparsable := by
  refine ⟨fun members said => ⟨?_, fun p read => ?_, fun t' members' said' named perm => ?_⟩,
    fun items said => ⟨?_, fun p read => ?_⟩, fun ⟨p, read⟩ => denotes_of_parse read,
    fun e refused => parse_error refused⟩
  · simp only [parse_ok_iff said]
    exact exists_ofTree?_object_iff
  · exact holds_of_ofTree?_object ((parse_ok_iff said).1 read)
  · have same : ofTree? (.object members') = ofTree? (.object members) := Option.ext fun p =>
      ⟨fun read => ofTree?_of_perm read named.2 perm.symm,
        fun read => ofTree?_of_perm read named.1 perm⟩
    rw [parse_of_denotes said, parse_of_denotes said', same]
  · simp only [parse_ok_iff said, ofTree?_array_iff, exists_and_left, exists_ofParts?_iff]
  · exact holds_of_ofParts? (ofTree?_array_iff.1 ((parse_ok_iff said).1 read)).2

/-- A record with a map that names an entry twice, the same record in another order and among other
members, and the identity alone as an array. -/
theorem parse_exact_reordered :
    let alice := Tree.string (some "alice".toList)
    let map := Tree.object [(some ['a'], .null), (some ['a'], .bool true)]
    let given := "\"statements\":\x7b\"a\":null,\"a\":true\x7d"
    let record := ("\x7b\"accessKey\":\"alice\"," ++ given ++ "\x7d").toList
    let reordered :=
      ("\x7b\"x\":[\"\\ud83d\"]," ++ given ++ ",\"accessKey\":\"alice\"\x7d").toList
    let members := [(some "accessKey".toList, alice), (some "statements".toList, map)]
    let members' := [(some ['x'], .array [.string none]), (some "statements".toList, map),
      (some "accessKey".toList, alice)]
    Denotes record (.object members) ∧ Denotes reordered (.object members') ∧
      (∃ p, parse record = .ok p ∧ p.identity = some "alice".toList ∧
        p.statements[['a']]? = some (.bool true)) ∧
      parse reordered = parse record ∧
      Denotes "[\"alice\"]".toList (.array [alice]) ∧
      ∃ p, parse "[\"alice\"]".toList = .ok p ∧ p.identity = some "alice".toList := by
  intro alice map given record reordered members members'
  have said : Denotes record (.object members) := Token.ofText?_sound (by decide +kernel)
  have said' : Denotes reordered (.object members') := Token.ofText?_sound (by decide +kernel)
  have alone : Denotes "[\"alice\"]".toList (.array [alice]) :=
    Token.ofText?_sound (by decide +kernel)
  have named : Named members := by simp [Named, members]
  have named' : Named members' := by simp [Named, members']
  obtain ⟨accepted, held, unordered⟩ := (parse_exact record).1 members said
  obtain ⟨accepted', held'⟩ := (parse_exact "[\"alice\"]".toList).2.1 [alice] alone
  have who : under identityNames members = [alice] := by rfl
  have statements : under statementsNames members = [map] := by rfl
  have permissions : under permissionsNames members = [] := by rfl
  rw [who, statements, permissions] at accepted held
  have identity : AtMostOne [alice] IsIdentity := by simp [AtMostOne, IsIdentity, alice]
  have nothing : AtMostOne [] IsMap := by simp [AtMostOne]
  have kept : AtMostOne [map] IsMap := by
    refine ⟨Nat.le_refl 1, fun v given => ?_⟩
    obtain rfl := List.mem_singleton.1 given
    refine ⟨_, rfl, by simp [Named], fun m member => ?_⟩
    rcases List.mem_pair.1 member with rfl | rfl
    · exact .null
    · exact .bool true
  obtain ⟨p, read⟩ := accepted.2 ⟨named, identity, kept, nothing⟩
  obtain ⟨p', read'⟩ := accepted'.2 ⟨by decide, identity, nothing, nothing⟩
  have entry : Entry [map] ['a'] (.bool true) :=
    ⟨_, .bool true, List.mem_singleton_self _, ⟨[(some ['a'], .null)], [], rfl, nofun⟩, rfl⟩
  refine ⟨said, said', ⟨p, read, ?_, ?_⟩, ?_, alone, p', read', ?_⟩
  · exact ((held p read).identity _).2 (List.mem_singleton_self _)
  · exact ((held p read).statements _ _).2 entry
  · refine unordered reordered members' said' ⟨fun _ => named', fun _ => named⟩ ?_
    have own : parts members = members := by rfl
    have own' : parts members' = members.reverse := by rfl
    rw [own, own']
    exact (List.reverse_perm _).symm
  · exact ((held' p' read').identity _).2 (List.mem_singleton_self _)

/-- Names are read as texts even where the members are ignored, and so is what is kept: an unpaired
surrogate in either makes the whole unreadable. -/
theorem unpaired_surrogates_refused :
    let blank := "\x7b\x7d".toList
    let ignored := "\x7b\"\\ud83d\":null\x7d".toList
    let identity := "\x7b\"identity\":\"\\ud83d\"\x7d".toList
    let kept := "\x7b\"statements\":\x7b\"a\":\"\\ud83d\"\x7d\x7d".toList
    (Denotes blank (.object []) ∧ parse blank = .ok {}) ∧
    (Denotes ignored (.object [(none, .null)]) ∧ parse ignored = .error .unparsable) ∧
    (Denotes identity (.object [(some "identity".toList, .string none)]) ∧
      parse identity = .error .unparsable) ∧
    Denotes kept (.object [(some "statements".toList, .object [(some ['a'], .string none)])]) ∧
      parse kept = .error .unparsable := by
  intro blank ignored identity kept
  have said : Denotes blank (.object []) := Token.ofText?_sound (by decide +kernel)
  have ignored_said : Denotes ignored (.object [(none, .null)]) :=
    Token.ofText?_sound (by decide +kernel)
  have identity_said : Denotes identity (.object [(some "identity".toList, .string none)]) :=
    Token.ofText?_sound (by decide +kernel)
  have kept_said : Denotes kept
      (.object [(some "statements".toList, .object [(some ['a'], .string none)])]) :=
    Token.ofText?_sound (by decide +kernel)
  exact ⟨⟨said, (parse_of_denotes said).trans rfl⟩,
    ⟨ignored_said, (parse_of_denotes ignored_said).trans rfl⟩,
    ⟨identity_said, (parse_of_denotes identity_said).trans rfl⟩,
    kept_said, (parse_of_denotes kept_said).trans rfl⟩

end Payload
end ConsoleAccess
