import ConsoleAccess.Proofs.Transfer.History
import Mathlib.Data.List.Nodup

/-!
# The registry as an ordered list

A registry is a list of transfers in the order in which they were registered, whatever the order in
which it keeps its entries: each query is a query on that list (`Refines`), and after any run the
list holds the transfers that are standing after the run's history (`run_refines`). The clock enters
in one place only: it moves on between two registrations, so sorting by start times gives the order
of registration back.
-/

namespace ConsoleAccess.Transfers

/-- A registry answers every query as the list of entries does. -/
structure Refines (t : Transfers) (entries : List TransferEntry) : Prop where
  list : t.list = entries.map (·.info)
  distinct : (t.list.map (·.id)).Nodup
  size : t.size = t.list.length
  isEmpty : t.isEmpty = t.list.isEmpty
  get : ∀ id info, t.get? id = some info ↔ info ∈ t.list ∧ info.id = id
  payload : ∀ id bytes, t.payload? id = some bytes ↔
    ∃ entry ∈ entries, entry.info.id = id ∧ entry.payload = some bytes
  listed : ∀ info ∈ t.list, (t.cancel info.id).1 = true ∧ (t.remove info.id).1 = true ∧
    (∀ task, (t.attachTask info.id task).1 = .ok ()) ∧
    ∀ bytes, (t.attachPayload info.id (some bytes)).1 = .ok .attached
  unlisted : ∀ id, (∀ info ∈ t.list, info.id ≠ id) →
    t.cancel id = (false, t) ∧ t.remove id = (false, t) ∧
    (∀ task, t.attachTask id task = (.error (.notFound id), t)) ∧
    ∀ bytes?, t.attachPayload id bytes? = (.error (.notFound id), t)
  brokenOff : ∀ id, (t.attachPayload id none).2 = t

/-! ## The entries in order -/

namespace Follows
variable {t : Transfers} {past : List Event}

theorem entries_perm (follows : Follows t past) :
    (t.entries.toList.map Prod.snd).Perm (standing past) := by
  have tracked (key : Text) (entry : TransferEntry) :
      (key, entry) ∈ t.entries.toList ↔ t.entry? ⟨key⟩ = some entry :=
    Std.ExtTreeMap.mem_toList_iff_getElem?_eq_some
  have distinct : (t.entries.toList.map Prod.snd).Nodup := by
    rw [List.Nodup, List.pairwise_map]
    refine Std.ExtTreeMap.distinct_keys_toList.imp_of_mem ?_
    intro first second here there differ same
    have first_named := follows.named ((tracked _ _).1 here)
    have second_named := follows.named ((tracked _ _).1 there)
    rw [same, second_named, TransferId.mk.injEq] at first_named
    exact differ (Std.LawfulEqCmp.compare_eq_iff_eq.2 first_named.symm)
  rw [List.perm_ext_iff_of_nodup distinct (List.Nodup.of_map _ follows.distinct)]
  intro entry
  simp only [List.mem_map, Prod.exists, exists_eq_right, tracked, follows.holds_iff]
  constructor
  · rintro ⟨key, member, -⟩
    exact member
  · intro member
    exact ⟨entry.info.id.text, member, rfl⟩

theorem list_eq (follows : Follows t past)
    (inOrder : ((standing past).map (·.info.startedAt)).Pairwise (· < ·)) :
    t.list = (standing past).map (·.info) := by
  have earlier : ((standing past).map (·.info)).Pairwise (·.startedAt < ·.startedAt) := by
    rw [List.pairwise_map] at inOrder ⊢
    exact inOrder
  have perm : t.list.Perm ((standing past).map (·.info)) := by
    have infos := follows.entries_perm.map (·.info)
    rw [List.map_map] at infos
    exact (List.mergeSort_perm _ _).trans infos
  have sorted : t.list.Pairwise (·.startedAt ≤ ·.startedAt) := by
    have result := List.pairwise_mergeSort
      (fun (a b c : TransferInfo) (first : decide (a.startedAt ≤ b.startedAt) = true)
        (second : decide (b.startedAt ≤ c.startedAt) = true) =>
          decide_eq_true (Nat.le_trans (of_decide_eq_true first) (of_decide_eq_true second)))
      (fun a b => by simpa using Nat.le_total a.startedAt b.startedAt)
      (t.entries.toList.map fun e => e.2.info)
    exact result.imp of_decide_eq_true
  -- Sorting alone leaves ties in any order. The clock rules them out, so only one order is left.
  have differ : t.list.Pairwise (·.startedAt ≠ ·.startedAt) :=
    (perm.pairwise_iff Ne.symm).2 (earlier.imp Nat.ne_of_lt)
  have strictly : t.list.Pairwise (·.startedAt < ·.startedAt) :=
    (sorted.and differ).imp fun both => Nat.lt_of_le_of_ne both.1 both.2
  exact perm.eq_of_pairwise (fun _ _ _ _ first second => absurd first (Nat.lt_asymm second))
    strictly earlier

theorem refines (follows : Follows t past)
    (inOrder : ((standing past).map (·.info.startedAt)).Pairwise (· < ·)) :
    Refines t (standing past) := by
  have list := follows.list_eq inOrder
  have size : t.size = t.list.length := by
    have length := follows.entries_perm.length_eq
    rw [List.length_map, Std.ExtTreeMap.length_toList] at length
    rw [list, List.length_map]
    exact length
  have mem_list (info : TransferInfo) : info ∈ t.list ↔ ∃ entry, t.entry? info.id = some entry ∧
      entry.info = info := by
    simp only [list, List.mem_map, follows.holds_iff]
    constructor
    · rintro ⟨entry, member, rfl⟩
      exact ⟨entry, ⟨member, rfl⟩, rfl⟩
    · rintro ⟨entry, ⟨member, -⟩, same⟩
      exact ⟨entry, member, same⟩
  constructor
  case list => exact list
  case distinct =>
    rw [list, List.map_map]
    exact follows.distinct
  case size => exact size
  case isEmpty =>
    have none_left : t.isEmpty = (t.size == 0) := Std.ExtTreeMap.isEmpty_eq_size_beq_zero
    rw [none_left, size]
    cases t.list <;> rfl
  case get =>
    intro id info
    rw [get?, Option.map_eq_some_iff, mem_list]
    constructor
    · rintro ⟨entry, tracked, rfl⟩
      have named := follows.named tracked
      exact ⟨⟨entry, named.symm ▸ tracked, rfl⟩, named⟩
    · rintro ⟨⟨entry, tracked, same⟩, rfl⟩
      exact ⟨entry, tracked, same⟩
  case payload =>
    intro id bytes
    simp only [payload?, Option.bind_eq_some_iff, follows.holds_iff, and_assoc]
  case listed =>
    intro info member
    obtain ⟨entry, tracked, -⟩ := (mem_list info).1 member
    refine ⟨?_, isTracked_iff.2 ⟨entry, tracked⟩, ?_, ?_⟩
    · rw [cancel_of_tracked tracked]
    · intro task
      rw [attachTask_of_tracked tracked]
    · intro bytes
      rw [attachPayload_of_tracked tracked]
  case unlisted =>
    intro id elsewhere
    have untracked : t.entry? id = none := by
      rw [Option.eq_none_iff_forall_ne_some]
      intro entry tracked
      have named := follows.named tracked
      exact elsewhere entry.info ((mem_list _).2 ⟨entry, named.symm ▸ tracked, rfl⟩) named
    exact ⟨cancel_of_untracked untracked, remove_of_untracked untracked,
      attachTask_of_untracked untracked, attachPayload_of_untracked untracked⟩
  case brokenOff => exact t.attachPayload_none

end Follows

/-! ## Start times -/

def Step.startedAt? : Step → Option Nat
  | .register r | .spawn r => some r.startedAt
  | _ => none

def Event.startedAt? : Event → Option Nat
  | .entered info => some info.startedAt
  | _ => none

theorem startTimes_standing (past : List Event) :
    List.Sublist ((standing past).map (·.info.startedAt)) (past.filterMap Event.startedAt?) := by
  induction past with
  | nil => simp [standing]
  | cons event past ih =>
      cases event with
      | entered info =>
          have here : Event.startedAt? (.entered info) = some info.startedAt := rfl
          rw [standing, List.filterMap_cons_some here]
          split
          · exact ih.cons _
          · exact ih.cons_cons _
      | attached | kept | left => exact ih

theorem startTimes_events (past : Trace) (step : Step) (outcome : Outcome) :
    List.Sublist ((events past (step, outcome)).filterMap Event.startedAt?)
      step.startedAt?.toList := by
  unfold events
  split
  case h_1 same =>
    cases same
    exact List.Sublist.refl _
  case h_2 same =>
    cases same
    exact List.Sublist.refl _
  case h_5 task same => cases spawnedFor? past task <;> exact List.nil_sublist _
  all_goals exact List.nil_sublist _

theorem startTimes_history (past : Trace) (t : Transfers) (steps : List Step) :
    List.Sublist ((history past (t.trace steps)).filterMap Event.startedAt?)
      (steps.filterMap Step.startedAt?) := by
  induction steps generalizing past t with
  | nil => simp [trace, history]
  | cons step steps ih =>
      have first := startTimes_events past step (t.perform step).1
      have rest := ih (past ++ [(step, (t.perform step).1)]) (t.perform step).2
      rw [trace, history, List.filterMap_append]
      cases time : step.startedAt? with
      | none =>
          rw [time] at first
          rw [List.filterMap_cons_none time, List.sublist_nil.1 first]
          exact rest
      | some n =>
          rw [time] at first
          rw [List.filterMap_cons_some time]
          exact first.append rest

theorem run_refines (steps : List Step)
    (clock : (steps.filterMap Step.startedAt?).Pairwise (· < ·)) :
    Refines (run {} steps) (standing (history [] (trace {} steps))) := by
  have tracks : Tracks (run {} steps) (trace {} steps) := Tracks.empty.run steps
  apply tracks.follows.refines
  exact clock.sublist ((startTimes_standing _).trans (startTimes_history [] {} steps))

/-- An id is used again while the task of its first transfer goes on, and that task then takes the
second transfer out. -/
theorem run_refines_reused_id :
    let a : TransferId := ⟨"a".toList⟩
    let b : TransferId := ⟨"b".toList⟩
    let upload (n : Nat) : Registration :=
      { candidates := [a, b], kind := .upload, bucket := "bucket".toList, object := "key".toList
        startedAt := n }
    let steps : List Step :=
      [.spawn (upload 1), .register (upload 2), .attachPayload b (some [1]), .attachPayload b none,
        .remove a, .register (upload 3), .attachPayload a (some [2]), .complete 0]
    let kept : TransferEntry := { info := (upload 2).transfer b, payload := some [1] }
    (steps.filterMap Step.startedAt?).Pairwise (· < ·) ∧
      standing (history [] (trace {} (steps.dropLast))) =
        [kept, { info := (upload 3).transfer a, payload := some [2] }] ∧
      Refines (run {} steps) [kept] := by
  intro a b upload steps kept
  have clock : (steps.filterMap Step.startedAt?).Pairwise (· < ·) := by decide
  have before : standing (history [] (trace {} (steps.dropLast))) =
      [kept, { info := (upload 3).transfer a, payload := some [2] }] := by decide
  have after : standing (history [] (trace {} steps)) = [kept] := by decide
  exact ⟨clock, before, after ▸ run_refines steps clock⟩

end ConsoleAccess.Transfers
