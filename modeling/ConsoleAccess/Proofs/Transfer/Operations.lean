import ConsoleAccess.Transfer.Run

/-!
# Operations of the registry

What each operation does to the entries (`entry?_put`, `entry?_remove`) and to the tasks
(`taskState?_settle`), and the cases of the operations that branch: `register_of_fresh?`,
`spawn_of_fresh?`, `cancel_of_tracked`, `complete_of_running`. No later proof opens an operation.
-/

namespace ConsoleAccess

theorem TransferId.text_inj {id id' : TransferId} : id.text = id'.text ↔ id = id' := by
  cases id; cases id'; simp

namespace Transfers
variable {t : Transfers} {id : TransferId} {task : TaskId}

/-! ## Entries -/

@[simp] theorem entry?_put (t : Transfers) (entry : TransferEntry) (id : TransferId) :
    entry? (t.put entry) id = if entry.info.id = id then some entry else t.entry? id := by
  simp only [put, entry?, Std.ExtTreeMap.getElem?_insert, Std.LawfulEqCmp.compare_eq_iff_eq,
    TransferId.text_inj]

@[simp] theorem entry?_remove (t : Transfers) (id id' : TransferId) :
    entry? (t.remove id).2 id' = if id = id' then none else t.entry? id' := by
  simp only [remove, entry?, Std.ExtTreeMap.getElem?_erase, Std.LawfulEqCmp.compare_eq_iff_eq,
    TransferId.text_inj]

@[simp] theorem entry?_start (t : Transfers) (carries : Option TransferInfo) (id : TransferId) :
    entry? (t.start carries).2 id = t.entry? id := rfl

@[simp] theorem entry?_settle (t : Transfers) (task : TaskId) (state : TaskState)
    (id : TransferId) : entry? (t.settle task state) id = t.entry? id := rfl

theorem isTracked_iff : t.isTracked id = true ↔ ∃ entry, t.entry? id = some entry := by
  rw [isTracked, Option.isSome_iff_exists]

theorem remove_of_untracked (untracked : t.entry? id = none) : t.remove id = (false, t) := by
  have same : t.entries.erase id.text = t.entries := by
    apply Std.ExtTreeMap.ext_getElem?
    intro key
    rw [Std.ExtTreeMap.getElem?_erase]
    split
    · next own =>
        rw [← Std.LawfulEqCmp.eq_of_compare own]
        exact untracked.symm
    · rfl
  simp [remove, isTracked, untracked, same]

/-! ## Tasks -/

@[simp] theorem tasks_put (t : Transfers) (entry : TransferEntry) : (t.put entry).tasks = t.tasks :=
  rfl

@[simp] theorem tasks_remove (t : Transfers) (id : TransferId) : (t.remove id).2.tasks = t.tasks :=
  rfl

@[simp] theorem tasks_start (t : Transfers) (carries : Option TransferInfo) :
    (t.start carries).2.tasks = t.tasks ++ [{ carries : Task }] := rfl

theorem getElem?_tasks_settle (t : Transfers) (task : TaskId) (state : TaskState) (k : TaskId) :
    (t.settle task state).tasks[k]? = (t.tasks[k]?).map fun found =>
      if task = k ∧ found.state = .running then { found with state } else found := by
  simp only [settle, List.getElem?_modify]
  by_cases same : task = k
  · subst same
    cases t.tasks[task]? <;> simp
  · simp [same]

theorem taskState?_settle (t : Transfers) (task : TaskId) (state : TaskState) (k : TaskId) :
    (t.settle task state).taskState? k =
      if task = k ∧ t.taskState? k = some .running then some state else t.taskState? k := by
  rw [taskState?, getElem?_tasks_settle, taskState?]
  cases t.tasks[k]? with
  | none => simp
  | some found =>
      simp only [Option.map_some, Option.some.injEq]
      split <;> rfl

@[simp] theorem taskState?_remove (t : Transfers) (id : TransferId) (k : TaskId) :
    (t.remove id).2.taskState? k = t.taskState? k := rfl

def carries? (t : Transfers) (task : TaskId) : Option TransferInfo :=
  (t.tasks[task]?).bind (·.carries)

@[simp] theorem carries?_put (t : Transfers) (entry : TransferEntry) (k : TaskId) :
    (t.put entry).carries? k = t.carries? k := rfl

@[simp] theorem carries?_remove (t : Transfers) (id : TransferId) (k : TaskId) :
    (t.remove id).2.carries? k = t.carries? k := rfl

theorem carries?_start (t : Transfers) (carries : Option TransferInfo) (k : TaskId) :
    (t.start carries).2.carries? k = if k = t.tasks.length then carries else t.carries? k := by
  rw [carries?, carries?, tasks_start]
  rcases Nat.lt_trichotomy k t.tasks.length with early | rfl | late
  · rw [List.getElem?_append_left early, if_neg (Nat.ne_of_lt early)]
  · simp
  · rw [if_neg (Nat.ne_of_gt late), List.getElem?_eq_none (Nat.le_of_lt late),
      List.getElem?_eq_none (by simpa using Nat.succ_le_of_lt late)]

@[simp] theorem carries?_length (t : Transfers) : t.carries? t.tasks.length = none := by
  simp [carries?]

@[simp] theorem carries?_settle (t : Transfers) (task : TaskId) (state : TaskState) (k : TaskId) :
    (t.settle task state).carries? k = t.carries? k := by
  rw [carries?, getElem?_tasks_settle, carries?]
  cases t.tasks[k]? with
  | none => rfl
  | some found =>
      simp only [Option.map_some, Option.bind_some]
      split <;> rfl

/-! ## Operations that branch -/

def Registration.transfer (r : Registration) (id : TransferId) : TransferInfo :=
  { id, kind := r.kind, bucket := r.bucket, object := r.object, startedAt := r.startedAt }

theorem untracked_of_fresh? {r : Registration} {info : TransferInfo}
    (fresh : t.fresh? r = some info) : t.entry? info.id = none ∧ info = r.transfer info.id := by
  obtain ⟨id, found, rfl⟩ := Option.map_eq_some_iff.1 fresh
  have free := List.find?_some found
  rw [Bool.not_eq_true', isTracked, Option.isSome_eq_false_iff, Option.isNone_iff_eq_none] at free
  exact ⟨free, rfl⟩

theorem register_of_fresh? {r : Registration} {info : TransferInfo}
    (fresh : t.fresh? r = some info) : t.register r = (some info, t.put { info }) := by
  simp only [register, fresh]

theorem register_of_none {r : Registration} (none_fresh : t.fresh? r = none) :
    t.register r = (none, t) := by
  simp only [register, none_fresh]

theorem spawn_of_fresh? {r : Registration} {info : TransferInfo} (fresh : t.fresh? r = some info) :
    t.spawn r = (some (info, t.tasks.length),
      ((t.put { info }).start (some info)).2.put { info, task := some t.tasks.length }) := by
  have tracked : entry? ((t.put { info }).start (some info)).2 info.id = some { info } := by simp
  simp only [spawn, register_of_fresh? fresh, startWork, attachTask, tracked]
  rfl

theorem spawn_of_none {r : Registration} (none_fresh : t.fresh? r = none) :
    t.spawn r = (none, t) := by
  simp only [spawn, register_of_none none_fresh]

theorem attachTask_of_tracked {entry : TransferEntry} (tracked : t.entry? id = some entry)
    (task : TaskId) : t.attachTask id task = (.ok (), t.put { entry with task := some task }) := by
  simp only [attachTask, tracked]

theorem attachTask_of_untracked (untracked : t.entry? id = none) (task : TaskId) :
    t.attachTask id task = (.error (.notFound id), t) := by
  simp only [attachTask, untracked]

theorem attachPayload_of_tracked {entry : TransferEntry} (tracked : t.entry? id = some entry)
    (bytes : List UInt8) :
    t.attachPayload id (some bytes) = (.ok .attached, t.put { entry with payload := some bytes }) := by
  simp only [attachPayload, tracked]

theorem attachPayload_of_untracked (untracked : t.entry? id = none) (bytes? : Option (List UInt8)) :
    t.attachPayload id bytes? = (.error (.notFound id), t) := by
  simp only [attachPayload, untracked]

theorem attachPayload_none (t : Transfers) (id : TransferId) : (t.attachPayload id none).2 = t := by
  cases tracked : t.entry? id <;> simp only [attachPayload, tracked]

theorem cancel_of_untracked (untracked : t.entry? id = none) : t.cancel id = (false, t) := by
  simp only [cancel, untracked]

theorem cancel_of_tracked {entry : TransferEntry} (tracked : t.entry? id = some entry) :
    t.cancel id = (true, entry.task.elim (t.remove id).2 (t.remove id).2.abort) := by
  simp only [cancel, tracked]
  cases entry.task <;> rfl

theorem entry?_cancel {entry : TransferEntry} (tracked : t.entry? id = some entry)
    (id' : TransferId) : entry? (t.cancel id).2 id' = if id = id' then none else t.entry? id' := by
  rw [cancel_of_tracked tracked]
  cases entry.task <;> simp [abort]

theorem taskState?_cancel {entry : TransferEntry} (tracked : t.entry? id = some entry)
    (k : TaskId) : (t.cancel id).2.taskState? k =
      if entry.task = some k ∧ t.taskState? k = some .running then some .cancelled
      else t.taskState? k := by
  rw [cancel_of_tracked tracked]
  cases entry.task with
  | none => simp [taskState?]
  | some task =>
      rw [Option.elim_some, abort, taskState?_settle, taskState?_remove]
      congr 1
      rw [Option.some.injEq]

theorem running_iff : t.taskState? task = some .running ↔
    t.tasks[task]? = some { state := .running, carries := t.carries? task } := by
  rw [taskState?, carries?]
  cases t.tasks[task]? with
  | none => simp
  | some found => cases found; simp

theorem complete_of_not_running (settled : t.taskState? task ≠ some .running) :
    t.complete task = (false, t) := by
  rw [taskState?] at settled
  cases found : t.tasks[task]? with
  | none => simp only [complete, found]
  | some task =>
      obtain ⟨state, carries⟩ := task
      cases state <;> simp_all [complete]

theorem complete_of_running (running : t.taskState? task = some .running) :
    t.complete task = (true, (t.carries? task).elim (t.settle task .finished)
      fun info => ((t.settle task .finished).remove info.id).2) := by
  simp only [complete, running_iff.1 running]
  cases t.carries? task <;> rfl

/-! ## Steps -/

def Outcome.Failed : Outcome → Prop
  | .registered none | .spawned none | .attached (.error _) | .kept (.error _)
  | .kept (.ok .brokenOff) | .flag false => True
  | _ => False

inductive Performed (t : Transfers) : Step → Outcome × Transfers → Prop
  | refused {step : Step} {outcome : Outcome} (failed : outcome.Failed) :
      Performed t step (outcome, t)
  | registered {r : Registration} {info : TransferInfo} (fresh : t.fresh? r = some info) :
      Performed t (.register r) (.registered (some info), t.put { info })
  | spawned {r : Registration} {info : TransferInfo} (fresh : t.fresh? r = some info) :
      Performed t (.spawn r) (.spawned (some (info, t.tasks.length)),
        ((t.put { info }).start (some info)).2.put { info, task := some t.tasks.length })
  | started : Performed t .start (.started t.tasks.length, (t.start none).2)
  | attached {id : TransferId} {task : TaskId} {entry : TransferEntry}
      (tracked : t.entry? id = some entry) :
      Performed t (.attachTask id task) (.attached (.ok ()), t.put { entry with task := some task })
  | kept {id : TransferId} {bytes : List UInt8} {entry : TransferEntry}
      (tracked : t.entry? id = some entry) :
      Performed t (.attachPayload id (some bytes))
        (.kept (.ok .attached), t.put { entry with payload := some bytes })
  | ended {task : TaskId} (running : t.taskState? task = some .running)
      (free : t.carries? task = none) :
      Performed t (.complete task) (.flag true, t.settle task .finished)
  | delivered {task : TaskId} {info : TransferInfo} (running : t.taskState? task = some .running)
      (carries : t.carries? task = some info) :
      Performed t (.complete task) (.flag true, ((t.settle task .finished).remove info.id).2)
  | removed {id : TransferId} {entry : TransferEntry} (tracked : t.entry? id = some entry) :
      Performed t (.remove id) (.flag true, (t.remove id).2)
  | cancelled {id : TransferId} {entry : TransferEntry} (tracked : t.entry? id = some entry)
      (alone : entry.task = none) : Performed t (.cancel id) (.flag true, (t.remove id).2)
  | stopped {id : TransferId} {entry : TransferEntry} {task : TaskId}
      (tracked : t.entry? id = some entry) (carried : entry.task = some task) :
      Performed t (.cancel id) (.flag true, (t.remove id).2.settle task .cancelled)

theorem perform_cases (t : Transfers) (step : Step) : Performed t step (t.perform step) := by
  cases step with
  | register r =>
      cases fresh : t.fresh? r with
      | none => simpa only [perform, register, fresh] using .refused trivial
      | some info => simpa only [perform, register, fresh] using .registered fresh
  | spawn r =>
      cases fresh : t.fresh? r with
      | none => simpa only [perform, spawn, register, fresh] using .refused trivial
      | some info => simpa only [perform, spawn_of_fresh? fresh] using .spawned fresh
  | start => exact .started
  | attachTask id task =>
      cases tracked : t.entry? id with
      | none => simpa only [perform, attachTask, tracked] using .refused trivial
      | some entry => simpa only [perform, attachTask, tracked] using .attached tracked
  | attachPayload id bytes? =>
      cases tracked : t.entry? id with
      | none => simpa only [perform, attachPayload, tracked] using .refused trivial
      | some entry =>
          cases bytes? with
          | none => simpa only [perform, attachPayload, tracked] using .refused trivial
          | some bytes => simpa only [perform, attachPayload, tracked] using .kept tracked
  | complete task =>
      by_cases running : t.taskState? task = some .running
      · cases carries : t.carries? task with
        | none =>
            simpa only [perform, complete, running_iff.1 running, carries] using .ended running carries
        | some info =>
            simpa only [perform, complete, running_iff.1 running, carries] using
              .delivered running carries
      · simpa only [perform, complete_of_not_running running] using .refused trivial
  | cancel id =>
      cases tracked : t.entry? id with
      | none => simpa only [perform, cancel, tracked] using .refused trivial
      | some entry =>
          cases carried : entry.task with
          | none => simpa only [perform, cancel, tracked, carried] using .cancelled tracked carried
          | some task =>
              simpa only [perform, cancel, tracked, carried] using .stopped tracked carried
  | remove id =>
      cases tracked : t.entry? id with
      | none => simpa only [perform, remove_of_untracked tracked] using .refused trivial
      | some entry =>
          have answer : t.isTracked id = true := isTracked_iff.2 ⟨entry, tracked⟩
          simpa only [perform, remove, answer] using .removed tracked

end Transfers
end ConsoleAccess
