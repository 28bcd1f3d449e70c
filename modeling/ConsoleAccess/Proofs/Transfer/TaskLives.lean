import ConsoleAccess.Proofs.Transfer.History
import Mathlib.Data.List.Induction
import Mathlib.Data.List.Infix

/-!
# The lives of tasks

Three things tie tasks to transfers: an entry remembers a task, a spawned task will take its
transfer out, and both may have gone when the other comes to act. A step changes no task but one
that it starts or settles (`tasks_perform`), so a settled task stays as it is, and only a cancel
stops one. As long as a spawned transfer is there its own task runs (`Guarded.perform`): the entry
goes with whatever ends the task.
-/

namespace ConsoleAccess.Transfers
variable {t : Transfers} {past : Trace} {id : TransferId} {task : TaskId}

/-! ## One step -/

/-- Tasks are left as they are, joined by one more, or one of them is settled. -/
def TasksGoOn (before after : Transfers) : Prop :=
  after.tasks = before.tasks ∨
  (∃ carries, after.tasks = (before.start carries).2.tasks) ∨
  ∃ task state, state ≠ .running ∧ after.tasks = (before.settle task state).tasks

/-- A task keeps its transfer, and its state once that is settled. -/
theorem TasksGoOn.keeps {t' : Transfers} (goOn : TasksGoOn t t') {found : Task}
    (there : t.tasks[task]? = some found) :
    ∃ found', t'.tasks[task]? = some found' ∧ found'.carries = found.carries ∧
      (found.state ≠ .running → found' = found) := by
  rcases goOn with same | ⟨carries, started⟩ | ⟨task', state, ends, settled⟩
  · exact ⟨found, same ▸ there, rfl, fun _ => rfl⟩
  · have early : task < t.tasks.length := (List.getElem?_eq_some_iff.1 there).1
    rw [started, tasks_start, List.getElem?_append_left early]
    exact ⟨found, there, rfl, fun _ => rfl⟩
  · rw [settled, getElem?_tasks_settle, there, Option.map_some]
    refine ⟨_, rfl, ?_, ?_⟩
    · split <;> rfl
    · intro still
      simp [still]

theorem TasksGoOn.length {t' : Transfers} (goOn : TasksGoOn t t') :
    t.tasks.length ≤ t'.tasks.length := by
  rcases goOn with same | ⟨carries, started⟩ | ⟨task, state, -, settled⟩
  · exact same ▸ Nat.le_refl _
  · rw [started, tasks_start, List.length_append]
    exact Nat.le_add_right _ _
  · rw [settled, settle, List.length_modify]

theorem tasks_perform (t : Transfers) (step : Step) : TasksGoOn t (t.perform step).2 := by
  have performed := t.perform_cases step
  generalize t.perform step = after at performed
  cases performed with
  | refused | registered | attached | kept | removed | cancelled => exact Or.inl rfl
  | spawned | started => exact Or.inr (Or.inl ⟨_, rfl⟩)
  | ended | delivered => exact Or.inr (Or.inr ⟨_, .finished, nofun, rfl⟩)
  | stopped => exact Or.inr (Or.inr ⟨_, .cancelled, nofun, rfl⟩)

theorem taskState?_run_of_settled {state : TaskState} (now : t.taskState? task = some state)
    (settled : state ≠ .running) (later : List Step) :
    (t.run later).taskState? task = some state := by
  induction later generalizing t with
  | nil => exact now
  | cons step later ih =>
      obtain ⟨found, there, rfl⟩ := Option.map_eq_some_iff.1 now
      obtain ⟨found', there', -, same⟩ := (t.tasks_perform step).keeps there
      apply ih
      rw [taskState?, there', same settled, Option.map_some]

theorem perform_of_failed {step : Step} (failed : (t.perform step).1.Failed) :
    (t.perform step).2 = t := by
  have performed := t.perform_cases step
  generalize t.perform step = after at performed failed
  cases performed with
  | refused => rfl
  | _ => exact failed.elim

def Step.LeavesTasks : Step → Prop
  | .register _ | .remove _ | .attachTask _ _ | .attachPayload _ _ => True
  | _ => False

theorem tasks_perform_of_leavesTasks {step : Step} (leaves : step.LeavesTasks) :
    (t.perform step).2.tasks = t.tasks := by
  have performed := t.perform_cases step
  generalize t.perform step = after at performed
  cases performed with
  | refused | registered | attached | kept | removed => rfl
  | _ => exact leaves.elim

def Remembers (t : Transfers) (id : TransferId) (task : TaskId) : Prop :=
  ∃ entry, t.entry? id = some entry ∧ entry.task = some task

theorem remembers_of_put {entry : TransferEntry} (remembers : (t.put entry).Remembers id task) :
    t.Remembers id task ∨ entry.info.id = id ∧ entry.task = some task := by
  obtain ⟨entry', tracked, carried⟩ := remembers
  rw [entry?_put] at tracked
  split at tracked
  · next here =>
      cases tracked
      exact Or.inr ⟨here, carried⟩
  · exact Or.inl ⟨entry', tracked, carried⟩

theorem remembers_of_remove {gone : TransferId} (remembers : (t.remove gone).2.Remembers id task) :
    t.Remembers id task := by
  obtain ⟨entry, tracked, carried⟩ := remembers
  rw [entry?_remove] at tracked
  split at tracked
  · cases tracked
  · exact ⟨entry, tracked, carried⟩

def Named (t : Transfers) : Prop := ∀ id entry, t.entry? id = some entry → entry.info.id = id

/-- A task is remembered when it is attached, or when a spawn starts it. -/
theorem remembers_of_perform (named : Named t) {step : Step}
    (remembers : (t.perform step).2.Remembers id task) :
    t.Remembers id task ∨ step = .attachTask id task ∨
      task = t.tasks.length ∧ task < (t.perform step).2.tasks.length := by
  have performed := t.perform_cases step
  generalize t.perform step = after at performed remembers
  cases performed with
  | refused | started | ended => exact Or.inl remembers
  | registered =>
      rcases remembers_of_put remembers with old | ⟨-, new⟩
      · exact Or.inl old
      · cases new
  | @spawned r info fresh =>
      rcases remembers_of_put remembers with started | ⟨-, new⟩
      · rcases remembers_of_put (t := t) started with old | ⟨-, new⟩
        · exact Or.inl old
        · cases new
      · cases new
        exact Or.inr (Or.inr ⟨rfl, by simp⟩)
  | @attached id' task' entry tracked =>
      rcases remembers_of_put remembers with old | ⟨here, new⟩
      · exact Or.inl old
      · cases new
        rw [← here, named id' entry tracked]
        exact Or.inr (Or.inl rfl)
  | @kept id' bytes entry tracked =>
      rcases remembers_of_put remembers with old | ⟨here, same⟩
      · exact Or.inl old
      · exact Or.inl ⟨entry, by rw [← here, named id' entry tracked, tracked], same⟩
  | delivered | removed | cancelled | stopped => exact Or.inl (remembers_of_remove remembers)

/-- A task stops running when it completes, or when a transfer that remembers it is cancelled. -/
theorem running_perform (running : t.taskState? task = some .running) (step : Step) :
    (t.perform step).2.taskState? task = some .running ∨ step = .complete task ∨
      ∃ id, step = .cancel id ∧ t.Remembers id task := by
  have performed := t.perform_cases step
  generalize t.perform step = after at performed
  have settle_other {other : TaskId} (differs : other ≠ task) (state : TaskState) :
      (t.settle other state).taskState? task = some .running := by
    rw [taskState?_settle, if_neg fun same => differs same.1, running]
  have start (carries : Option TransferInfo) :
      (t.start carries).2.taskState? task = some .running := by
    obtain ⟨found, there, state⟩ := Option.map_eq_some_iff.1 running
    have early := (List.getElem?_eq_some_iff.1 there).1
    rw [taskState?, tasks_start, List.getElem?_append_left early, there, Option.map_some, state]
  cases performed with
  | refused | registered | attached | kept | removed | cancelled => exact Or.inl running
  | spawned | started => exact Or.inl (start _)
  | @ended task' | @delivered task' =>
      by_cases same : task' = task
      · exact Or.inr (Or.inl (congrArg _ same))
      · exact Or.inl (settle_other same .finished)
  | @stopped id entry task' tracked carried =>
      by_cases same : task' = task
      · exact Or.inr (Or.inr ⟨id, rfl, entry, tracked, same ▸ carried⟩)
      · exact Or.inl (settle_other same .cancelled)

/-! ## Spawned tasks -/

/-- A running task that will take out the transfer of this id, and that no other entry remembers. -/
structure Guarded (t : Transfers) (id : TransferId) (task : TaskId) : Prop where
  running : t.taskState? task = some .running
  carries : (t.carries? task).map (·.id) = some id
  handle : ∀ id', t.Remembers id' task → id' = id

theorem carries?_perform_of_running (running : t.taskState? task = some .running) (step : Step) :
    (t.perform step).2.carries? task = t.carries? task := by
  obtain ⟨found, there, -⟩ := Option.map_eq_some_iff.1 running
  obtain ⟨found', there', same, -⟩ := (t.tasks_perform step).keeps there
  rw [carries?, carries?, there, there', Option.bind_some, Option.bind_some, same]

theorem Guarded.perform (guarded : Guarded t id task) (follows : Follows t (history [] past))
    {step : Step} (others : ∀ id', step ≠ .attachTask id' task)
    (still : (t.perform step).2.isTracked id = true) : Guarded (t.perform step).2 id task where
  running := by
    rcases running_perform guarded.running step with running | rfl | ⟨id', rfl, remembers⟩
    · exact running
    · obtain ⟨info, carried, rfl⟩ := Option.map_eq_some_iff.1 guarded.carries
      simp [Transfers.perform, complete_of_running guarded.running, carried, isTracked] at still
    · obtain ⟨entry, tracked, carried⟩ := remembers
      obtain rfl := guarded.handle id' ⟨entry, tracked, carried⟩
      simp [Transfers.perform, isTracked, entry?_cancel tracked] at still
  carries := by
    rw [carries?_perform_of_running guarded.running]
    exact guarded.carries
  handle := by
    intro id' remembers
    rcases remembers_of_perform (fun _ _ => follows.named) remembers with old | new | ⟨new, -⟩
    · exact guarded.handle id' old
    · exact absurd new (others id')
    · have carries := guarded.carries
      rw [new, carries?_length] at carries
      cases carries

/-! ## Handles -/

def Step.handle? : Step → Option TaskId
  | .attachTask _ task => some task
  | _ => none

def ownTasks (past : Trace) : List TaskId :=
  past.filterMap fun
    | (.start, .started task) => some task
    | _ => none

/-- Callers attach tasks that they have started. The handle of a spawned task never leaves the
registry. -/
def OwnHandles (steps : List Step) : Prop :=
  ∀ n < steps.length, ∀ task ∈ (steps[n]?).bind Step.handle?,
    task ∈ ownTasks (trace {} (steps.take n))

instance : DecidablePred OwnHandles := fun steps =>
  inferInstanceAs (Decidable (∀ n < steps.length, ∀ task ∈ (steps[n]?).bind Step.handle?,
    task ∈ ownTasks (trace {} (steps.take n))))

theorem OwnHandles.of_append {steps later : List Step} (own : OwnHandles (steps ++ later)) :
    OwnHandles steps := by
  intro n inside task handle
  have further : n < (steps ++ later).length := by
    rw [List.length_append]
    exact Nat.lt_add_right _ inside
  have known := own n further task (by rwa [List.getElem?_append_left inside])
  rwa [List.take_append_of_le_length (Nat.le_of_lt inside)] at known

theorem OwnHandles.last {steps : List Step} {step : Step} (own : OwnHandles (steps ++ [step]))
    {task : TaskId} (handle : step.handle? = some task) : task ∈ ownTasks (trace {} steps) := by
  have known := own steps.length (by simp) task (by simp [handle])
  rwa [List.take_left] at known

structure Accounted (t : Transfers) (past : Trace) : Prop where
  free : ∀ task ∈ ownTasks past, (t.tasks[task]?).map (·.carries) = some none
  remembered : ∀ id task, t.Remembers id task → task < t.tasks.length

theorem Accounted.perform (accounted : Accounted t past) (follows : Follows t (history [] past))
    {step : Step} (own : ∀ task, step.handle? = some task → task ∈ ownTasks past) :
    Accounted (t.perform step).2 (past ++ [(step, (t.perform step).1)]) where
  free := by
    intro task known
    rw [ownTasks, List.filterMap_append, List.mem_append] at known
    rcases known with old | new
    · obtain ⟨found, there, carries⟩ := Option.map_eq_some_iff.1 (accounted.free task old)
      obtain ⟨found', there', same, -⟩ := (t.tasks_perform step).keeps there
      rw [there', Option.map_some, same, carries]
    · cases step <;> simp at new
      cases (Option.some.inj new : t.tasks.length = task)
      simp [Transfers.perform]
  remembered := by
    intro id task remembers
    have grows := (t.tasks_perform step).length
    rcases remembers_of_perform (fun _ _ => follows.named) remembers with old | rfl | ⟨-, new⟩
    · exact Nat.lt_of_lt_of_le (accounted.remembered id task old) grows
    · obtain ⟨found, there, -⟩ := Option.map_eq_some_iff.1 (accounted.free task (own task rfl))
      exact Nat.lt_of_lt_of_le (List.getElem?_eq_some_iff.1 there).1 grows
    · exact new

theorem run_append (t : Transfers) (steps later : List Step) :
    t.run (steps ++ later) = (t.run steps).run later :=
  List.foldl_append

theorem trace_append (t : Transfers) (steps later : List Step) :
    t.trace (steps ++ later) = t.trace steps ++ (t.run steps).trace later := by
  induction steps generalizing t with
  | nil => rfl
  | cons step steps ih => exact congrArg _ (ih (t.perform step).2)

theorem accounted_run {steps : List Step} (own : OwnHandles steps) :
    Accounted (run {} steps) (trace {} steps) := by
  induction steps using List.reverseRecOn with
  | nil => exact ⟨by simp [trace, ownTasks], by simp [Remembers, Transfers.run, entry?]⟩
  | append_singleton steps step ih =>
      have tracks : Tracks (run {} steps) (trace {} steps) := Tracks.empty.run steps
      rw [run_append, trace_append]
      exact (ih own.of_append).perform tracks.follows fun _ => own.last

theorem guarded_of_spawn (accounted : Accounted t past) {r : Registration} {info : TransferInfo}
    (spawned : (t.spawn r).1 = some (info, task)) : Guarded (t.spawn r).2 info.id task := by
  cases fresh : t.fresh? r with
  | none =>
      rw [spawn_of_none fresh] at spawned
      cases spawned
  | some info' =>
      rw [spawn_of_fresh? fresh] at spawned ⊢
      cases spawned
      constructor
      · simp [taskState?]
      · simp [carries?_start]
      · intro id' remembers
        rcases remembers_of_put remembers with before | ⟨here, -⟩
        · rcases remembers_of_put (t := t) before with old | ⟨-, new⟩
          · exact absurd (accounted.remembered id' _ old) (Nat.lt_irrefl _)
          · cases new
        · exact here.symm

theorem guarded_run {steps later : List Step} {r : Registration} {info : TransferInfo}
    (own : OwnHandles (steps ++ .spawn r :: later))
    (spawned : ((run {} steps).spawn r).1 = some (info, task))
    (still : ∀ seen, seen <+: later →
      (run {} (steps ++ .spawn r :: seen)).isTracked info.id = true) :
    Guarded (run {} (steps ++ .spawn r :: later)) info.id task := by
  -- On the later steps from their end: `still` holds of every part that they begin with.
  induction later using List.reverseRecOn with
  | nil =>
      rw [run_append]
      exact guarded_of_spawn (accounted_run own.of_append) spawned
  | append_singleton seen step ih =>
      have split : steps ++ .spawn r :: (seen ++ [step]) = (steps ++ .spawn r :: seen) ++ [step] := by
        simp
      rw [split] at own ⊢
      have guarded := ih own.of_append fun earlier before =>
        still earlier (before.trans (List.prefix_append _ _))
      have tracks : Tracks (run {} (steps ++ .spawn r :: seen)) _ := Tracks.empty.run _
      have accounted := accounted_run own.of_append
      have tracked := still (seen ++ [step]) (List.prefix_rfl)
      rw [split, run_append] at tracked
      rw [run_append]
      apply guarded.perform tracks.follows _ tracked
      rintro id' rfl
      obtain ⟨found, there, free⟩ := Option.map_eq_some_iff.1 (accounted.free task (own.last rfl))
      have carries := guarded.carries
      rw [carries?, there, Option.bind_some, free] at carries
      cases carries

/-! ## Runs -/

/-- What holds of the tasks of a registry at any moment, given the entries as the history has them.
-/
structure LiveOn (t : Transfers) (entries : List TransferEntry) : Prop where
  settled : ∀ task state, t.taskState? task = some state → state ≠ .running →
    ∀ later, (t.run later).taskState? task = some state
  cancel_stops : ∀ id, (t.cancel id).1 = true → ∃ entry ∈ entries, entry.info.id = id ∧
    ∀ task, (t.cancel id).2.taskState? task =
      if entry.task = some task ∧ t.taskState? task = some .running then some .cancelled
      else t.taskState? task
  spared : ∀ step, step.LeavesTasks → (t.perform step).2.tasks = t.tasks
  failed : ∀ step, (t.perform step).1.Failed → (t.perform step).2 = t
  inert : ∀ task, t.taskState? task = some .cancelled →
    ∀ later, (t.run later).complete task = (false, t.run later)

theorem Follows.liveOn {past : List Event} (follows : Follows t past) :
    LiveOn t (standing past) where
  settled _ _ now settled := taskState?_run_of_settled now settled
  cancel_stops := by
    intro id cancelled
    cases tracked : t.entry? id with
    | none =>
        rw [cancel_of_untracked tracked] at cancelled
        cases cancelled
    | some entry =>
        obtain ⟨member, named⟩ := (follows.holds_iff id entry).1 tracked
        exact ⟨entry, member, named, taskState?_cancel tracked⟩
  spared _ leaves := tasks_perform_of_leavesTasks leaves
  failed _ failed := perform_of_failed failed
  inert := by
    intro task cancelled later
    apply complete_of_not_running
    rw [taskState?_run_of_settled cancelled nofun]
    nofun

theorem run_liveOn (steps : List Step) :
    LiveOn (run {} steps) (standing (history [] (trace {} steps))) ∧
    ∀ later r info task, OwnHandles (steps ++ .spawn r :: later) →
      ((run {} steps).spawn r).1 = some (info, task) →
      (∀ seen, seen <+: later →
        (run {} (steps ++ .spawn r :: seen)).isTracked info.id = true) →
      (run {} (steps ++ .spawn r :: later)).taskState? task = some .running := by
  constructor
  · have tracks : Tracks (run {} steps) (trace {} steps) := Tracks.empty.run steps
    exact tracks.follows.liveOn
  · intro later r info task own spawned still
    exact (guarded_run own spawned still).running

/-- A task of the caller's takes the place of a spawned one and is stopped with another transfer. -/
theorem run_liveOn_displaced :
    let a : TransferId := ⟨"a".toList⟩
    let b : TransferId := ⟨"b".toList⟩
    let upload (n : Nat) : Registration :=
      { candidates := [a, b], kind := .upload, bucket := "bucket".toList, object := "key".toList
        startedAt := n }
    let steps : List Step := [.start, .register (upload 1)]
    let later : List Step := [.attachTask b 0, .attachTask a 0, .cancel a, .complete 0]
    let own : TransferInfo := (upload 2).transfer b
    OwnHandles (steps ++ .spawn (upload 2) :: later) ∧
      ((run {} steps).spawn (upload 2)).1 = some (own, 1) ∧
      (∀ seen, seen <+: later →
        (run {} (steps ++ .spawn (upload 2) :: seen)).isTracked b = true) ∧
      (run {} (steps ++ .spawn (upload 2) :: later)).taskState? 1 = some .running ∧
      (run {} (steps ++ .spawn (upload 2) :: later)).taskState? 0 = some .cancelled ∧
      ∀ more, (run (run {} (steps ++ .spawn (upload 2) :: later)) more).taskState? 0 =
        some .cancelled := by
  intro a b upload steps later own
  have handles : OwnHandles (steps ++ .spawn (upload 2) :: later) := by decide
  have spawned : ((run {} steps).spawn (upload 2)).1 = some (own, 1) := by decide
  have still : ∀ seen, seen <+: later →
      (run {} (steps ++ .spawn (upload 2) :: seen)).isTracked b = true := by
    intro seen before
    have every : ∀ seen ∈ later.inits,
        (run {} (steps ++ .spawn (upload 2) :: seen)).isTracked b = true := by decide
    exact every seen ((List.mem_inits _ _).2 before)
  have stopped : (run {} (steps ++ .spawn (upload 2) :: later)).taskState? 0 = some .cancelled := by
    decide
  refine ⟨handles, spawned, still, ?_, stopped, ?_⟩
  · exact (run_liveOn steps).2 later (upload 2) own 1 handles spawned still
  · exact (run_liveOn (steps ++ .spawn (upload 2) :: later)).1.settled 0 .cancelled stopped nofun

end ConsoleAccess.Transfers
