import ConsoleAccess.Proofs.Transfer.SplitSpawns

/-!
# What can come between a spawn and its work

The entry of a spawned transfer and the task that carries it live apart: the entry is there before
the task is started, it may go while the task runs on, and its id may then be drawn again. So

* a completing task takes out its own entry or none exactly if the id, where it is tracked, was not
  drawn again (`Spawning.completion_takes_own_iff`);
* a cancelled spawn stays cancelled exactly if no cancel comes before the work is started, and each
  later one finds the task in the entry or no longer running (`Spawning.staysCancelled_iff`).
-/

namespace ConsoleAccess.Transfers

/-- A spawn in its two moves, with the moves of others before, between and after them. -/
structure Spawning where
  before : List Move
  registration : Registration
  info : TransferInfo
  fresh : (play {} before).fresh? registration = some info
  between : List Move
  later : List Move

namespace Spawning

def registered (s : Spawning) : Transfers := ((play {} s.before).register s.registration).2

def task (s : Spawning) : TaskId := ((s.registered.play s.between).startWork s.info).1

def started (s : Spawning) : Transfers := ((s.registered.play s.between).startWork s.info).2

def since (s : Spawning) : List Move := s.between ++ .startWork s.info :: s.later

def now (s : Spawning) : Transfers := s.registered.play s.since

variable (s : Spawning)

theorem named_registered : Named s.registered := by
  rw [registered, register_of_fresh? s.fresh]
  exact (named_empty.play s.before).put _

theorem play_since (moves : List Move) :
    s.registered.play (s.between ++ .startWork s.info :: moves) = s.started.play moves := by
  rw [play_append]
  rfl

theorem now_eq : s.now = s.started.play s.later := s.play_since s.later

theorem task_lt : s.task < s.started.tasks.length := by
  rw [started, tasks_startWork, List.length_append]
  exact Nat.lt_succ_self _

theorem running_started : s.started.taskState? s.task = some .running := running_startWork _ _

theorem carries_play (moves : List Move) :
    (s.started.play moves).carries? s.task = some s.info := by
  have carries : s.started.carries? s.task = some s.info := carries_startWork _ _
  obtain ⟨found, there, carried⟩ := Option.bind_eq_some_iff.1 carries
  obtain ⟨found', there', same, -⟩ := task_play there moves
  rw [carries?, there', Option.bind_some, same, carried]

end Spawning

/-! ## Late completions -/

variable {t : Transfers} {id : TransferId} {task : TaskId} {info : TransferInfo}

theorem entry?_complete (running : t.taskState? task = some .running)
    (carries : t.carries? task = some info) (id : TransferId) :
    entry? (t.complete task).2 id = if info.id = id then none else t.entry? id := by
  rw [complete_of_running running, carries, Option.elim_some, entry?_remove, entry?_settle]

theorem Spawning.completion_takes_own_iff (s : Spawning) :
    (∀ id, id ≠ s.info.id → entry? (s.now.complete s.task).2 id = s.now.entry? id) ∧
    ((∀ id entry, s.now.entry? id = some entry →
        entry? (s.now.complete s.task).2 id ≠ some entry →
          id = s.info.id ∧ s.registered.keeps s.info.id s.since = true) ↔
      (s.now.taskState? s.task = some .running → s.now.isTracked s.info.id = true →
        s.registered.draws s.info.id s.since = false)) := by
  have carries : s.now.carries? s.task = some s.info := s.now_eq ▸ s.carries_play s.later
  by_cases running : s.now.taskState? s.task = some .running
  · have after := entry?_complete running carries
    constructor
    · intro id other
      rw [after, if_neg (Ne.symm other)]
    · constructor
      · intro own _ tracked
        obtain ⟨entry, there⟩ := isTracked_iff.1 tracked
        obtain ⟨-, kept⟩ := own s.info.id entry there (by rw [after, if_pos rfl]; nofun)
        rw [keeps_eq s.named_registered tracked] at kept
        simpa using kept
      · intro undrawn id entry there gone
        obtain rfl : s.info.id = id := by
          by_contra other
          rw [after, if_neg other] at gone
          exact gone there
        have tracked : s.now.isTracked s.info.id = true := isTracked_iff.2 ⟨entry, there⟩
        rw [keeps_eq s.named_registered tracked, undrawn running tracked]
        exact ⟨rfl, rfl⟩
  · rw [complete_of_not_running running]
    constructor
    · intro id _
      rfl
    · constructor
      · intro _ now
        exact absurd now running
      · intro _ id entry there gone
        exact absurd there gone

theorem completion_takes_own :
    let a : TransferId := ⟨"a".toList⟩
    let b : TransferId := ⟨"b".toList⟩
    let upload (n : Nat) : Registration :=
      { candidates := [a, b], kind := .upload, bucket := "bucket".toList, object := "key".toList
        startedAt := n }
    let info : TransferInfo := (upload 1).transfer a
    let s : Spawning :=
      { before := [], registration := upload 1, info, fresh := by decide
        between := [.whole (.spawn (upload 2))], later := [.whole (.attachPayload b (some [1]))] }
    let other : TransferEntry :=
      { info := (upload 2).transfer b, task := some 0, payload := some [1] }
    s.task = 1 ∧ s.now.isTracked a = true ∧ entry? (s.now.complete s.task).2 a = none ∧
      entry? (s.now.complete s.task).2 b = some other ∧
      ∀ id entry, s.now.entry? id = some entry → entry? (s.now.complete s.task).2 id ≠ some entry →
        id = a ∧ s.registered.keeps a s.since = true := by
  intro a b upload info s other
  have undrawn : s.registered.draws a s.since = false := by decide
  have there : s.now.entry? b = some other := by decide
  have stays := s.completion_takes_own_iff.1 b (by decide)
  refine ⟨by decide, by decide, by decide, stays.trans there, ?_⟩
  exact s.completion_takes_own_iff.2.2 fun _ _ => undrawn

/-- The id of a spawn is drawn again while its work goes on, and the work then takes the other
transfer out. -/
theorem completion_takes_anothers :
    let a : TransferId := ⟨"a".toList⟩
    let upload (n : Nat) : Registration :=
      { candidates := [a], kind := .upload, bucket := "bucket".toList, object := "key".toList
        startedAt := n }
    let info : TransferInfo := (upload 1).transfer a
    let s : Spawning :=
      { before := [], registration := upload 1, info, fresh := by decide, between := []
        later := [.whole (.remove a), .whole (.register (upload 2)), .whole .start,
          .whole (.attachTask a 1), .whole (.attachPayload a (some [1]))] }
    s.now.taskState? s.task = some .running ∧
      s.now.entry? a = some { info := (upload 2).transfer a, task := some 1, payload := some [1] } ∧
      entry? (s.now.complete s.task).2 a = none := by decide

/-! ## Early cancels -/

/-- Once a cancel of the id has answered true, the task does not run at any later moment. -/
def StaysCancelled (t : Transfers) (id : TransferId) (task : TaskId) (moves : List Move) : Prop :=
  ∀ earlier later, earlier ++ .whole (.cancel id) :: later <+: moves →
    ((t.play earlier).cancel id).1 = true →
      (t.play (earlier ++ .whole (.cancel id) :: later)).taskState? task ≠ some .running

theorem stopped_play (there : task < t.tasks.length)
    (stopped : t.taskState? task ≠ some .running) (moves : List Move) :
    (t.play moves).taskState? task ≠ some .running := by
  have found := List.getElem?_eq_getElem there
  obtain ⟨found', there', -, settled⟩ := task_play found moves
  rw [taskState?, found, Option.map_some, ne_eq, Option.some.injEq] at stopped
  rw [taskState?, there', settled stopped, Option.map_some, ne_eq, Option.some.injEq]
  exact stopped

theorem stopped_cancel_iff (answer : (t.cancel id).1 = true) :
    (t.cancel id).2.taskState? task ≠ some .running ↔
      t.Remembers id task ∨ t.taskState? task ≠ some .running := by
  cases tracked : t.entry? id with
  | none =>
      rw [cancel_of_untracked tracked] at answer
      cases answer
  | some entry =>
      have remembers : t.Remembers id task ↔ entry.task = some task := by simp [Remembers, tracked]
      rw [taskState?_cancel tracked, remembers]
      split
      · next stops => exact iff_of_true (by simp) (Or.inl stops.1)
      · next spared =>
          constructor
          · exact Or.inr
          · rintro (own | stopped) running
            · exact spared ⟨own, running⟩
            · exact stopped running

theorem staysCancelled_iff_found {moves : List Move} (there : task < t.tasks.length) :
    StaysCancelled t id task moves ↔ ∀ earlier, earlier ++ [.whole (.cancel id)] <+: moves →
      ((t.play earlier).cancel id).1 = true →
        (t.play earlier).Remembers id task ∨ (t.play earlier).taskState? task ≠ some .running := by
  constructor
  · intro stays earlier begins answer
    have stopped := stays earlier [] begins answer
    rw [play_append] at stopped
    exact (stopped_cancel_iff answer).1 stopped
  · intro found earlier later within answer
    have begins : earlier ++ [.whole (.cancel id)] <+: moves :=
      List.IsPrefix.trans ⟨later, List.append_assoc ..⟩ within
    have stopped := (stopped_cancel_iff answer).2 (found earlier begins answer)
    have there' := there.trans_le (length_tasks_play t (earlier ++ [.whole (.cancel id)]))
    rw [play_append] at there' ⊢
    exact stopped_play there' stopped later

theorem prefix_cases {α : Type} {xs ys zs rest : List α} {a b : α} (differ : a ≠ b)
    (begins : xs ++ a :: ys <+: zs ++ b :: rest) :
    (∃ more, zs = xs ++ a :: more) ∨ ∃ seen, xs = zs ++ b :: seen ∧ seen ++ a :: ys <+: rest := by
  obtain ⟨tail, split⟩ := begins
  rw [List.append_assoc, List.cons_append] at split
  rcases List.append_eq_append_iff.1 split with ⟨more, rfl, here⟩ | ⟨seen, rfl, here⟩
  · cases more with
    | nil => exact absurd (List.cons.inj here).1 differ
    | cons first more => exact Or.inl ⟨more, by rw [(List.cons.inj here).1]⟩
  · cases seen with
    | nil => exact absurd (List.cons.inj here).1.symm differ
    | cons first seen =>
        obtain ⟨rfl, rfl⟩ := List.cons.inj here
        exact Or.inr ⟨seen, rfl, tail, by simp⟩

namespace Spawning

theorem remembers_started {s : Spawning} (kept : s.registered.keeps s.info.id s.between = true) :
    s.started.Remembers s.info.id s.task := by
  have named := s.named_registered.play s.between
  obtain ⟨entry, there⟩ := isTracked_iff.1 (tracked_play_of_keeps kept)
  refine ⟨{ entry with task := some s.task }, ?_, rfl⟩
  rw [started, startWork_of_tracked there, entry?_put]
  exact if_pos (named _ _ there)

theorem staysCancelled_since_iff (s : Spawning) :
    StaysCancelled s.registered s.info.id s.task s.since ↔
      (∀ earlier, earlier ++ [.whole (.cancel s.info.id)] <+: s.between →
        ((s.registered.play earlier).cancel s.info.id).1 = false) ∧
      StaysCancelled s.started s.info.id s.task s.later := by
  constructor
  · intro stays
    constructor
    · intro earlier begins
      by_contra answer
      obtain ⟨more, split⟩ := begins
      -- The work starts all the same, so right after its start the task is running.
      have run : earlier ++ .whole (.cancel s.info.id) :: (more ++ [.startWork s.info]) =
          s.between ++ [.startWork s.info] := by
        rw [← split]
        simp
      have begins : s.between ++ [.startWork s.info] <+: s.since := ⟨s.later, by simp [since]⟩
      apply stays earlier (more ++ [.startWork s.info]) (run ▸ begins) (by simpa using answer)
      rw [run, s.play_since []]
      exact s.running_started
    · intro earlier later within answer
      obtain ⟨more, split⟩ := within
      have within : (s.between ++ .startWork s.info :: earlier) ++ .whole (.cancel s.info.id) :: later
          <+: s.since := ⟨more, by rw [since, ← split]; simp⟩
      have stopped := stays _ later within (by rwa [s.play_since])
      rwa [List.append_assoc, List.cons_append, s.play_since] at stopped
  · rintro ⟨refused, stays⟩ earlier later within answer
    rcases prefix_cases (by nofun) within with ⟨more, split⟩ | ⟨seen, rfl, after⟩
    · have no := refused earlier ⟨more, by rw [split]; simp⟩
      rw [answer] at no
      cases no
    · rw [s.play_since] at answer
      rw [List.append_assoc, List.cons_append, s.play_since]
      exact stays seen later after answer

theorem staysCancelled_iff (s : Spawning) :
    (StaysCancelled s.registered s.info.id s.task s.since ↔
      (∀ earlier, earlier ++ [.whole (.cancel s.info.id)] <+: s.between →
        ((s.registered.play earlier).cancel s.info.id).1 = false) ∧
      ∀ earlier, earlier ++ [.whole (.cancel s.info.id)] <+: s.later →
        ((s.started.play earlier).cancel s.info.id).1 = true →
          (s.started.play earlier).Remembers s.info.id s.task ∨
            (s.started.play earlier).taskState? s.task ≠ some .running) ∧
    ∀ moves, s.registered.keeps s.info.id (s.between ++ .startWork s.info :: moves) = true →
      (∀ m ∈ moves, ¬ m.AttachesTo s.info.id) →
        (s.started.play moves).Remembers s.info.id s.task := by
  constructor
  · rw [staysCancelled_since_iff, staysCancelled_iff_found s.task_lt]
  · intro moves kept apart
    have named : Named s.started := (s.named_registered.play s.between).startWork s.info
    rw [keeps_append_cons, Bool.and_eq_true] at kept
    exact remembers_play named (remembers_started kept.1) kept.2 apart

end Spawning

theorem staysCancelled_between_others :
    let a : TransferId := ⟨"a".toList⟩
    let b : TransferId := ⟨"b".toList⟩
    let upload (n : Nat) : Registration :=
      { candidates := [a, b], kind := .upload, bucket := "bucket".toList, object := "key".toList
        startedAt := n }
    let s : Spawning :=
      { before := [], registration := upload 1, info := (upload 1).transfer a, fresh := by decide
        between := [.whole (.spawn (upload 2)), .whole (.cancel b)]
        later := [.whole (.cancel a), .whole (.register (upload 3))] }
    s.started.taskState? s.task = some .running ∧ (s.started.cancel a).1 = true ∧
      s.now.isTracked a = true ∧ StaysCancelled s.registered a s.task s.since := by
  intro a b upload s
  refine ⟨by decide, by decide, by decide, s.staysCancelled_iff.1.2 ⟨?_, ?_⟩⟩
  · intro earlier begins
    have inside : .whole (.cancel a) ∈ s.between :=
      begins.subset (List.mem_append_right _ List.mem_cons_self)
    exact absurd inside (by decide)
  · intro earlier begins _
    cases earlier with
    | nil => exact Or.inl (s.staysCancelled_iff.2 [] (by decide) nofun)
    | cons first earlier =>
        have inside : .whole (.cancel a) ∈ [Move.whole (.register (upload 3))] :=
          (List.cons_prefix_cons.1 begins).2.subset (List.mem_append_right _ List.mem_cons_self)
        exact absurd inside (by decide)

/-- The transfer is cancelled before its task is there to be stopped. -/
theorem cancelled_runs :
    let a : TransferId := ⟨"a".toList⟩
    let upload : Registration :=
      { candidates := [a], kind := .upload, bucket := "bucket".toList, object := "key".toList
        startedAt := 1 }
    let s : Spawning :=
      { before := [], registration := upload, info := upload.transfer a, fresh := by decide
        between := [.whole (.cancel a)], later := [] }
    (s.registered.cancel a).1 = true ∧ s.now.taskState? s.task = some .running ∧
      ¬ StaysCancelled s.registered a s.task s.since := by
  intro a upload s
  have running : s.now.taskState? s.task = some .running := by decide
  have answer : (s.registered.cancel a).1 = true := by decide
  exact ⟨answer, running, fun stays =>
    stays [] [.startWork (upload.transfer a)] List.prefix_rfl answer running⟩

end ConsoleAccess.Transfers
