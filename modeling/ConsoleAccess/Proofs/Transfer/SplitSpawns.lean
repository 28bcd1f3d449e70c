import ConsoleAccess.Proofs.Transfer.TaskLives

/-!
# Spawns in two moves

A spawn takes the registry's lock twice: it registers its transfer, and then it starts the work. The
moves of other callers fall in between. Whatever they are, a task goes on to carry its transfer and
ends for good (`task_play`). An id that is tracked at the end of some moves was tracked all along
unless one of them drew it anew (`keeps_eq`), and as long as it is tracked and nothing else is
attached, its entry remembers the task (`remembers_play`).
-/

namespace ConsoleAccess.Transfers

/-- What a caller does in one go under the lock: an operation, or the second half of a spawn. The
first half is a registration like any other. -/
inductive Move
  | whole (step : Step)
  | startWork (info : TransferInfo)
deriving DecidableEq

def move (t : Transfers) : Move → Transfers
  | .whole step => (t.perform step).2
  | .startWork info => (t.startWork info).2

def play (t : Transfers) (moves : List Move) : Transfers := moves.foldl move t

def Move.draws? (t : Transfers) : Move → Option TransferId
  | .whole (.register r) | .whole (.spawn r) => (t.fresh? r).map (·.id)
  | _ => none

def draws (t : Transfers) (id : TransferId) : List Move → Bool
  | [] => false
  | m :: moves => m.draws? t == some id || draws (t.move m) id moves

def keeps (t : Transfers) (id : TransferId) : List Move → Bool
  | [] => t.isTracked id
  | m :: moves => t.isTracked id && keeps (t.move m) id moves

variable {t : Transfers} {id : TransferId} {task : TaskId} {info : TransferInfo}

theorem play_append (t : Transfers) (first second : List Move) :
    t.play (first ++ second) = (t.play first).play second :=
  List.foldl_append

/-- A spawn that nobody comes between. -/
theorem play_spawn {r : Registration} (fresh : t.fresh? r = some info) :
    t.play [.whole (.register r), .startWork info] = t.move (.whole (.spawn r)) := by
  simp only [play, List.foldl_cons, List.foldl_nil, move, perform, spawn, register, fresh]

/-! ## Starting the work -/

@[simp] theorem tasks_startWork (t : Transfers) (info : TransferInfo) :
    (t.startWork info).2.tasks = t.tasks ++ [{ carries := some info : Task }] := by
  simp only [startWork, attachTask]
  cases entry? (t.start (some info)).2 info.id <;> rfl

theorem startWork_of_tracked {entry : TransferEntry} (tracked : t.entry? info.id = some entry) :
    (t.startWork info).2 =
      (t.start (some info)).2.put { entry with task := some t.tasks.length } := by
  have tracked' : entry? (t.start (some info)).2 info.id = some entry := tracked
  simp only [startWork, attachTask_of_tracked tracked']
  rfl

theorem startWork_of_untracked (untracked : t.entry? info.id = none) :
    (t.startWork info).2 = (t.start (some info)).2 := by
  have untracked' : entry? (t.start (some info)).2 info.id = none := untracked
  simp only [startWork, attachTask_of_untracked untracked']

theorem running_startWork (t : Transfers) (info : TransferInfo) :
    (t.startWork info).2.taskState? t.tasks.length = some .running := by
  simp [taskState?]

theorem carries_startWork (t : Transfers) (info : TransferInfo) :
    (t.startWork info).2.carries? t.tasks.length = some info := by
  simp [carries?]

/-! ## Tasks -/

theorem tasks_move (t : Transfers) (m : Move) : TasksGoOn t (t.move m) := by
  cases m with
  | whole step => exact t.tasks_perform step
  | startWork info => exact Or.inr (Or.inl ⟨some info, t.tasks_startWork info⟩)

theorem task_play {found : Task} (there : t.tasks[task]? = some found) (moves : List Move) :
    ∃ found', (t.play moves).tasks[task]? = some found' ∧ found'.carries = found.carries ∧
      (found.state ≠ .running → found' = found) := by
  induction moves generalizing t found with
  | nil => exact ⟨found, there, rfl, fun _ => rfl⟩
  | cons m moves ih =>
      obtain ⟨next, there', carries, settled⟩ := (t.tasks_move m).keeps there
      obtain ⟨last, there'', carries', settled'⟩ := ih there'
      refine ⟨last, there'', carries'.trans carries, fun ended => ?_⟩
      have same := settled ended
      rw [settled' (same ▸ ended), same]

theorem length_tasks_play (t : Transfers) (moves : List Move) :
    t.tasks.length ≤ (t.play moves).tasks.length := by
  induction moves generalizing t with
  | nil => exact Nat.le_refl _
  | cons m moves ih => exact (t.tasks_move m).length.trans (ih (t.move m))

/-! ## Entries -/

theorem Named.put (named : Named t) (entry : TransferEntry) : Named (t.put entry) := by
  intro id entry' tracked
  rw [entry?_put] at tracked
  split at tracked
  · next own =>
      cases tracked
      exact own
  · exact named id entry' tracked

theorem Named.remove (named : Named t) (id : TransferId) : Named (t.remove id).2 := by
  intro id' entry tracked
  rw [entry?_remove] at tracked
  split at tracked
  · cases tracked
  · exact named id' entry tracked

theorem Named.startWork (named : Named t) (info : TransferInfo) : Named (t.startWork info).2 := by
  have started : Named (t.start (some info)).2 := named
  cases tracked : t.entry? info.id with
  | none => exact startWork_of_untracked tracked ▸ started
  | some entry => exact startWork_of_tracked tracked ▸ started.put _

theorem Named.move (named : Named t) (m : Move) : Named (t.move m) := by
  cases m with
  | startWork info => exact named.startWork info
  | whole step =>
      have performed := t.perform_cases step
      rw [Transfers.move]
      generalize t.perform step = after at performed
      cases performed with
      | refused | started | ended => exact named
      | registered | attached | kept => exact named.put _
      | @spawned r info fresh =>
          have started : Named ((t.put { info }).start (some info)).2 := named.put _
          exact started.put _
      | delivered | removed | cancelled | stopped =>
          have removed := named.remove
          exact removed _

theorem Named.play (named : Named t) (moves : List Move) : Named (t.play moves) := by
  induction moves generalizing t with
  | nil => exact named
  | cons m moves ih => exact ih (named.move m)

theorem named_empty : Named {} := by
  intro id entry tracked
  have untracked : entry? {} id = none := Std.ExtTreeMap.getElem?_empty
  rw [untracked] at tracked
  cases tracked

theorem isTracked_of_put {entry entry' : TransferEntry} {id' : TransferId}
    (tracked : (t.put entry').isTracked id' = true) (named : Named t)
    (there : t.entry? id = some entry) (same : entry'.info = entry.info) :
    t.isTracked id' = true := by
  rw [isTracked, entry?_put] at tracked
  split at tracked
  · next own =>
      rw [same, named id entry there] at own
      exact own ▸ isTracked_iff.2 ⟨entry, there⟩
  · exact tracked

theorem isTracked_of_remove {gone : TransferId} (tracked : (t.remove gone).2.isTracked id = true) :
    t.isTracked id = true := by
  rw [isTracked, entry?_remove] at tracked
  split at tracked
  · cases tracked
  · exact tracked

/-- An id comes to be tracked only by being drawn. -/
theorem tracked_or_drawn (named : Named t) {m : Move} (tracked : (t.move m).isTracked id = true) :
    t.isTracked id = true ∨ m.draws? t = some id := by
  cases m with
  | startWork info =>
      left
      rw [move] at tracked
      cases there : t.entry? info.id with
      | none => rwa [startWork_of_untracked there] at tracked
      | some entry =>
          rw [startWork_of_tracked there] at tracked
          exact isTracked_of_put (t := (t.start (some info)).2) tracked named there rfl
  | whole step =>
      have performed := t.perform_cases step
      rw [move] at tracked
      generalize t.perform step = after at performed tracked
      cases performed with
      | refused | started | ended => exact Or.inl tracked
      | attached there | kept there => exact Or.inl (isTracked_of_put tracked named there rfl)
      | delivered | removed | cancelled | stopped => exact Or.inl (isTracked_of_remove tracked)
      | @registered r info fresh =>
          rw [isTracked, entry?_put] at tracked
          split at tracked
          · next own => exact Or.inr (by rw [Move.draws?, fresh, ← own]; rfl)
          · exact Or.inl tracked
      | @spawned r info fresh =>
          rw [isTracked, entry?_put, entry?_start, entry?_put] at tracked
          by_cases own : info.id = id
          · exact Or.inr (by rw [Move.draws?, fresh, ← own]; rfl)
          · rw [if_neg own, if_neg own] at tracked
            exact Or.inl tracked

theorem untracked_of_drawn {m : Move} (drawn : m.draws? t = some id) : t.isTracked id = false := by
  have untracked {r : Registration} (drawn : (t.fresh? r).map (·.id) = some id) :
      t.isTracked id = false := by
    obtain ⟨info, fresh, rfl⟩ := Option.map_eq_some_iff.1 drawn
    rw [isTracked, (untracked_of_fresh? fresh).1]
    rfl
  cases m with
  | startWork => cases drawn
  | whole step =>
      cases step with
      | register | spawn => exact untracked drawn
      | _ => cases drawn

theorem tracked_of_keeps {moves : List Move} (kept : t.keeps id moves = true) :
    t.isTracked id = true := by
  cases moves with
  | nil => exact kept
  | cons => exact (Bool.and_eq_true_iff.1 kept).1

theorem tracked_play_of_keeps {moves : List Move} (kept : t.keeps id moves = true) :
    (t.play moves).isTracked id = true := by
  induction moves generalizing t with
  | nil => exact kept
  | cons m moves ih => exact ih (Bool.and_eq_true_iff.1 kept).2

theorem keeps_append_cons (t : Transfers) (id : TransferId) (first second : List Move) (m : Move) :
    t.keeps id (first ++ m :: second) =
      (t.keeps id first && keeps ((t.play first).move m) id second) := by
  induction first generalizing t with
  | nil => rfl
  | cons m' first ih =>
      rw [List.cons_append, keeps, keeps, ih, Bool.and_assoc]
      rfl

/-- What is tracked in the end was there all along, unless it was drawn on the way. -/
theorem keeps_eq (named : Named t) {moves : List Move}
    (last : (t.play moves).isTracked id = true) : t.keeps id moves = !t.draws id moves := by
  induction moves generalizing t with
  | nil => exact last
  | cons m moves ih =>
      have rest := ih (named.move m) last
      rw [keeps, draws, rest]
      cases here : t.isTracked id with
      | true =>
          have undrawn : m.draws? t ≠ some id := by
            intro drawn
            rw [untracked_of_drawn drawn] at here
            cases here
          simp [undrawn]
      | false =>
          by_cases drawn : m.draws? t = some id
          · simp [drawn]
          · have gone : (t.move m).keeps id moves ≠ true := by
              intro kept
              rcases tracked_or_drawn named (tracked_of_keeps kept) with tracked | now
              · rw [here] at tracked
                cases tracked
              · exact drawn now
            rw [rest] at gone
            simpa [drawn] using gone

/-! ## Handles -/

def Move.AttachesTo (id : TransferId) : Move → Prop
  | .whole (.attachTask id' _) => id' = id
  | .startWork info => info.id = id
  | _ => False

theorem remembers_put {entry : TransferEntry} (remembers : t.Remembers id task)
    (elsewhere : entry.info.id ≠ id) : (t.put entry).Remembers id task := by
  obtain ⟨entry', there, carried⟩ := remembers
  exact ⟨entry', by rw [entry?_put, if_neg elsewhere, there], carried⟩

theorem remembers_remove {gone : TransferId} (remembers : t.Remembers id task)
    (tracked : (t.remove gone).2.isTracked id = true) : (t.remove gone).2.Remembers id task := by
  obtain ⟨entry, there, carried⟩ := remembers
  rw [isTracked, entry?_remove] at tracked
  split at tracked
  · cases tracked
  · next elsewhere => exact ⟨entry, by rw [entry?_remove, if_neg elsewhere, there], carried⟩

theorem remembers_move (named : Named t) (remembers : t.Remembers id task) {m : Move}
    (tracked : (t.move m).isTracked id = true) (apart : ¬ m.AttachesTo id) :
    (t.move m).Remembers id task := by
  have taken : t.entry? id ≠ none := by
    obtain ⟨entry, there, -⟩ := remembers
    simp [there]
  have drawn_elsewhere {r : Registration} {info : TransferInfo} (fresh : t.fresh? r = some info) :
      info.id ≠ id := by
    rintro rfl
    exact taken (untracked_of_fresh? fresh).1
  cases m with
  | startWork info =>
      have elsewhere : info.id ≠ id := apart
      have started : Remembers (t.start (some info)).2 id task := remembers
      rw [move]
      cases there : t.entry? info.id with
      | none => exact startWork_of_untracked there ▸ started
      | some entry =>
          rw [startWork_of_tracked there]
          exact remembers_put started (by rw [named _ _ there]; exact elsewhere)
  | whole step =>
      have performed := t.perform_cases step
      rw [move] at tracked ⊢
      generalize t.perform step = after at performed tracked
      cases performed with
      | refused | started | ended => exact remembers
      | registered fresh => exact remembers_put remembers (drawn_elsewhere fresh)
      | @spawned r info fresh =>
          have elsewhere := drawn_elsewhere fresh
          have started : Remembers ((t.put { info }).start (some info)).2 id task :=
            remembers_put remembers elsewhere
          exact remembers_put started elsewhere
      | attached there =>
          have elsewhere := named _ _ there ▸ apart
          exact remembers_put remembers elsewhere
      | @kept id' bytes entry there =>
          by_cases own : id' = id
          · subst own
            obtain ⟨entry', there', carried⟩ := remembers
            rw [there, Option.some.injEq] at there'
            exact ⟨{ entry with payload := some bytes },
              by rw [entry?_put, if_pos (named _ _ there)], there' ▸ carried⟩
          · exact remembers_put remembers (by rw [named _ _ there]; exact own)
      | delivered | removed | cancelled | stopped => exact remembers_remove remembers tracked

theorem remembers_play (named : Named t) (remembers : t.Remembers id task) {moves : List Move}
    (kept : t.keeps id moves = true) (apart : ∀ m ∈ moves, ¬ m.AttachesTo id) :
    (t.play moves).Remembers id task := by
  induction moves generalizing t with
  | nil => exact remembers
  | cons m moves ih =>
      have kept' := (Bool.and_eq_true_iff.1 kept).2
      have next : (t.move m).Remembers id task :=
        remembers_move named remembers (tracked_of_keeps kept') (apart m List.mem_cons_self)
      exact ih (named.move m) next kept' fun m' member => apart m' (List.mem_cons_of_mem m member)

end ConsoleAccess.Transfers
