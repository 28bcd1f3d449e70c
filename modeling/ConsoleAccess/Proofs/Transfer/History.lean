import ConsoleAccess.Proofs.Transfer.Operations

/-!
# The history of a registry

What a caller can tell from the answers of a run: which transfers entered and left, and what was
attached to them (`history`). From it alone follows which transfers are still there, in the order
in which they entered, each with what was attached to it last since then (`standing`). The registry
holds just these (`Tracks.run`): every step keeps its entries in accord with what it adds to the
history.
-/

namespace ConsoleAccess.Transfers

/-! ## What the answers of a run tell -/

abbrev Trace := List (Step × Outcome)

def trace (t : Transfers) : List Step → Trace
  | [] => []
  | step :: steps => (step, (t.perform step).1) :: trace (t.perform step).2 steps

inductive Event
  | entered (info : TransferInfo)
  | attached (id : TransferId) (task : TaskId)
  | kept (id : TransferId) (bytes : List UInt8)
  | left (id : TransferId)
deriving DecidableEq

def spawnedFor? (past : Trace) (task : TaskId) : Option TransferId :=
  past.findSome? fun
    | (.spawn _, .spawned (some (info, started))) =>
      if started = task then some info.id else none
    | _ => none

/-- What one step did to the transfers. A task that ends takes out the id it was spawned for. -/
def events (past : Trace) : Step × Outcome → List Event
  | (.register r, .registered (some info)) => [.entered (r.transfer info.id)]
  | (.spawn r, .spawned (some (info, task))) =>
    [.entered (r.transfer info.id), .attached info.id task]
  | (.attachTask id task, .attached (.ok ())) => [.attached id task]
  | (.attachPayload id (some bytes), .kept (.ok .attached)) => [.kept id bytes]
  | (.complete task, .flag true) => ((spawnedFor? past task).map Event.left).toList
  | (.cancel id, .flag true) => [.left id]
  | (.remove id, .flag true) => [.left id]
  | _ => []

def history (past : Trace) : Trace → List Event
  | [] => []
  | answered :: later => events past answered ++ history (past ++ [answered]) later

def Event.task? (id : TransferId) : Event → Option TaskId
  | .attached id' task => if id' = id then some task else none
  | _ => none

def Event.bytes? (id : TransferId) : Event → Option (List UInt8)
  | .kept id' bytes => if id' = id then some bytes else none
  | _ => none

def last? {β : Type} (says? : Event → Option β) (events : List Event) : Option β :=
  (events.filterMap says?).getLast?

/-- The transfers that entered and have not left since, with what was attached last since then. -/
def standing : List Event → List TransferEntry
  | [] => []
  | .entered info :: later =>
    if .left info.id ∈ later then standing later
    else
      { info, task := last? (Event.task? info.id) later, payload := last? (Event.bytes? info.id) later } ::
        standing later
  | _ :: later => standing later

theorem history_append (past first second : Trace) :
    history past (first ++ second) = history past first ++ history (past ++ first) second := by
  induction first generalizing past with
  | nil => simp [history]
  | cons answered first ih => simp [history, ih]

theorem history_snoc (past : Trace) (answered : Step × Outcome) :
    history [] (past ++ [answered]) = history [] past ++ events past answered := by
  simp [history_append, history]

/-! ## One more event -/

namespace Event

def update (event : Event) (entry : TransferEntry) : Option TransferEntry :=
  match event with
  | .entered _ => some entry
  | .attached id task => some (if id = entry.info.id then { entry with task := some task } else entry)
  | .kept id bytes =>
    some (if id = entry.info.id then { entry with payload := some bytes } else entry)
  | .left id => if id = entry.info.id then none else some entry

def newcomer? : Event → Option TransferEntry
  | .entered info => some { info }
  | _ => none

theorem info_update {event : Event} {before after : TransferEntry}
    (updated : event.update before = some after) : after.info = before.info := by
  cases event <;> simp only [update] at updated
  case entered => cases updated; rfl
  case left => split at updated <;> cases updated; rfl
  all_goals
    cases updated
    split <;> rfl

theorem ids_filterMap_update (event : Event) (entries : List TransferEntry) :
    List.Sublist ((entries.filterMap event.update).map fun entry => entry.info.id)
      (entries.map fun entry => entry.info.id) := by
  induction entries with
  | nil => simp
  | cons entry entries ih =>
      rw [List.filterMap_cons]
      split
      · exact ih.cons _
      · next updated =>
          rw [List.map_cons, List.map_cons, info_update updated]
          exact ih.cons_cons _

end Event

theorem last?_snoc {β : Type} (says? : Event → Option β) (past : List Event) (event : Event) :
    last? says? (past ++ [event]) = (says? event).or (last? says? past) := by
  unfold last?
  rw [List.filterMap_append, List.getLast?_append]
  cases said : says? event <;> simp [said]

theorem standing_snoc (past : List Event) (event : Event) :
    standing (past ++ [event]) = (standing past).filterMap event.update ++ event.newcomer?.toList := by
  -- On the past from its front, since what becomes of a transfer is read off all that came later.
  induction past with
  | nil => cases event <;> simp [standing, Event.newcomer?, last?]
  | cons first past ih =>
      cases first with
      | entered info =>
          simp only [List.cons_append, standing, ih, last?_snoc, List.mem_append,
            List.mem_singleton]
          by_cases gone : Event.left info.id ∈ past
          · simp [gone]
          · cases event with
            | entered _ => simp [gone, Event.update, Event.task?, Event.bytes?]
            | attached id task =>
                by_cases own : id = info.id <;>
                  simp [gone, own, Event.update, Event.task?, Event.bytes?]
            | kept id bytes =>
                by_cases own : id = info.id <;>
                  simp [gone, own, Event.update, Event.task?, Event.bytes?]
            | left id =>
                by_cases own : info.id = id
                · subst own
                  simp [gone, Event.update]
                · simp [gone, own, Event.update, Event.task?, Event.bytes?, Ne.symm own]
      | attached | kept | left => exact ih

/-! ## The registry holds what is standing -/

structure Follows (t : Transfers) (events : List Event) : Prop where
  holds_iff : ∀ id entry,
    t.entry? id = some entry ↔ entry ∈ standing events ∧ entry.info.id = id
  distinct : ((standing events).map fun entry => entry.info.id).Nodup

namespace Follows
variable {t t' : Transfers} {past : List Event}

theorem congr (follows : Follows t past) (same : ∀ id, t'.entry? id = t.entry? id) :
    Follows t' past where
  holds_iff id entry := by rw [same, follows.holds_iff]
  distinct := follows.distinct

theorem snoc (follows : Follows t past) (event : Event)
    (fresh : ∀ entry, event.newcomer? = some entry → t.entry? entry.info.id = none)
    (after : ∀ id, t'.entry? id =
      (event.newcomer?.filter fun entry => entry.info.id = id).or ((t.entry? id).bind event.update)) :
    Follows t' (past ++ [event]) where
  holds_iff id entry := by
    have old : (t.entry? id).bind event.update = some entry ↔
        (∃ before ∈ standing past, event.update before = some entry) ∧ entry.info.id = id := by
      simp only [Option.bind_eq_some_iff, follows.holds_iff]
      constructor
      · rintro ⟨before, ⟨member, rfl⟩, updated⟩
        exact ⟨⟨before, member, updated⟩, by rw [Event.info_update updated]⟩
      · rintro ⟨⟨before, member, updated⟩, rfl⟩
        exact ⟨before, ⟨member, by rw [Event.info_update updated]⟩, updated⟩
    rw [after, standing_snoc, List.mem_append, List.mem_filterMap, Option.mem_toList]
    cases added : event.newcomer? with
    | none => simpa using old
    | some new =>
        by_cases own : new.info.id = id
        · -- Nothing stood under the id before, so the new entry meets no old one.
          have untracked : t.entry? id = none := own ▸ fresh new added
          rw [untracked, Option.bind_none] at old
          simp only [Option.filter_some, own, decide_true, if_true, Option.some_or]
          constructor
          · intro same
            cases same
            exact ⟨Or.inr rfl, own⟩
          · rintro ⟨standing | same, named⟩
            · cases old.2 ⟨standing, named⟩
            · exact same
        · simp only [Option.filter_some, own, decide_false, Bool.false_eq_true, if_false,
            Option.none_or, old]
          constructor
          · exact fun ⟨standing, named⟩ => ⟨Or.inl standing, named⟩
          · rintro ⟨standing | same, named⟩
            · exact ⟨standing, named⟩
            · cases same
              exact absurd named own
  distinct := by
    rw [standing_snoc, List.map_append, List.nodup_append]
    refine ⟨follows.distinct.sublist (event.ids_filterMap_update _), ?_, ?_⟩
    · cases event.newcomer? <;> simp
    · intro id old id' new same
      subst same
      obtain ⟨entry, added, rfl⟩ := List.mem_map.1 new
      have untracked := fresh entry (Option.mem_toList.1 added)
      obtain ⟨before, member, named⟩ :=
        List.mem_map.1 ((event.ids_filterMap_update _).subset old)
      rw [(follows.holds_iff _ _).2 ⟨member, named⟩] at untracked
      cases untracked

theorem named (follows : Follows t past) {id : TransferId} {entry : TransferEntry}
    (tracked : t.entry? id = some entry) : entry.info.id = id :=
  ((follows.holds_iff id entry).1 tracked).2

theorem entered (follows : Follows t past) {info : TransferInfo}
    (untracked : t.entry? info.id = none) :
    Follows (t.put { info }) (past ++ [.entered info]) := by
  apply follows.snoc (.entered info)
  · intro entry same
    cases same
    exact untracked
  · intro id
    by_cases own : info.id = id
    · simp [Event.newcomer?, Option.filter_some, own]
    · cases tracked : t.entry? id <;>
        simp [Event.newcomer?, Event.update, Option.filter_some, own, tracked]

/-- An event on one transfer changes its entry and no other. -/
theorem changed (follows : Follows t past) {id : TransferId} {entry entry' : TransferEntry}
    (tracked : t.entry? id = some entry) (event : Event) (adds : event.newcomer? = none)
    (own : event.update entry = some entry') (others : ∀ other : TransferEntry, other.info.id ≠ id →
      event.update other = some other) : Follows (t.put entry') (past ++ [event]) := by
  have named : entry'.info.id = id := by rw [Event.info_update own, follows.named tracked]
  apply follows.snoc event
  · intro entry same
    rw [adds] at same
    cases same
  · intro id'
    rw [adds, entry?_put, named]
    by_cases here : id = id'
    · subst here
      simp [tracked, own]
    · cases tracked' : t.entry? id' with
      | none => simp [here]
      | some other =>
          have elsewhere : other.info.id ≠ id := by
            rw [follows.named tracked']
            exact Ne.symm here
          simp [here, others other elsewhere]

theorem attached (follows : Follows t past) {id : TransferId} {entry : TransferEntry}
    (tracked : t.entry? id = some entry) (task : TaskId) :
    Follows (t.put { entry with task := some task }) (past ++ [.attached id task]) := by
  apply follows.changed tracked (.attached id task) rfl
  · simp [Event.update, follows.named tracked]
  · intro other elsewhere
    simp [Event.update, Ne.symm elsewhere]

theorem kept (follows : Follows t past) {id : TransferId} {entry : TransferEntry}
    (tracked : t.entry? id = some entry) (bytes : List UInt8) :
    Follows (t.put { entry with payload := some bytes }) (past ++ [.kept id bytes]) := by
  apply follows.changed tracked (.kept id bytes) rfl
  · simp [Event.update, follows.named tracked]
  · intro other elsewhere
    simp [Event.update, Ne.symm elsewhere]

theorem left (follows : Follows t past) (id : TransferId)
    (gone : ∀ id', t'.entry? id' = if id = id' then none else t.entry? id') :
    Follows t' (past ++ [.left id]) := by
  apply follows.snoc (.left id)
  · nofun
  · intro id'
    rw [gone]
    cases tracked : t.entry? id' with
    | none => simp [Event.newcomer?]
    | some entry => simp [Event.newcomer?, Event.update, follows.named tracked]

end Follows

/-! ## Runs -/

theorem events_of_failed (past : Trace) {step : Step} {outcome : Outcome} (failed : outcome.Failed) :
    events past (step, outcome) = [] := by
  unfold events
  split
  case h_8 => rfl
  all_goals
    next same =>
      cases same
      exact failed.elim

theorem spawnedFor?_append (past later : Trace) (task : TaskId) :
    spawnedFor? (past ++ later) task = (spawnedFor? past task).or (spawnedFor? later task) :=
  List.findSome?_append

theorem spawnedFor?_of_failed {step : Step} {outcome : Outcome} (failed : outcome.Failed)
    (task : TaskId) : spawnedFor? [(step, outcome)] task = none := by
  rw [spawnedFor?, List.findSome?_singleton]
  split
  · next same =>
      cases same
      exact failed.elim
  · rfl

structure Tracks (t : Transfers) (past : Trace) : Prop where
  follows : Follows t (history [] past)
  spawnedFor : ∀ task, (t.carries? task).map (·.id) = spawnedFor? past task

namespace Tracks
variable {t : Transfers} {past : Trace}

theorem follows_perform (tracks : Tracks t past) (step : Step) :
    Follows (t.perform step).2 (history [] (past ++ [(step, (t.perform step).1)])) := by
  have follows := tracks.follows
  have performed := t.perform_cases step
  rw [history_snoc]
  generalize t.perform step = after at performed
  cases performed with
  | refused failed => simpa [events_of_failed past failed] using follows
  | @registered r info fresh =>
      obtain ⟨untracked, made⟩ := untracked_of_fresh? fresh
      simpa [events, ← made] using follows.entered untracked
  | @spawned r info fresh =>
      obtain ⟨untracked, made⟩ := untracked_of_fresh? fresh
      have started : Follows ((t.put { info }).start (some info)).2 _ :=
        (follows.entered untracked).congr fun _ => rfl
      have tracked : entry? ((t.put { info }).start (some info)).2 info.id = some { info } := by
        simp
      simpa [events, ← made] using started.attached tracked t.tasks.length
  | started =>
      have started : Follows (t.start none).2 _ := follows.congr fun _ => rfl
      simpa [events] using started
  | attached tracked => exact follows.attached tracked _
  | kept tracked => exact follows.kept tracked _
  | @ended task running free =>
      have settled : Follows (t.settle task .finished) _ := follows.congr fun _ => rfl
      simpa [events, ← tracks.spawnedFor, free] using settled
  | @delivered task info running carries =>
      have settled : Follows (t.settle task .finished) _ := follows.congr fun _ => rfl
      simpa [events, ← tracks.spawnedFor, carries] using settled.left info.id (by simp)
  | removed tracked => exact follows.left _ (by simp)
  | cancelled tracked alone => exact follows.left _ (by simp)
  | stopped tracked carried => exact follows.left _ (by simp)

theorem spawnedFor_perform (tracks : Tracks t past) (step : Step) (k : TaskId) :
    ((t.perform step).2.carries? k).map (·.id) =
      spawnedFor? (past ++ [(step, (t.perform step).1)]) k := by
  have performed := t.perform_cases step
  rw [spawnedFor?_append, ← tracks.spawnedFor]
  generalize t.perform step = after at performed
  cases performed with
  | refused failed => simp [spawnedFor?_of_failed failed]
  | @spawned r info fresh =>
      rw [carries?_put, carries?_start]
      by_cases here : k = t.tasks.length
      · subst here
        simp [spawnedFor?]
      · simp [spawnedFor?, here, Ne.symm here]
  | started =>
      rw [carries?_start]
      by_cases here : k = t.tasks.length
      · subst here
        simp [spawnedFor?]
      · simp [spawnedFor?, here]
  | registered | attached | kept | ended | delivered | removed | cancelled | stopped =>
      simp [spawnedFor?]

theorem perform (tracks : Tracks t past) (step : Step) :
    Tracks (t.perform step).2 (past ++ [(step, (t.perform step).1)]) where
  follows := tracks.follows_perform step
  spawnedFor := tracks.spawnedFor_perform step

theorem empty : Tracks {} [] where
  follows := ⟨by simp [history, standing, entry?], List.nodup_nil⟩
  spawnedFor _ := rfl

theorem run (tracks : Tracks t past) (steps : List Step) :
    Tracks (t.run steps) (past ++ t.trace steps) := by
  induction steps generalizing t past with
  | nil => simpa [trace, Transfers.run] using tracks
  | cons step steps ih => simpa [trace, Transfers.run] using ih (tracks.perform step)

end Tracks
end ConsoleAccess.Transfers
