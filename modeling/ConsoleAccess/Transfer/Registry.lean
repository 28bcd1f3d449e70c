import ConsoleAccess.Transfer.Basic

/-!
The registry's operations. Each is one step under the registry's lock, apart from `spawn`, which
takes two: the transfer is registered, and then its task is started and remembered.
-/

namespace ConsoleAccess.Transfers

def entry? (t : Transfers) (id : TransferId) : Option TransferEntry := t.entries[id.text]?

def isTracked (t : Transfers) (id : TransferId) : Bool := (t.entry? id).isSome

def put (t : Transfers) (entry : TransferEntry) : Transfers :=
  { t with entries := t.entries.insert entry.info.id.text entry }

/-! ## Queries -/

def get? (t : Transfers) (id : TransferId) : Option TransferInfo := (t.entry? id).map (·.info)

def payload? (t : Transfers) (id : TransferId) : Option (List UInt8) :=
  (t.entry? id).bind (·.payload)

def list (t : Transfers) : List TransferInfo :=
  (t.entries.toList.map fun e => e.2.info).mergeSort fun a b => a.startedAt ≤ b.startedAt

def size (t : Transfers) : Nat := t.entries.size

def isEmpty (t : Transfers) : Bool := t.entries.isEmpty

/-! ## Tracking -/

/-- What a caller says about a transfer; the ids are tried in order. -/
structure Registration where
  candidates : List TransferId
  kind : TransferKind
  bucket : Text
  object : Text
  startedAt : Nat
deriving DecidableEq, Repr

def fresh? (t : Transfers) (r : Registration) : Option TransferInfo :=
  (r.candidates.find? fun id => !t.isTracked id).map fun id =>
    { id, kind := r.kind, bucket := r.bucket, object := r.object, startedAt := r.startedAt }

def register (t : Transfers) (r : Registration) : Option TransferInfo × Transfers :=
  match t.fresh? r with
  | some info => (some info, t.put { info })
  | none => (none, t)

/-- Forgets a transfer and leaves its task alone. -/
def remove (t : Transfers) (id : TransferId) : Bool × Transfers :=
  (t.isTracked id, { t with entries := t.entries.erase id.text })

/-! ## Tasks -/

def taskState? (t : Transfers) (task : TaskId) : Option TaskState := t.tasks[task]?.map (·.state)

def start (t : Transfers) (carries : Option TransferInfo) : TaskId × Transfers :=
  (t.tasks.length, { t with tasks := t.tasks ++ [{ carries }] })

def settle (t : Transfers) (task : TaskId) (state : TaskState) : Transfers :=
  { t with
    tasks := t.tasks.modify task fun k => if k.state = .running then { k with state } else k }

def abort (t : Transfers) (task : TaskId) : Transfers := t.settle task .cancelled

/-- Lets the work of a running task return. A task that carries a transfer then removes the
transfer's id. -/
def complete (t : Transfers) (task : TaskId) : Bool × Transfers :=
  match t.tasks[task]? with
  | some ⟨.running, carries⟩ =>
    let t := t.settle task .finished
    (true, match carries with
      | some info => (t.remove info.id).2
      | none => t)
  | _ => (false, t)

/-! ## Attachments -/

def attachTask (t : Transfers) (id : TransferId) (task : TaskId) :
    Except TransferError Unit × Transfers :=
  match t.entry? id with
  | some entry => (.ok (), t.put { entry with task := some task })
  | none => (.error (.notFound id), t)

inductive Attachment
  | attached
  | brokenOff
deriving DecidableEq, Repr

/-- Keeps the bytes of a transfer. They are made under the lock; where making them breaks off, there
are no bytes, and the registry stays as it was. -/
def attachPayload (t : Transfers) (id : TransferId) (bytes? : Option (List UInt8)) :
    Except TransferError Attachment × Transfers :=
  match t.entry? id, bytes? with
  | none, _ => (.error (.notFound id), t)
  | some _, none => (.ok .brokenOff, t)
  | some entry, some bytes => (.ok .attached, t.put { entry with payload := some bytes })

/-! ## Spawning and cancelling -/

/-- The second step of a spawn: the task is started, and remembered if its transfer is still
tracked. -/
def startWork (t : Transfers) (info : TransferInfo) : TaskId × Transfers :=
  let (task, t) := t.start (some info)
  (task, (t.attachTask info.id task).2)

def spawn (t : Transfers) (r : Registration) : Option (TransferInfo × TaskId) × Transfers :=
  match t.register r with
  | (some info, t) =>
    let (task, t) := t.startWork info
    (some (info, task), t)
  | (none, t) => (none, t)

def cancel (t : Transfers) (id : TransferId) : Bool × Transfers :=
  match t.entry? id with
  | some entry =>
    let t := (t.remove id).2
    (true, match entry.task with
      | some task => t.abort task
      | none => t)
  | none => (false, t)

end ConsoleAccess.Transfers
