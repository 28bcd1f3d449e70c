import ConsoleAccess.Transfer.Registry

/-!
Runs of the registry: operations one at a time, each with what it answers.
-/

namespace ConsoleAccess.Transfers

inductive Step
  | register (r : Registration)
  | spawn (r : Registration)
  | start
  | attachTask (id : TransferId) (task : TaskId)
  | attachPayload (id : TransferId) (bytes? : Option (List UInt8))
  | complete (task : TaskId)
  | cancel (id : TransferId)
  | remove (id : TransferId)
deriving DecidableEq, Repr

inductive Outcome
  | registered (info? : Option TransferInfo)
  | spawned (started? : Option (TransferInfo × TaskId))
  | started (task : TaskId)
  | attached (result : Except TransferError Unit)
  | kept (result : Except TransferError Attachment)
  | flag (b : Bool)

def perform (t : Transfers) : Step → Outcome × Transfers
  | .register r => let (info?, t) := t.register r; (.registered info?, t)
  | .spawn r => let (started?, t) := t.spawn r; (.spawned started?, t)
  | .start => let (task, t) := t.start none; (.started task, t)
  | .attachTask id task => let (result, t) := t.attachTask id task; (.attached result, t)
  | .attachPayload id bytes? => let (result, t) := t.attachPayload id bytes?; (.kept result, t)
  | .complete task => let (b, t) := t.complete task; (.flag b, t)
  | .cancel id => let (b, t) := t.cancel id; (.flag b, t)
  | .remove id => let (b, t) := t.remove id; (.flag b, t)

def run (t : Transfers) (steps : List Step) : Transfers :=
  steps.foldl (fun t step => (t.perform step).2) t

end ConsoleAccess.Transfers
