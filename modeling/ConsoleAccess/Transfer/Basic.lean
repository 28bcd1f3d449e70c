import ConsoleAccess.Dictionary
import ConsoleAccess.Text.Digits

/-!
Transfers under way: uploads and downloads that can be listed, kept for another try, or cancelled,
and the tasks that carry them.

A task lives on its own. An entry only remembers the task that a cancel is to stop, so an entry may
go while its task runs on, and a task whose work returns takes out whatever entry then has its
transfer's id. Work that panics is not modelled: its task ends and takes nothing out.
-/

namespace ConsoleAccess

structure TransferId where
  text : Text
deriving DecidableEq, Repr

namespace TransferId

def ofBits (bits : UInt32) : TransferId := ⟨hexText 8 bits.toNat⟩

theorem length_ofBits (bits : UInt32) : (ofBits bits).text.length = 8 := length_hexText 8 _

end TransferId

inductive TransferKind
  | upload
  | download
deriving DecidableEq, Repr

structure TransferInfo where
  id : TransferId
  kind : TransferKind
  bucket : Text
  object : Text
  startedAt : Nat
deriving DecidableEq, Repr

/-- Tasks are numbered in the order in which they were started. -/
abbrev TaskId := Nat

inductive TaskState
  | running
  | finished
  | cancelled
deriving DecidableEq, Repr

/-- A task, and the transfer whose id it takes out of the registry when its work is done. -/
structure Task where
  state : TaskState := .running
  carries : Option TransferInfo := none
deriving DecidableEq, Repr

structure TransferEntry where
  info : TransferInfo
  task : Option TaskId := none
  payload : Option (List UInt8) := none
deriving DecidableEq

structure Transfers where
  entries : Dictionary TransferEntry := ∅
  tasks : List Task := []
deriving DecidableEq

inductive TransferError
  | notFound (id : TransferId)
deriving DecidableEq, Repr

def TransferError.message : TransferError → Text
  | .notFound id => "transfer not found: ".toList ++ id.text

end ConsoleAccess
