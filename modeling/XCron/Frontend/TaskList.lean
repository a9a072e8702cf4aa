import XCron.Common.Encoding
import XCron.Frontend.CloneKeys

/-!
# The list of tasks

`app/tasks/page.tsx` reads a task off its bytes by hand, field after field, with an offset
that it moves along. It knows three of the five triggers.
-/

namespace XCron.Frontend

open Platform
open Platform.JsString

/-! ## The parser -/

/-- What the page keeps of a task, beside the comparison of its owner with the wallet. The
endpoint is shown as text. -/
structure TaskInfo where
  id : Nat
  owner : JsString
  targetContract : JsString
  targetEndpoint : Bytes
  status : JsString
  triggerTime : Nat
  postTaskId : Option Nat
  deriving DecidableEq

def statusText : TaskStatus → JsString
  | .pending => jsAscii "Pending"
  | .committed => jsAscii "Committed"
  | .executing => jsAscii "Executing"
  | .completed => jsAscii "Completed"
  | .failed => jsAscii "Failed"
  | .cancelled => jsAscii "Cancelled"
  | .expired => jsAscii "Expired"

def timeOf : Trigger → Nat
  | .timeOnce targetTime => targetTime.toNat
  | .timeRecurring startTime _ _ => startTime.toNat
  | _ => 0

def listed (texts : AddressTexts) (id : Nat) (task : Task) : TaskInfo where
  id := id
  owner := texts.toBech32 task.owner
  targetContract := texts.toBech32 task.targetContract
  targetEndpoint := task.targetEndpoint
  status := statusText task.status
  triggerTime := numberOfBigInt (timeOf task.trigger)
  postTaskId := task.postTaskId.map fun taskId => numberOfBigInt taskId.toNat

/-! ## Reading what was written -/

section Parsing

variable {texts : AddressTexts} {data rest : Bytes} {offset : Nat} {args : List Bytes}

/-- The triggers that the page knows. -/
def Known : Trigger → Prop
  | .timeOnce _ | .timeRecurring _ _ _ | .stateDriven _ _ _ _ _ => True
  | _ => False

end Parsing

section Listing

variable {task : Task} (texts : AddressTexts) (id : Nat)

end Listing

end XCron.Frontend
