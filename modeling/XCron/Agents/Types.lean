import XCron.Common.Types
import XCron.Platform.Call

/-!
# Shared types of the agent registries

The records of `xcron-agent-shield/common/src/structs.rs`, and the payments that come with
a call. Nonces are `u64`; nothing is computed with them but their successor.
-/

namespace XCron.Agents

open Platform

inductive JobStatus where
  | new
  | pending
  | verified
  | validationRequested
  | rejected
  deriving DecidableEq

structure JobData where
  status : JobStatus
  proof : Bytes
  employer : Address
  creationTimestamp : UInt64
  agentNonce : Nat
  deriving DecidableEq

structure ValidationRequestData where
  validatorAddress : Address
  agentNonce : Nat
  jobId : Bytes
  response : UInt8
  responseHash : Bytes
  tag : Bytes
  lastUpdate : UInt64
  deriving DecidableEq

structure MetadataEntry where
  key : Bytes
  value : Bytes

structure AgentDetails where
  name : Bytes
  publicKey : Bytes
  deriving DecidableEq

def AgentDetails.topEncode (details : AgentDetails) : Bytes :=
  encodeBuffer details.name ++ encodeBuffer details.publicKey

structure ServiceConfigInput where
  serviceId : UInt32
  price : Nat
  token : Bytes
  nonce : Nat

abbrev Payment := EsdtPayment

structure Transfer where
  receiver : Address
  payment : Payment
  deriving DecidableEq

def egldTokenId : Bytes := "EGLD-000000".toUTF8.toList

def payments (call : CallContext) : List Payment :=
  (if call.egldValue = 0 then [] else [⟨egldTokenId, 0, call.egldValue⟩]) ++ call.esdtTransfers

def singleEsdt (call : CallContext) : Outcome Payment :=
  match call.esdtTransfers with
  | [payment] => .ok payment
  | _ => .error .rejected

/-- `call_value().single_optional()`. -/
def singleOptional (call : CallContext) : Outcome (Option Payment) :=
  match payments call with
  | [] => .ok none
  | [payment] => .ok (some payment)
  | _ => .error .rejected

/-- `call_value().single()`. -/
def single (call : CallContext) : Outcome Payment :=
  match payments call with
  | [payment] => .ok payment
  | _ => .error .rejected

def errNotAgentOwner : String := "Only the agent owner can perform this action"
def errJobNotFound : String := "Job not found"

theorem singleEsdt_eq_ok {call : CallContext} {payment : Payment} :
    singleEsdt call = .ok payment ↔ call.esdtTransfers = [payment] := by
  unfold singleEsdt
  split
  next other same => simp [same]
  next many => simpa using many payment

end XCron.Agents
