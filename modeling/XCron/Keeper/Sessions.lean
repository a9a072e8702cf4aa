import XCron.Platform.Cells
import XCron.Platform.Trace
import XCron.Platform.U128

/-!
# Privacy sessions

`xcron-keeper-rs/src/session_db.rs`: a drip to a stealth address opens a session, and the
sum of the open ones is limited, as is the number of them for each user. Sessions are
stored by stealth address, and neither an authorisation nor a late report of a failure
asks what is stored there already.
-/

namespace XCron.Keeper

open Platform Outcome

/-! ## The manager -/

inductive SessionStatus where
  | dripped
  | swept
  | failedSweep
  deriving DecidableEq

structure PrivacySession where
  stealthAddress : Text
  userAddress : Text
  amountDripped : U128
  status : SessionStatus
  retryCount : UInt32
  createdAt : UInt64

def PrivacySession.active (session : PrivacySession) : Bool :=
  session.status = .dripped || session.status = .failedSweep

inductive SessionError where
  | globalFloatLimit (limit current requested : U128)
  | perUserLimit (active : Nat)
  | notFound (stealthAddress : Text)

structure PrivacySessionManager where
  sessions : Cells Text PrivacySession
  globalFloatLimit : U128
  maxActiveDripsPerUser : Nat
  retryQueue : List Text
  maxRetryLimit : UInt32

namespace PrivacySessionManager

def new (globalFloatLimit : U128) (maxActiveDripsPerUser : Nat) : PrivacySessionManager :=
  { sessions := .empty
    globalFloatLimit := globalFloatLimit
    maxActiveDripsPerUser := maxActiveDripsPerUser
    retryQueue := []
    maxRetryLimit := 5 }

def currentOutstanding (manager : PrivacySessionManager) : U128 :=
  U128.sum ((manager.sessions.values.filter PrivacySession.active).map PrivacySession.amountDripped)

def activeUserSessions (userAddress : Text) (manager : PrivacySessionManager) : Nat :=
  (manager.sessions.values.filter fun session =>
    session.userAddress = userAddress && session.active).length

/-- `authorize_session`, at the time `now`. -/
def authorizeSession (now : UInt64) (userAddress stealthAddress : Text) (dripAmount : U128)
    (manager : PrivacySessionManager) : Except SessionError PrivacySessionManager :=
  let currentOutstanding := manager.currentOutstanding
  let activeUserSessions := manager.activeUserSessions userAddress
  if manager.globalFloatLimit < currentOutstanding + dripAmount then
    .error (.globalFloatLimit manager.globalFloatLimit currentOutstanding dripAmount)
  else if manager.maxActiveDripsPerUser ≤ activeUserSessions then
    .error (.perUserLimit activeUserSessions)
  else
    let newSession : PrivacySession :=
      { stealthAddress := stealthAddress
        userAddress := userAddress
        amountDripped := dripAmount
        status := .dripped
        retryCount := 0
        createdAt := now }
    .ok { manager with sessions := manager.sessions.set stealthAddress newSession }

def completeSession (stealthAddress : Text) (manager : PrivacySessionManager) :
    Except SessionError PrivacySessionManager :=
  match manager.sessions.get? stealthAddress with
  | some session =>
      .ok { manager with
        sessions := manager.sessions.set stealthAddress { session with status := .swept } }
  | none => .error (.notFound stealthAddress)

def registerFailedSweep (stealthAddress : Text) (manager : PrivacySessionManager) :
    Except SessionError PrivacySessionManager :=
  match manager.sessions.get? stealthAddress with
  | some session =>
      let session := { session with status := .failedSweep, retryCount := session.retryCount + 1 }
      let manager := { manager with sessions := manager.sessions.set stealthAddress session }
      if session.retryCount ≤ manager.maxRetryLimit ∧ stealthAddress ∉ manager.retryQueue then
        .ok { manager with retryQueue := manager.retryQueue ++ [stealthAddress] }
      else .ok manager
  | none => .error (.notFound stealthAddress)

end PrivacySessionManager

/-! ## Runs -/

structure Drip where
  stealthAddress : Text
  userAddress : Text
  amount : U128
  deriving DecidableEq

/-- The manager, and every authorised drip whose address has not been completed since. -/
structure Sessions where
  manager : PrivacySessionManager
  openDrips : List Drip

namespace Sessions

def start (globalFloatLimit : U128) (maxActiveDripsPerUser : Nat) : Sessions :=
  { manager := .new globalFloatLimit maxActiveDripsPerUser, openDrips := [] }

inductive Step where
  | authorizeSession (now : UInt64) (userAddress stealthAddress : Text) (dripAmount : U128)
  | completeSession (stealthAddress : Text)
  | registerFailedSweep (stealthAddress : Text)

/-- One call. Each holds the lock from its first line to its last, and one that fails
changes nothing. -/
def step (w : Sessions) : Step → Outcome Sessions
  | .authorizeSession now userAddress stealthAddress dripAmount =>
      match w.manager.authorizeSession now userAddress stealthAddress dripAmount with
      | .ok manager => pure
          { manager := manager
            openDrips := w.openDrips ++ [⟨stealthAddress, userAddress, dripAmount⟩] }
      | .error _ => pure w
  | .completeSession stealthAddress =>
      match w.manager.completeSession stealthAddress with
      | .ok manager => pure
          { manager := manager
            openDrips := w.openDrips.filter fun drip => drip.stealthAddress ≠ stealthAddress }
      | .error _ => pure w
  | .registerFailedSweep stealthAddress =>
      match w.manager.registerFailedSweep stealthAddress with
      | .ok manager => pure { w with manager := manager }
      | .error _ => pure w

end Sessions

end XCron.Keeper
