import EventHubs.Sender.Types
import Mathlib.Logic.Function.Basic

/-!
# The state of a running sender

A sender is its structure together with the point at which control stands: between two calls of
its user, in the loop of `EventHubClient_LL_DoWork`, inside a call to uAMQP, or inside a callback
of the user, with what is to be done afterwards. The remaining fields count entries, handles and
puts, and `log` keeps what the sender has shown.

## Main definitions

* `UamqpCall`, `SenderControl` — where control stands.
* `SenderState` and its small changes.
-/

namespace EventHubs

/-- What follows when `destroy_uamqp_stack` is done. -/
inductive AfterDestroy
  | initFailed
  | return
  | destroy
  deriving DecidableEq, Repr

/-- The calls to uAMQP during which callbacks of the sender can run. `taken` says whether
`messagesender_send_async` is going to return non-NULL, and `next` is the saved
`next_list_entry`. -/
inductive UamqpCall
  | messagesenderOpen
  | messagesenderSendAsync (current : Nat) (next : Option Nat) (taken : Bool)
  | connectionDowork
  | messagesenderDestroy (after : AfterDestroy)
  deriving DecidableEq, Repr

/-- What follows when the error callback of the user returns. -/
inductive AfterErrorCb
  | uamqp (call : UamqpCall)
  | tearDown
  | done
  deriving DecidableEq, Repr

/-- What follows when a confirmation callback of the user returns. -/
inductive AfterConfirm
  | uamqp (call : UamqpCall)
  | loop (next : Option Nat)
  | draining
  deriving DecidableEq, Repr

/-- Where control stands. An entry of `outgoingEvents` is given by its number, the list head by
`none`. -/
inductive SenderControl
  | idle
  | loop (currentListEntry : Option Nat)
  | uamqp (call : UamqpCall)
  | stateChangeCb (newState : MessageSenderState) (call : UamqpCall)
  | errorCb (after : AfterErrorCb)
  | confirming (n : Nat) (after : AfterConfirm)
  | draining
  | destroyed
  | undefinedBehaviour
  deriving DecidableEq, Repr

/-- A running sender. -/
structure SenderState (σ : Type) where
  client : EventHubClientLL σ
  control : SenderControl := .idle
  /-- The entries that uAMQP took and has not completed. -/
  inFlight : List Nat := []
  nextEntry : Nat := 0
  nextHandle : Handle := 0
  lastTick : UInt64 := 0
  /-- The puts that were accepted on the present auth handle and have not completed. -/
  outstandingPuts : Nat := 0
  destroying : Bool := false
  /-- The clones given to `EventData_Destroy`, each by the number of its entry and its index. -/
  freed : List (Nat × Nat) := []
  log : List SenderEvent := []

namespace SenderState

variable {σ : Type}

/-- Show some events. -/
def emit (s : SenderState σ) (events : List SenderEvent) : SenderState σ :=
  { s with log := s.log ++ events }

/-- Store the result of a creating call in a field of the stack. -/
def store (s : SenderState σ) (field : StackField) (h : Option Handle) : SenderState σ :=
  { s with
    client := { s.client with stack := Function.update s.client.stack field h }
    log := s.log ++ [.stored field (s.client.stack field).isSome] }

/-- Store the result of `EventHubAuthCBS_Create`. -/
def storeCBS (s : SenderState σ) (a : Option σ) : SenderState σ :=
  { s with
    client := { s.client with cbsHandle := a }
    log := s.log ++ .storedCBS s.client.cbsHandle.isSome ::
      (if a.isSome then [.authCreated] else []) }

/-- Give a handle of the stack to a call. -/
def pass (s : SenderState σ) (call : StackCall) (field : StackField) : SenderState σ :=
  s.emit [.passed call (s.client.stack field).isNone]

/-- Give the auth handle to a call. -/
def passCBS (s : SenderState σ) (call : StackCall) : SenderState σ :=
  s.emit [.passed call s.client.cbsHandle.isNone]

/-- Take over what a call on the auth handle leaves. -/
def answer {α : Type} (s : SenderState σ) (x : Answer σ α) : SenderState σ :=
  { s with
    client := { s.client with cbsHandle := some x.handle }
    outstandingPuts := s.outstandingPuts + acceptedPuts x.events
    log := s.log ++ x.events.map .auth }

/-- The entry numbered `n`. -/
def entry? (s : SenderState σ) (n : Nat) : Option EventHubEventList :=
  s.client.outgoingEvents.find? fun e => e.number = n

/-- `EventData_Destroy` on the clones of the entry numbered `n`, then `DList_RemoveEntryList`. -/
def unlink (s : SenderState σ) (n : Nat) : SenderState σ :=
  { s with
    client := { s.client with
      outgoingEvents := s.client.outgoingEvents.filter fun e => e.number ≠ n }
    freed := s.freed ++ (s.entry? n).elim [] (·.clones)
    log := s.log ++ [.removed n] }

/-- Set the status of the entry numbered `n` to `WAITING_FOR_ACK`. -/
def waitForAck (s : SenderState σ) (n : Nat) : SenderState σ :=
  { s with
    client := { s.client with
      outgoingEvents := s.client.outgoingEvents.map fun e =>
        if e.number = n then { e with currentStatus := .waitingForAck } else e } }

/-- `Flink` of the entry numbered `n`. -/
def flink (s : SenderState σ) (n : Nat) : Option Nat :=
  ((s.client.outgoingEvents.dropWhile fun e => e.number ≠ n).tail.head?).map (·.number)

/-- Call the confirmation callback of an entry without testing it for NULL. -/
def confirm (s : SenderState σ) (e : EventHubEventList) (cause : List SenderEvent)
    (r : EventHubClientConfirmationResult) (after : AfterConfirm) : SenderState σ :=
  match e.callback with
  | none => { s with control := .undefinedBehaviour }
  | some callback =>
    { s with
      control := .confirming e.number after
      log := s.log ++ (cause ++ [.confirmed e.number callback r]) }

/-- Call the error callback if there is one, then go on with `after`. -/
def raise (s : SenderState σ) (r : EventHubClientErrorResult) (after : AfterErrorCb)
    (without : SenderState σ → SenderState σ) : SenderState σ :=
  match s.client.onErrorCb with
  | none => without s
  | some callback =>
    { s with
      control := .errorCb after
      log := s.log ++ [.errorRaised callback r] }

end SenderState

end EventHubs
