import EventHubs.Receiver.Types
import EventHubs.Sender.State

/-!
# The state of a running receiver

A receiver is its structure together with the point at which control stands: between two calls of
its user, inside a call to uAMQP, or inside a callback of the user, with what is to be done
afterwards.

## Main definitions

* `ReceiverUamqpCall`, `ReceiverControl` — where control stands.
* `ReceiverState` and its small changes.
-/

namespace EventHubs

/-- What follows when `TeardownReceiverStack` is done: the end callback, the end of an
`EventHubReceiver_LL_DoWork` whose authentication failed or timed out, or the rest of
`EventHubReceiver_LL_Destroy`. -/
inductive AfterTeardown
  | endReception
  | resetReception
  | destroy
  deriving DecidableEq, Repr

/-- What follows when `EventHubAMQP_DeInitializeStack` is done. -/
inductive AfterDeInitialize
  | bringUpFailed
  | teardown (after : AfterTeardown)
  deriving DecidableEq, Repr

/-- The calls to uAMQP during which callbacks of the receiver can run. `poll` says whether the
timeouts are handled after `connection_dowork`, and `messagereceiverDestroy` stands for
`messagereceiver_close` together with `messagereceiver_destroy`. -/
inductive ReceiverUamqpCall
  | messagereceiverOpen
  | connectionDowork (poll : Bool)
  | messagereceiverDestroy (after : AfterDeInitialize)
  deriving DecidableEq, Repr

/-- What follows when the error callback of the user returns. -/
inductive AfterReceiverErrorCb
  | uamqp (call : ReceiverUamqpCall)
  | teardown
  deriving DecidableEq, Repr

/-- Where control stands. `timeoutCb` keeps the tick that `EventHubReceiver_LL_DoWork` has read. -/
inductive ReceiverControl
  | idle
  | uamqp (call : ReceiverUamqpCall)
  | receiveCb (call : ReceiverUamqpCall)
  | timeoutCb (nowTimestamp : UInt64)
  | errorCb (after : AfterReceiverErrorCb)
  | endCb
  | destroyed
  | undefinedBehaviour
  deriving DecidableEq, Repr

/-- A running receiver. -/
structure ReceiverState (σ : Type) where
  client : EventHubReceiverLL σ
  control : ReceiverControl := .idle
  nextHandle : Handle := 0
  /-- The puts that were accepted on the present auth handle and have not completed. -/
  outstandingPuts : Nat := 0
  destroying : Bool := false
  log : List ReceiverEvent := []

namespace ReceiverState

variable {σ : Type}

/-- Show some events. -/
def emit (s : ReceiverState σ) (events : List ReceiverEvent) : ReceiverState σ :=
  { s with log := s.log ++ events }

/-- Store the result of a creating call in a field of the stack. -/
def store (s : ReceiverState σ) (field : ReceiverField) (h : Option Handle) : ReceiverState σ :=
  { s with
    client := { s.client with stack := Function.update s.client.stack field h }
    log := s.log ++ [.stored field (s.client.stack field).isSome] }

/-- Store the result of `EventHubAuthCBS_Create`. -/
def storeCBS (s : ReceiverState σ) (a : Option σ) : ReceiverState σ :=
  { s with
    client := { s.client with cbsHandle := a }
    log := s.log ++ .storedCBS s.client.cbsHandle.isSome ::
      (if a.isSome then [.authCreated] else []) }

/-- Give a handle of the stack to a call. -/
def pass (s : ReceiverState σ) (call : ReceiverStackCall) (field : ReceiverField) :
    ReceiverState σ :=
  s.emit [.passed call (s.client.stack field).isNone]

/-- Give the auth handle to a call. -/
def passCBS (s : ReceiverState σ) (call : ReceiverStackCall) : ReceiverState σ :=
  s.emit [.passed call s.client.cbsHandle.isNone]

/-- Take over what a call on the auth handle leaves. -/
def answer {α : Type} (s : ReceiverState σ) (x : Answer σ α) : ReceiverState σ :=
  { s with
    client := { s.client with cbsHandle := some x.handle }
    outstandingPuts := s.outstandingPuts + acceptedPuts x.events
    log := s.log ++ x.events.map .auth }

/-- Change the callback structure. -/
def setCallback (s : ReceiverState σ)
    (f : EventHubReceiverLLCallback → EventHubReceiverLLCallback) : ReceiverState σ :=
  { s with client := { s.client with callback := f s.client.callback } }

end ReceiverState

end EventHubs
