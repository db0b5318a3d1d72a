import EventHubs.Sender.Types

/-!
# Types of the low-level receiver

The enumerations and structures of `eventhubreceiver_ll.h` and `eventhubreceiver_ll.c`, and what a
receiver shows to its user and to uAMQP.

## Main definitions

* `EventHubConnectionParams`, `EventHubReceiverLLCallback`, `EventHubReceiverLL`.
* `ReceiverField` — the fields that hold handles of the uAMQP stack.
* `ReceiverEvent` — what a receiver shows.
-/

namespace EventHubs

/-- `EVENTHUBRECEIVER_RESULT`. -/
inductive EventHubReceiverResult
  | ok
  | invalidArg
  | error
  | timeout
  | connectionRuntimeError
  | sasTokenAuthFailure
  | sasTokenAuthTimeout
  | notAllowed
  deriving DecidableEq, Repr

/-- `EVENTHUBRECEIVER_STATE` of the low-level receiver. -/
inductive EventHubReceiverState
  | inactive
  | inactivePending
  | active
  deriving DecidableEq, Repr

/-- `EVENTHUBRECEIVER_AMQP_STATE`. -/
inductive EventHubReceiverAMQPState
  | uninitialized
  | pendingAuthorization
  | pendingReceiverCreate
  | initialized
  deriving DecidableEq, Repr

/-- `MESSAGE_RECEIVER_STATE` of uAMQP. -/
inductive MessageReceiverState
  | idle
  | opening
  | open
  | closing
  | error
  deriving DecidableEq, Repr

/-- The fields of `EVENTHUBAMQPSTACK_STRUCT`, apart from `cbsHandle`. -/
inductive ReceiverField
  | connection
  | session
  | link
  | saslIo
  | tlsIo
  | saslMechanismHandle
  | messageReceiver
  deriving DecidableEq, Repr

/-- `EVENTHUBCONNECTIONPARAMS_STRUCT`; `none` is NULL. -/
structure EventHubConnectionParams where
  hostName : Option String := none
  eventHubPath : Option String := none
  eventHubSharedAccessKeyName : Option String := none
  eventHubSharedAccessKey : Option String := none
  targetAddress : Option String := none
  consumerGroup : Option String := none
  partitionId : Option String := none
  credential : EventHubAuthCredentialType
  extSASTokenConfig : Option EventHubAuthCBSConfig := none
  deriving DecidableEq

/-- `EVENTHUBRECEIVER_LL_CALLBACK_STRUCT`. Creation leaves the end callback as `malloc` has it; it
is written before it is first read. -/
structure EventHubReceiverLLCallback where
  onEventReceiveCallback : Option UserCallback := none
  wasMessageReceived : Bool := false
  onEventReceiveErrorCallback : Option UserCallback := none
  onEventReceiveEndCallback : Option UserCallback := none
  deriving DecidableEq, Repr

/-- `EVENTHUBRECEIVER_LL_STRUCT`, over the type `σ` of what an auth handle points to. The defaults
are those that the two creation functions write. -/
structure EventHubReceiverLL (σ : Type) where
  connectionParams : EventHubConnectionParams
  stack : ReceiverField → Option Handle := fun _ => none
  cbsHandle : Option σ := none
  receiverAMQPConnectionState : EventHubReceiverAMQPState := .uninitialized
  state : EventHubReceiverState := .inactive
  callback : EventHubReceiverLLCallback := {}
  receiverQueryFilter : Option String := none
  extRefreshSASToken : Option String := none
  startTimestamp : UInt64 := 0
  lastActivityTimestamp : UInt64 := 0
  waitTimeoutInMs : UInt32 := 0
  connectionTracing : Bool := false

/-- The calls that are given a handle of the stack or of the authentication. -/
inductive ReceiverStackCall
  | xioCreateSASL
  | connectionCreate
  | connectionSetTrace
  | sessionCreate
  | sessionSetIncomingWindow
  | eventHubAuthCBSCreate
  | eventHubAuthCBSGetStatus
  | eventHubAuthCBSAuthenticate
  | eventHubAuthCBSRefresh
  | linkCreate
  | linkSetRcvSettleMode
  | linkSetMaxMessageSize
  | messagereceiverCreate
  | messagereceiverOpen
  | connectionDowork
  deriving DecidableEq, Repr

/-- What a receiver shows, oldest first. -/
inductive ReceiverEvent
  /-- A receive call returned OK. -/
  | started (onReceive onError : UserCallback)
  /-- `EventHubReceiver_LL_ReceiveEndAsync` returned OK. -/
  | ending (onEnd : Option UserCallback)
  /-- The receive callback was called with an event. -/
  | received (callback : UserCallback) (event : EventData)
  /-- The receive callback was called with `EVENTHUBRECEIVER_TIMEOUT`. -/
  | timedOut (callback : UserCallback)
  | errorRaised (callback : UserCallback) (r : EventHubReceiverResult)
  /-- The end callback was called. -/
  | ended (callback : UserCallback) (r : EventHubReceiverResult)
  /-- `messaging_delivery_accepted` or `messaging_delivery_rejected` was returned. -/
  | answered (accepted : Bool)
  /-- `EventHubReceiver_LL_RefreshSASTokenAsync` returned OK. -/
  | refreshAccepted (token : String)
  /-- `EventHubConnectionAMQP_Reset` set all handles to NULL, and whether that lost one. -/
  | reset (lost : Bool)
  /-- A creating call was stored, and whether that lost a handle. -/
  | stored (field : ReceiverField) (lost : Bool)
  /-- `EventHubAuthCBS_Create` was stored, and whether that lost a handle. -/
  | storedCBS (lost : Bool)
  /-- A handle was given to a call, and whether it was NULL. -/
  | passed (call : ReceiverStackCall) (isNull : Bool)
  /-- `EventHubAuthCBS_Create` succeeded. -/
  | authCreated
  | auth (e : AuthEvent)
  /-- `EventHubConnectionAMQP_ReceiverInitialize` failed. -/
  | bringUpFailed
  /-- `EventHubAMQP_DeInitializeStack` finished. -/
  | stackDestroyed
  /-- `TeardownReceiverStack` finished. -/
  | tornDown
  /-- `EventHubReceiver_LL_DoWork` was called. -/
  | doWork
  /-- `EventHubReceiver_LL_Destroy` was called. -/
  | destroying
  deriving DecidableEq, Repr

end EventHubs
