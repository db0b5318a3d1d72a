import EventHubs.Auth.Types

/-!
# Types of the low-level sender

The enumerations and structures of `eventhubclient_ll.h` and `eventhubclient_ll.c`, and what a
sender shows to its user and to uAMQP. Entries of `outgoingEvents` carry a number that counts the
accepted ones; it stands for the address of the entry.

## Main definitions

* `EventData`, `EventHubEventList`, `AMQPMessage`, `EventHubClientLL`.
* `StackField` — the fields that hold handles of the uAMQP stack.
* `SenderEvent` — what a sender shows.
-/

namespace EventHubs

/-- `EVENTHUBCLIENT_RESULT`. -/
inductive EventHubClientResult
  | ok
  | invalidArg
  | invalidConnectionString
  | urlEncodingFailure
  | eventDataFailure
  | partitionKeyMismatch
  | dataSizeExceeded
  | error
  deriving DecidableEq, Repr

/-- `EVENTHUBCLIENT_CONFIRMATION_RESULT`. -/
inductive EventHubClientConfirmationResult
  | ok
  | destroy
  | exceedMaxSize
  | unknown
  | error
  | timeout
  deriving DecidableEq, Repr

/-- `EVENTHUBCLIENT_STATE`. -/
inductive EventHubClientState
  | connAuthenticated
  | connUnauthenticated
  deriving DecidableEq, Repr

/-- `EVENTHUBCLIENT_ERROR_RESULT`. -/
inductive EventHubClientErrorResult
  | sasTokenAuthFailure
  | sasTokenAuthTimeout
  | socketSendFailure
  | amqpInitFailure
  deriving DecidableEq, Repr

/-- `EVENTHUBCLIENT_AMQP_STATE`. -/
inductive EventHubClientAMQPState
  | uninitialized
  | pendingAuthorization
  | pendingSenderCreate
  | initialized
  deriving DecidableEq, Repr

/-- `EVENTHUB_EVENT_STATUS`. -/
inductive EventHubEventStatus
  | waitingToBeSent
  | waitingForAck
  deriving DecidableEq, Repr

/-- `MESSAGE_SENDER_STATE` of uAMQP. -/
inductive MessageSenderState
  | idle
  | opening
  | open
  | closing
  | error
  deriving DecidableEq, Repr

/-- `MESSAGE_SEND_RESULT` of uAMQP. -/
inductive MessageSendResult
  | ok
  | error
  | timeout
  | cancelled
  deriving DecidableEq, Repr

/-- `EVENT_DATA`: payload, partition key, application properties in map order, and the enqueued
time stamp. -/
structure EventData where
  buffer : List UInt8 := []
  partitionKey : Option String := none
  properties : List (String × String) := []
  enqueuedTimestampUTC : UInt64 := 0
  deriving DecidableEq, Repr

/-- A user callback with its context; the function is identified by a number. -/
structure UserCallback where
  function : Nat
  context : Option Nat := none
  deriving DecidableEq, Repr

/-- `EVENTHUB_EVENT_LIST`: `number` counts the accepted entries. -/
structure EventHubEventList where
  number : Nat
  eventDataList : List EventData
  callback : Option UserCallback
  currentStatus : EventHubEventStatus := .waitingToBeSent
  idleTimer : UInt64
  deriving DecidableEq, Repr

/-- `eventCount` of an entry. -/
def EventHubEventList.eventCount (e : EventHubEventList) : Nat := e.eventDataList.length

/-- The clones that an entry holds, each by the number of the entry and its index. -/
def EventHubEventList.clones (e : EventHubEventList) : List (Nat × Nat) :=
  (List.range e.eventCount).map fun index => (e.number, index)

/-- What a uAMQP message carries: its format, its data sections, its annotations and its
application properties, each map in the order in which it was filled. -/
structure AMQPMessage where
  messageFormat : Option UInt32 := none
  bodyData : List (List UInt8) := []
  messageAnnotations : Option (List (String × String)) := none
  applicationProperties : Option (List (String × String)) := none
  deriving DecidableEq, Repr

/-- The fields of a sender that hold handles of the uAMQP stack, apart from `cbs_handle`. -/
inductive StackField
  | connection
  | session
  | link
  | saslMechanismHandle
  | saslIo
  | tlsIo
  | messageSender
  deriving DecidableEq, Repr

/-- `EVENTHUBCLIENT_LL`, over the type `σ` of what an auth handle points to; `none` is NULL. The
defaults are those of `eventhub_client_init`. -/
structure EventHubClientLL (σ : Type) where
  keyName : Option String := none
  keyValue : Option String := none
  eventHubPath : Option String := none
  hostName : Option String := none
  targetAddress : Option String := none
  senderPublisherId : Option String := none
  extRefreshSASToken : Option String := none
  extSASTokenParseConfig : Option EventHubAuthCBSConfig := none
  outgoingEvents : List EventHubEventList := []
  stack : StackField → Option Handle := fun _ => none
  messageSenderState : MessageSenderState := .idle
  stateChangeCb : Option UserCallback := none
  onErrorCb : Option UserCallback := none
  traceOn : Bool := false
  msgTimeout : UInt64 := 0
  cbsHandle : Option σ := none
  amqpState : EventHubClientAMQPState := .uninitialized
  credential : EventHubAuthCredentialType := .unknown

/-- The calls that are given a handle of the stack or of the authentication. -/
inductive StackCall
  | xioCreateSASL
  | connectionCreate
  | connectionSetTrace
  | sessionCreate
  | sessionSetOutgoingWindow
  | eventHubAuthCBSCreate
  | eventHubAuthCBSGetStatus
  | eventHubAuthCBSAuthenticate
  | eventHubAuthCBSRefresh
  | linkCreate
  | linkSetSndSettleMode
  | linkSetMaxMessageSize
  | messagesenderCreate
  | messagesenderOpen
  | messagesenderSendAsync
  | connectionDowork
  deriving DecidableEq, Repr

/-- What a sender shows, oldest first. -/
inductive SenderEvent
  /-- A send call returned OK and queued the entry, with the tick that it read. -/
  | accepted (n : Nat) (callback : Option UserCallback) (idleTimer : UInt64)
  /-- No uAMQP message could be built. -/
  | unbuildable (n : Nat)
  /-- The entry was found to be too old. -/
  | overdue (n : Nat) (idleTimer currentTime msgTimeout : UInt64)
  /-- `messagesender_send_async`, and whether it returned non-NULL. -/
  | handedOver (n : Nat) (message : AMQPMessage) (taken : Bool)
  /-- `on_message_send_complete` was called. -/
  | completed (n : Nat) (r : MessageSendResult)
  /-- The confirmation callback was called. -/
  | confirmed (n : Nat) (callback : UserCallback) (r : EventHubClientConfirmationResult)
  /-- The entry was unlinked. -/
  | removed (n : Nat)
  | stateChanged (callback : UserCallback) (s : EventHubClientState)
  | errorRaised (callback : UserCallback) (r : EventHubClientErrorResult)
  /-- `EventHubClient_LL_RefreshSASTokenAsync` returned OK. -/
  | refreshAccepted (token : String)
  /-- A creating call was stored, and whether that lost a handle. -/
  | stored (field : StackField) (lost : Bool)
  /-- `EventHubAuthCBS_Create` was stored, and whether that lost a handle. -/
  | storedCBS (lost : Bool)
  /-- A handle was given to a call, and whether it was NULL. -/
  | passed (call : StackCall) (isNull : Bool)
  /-- `EventHubAuthCBS_Create` succeeded. -/
  | authCreated
  | auth (e : AuthEvent)
  /-- `destroy_uamqp_stack` finished. -/
  | stackDestroyed
  /-- `EventHubClient_LL_DoWork` was called. -/
  | doWork
  /-- `EventHubClient_LL_Destroy` was called. -/
  | destroying
  deriving DecidableEq, Repr

end EventHubs
