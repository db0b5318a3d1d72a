import EventHubs.Library.Attempt
import EventHubs.Receiver.State

/-!
# The uAMQP stack of the receiver

Bringing the stack up in two phases, authenticating on it, and taking it down. The bring-up
functions stop at their first failing call and leave the clean-up to `deInitializeStack`, which may
run callbacks of the user inside `messagereceiver_close` and `messagereceiver_destroy` before it
frees the handles. `receiverAMQPConnectionState` is written by the callers of these functions.

## Main definitions

* `ReceiverCall`, `ReceiverEnv` — the outside.
* `initializeStackCommon`, `createSasToken`, `initializeStackReceiver`.
* `handleSASTokenAuth`, `deInitializeStack`, `teardownReceiverStack`.
-/

namespace EventHubs

/-- The calls of the bring-up that can fail, up to `messagereceiver_open`. -/
inductive ReceiverCall
  | saslmssbcbsGetInterface
  | saslmechanismCreate
  | platformGetDefaultTlsio
  | xioCreateTLS
  | saslclientioGetInterfaceDescription
  | xioCreateSASL
  | connectionCreate
  | sessionCreate
  | sessionSetIncomingWindow
  | amqpvalueCreateMap
  | amqpvalueCreateFilterKey
  | amqpvalueCreateDescriptor
  | amqpvalueCreateFilterValue
  | amqpvalueCreateDescribed
  | amqpvalueSetMapValue
  | sourceCreate
  | amqpvalueCreateAddress
  | sourceSetAddress
  | sourceSetFilter
  | amqpvalueCreateSource
  | messagingCreateTarget
  | linkCreate
  | linkSetRcvSettleMode
  | linkSetMaxMessageSize
  | messagereceiverCreate
  deriving DecidableEq, Repr

/-- What the environment contributes to a stretch of `EventHubReceiver_LL_DoWork`: the outcomes of
the bring-up calls, what `tickcounter_get_current_ms` reads, and a share for each call on the auth
handle. -/
structure ReceiverEnv (ι : Type) where
  succeeds : ReceiverCall → Bool := fun _ => true
  tick : Option UInt64 := some 0
  create : ι
  status : ι
  put : ι

namespace EventHubReceiverLL

open Attempt

variable {σ ι : Type} (auth : AuthModule σ ι)

/-! ### Bring-up -/

/-- A creating call, stored in a field of the stack. -/
def createHandle (env : ReceiverEnv ι) (call : ReceiverCall) (field : ReceiverField) :
    Attempt (ReceiverState σ) Unit := fun s =>
  if env.succeeds call then
    (some (), { s.store field (some s.nextHandle) with nextHandle := s.nextHandle + 1 })
  else (none, s.store field none)

/-- Give a handle of the stack to a call. -/
def passHandle (call : ReceiverStackCall) (field : ReceiverField) :
    Attempt (ReceiverState σ) Unit :=
  update fun s => s.pass call field

/-- `AUTH_EXPIRATION_SECS`. -/
def authExpirationSecs : UInt32 := 60 * 60

/-- `AUTH_REFRESH_SECS`. -/
def authRefreshSecs : UInt32 := 48 * 60

/-- The wait time in seconds that `EventHubAMQP_InitializeStackCommon` gives to `CreateSasToken`. -/
def waitTimeInSecs (c : EventHubReceiverLL σ) : UInt32 := c.waitTimeoutInMs / 1000

/-- The configuration that `CreateSasToken` gives to `EventHubAuthCBS_Create`. -/
def authConfig (c : EventHubReceiverLL σ) : EventHubAuthCBSConfig :=
  match c.connectionParams.extSASTokenConfig with
  | none =>
    { hostName := c.connectionParams.hostName
      eventHubPath := c.connectionParams.eventHubPath
      receiverConsumerGroup := c.connectionParams.consumerGroup
      receiverPartitionId := c.connectionParams.partitionId
      senderPublisherId := none
      sharedAccessKeyName := c.connectionParams.eventHubSharedAccessKeyName
      sharedAccessKey := c.connectionParams.eventHubSharedAccessKey
      sasTokenAuthFailureTimeoutInSecs := waitTimeInSecs c
      sasTokenExpirationTimeInSec := authExpirationSecs
      sasTokenRefreshPeriodInSecs := authRefreshSecs
      mode := .receiver
      credential := .sasTokenAuto
      extSASToken := none
      extSASTokenURI := none
      extSASTokenExpTSInEpochSec := 0 }
  | some cfg => { cfg with sasTokenAuthFailureTimeoutInSecs := waitTimeInSecs c }

/-- The change that `CreateSasToken` makes to the parsed configuration. -/
def writeWaitTime (c : EventHubReceiverLL σ) : EventHubReceiverLL σ :=
  { c with
    connectionParams := { c.connectionParams with
      extSASTokenConfig := c.connectionParams.extSASTokenConfig.map fun _ => authConfig c } }

/-- `CreateSasToken`. -/
def createSasToken (env : ReceiverEnv ι) : Attempt (ReceiverState σ) Unit := do
  update fun s => { s with client := writeWaitTime s.client }
  passHandle .eventHubAuthCBSCreate .session
  let s ← read id
  let a := auth.create (authConfig s.client) (s.client.stack .session) env.create
  update fun s => s.storeCBS a
  check a.isSome

/-- `EventHubAMQP_InitializeStackCommon` without its clean-up. -/
def initializeStackCommon (env : ReceiverEnv ι) : Attempt (ReceiverState σ) Unit := do
  check (env.succeeds .saslmssbcbsGetInterface)
  createHandle env .saslmechanismCreate .saslMechanismHandle
  check (env.succeeds .platformGetDefaultTlsio)
  createHandle env .xioCreateTLS .tlsIo
  check (env.succeeds .saslclientioGetInterfaceDescription)
  passHandle .xioCreateSASL .tlsIo
  passHandle .xioCreateSASL .saslMechanismHandle
  createHandle env .xioCreateSASL .saslIo
  passHandle .connectionCreate .saslIo
  createHandle env .connectionCreate .connection
  passHandle .connectionSetTrace .connection
  passHandle .sessionCreate .connection
  createHandle env .sessionCreate .session
  passHandle .sessionSetIncomingWindow .session
  check (env.succeeds .sessionSetIncomingWindow)
  createSasToken auth env

/-- The filter set and the source and target of the link, in
`EventHubAMQP_InitializeStackReceiver`. -/
def initializeSource (env : ReceiverEnv ι) : Attempt (ReceiverState σ) Unit := do
  check (env.succeeds .amqpvalueCreateMap)
  check (env.succeeds .amqpvalueCreateFilterKey)
  check (env.succeeds .amqpvalueCreateDescriptor)
  check (env.succeeds .amqpvalueCreateFilterValue)
  check (env.succeeds .amqpvalueCreateDescribed)
  check (env.succeeds .amqpvalueSetMapValue)
  check (env.succeeds .sourceCreate)
  check (env.succeeds .amqpvalueCreateAddress)
  check (env.succeeds .sourceSetAddress)
  check (env.succeeds .sourceSetFilter)
  check (env.succeeds .amqpvalueCreateSource)
  check (env.succeeds .messagingCreateTarget)

/-- `EventHubAMQP_InitializeStackReceiver` up to `messagereceiver_open`, without its clean-up. -/
def initializeStackReceiver (env : ReceiverEnv ι) : Attempt (ReceiverState σ) Unit := do
  initializeSource env
  passHandle .linkCreate .session
  createHandle env .linkCreate .link
  passHandle .linkSetRcvSettleMode .link
  check (env.succeeds .linkSetRcvSettleMode)
  passHandle .linkSetMaxMessageSize .link
  check (env.succeeds .linkSetMaxMessageSize)
  passHandle .messagereceiverCreate .link
  createHandle env .messagereceiverCreate .messageReceiver
  passHandle .messagereceiverOpen .messageReceiver

/-- Write `receiverAMQPConnectionState`. -/
def setAMQPState (state : EventHubReceiverAMQPState) : Attempt (ReceiverState σ) Unit :=
  update fun s => { s with client := { s.client with receiverAMQPConnectionState := state } }

/-- `EventHubConnectionAMQP_Reset`. -/
def resetConnection (s : ReceiverState σ) : ReceiverState σ :=
  { s with
    client := { s.client with stack := fun _ => none, cbsHandle := none }
    log := s.log ++ [.reset (s.client.cbsHandle.isSome ||
      [ReceiverField.connection, .session, .link, .saslIo, .tlsIo, .saslMechanismHandle,
        .messageReceiver].any fun field => (s.client.stack field).isSome)] }

/-- `EventHubConnectionAMQP_ReceiverInitialize` in the state `RECEIVER_AMQP_UNINITIALIZED`, without
the clean-up of a failure. -/
def initializeFirst (env : ReceiverEnv ι) : Attempt (ReceiverState σ) Unit := do
  update resetConnection
  initializeStackCommon auth env
  setAMQPState .pendingAuthorization

/-! ### Tear-down -/

/-- `EventHubAMQP_DeInitializeStack` from the return of `messagereceiver_destroy` on: every handle
that is not NULL is destroyed and its field set to NULL. -/
def finishDeInitializeStack (s : ReceiverState σ) : ReceiverState σ :=
  { s with
    client := { s.client with stack := fun _ => none, cbsHandle := none }
    outstandingPuts := 0
    log := s.log ++ [.stackDestroyed] }

/-- `TeardownReceiverStack` from the return of `EventHubAMQP_DeInitializeStack` on. -/
def resetReceiver (s : ReceiverState σ) : ReceiverState σ :=
  { s with
    client := { s.client with
      receiverAMQPConnectionState := .uninitialized
      receiverQueryFilter := none
      callback := { s.client.callback with
        onEventReceiveCallback := none
        wasMessageReceived := false
        onEventReceiveErrorCallback := none }
      startTimestamp := 0
      waitTimeoutInMs := 0
      lastActivityTimestamp := 0
      extRefreshSASToken := none
      state := .inactive }
    log := s.log ++ [.tornDown] }

/-- What follows on `TeardownReceiverStack`. -/
def afterTeardown (s : ReceiverState σ) : AfterTeardown → ReceiverState σ
  | .endReception =>
    match s.client.callback.onEventReceiveEndCallback with
    | some callback => { s with control := .endCb, log := s.log ++ [.ended callback .ok] }
    | none => { s with control := .idle }
  | .resetReception => { s with control := .idle }
  | .destroy => { s with control := .destroyed }

/-- What follows on `EventHubAMQP_DeInitializeStack`. A failed bring-up ends
`EventHubReceiver_LL_DoWork` and leaves `receiverAMQPConnectionState` as it is. -/
def afterDeInitialize (s : ReceiverState σ) : AfterDeInitialize → ReceiverState σ
  | .bringUpFailed => { s.emit [.bringUpFailed] with control := .idle }
  | .teardown after => afterTeardown (resetReceiver s) after

/-- `EventHubAMQP_DeInitializeStack`, up to `messagereceiver_close` if there is a message
receiver. -/
def deInitializeStack (s : ReceiverState σ) (after : AfterDeInitialize) : ReceiverState σ :=
  if (s.client.stack .messageReceiver).isSome then
    { s with control := .uamqp (.messagereceiverDestroy after) }
  else afterDeInitialize (finishDeInitializeStack s) after

/-- `TeardownReceiverStack`. -/
def teardownReceiverStack (s : ReceiverState σ) (after : AfterTeardown) : ReceiverState σ :=
  deInitializeStack s (.teardown after)

/-! ### Authentication -/

/-- The branch of `HandleSASTokenAuth` for `EVENTHUBAUTH_STATUS_REFRESH_REQUIRED`. -/
def refreshAuto (s : ReceiverState σ) (a : σ) (env : ReceiverEnv ι) :
    ReceiverState σ × AuthOutcome :=
  let x := auth.refresh a none env.put
  ((s.passCBS .eventHubAuthCBSRefresh).answer x, if x.value = .ok then .done else .failed)

/-- The branch of `HandleSASTokenAuth` for `EVENTHUBAUTH_STATUS_IDLE`. -/
def authenticateFirst (s : ReceiverState σ) (a : σ) (env : ReceiverEnv ι) :
    ReceiverState σ × AuthOutcome :=
  let x := auth.authenticate a env.put
  ((s.passCBS .eventHubAuthCBSAuthenticate).answer x,
    if x.value = .ok then .inProgress else .failed)

/-- An authorised receiver may create its link. -/
def proceed (s : ReceiverState σ) : ReceiverState σ :=
  if s.client.receiverAMQPConnectionState = .pendingAuthorization then
    { s with client := { s.client with receiverAMQPConnectionState := .pendingReceiverCreate } }
  else s

/-- The branch of `HandleSASTokenAuth` for `EVENTHUBAUTH_STATUS_OK`. -/
def refreshExtOrProceed (s : ReceiverState σ) (a : σ) (env : ReceiverEnv ι) :
    ReceiverState σ × AuthOutcome :=
  match s.client.extRefreshSASToken with
  | some token =>
    if s.client.connectionParams.credential = .sasTokenExt then
      let x := auth.refresh a (some token) env.put
      let s := (s.passCBS .eventHubAuthCBSRefresh).answer x
      ({ s with client := { s.client with extRefreshSASToken := none } },
        if x.value = .ok then .done else .failed)
    else (proceed s, .done)
  | none => (proceed s, .done)

/-- The branches of `HandleSASTokenAuth` on the status. -/
def onStatus (s : ReceiverState σ) (a : σ) (env : ReceiverEnv ι) :
    EventHubAuthStatus → ReceiverState σ × AuthOutcome
  | .failure => (s, .failed)
  | .expired => (s, .failed)
  | .timeout => (s, .timeout)
  | .inProgress => (s, .inProgress)
  | .refreshRequired => refreshAuto auth s a env
  | .idle => authenticateFirst auth s a env
  | .ok => refreshExtOrProceed auth s a env

/-- `HandleSASTokenAuth`. -/
def handleSASTokenAuth (s : ReceiverState σ) (env : ReceiverEnv ι) :
    ReceiverState σ × AuthOutcome :=
  match s.client.cbsHandle with
  | none => (s.passCBS .eventHubAuthCBSGetStatus, .failed)
  | some a =>
    let x := auth.getStatus a env.status
    let s := (s.passCBS .eventHubAuthCBSGetStatus).answer x
    if x.value.1 ≠ .ok then (s, .failed) else onStatus auth s x.handle env x.value.2

end EventHubReceiverLL

end EventHubs
