import EventHubs.Library.Attempt
import EventHubs.Sender.State

/-!
# The uAMQP stack of the sender

Bringing the stack up in two phases, authenticating on it, and taking it down. The bring-up
functions stop at their first failing call and leave the clean-up to `destroyUamqpStack`, which
may run callbacks of the user inside `messagesender_destroy` before it frees the handles.

## Main definitions

* `SenderCall`, `DoWorkEnv` — the outside.
* `initializeUamqpStackCommon`, `createSASToken`, `initializeUamqpSenderStack`,
  `initializeUamqpStack`.
* `handleSASTokenAuth`, `destroyUamqpStack`, `finishDestroyUamqpStack`.
-/

namespace EventHubs

/-- The calls of the bring-up that can fail. -/
inductive SenderCall
  | cStrHostName
  | saslmssbcbsGetInterface
  | saslmechanismCreate
  | platformGetDefaultTlsio
  | xioCreateTLS
  | saslclientioGetInterfaceDescription
  | xioCreateSASL
  | connectionCreate
  | sessionCreate
  | sessionSetOutgoingWindow
  | cStrTargetAddress
  | messagingCreateSource
  | messagingCreateTarget
  | linkCreate
  | linkSetSndSettleMode
  | linkSetMaxMessageSize
  | messagesenderCreate
  deriving DecidableEq, Repr

/-- What the environment contributes to one `EventHubClient_LL_DoWork` up to its loop: the outcomes
of the bring-up calls, and a share for each call on the auth handle. -/
structure DoWorkEnv (ι : Type) where
  succeeds : SenderCall → Bool := fun _ => true
  create : ι
  status : ι
  put : ι

namespace EventHubClientLL

open Attempt

variable {σ ι : Type} (auth : AuthModule σ ι)

/-! ### Bring-up -/

/-- A creating call, stored in a field of the stack. -/
def createHandle (env : DoWorkEnv ι) (call : SenderCall) (field : StackField) :
    Attempt (SenderState σ) Unit := fun s =>
  if env.succeeds call then
    (some (), { s.store field (some s.nextHandle) with nextHandle := s.nextHandle + 1 })
  else (none, s.store field none)

/-- Give a handle of the stack to a call. -/
def passHandle (call : StackCall) (field : StackField) : Attempt (SenderState σ) Unit :=
  update fun s => s.pass call field

/-- `AUTH_EXPIRATION_SECS`. -/
def authExpirationSecs : UInt32 := 60 * 60

/-- `AUTH_REFRESH_SECS`. -/
def authRefreshSecs : UInt32 := 48 * 60

/-- `INT_MAX`. -/
def intMax : UInt32 := 2147483647

/-- The put timeout that `create_sas_token` derives from `msg_timeout`. -/
def authTimeout (c : EventHubClientLL σ) : UInt32 :=
  if c.msgTimeout < intMax.toUInt64 then c.msgTimeout.toUInt32 else intMax

/-- The configuration that `create_sas_token` gives to `EventHubAuthCBS_Create`. A client made
from a SAS token has the configuration that was parsed from it. -/
def authConfig (c : EventHubClientLL σ) : Option EventHubAuthCBSConfig :=
  if c.credential = .sasTokenAuto then
    some {
      hostName := c.hostName
      eventHubPath := c.eventHubPath
      sharedAccessKeyName := c.keyName
      sharedAccessKey := c.keyValue
      credential := c.credential
      senderPublisherId := c.senderPublisherId
      mode := .sender
      sasTokenAuthFailureTimeoutInSecs := authTimeout c
      sasTokenExpirationTimeInSec := authExpirationSecs
      sasTokenRefreshPeriodInSecs := authRefreshSecs
      receiverConsumerGroup := none
      receiverPartitionId := none
      extSASToken := none
      extSASTokenURI := none
      extSASTokenExpTSInEpochSec := 0 }
  else
    c.extSASTokenParseConfig.map fun cfg =>
      { cfg with sasTokenAuthFailureTimeoutInSecs := authTimeout c }

/-- The change that `create_sas_token` makes to the parsed configuration. -/
def writeAuthTimeout (c : EventHubClientLL σ) : EventHubClientLL σ :=
  if c.credential = .sasTokenAuto then c
  else { c with extSASTokenParseConfig := authConfig c }

/-- `create_sas_token`. -/
def createSASToken (env : DoWorkEnv ι) : Attempt (SenderState σ) Unit := do
  update fun s => { s with client := writeAuthTimeout s.client }
  passHandle .eventHubAuthCBSCreate .session
  let s ← read id
  let a := (authConfig s.client).bind fun cfg =>
    auth.create cfg (s.client.stack .session) env.create
  update fun s => s.storeCBS a
  check a.isSome

/-- `initialize_uamqp_stack_common` without its clean-up. -/
def initializeUamqpStackCommon (env : DoWorkEnv ι) : Attempt (SenderState σ) Unit := do
  check (env.succeeds .cStrHostName)
  check (env.succeeds .saslmssbcbsGetInterface)
  createHandle env .saslmechanismCreate .saslMechanismHandle
  check (env.succeeds .platformGetDefaultTlsio)
  createHandle env .xioCreateTLS .tlsIo
  check (env.succeeds .saslclientioGetInterfaceDescription)
  passHandle .xioCreateSASL .tlsIo
  passHandle .xioCreateSASL .saslMechanismHandle
  createHandle env .xioCreateSASL .saslIo
  passHandle .connectionCreate .saslIo
  createHandle env .connectionCreate .connection
  passHandle .connectionSetTrace .connection
  passHandle .sessionCreate .connection
  createHandle env .sessionCreate .session
  passHandle .sessionSetOutgoingWindow .session
  check (env.succeeds .sessionSetOutgoingWindow)
  createSASToken auth env

/-- `initialize_uamqp_sender_stack` without its clean-up. -/
def initializeUamqpSenderStack (env : DoWorkEnv ι) : Attempt (SenderState σ) Unit := do
  check (env.succeeds .cStrTargetAddress)
  check (env.succeeds .messagingCreateSource)
  check (env.succeeds .messagingCreateTarget)
  passHandle .linkCreate .session
  createHandle env .linkCreate .link
  passHandle .linkSetSndSettleMode .link
  check (env.succeeds .linkSetSndSettleMode)
  passHandle .linkSetMaxMessageSize .link
  check (env.succeeds .linkSetMaxMessageSize)
  passHandle .messagesenderCreate .link
  createHandle env .messagesenderCreate .messageSender

/-- Write `amqp_state`. -/
def setAMQPState (state : EventHubClientAMQPState) : Attempt (SenderState σ) Unit :=
  update fun s => { s with client := { s.client with amqpState := state } }

/-- Write `message_sender_state`. -/
def setMessageSenderState (state : MessageSenderState) : Attempt (SenderState σ) Unit :=
  update fun s => { s with client := { s.client with messageSenderState := state } }

/-- The first phase of `initialize_uamqp_stack`. -/
def initializeFirst (env : DoWorkEnv ι) : Attempt (SenderState σ) Unit := do
  setMessageSenderState .idle
  initializeUamqpStackCommon auth env
  setAMQPState .pendingAuthorization

/-- The second phase of `initialize_uamqp_stack`. -/
def initializeSecond (env : DoWorkEnv ι) : Attempt (SenderState σ) Unit := do
  initializeUamqpSenderStack env
  setAMQPState .initialized

/-- `initialize_uamqp_stack` in one of the two states in which `EventHubClient_LL_DoWork` calls it,
without the clean-up of a failure. -/
def initializeUamqpStack (env : DoWorkEnv ι) : Attempt (SenderState σ) Unit := fun s =>
  if s.client.amqpState = .uninitialized then initializeFirst auth env s
  else initializeSecond env s

/-! ### Tear-down -/

/-- `destroy_uamqp_stack` from the return of `messagesender_destroy` on: every handle that is not
NULL is destroyed and its field set to NULL. -/
def finishDestroyUamqpStack (s : SenderState σ) : SenderState σ :=
  { s with
    client := { s.client with
      stack := fun _ => none
      cbsHandle := none
      extRefreshSASToken := none
      messageSenderState := .idle
      amqpState := .uninitialized }
    outstandingPuts := 0
    log := s.log ++ [.stackDestroyed] }

/-- What follows on `destroy_uamqp_stack`. -/
def afterDestroyUamqpStack (s : SenderState σ) : AfterDestroy → SenderState σ
  | .initFailed => s.raise .amqpInitFailure .done fun s => { s with control := .idle }
  | .return => { s with control := .idle }
  | .destroy => { s with control := .draining }

/-- `destroy_uamqp_stack`, up to `messagesender_destroy` if there is a message sender. -/
def destroyUamqpStack (s : SenderState σ) (after : AfterDestroy) : SenderState σ :=
  if (s.client.stack .messageSender).isSome then
    { s with control := .uamqp (.messagesenderDestroy after) }
  else afterDestroyUamqpStack (finishDestroyUamqpStack s) after

/-! ### Authentication -/

/-- The branch of `handle_sas_token_auth` for `EVENTHUBAUTH_STATUS_REFRESH_REQUIRED`. -/
def refreshAuto (s : SenderState σ) (a : σ) (env : DoWorkEnv ι) : SenderState σ × AuthOutcome :=
  let x := auth.refresh a none env.put
  ((s.passCBS .eventHubAuthCBSRefresh).answer x, if x.value = .ok then .done else .failed)

/-- The branch of `handle_sas_token_auth` for `EVENTHUBAUTH_STATUS_IDLE`. -/
def authenticateFirst (s : SenderState σ) (a : σ) (env : DoWorkEnv ι) :
    SenderState σ × AuthOutcome :=
  let x := auth.authenticate a env.put
  ((s.passCBS .eventHubAuthCBSAuthenticate).answer x,
    if x.value = .ok then .inProgress else .failed)

/-- The branch of `handle_sas_token_auth` for `EVENTHUBAUTH_STATUS_OK`. -/
def refreshExtOrProceed (s : SenderState σ) (a : σ) (env : DoWorkEnv ι) :
    SenderState σ × AuthOutcome :=
  match s.client.extRefreshSASToken with
  | some token =>
    if s.client.credential = .sasTokenExt then
      let x := auth.refresh a (some token) env.put
      let s := (s.passCBS .eventHubAuthCBSRefresh).answer x
      ({ s with client := { s.client with extRefreshSASToken := none } },
        if x.value = .ok then .done else .failed)
    else (proceed s, .done)
  | none => (proceed s, .done)
where
  /-- An authorised sender may create its link. -/
  proceed (s : SenderState σ) : SenderState σ :=
    if s.client.amqpState = .pendingAuthorization then
      { s with client := { s.client with amqpState := .pendingSenderCreate } }
    else s

/-- The branches of `handle_sas_token_auth` on the status. -/
def onStatus (s : SenderState σ) (a : σ) (env : DoWorkEnv ι) :
    EventHubAuthStatus → SenderState σ × AuthOutcome
  | .failure => (s, .failed)
  | .expired => (s, .failed)
  | .timeout => (s, .timeout)
  | .inProgress => (s, .inProgress)
  | .refreshRequired => refreshAuto auth s a env
  | .idle => authenticateFirst auth s a env
  | .ok => refreshExtOrProceed auth s a env

/-- `handle_sas_token_auth`. -/
def handleSASTokenAuth (s : SenderState σ) (env : DoWorkEnv ι) : SenderState σ × AuthOutcome :=
  match s.client.cbsHandle with
  | none => (s.passCBS .eventHubAuthCBSGetStatus, .failed)
  | some a =>
    let x := auth.getStatus a env.status
    let s := (s.passCBS .eventHubAuthCBSGetStatus).answer x
    if x.value.1 ≠ .ok then (s, .failed) else onStatus auth s x.handle env x.value.2

end EventHubClientLL

end EventHubs
