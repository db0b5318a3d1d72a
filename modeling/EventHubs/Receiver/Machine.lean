import EventHubs.Library.Machine
import EventHubs.Receiver.Message
import EventHubs.Receiver.Stack

/-!
# The low-level receiver as a machine

The public functions of `eventhubreceiver_ll.c` and the callbacks that uAMQP calls, one step for
each stretch of code between two points at which another party can act. The user may call the
public functions between calls and from inside callbacks, `EventHubReceiver_LL_DoWork` and
`EventHubReceiver_LL_Destroy` only between calls. While a call to uAMQP lasts and there is a
message receiver, uAMQP may deliver a message or announce a state of the message receiver, and, in
`connection_dowork`, complete a put.

## Main definitions

* `ReceiverInput` — the calls, and the events of the environment.
* `EventHubReceiverLL.receiveAsyncCommon`, `EventHubReceiverLL.receiveEndAsync`,
  `EventHubReceiverLL.refreshSASTokenAsync`, `EventHubReceiverLL.setConnectionTracing`,
  `EventHubReceiverLL.doWork`, `EventHubReceiverLL.onMessageReceived`,
  `EventHubReceiverLL.onStateChanged`, `EventHubReceiverLL.destroy`.
* `EventHubReceiverLL.receiverMachine`.
-/

namespace EventHubs

/-- What the environment contributes to a receive call: the tick, and whether the filter string can
be made. -/
structure ReceiveEnv where
  tick : Option UInt64 := some 0
  constructs : Bool := true

/-- The calls of the user and the events of the environment. -/
inductive ReceiverInput (ι : Type)
  | receiveFromStartTimestampAsync (onReceive onError : Option UserCallback)
      (startTimestampInSec : UInt64) (env : ReceiveEnv)
  | receiveFromStartTimestampWithTimeoutAsync (onReceive onError : Option UserCallback)
      (startTimestampInSec : UInt64) (waitTimeoutInMs : UInt32) (env : ReceiveEnv)
  | receiveEndAsync (onEnd : Option UserCallback)
  | refreshSASTokenAsync (token : Option String) (env : RefreshEnv)
  | setConnectionTracing (traceEnabled : Bool)
  | doWork (env : ReceiverEnv ι)
  | destroy
  | onMessageReceived (message : ReceivedMessage) (env : DecodeEnv)
  | onStateChanged (newState previousState : MessageReceiverState)
  | onCBSPutTokenOperationComplete (r : CBSOperationResult) (env : ι)
  /-- The present call to uAMQP returns, successfully or not. -/
  | uamqpReturn (ok : Bool) (env : ReceiverEnv ι)
  /-- The present callback of the user returns. -/
  | callbackReturn

namespace EventHubReceiverLL

variable {σ ι : Type} (auth : AuthModule σ ι)

/-! ### Public functions -/

/-- `EventHubConnectionAMQP_CreateStartTimeFilter`. -/
def createStartTimeFilter (startTimestampInSec : UInt64) : String :=
  "amqp.annotation.x-opt-enqueuedtimeutc > " ++ toString startTimestampInSec

/-- A receive call has succeeded: the reception is set up. -/
def start (c : EventHubReceiverLL σ) (onReceive onError : UserCallback) (startTimestamp : UInt64)
    (waitTimeoutInMs : UInt32) : EventHubReceiverLL σ :=
  { c with
    receiverQueryFilter := some (createStartTimeFilter startTimestamp)
    state := .active
    callback :=
      { onEventReceiveCallback := some onReceive
        wasMessageReceived := false
        onEventReceiveErrorCallback := some onError
        onEventReceiveEndCallback := none }
    startTimestamp := startTimestamp
    waitTimeoutInMs := waitTimeoutInMs }

/-- `EHR_LL_ReceiveAsyncCommon`. -/
def receiveAsyncCommon (s : ReceiverState σ) (onReceive onError : Option UserCallback)
    (startTimestampInSec : UInt64) (waitTimeoutInMs : UInt32) (env : ReceiveEnv) :
    EventHubReceiverResult × ReceiverState σ :=
  match onReceive, onError with
  | some onReceive, some onError =>
    if s.client.state ≠ .inactive then (.notAllowed, s)
    else
      let startTimestamp := startTimestampInSec * 1000
      if waitTimeoutInMs ≠ 0 && env.tick.isNone then (.error, s)
      else
        let s := if waitTimeoutInMs = 0 then s
          else { s with client := { s.client with lastActivityTimestamp := env.tick.getD 0 } }
        if !env.constructs then
          (.error, { s with client := { s.client with receiverQueryFilter := none } })
        else
          (.ok, { s with
            client := start s.client onReceive onError startTimestamp waitTimeoutInMs
            log := s.log ++ [.started onReceive onError] })
  | _, _ => (.invalidArg, s)

/-- `EventHubReceiver_LL_ReceiveFromStartTimestampAsync`. -/
def receiveFromStartTimestampAsync (s : ReceiverState σ) (onReceive onError : Option UserCallback)
    (startTimestampInSec : UInt64) (env : ReceiveEnv) : EventHubReceiverResult × ReceiverState σ :=
  receiveAsyncCommon s onReceive onError startTimestampInSec 0 env

/-- `EventHubReceiver_LL_ReceiveFromStartTimestampWithTimeoutAsync`. -/
def receiveFromStartTimestampWithTimeoutAsync (s : ReceiverState σ)
    (onReceive onError : Option UserCallback) (startTimestampInSec : UInt64)
    (waitTimeoutInMs : UInt32) (env : ReceiveEnv) : EventHubReceiverResult × ReceiverState σ :=
  receiveAsyncCommon s onReceive onError startTimestampInSec waitTimeoutInMs env

/-- `EventHubReceiver_LL_ReceiveEndAsync`. -/
def receiveEndAsync (s : ReceiverState σ) (onEnd : Option UserCallback) :
    EventHubReceiverResult × ReceiverState σ :=
  if s.client.state ≠ .active then (.notAllowed, s)
  else
    (.ok, { s with
      client := { s.client with
        state := .inactivePending
        callback := { s.client.callback with onEventReceiveEndCallback := onEnd } }
      log := s.log ++ [.ending onEnd] })

/-- `EventHubReceiver_LL_RefreshSASTokenAsync`. -/
def refreshSASTokenAsync (s : ReceiverState σ) (token : Option String) (env : RefreshEnv) :
    EventHubReceiverResult × ReceiverState σ :=
  match token with
  | none => (.invalidArg, s)
  | some token =>
    match s.client.connectionParams.extSASTokenConfig with
    | none => (.notAllowed, s)
    | some config =>
      if s.client.state ≠ .active then (.notAllowed, s)
      else if s.client.extRefreshSASToken.isSome then (.notAllowed, s)
      else
        match env.parsed with
        | none => (.error, s)
        | some cfg =>
          if cfg.extSASTokenURI ≠ config.extSASTokenURI then (.error, s)
          else if !env.constructs then (.error, s)
          else
            (.ok, { s with
              client := { s.client with extRefreshSASToken := some token }
              log := s.log ++ [.refreshAccepted token] })

/-- `EventHubReceiver_LL_SetConnectionTracing`. -/
def setConnectionTracing (s : ReceiverState σ) (traceEnabled : Bool) : ReceiverState σ :=
  let s := { s with client := { s.client with connectionTracing := traceEnabled } }
  if s.client.receiverAMQPConnectionState ≠ .uninitialized then
    s.pass .connectionSetTrace .connection
  else s

/-! ### `EventHubReceiver_LL_DoWork` -/

/-- `EventHubConnectionAMQP_ConnectionDoWork`. -/
def connectionDoWork (s : ReceiverState σ) (poll : Bool) : ReceiverState σ :=
  if s.client.receiverAMQPConnectionState ≠ .uninitialized then
    { s.pass .connectionDowork .connection with control := .uamqp (.connectionDowork poll) }
  else { s with control := .idle }

/-- Call the error callback without testing it for NULL, then tear the stack down. -/
def raise (s : ReceiverState σ) (r : EventHubReceiverResult) : ReceiverState σ :=
  match s.client.callback.onEventReceiveErrorCallback with
  | none => { s with control := .undefinedBehaviour }
  | some callback =>
    { s with
      control := .errorCb .teardown
      log := s.log ++ [.errorRaised callback r] }

/-- `EventHubReceiver_LL_DoWork` after `HandleSASTokenAuth`. -/
def afterAuth (s : ReceiverState σ) : AuthOutcome → ReceiverState σ
  | .failed => raise s .sasTokenAuthFailure
  | .timeout => raise s .sasTokenAuthTimeout
  | .inProgress => connectionDoWork s false
  | .done =>
    if s.client.receiverAMQPConnectionState = .initialized then connectionDoWork s true
    else { s with control := .idle }

/-- `EventHubReceiver_LL_DoWork` after the bring-up. -/
def doWorkInitialized (s : ReceiverState σ) (env : ReceiverEnv ι) : ReceiverState σ :=
  let x := handleSASTokenAuth auth s env
  afterAuth x.1 x.2

/-- `EventHubReceiver_LL_DoWork` for an active reception, up to `messagereceiver_open`. -/
def doWorkActive (s : ReceiverState σ) (env : ReceiverEnv ι) : ReceiverState σ :=
  match s.client.receiverAMQPConnectionState with
  | .uninitialized =>
    match initializeFirst auth env s with
    | (none, s) => deInitializeStack s .bringUpFailed
    | (some _, s) => doWorkInitialized auth s env
  | .pendingReceiverCreate =>
    match initializeStackReceiver env s with
    | (none, s) => deInitializeStack s .bringUpFailed
    | (some _, s) => { s with control := .uamqp .messagereceiverOpen }
  | _ => doWorkInitialized auth s env

/-- `EventHubReceiver_LL_DoWork`. -/
def doWork (s : ReceiverState σ) (env : ReceiverEnv ι) : ReceiverState σ :=
  let s := s.emit [.doWork]
  match s.client.state with
  | .inactivePending => teardownReceiverStack s .endReception
  | .active => doWorkActive auth s env
  | .inactive => s

/-- `EventHubReceiver_LL_DoWork` after `messagereceiver_open`. A failing tick leaves the handles and
`receiverAMQPConnectionState` as they are. -/
def afterOpen (s : ReceiverState σ) (ok : Bool) (env : ReceiverEnv ι) : ReceiverState σ :=
  if !ok then deInitializeStack s .bringUpFailed
  else if s.client.waitTimeoutInMs = 0 then
    doWorkInitialized auth
      { s with client := { s.client with receiverAMQPConnectionState := .initialized } } env
  else
    match env.tick with
    | none => { s.emit [.bringUpFailed] with control := .idle }
    | some tick =>
      doWorkInitialized auth
        { s with
          client := { s.client with
            lastActivityTimestamp := tick
            receiverAMQPConnectionState := .initialized } } env

/-- The end of `EventHubReceiver_LL_DoWork` on an initialised stack. -/
def finishPoll (s : ReceiverState σ) : ReceiverState σ :=
  { s.setCallback fun c => { c with wasMessageReceived := false } with control := .idle }

/-- Write `lastActivityTimestamp`. -/
def touch (s : ReceiverState σ) (nowTimestamp : UInt64) : ReceiverState σ :=
  { s with client := { s.client with lastActivityTimestamp := nowTimestamp } }

/-- `EventHubReceiver_LL_DoWork` after the `connection_dowork` of an initialised stack. -/
def handleTimeouts (s : ReceiverState σ) (tick : Option UInt64) : ReceiverState σ :=
  if s.client.waitTimeoutInMs = 0 then finishPoll s
  else
    match tick with
    | none => finishPoll s
    | some nowTimestamp =>
      if s.client.callback.wasMessageReceived then finishPoll (touch s nowTimestamp)
      else if s.client.waitTimeoutInMs.toUInt64 ≤
          nowTimestamp - s.client.lastActivityTimestamp then
        match s.client.callback.onEventReceiveCallback with
        | none => finishPoll (touch s nowTimestamp)
        | some callback =>
          { s with control := .timeoutCb nowTimestamp, log := s.log ++ [.timedOut callback] }
      else finishPoll s

/-! ### Callbacks -/

/-- `EHR_LL_OnMessageReceived`, inside a call to uAMQP. The receive callback is called without a
test for NULL. -/
def onMessageReceived (s : ReceiverState σ) (message : ReceivedMessage) (env : DecodeEnv)
    (call : ReceiverUamqpCall) : ReceiverState σ :=
  match decodeMessage env message with
  | none => s.emit [.answered false]
  | some event =>
    match s.client.callback.onEventReceiveCallback with
    | none => { s with control := .undefinedBehaviour }
    | some callback =>
      { s.setCallback fun c => { c with wasMessageReceived := true } with
        control := .receiveCb call
        log := s.log ++ [.received callback event] }

/-- `EHR_LL_OnStateChanged`, inside a call to uAMQP. -/
def onStateChanged (s : ReceiverState σ) (newState previousState : MessageReceiverState)
    (call : ReceiverUamqpCall) : ReceiverState σ :=
  if newState ≠ previousState ∧ newState = .error then
    match s.client.callback.onEventReceiveErrorCallback with
    | none => s
    | some callback =>
      { s with
        control := .errorCb (.uamqp call)
        log := s.log ++ [.errorRaised callback .connectionRuntimeError] }
  else s

/-- `OnCBSPutTokenOperationComplete` on the present auth handle. -/
def onCBSPutTokenOperationComplete (s : ReceiverState σ) (a : σ) (r : CBSOperationResult)
    (env : ι) : ReceiverState σ :=
  let s := s.answer (auth.onCBSPutTokenOperationComplete a r env)
  { s with outstandingPuts := s.outstandingPuts - 1 }

/-! ### Returns -/

/-- A call to uAMQP returns. -/
def uamqpReturn (s : ReceiverState σ) (ok : Bool) (env : ReceiverEnv ι) :
    ReceiverUamqpCall → ReceiverState σ
  | .messagereceiverOpen => afterOpen auth s ok env
  | .connectionDowork poll =>
    if poll then handleTimeouts s env.tick else { s with control := .idle }
  | .messagereceiverDestroy after => afterDeInitialize (finishDeInitializeStack s) after

/-- The error callback returns. -/
def errorReturn (s : ReceiverState σ) : AfterReceiverErrorCb → ReceiverState σ
  | .uamqp call => { s with control := .uamqp call }
  | .teardown => teardownReceiverStack s .resetReception

/-- The end callback returns. -/
def endReturn (s : ReceiverState σ) : ReceiverState σ :=
  { s.setCallback fun c => { c with onEventReceiveEndCallback := none } with control := .idle }

/-- `EventHubReceiver_LL_Destroy` up to the end of `TeardownReceiverStack`. -/
def destroy (s : ReceiverState σ) : ReceiverState σ :=
  teardownReceiverStack { s with destroying := true, log := s.log ++ [.destroying] } .destroy

/-! ### The machine -/

/-- Whether the user may call the public functions: between calls, or inside one of the callbacks,
and not once `EventHubReceiver_LL_Destroy` has been called. -/
def mayCall (s : ReceiverState σ) : Bool :=
  !s.destroying &&
  match s.control with
  | .idle => true
  | .receiveCb _ => true
  | .timeoutCb _ => true
  | .errorCb _ => true
  | .endCb => true
  | _ => false

/-- One step of a receiver; `none` when the input cannot occur. -/
def step (s : ReceiverState σ) (i : ReceiverInput ι) : Option (ReceiverState σ) :=
  match i with
  | .receiveFromStartTimestampAsync onReceive onError timestamp env =>
    if mayCall s then
      some (receiveFromStartTimestampAsync s onReceive onError timestamp env).2
    else none
  | .receiveFromStartTimestampWithTimeoutAsync onReceive onError timestamp timeout env =>
    if mayCall s then
      some (receiveFromStartTimestampWithTimeoutAsync s onReceive onError timestamp timeout env).2
    else none
  | .receiveEndAsync onEnd => if mayCall s then some (receiveEndAsync s onEnd).2 else none
  | .refreshSASTokenAsync token env =>
    if mayCall s then some (refreshSASTokenAsync s token env).2 else none
  | .setConnectionTracing on => if mayCall s then some (setConnectionTracing s on) else none
  | .doWork env => if s.control = .idle && !s.destroying then some (doWork auth s env) else none
  | .destroy => if s.control = .idle && !s.destroying then some (destroy s) else none
  | .onMessageReceived message env =>
    match s.control with
    | .uamqp call =>
      if (s.client.stack .messageReceiver).isSome then
        some (onMessageReceived s message env call)
      else none
    | _ => none
  | .onStateChanged newState previousState =>
    match s.control with
    | .uamqp call =>
      if (s.client.stack .messageReceiver).isSome then
        some (onStateChanged s newState previousState call)
      else none
    | _ => none
  | .onCBSPutTokenOperationComplete r env =>
    match s.control, s.client.cbsHandle with
    | .uamqp (.connectionDowork _), some a =>
      if 0 < s.outstandingPuts then some (onCBSPutTokenOperationComplete auth s a r env) else none
    | _, _ => none
  | .uamqpReturn ok env =>
    match s.control with
    | .uamqp call => some (uamqpReturn auth s ok env call)
    | _ => none
  | .callbackReturn =>
    match s.control with
    | .receiveCb call => some { s.emit [.answered true] with control := .uamqp call }
    | .timeoutCb nowTimestamp => some (finishPoll (touch s nowTimestamp))
    | .errorCb after => some (errorReturn s after)
    | .endCb => some (endReturn s)
    | _ => none

/-- The low-level receiver over an authentication module. -/
def receiverMachine : Machine (ReceiverState σ) (ReceiverInput ι) where
  step := step auth

/-- Whether an input is a receive call. -/
def receives : ReceiverInput ι → Bool
  | .receiveFromStartTimestampAsync _ _ _ _ => true
  | .receiveFromStartTimestampWithTimeoutAsync _ _ _ _ _ => true
  | _ => false

/-- What a step can be. -/
inductive Move (s : ReceiverState σ) : ReceiverInput ι → ReceiverState σ → Prop
  | receiveAsync {i : ReceiverInput ι} (onReceive onError : Option UserCallback)
      (startTimestampInSec : UInt64) (waitTimeoutInMs : UInt32) (env : ReceiveEnv)
      (hmay : mayCall s) (hi : receives i = true) :
    Move s i (receiveAsyncCommon s onReceive onError startTimestampInSec waitTimeoutInMs env).2
  | receiveEndAsync (onEnd : Option UserCallback) (hmay : mayCall s) :
    Move s (.receiveEndAsync onEnd) (receiveEndAsync s onEnd).2
  | refreshSASTokenAsync (token : Option String) (env : RefreshEnv) (hmay : mayCall s) :
    Move s (.refreshSASTokenAsync token env) (refreshSASTokenAsync s token env).2
  | setConnectionTracing (traceEnabled : Bool) (hmay : mayCall s) :
    Move s (.setConnectionTracing traceEnabled) (setConnectionTracing s traceEnabled)
  | doWork (env : ReceiverEnv ι) (hidle : s.control = .idle) (hopen : s.destroying = false) :
    Move s (.doWork env) (doWork auth s env)
  | destroy (hidle : s.control = .idle) (hopen : s.destroying = false) :
    Move s .destroy (destroy s)
  | onMessageReceived {call : ReceiverUamqpCall} (message : ReceivedMessage) (env : DecodeEnv)
      (hcall : s.control = .uamqp call) (hreceiver : (s.client.stack .messageReceiver).isSome) :
    Move s (.onMessageReceived message env) (onMessageReceived s message env call)
  | onStateChanged {call : ReceiverUamqpCall} (newState previousState : MessageReceiverState)
      (hcall : s.control = .uamqp call) (hreceiver : (s.client.stack .messageReceiver).isSome) :
    Move s (.onStateChanged newState previousState) (onStateChanged s newState previousState call)
  | onCBSPutTokenOperationComplete {poll : Bool} {a : σ} (r : CBSOperationResult) (env : ι)
      (hcall : s.control = .uamqp (.connectionDowork poll)) (ha : s.client.cbsHandle = some a)
      (hputs : 0 < s.outstandingPuts) :
    Move s (.onCBSPutTokenOperationComplete r env) (onCBSPutTokenOperationComplete auth s a r env)
  | uamqpReturn {call : ReceiverUamqpCall} (ok : Bool) (env : ReceiverEnv ι)
      (hcall : s.control = .uamqp call) :
    Move s (.uamqpReturn ok env) (uamqpReturn auth s ok env call)
  | receiveReturn {call : ReceiverUamqpCall} (hreceive : s.control = .receiveCb call) :
    Move s .callbackReturn { s.emit [.answered true] with control := .uamqp call }
  | timeoutReturn {nowTimestamp : UInt64} (htimeout : s.control = .timeoutCb nowTimestamp) :
    Move s .callbackReturn (finishPoll (touch s nowTimestamp))
  | errorReturn {after : AfterReceiverErrorCb} (herror : s.control = .errorCb after) :
    Move s .callbackReturn (errorReturn s after)
  | endReturn (hend : s.control = .endCb) : Move s .callbackReturn (endReturn s)

theorem step_move {s t : ReceiverState σ} {i : ReceiverInput ι} (h : step auth s i = some t) :
    Move auth s i t := by
  cases i with
  | receiveFromStartTimestampAsync onReceive onError timestamp env =>
    obtain ⟨hmay, ⟨⟩⟩ := Option.ite_none_right_eq_some.mp h
    exact .receiveAsync onReceive onError timestamp 0 env hmay rfl
  | receiveFromStartTimestampWithTimeoutAsync onReceive onError timestamp timeout env =>
    obtain ⟨hmay, ⟨⟩⟩ := Option.ite_none_right_eq_some.mp h
    exact .receiveAsync onReceive onError timestamp timeout env hmay rfl
  | receiveEndAsync onEnd =>
    obtain ⟨hmay, ⟨⟩⟩ := Option.ite_none_right_eq_some.mp h
    exact .receiveEndAsync onEnd hmay
  | refreshSASTokenAsync token env =>
    obtain ⟨hmay, ⟨⟩⟩ := Option.ite_none_right_eq_some.mp h
    exact .refreshSASTokenAsync token env hmay
  | setConnectionTracing on =>
    obtain ⟨hmay, ⟨⟩⟩ := Option.ite_none_right_eq_some.mp h
    exact .setConnectionTracing on hmay
  | doWork env =>
    obtain ⟨hidle, ⟨⟩⟩ := Option.ite_none_right_eq_some.mp h
    obtain ⟨hcontrol, hopen⟩ : s.control = .idle ∧ s.destroying = false := by simpa using hidle
    exact .doWork env hcontrol hopen
  | destroy =>
    obtain ⟨hidle, ⟨⟩⟩ := Option.ite_none_right_eq_some.mp h
    obtain ⟨hcontrol, hopen⟩ : s.control = .idle ∧ s.destroying = false := by simpa using hidle
    exact .destroy hcontrol hopen
  | onMessageReceived message env =>
    cases hc : s.control <;>
      simp only [step, hc, reduceCtorEq, Option.ite_none_right_eq_some] at h
    obtain ⟨hreceiver, ⟨⟩⟩ := h
    exact .onMessageReceived message env hc hreceiver
  | onStateChanged newState previousState =>
    cases hc : s.control <;>
      simp only [step, hc, reduceCtorEq, Option.ite_none_right_eq_some] at h
    obtain ⟨hreceiver, ⟨⟩⟩ := h
    exact .onStateChanged newState previousState hc hreceiver
  | onCBSPutTokenOperationComplete r env =>
    simp only [step] at h
    split at h
    · next poll a hc ha =>
      obtain ⟨hputs, ⟨⟩⟩ := Option.ite_none_right_eq_some.mp h
      exact .onCBSPutTokenOperationComplete r env hc ha hputs
    · cases h
  | uamqpReturn ok env =>
    cases hc : s.control <;> simp only [step, hc, reduceCtorEq, Option.some.injEq] at h
    subst h
    exact .uamqpReturn ok env hc
  | callbackReturn =>
    cases hc : s.control <;> simp only [step, hc, reduceCtorEq, Option.some.injEq] at h
    · exact h ▸ .receiveReturn hc
    · exact h ▸ .timeoutReturn hc
    · exact h ▸ .errorReturn hc
    · exact h ▸ .endReturn hc

/-- A receiver as `EventHubReceiver_LL_Create` leaves it. -/
def createdFromConnectionString (hostName eventHubPath keyName keyValue consumerGroup partitionId
    : String) : EventHubReceiverLL σ :=
  { connectionParams :=
      { hostName := some hostName
        eventHubPath := some eventHubPath
        eventHubSharedAccessKeyName := some keyName
        eventHubSharedAccessKey := some keyValue
        targetAddress := some (eventHubPath ++ "/ConsumerGroups/" ++ consumerGroup ++
          "/Partitions/" ++ partitionId)
        consumerGroup := some consumerGroup
        partitionId := some partitionId
        credential := .sasTokenAuto } }

/-- A receiver as `EventHubReceiver_LL_CreateFromSASToken` leaves it. -/
def createdFromSASToken (config : EventHubAuthCBSConfig) : EventHubReceiverLL σ :=
  { connectionParams :=
      { hostName := config.hostName
        eventHubPath := config.eventHubPath
        targetAddress := some (config.eventHubPath.getD "" ++ "/ConsumerGroups/" ++
          config.receiverConsumerGroup.getD "" ++ "/Partitions/" ++
          config.receiverPartitionId.getD "")
        consumerGroup := config.receiverConsumerGroup
        partitionId := config.receiverPartitionId
        credential := .sasTokenExt
        extSASTokenConfig := some config } }

/-- The receivers that the two creation functions return. -/
inductive Created : EventHubReceiverLL σ → Prop
  | fromConnectionString (hostName eventHubPath keyName keyValue consumerGroup partitionId
      : String) :
    Created (createdFromConnectionString hostName eventHubPath keyName keyValue consumerGroup
      partitionId)
  | fromSASToken (config : EventHubAuthCBSConfig) (hmode : config.mode = .receiver) :
    Created (createdFromSASToken config)

end EventHubReceiverLL

end EventHubs
