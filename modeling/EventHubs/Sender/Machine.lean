import EventHubs.Library.Machine
import EventHubs.Sender.Message
import EventHubs.Sender.Stack

/-!
# The low-level sender as a machine

The public functions of `eventhubclient_ll.c` and the callbacks that uAMQP calls, one step for
each stretch of code between two points at which another party can act. The user may call the
public functions between calls and from inside callbacks, `EventHubClient_LL_DoWork` and
`EventHubClient_LL_Destroy` only between calls. While a call to uAMQP lasts, uAMQP may report on
a message it took, announce a state of its message sender, and, in `connection_dowork`, complete a
put.

## Main definitions

* `SenderInput` — the calls, and the events of the environment.
* `EventHubClientLL.sendAsync`, `EventHubClientLL.sendBatchAsync`,
  `EventHubClientLL.refreshSASTokenAsync`, `EventHubClientLL.doWork`, `EventHubClientLL.iterate`,
  `EventHubClientLL.onMessageSendComplete`, `EventHubClientLL.onMessageSenderStateChanged`,
  `EventHubClientLL.destroy`.
* `EventHubClientLL.senderMachine`.
-/

namespace EventHubs

/-- What the environment contributes to a send call: allocations, clones and the tick. -/
structure SendEnv where
  mallocEntry : Bool := true
  mallocList : Bool := true
  clones : Nat → Bool := fun _ => true
  idleTimer : UInt64 := 0

/-- The calls of the user and the events of the environment. -/
inductive SenderInput (ι : Type)
  | sendAsync (event : Option EventData) (callback context : Option Nat) (env : SendEnv)
  | sendBatchAsync (eventDataList : Option (List (Option EventData)))
      (callback context : Option Nat) (env : SendEnv)
  | setMessageTimeout (timeout : UInt64)
  | setStateChangeCallback (callback : Option UserCallback)
  | setErrorCallback (callback : Option UserCallback)
  | setLogTrace (on : Bool)
  | refreshSASTokenAsync (token : Option String) (env : RefreshEnv)
  | doWork (env : DoWorkEnv ι)
  | destroy
  /-- One round of the loop of `EventHubClient_LL_DoWork`. -/
  | iterate (env : BuildEnv) (currentTime : UInt64) (taken : Bool)
  | onMessageSendComplete (n : Nat) (r : MessageSendResult)
  | onMessageSenderStateChanged (newState previousState : MessageSenderState)
  | onCBSPutTokenOperationComplete (r : CBSOperationResult) (env : ι)
  /-- The present call to uAMQP returns, successfully or not. -/
  | uamqpReturn (ok : Bool)
  /-- The present callback of the user returns. -/
  | callbackReturn
  /-- One round of the loop of `EventHubClient_LL_Destroy`. -/
  | drain

namespace EventHubClientLL

variable {σ ι : Type} (auth : AuthModule σ ι)

/-! ### Public functions -/

/-- Queue an entry at the end of `outgoingEvents`. -/
def queue (s : SenderState σ) (eventDataList : List EventData) (callback : Option UserCallback)
    (idleTimer : UInt64) : SenderState σ :=
  { s with
    client := { s.client with
      outgoingEvents := s.client.outgoingEvents ++
        [{ number := s.nextEntry
           eventDataList := eventDataList
           callback := callback
           idleTimer := idleTimer }] }
    nextEntry := s.nextEntry + 1
    lastTick := idleTimer
    log := s.log ++ [.accepted s.nextEntry callback idleTimer] }

/-- `EventHubClient_LL_SendAsync`. -/
def sendAsync (s : SenderState σ) (event : Option EventData) (callback context : Option Nat)
    (env : SendEnv) : EventHubClientResult × SenderState σ :=
  match event with
  | none => (.invalidArg, s)
  | some event =>
    if callback.isNone && context.isSome then (.invalidArg, s)
    else if !env.mallocEntry then (.error, s)
    else if !env.mallocList then (.error, s)
    else if !env.clones 0 then (.error, { s with lastTick := env.idleTimer })
    else (.ok, queue s [event] (callback.map (⟨·, context⟩)) env.idleTimer)

/-- `ValidateEventDataList`: no handle is NULL and all partition keys agree with the first. -/
def validateEventDataList : List (Option EventData) → Option (List EventData)
  | [] => some []
  | first :: rest =>
    match first with
    | none => none
    | some first =>
      if rest.all fun e => match e with
        | none => false
        | some e => e.partitionKey = first.partitionKey then
        some (first :: rest.reduceOption)
      else none

/-- `EventHubClient_LL_SendBatchAsync`. -/
def sendBatchAsync (s : SenderState σ) (eventDataList : Option (List (Option EventData)))
    (callback context : Option Nat) (env : SendEnv) : EventHubClientResult × SenderState σ :=
  match eventDataList with
  | none => (.invalidArg, s)
  | some list =>
    if list.length = 0 || (callback.isNone && context.isSome) then (.invalidArg, s)
    else
      match validateEventDataList list with
      | none => (.error, s)
      | some events =>
        if !env.mallocEntry then (.error, s)
        else if !env.mallocList then (.error, { s with lastTick := env.idleTimer })
        else if (List.range events.length).all env.clones then
          (.ok, queue s events (callback.map (⟨·, context⟩)) env.idleTimer)
        else (.error, { s with lastTick := env.idleTimer })

/-- `EventHubClient_LL_RefreshSASTokenAsync`. -/
def refreshSASTokenAsync (s : SenderState σ) (token : Option String) (env : RefreshEnv) :
    EventHubClientResult × SenderState σ :=
  match token with
  | none => (.invalidArg, s)
  | some token =>
    if s.client.credential ≠ .sasTokenExt then (.error, s)
    else if s.client.amqpState ≠ .initialized then (.error, s)
    else if s.client.extRefreshSASToken.isSome then (.error, s)
    else
      match env.parsed with
      | none => (.error, s)
      | some cfg =>
        if cfg.extSASTokenURI ≠ s.client.extSASTokenParseConfig.bind (·.extSASTokenURI) then
          (.error, s)
        else if !env.constructs then (.error, s)
        else
          (.ok, { s with
            client := { s.client with extRefreshSASToken := some token }
            log := s.log ++ [.refreshAccepted token] })

/-- The setters: `EventHubClient_LL_SetMessageTimeout`,
`EventHubClient_LL_SetStateChangeCallback`, `EventHubClient_LL_SetErrorCallback` and
`EventHubClient_LL_SetLogTrace` change one field of the client. -/
def setField (s : SenderState σ) (f : EventHubClientLL σ → EventHubClientLL σ) : SenderState σ :=
  { s with client := f s.client }

/-! ### `EventHubClient_LL_DoWork` -/

/-- The loop of `EventHubClient_LL_DoWork` begins at the first entry. -/
def startLoop (s : SenderState σ) : SenderState σ :=
  { s with control := .loop (s.client.outgoingEvents.head?.map (·.number)) }

/-- `connection_dowork`. -/
def connectionDowork (s : SenderState σ) : SenderState σ :=
  { s.pass .connectionDowork .connection with control := .uamqp .connectionDowork }

/-- The sending branch of `EventHubClient_LL_DoWork` up to its loop. -/
def openAndSend (s : SenderState σ) : SenderState σ :=
  if s.client.messageSenderState = .idle then
    { s.pass .messagesenderOpen .messageSender with control := .uamqp .messagesenderOpen }
  else startLoop s

/-- `EventHubClient_LL_DoWork` after `handle_sas_token_auth`. -/
def afterAuth (s : SenderState σ) : AuthOutcome → SenderState σ
  | .failed => s.raise .sasTokenAuthFailure .tearDown (destroyUamqpStack · .return)
  | .timeout => s.raise .sasTokenAuthTimeout .tearDown (destroyUamqpStack · .return)
  | .inProgress => connectionDowork s
  | .done =>
    if s.client.amqpState = .initialized then openAndSend s else { s with control := .idle }

/-- `EventHubClient_LL_DoWork` after the bring-up. -/
def doWorkInitialized (s : SenderState σ) (env : DoWorkEnv ι) : SenderState σ :=
  if s.client.messageSenderState = .error then destroyUamqpStack s .return
  else
    let x := handleSASTokenAuth auth s env
    afterAuth x.1 x.2

/-- `EventHubClient_LL_DoWork` up to its loop. -/
def doWork (s : SenderState σ) (env : DoWorkEnv ι) : SenderState σ :=
  let s := s.emit [.doWork]
  if s.client.amqpState = .uninitialized || s.client.amqpState = .pendingSenderCreate then
    match initializeUamqpStack auth env s with
    | (none, s) => destroyUamqpStack s .initFailed
    | (some _, s) => doWorkInitialized auth s env
  else doWorkInitialized auth s env

/-- The test for `EVENTHUBCLIENT_CONFIRMATION_TIMEOUT`. The ticks are milliseconds. -/
def hasTimeout (c : EventHubClientLL σ) (e : EventHubEventList) (currentTime : UInt64) : Bool :=
  0 < c.msgTimeout && c.msgTimeout < (currentTime - e.idleTimer) / 1000

/-- The entry is given to `messagesender_send_async`. -/
def handOver (s : SenderState σ) (e : EventHubEventList) (message : AMQPMessage) (taken : Bool) :
    SenderState σ :=
  let next := s.flink e.number
  let s := (s.waitForAck e.number).pass .messagesenderSendAsync .messageSender
  { s with
    control := .uamqp (.messagesenderSendAsync e.number next taken)
    inFlight := if taken then e.number :: s.inFlight else s.inFlight
    log := s.log ++ [.handedOver e.number message taken] }

/-- The entry is too old. Its callback is called without a test for NULL. -/
def expire (s : SenderState σ) (e : EventHubEventList) (currentTime : UInt64) : SenderState σ :=
  match e.callback with
  | none => { s with control := .undefinedBehaviour }
  | some _ =>
    (s.waitForAck e.number).confirm e
      [.overdue e.number e.idleTimer currentTime s.client.msgTimeout] .timeout
      (.loop (s.flink e.number))

/-- One round of the loop of `EventHubClient_LL_DoWork`, or what follows on the loop. -/
def iterate (s : SenderState σ) (currentListEntry : Option Nat) (env : BuildEnv)
    (currentTime : UInt64) (taken : Bool) : SenderState σ :=
  match currentListEntry with
  | none => connectionDowork s
  | some n =>
    match s.entry? n with
    | none => { s with control := .undefinedBehaviour }
    | some e =>
      match e.currentStatus with
      | .waitingForAck => { s with control := .loop (s.flink n) }
      | .waitingToBeSent =>
        match buildMessage env e.eventDataList with
        | none => s.confirm e [.unbuildable n] .error (.loop (s.flink n))
        | some message =>
          let s := { s with lastTick := currentTime }
          if hasTimeout s.client e currentTime then expire s e currentTime
          else handOver s e message taken

/-! ### Callbacks -/

/-- The confirmation of `MESSAGE_SEND_RESULT`. -/
def confirmationOf : MessageSendResult → EventHubClientConfirmationResult
  | .ok => .ok
  | _ => .error

/-- `on_message_send_complete` on the entry numbered `n`, inside a call to uAMQP. -/
def onMessageSendComplete (s : SenderState σ) (n : Nat) (r : MessageSendResult)
    (call : UamqpCall) : SenderState σ :=
  match s.entry? n with
  | none => { s with control := .undefinedBehaviour }
  | some e =>
    let s := { s with inFlight := s.inFlight.erase n }
    match e.callback with
    | none => (s.emit [.completed n r]).unlink n
    | some _ => s.confirm e [.completed n r] (confirmationOf r) (.uamqp call)

/-- The part of `on_message_sender_state_changed` after the state change callback. -/
def afterStateChange (s : SenderState σ) (newState : MessageSenderState) (call : UamqpCall) :
    SenderState σ :=
  if newState = .error then
    s.raise .socketSendFailure (.uamqp call) fun s => { s with control := .uamqp call }
  else { s with control := .uamqp call }

/-- The state that `on_message_sender_state_changed` reports to the user. -/
def reportedState : MessageSenderState → Option EventHubClientState
  | .open => some .connAuthenticated
  | .closing => some .connUnauthenticated
  | .error => some .connUnauthenticated
  | _ => none

/-- `on_message_sender_state_changed`, inside a call to uAMQP. -/
def onMessageSenderStateChanged (s : SenderState σ) (newState previousState : MessageSenderState)
    (call : UamqpCall) : SenderState σ :=
  let s := { s with client := { s.client with messageSenderState := newState } }
  if newState = previousState then s
  else
    match s.client.stateChangeCb, reportedState newState with
    | some callback, some state =>
      { s with
        control := .stateChangeCb newState call
        log := s.log ++ [.stateChanged callback state] }
    | _, _ => afterStateChange s newState call

/-- `OnCBSPutTokenOperationComplete` on the present auth handle. -/
def onCBSPutTokenOperationComplete (s : SenderState σ) (a : σ) (r : CBSOperationResult)
    (env : ι) : SenderState σ :=
  let s := s.answer (auth.onCBSPutTokenOperationComplete a r env)
  { s with outstandingPuts := s.outstandingPuts - 1 }

/-! ### Returns -/

/-- A call to uAMQP returns. -/
def uamqpReturn (s : SenderState σ) (ok : Bool) : UamqpCall → SenderState σ
  | .messagesenderOpen => if ok then startLoop s else { s with control := .idle }
  | .messagesenderSendAsync n next taken =>
    if taken then { s with control := .loop next }
    else
      match s.entry? n with
      | none => { s with control := .undefinedBehaviour }
      | some e => s.confirm e [] .error (.loop next)
  | .connectionDowork => { s with control := .idle }
  | .messagesenderDestroy after => afterDestroyUamqpStack (finishDestroyUamqpStack s) after

/-- A confirmation callback returns. `EventHubClient_LL_Destroy` has unlinked its entry before the
callback, the others unlink it now. -/
def confirmReturn (s : SenderState σ) (n : Nat) : AfterConfirm → SenderState σ
  | .uamqp call => { s.unlink n with control := .uamqp call }
  | .loop next => { s.unlink n with control := .loop next }
  | .draining => { s with control := .draining }

/-- The error callback returns. -/
def errorReturn (s : SenderState σ) : AfterErrorCb → SenderState σ
  | .uamqp call => { s with control := .uamqp call }
  | .tearDown => destroyUamqpStack s .return
  | .done => { s with control := .idle }

/-! ### `EventHubClient_LL_Destroy` -/

/-- `EventHubClient_LL_Destroy` up to its loop. -/
def destroy (s : SenderState σ) : SenderState σ :=
  destroyUamqpStack { s with destroying := true, log := s.log ++ [.destroying] } .destroy

/-- One round of the loop of `EventHubClient_LL_Destroy`, or its end. The clones are freed after the
callback, which cannot see them. -/
def drain (s : SenderState σ) : SenderState σ :=
  match s.client.outgoingEvents with
  | [] => { s with control := .destroyed }
  | e :: rest =>
    let s := { s with
      client := { s.client with outgoingEvents := rest }
      inFlight := s.inFlight.erase e.number
      freed := s.freed ++ e.clones }
    match e.callback with
    | none => s.emit [.removed e.number]
    | some _ => s.confirm e [.removed e.number] .destroy .draining

/-! ### The machine -/

/-- Whether the user may call the public functions: between calls, or inside one of the callbacks,
and not once `EventHubClient_LL_Destroy` has been called. -/
def mayCall (s : SenderState σ) : Bool :=
  !s.destroying &&
  match s.control with
  | .idle => true
  | .stateChangeCb _ _ => true
  | .errorCb _ => true
  | .confirming _ _ => true
  | _ => false

/-- One step of a sender; `none` when the input cannot occur. -/
def step (s : SenderState σ) (i : SenderInput ι) : Option (SenderState σ) :=
  match i with
  | .sendAsync event callback context env =>
    if mayCall s then some (sendAsync s event callback context env).2 else none
  | .sendBatchAsync list callback context env =>
    if mayCall s then some (sendBatchAsync s list callback context env).2 else none
  | .setMessageTimeout timeout =>
    if mayCall s then some (setField s fun c => { c with msgTimeout := timeout }) else none
  | .setStateChangeCallback callback =>
    if mayCall s then some (setField s fun c => { c with stateChangeCb := callback }) else none
  | .setErrorCallback callback =>
    if mayCall s then some (setField s fun c => { c with onErrorCb := callback }) else none
  | .setLogTrace on =>
    if mayCall s then some (setField s fun c => { c with traceOn := on }) else none
  | .refreshSASTokenAsync token env =>
    if mayCall s then some (refreshSASTokenAsync s token env).2 else none
  | .doWork env =>
    if s.control = .idle && !s.destroying then some (doWork auth s env) else none
  | .destroy => if s.control = .idle && !s.destroying then some (destroy s) else none
  | .iterate env currentTime taken =>
    match s.control with
    | .loop currentListEntry => some (iterate s currentListEntry env currentTime taken)
    | _ => none
  | .onMessageSendComplete n r =>
    match s.control with
    | .uamqp call => if n ∈ s.inFlight then some (onMessageSendComplete s n r call) else none
    | _ => none
  | .onMessageSenderStateChanged newState previousState =>
    match s.control with
    | .uamqp call =>
      if (s.client.stack .messageSender).isSome then
        some (onMessageSenderStateChanged s newState previousState call)
      else none
    | _ => none
  | .onCBSPutTokenOperationComplete r env =>
    match s.control, s.client.cbsHandle with
    | .uamqp .connectionDowork, some a =>
      if 0 < s.outstandingPuts then some (onCBSPutTokenOperationComplete auth s a r env) else none
    | _, _ => none
  | .uamqpReturn ok =>
    match s.control with
    | .uamqp call => some (uamqpReturn s ok call)
    | _ => none
  | .callbackReturn =>
    match s.control with
    | .confirming n after => some (confirmReturn s n after)
    | .stateChangeCb newState call => some (afterStateChange s newState call)
    | .errorCb after => some (errorReturn s after)
    | _ => none
  | .drain =>
    match s.control with
    | .draining => some (drain s)
    | _ => none

/-- The low-level sender over an authentication module. -/
def senderMachine : Machine (SenderState σ) (SenderInput ι) where
  step := step auth

/-- The functions that a setter applies to the client. -/
structure Setter (f : EventHubClientLL σ → EventHubClientLL σ) : Prop where
  eq : ∀ c, f c = { c with
    msgTimeout := (f c).msgTimeout
    stateChangeCb := (f c).stateChangeCb
    onErrorCb := (f c).onErrorCb
    traceOn := (f c).traceOn }

/-- What a step can be. -/
inductive Move (s : SenderState σ) : SenderInput ι → SenderState σ → Prop
  | sendAsync (event : Option EventData) (callback context : Option Nat) (env : SendEnv)
      (hmay : mayCall s) :
    Move s (.sendAsync event callback context env) (sendAsync s event callback context env).2
  | sendBatchAsync (list : Option (List (Option EventData))) (callback context : Option Nat)
      (env : SendEnv) (hmay : mayCall s) :
    Move s (.sendBatchAsync list callback context env)
      (sendBatchAsync s list callback context env).2
  | setField {i : SenderInput ι} {f : EventHubClientLL σ → EventHubClientLL σ} (hf : Setter f)
      (hmay : mayCall s) : Move s i (setField s f)
  | refreshSASTokenAsync (token : Option String) (env : RefreshEnv) (hmay : mayCall s) :
    Move s (.refreshSASTokenAsync token env) (refreshSASTokenAsync s token env).2
  | doWork (env : DoWorkEnv ι) (hidle : s.control = .idle) (hopen : s.destroying = false) :
    Move s (.doWork env) (doWork auth s env)
  | destroy (hidle : s.control = .idle) (hopen : s.destroying = false) :
    Move s .destroy (destroy s)
  | iterate {c : Option Nat} (env : BuildEnv) (currentTime : UInt64) (taken : Bool)
      (hloop : s.control = .loop c) :
    Move s (.iterate env currentTime taken) (iterate s c env currentTime taken)
  | onMessageSendComplete {call : UamqpCall} {n : Nat} (r : MessageSendResult)
      (hcall : s.control = .uamqp call) (hn : n ∈ s.inFlight) :
    Move s (.onMessageSendComplete n r) (onMessageSendComplete s n r call)
  | onMessageSenderStateChanged {call : UamqpCall} (newState previousState : MessageSenderState)
      (hcall : s.control = .uamqp call) (hsender : (s.client.stack .messageSender).isSome) :
    Move s (.onMessageSenderStateChanged newState previousState)
      (onMessageSenderStateChanged s newState previousState call)
  | onCBSPutTokenOperationComplete {a : σ} (r : CBSOperationResult) (env : ι)
      (hcall : s.control = .uamqp .connectionDowork) (ha : s.client.cbsHandle = some a)
      (hputs : 0 < s.outstandingPuts) :
    Move s (.onCBSPutTokenOperationComplete r env) (onCBSPutTokenOperationComplete auth s a r env)
  | uamqpReturn {call : UamqpCall} (ok : Bool) (hcall : s.control = .uamqp call) :
    Move s (.uamqpReturn ok) (uamqpReturn s ok call)
  | confirmReturn {n : Nat} {after : AfterConfirm} (hconfirm : s.control = .confirming n after) :
    Move s .callbackReturn (confirmReturn s n after)
  | stateChangeReturn {newState : MessageSenderState} {call : UamqpCall}
      (hchange : s.control = .stateChangeCb newState call) :
    Move s .callbackReturn (afterStateChange s newState call)
  | errorReturn {after : AfterErrorCb} (herror : s.control = .errorCb after) :
    Move s .callbackReturn (errorReturn s after)
  | drain (hdraining : s.control = .draining) : Move s .drain (drain s)

theorem step_move {s t : SenderState σ} {i : SenderInput ι} (h : step auth s i = some t) :
    Move auth s i t := by
  cases i with
  | sendAsync event callback context env =>
    obtain ⟨hmay, ⟨⟩⟩ := Option.ite_none_right_eq_some.mp h
    exact .sendAsync event callback context env hmay
  | sendBatchAsync list callback context env =>
    obtain ⟨hmay, ⟨⟩⟩ := Option.ite_none_right_eq_some.mp h
    exact .sendBatchAsync list callback context env hmay
  | setMessageTimeout timeout =>
    obtain ⟨hmay, ⟨⟩⟩ := Option.ite_none_right_eq_some.mp h
    exact .setField ⟨fun _ => rfl⟩ hmay
  | setStateChangeCallback callback =>
    obtain ⟨hmay, ⟨⟩⟩ := Option.ite_none_right_eq_some.mp h
    exact .setField ⟨fun _ => rfl⟩ hmay
  | setErrorCallback callback =>
    obtain ⟨hmay, ⟨⟩⟩ := Option.ite_none_right_eq_some.mp h
    exact .setField ⟨fun _ => rfl⟩ hmay
  | setLogTrace on =>
    obtain ⟨hmay, ⟨⟩⟩ := Option.ite_none_right_eq_some.mp h
    exact .setField ⟨fun _ => rfl⟩ hmay
  | refreshSASTokenAsync token env =>
    obtain ⟨hmay, ⟨⟩⟩ := Option.ite_none_right_eq_some.mp h
    exact .refreshSASTokenAsync token env hmay
  | doWork env =>
    obtain ⟨hidle, ⟨⟩⟩ := Option.ite_none_right_eq_some.mp h
    obtain ⟨hcontrol, hopen⟩ : s.control = .idle ∧ s.destroying = false := by simpa using hidle
    exact .doWork env hcontrol hopen
  | destroy =>
    obtain ⟨hidle, ⟨⟩⟩ := Option.ite_none_right_eq_some.mp h
    obtain ⟨hcontrol, hopen⟩ : s.control = .idle ∧ s.destroying = false := by simpa using hidle
    exact .destroy hcontrol hopen
  | iterate env currentTime taken =>
    cases hc : s.control <;> simp only [step, hc, reduceCtorEq, Option.some.injEq] at h
    subst h
    exact .iterate env currentTime taken hc
  | onMessageSendComplete n r =>
    cases hc : s.control <;>
      simp only [step, hc, reduceCtorEq, Option.ite_none_right_eq_some] at h
    obtain ⟨hn, ⟨⟩⟩ := h
    exact .onMessageSendComplete r hc hn
  | onMessageSenderStateChanged newState previousState =>
    cases hc : s.control <;>
      simp only [step, hc, reduceCtorEq, Option.ite_none_right_eq_some] at h
    obtain ⟨hsender, ⟨⟩⟩ := h
    exact .onMessageSenderStateChanged newState previousState hc hsender
  | onCBSPutTokenOperationComplete r env =>
    simp only [step] at h
    split at h
    · next a hc ha =>
      obtain ⟨hputs, ⟨⟩⟩ := Option.ite_none_right_eq_some.mp h
      exact .onCBSPutTokenOperationComplete r env hc ha hputs
    · cases h
  | uamqpReturn ok =>
    cases hc : s.control <;> simp only [step, hc, reduceCtorEq, Option.some.injEq] at h
    subst h
    exact .uamqpReturn ok hc
  | callbackReturn =>
    cases hc : s.control <;> simp only [step, hc, reduceCtorEq, Option.some.injEq] at h
    · exact h ▸ .stateChangeReturn hc
    · exact h ▸ .errorReturn hc
    · exact h ▸ .confirmReturn hc
  | drain =>
    cases hc : s.control <;> simp only [step, hc, reduceCtorEq, Option.some.injEq] at h
    exact h ▸ .drain hc

/-- A client as `EventHubClient_LL_CreateFromConnectionString` leaves it. -/
def createdFromConnectionString (keyName keyValue hostName eventHubPath targetAddress : String) :
    EventHubClientLL σ :=
  { keyName := some keyName
    keyValue := some keyValue
    hostName := some hostName
    eventHubPath := some eventHubPath
    targetAddress := some targetAddress
    credential := .sasTokenAuto }

/-- A client as `EventHubClient_LL_CreateFromSASToken` leaves it. -/
def createdFromSASToken (config : EventHubAuthCBSConfig) (targetAddress : String) :
    EventHubClientLL σ :=
  { hostName := config.hostName
    eventHubPath := config.eventHubPath
    targetAddress := some targetAddress
    senderPublisherId := config.senderPublisherId
    extSASTokenParseConfig := some config
    credential := .sasTokenExt }

/-- The clients that the two creation functions return. -/
inductive Created : EventHubClientLL σ → Prop
  | fromConnectionString (keyName keyValue hostName eventHubPath targetAddress : String) :
    Created (createdFromConnectionString keyName keyValue hostName eventHubPath targetAddress)
  | fromSASToken (config : EventHubAuthCBSConfig) (targetAddress : String)
      (hmode : config.mode = .sender) : Created (createdFromSASToken config targetAddress)

end EventHubClientLL

end EventHubs
