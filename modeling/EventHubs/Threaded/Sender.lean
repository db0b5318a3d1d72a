import EventHubs.Sender.Calls
import EventHubs.Threaded.Receiver

/-!
# The threaded sender as a machine

`eventhubclient.c` wraps a low-level sender for use by several threads. The users' calls and one
worker thread share it under `lockInfo`. A synchronous send queues its events at the low-level
sender with `EventhubClientLLCallback` as their callback and a context of its own, and blocks in
`Condition_Wait` on the context. The worker runs this callback inside `EventHubClient_LL_DoWork`.

The two synchronous sends and the callback are taken statement by statement, every other critical
section of a user is one step. `Condition_Post` wakes a thread that is in `Condition_Wait` and has
no effect when there is none. `Condition_Wait` fails at once when one of its handles is NULL.

## Main definitions

* `EventHubCallback`, `SyncSend` — the context of a synchronous send, and where the send stands.
* `ThreadedSender` — the sender with its worker, its synchronous sends and the running callback.
* `EventHubClient.executeLowerLayerSendAsync`, `EventHubClient.eventhubClientLLCallback`,
  `EventHubClient.conditionWait`, `EventHubClient.sendResult`.
* `EventHubClient.threadedMachine`.
-/

namespace EventHubs

/-- `callbackStatus`. -/
inductive CallbackStatus
  | waiting
  | notified
  deriving DecidableEq, Repr

/-- `EVENTHUB_CALLBACK_STRUCT`, where the handles of the lock and the condition are reduced to
whether they are there: `EventHubClient_InitUserContext` does not look at them. -/
structure EventHubCallback where
  callbackStatus : CallbackStatus := .waiting
  confirmationResult : EventHubClientConfirmationResult := .error
  completionLock : Bool
  completionCondition : Bool
  deriving DecidableEq, Repr

/-- What `EventHubClient_Send` or `EventHubClient_SendBatch` is given. -/
inductive SendRequest
  | send (eventData : Option EventData)
  | sendBatch (eventDataList : Option (List (Option EventData)))
  deriving DecidableEq, Repr

/-- Where a synchronous send stands. -/
inductive SendControl
  /-- In `Lock` on `lockInfo`. -/
  | lock
  /-- At the calls of the lower layer, with `lockInfo` held. -/
  | lowerLayer
  /-- At `Unlock` on `lockInfo`. -/
  | unlock (sent : Bool)
  /-- At `Condition_Wait`. -/
  | conditionWait
  /-- In `Condition_Wait`. -/
  | waiting
  /-- `Condition_Wait` has returned. -/
  | woken
  /-- The context is destroyed. -/
  | returned (result : EventHubClientResult)
  deriving DecidableEq, Repr

/-- A synchronous send that has got its context, and the number of the entry that the lower layer
has queued for it. -/
structure SyncSend where
  request : SendRequest
  context : EventHubCallback
  control : SendControl := .lock
  entry : Option Nat := none
  deriving DecidableEq, Repr

/-- The statements of `EventhubClientLLCallback`. -/
inductive CallbackStatement
  | callbackStatus
  | confirmationResult
  | conditionPost
  deriving DecidableEq, Repr

/-- A run of `EventhubClientLLCallback` on the context of a synchronous send. -/
structure RunningCallback where
  userContext : Nat
  result : EventHubClientConfirmationResult
  next : CallbackStatement := .callbackStatus
  deriving DecidableEq, Repr

/-- `threadToContinue`. -/
inductive ThreadToContinue
  | threadContinue
  | threadEnd
  deriving DecidableEq, Repr

/-- Where the worker stands in `EventhubClientThread`. -/
inductive SendWorkerControl
  | loopHead
  | lock
  /-- In `EventHubClient_LL_DoWork`, with `lockInfo` held. -/
  | doWork
  | sleep
  | exited
  deriving DecidableEq, Repr

/-- Who holds `lockInfo` between two steps. -/
inductive LockOwner
  | worker
  | send (k : Nat)
  deriving DecidableEq, Repr

/-- `EVENTHUBCLIENT_STRUCT` with the low-level sender in place of its handle, together with its
threads. `worker` is `none` while `threadHandle` is NULL, a synchronous send is known by its place
in `sends`, and `freedTouched` says that a callback has written to a destroyed context. -/
structure ThreadedSender (σ : Type) where
  eventhubclientLL : SenderState σ
  threadToContinue : ThreadToContinue := .threadContinue
  lockInfo : Option LockOwner := none
  worker : Option SendWorkerControl := none
  callback : Option RunningCallback := none
  sends : List SyncSend := []
  closing : Closing := .open
  freedTouched : Bool := false

/-- What the environment contributes to `EventHubClient_InitUserContext`. -/
structure ContextEnv where
  malloc : Bool := true
  lockInit : Bool := true
  conditionInit : Bool := true

/-- What the environment contributes to the calls of the lower layer. -/
structure LowerLayerEnv where
  creates : Bool := true
  send : SendEnv := {}

/-- The calls of the users, and the steps of the worker and its environment. -/
inductive ThreadedSenderInput (ι : Type)
  /-- A user calls `EventHubClient_Send` or `EventHubClient_SendBatch`. -/
  | syncSend (request : SendRequest) (env : ContextEnv)
  | lock (k : Nat) (locks : Bool)
  | lowerLayer (k : Nat) (env : LowerLayerEnv)
  | unlock (k : Nat)
  | conditionWait (k : Nat)
  /-- A synchronous send reads the result, destroys its context and returns. -/
  | finish (k : Nat)
  | sendAsync (event : Option EventData) (callback context : Option Nat) (env : LowerLayerEnv)
      (locks : Bool)
  | sendBatchAsync (eventDataList : Option (List (Option EventData)))
      (callback context : Option Nat) (env : LowerLayerEnv) (locks : Bool)
  | refreshSASTokenAsync (token : Option String) (env : RefreshEnv) (locks : Bool)
  | setStateChangeCallback (callback : Option UserCallback) (locks : Bool)
  | setErrorCallback (callback : Option UserCallback) (locks : Bool)
  | setMessageTimeout (timeout : UInt64) (locks : Bool)
  | setLogTrace (on : Bool) (locks : Bool)
  | destroy
  /-- The worker tests `threadToContinue`. -/
  | iterate
  | workerLock (env : DoWorkEnv ι) (locks : Bool)
  /-- The present call of the low-level sender goes on. -/
  | lowLevel (i : SenderInput ι)
  /-- The next statement of `EventhubClientLLCallback`. -/
  | callback
  | workerUnlock
  /-- `ThreadAPI_Sleep` returns. -/
  | wake
  /-- `ThreadAPI_Join` returns and succeeds, or is not called. -/
  | join
  /-- `EventHubClient_LL_Destroy` returns. -/
  | deInit

/-- The send is done with `lockInfo`. -/
def SendControl.released : SendControl → Bool
  | .lock => false
  | .lowerLayer => false
  | .unlock _ => false
  | _ => true

namespace EventHubClient

variable {σ ι : Type} (auth : AuthModule σ ι)

/-! ### Contexts -/

/-- `EventHubClient_InitUserContext`. -/
def initUserContext (env : ContextEnv) : Option EventHubCallback :=
  if env.malloc then
    some { completionLock := env.lockInit, completionCondition := env.conditionInit }
  else none

/-- `EventhubClientLLCallback`, as the function of a callback. -/
def llCallback : Nat := 0

/-- Change the synchronous send numbered `k`. -/
def setSend (s : ThreadedSender σ) (k : Nat) (c : SyncSend) : ThreadedSender σ :=
  { s with sends := s.sends.set k c }

/-! ### The lower layer -/

/-- `Create_DoWorkThreadIfNeccesary`; the answer says whether there is a worker. -/
def createDoWorkThreadIfNeccesary (s : ThreadedSender σ) (creates : Bool) :
    Bool × ThreadedSender σ :=
  if s.worker.isSome then (true, s)
  else if creates then (true, { s with worker := some .loopHead })
  else (false, s)

/-- What `Execute_LowerLayerSendAsync` and `Execute_LowerLayerSendBatchAsync` do under the lock; the
answer says whether the call of the low-level sender returned OK. -/
def executeLowerLayer (s : ThreadedSender σ) (creates : Bool)
    (call : SenderState σ → EventHubClientResult × SenderState σ) : Bool × ThreadedSender σ :=
  let x := createDoWorkThreadIfNeccesary s creates
  if !x.1 then (false, x.2)
  else
    let y := call x.2.eventhubclientLL
    (y.1 = .ok, { x.2 with eventhubclientLL := y.2 })

/-- `Execute_LowerLayerSendAsync` under the lock. -/
def executeLowerLayerSendAsync (s : ThreadedSender σ) (event : Option EventData)
    (callback context : Option Nat) (env : LowerLayerEnv) : Bool × ThreadedSender σ :=
  executeLowerLayer s env.creates
    (EventHubClientLL.sendAsync · event callback context env.send)

/-- `Execute_LowerLayerSendBatchAsync` under the lock. -/
def executeLowerLayerSendBatchAsync (s : ThreadedSender σ)
    (eventDataList : Option (List (Option EventData))) (callback context : Option Nat)
    (env : LowerLayerEnv) : Bool × ThreadedSender σ :=
  executeLowerLayer s env.creates
    (EventHubClientLL.sendBatchAsync · eventDataList callback context env.send)

/-- The function that a synchronous send hands its request to. -/
def execute (s : ThreadedSender σ) (request : SendRequest) (callback context : Option Nat)
    (env : LowerLayerEnv) : Bool × ThreadedSender σ :=
  match request with
  | .send event => executeLowerLayerSendAsync s event callback context env
  | .sendBatch list => executeLowerLayerSendBatchAsync s list callback context env

/-! ### Synchronous sends -/

/-- The arguments pass the test at the head of `EventHubClient_Send` or
`EventHubClient_SendBatch`. -/
def validRequest : SendRequest → Bool
  | .send event => event.isSome
  | .sendBatch list => list.elim false fun events => events.length ≠ 0

/-- `EventHubClient_Send` and `EventHubClient_SendBatch` up to `Lock`, with the result if the call
returns before. -/
def syncSend (s : ThreadedSender σ) (request : SendRequest) (env : ContextEnv) :
    Option EventHubClientResult × ThreadedSender σ :=
  if !validRequest request then (some .invalidArg, s)
  else
    match initUserContext env with
    | none => (some .error, s)
    | some context => (none, { s with sends := s.sends ++ [{ request, context }] })

/-- `Lock` returns. When it has failed the send returns. -/
def lock (s : ThreadedSender σ) (k : Nat) (c : SyncSend) (locks : Bool) : ThreadedSender σ :=
  if locks then
    { setSend s k { c with control := .lowerLayer } with lockInfo := some (.send k) }
  else setSend s k { c with control := .returned .error }

/-- The lower layer is given the request, with the context of the send. -/
def lowerLayer (s : ThreadedSender σ) (k : Nat) (c : SyncSend) (env : LowerLayerEnv) :
    ThreadedSender σ :=
  let x := execute s c.request (some llCallback) (some k) env
  setSend x.2 k { c with
    control := .unlock x.1
    entry := if x.1 then some s.eventhubclientLL.nextEntry else none }

/-- `Unlock` on `lockInfo`. When the lower layer has failed the send returns. -/
def unlock (s : ThreadedSender σ) (k : Nat) (c : SyncSend) (sent : Bool) : ThreadedSender σ :=
  { setSend s k { c with control := if sent then .conditionWait else .returned .error } with
    lockInfo := none }

/-- `Condition_Wait` is called. -/
def conditionWait (s : ThreadedSender σ) (k : Nat) (c : SyncSend) : ThreadedSender σ :=
  setSend s k { c with
    control :=
      if c.context.completionLock && c.context.completionCondition then .waiting else .woken }

/-- What a synchronous send returns after `Condition_Wait`. -/
def sendResult (context : EventHubCallback) : EventHubClientResult :=
  if context.confirmationResult = .ok then .ok else .error

/-- `EventhubClientLLCallback`, one statement. -/
def eventhubClientLLCallback (s : ThreadedSender σ) (r : RunningCallback) : ThreadedSender σ :=
  match s.sends[r.userContext]? with
  | none => { s with callback := none, freedTouched := true }
  | some c =>
    let s := { s with
      freedTouched := s.freedTouched || match c.control with
        | .returned _ => true
        | _ => false }
    match r.next with
    | .callbackStatus =>
      { setSend s r.userContext { c with
          context := { c.context with callbackStatus := .notified } } with
        callback := some { r with next := .confirmationResult } }
    | .confirmationResult =>
      { setSend s r.userContext { c with
          context := { c.context with confirmationResult := r.result } } with
        callback := some { r with next := .conditionPost } }
    | .conditionPost =>
      { setSend s r.userContext { c with
          control := if c.control = .waiting then .woken else c.control } with
        callback := none }

/-! ### The other calls -/

/-- `EventHubClient_SendAsync`. -/
def sendAsync (s : ThreadedSender σ) (event : Option EventData) (callback context : Option Nat)
    (env : LowerLayerEnv) (locks : Bool) : EventHubClientResult × ThreadedSender σ :=
  if event.isNone then (.invalidArg, s)
  else if !locks then (.error, s)
  else
    let x := executeLowerLayerSendAsync s event callback context env
    (if x.1 then .ok else .error, x.2)

/-- `EventHubClient_SendBatchAsync`. -/
def sendBatchAsync (s : ThreadedSender σ) (eventDataList : Option (List (Option EventData)))
    (callback context : Option Nat) (env : LowerLayerEnv) (locks : Bool) :
    EventHubClientResult × ThreadedSender σ :=
  if eventDataList.elim true (·.length = 0) then (.invalidArg, s)
  else if !locks then (.error, s)
  else
    let x := executeLowerLayerSendBatchAsync s eventDataList callback context env
    (if x.1 then .ok else .error, x.2)

/-- `EventHubClient_RefreshSASTokenAsync`. -/
def refreshSASTokenAsync (s : ThreadedSender σ) (token : Option String) (env : RefreshEnv)
    (locks : Bool) : EventHubClientResult × ThreadedSender σ :=
  if token.isNone then (.invalidArg, s)
  else if !locks then (.error, s)
  else
    let x := EventHubClientLL.refreshSASTokenAsync s.eventhubclientLL token env
    (x.1, { s with eventhubclientLL := x.2 })

/-- The setters, which change one field of the low-level sender under the lock. -/
def setField (s : ThreadedSender σ) (locks : Bool) (f : EventHubClientLL σ → EventHubClientLL σ) :
    EventHubClientResult × ThreadedSender σ :=
  if locks then
    (.ok, { s with eventhubclientLL := EventHubClientLL.setField s.eventhubclientLL f })
  else (.error, s)

/-- `EventHubClient_SetStateChangeCallback`. -/
def setStateChangeCallback (s : ThreadedSender σ) (callback : Option UserCallback) (locks : Bool) :
    EventHubClientResult × ThreadedSender σ :=
  setField s locks ({ · with stateChangeCb := callback })

/-- `EventHubClient_SetErrorCallback`. -/
def setErrorCallback (s : ThreadedSender σ) (callback : Option UserCallback) (locks : Bool) :
    EventHubClientResult × ThreadedSender σ :=
  setField s locks ({ · with onErrorCb := callback })

/-- `EventHubClient_SetMessageTimeout`. -/
def setMessageTimeout (s : ThreadedSender σ) (timeout : UInt64) (locks : Bool) :
    ThreadedSender σ :=
  (setField s locks ({ · with msgTimeout := timeout })).2

/-- `EventHubClient_SetLogTrace`. -/
def setLogTrace (s : ThreadedSender σ) (on locks : Bool) : ThreadedSender σ :=
  (setField s locks ({ · with traceOn := on })).2

/-! ### The worker -/

/-- The run of `EventhubClientLLCallback` that a step of the low-level sender begins: the callback
is called last. -/
def startedCallback (s t : SenderState σ) : Option RunningCallback :=
  match (t.log.drop s.log.length).getLast? with
  | some (.confirmed _ ⟨function, some context⟩ result) =>
    if function = llCallback then some { userContext := context, result } else none
  | _ => none

/-- Let the low-level sender take a step. -/
def lowLevel (s : ThreadedSender σ) (i : SenderInput ι) : Option (ThreadedSender σ) :=
  (EventHubClientLL.step auth s.eventhubclientLL i).map fun ll =>
    { s with
      eventhubclientLL := ll
      callback := startedCallback s.eventhubclientLL ll }

/-- The worker tests `threadToContinue`. -/
def iterate (s : ThreadedSender σ) : ThreadedSender σ :=
  { s with
    worker := some (if s.threadToContinue = .threadContinue then .lock else .exited) }

/-- `Lock` returns in the worker. -/
def workerLock (s : ThreadedSender σ) (env : DoWorkEnv ι) (locks : Bool) :
    Option (ThreadedSender σ) :=
  if locks then
    lowLevel auth { s with worker := some .doWork, lockInfo := some .worker } (.doWork env)
  else some { s with worker := some .sleep }

/-! ### The machine -/

/-- Whether the users may call the public functions and `lockInfo` is free: except for those of the
synchronous sends, its critical sections are steps. -/
def mayLock (s : ThreadedSender σ) : Bool := s.closing = .open && s.lockInfo = none

/-- `EventhubClientLLCallback` is not known outside, so no user passes it. -/
def foreign (callback : Option Nat) : Bool := callback ≠ some llCallback

/-- A step of the synchronous send numbered `k`, which depends on where it stands. -/
def sendStep (s : ThreadedSender σ) (k : Nat)
    (f : SyncSend → SendControl → Option (ThreadedSender σ)) : Option (ThreadedSender σ) :=
  s.sends[k]?.bind fun c => f c c.control

/-- One step of a threaded sender; `none` when the input cannot occur. `EventHubClient_Destroy` may
be called when no other call is going to use the sender, which a send in `Condition_Wait` does
not. -/
def step (s : ThreadedSender σ) (i : ThreadedSenderInput ι) : Option (ThreadedSender σ) :=
  match i with
  | .syncSend request env => if s.closing = .open then some (syncSend s request env).2 else none
  | .lock k locks =>
    sendStep s k fun
      | c, .lock => if !locks || s.lockInfo = none then some (lock s k c locks) else none
      | _, _ => none
  | .lowerLayer k env =>
    sendStep s k fun
      | c, .lowerLayer => some (lowerLayer s k c env)
      | _, _ => none
  | .unlock k =>
    sendStep s k fun
      | c, .unlock sent => some (unlock s k c sent)
      | _, _ => none
  | .conditionWait k =>
    sendStep s k fun
      | c, .conditionWait => some (conditionWait s k c)
      | _, _ => none
  | .finish k =>
    sendStep s k fun
      | c, .woken => some (setSend s k { c with control := .returned (sendResult c.context) })
      | _, _ => none
  | .sendAsync event callback context env locks =>
    if mayLock s && foreign callback then some (sendAsync s event callback context env locks).2
    else none
  | .sendBatchAsync list callback context env locks =>
    if mayLock s && foreign callback then some (sendBatchAsync s list callback context env locks).2
    else none
  | .refreshSASTokenAsync token env locks =>
    if mayLock s then some (refreshSASTokenAsync s token env locks).2 else none
  | .setStateChangeCallback callback locks =>
    if mayLock s then some (setStateChangeCallback s callback locks).2 else none
  | .setErrorCallback callback locks =>
    if mayLock s then some (setErrorCallback s callback locks).2 else none
  | .setMessageTimeout timeout locks =>
    if mayLock s then some (setMessageTimeout s timeout locks) else none
  | .setLogTrace on locks => if mayLock s then some (setLogTrace s on locks) else none
  | .destroy =>
    if s.closing = .open && s.sends.all (·.control.released) then
      some { s with
        threadToContinue := if s.worker.isSome then .threadEnd else s.threadToContinue
        closing := .joining }
    else none
  | .iterate => if s.worker = some .loopHead then some (iterate s) else none
  | .workerLock env locks =>
    if s.worker = some .lock && (!locks || s.lockInfo = none) then workerLock auth s env locks
    else none
  | .lowLevel i =>
    if (s.worker = some .doWork || s.closing = .destroying) && i.internal && s.callback = none then
      lowLevel auth s i
    else none
  | .callback => s.callback.map (eventhubClientLLCallback s)
  | .workerUnlock =>
    if s.worker = some .doWork && s.eventhubclientLL.control = .idle then
      some { s with worker := some .sleep, lockInfo := none }
    else none
  | .wake => if s.worker = some .sleep then some { s with worker := some .loopHead } else none
  | .join =>
    if s.closing = .joining && (s.worker = none || s.worker = some .exited) then
      lowLevel auth { s with closing := .destroying } .destroy
    else none
  | .deInit =>
    if s.closing = .destroying && s.eventhubclientLL.control = .destroyed then
      some { s with closing := .destroyed }
    else none

/-- The threaded sender over an authentication module. -/
def threadedMachine : Machine (ThreadedSender σ) (ThreadedSenderInput ι) where
  step := step auth

/-- A threaded sender as `EventHubClient_CreateFromConnectionString` or
`EventHubClient_CreateFromSASToken` leaves it. -/
def created (c : EventHubClientLL σ) : ThreadedSender σ := { eventhubclientLL := { client := c } }

end EventHubClient

end EventHubs
