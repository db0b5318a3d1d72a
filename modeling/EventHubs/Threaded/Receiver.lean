import EventHubs.Receiver.Spec

/-!
# The threaded receiver as a machine

`eventhubreceiver.c` wraps a low-level receiver for use by several threads. The users' calls and one
worker thread share it under `lockInfo`. The worker calls `EventHubReceiver_LL_DoWork` with the lock
held; the callbacks that it registers with the low-level receiver only queue dispatches, and the
worker calls the callbacks of the user after it has released the lock. A step is one critical
section of a user, or one stretch of the worker between two points at which another thread or uAMQP
can act.

## Main definitions

* `AsyncCallbackDispatch`, `AsyncCallbacks`, `EventHubReceiver`.
* `WorkerControl`, `ThreadedReceiver` — the worker and its receiver.
* `EventHubReceiver.executeCommonReceiveFromStartTimestampAsync`,
  `EventHubReceiver.receiveEndAsync`, `EventHubReceiver.refreshSASTokenAsync`,
  `EventHubReceiver.setConnectionTracing`.
* `EventHubReceiver.asyncDispatchCallbackListProcess`.
* `EventHubReceiver.threadedMachine`.
-/

namespace EventHubs

/-- `DISPATCH_TYPE`. -/
inductive DispatchType
  | receiveAsync
  | receiveAsyncError
  | receiveAsyncEnd
  deriving DecidableEq, Repr

/-- `ASYNC_CALLBACK_DISPATCH_STRUCT`. -/
structure AsyncCallbackDispatch where
  type : DispatchType
  callbackResultCode : EventHubReceiverResult
  dataHandle : Option EventData
  deriving DecidableEq, Repr

/-- The callbacks of the user with their contexts: `EVENTHUBRECEIVER_ASYNC_CALLBACKS_STRUCT`, and
the fields of `EVENTHUBRECEIVER_STRUCT` that it copies. -/
structure AsyncCallbacks where
  onEventReceiveCallback : Option UserCallback := none
  onEventReceiveErrorCallback : Option UserCallback := none
  onEventReceiveEndCallback : Option UserCallback := none
  deriving DecidableEq, Repr

/-- The callback of the user that a dispatch goes to. -/
def AsyncCallbacks.forType (callbacks : AsyncCallbacks) : DispatchType → Option UserCallback
  | .receiveAsync => callbacks.onEventReceiveCallback
  | .receiveAsyncError => callbacks.onEventReceiveErrorCallback
  | .receiveAsyncEnd => callbacks.onEventReceiveEndCallback

/-- `threadState`. -/
inductive ThreadState
  | threadEnd
  | threadRun
  deriving DecidableEq, Repr

/-- `EVENTHUBRECEIVER_STATE` of `eventhubreceiver.c`. -/
inductive ThreadedReceiverState
  | inactive
  | active
  deriving DecidableEq, Repr

/-- `EVENTHUBRECEIVER_STRUCT`, with the low-level receiver in place of its handle. The defaults are
those that `CreateEventHubReceiver` writes. -/
structure EventHubReceiver (σ : Type) where
  eventHubReceiverLL : ReceiverState σ
  state : ThreadedReceiverState := .inactive
  threadState : ThreadState := .threadEnd
  callbacks : AsyncCallbacks := {}
  receiveCallbackList : List AsyncCallbackDispatch := []

/-- Where the worker stands in `EHR_AsyncWorkLoopThreadEntry`. The local `callbacks` of an iteration
is `none` until it is assigned. -/
inductive WorkerControl
  | loopHead
  /-- In `EventHubReceiver_LL_DoWork`, with `lockInfo` held. -/
  | doWork
  /-- In `AsyncDispatchCallbackListProcess`. -/
  | processing (callbacks : Option AsyncCallbacks)
  /-- In a callback of the user, called with a dispatch. -/
  | userCallback (callbacks : AsyncCallbacks) (dispatch : AsyncCallbackDispatch)
  | sleep
  | exited
  | undefinedBehaviour
  deriving DecidableEq, Repr

/-- How far `EventHubReceiver_Destroy` has come. -/
inductive Closing
  | open
  /-- In `ThreadAPI_Join`. -/
  | joining
  /-- In `EventHubReceiver_LL_Destroy`. -/
  | destroying
  | destroyed
  deriving DecidableEq, Repr

/-- What a threaded receiver shows, oldest first. -/
inductive ThreadedEvent
  /-- A receive call returned OK. -/
  | started (onReceive onError : UserCallback)
  /-- `EventHubReceiver_ReceiveEndAsync` returned OK. -/
  | ending (onEnd : Option UserCallback)
  /-- The worker has begun an iteration, and whether `Lock` succeeded. -/
  | iteration (locked : Bool)
  /-- A callback of the low-level receiver has queued a dispatch. -/
  | produced (dispatch : AsyncCallbackDispatch)
  /-- The worker has copied the callbacks and released the lock. -/
  | unlocked (callbacks : AsyncCallbacks)
  /-- The worker has called a callback of the user. -/
  | invoked (callback : UserCallback) (dispatch : AsyncCallbackDispatch)
  /-- `EventData_Destroy` was called on the event of a dispatch. -/
  | eventDataDestroyed (event : EventData)
  deriving DecidableEq, Repr

/-- A running threaded receiver. `worker` is `none` while `threadHandle` is NULL. -/
structure ThreadedReceiver (σ : Type) where
  receiver : EventHubReceiver σ
  worker : Option WorkerControl := none
  closing : Closing := .open
  log : List ThreadedEvent := []

/-- What the environment contributes to the deferred callbacks: whether `malloc` and
`EventData_Clone` succeed. -/
structure DispatchEnv where
  malloc : Bool := true
  clone : Bool := true

/-- What the environment contributes to a receive call: whether `Lock` and `ThreadAPI_Create`
succeed, and what the low-level call meets with. -/
structure ThreadedReceiveEnv where
  locks : Bool := true
  creates : Bool := true
  receive : ReceiveEnv := {}

/-- The calls of the users, and the steps of the worker and its environment. -/
inductive ThreadedInput (ι : Type)
  | receiveFromStartTimestampAsync (onReceive onError : Option UserCallback)
      (startTimestampInSec : UInt64) (env : ThreadedReceiveEnv)
  | receiveFromStartTimestampWithTimeoutAsync (onReceive onError : Option UserCallback)
      (startTimestampInSec : UInt64) (waitTimeoutInMs : UInt32) (env : ThreadedReceiveEnv)
  | receiveEndAsync (onEnd : Option UserCallback) (locks : Bool)
  | refreshSASTokenAsync (token : Option String) (env : RefreshEnv) (locks : Bool)
  | setConnectionTracing (traceEnabled : Bool) (locks : Bool)
  | destroy
  /-- The worker tests `threadState` and calls `Lock`. -/
  | iterate (locks : Bool) (env : ReceiverEnv ι) (alloc : DispatchEnv)
  /-- The present call of the low-level receiver goes on. -/
  | lowLevel (i : ReceiverInput ι) (alloc : DispatchEnv)
  /-- The worker copies the callbacks and calls `Unlock`. -/
  | unlock
  /-- The worker takes the next dispatch from the list. -/
  | process
  /-- The present callback of the user returns. -/
  | callbackReturn
  /-- `ThreadAPI_Sleep` returns. -/
  | wake
  /-- `ThreadAPI_Join` returns and succeeds, or is not called. -/
  | join (alloc : DispatchEnv)
  /-- `EventHubReceiver_LL_Destroy` returns. -/
  | deInit

namespace EventHubReceiver

variable {σ ι : Type} (auth : AuthModule σ ι)

/-! ### Deferred callbacks -/

/-- `DispatchCreateHelper`. -/
def dispatchCreateHelper (alloc : DispatchEnv) (resultCode : EventHubReceiverResult)
    (eventData : Option EventData) (type : DispatchType) : Option AsyncCallbackDispatch :=
  if !alloc.malloc then none
  else if eventData.isSome && !alloc.clone then none
  else some ⟨type, resultCode, eventData⟩

/-- `EHR_OnAsyncReceiveCB`, up to the dispatch that it queues. -/
def onAsyncReceiveCB (alloc : DispatchEnv) (result : EventHubReceiverResult)
    (eventData : Option EventData) : Option AsyncCallbackDispatch :=
  dispatchCreateHelper alloc result eventData .receiveAsync

/-- `EHR_OnAsyncReceiveErrorCB`, up to the dispatch that it queues. -/
def onAsyncReceiveErrorCB (alloc : DispatchEnv) (errorCode : EventHubReceiverResult) :
    Option AsyncCallbackDispatch :=
  dispatchCreateHelper alloc errorCode none .receiveAsyncError

/-- `EHR_OnAsyncEndCB`, up to the dispatch that it queues. -/
def onAsyncEndCB (alloc : DispatchEnv) (result : EventHubReceiverResult) :
    Option AsyncCallbackDispatch :=
  dispatchCreateHelper alloc result none .receiveAsyncEnd

/-- `EHR_OnAsyncReceiveCB` as a callback with its context. -/
def asyncReceive : UserCallback := ⟨0, none⟩

/-- `EHR_OnAsyncReceiveErrorCB` as a callback with its context. -/
def asyncReceiveError : UserCallback := ⟨1, none⟩

/-- `EHR_OnAsyncEndCB` as a callback with its context. -/
def asyncEnd : UserCallback := ⟨2, none⟩

/-- The dispatch that is queued when the low-level receiver calls a callback: it knows no others
than these. -/
def deferred (alloc : DispatchEnv) : ReceiverEvent → Option AsyncCallbackDispatch
  | .received _ event => onAsyncReceiveCB alloc .ok (some event)
  | .timedOut _ => onAsyncReceiveCB alloc .timeout none
  | .errorRaised _ r => onAsyncReceiveErrorCB alloc r
  | .ended _ r => onAsyncEndCB alloc r
  | _ => none

/-- Let the low-level receiver take a step, and queue what it calls back
(`AsyncDispatchCallbackListAdd`). -/
def lowLevel (s : ThreadedReceiver σ) (i : ReceiverInput ι) (alloc : DispatchEnv) :
    Option (ThreadedReceiver σ) :=
  (EventHubReceiverLL.step auth s.receiver.eventHubReceiverLL i).map fun ll =>
    let dispatches := (ll.log.drop s.receiver.eventHubReceiverLL.log.length).filterMap
      (deferred alloc)
    { s with
      receiver := { s.receiver with
        eventHubReceiverLL := ll
        receiveCallbackList := s.receiver.receiveCallbackList ++ dispatches }
      log := s.log ++ dispatches.map .produced }

/-! ### Public functions -/

/-- The low-level receive call of `ExecuteCommonReceiveFromStartTimestampAsync`. -/
def lowLevelReceive (ll : ReceiverState σ) (startTimestampInSec : UInt64)
    (waitTimeoutInMs : UInt32) (env : ReceiveEnv) : EventHubReceiverResult × ReceiverState σ :=
  if waitTimeoutInMs = 0 then
    EventHubReceiverLL.receiveFromStartTimestampAsync ll (some asyncReceive)
      (some asyncReceiveError) startTimestampInSec env
  else
    EventHubReceiverLL.receiveFromStartTimestampWithTimeoutAsync ll (some asyncReceive)
      (some asyncReceiveError) startTimestampInSec waitTimeoutInMs env

/-- The end of a receive call that succeeds. -/
def saveCallbacks (s : ThreadedReceiver σ) (onReceive onError : UserCallback) :
    ThreadedReceiver σ :=
  { s with
    receiver := { s.receiver with
      state := .active
      callbacks := ⟨some onReceive, some onError, none⟩ }
    log := s.log ++ [.started onReceive onError] }

/-- `ExecuteCommonReceiveFromStartTimestampAsync`. -/
def executeCommonReceiveFromStartTimestampAsync (s : ThreadedReceiver σ)
    (onReceive onError : Option UserCallback) (startTimestampInSec : UInt64)
    (waitTimeoutInMs : UInt32) (env : ThreadedReceiveEnv) :
    EventHubReceiverResult × ThreadedReceiver σ :=
  match onReceive, onError with
  | some onReceive, some onError =>
    if !env.locks then (.error, s)
    else if s.receiver.state ≠ .inactive then (.notAllowed, s)
    else
      let x := lowLevelReceive s.receiver.eventHubReceiverLL startTimestampInSec waitTimeoutInMs
        env.receive
      let s := { s with receiver := { s.receiver with eventHubReceiverLL := x.2 } }
      if x.1 ≠ .ok then (x.1, s)
      else if s.worker.isNone then
        if !env.creates then
          (.error, { s with receiver := { s.receiver with threadState := .threadEnd } })
        else
          (.ok, saveCallbacks
            { s with
              receiver := { s.receiver with threadState := .threadRun }
              worker := some .loopHead } onReceive onError)
      else (.ok, saveCallbacks s onReceive onError)
  | _, _ => (.invalidArg, s)

/-- `EventHubReceiver_ReceiveFromStartTimestampAsync`. -/
def receiveFromStartTimestampAsync (s : ThreadedReceiver σ)
    (onReceive onError : Option UserCallback) (startTimestampInSec : UInt64)
    (env : ThreadedReceiveEnv) : EventHubReceiverResult × ThreadedReceiver σ :=
  executeCommonReceiveFromStartTimestampAsync s onReceive onError startTimestampInSec 0 env

/-- `EventHubReceiver_ReceiveFromStartTimestampWithTimeoutAsync`. -/
def receiveFromStartTimestampWithTimeoutAsync (s : ThreadedReceiver σ)
    (onReceive onError : Option UserCallback) (startTimestampInSec : UInt64)
    (waitTimeoutInMs : UInt32) (env : ThreadedReceiveEnv) :
    EventHubReceiverResult × ThreadedReceiver σ :=
  executeCommonReceiveFromStartTimestampAsync s onReceive onError startTimestampInSec
    waitTimeoutInMs env

/-- `EventHubReceiver_ReceiveEndAsync`. -/
def receiveEndAsync (s : ThreadedReceiver σ) (onEnd : Option UserCallback) (locks : Bool) :
    EventHubReceiverResult × ThreadedReceiver σ :=
  if !locks then (.error, s)
  else if s.receiver.state ≠ .active then (.notAllowed, s)
  else
    let x := EventHubReceiverLL.receiveEndAsync s.receiver.eventHubReceiverLL
      (if onEnd.isSome then some asyncEnd else none)
    let s := { s with receiver := { s.receiver with eventHubReceiverLL := x.2 } }
    if x.1 ≠ .ok then (x.1, s)
    else
      (.ok, { s with
        receiver := { s.receiver with
          state := .inactive
          callbacks := ⟨none, none, onEnd⟩ }
        log := s.log ++ [.ending onEnd] })

/-- `EventHubReceiver_RefreshSASTokenAsync`. -/
def refreshSASTokenAsync (s : ThreadedReceiver σ) (token : Option String) (env : RefreshEnv)
    (locks : Bool) : EventHubReceiverResult × ThreadedReceiver σ :=
  if token.isNone then (.invalidArg, s)
  else if !locks then (.error, s)
  else
    let x := EventHubReceiverLL.refreshSASTokenAsync s.receiver.eventHubReceiverLL token env
    (x.1, { s with receiver := { s.receiver with eventHubReceiverLL := x.2 } })

/-- `EventHubReceiver_SetConnectionTracing`. -/
def setConnectionTracing (s : ThreadedReceiver σ) (traceEnabled : Bool) (locks : Bool) :
    EventHubReceiverResult × ThreadedReceiver σ :=
  if !locks then (.error, s)
  else
    (.ok, { s with
      receiver := { s.receiver with
        eventHubReceiverLL :=
          EventHubReceiverLL.setConnectionTracing s.receiver.eventHubReceiverLL traceEnabled } })

/-! ### The worker -/

/-- One turn of `AsyncDispatchCallbackListProcess`. A dispatch without a callback is freed, and its
event is not destroyed. -/
def asyncDispatchCallbackListProcess (s : ThreadedReceiver σ) (callbacks : Option AsyncCallbacks) :
    ThreadedReceiver σ :=
  match s.receiver.receiveCallbackList with
  | [] => { s with worker := some .sleep }
  | dispatch :: rest =>
    match callbacks with
    | none => { s with worker := some .undefinedBehaviour }
    | some callbacks =>
      let s := { s with receiver := { s.receiver with receiveCallbackList := rest } }
      match callbacks.forType dispatch.type with
      | none => { s with worker := some (.processing (some callbacks)) }
      | some callback =>
        { s with
          worker := some (.userCallback callbacks dispatch)
          log := s.log ++ [.invoked callback dispatch] }

/-- The callback of the user returns. -/
def callbackReturn (s : ThreadedReceiver σ) (callbacks : AsyncCallbacks)
    (dispatch : AsyncCallbackDispatch) : ThreadedReceiver σ :=
  { s with
    worker := some (.processing (some callbacks))
    log := s.log ++
      match dispatch.type, dispatch.dataHandle with
      | .receiveAsync, some event => [.eventDataDestroyed event]
      | _, _ => [] }

/-- The worker begins an iteration of its loop, or leaves it. -/
def iterate (s : ThreadedReceiver σ) (locks : Bool) (env : ReceiverEnv ι) (alloc : DispatchEnv) :
    Option (ThreadedReceiver σ) :=
  if s.receiver.threadState = .threadEnd then some { s with worker := some .exited }
  else
    let log := s.log ++ [.iteration locks]
    if locks then lowLevel auth { s with worker := some .doWork, log := log } (.doWork env) alloc
    else some { s with worker := some (.processing none), log := log }

/-- The worker copies the callbacks and releases the lock. -/
def unlock (s : ThreadedReceiver σ) : ThreadedReceiver σ :=
  { s with
    worker := some (.processing (some s.receiver.callbacks))
    log := s.log ++ [.unlocked s.receiver.callbacks] }

/-! ### The machine -/

/-- Whether the users may call the public functions and `lockInfo` is free: its other critical
sections are steps. -/
def mayLock (s : ThreadedReceiver σ) : Bool :=
  s.closing = .open && s.worker ≠ some .doWork

/-- One step of a threaded receiver; `none` when the input cannot occur. -/
def step (s : ThreadedReceiver σ) (i : ThreadedInput ι) : Option (ThreadedReceiver σ) :=
  match i with
  | .receiveFromStartTimestampAsync onReceive onError timestamp env =>
    if mayLock s then
      some (receiveFromStartTimestampAsync s onReceive onError timestamp env).2
    else none
  | .receiveFromStartTimestampWithTimeoutAsync onReceive onError timestamp timeout env =>
    if mayLock s then
      some (receiveFromStartTimestampWithTimeoutAsync s onReceive onError timestamp timeout env).2
    else none
  | .receiveEndAsync onEnd locks =>
    if mayLock s then some (receiveEndAsync s onEnd locks).2 else none
  | .refreshSASTokenAsync token env locks =>
    if mayLock s then some (refreshSASTokenAsync s token env locks).2 else none
  | .setConnectionTracing on locks =>
    if mayLock s then some (setConnectionTracing s on locks).2 else none
  | .destroy =>
    if s.closing = .open then
      some { s with
        receiver := { s.receiver with threadState := .threadEnd }
        closing := .joining }
    else none
  | .iterate locks env alloc =>
    if s.worker = some .loopHead then iterate auth s locks env alloc else none
  | .lowLevel i alloc =>
    if (s.worker = some .doWork || s.closing = .destroying) && i.internal then
      lowLevel auth s i alloc
    else none
  | .unlock =>
    if s.worker = some .doWork && s.receiver.eventHubReceiverLL.control = .idle then
      some (unlock s)
    else none
  | .process =>
    match s.worker with
    | some (.processing callbacks) => some (asyncDispatchCallbackListProcess s callbacks)
    | _ => none
  | .callbackReturn =>
    match s.worker with
    | some (.userCallback callbacks dispatch) => some (callbackReturn s callbacks dispatch)
    | _ => none
  | .wake => if s.worker = some .sleep then some { s with worker := some .loopHead } else none
  | .join alloc =>
    if s.closing = .joining && (s.worker = none || s.worker = some .exited) then
      lowLevel auth { s with closing := .destroying } .destroy alloc
    else none
  | .deInit =>
    if s.closing = .destroying && s.receiver.eventHubReceiverLL.control = .destroyed then
      some { s with
        receiver := { s.receiver with receiveCallbackList := [] }
        closing := .destroyed
        log := s.log ++ (s.receiver.receiveCallbackList.filterMap (·.dataHandle)).map
          .eventDataDestroyed }
    else none

/-- The threaded receiver over an authentication module. -/
def threadedMachine : Machine (ThreadedReceiver σ) (ThreadedInput ι) where
  step := step auth

/-- A threaded receiver as `EventHubReceiver_Create` or `EventHubReceiver_CreateFromSASToken` leaves
it. -/
def created (c : EventHubReceiverLL σ) : ThreadedReceiver σ :=
  { receiver := { eventHubReceiverLL := { client := c } } }

end EventHubReceiver

end EventHubs
