import EventHubs.Library.Chronicle
import EventHubs.Threaded.Spec
import Mathlib.Data.List.Flatten

/-!
# What the worker forwards

The log of the worker is a list of iterations. In an iteration whose `Lock` fails nothing happens.
In any other, `EventHubReceiver_LL_DoWork` queues some dispatches under the lock, the callbacks are
copied, the lock is released, and the dispatches are given to the copied callbacks in the order in
which they were queued. The list of dispatches is empty between two iterations, so an iteration
whose `Lock` has failed does not look at the callbacks, which it has not copied.

A dispatch is dropped when its callback is NULL. That happens to receive and error dispatches only,
after `EventHubReceiver_ReceiveEndAsync` has cleared both callbacks.

## Main definitions

* `Iteration`, `Iteration.events`, `Iteration.Sound`.
* `EventHubReceiver.DispatchInv` — the invariant.
* `EventHubReceiver.Forwards` — the log is made of iterations.

## Main results

* `EventHubReceiver.step_dispatchInv`, `EventHubReceiver.run_forwards`.
-/

namespace EventHubs

/-- One turn of the loop of the worker: whether `Lock` succeeded, the dispatches that were queued
before `Unlock`, and the callbacks that were copied. -/
structure Iteration where
  locked : Bool
  dispatches : List AsyncCallbackDispatch
  callbacks : AsyncCallbacks

namespace Iteration

/-- The calls of the user's callbacks: a dispatch whose callback is NULL is dropped. -/
def invocations (it : Iteration) : List ThreadedEvent :=
  it.dispatches.filterMap fun dispatch ↦
    (it.callbacks.forType dispatch.type).map fun callback ↦ .invoked callback dispatch

/-- What the worker shows in one turn. -/
def events (it : Iteration) : List ThreadedEvent :=
  if it.locked then
    .iteration true :: (it.dispatches.map .produced ++ .unlocked it.callbacks :: it.invocations)
  else [.iteration false]

/-- Nothing is queued without the lock, and a dispatch that is dropped belongs to a reception whose
receive and error callbacks have been cleared. -/
structure Sound (it : Iteration) : Prop where
  unlocked : it.locked = false → it.dispatches = []
  dropped : ∀ dispatch ∈ it.dispatches, it.callbacks.forType dispatch.type = none →
    dispatch.type ≠ .receiveAsyncEnd ∧ it.callbacks.onEventReceiveCallback = none ∧
      it.callbacks.onEventReceiveErrorCallback = none

end Iteration

namespace ThreadedEvent

/-- What the worker shows. -/
def ofWorker : ThreadedEvent → Bool
  | .iteration _ => true
  | .produced _ => true
  | .unlocked _ => true
  | .invoked _ _ => true
  | _ => false

/-- The calls of the users that change the registered callbacks. -/
def registers : ThreadedEvent → Bool
  | .started _ _ => true
  | .ending _ => true
  | _ => false

/-- The dispatch that was queued. -/
def queued : ThreadedEvent → Option AsyncCallbackDispatch
  | .produced dispatch => some dispatch
  | _ => none

/-- The dispatch with which a callback of the user was called. -/
def given : ThreadedEvent → Option AsyncCallbackDispatch
  | .invoked _ dispatch => some dispatch
  | _ => none

/-- The callbacks that a call registers. -/
def saved : ThreadedEvent → AsyncCallbacks
  | .started onReceive onError => ⟨some onReceive, some onError, none⟩
  | .ending onEnd => ⟨none, none, onEnd⟩
  | _ => {}

end ThreadedEvent

/-- The last call that registered callbacks. -/
def lastCall (log : List ThreadedEvent) : Option ThreadedEvent :=
  (log.filter ThreadedEvent.registers).getLast?

/-- The callbacks that are copied are those that the last call has registered. -/
def Snapshot (past : List ThreadedEvent) : ThreadedEvent → Prop
  | .unlocked callbacks => ∃ e, lastCall past = some e ∧ callbacks = e.saved
  | _ => True

theorem lastCall_append_of_forall {log events : List ThreadedEvent}
    (h : ∀ e ∈ events, e.registers = false) : lastCall (log ++ events) = lastCall log := by
  have hnil : events.filter ThreadedEvent.registers = [] :=
    List.filter_eq_nil_iff.mpr fun e he ↦ by simp [h e he]
  rw [lastCall, List.filter_append, hnil, List.append_nil, lastCall]

theorem lastCall_concat {log : List ThreadedEvent} {e : ThreadedEvent} (h : e.registers = true) :
    lastCall (log ++ [e]) = some e := by
  simp [lastCall, h]

/-- The worker shows none of the calls of the users. -/
theorem ThreadedEvent.of_registers {e : ThreadedEvent} (he : e.registers = true) :
    e.ofWorker = false ∧ e.queued = none ∧ ∀ past, Snapshot past e := by
  cases e <;> first | exact ⟨rfl, rfl, fun _ ↦ trivial⟩ | cases he

namespace EventHubReceiver

variable {σ ι : Type} (auth : AuthModule σ ι) {s t : ThreadedReceiver σ}

/-- The part of an iteration that is over, when its dispatches are `dispatches` of which those in
`rest` are still on the list. -/
def delivering (dispatches rest : List AsyncCallbackDispatch) (callbacks : AsyncCallbacks) :
    List ThreadedEvent :=
  .iteration true :: ((dispatches ++ rest).map .produced ++
    .unlocked callbacks :: (⟨true, dispatches, callbacks⟩ : Iteration).invocations)

/-- What the present iteration has shown, in view of where the worker stands. -/
def Stage (list : List AsyncCallbackDispatch) (callbacks : AsyncCallbacks)
    (part : List ThreadedEvent) : Option WorkerControl → Prop
  | some .doWork => part = .iteration true :: list.map .produced ∧
    ∀ dispatch ∈ list, dispatch.type = .receiveAsyncEnd →
      callbacks.onEventReceiveEndCallback ≠ none
  | some (.processing (some copied)) => ∃ done, part = delivering done list copied ∧
    (⟨true, done ++ list, copied⟩ : Iteration).Sound
  | some (.userCallback copied _) => ∃ done, part = delivering done list copied ∧
    (⟨true, done ++ list, copied⟩ : Iteration).Sound
  | some (.processing none) => part = [.iteration false] ∧ list = []
  | some .undefinedBehaviour => False
  | _ => part = [] ∧ list = []

/-- The log of the worker consists of whole iterations and a part of the present one. -/
def Iterates (s : ThreadedReceiver σ) : Prop :=
  ∃ (its : List Iteration) (part : List ThreadedEvent),
    s.log.filter ThreadedEvent.ofWorker = its.flatMap Iteration.events ++ part ∧
    (∀ it ∈ its, it.Sound) ∧
    Stage s.receiver.receiveCallbackList s.receiver.callbacks part s.worker

/-- What holds until `EventHubReceiver_LL_Destroy` is called. -/
structure DispatchInv (s : ThreadedReceiver σ) : Prop where
  saved : s.receiver.callbacks = (lastCall s.log).elim {} ThreadedEvent.saved
  called : s.worker ≠ none → lastCall s.log ≠ none
  onEnd : s.receiver.eventHubReceiverLL.client.callback.onEventReceiveEndCallback ≠ none →
    s.receiver.callbacks.onEventReceiveEndCallback ≠ none
  snapshots : Chronicle Snapshot s.log
  forwarded : s.receiver.eventHubReceiverLL.log.filterMap (deferred {}) =
    s.log.filterMap ThreadedEvent.queued
  iterates : Iterates s

/-! ### Stages -/

/-- Outside the lock the registered callbacks do not matter. -/
theorem Stage.congr {list : List AsyncCallbackDispatch} {callbacks callbacks' : AsyncCallbacks}
    {part : List ThreadedEvent} {w : Option WorkerControl} (h : Stage list callbacks part w)
    (hw : w ≠ some .doWork) : Stage list callbacks' part w := by
  unfold Stage at h ⊢
  split at h <;> first | exact h | exact absurd rfl hw

theorem invocations_append (l m : List AsyncCallbackDispatch) (callbacks : AsyncCallbacks) :
    (⟨true, l ++ m, callbacks⟩ : Iteration).invocations =
      (⟨true, l, callbacks⟩ : Iteration).invocations ++
        (⟨true, m, callbacks⟩ : Iteration).invocations := List.filterMap_append

theorem delivering_done (dispatches : List AsyncCallbackDispatch) (callbacks : AsyncCallbacks) :
    delivering dispatches [] callbacks = (⟨true, dispatches, callbacks⟩ : Iteration).events := by
  rw [delivering, List.append_nil, Iteration.events, if_pos rfl]

/-- The next dispatch on the list goes to its callback. -/
theorem delivering_next (dispatches rest : List AsyncCallbackDispatch)
    (dispatch : AsyncCallbackDispatch) (callbacks : AsyncCallbacks) :
    delivering (dispatches ++ [dispatch]) rest callbacks =
      delivering dispatches (dispatch :: rest) callbacks ++
        (⟨true, [dispatch], callbacks⟩ : Iteration).invocations := by
  simp [delivering, invocations_append]

theorem delivering_completes (dispatches rest : List AsyncCallbackDispatch)
    (callbacks : AsyncCallbacks) :
    delivering dispatches rest callbacks <+:
      (⟨true, dispatches ++ rest, callbacks⟩ : Iteration).events := by
  refine ⟨(⟨true, rest, callbacks⟩ : Iteration).invocations, ?_⟩
  simp [delivering, Iteration.events, invocations_append]

theorem sound_empty : (⟨false, [], {}⟩ : Iteration).Sound := ⟨fun _ ↦ rfl, by simp⟩

/-- Callbacks that a call has registered are dropped for receive and error dispatches together. -/
theorem sound_saved {e : ThreadedEvent} {list : List AsyncCallbackDispatch}
    (he : e.registers = true)
    (hend : ∀ dispatch ∈ list, dispatch.type = .receiveAsyncEnd →
      e.saved.onEventReceiveEndCallback ≠ none) :
    (⟨true, list, e.saved⟩ : Iteration).Sound := by
  refine ⟨nofun, fun dispatch hmem hnone ↦ ?_⟩
  have hnotEnd : dispatch.type ≠ .receiveAsyncEnd := fun h ↦ by
    rw [h] at hnone
    exact hend dispatch hmem h hnone
  refine ⟨hnotEnd, ?_⟩
  cases e with
  | ending onEnd => exact ⟨rfl, rfl⟩
  | started onReceive onError =>
    cases htype : dispatch.type with
    | receiveAsyncEnd => exact absurd htype hnotEnd
    | _ => simp [htype, AsyncCallbacks.forType, ThreadedEvent.saved] at hnone
  | _ => cases he

theorem registers_of_lastCall {log : List ThreadedEvent} {e : ThreadedEvent}
    (h : lastCall log = some e) : e.registers = true :=
  (List.mem_filter.mp (List.mem_of_getLast? h)).2

/-- The callbacks that are registered while the worker exists. -/
theorem DispatchInv.registered (hs : DispatchInv s) {w : WorkerControl} (hw : s.worker = some w) :
    ∃ e, lastCall s.log = some e ∧ e.registers = true ∧ s.receiver.callbacks = e.saved := by
  obtain ⟨e, he⟩ := Option.ne_none_iff_exists'.mp (hs.called (by simp [hw]))
  exact ⟨e, he, registers_of_lastCall he, by rw [hs.saved, he]; rfl⟩

/-! ### Steps -/

/-- A critical section of a user that registers nothing. -/
theorem DispatchInv.locked (hs : DispatchInv s) (hworker : s.worker ≠ some .doWork)
    (hsame : t.worker = s.worker) (hlog : t.log = s.log)
    (hcallbacks : t.receiver.callbacks = s.receiver.callbacks)
    (hlist : t.receiver.receiveCallbackList = s.receiver.receiveCallbackList)
    (honEnd : t.receiver.eventHubReceiverLL.client.callback.onEventReceiveEndCallback ≠ none →
      s.receiver.eventHubReceiverLL.client.callback.onEventReceiveEndCallback ≠ none)
    (hll : t.receiver.eventHubReceiverLL.log.filterMap (deferred {}) =
      s.receiver.eventHubReceiverLL.log.filterMap (deferred {})) : DispatchInv t := by
  obtain ⟨its, part, hits, hsound, hstage⟩ := hs.iterates
  refine ⟨?_, ?_, fun h ↦ ?_, ?_, ?_, its, part, ?_, hsound, ?_⟩
  · rw [hcallbacks, hlog]
    exact hs.saved
  · rw [hsame, hlog]
    exact hs.called
  · rw [hcallbacks]
    exact hs.onEnd (honEnd h)
  · rw [hlog]
    exact hs.snapshots
  · rw [hll, hlog]
    exact hs.forwarded
  · rw [hlog]
    exact hits
  · rw [hlist, hsame]
    exact hstage.congr hworker

/-- A critical section of a user that registers callbacks. -/
theorem DispatchInv.register (hs : DispatchInv s) (hworker : s.worker ≠ some .doWork)
    {e : ThreadedEvent} (he : e.registers = true) (hlog : t.log = s.log ++ [e])
    (hsame : t.worker = s.worker ∨ s.worker = none ∧ t.worker = some .loopHead)
    (hcallbacks : t.receiver.callbacks = e.saved)
    (hlist : t.receiver.receiveCallbackList = s.receiver.receiveCallbackList)
    (honEnd : t.receiver.eventHubReceiverLL.client.callback.onEventReceiveEndCallback ≠ none →
      e.saved.onEventReceiveEndCallback ≠ none)
    (hll : t.receiver.eventHubReceiverLL.log.filterMap (deferred {}) =
      s.receiver.eventHubReceiverLL.log.filterMap (deferred {})) : DispatchInv t := by
  obtain ⟨its, part, hits, hsound, hstage⟩ := hs.iterates
  have hlast : lastCall t.log = some e := by rw [hlog, lastCall_concat he]
  obtain ⟨hnotWorker, hnotQueued, hsnapshot⟩ := ThreadedEvent.of_registers he
  have hworkerLog : t.log.filter ThreadedEvent.ofWorker = s.log.filter ThreadedEvent.ofWorker := by
    simp [hlog, hnotWorker]
  have hqueued : t.log.filterMap ThreadedEvent.queued = s.log.filterMap ThreadedEvent.queued := by
    simp [hlog, hnotQueued]
  refine ⟨?_, fun _ ↦ by simp [hlast], fun h ↦ ?_, ?_, ?_, its, part, ?_, hsound, ?_⟩
  · rw [hcallbacks, hlast]
    rfl
  · rw [hcallbacks]
    exact honEnd h
  · rw [hlog]
    exact hs.snapshots.concat (hsnapshot _)
  · rw [hll, hqueued]
    exact hs.forwarded
  · rw [hworkerLog]
    exact hits
  · rw [hlist]
    rcases hsame with hsame | ⟨hnone, hhead⟩
    · rw [hsame]
      exact hstage.congr hworker
    · rw [hnone] at hstage
      rw [hhead]
      exact hstage

/-- A step of the worker outside `EventHubReceiver_LL_DoWork`. -/
theorem DispatchInv.work (hs : DispatchInv s) (events : List ThreadedEvent)
    (hlog : t.log = s.log ++ events)
    (hevents : ∀ e ∈ events, e.registers = false ∧ e.queued = none)
    (hsnapshots : Chronicle Snapshot (s.log ++ events)) (hworker : s.worker ≠ none)
    (hcallbacks : t.receiver.callbacks = s.receiver.callbacks)
    (hll : t.receiver.eventHubReceiverLL = s.receiver.eventHubReceiverLL)
    (hiterates : Iterates t) : DispatchInv t := by
  have hlast : lastCall t.log = lastCall s.log := by
    rw [hlog, lastCall_append_of_forall fun e he ↦ (hevents e he).1]
  have hnil : events.filterMap ThreadedEvent.queued = [] :=
    List.filterMap_eq_nil_iff.mpr fun e he ↦ (hevents e he).2
  refine ⟨?_, fun _ ↦ ?_, fun h ↦ ?_, hlog ▸ hsnapshots, ?_, hiterates⟩
  · rw [hcallbacks, hlast]
    exact hs.saved
  · rw [hlast]
    exact hs.called hworker
  · rw [hcallbacks]
    exact hs.onEnd (hll ▸ h)
  · rw [hll, hlog, List.filterMap_append, hnil, List.append_nil]
    exact hs.forwarded

/-- The step shows nothing of the worker's. -/
theorem Iterates.of_stage (hs : Iterates s) (events : List ThreadedEvent)
    (hlog : t.log = s.log ++ events) (hevents : ∀ e ∈ events, e.ofWorker = false)
    (hstage : ∀ part, Stage s.receiver.receiveCallbackList s.receiver.callbacks part s.worker →
      Stage t.receiver.receiveCallbackList t.receiver.callbacks part t.worker) : Iterates t := by
  obtain ⟨its, part, hits, hsound, hpart⟩ := hs
  have hnil : events.filter ThreadedEvent.ofWorker = [] :=
    List.filter_eq_nil_iff.mpr fun e he ↦ by simp [hevents e he]
  refine ⟨its, part, ?_, hsound, hstage part hpart⟩
  rw [hlog, List.filter_append, hnil, List.append_nil]
  exact hits

/-- The step shows something of the present iteration. -/
theorem Iterates.of_shown (hs : Iterates s) (events : List ThreadedEvent)
    (hlog : t.log = s.log ++ events) (hevents : ∀ e ∈ events, e.ofWorker = true)
    (hstage : ∀ part, Stage s.receiver.receiveCallbackList s.receiver.callbacks part s.worker →
      Stage t.receiver.receiveCallbackList t.receiver.callbacks (part ++ events) t.worker) :
    Iterates t := by
  obtain ⟨its, part, hits, hsound, hpart⟩ := hs
  have hall : events.filter ThreadedEvent.ofWorker = events := List.filter_eq_self.mpr hevents
  refine ⟨its, part ++ events, ?_, hsound, hstage part hpart⟩
  rw [hlog, List.filter_append, hall, hits, List.append_assoc]

/-- The present iteration is over. -/
theorem Iterates.of_finished (hs : Iterates s) (hlog : t.log = s.log)
    (hstage : ∀ part, Stage s.receiver.receiveCallbackList s.receiver.callbacks part s.worker →
      ∃ it : Iteration, it.Sound ∧ part = it.events)
    (hdone : Stage t.receiver.receiveCallbackList t.receiver.callbacks [] t.worker) :
    Iterates t := by
  obtain ⟨its, part, hits, hsound, hpart⟩ := hs
  obtain ⟨it, hit, rfl⟩ := hstage part hpart
  refine ⟨its ++ [it], [], ?_, fun it' hmem ↦ ?_, hdone⟩
  · rw [hlog, hits, List.flatMap_append, List.append_nil, List.flatMap_singleton]
  · rcases List.mem_append.mp hmem with hmem | hmem
    · exact hsound it' hmem
    · exact List.mem_singleton.mp hmem ▸ hit

/-- `EventHubReceiver_LL_DoWork` queues what the low-level receiver calls back. -/
theorem DispatchInv.lowLevel (hs : DispatchInv s) {i : ReceiverInput ι}
    (hi : i.internal = true ∨ i = .destroy ∨ ∃ env, i = .doWork env)
    (hworker : s.worker = some .doWork) (h : LowLevelStep auth s i {} t) : DispatchInv t := by
  have hserved := EventHubReceiverLL.step_served auth h.step hi
  obtain ⟨events, hevents, hended⟩ := hserved.log
  have hlist := h.list
  have hlog := h.log
  rw [hevents, List.drop_left] at hlist hlog
  have hcallbacks : t.receiver.callbacks = s.receiver.callbacks := by rw [h.eq]
  have hsame : t.worker = some .doWork := by rw [h.eq]; exact hworker
  have hnone : ∀ e ∈ (events.filterMap (deferred {})).map ThreadedEvent.produced,
      e.registers = false ∧ e.ofWorker = true ∧ ∀ past, Snapshot past e := by
    intro e he
    obtain ⟨dispatch, -, rfl⟩ := List.mem_map.mp he
    exact ⟨rfl, rfl, fun _ ↦ trivial⟩
  have hlast : lastCall t.log = lastCall s.log := by
    rw [hlog, lastCall_append_of_forall fun e he ↦ (hnone e he).1]
  have hqueued : ∀ l : List AsyncCallbackDispatch,
      (l.map ThreadedEvent.produced).filterMap ThreadedEvent.queued = l := fun l ↦ by
    simp [List.filterMap_map, Function.comp_def, ThreadedEvent.queued]
  refine ⟨?_, fun _ ↦ ?_, fun hend ↦ ?_, ?_, ?_, ?_⟩
  · rw [hcallbacks, hlast]
    exact hs.saved
  · rw [hlast]
    exact hs.called (by simp [hworker])
  · rw [hcallbacks]
    exact hs.onEnd (hserved.onEnd hend)
  · rw [hlog]
    exact hs.snapshots.append_of_forall fun e he past ↦ (hnone e he).2.2 past
  · rw [hevents, hlog, List.filterMap_append, List.filterMap_append, hqueued, hs.forwarded]
  · refine hs.iterates.of_shown _ hlog (fun e he ↦ (hnone e he).2.1) fun part hpart ↦ ?_
    rw [hworker] at hpart
    obtain ⟨rfl, hends⟩ := hpart
    rw [hlist, hcallbacks, hsame]
    refine ⟨by simp, fun dispatch hmem htype ↦ ?_⟩
    rcases List.mem_append.mp hmem with hmem | hmem
    · exact hends dispatch hmem htype
    · obtain ⟨e, he, hdispatch⟩ := List.mem_filterMap.mp hmem
      refine hs.onEnd ?_
      cases e with
      | ended callback r => exact hended callback r he
      | _ =>
        -- the other events queue dispatches of other types
        simp [deferred, onAsyncReceiveCB, onAsyncReceiveErrorCB, dispatchCreateHelper] at hdispatch
        try simp [← hdispatch] at htype

/-- A receive call registers the callbacks it was given, or nothing. -/
theorem DispatchInv.receive (hs : DispatchInv s) (hmay : mayLock s = true)
    (onReceive onError : Option UserCallback) (ts : UInt64) (timeout : UInt32)
    (env : ThreadedReceiveEnv) : DispatchInv
      (executeCommonReceiveFromStartTimestampAsync s onReceive onError ts timeout env).2 := by
  obtain ⟨-, hworker⟩ := before_of_mayLock hmay
  have hshown : ∀ {r : EventHubReceiverResult} {ll : ReceiverState σ},
      lowLevelReceive s.receiver.eventHubReceiverLL ts timeout env.receive = (r, ll) →
      ll.log.filterMap (deferred {}) =
        s.receiver.eventHubReceiverLL.log.filterMap (deferred {}) ∧
      (ll.client.callback.onEventReceiveEndCallback ≠ none →
        s.receiver.eventHubReceiverLL.client.callback.onEventReceiveEndCallback ≠ none) ∧
      (r = .ok → ll.client.callback.onEventReceiveEndCallback = none) := by
    intro r ll hll
    rw [lowLevelReceive_eq] at hll
    rcases EventHubReceiverLL.receiveAsyncCommon_cases s.receiver.eventHubReceiverLL
        (some asyncReceive) (some asyncReceiveError) ts timeout env.receive with
      ⟨r', hr, h⟩ | ⟨r', tick, filter, hr, -, -, -, h⟩ | ⟨receiveCb, errorCb, tick, -, -, -, h⟩
    all_goals obtain ⟨rfl, rfl⟩ := Prod.mk.inj (h.symm.trans hll)
    · exact ⟨rfl, id, fun hok ↦ absurd hok hr⟩
    · exact ⟨rfl, id, fun hok ↦ absurd hok hr⟩
    · refine ⟨?_, fun hne ↦ absurd rfl hne, fun _ ↦ rfl⟩
      rw [List.filterMap_append]
      exact List.append_nil _
  have hcases := executeCommon_cases s onReceive onError ts timeout env
  generalize executeCommonReceiveFromStartTimestampAsync s onReceive onError ts timeout env = x
    at hcases
  cases hcases with
  | refused => exact hs
  | failed r ll hr hstate hll =>
    obtain ⟨hlog, hend, -⟩ := hshown hll
    exact hs.locked hworker rfl rfl rfl rfl hend hlog
  | threadless ll hstate hll =>
    obtain ⟨hlog, hend, -⟩ := hshown hll
    exact hs.locked hworker rfl rfl rfl rfl hend hlog
  | started receiveCb errorCb ll threadState worker hstate _ _ hll hthread =>
    obtain ⟨hlog, -, hnone⟩ := hshown hll
    refine hs.register hworker (e := .started receiveCb errorCb) rfl rfl ?_ rfl rfl
      (fun h ↦ absurd (hnone rfl) h) hlog
    rcases hthread with ⟨hthread, -⟩ | ⟨hthread, rfl, -⟩
    · exact Or.inl hthread.symm
    · exact Or.inr ⟨hthread, rfl⟩

/-- `EventHubReceiver_ReceiveEndAsync` registers the end callback it was given, or nothing. -/
theorem DispatchInv.receiveEnd (hs : DispatchInv s) (hmay : mayLock s = true)
    (onEnd : Option UserCallback) (locks : Bool) :
    DispatchInv (receiveEndAsync s onEnd locks).2 := by
  obtain ⟨-, hworker⟩ := before_of_mayLock hmay
  rcases receiveEndAsync_cases s onEnd locks with ⟨r, -, h⟩ | ⟨ll, -, -, hll, h⟩ <;> rw [h]
  · exact hs
  · rcases EventHubReceiverLL.receiveEndAsync_cases s.receiver.eventHubReceiverLL
      (if onEnd.isSome then some asyncEnd else none) with ⟨-, h'⟩ | ⟨-, h'⟩
    all_goals obtain ⟨hok, rfl⟩ := Prod.mk.inj (h'.symm.trans hll)
    · cases hok
    · refine hs.register hworker (e := .ending onEnd) rfl rfl (Or.inl rfl) rfl rfl ?_ ?_
      · intro hne hnone
        have hnone : onEnd = none := hnone
        exact hne (by simp [hnone])
      · rw [List.filterMap_append]
        exact List.append_nil _

/-- A turn of `AsyncDispatchCallbackListProcess`. -/
theorem DispatchInv.process (hs : DispatchInv s) {callbacks : Option AsyncCallbacks}
    (hworker : s.worker = some (.processing callbacks)) :
    DispatchInv (asyncDispatchCallbackListProcess s callbacks) := by
  have hnone : s.worker ≠ none := by simp [hworker]
  have hresult := process_result s callbacks
  generalize asyncDispatchCallbackListProcess s callbacks = t at hresult ⊢
  cases hresult with
  | done _ hlist =>
    refine hs.work [] (List.append_nil _).symm nofun
      ((List.append_nil s.log).symm ▸ hs.snapshots) hnone rfl rfl ?_
    refine hs.iterates.of_finished rfl (fun part hpart ↦ ?_) ⟨rfl, hlist⟩
    rw [hworker, hlist] at hpart
    cases callbacks with
    | none => exact ⟨⟨false, [], {}⟩, sound_empty, hpart.1⟩
    | some copied =>
      obtain ⟨done, rfl, hsound⟩ := hpart
      exact ⟨_, List.append_nil done ▸ hsound, delivering_done done copied⟩
  | unassigned dispatch rest hlist =>
    -- the list is empty in an iteration whose `Lock` has failed
    obtain ⟨its, part, -, -, hpart⟩ := hs.iterates
    rw [hworker, hlist] at hpart
    exact absurd hpart.2 nofun
  | dropped copied dispatch rest hlist hdropped =>
    refine hs.work [] (List.append_nil _).symm nofun
      ((List.append_nil s.log).symm ▸ hs.snapshots) hnone rfl rfl ?_
    refine hs.iterates.of_shown [] (List.append_nil _).symm nofun fun part hpart ↦ ?_
    rw [hworker, hlist] at hpart
    obtain ⟨done, rfl, hsound⟩ := hpart
    refine ⟨done ++ [dispatch], ?_, ?_⟩
    · have hskip : (⟨true, [dispatch], copied⟩ : Iteration).invocations = [] := by
        simp [Iteration.invocations, hdropped]
      rw [delivering_next, hskip]
    · rw [List.append_assoc]
      exact hsound
  | invoked copied dispatch rest callback hlist hcallback =>
    refine hs.work [.invoked callback dispatch] rfl (by simp [ThreadedEvent.registers,
      ThreadedEvent.queued]) (hs.snapshots.concat trivial) hnone rfl rfl ?_
    refine hs.iterates.of_shown [.invoked callback dispatch] rfl
      (by simp [ThreadedEvent.ofWorker]) fun part hpart ↦ ?_
    rw [hworker, hlist] at hpart
    obtain ⟨done, rfl, hsound⟩ := hpart
    refine ⟨done ++ [dispatch], ?_, ?_⟩
    · have hcall : (⟨true, [dispatch], copied⟩ : Iteration).invocations =
          [.invoked callback dispatch] := by
        simp [Iteration.invocations, hcallback]
      rw [delivering_next, hcall]
    · rw [List.append_assoc]
      exact hsound

/-- The worker copies the callbacks that the last call has registered. -/
theorem DispatchInv.unlock (hs : DispatchInv s) (hworker : s.worker = some .doWork) :
    DispatchInv (unlock s) := by
  obtain ⟨e, hlast, he, hcallbacks⟩ := hs.registered hworker
  refine hs.work [.unlocked s.receiver.callbacks] rfl (by simp [ThreadedEvent.registers,
    ThreadedEvent.queued]) (hs.snapshots.concat ⟨e, hlast, hcallbacks⟩)
      (by simp [hworker]) rfl rfl ?_
  refine hs.iterates.of_shown [.unlocked s.receiver.callbacks] rfl
    (by simp [ThreadedEvent.ofWorker]) fun part hpart ↦ ?_
  rw [hworker] at hpart
  obtain ⟨rfl, hends⟩ := hpart
  refine ⟨[], rfl, ?_⟩
  rw [hcallbacks] at hends ⊢
  exact sound_saved he hends

/-- A step of the worker that shows nothing of the iteration and leaves the stage. -/
theorem DispatchInv.quiet (hs : DispatchInv s) (events : List ThreadedEvent)
    (hlog : t.log = s.log ++ events)
    (hevents : ∀ e ∈ events, e.registers = false ∧ e.queued = none ∧ e.ofWorker = false ∧
      ∀ past, Snapshot past e) (hworker : s.worker ≠ none) (hreceiver : t.receiver = s.receiver)
    (hstage : ∀ part, Stage s.receiver.receiveCallbackList s.receiver.callbacks part s.worker →
      Stage s.receiver.receiveCallbackList s.receiver.callbacks part t.worker) : DispatchInv t := by
  refine hs.work _ hlog (fun e he ↦ ⟨(hevents e he).1, (hevents e he).2.1⟩)
    (hs.snapshots.append_of_forall fun e he past ↦ (hevents e he).2.2.2 past) hworker
    (congrArg EventHubReceiver.callbacks hreceiver)
    (congrArg EventHubReceiver.eventHubReceiverLL hreceiver) ?_
  refine hs.iterates.of_stage _ hlog (fun e he ↦ (hevents e he).2.2.1) ?_
  rw [hreceiver]
  exact hstage

/-- The worker begins an iteration, and nothing is queued. -/
theorem DispatchInv.iteration (hs : DispatchInv s) (hhead : s.worker = some .loopHead)
    (locks : Bool) {w : WorkerControl}
    (hw : w = if locks then .doWork else .processing none) :
    DispatchInv { s with worker := some w, log := s.log ++ [.iteration locks] } := by
  refine hs.work [.iteration locks] rfl (by simp [ThreadedEvent.registers,
    ThreadedEvent.queued]) (hs.snapshots.concat trivial) (by simp [hhead]) rfl rfl ?_
  refine hs.iterates.of_shown [.iteration locks] rfl
    (by simp [ThreadedEvent.ofWorker]) fun part hpart ↦ ?_
  rw [hhead] at hpart
  obtain ⟨rfl, hlist⟩ := hpart
  cases locks with
  | false =>
    rw [hw]
    exact ⟨rfl, hlist⟩
  | true =>
    rw [hw, hlist]
    exact ⟨rfl, nofun⟩

end EventHubReceiver

/-- The deferred callbacks can allocate and clone what they queue. -/
def ThreadedInput.allocates {ι : Type} : ThreadedInput ι → Bool
  | .iterate _ _ alloc => alloc.malloc && alloc.clone
  | .lowLevel _ alloc => alloc.malloc && alloc.clone
  | _ => true

namespace EventHubReceiver

variable {σ ι : Type} (auth : AuthModule σ ι) {s t : ThreadedReceiver σ}

theorem DispatchEnv.of_allocates {alloc : DispatchEnv}
    (h : (alloc.malloc && alloc.clone) = true) : alloc = {} := by
  obtain ⟨hmalloc, hclone⟩ := Bool.and_eq_true_iff.mp h
  cases alloc
  congr

theorem step_dispatchInv {i : ThreadedInput ι} (hlock : LockInv s) (halloc : i.allocates = true)
    (hs : s.closing.before = true → DispatchInv s) (hstep : step auth s i = some t)
    (hbefore : t.closing.before = true) : DispatchInv t := by
  cases step_move auth hstep with
  | receive onReceive onError ts timeout env _ hmay =>
    exact (hs (before_of_mayLock hmay).1).receive hmay onReceive onError ts timeout env
  | receiveEnd onEnd locks hmay =>
    exact (hs (before_of_mayLock hmay).1).receiveEnd hmay onEnd locks
  | refresh token env locks hmay =>
    have hs := hs (before_of_mayLock hmay).1
    unfold refreshSASTokenAsync
    split_ifs
    · exact hs
    · exact hs
    · rcases EventHubReceiverLL.refreshSASTokenAsync_cases s.receiver.eventHubReceiverLL token env
        with ⟨r, -, h⟩ | ⟨text, config, cfg, -, -, -, -, -, -, h⟩ <;> rw [h]
      · exact hs
      · refine hs.locked (before_of_mayLock hmay).2 rfl rfl rfl rfl id ?_
        rw [List.filterMap_append]
        exact List.append_nil _
  | tracing on locks hmay =>
    have hs := hs (before_of_mayLock hmay).1
    unfold setConnectionTracing
    split_ifs
    · exact hs
    · rcases EventHubReceiverLL.setConnectionTracing_cases s.receiver.eventHubReceiverLL on with
        ⟨-, h⟩ | ⟨-, h⟩ <;> rw [h]
      · exact hs.locked (before_of_mayLock hmay).2 rfl rfl rfl rfl id rfl
      · refine hs.locked (before_of_mayLock hmay).2 rfl rfl rfl rfl id ?_
        rw [List.filterMap_append]
        exact List.append_nil _
  | destroy hopen =>
    have hs := hs (by rw [hopen]; rfl)
    exact ⟨hs.saved, hs.called, hs.onEnd, hs.snapshots, hs.forwarded, hs.iterates⟩
  | exit locks env alloc hhead hend =>
    refine (hs hbefore).quiet _ (List.append_nil _).symm nofun (by simp [hhead]) rfl fun part h ↦ ?_
    rw [hhead] at h
    exact h
  | lockFailed env alloc hhead => exact (hs hbefore).iteration hhead false rfl
  | doWork env alloc hhead h =>
    obtain rfl := DispatchEnv.of_allocates halloc
    have hs := (hs (hlock.before hhead nofun)).iteration hhead true (w := .doWork) rfl
    exact hs.lowLevel auth (Or.inr (Or.inr ⟨env, rfl⟩)) rfl h
  | lowLevel i alloc hin hi h =>
    obtain rfl := DispatchEnv.of_allocates halloc
    have hclosing : t.closing = s.closing := by rw [h.eq]; rfl
    rcases hin with hworker | hdestroying
    · exact (hs (hclosing ▸ hbefore)).lowLevel auth (Or.inl hi) hworker h
    · rw [hclosing, hdestroying] at hbefore
      cases hbefore
  | unlock hworker hidle => exact (hs hbefore).unlock hworker
  | @process callbacks hworker => exact (hs (hlock.before hworker nofun)).process hworker
  | @callbackReturn callbacks dispatch hworker =>
    refine (hs hbefore).quiet _ rfl (fun e he ↦ ?_) (by simp [hworker]) rfl fun part h ↦ ?_
    · split at he
      · obtain rfl := List.mem_singleton.mp he
        exact ⟨rfl, rfl, rfl, fun _ ↦ trivial⟩
      · cases he
    · rw [hworker] at h
      exact h
  | wake hworker =>
    refine (hs hbefore).quiet _ (List.append_nil _).symm nofun
      (by simp [hworker]) rfl fun part h ↦ ?_
    rw [hworker] at h
    exact h
  | join alloc hclosing hworker h =>
    rw [h.eq] at hbefore
    cases hbefore
  | deInit hclosing => cases hbefore

theorem created_dispatchInv {c : EventHubReceiverLL σ} (hc : EventHubReceiverLL.Created c) :
    DispatchInv (created c) where
  saved := rfl
  called := fun h ↦ absurd rfl h
  onEnd := fun h ↦ absurd (by cases hc <;> rfl) h
  snapshots := Chronicle.nil
  forwarded := rfl
  iterates := ⟨[], [], rfl, nofun, rfl, rfl⟩

/-! ### What the user sees -/

theorem invocations_given (it : Iteration) : it.invocations.filterMap ThreadedEvent.given =
    it.dispatches.filter fun dispatch ↦ (it.callbacks.forType dispatch.type).isSome := by
  unfold Iteration.invocations
  rw [List.filterMap_filterMap, ← List.filterMap_eq_filter]
  refine List.filterMap_congr fun dispatch _ ↦ ?_
  cases hcallback : it.callbacks.forType dispatch.type <;>
    simp [ThreadedEvent.given, Option.guard, hcallback]

theorem invocations_queued (it : Iteration) :
    it.invocations.filterMap ThreadedEvent.queued = [] := by
  refine List.filterMap_eq_nil_iff.mpr fun e he ↦ ?_
  obtain ⟨dispatch, -, hcall⟩ := List.mem_filterMap.mp he
  obtain ⟨callback, -, rfl⟩ := Option.map_eq_some_iff.mp hcall
  rfl

theorem produced_given (l : List AsyncCallbackDispatch) :
    (l.map ThreadedEvent.produced).filterMap ThreadedEvent.given = [] := by
  simp [List.filterMap_map, Function.comp_def, ThreadedEvent.given]

theorem produced_queued (l : List AsyncCallbackDispatch) :
    (l.map ThreadedEvent.produced).filterMap ThreadedEvent.queued = l := by
  simp [List.filterMap_map, Function.comp_def, ThreadedEvent.queued]

/-- The part of an iteration that is over calls back, in their order, some of the dispatches that
it has queued. -/
theorem delivering_given (dispatches rest : List AsyncCallbackDispatch)
    (callbacks : AsyncCallbacks) :
    ((delivering dispatches rest callbacks).filterMap ThreadedEvent.given).Sublist
      ((delivering dispatches rest callbacks).filterMap ThreadedEvent.queued) := by
  have hgiven : (delivering dispatches rest callbacks).filterMap ThreadedEvent.given =
      (⟨true, dispatches, callbacks⟩ : Iteration).invocations.filterMap ThreadedEvent.given := by
    rw [delivering, List.filterMap_cons_none rfl, List.filterMap_append, produced_given,
      List.filterMap_cons_none rfl, List.nil_append]
  have hqueued : (delivering dispatches rest callbacks).filterMap ThreadedEvent.queued =
      dispatches ++ rest := by
    rw [delivering, List.filterMap_cons_none rfl, List.filterMap_append, produced_queued,
      List.filterMap_cons_none rfl, invocations_queued, List.append_nil]
  rw [hgiven, hqueued, invocations_given]
  exact List.filter_sublist.trans (List.sublist_append_left dispatches rest)

theorem events_given (it : Iteration) : (it.events.filterMap ThreadedEvent.given).Sublist
    (it.events.filterMap ThreadedEvent.queued) := by
  obtain ⟨locked, dispatches, callbacks⟩ := it
  cases locked with
  | false => exact List.Sublist.refl _
  | true =>
    rw [← delivering_done]
    exact delivering_given dispatches [] callbacks

theorem Stage.given {list : List AsyncCallbackDispatch} {callbacks : AsyncCallbacks}
    {part : List ThreadedEvent} {w : Option WorkerControl} (h : Stage list callbacks part w) :
    (part.filterMap ThreadedEvent.given).Sublist (part.filterMap ThreadedEvent.queued) := by
  unfold Stage at h
  split at h
  · obtain ⟨rfl, -⟩ := h
    rw [List.filterMap_cons_none rfl, produced_given]
    exact List.nil_sublist _
  · obtain ⟨done, rfl, -⟩ := h
    exact delivering_given done list _
  · obtain ⟨done, rfl, -⟩ := h
    exact delivering_given done list _
  · obtain ⟨rfl, -⟩ := h
    exact List.Sublist.refl _
  · exact h.elim
  · obtain ⟨rfl, -⟩ := h
    exact List.Sublist.refl _

theorem Iterates.given (hs : Iterates s) :
    (s.log.filterMap ThreadedEvent.given).Sublist (s.log.filterMap ThreadedEvent.queued) := by
  obtain ⟨its, part, hits, -, hpart⟩ := hs
  have hworker : ∀ f : ThreadedEvent → Option AsyncCallbackDispatch,
      (∀ e, e.ofWorker = false → f e = none) →
      s.log.filterMap f = (its.flatMap Iteration.events ++ part).filterMap f := by
    intro f hf
    rw [← hits, List.filterMap_filter]
    refine List.filterMap_congr fun e _ ↦ ?_
    by_cases he : e.ofWorker = true
    · rw [if_pos he]
    · rw [if_neg he, hf e (Bool.not_eq_true _ ▸ he)]
  have hrest : ∀ e : ThreadedEvent, e.ofWorker = false → e.given = none ∧ e.queued = none := by
    intro e he
    cases e <;> first | exact ⟨rfl, rfl⟩ | cases he
  rw [hworker _ fun e he ↦ (hrest e he).1, hworker _ fun e he ↦ (hrest e he).2,
    List.filterMap_append, List.filterMap_append]
  refine List.Sublist.append ?_ hpart.given
  rw [List.filterMap_flatMap, List.filterMap_flatMap]
  exact List.Sublist.flatMap_right its fun it _ ↦ events_given it

/-- Whether the worker is between two iterations, or is not there. -/
def betweenIterations : Option WorkerControl → Bool
  | none => true
  | some .loopHead => true
  | some .sleep => true
  | some .exited => true
  | _ => false

/-- The stage of a worker is a part of a whole iteration. -/
theorem DispatchInv.present (hs : DispatchInv s) {part : List ThreadedEvent}
    (h : Stage s.receiver.receiveCallbackList s.receiver.callbacks part s.worker) :
    ∃ now : Iteration, now.Sound ∧ part <+: now.events ∧
      (betweenIterations s.worker = true →
        part = [] ∧ s.receiver.receiveCallbackList = []) := by
  have hidle : part = [] ∧ s.receiver.receiveCallbackList = [] →
      ∃ now : Iteration, now.Sound ∧ part <+: now.events ∧
        (betweenIterations s.worker = true →
          part = [] ∧ s.receiver.receiveCallbackList = []) :=
    fun h ↦ ⟨_, sound_empty, h.1 ▸ List.nil_prefix, fun _ ↦ h⟩
  unfold Stage at h
  split at h
  · next hworker =>
    obtain ⟨e, hlast, he, hcallbacks⟩ := hs.registered hworker
    obtain ⟨rfl, hends⟩ := h
    rw [hcallbacks] at hends
    refine ⟨_, sound_saved he hends, ?_, by simp [hworker, betweenIterations]⟩
    have hpart : .iteration true :: s.receiver.receiveCallbackList.map .produced <+:
        delivering [] s.receiver.receiveCallbackList e.saved := ⟨_, rfl⟩
    exact hpart.trans (delivering_completes [] s.receiver.receiveCallbackList e.saved)
  · next hworker =>
    obtain ⟨done, rfl, hsound⟩ := h
    exact ⟨_, hsound, delivering_completes .., by simp [hworker, betweenIterations]⟩
  · next hworker =>
    obtain ⟨done, rfl, hsound⟩ := h
    exact ⟨_, hsound, delivering_completes .., by simp [hworker, betweenIterations]⟩
  · next hworker =>
    obtain ⟨rfl, -⟩ := h
    exact ⟨_, sound_empty, List.prefix_rfl, by simp [hworker, betweenIterations]⟩
  · exact h.elim
  · exact hidle h

/-- What the worker has done until now. The log of the worker consists of whole iterations and a
part of the present one; the dispatches that were queued are what the low-level receiver has called
back, and the user is given some of them in the same order. -/
structure Forwards (s : ThreadedReceiver σ) : Prop where
  iterations : ∃ (its : List Iteration) (now : Iteration) (part : List ThreadedEvent),
    s.log.filter ThreadedEvent.ofWorker = its.flatMap Iteration.events ++ part ∧
    (∀ it ∈ its, it.Sound) ∧ now.Sound ∧ part <+: now.events ∧
    (betweenIterations s.worker = true → part = [] ∧ s.receiver.receiveCallbackList = [])
  snapshots : Chronicle Snapshot s.log
  produced : s.receiver.eventHubReceiverLL.log.filterMap (deferred {}) =
    s.log.filterMap ThreadedEvent.queued
  given : (s.log.filterMap ThreadedEvent.given).Sublist (s.log.filterMap ThreadedEvent.queued)
  assigned : s.worker ≠ some .undefinedBehaviour

theorem DispatchInv.forwards (hs : DispatchInv s) : Forwards s := by
  refine ⟨?_, hs.snapshots, hs.forwarded, hs.iterates.given, fun hworker ↦ ?_⟩
  · obtain ⟨its, part, hits, hsound, hpart⟩ := hs.iterates
    obtain ⟨now, hnow, hprefix, hbetween⟩ := hs.present hpart
    exact ⟨its, now, part, hits, hsound, hnow, hprefix, hbetween⟩
  · obtain ⟨its, part, -, -, hpart⟩ := hs.iterates
    rw [hworker] at hpart
    exact hpart

/-- In every run up to `EventHubReceiver_LL_Destroy` in which the deferred callbacks can allocate,
the worker forwards what the low-level receiver calls back: in order, in the same iteration, to the
callbacks copied under the lock, after the lock was released. -/
theorem run_forwards {c : EventHubReceiverLL σ} (hc : EventHubReceiverLL.Created c)
    {is : List (ThreadedInput ι)} (halloc : (threadedMachine auth).Meets
      (fun _ i ↦ i.allocates = true) (created c) is)
    (hrun : (threadedMachine auth).run (created c) is = some t)
    (hbefore : t.closing.before = true) : Forwards t := by
  have hstep : ∀ s i t, (LockInv s ∧ (s.closing.before = true → DispatchInv s)) →
      i.allocates = true → (threadedMachine auth).step s i = some t →
      LockInv t ∧ (t.closing.before = true → DispatchInv t) :=
    fun _ _ _ hs hi h ↦ ⟨step_lockInv auth hs.1 h, step_dispatchInv auth hs.1 hi hs.2 h⟩
  have hcreated : LockInv (created c) ∧ ((created c).closing.before = true →
      DispatchInv (created c)) := ⟨created_lockInv c, fun _ ↦ created_dispatchInv hc⟩
  exact ((Machine.run_invariant_of_meets hstep hcreated halloc hrun).2 hbefore).forwards

/-- A reception is started, brought up and given an event; the user ends it from inside the receive
callback, and uAMQP reports an error of the message receiver while the stack is torn down. -/
def endedFromCallback : List (ThreadedInput AuthEnv) :=
  [.receiveFromStartTimestampAsync (some ⟨1, none⟩) (some ⟨2, none⟩) 0 {},
    .iterate true (EventHubReceiverLL.workAt 1) {},
    .lowLevel (.onCBSPutTokenOperationComplete .ok {}) {},
    .lowLevel (.uamqpReturn true (EventHubReceiverLL.workAt 1)) {}, .unlock, .process, .wake,
    .iterate true (EventHubReceiverLL.workAt 2) {}, .unlock, .process, .wake,
    .iterate true (EventHubReceiverLL.workAt 3) {},
    .lowLevel (.uamqpReturn true (EventHubReceiverLL.workAt 3)) {},
    .lowLevel (.onMessageReceived { bodyData := some [7] } {}) {}, .lowLevel .callbackReturn {},
    .lowLevel (.uamqpReturn true (EventHubReceiverLL.workAt 3)) {}, .unlock, .process,
    .receiveEndAsync (some ⟨3, none⟩) true, .callbackReturn, .process, .wake,
    .iterate true (EventHubReceiverLL.workAt 4) {},
    .lowLevel (.onStateChanged .error .closing) {}, .lowLevel .callbackReturn {},
    .lowLevel (.uamqpReturn true (EventHubReceiverLL.workAt 4)) {}, .lowLevel .callbackReturn {},
    .unlock, .process, .process, .callbackReturn, .process]

/-- What the worker forwards in this run. -/
theorem run_forwards_endedFromCallback :
    ∃ t, (threadedMachine (EventHubAuthCBS.authModule fun _ ↦ none)).run
        (created (.createdFromConnectionString "host" "hub" "name" "key" "group" "0"))
        endedFromCallback = some t ∧ Forwards t := by
  refine ⟨_, rfl, ?_⟩
  exact @run_forwards _ _ (EventHubAuthCBS.authModule fun _ ↦ none) _ _
    (.fromConnectionString "host" "hub" "name" "key" "group" "0") endedFromCallback (by decide)
    rfl rfl

/-- The error has been queued and is dropped: `EventHubReceiver_ReceiveEndAsync` has cleared its
callback. The user sees the event and the end. -/
theorem run_drops_error :
    ∃ t, (threadedMachine (EventHubAuthCBS.authModule fun _ ↦ none)).run
        (created (.createdFromConnectionString "host" "hub" "name" "key" "group" "0"))
        endedFromCallback = some t ∧
      t.worker = some .sleep ∧ t.receiver.receiveCallbackList = [] ∧
      (t.receiver.eventHubReceiverLL.log.filterMap (deferred {})).map (·.type) =
        [.receiveAsync, .receiveAsyncError, .receiveAsyncEnd] ∧
      (t.log.filterMap ThreadedEvent.given).map (·.type) = [.receiveAsync, .receiveAsyncEnd] ∧
      t.log.filterMap ThreadedEvent.given ≠
        t.receiver.eventHubReceiverLL.log.filterMap (deferred {}) :=
  ⟨_, rfl, rfl, rfl, rfl, rfl, by decide⟩

end EventHubReceiver

end EventHubs
