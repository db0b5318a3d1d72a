import EventHubs.Library.Ledger
import EventHubs.Threaded.Dispatch

/-!
# The dispatches in memory

`DispatchCreateHelper` allocates a struct and clones the event; `AsyncDispatchCallbackListProcess`
and `AsyncDispatchCallbackListDeInit` free the struct and destroy the clone. The threaded receiver
runs here with the ledger of both. Without the ledger it is the machine `threadedMachine`.

`AsyncDispatchCallbackListProcess` destroys the clone in the branch that calls the user, so the
clone of a dispatch that it drops is never destroyed.

## Main definitions

* `HeldDispatch` — a dispatch with the handles of its struct and its clone.
* `HeldReceiver`, `EventHubReceiver.heldMachine` — the threaded receiver with the ledger.
* `EventHubReceiver.Delivers` — no clone is dropped.
* `EventHubReceiver.Released` — what is alive is what waits or is with the user.

## Main results

* `EventHubReceiver.run_threaded` — the ledger changes nothing.
* `EventHubReceiver.run_releases_iff`.
-/

namespace EventHubs

/-- What the deferred callbacks allocate. -/
inductive DispatchObject
  | dispatch
  | eventData
  deriving DecidableEq, Repr

/-- A dispatch in memory, with the handles of its struct and of its clone. -/
structure HeldDispatch where
  dispatch : AsyncCallbackDispatch
  handle : ℕ
  dataHandle : Option ℕ
  agrees : dataHandle.isSome = dispatch.dataHandle.isSome

/-- What a dispatch owns. -/
def HeldDispatch.objects (d : HeldDispatch) : List (ℕ × DispatchObject) :=
  (d.handle, .dispatch) :: d.dataHandle.toList.map fun n => (n, .eventData)

/-- A threaded receiver with its memory. `list` is `receiveCallbackList`, and `current` the dispatch
with which a callback of the user was called. -/
structure HeldReceiver (σ : Type) where
  threaded : ThreadedReceiver σ
  list : List HeldDispatch := []
  current : Option HeldDispatch := none
  ledger : Ledger DispatchObject := {}

/-- The functions that take the lock for a user. -/
def ThreadedInput.callsUser {ι : Type} : ThreadedInput ι → Bool
  | .receiveFromStartTimestampAsync _ _ _ _ => true
  | .receiveFromStartTimestampWithTimeoutAsync _ _ _ _ _ => true
  | .receiveEndAsync _ _ => true
  | .refreshSASTokenAsync _ _ _ => true
  | .setConnectionTracing _ _ => true
  | _ => false

namespace EventHubReceiver

variable {σ ι : Type} (auth : AuthModule σ ι)

/-! ### The functions with the ledger -/

/-- `DispatchCreateHelper`. -/
def dispatchCreateHelperOn (alloc : DispatchEnv) (resultCode : EventHubReceiverResult)
    (eventData : Option EventData) (type : DispatchType) (l : Ledger DispatchObject) :
    Option HeldDispatch × Ledger DispatchObject :=
  if !alloc.malloc then (none, l)
  else
    let handle := l.next
    let l := l.create .dispatch
    match eventData with
    | none => (some ⟨⟨type, resultCode, none⟩, handle, none, rfl⟩, l)
    | some event =>
      if !alloc.clone then (none, l.destroy handle)
      else (some ⟨⟨type, resultCode, some event⟩, handle, some l.next, rfl⟩, l.create .eventData)

/-- The dispatch that is allocated when the low-level receiver calls a callback. -/
def deferredOn (alloc : DispatchEnv) (e : ReceiverEvent) (l : Ledger DispatchObject) :
    Option HeldDispatch × Ledger DispatchObject :=
  match e with
  | .received _ event => dispatchCreateHelperOn alloc .ok (some event) .receiveAsync l
  | .timedOut _ => dispatchCreateHelperOn alloc .timeout none .receiveAsync l
  | .errorRaised _ r => dispatchCreateHelperOn alloc r none .receiveAsyncError l
  | .ended _ r => dispatchCreateHelperOn alloc r none .receiveAsyncEnd l
  | _ => (none, l)

/-- The low-level receiver has shown some events. -/
def queueOn (alloc : DispatchEnv) : List ReceiverEvent → HeldReceiver σ → HeldReceiver σ
  | [], s => s
  | e :: rest, s =>
    let x := deferredOn alloc e s.ledger
    queueOn alloc rest { s with list := s.list ++ x.1.toList, ledger := x.2 }

/-- `EventData_Destroy` on the clone of a dispatch, if it has one. -/
def destroyData (d : HeldDispatch) (l : Ledger DispatchObject) : Ledger DispatchObject :=
  match d.dataHandle with
  | none => l
  | some n => l.destroy n

/-- `EventData_Destroy` and `free`. -/
def destroyDispatch (l : Ledger DispatchObject) (d : HeldDispatch) : Ledger DispatchObject :=
  (destroyData d l).destroy d.handle

/-- One turn of `AsyncDispatchCallbackListProcess`, up to the call of the user. -/
def processOn (s : HeldReceiver σ) (callbacks : Option AsyncCallbacks) : HeldReceiver σ :=
  match s.list, callbacks with
  | d :: rest, some callbacks =>
    match callbacks.forType d.dispatch.type with
    | none => { s with list := rest, ledger := s.ledger.destroy d.handle }
    | some _ => { s with list := rest, current := some d }
  | _, _ => s

/-- The rest of the turn, when the callback of the user has returned. -/
def callbackReturnOn (s : HeldReceiver σ) : HeldReceiver σ :=
  match s.current with
  | none => s
  | some d =>
    { s with
      current := none
      ledger :=
        if d.dispatch.type = .receiveAsync then destroyDispatch s.ledger d
        else s.ledger.destroy d.handle }

/-- `AsyncDispatchCallbackListDeInit`. -/
def deInitOn (s : HeldReceiver σ) : HeldReceiver σ :=
  { s with list := [], ledger := s.list.foldl destroyDispatch s.ledger }

/-- What the low-level receiver has shown in a step. -/
def shown (s t : ThreadedReceiver σ) : List ReceiverEvent :=
  t.receiver.eventHubReceiverLL.log.drop s.receiver.eventHubReceiverLL.log.length

/-- What a step to `t` does to the memory. -/
def heldOn (s : HeldReceiver σ) (i : ThreadedInput ι) (t : ThreadedReceiver σ) : HeldReceiver σ :=
  match i with
  | .iterate _ _ alloc => queueOn alloc (shown s.threaded t) s
  | .lowLevel _ alloc => queueOn alloc (shown s.threaded t) s
  | .join alloc => queueOn alloc (shown s.threaded t) s
  | .process =>
    match s.threaded.worker with
    | some (.processing callbacks) => processOn s callbacks
    | _ => s
  | .callbackReturn => callbackReturnOn s
  | .deInit => deInitOn s
  | _ => s

/-- The threaded receiver with its memory. -/
def heldMachine : Machine (HeldReceiver σ) (ThreadedInput ι) where
  step s i := (step auth s.threaded i).map fun t => { heldOn s i t with threaded := t }

variable {s t : HeldReceiver σ}

theorem heldStep_eq {i : ThreadedInput ι} (hstep : (heldMachine auth).step s i = some t) :
    step auth s.threaded i = some t.threaded ∧
      t = { heldOn s i t.threaded with threaded := t.threaded } := by
  obtain ⟨u, hu, rfl⟩ := Option.map_eq_some_iff.mp hstep
  exact ⟨hu, rfl⟩

/-- Without the ledger a run is one of the threaded receiver. -/
theorem run_threaded (s : HeldReceiver σ) (is : List (ThreadedInput ι)) :
    ((heldMachine auth).run s is).map (·.threaded) = (threadedMachine auth).run s.threaded is := by
  induction is generalizing s with
  | nil => rfl
  | cons i is ih =>
    rw [Machine.run_cons, Machine.run_cons]
    change Option.map _ (((step auth s.threaded i).map _).bind _) =
      (step auth s.threaded i).bind _
    cases step auth s.threaded i with
    | none => rfl
    | some u => exact ih _

/-! ### What the functions do to the ledger -/

variable {l : Ledger DispatchObject}

theorem dispatchCreateHelperOn_spec (alloc : DispatchEnv) (resultCode : EventHubReceiverResult)
    (eventData : Option EventData) (type : DispatchType) (l : Ledger DispatchObject) :
    (dispatchCreateHelperOn alloc resultCode eventData type l).1.map (·.dispatch) =
        dispatchCreateHelper alloc resultCode eventData type ∧
      (dispatchCreateHelperOn alloc resultCode eventData type l).2.live = l.live ++
        (dispatchCreateHelperOn alloc resultCode eventData type l).1.toList.flatMap
          HeldDispatch.objects ∧
      (dispatchCreateHelperOn alloc resultCode eventData type l).2.faults = l.faults := by
  unfold dispatchCreateHelperOn dispatchCreateHelper
  by_cases hmalloc : (!alloc.malloc) = true
  · rw [if_pos hmalloc, if_pos hmalloc]
    exact ⟨rfl, (List.append_nil _).symm, rfl⟩
  rw [if_neg hmalloc, if_neg hmalloc]
  cases eventData with
  | none => exact ⟨rfl, rfl, rfl⟩
  | some event =>
    cases hclone : alloc.clone with
    | false =>
      obtain ⟨hlive, -, hfaults, -⟩ := Ledger.destroy_spec (l.create_live .dispatch)
      exact ⟨rfl, hlive.trans rfl, hfaults⟩
    | true => exact ⟨rfl, List.append_assoc .., rfl⟩

theorem deferredOn_spec (alloc : DispatchEnv) (e : ReceiverEvent) (l : Ledger DispatchObject) :
    (deferredOn alloc e l).1.map (·.dispatch) = deferred alloc e ∧
      (deferredOn alloc e l).2.live =
        l.live ++ (deferredOn alloc e l).1.toList.flatMap HeldDispatch.objects ∧
      (deferredOn alloc e l).2.faults = l.faults := by
  cases e with
  | received callback event => exact dispatchCreateHelperOn_spec alloc .ok (some event) _ l
  | timedOut callback => exact dispatchCreateHelperOn_spec alloc .timeout none _ l
  | errorRaised callback r => exact dispatchCreateHelperOn_spec alloc r none _ l
  | ended callback r => exact dispatchCreateHelperOn_spec alloc r none _ l
  | _ => exact ⟨rfl, (List.append_nil _).symm, rfl⟩

/-- What the low-level receiver calls back is queued, and nothing else changes. -/
theorem queueOn_spec (alloc : DispatchEnv) (events : List ReceiverEvent) (s : HeldReceiver σ) :
    ∃ made, (queueOn alloc events s).list = s.list ++ made ∧
      made.map (·.dispatch) = events.filterMap (deferred alloc) ∧
      (queueOn alloc events s).ledger.live = s.ledger.live ++ made.flatMap HeldDispatch.objects ∧
      (queueOn alloc events s).ledger.faults = s.ledger.faults ∧
      (queueOn alloc events s).current = s.current := by
  induction events generalizing s with
  | nil => exact ⟨[], (List.append_nil _).symm, rfl, (List.append_nil _).symm, rfl, rfl⟩
  | cons e rest ih =>
    obtain ⟨hdispatch, hlive, hfaults⟩ := deferredOn_spec alloc e s.ledger
    obtain ⟨made, hlist, hmade, hlive', hfaults', hcurrent⟩ :=
      ih { s with
        list := s.list ++ (deferredOn alloc e s.ledger).1.toList
        ledger := (deferredOn alloc e s.ledger).2 }
    refine ⟨(deferredOn alloc e s.ledger).1.toList ++ made, ?_, ?_, ?_, hfaults'.trans hfaults,
      hcurrent⟩
    · rw [← List.append_assoc]
      exact hlist
    · rw [List.map_append, hmade, ← Option.toList_map, hdispatch]
      cases hdeferred : deferred alloc e <;> simp [hdeferred]
    · rw [List.flatMap_append, ← List.append_assoc, ← hlive]
      exact hlive'

/-- The clone and the struct of a dispatch are taken off the ledger. -/
theorem destroyDispatch_spec {d : HeldDispatch} {before after : List (ℕ × DispatchObject)}
    (h : l.live = before ++ d.objects ++ after) :
    (destroyDispatch l d).live = before ++ after ∧ (destroyDispatch l d).faults = l.faults := by
  obtain ⟨dispatch, handle, dataHandle, hagrees⟩ := d
  cases dataHandle with
  | none =>
    have hlive : l.live = before ++ (handle, .dispatch) :: after := by
      simpa [HeldDispatch.objects] using h
    obtain ⟨hrest, -, hfaults, -⟩ := Ledger.destroy_spec hlive
    exact ⟨hrest, hfaults⟩
  | some n =>
    have hlive : l.live = (before ++ [(handle, .dispatch)]) ++ (n, .eventData) :: after := by
      simpa [HeldDispatch.objects] using h
    obtain ⟨hdata, -, hfaults, -⟩ := Ledger.destroy_spec hlive
    rw [List.append_assoc] at hdata
    obtain ⟨hrest, -, hfaults', -⟩ := Ledger.destroy_spec hdata
    exact ⟨hrest, hfaults'.trans hfaults⟩

/-- `free` alone leaves the clone alive. -/
theorem free_spec {d : HeldDispatch} {after : List (ℕ × DispatchObject)}
    (h : l.live = d.objects ++ after) :
    ((l.destroy d.handle).live = after ↔ d.dataHandle = none) ∧
      (l.destroy d.handle).faults = l.faults := by
  have hlive : l.live = [] ++ (d.handle, .dispatch) ::
      (d.dataHandle.toList.map (fun n => (n, DispatchObject.eventData)) ++ after) := h
  obtain ⟨hrest, -, hfaults, -⟩ := Ledger.destroy_spec hlive
  refine ⟨?_, hfaults⟩
  rw [hrest]
  cases d.dataHandle <;> simp

/-- `AsyncDispatchCallbackListDeInit` releases what is on the list. -/
theorem foldl_destroyDispatch {ds : List HeldDispatch}
    (h : l.live = ds.flatMap HeldDispatch.objects) :
    (ds.foldl destroyDispatch l).live = [] ∧ (ds.foldl destroyDispatch l).faults = l.faults := by
  induction ds generalizing l with
  | nil => exact ⟨h, rfl⟩
  | cons d ds ih =>
    obtain ⟨hlive, hfaults⟩ := @destroyDispatch_spec l d [] _ h
    obtain ⟨hrest, hfaults'⟩ := ih hlive
    exact ⟨hrest, hfaults'.trans hfaults⟩

/-! ### The law -/

/-- The dispatch with which a callback of the user was called. -/
def inCallback : Option WorkerControl → Option AsyncCallbackDispatch
  | some (.userCallback _ dispatch) => some dispatch
  | _ => none

/-- What the memory owns: the dispatch that is with the user, and those that wait. -/
def owned (s : HeldReceiver σ) : List (ℕ × DispatchObject) :=
  (s.current.toList ++ s.list).flatMap HeldDispatch.objects

/-- Nothing is alive but what waits or is with the user, and nothing was destroyed that was not
alive. When `AsyncDispatchCallbackListProcess` has returned, and when `EventHubReceiver_Destroy`
has, the list is empty and every struct and every clone ever made was destroyed once. -/
structure Released (s : HeldReceiver σ) : Prop where
  passed : s.current.map (·.dispatch) = inCallback s.threaded.worker
  live : s.ledger.live = owned s
  faults : s.ledger.faults = []
  settled : s.threaded.worker = some .sleep ∨ s.threaded.closing = .destroyed →
    s.threaded.receiver.receiveCallbackList = [] ∧
      s.ledger.destroyed.Perm (List.range s.ledger.next)

/-- The callbacks that the present iteration has copied. -/
def copied : Option WorkerControl → Option AsyncCallbacks
  | some (.processing (some callbacks)) => some callbacks
  | _ => none

/-- A dispatch with an event finds a callback, and the callback is the receive callback. -/
def Delivers (s : HeldReceiver σ) : ThreadedInput ι → Prop
  | .process => ∀ callbacks ∈ copied s.threaded.worker, ∀ d ∈ s.list.head?, d.dataHandle ≠ none →
    callbacks.forType d.dispatch.type ≠ none
  | .callbackReturn => ∀ d ∈ s.current, d.dataHandle ≠ none → d.dispatch.type = .receiveAsync
  | _ => True

instance (s : HeldReceiver σ) : ∀ i : ThreadedInput ι, Decidable (Delivers s i)
  | .process => inferInstanceAs (Decidable (∀ callbacks ∈ copied s.threaded.worker,
      ∀ d ∈ s.list.head?, d.dataHandle ≠ none → callbacks.forType d.dispatch.type ≠ none))
  | .callbackReturn => inferInstanceAs (Decidable (∀ d ∈ s.current, d.dataHandle ≠ none →
      d.dispatch.type = .receiveAsync))
  | .receiveFromStartTimestampAsync .. => isTrue trivial
  | .receiveFromStartTimestampWithTimeoutAsync .. => isTrue trivial
  | .receiveEndAsync .. => isTrue trivial
  | .refreshSASTokenAsync .. => isTrue trivial
  | .setConnectionTracing .. => isTrue trivial
  | .destroy => isTrue trivial
  | .iterate .. => isTrue trivial
  | .lowLevel .. => isTrue trivial
  | .unlock => isTrue trivial
  | .wake => isTrue trivial
  | .join _ => isTrue trivial
  | .deInit => isTrue trivial

theorem eq_of_mem_copied {w : Option WorkerControl} {callbacks : AsyncCallbacks}
    (h : callbacks ∈ copied w) : w = some (.processing (some callbacks)) := by
  unfold copied at h
  split at h
  · exact congrArg _ (congrArg _ h)
  · cases h

/-- What holds in a run. The list and the callbacks of the present iteration may be any. -/
structure Holding (s : HeldReceiver σ) : Prop where
  lock : LockInv s.threaded
  waiting : s.threaded.receiver.receiveCallbackList = s.list.map (·.dispatch)
  passed : s.current.map (·.dispatch) = inCallback s.threaded.worker
  live : s.ledger.live = owned s
  faults : s.ledger.faults = []
  slept : s.threaded.worker = some .sleep ∨ s.threaded.closing = .destroyed → s.list = []

theorem owned_eq_nil (hcurrent : s.current = none) (hlist : s.list = []) : owned s = [] := by
  simp [owned, hcurrent, hlist]

theorem Holding.current_eq_none (hs : Holding s) (h : inCallback s.threaded.worker = none) :
    s.current = none := by
  simpa [h] using hs.passed

/-- No callback of the user runs between two iterations or after the worker has gone. -/
theorem Holding.settled (hs : Holding s)
    (h : s.threaded.worker = some .sleep ∨ s.threaded.closing = .destroyed) :
    s.ledger.live = [] := by
  refine hs.live.trans (owned_eq_nil (hs.current_eq_none ?_) (hs.slept h))
  rcases h with hsleep | hclosed
  · rw [hsleep]
    rfl
  · rcases hs.lock.gone (by rw [hclosed]; rfl) with hworker | hworker <;> rw [hworker] <;> rfl

theorem Holding.released (hs : Holding s) : Released s := by
  refine ⟨hs.passed, hs.live, hs.faults, fun h => ⟨?_, ?_⟩⟩
  · rw [hs.waiting, hs.slept h]
    rfl
  · have hbalanced := s.ledger.balanced
    rw [hs.settled h] at hbalanced
    exact hbalanced

/-! ### Steps -/

/-- A step that leaves the dispatches alone. -/
theorem Holding.keep (hs : Holding s) {u : ThreadedReceiver σ} (hlock : LockInv u)
    (hlist : u.receiver.receiveCallbackList = s.threaded.receiver.receiveCallbackList)
    (hpassed : inCallback u.worker = inCallback s.threaded.worker)
    (hslept : u.worker = some .sleep → s.threaded.worker = some .sleep)
    (hclosed : u.closing = .destroyed → s.threaded.closing = .destroyed) :
    Holding { s with threaded := u } where
  lock := hlock
  waiting := hlist.trans hs.waiting
  passed := hs.passed.trans hpassed.symm
  live := hs.live
  faults := hs.faults
  slept h := hs.slept (h.imp hslept hclosed)

/-- The low-level receiver has taken a step. -/
theorem Holding.queue (hs : Holding s) {u v : ThreadedReceiver σ} {i : ReceiverInput ι}
    {alloc : DispatchEnv} (hlock : LockInv v) (h : LowLevelStep auth u i alloc v)
    (hreceiver : u.receiver = s.threaded.receiver)
    (hpassed : inCallback u.worker = inCallback s.threaded.worker)
    (hslept : ¬ (u.worker = some .sleep ∨ u.closing = .destroyed)) :
    Holding { queueOn alloc (shown s.threaded v) s with threaded := v } := by
  obtain ⟨made, hlist, hmade, hlive, hfaults, hcurrent⟩ :=
    queueOn_spec alloc (shown s.threaded v) s
  have hworker : v.worker = u.worker := by rw [h.eq]; rfl
  have hclosing : v.closing = u.closing := by rw [h.eq]; rfl
  refine ⟨hlock, ?_, ?_, ?_, hfaults.trans hs.faults, fun hrest => ?_⟩
  · have hqueued := h.list
    rw [hreceiver, hs.waiting] at hqueued
    rw [hqueued, hlist, List.map_append, hmade]
    rfl
  · exact (congrArg _ hcurrent).trans (hs.passed.trans (by rw [← hpassed, ← hworker]))
  · refine hlive.trans ?_
    rw [hs.live, owned, owned, hcurrent, hlist, ← List.append_assoc]
    exact List.flatMap_append.symm
  · rw [hworker, hclosing] at hrest
    exact absurd hrest hslept

/-- The worker has gone when the receiver is destroyed. -/
theorem Holding.closing_ne (hs : Holding s) {w : WorkerControl}
    (hworker : s.threaded.worker = some w) (hne : w ≠ .exited) :
    s.threaded.closing ≠ .destroyed := by
  intro h
  have hbefore := hs.lock.before hworker hne
  rw [h] at hbefore
  cases hbefore

theorem Holding.list_eq_nil (hs : Holding s) (h : s.threaded.receiver.receiveCallbackList = []) :
    s.list = [] := List.map_eq_nil_iff.mp (hs.waiting.symm.trans h)

theorem Holding.list_eq_cons (hs : Holding s) {dispatch : AsyncCallbackDispatch}
    {rest : List AsyncCallbackDispatch}
    (h : s.threaded.receiver.receiveCallbackList = dispatch :: rest) :
    ∃ d ds, s.list = d :: ds ∧ d.dispatch = dispatch ∧ ds.map (·.dispatch) = rest := by
  obtain ⟨d, ds, hlist, hd, hds⟩ := List.map_eq_cons_iff.mp (hs.waiting.symm.trans h)
  exact ⟨d, ds, hlist, hd, hds⟩

theorem processOn_dropped {d : HeldDispatch} {ds : List HeldDispatch} {callbacks : AsyncCallbacks}
    (hlist : s.list = d :: ds) (hnone : callbacks.forType d.dispatch.type = none) :
    processOn s (some callbacks) =
      { s with list := ds, ledger := s.ledger.destroy d.handle } := by
  unfold processOn
  rw [hlist]
  dsimp only
  rw [hnone]

theorem processOn_invoked {d : HeldDispatch} {ds : List HeldDispatch} {callbacks : AsyncCallbacks}
    {callback : UserCallback} (hlist : s.list = d :: ds)
    (hcallback : callbacks.forType d.dispatch.type = some callback) :
    processOn s (some callbacks) = { s with list := ds, current := some d } := by
  unfold processOn
  rw [hlist]
  dsimp only
  rw [hcallback]

/-- A turn of `AsyncDispatchCallbackListProcess`. -/
theorem Holding.process (hs : Holding s) {callbacks : Option AsyncCallbacks}
    (hworker : s.threaded.worker = some (.processing callbacks))
    (hdelivers : Delivers s (.process : ThreadedInput ι))
    (hlock : LockInv (asyncDispatchCallbackListProcess s.threaded callbacks)) :
    Holding { processOn s callbacks with
      threaded := asyncDispatchCallbackListProcess s.threaded callbacks } := by
  have hcurrent : s.current = none := hs.current_eq_none (by rw [hworker]; rfl)
  have hclosed := hs.closing_ne hworker nofun
  have hlive : s.ledger.live = s.list.flatMap HeldDispatch.objects := by
    rw [hs.live, owned, hcurrent]
    rfl
  have hresult := process_result s.threaded callbacks
  generalize asyncDispatchCallbackListProcess s.threaded callbacks = u at hresult hlock ⊢
  cases hresult with
  | done _ hlist =>
    have hnil := hs.list_eq_nil hlist
    have hsame : processOn s callbacks = s := by
      unfold processOn
      rw [hnil]
    rw [hsame]
    exact ⟨hlock, hs.waiting, by rw [hcurrent]; rfl, hs.live, hs.faults, fun _ => hnil⟩
  | unassigned dispatch rest hlist =>
    obtain ⟨d, ds, hcons, -, -⟩ := hs.list_eq_cons hlist
    have hsame : processOn s none = s := by
      unfold processOn
      rw [hcons]
    rw [hsame]
    exact ⟨hlock, hs.waiting, by rw [hcurrent]; rfl, hs.live, hs.faults,
      fun h => absurd h (by simpa using hclosed)⟩
  | dropped copied dispatch rest hlist hnone =>
    obtain ⟨d, ds, hcons, rfl, hds⟩ := hs.list_eq_cons hlist
    have hdata : d.dataHandle = none := by
      by_contra hdata
      exact hdelivers copied (by rw [hworker]; rfl) d (by simp [hcons]) hdata hnone
    rw [hcons] at hlive
    obtain ⟨hfreed, hfaults⟩ := free_spec hlive
    rw [processOn_dropped hcons hnone]
    refine ⟨hlock, hds.symm, by rw [hcurrent]; rfl, ?_, hfaults.trans hs.faults,
      fun h => absurd h (by simpa using hclosed)⟩
    rw [hfreed.mpr hdata, owned, hcurrent]
    rfl
  | invoked copied dispatch rest callback hlist hcallback =>
    obtain ⟨d, ds, hcons, rfl, hds⟩ := hs.list_eq_cons hlist
    rw [processOn_invoked hcons hcallback]
    refine ⟨hlock, hds.symm, rfl, ?_, hs.faults, fun h => absurd h (by simpa using hclosed)⟩
    exact hlive.trans (by rw [hcons]; rfl)

/-- The dispatch with which the user was called. -/
theorem Holding.current_eq_some (hs : Holding s) {callbacks : AsyncCallbacks}
    {dispatch : AsyncCallbackDispatch}
    (hworker : s.threaded.worker = some (.userCallback callbacks dispatch)) :
    ∃ d, s.current = some d ∧ d.dispatch = dispatch ∧
      s.ledger.live = d.objects ++ s.list.flatMap HeldDispatch.objects := by
  have hpassed := hs.passed
  rw [hworker] at hpassed
  obtain ⟨d, hcurrent, hd⟩ := Option.map_eq_some_iff.mp hpassed
  refine ⟨d, hcurrent, hd, ?_⟩
  rw [hs.live, owned, hcurrent]
  rfl

/-- The callback of the user has returned. -/
theorem Holding.callbackReturn (hs : Holding s) {callbacks : AsyncCallbacks}
    {dispatch : AsyncCallbackDispatch}
    (hworker : s.threaded.worker = some (.userCallback callbacks dispatch))
    (hdelivers : Delivers s (.callbackReturn : ThreadedInput ι))
    (hlock : LockInv (callbackReturn s.threaded callbacks dispatch)) :
    Holding { callbackReturnOn s with
      threaded := EventHubReceiver.callbackReturn s.threaded callbacks dispatch } := by
  obtain ⟨d, hcurrent, rfl, hlive⟩ := hs.current_eq_some hworker
  have hclosed := hs.closing_ne hworker nofun
  have hrest : (if d.dispatch.type = .receiveAsync then destroyDispatch s.ledger d
        else s.ledger.destroy d.handle).live = s.list.flatMap HeldDispatch.objects ∧
      (if d.dispatch.type = .receiveAsync then destroyDispatch s.ledger d
        else s.ledger.destroy d.handle).faults = s.ledger.faults := by
    by_cases htype : d.dispatch.type = .receiveAsync
    · rw [if_pos htype]
      exact @destroyDispatch_spec s.ledger d [] _ hlive
    · rw [if_neg htype]
      obtain ⟨hfreed, hfaults⟩ := free_spec hlive
      refine ⟨hfreed.mpr ?_, hfaults⟩
      by_contra hdata
      exact htype (hdelivers d hcurrent hdata)
  have hreturned : callbackReturnOn s = { s with
      current := none
      ledger := if d.dispatch.type = .receiveAsync then destroyDispatch s.ledger d
        else s.ledger.destroy d.handle } := by
    unfold callbackReturnOn
    rw [hcurrent]
  rw [hreturned]
  exact ⟨hlock, hs.waiting, rfl, hrest.1, hrest.2.trans hs.faults,
    fun h => absurd h (by simpa [EventHubReceiver.callbackReturn] using hclosed)⟩

/-- `AsyncDispatchCallbackListDeInit` has returned. -/
theorem Holding.deInit (hs : Holding s) (hclosing : s.threaded.closing = .destroying)
    {u : ThreadedReceiver σ} (hlock : LockInv u) (hworker : u.worker = s.threaded.worker)
    (hlist : u.receiver.receiveCallbackList = []) : Holding { deInitOn s with threaded := u } := by
  have hgone : inCallback s.threaded.worker = none := by
    rcases hs.lock.gone (by rw [hclosing]; rfl) with h | h <;> rw [h] <;> rfl
  have hcurrent : s.current = none := hs.current_eq_none hgone
  have hlive : s.ledger.live = s.list.flatMap HeldDispatch.objects := by
    rw [hs.live, owned, hcurrent]
    rfl
  obtain ⟨hdone, hfaults⟩ := foldl_destroyDispatch hlive
  refine ⟨hlock, hlist, ?_, ?_, hfaults.trans hs.faults, fun _ => rfl⟩
  · rw [hworker, hgone]
    exact congrArg _ hcurrent
  · refine hdone.trans (owned_eq_nil ?_ ?_).symm
    · exact hcurrent
    · rfl

/-- The functions of the users queue nothing, and no worker but a new one changes. -/
theorem move_user {i : ThreadedInput ι} {u v : ThreadedReceiver σ} (hmove : Move auth u i v)
    (hi : i.callsUser = true) :
    v.receiver.receiveCallbackList = u.receiver.receiveCallbackList ∧ v.closing = u.closing ∧
      (v.worker = u.worker ∨ u.worker = none ∧ v.worker = some .loopHead) := by
  cases hmove with
  | receive onReceive onError ts timeout env _ hmay =>
    have hcases := executeCommon_cases u onReceive onError ts timeout env
    generalize executeCommonReceiveFromStartTimestampAsync u onReceive onError ts timeout env = x
      at hcases
    cases hcases with
    | started receiveCb errorCb ll threadState worker hstate _ _ hll hworker =>
      refine ⟨rfl, rfl, ?_⟩
      rcases hworker with ⟨hworker, -⟩ | ⟨hnone, rfl, -⟩
      · exact .inl hworker.symm
      · exact .inr ⟨hnone, rfl⟩
    | _ => exact ⟨rfl, rfl, .inl rfl⟩
  | receiveEnd onEnd locks hmay =>
    rcases receiveEndAsync_cases u onEnd locks with ⟨r, -, h⟩ | ⟨ll, -, -, -, h⟩ <;> rw [h] <;>
      exact ⟨rfl, rfl, .inl rfl⟩
  | refresh token env locks hmay =>
    unfold refreshSASTokenAsync
    split_ifs <;> exact ⟨rfl, rfl, .inl rfl⟩
  | tracing on locks hmay =>
    unfold setConnectionTracing
    split_ifs <;> exact ⟨rfl, rfl, .inl rfl⟩
  | _ => cases hi

/-- An iteration in which the low-level receiver is not called queues nothing. -/
theorem heldOn_iterate {u : ThreadedReceiver σ} {locks : Bool} {env : ReceiverEnv ι}
    {alloc : DispatchEnv}
    (h : u.receiver.eventHubReceiverLL = s.threaded.receiver.eventHubReceiverLL) :
    heldOn s (.iterate locks env alloc) u = s := by
  have hshown : shown s.threaded u = [] := by
    rw [shown, h, List.drop_length]
  change queueOn alloc (shown s.threaded u) s = s
  rw [hshown]
  rfl

theorem Holding.user (hs : Holding s) {i : ThreadedInput ι} {u : ThreadedReceiver σ}
    (hmove : Move auth s.threaded i u) (hi : i.callsUser = true) (hlock : LockInv u) :
    Holding { s with threaded := u } := by
  obtain ⟨hlist, hclosing, hworker⟩ := move_user auth hmove hi
  refine hs.keep hlock hlist ?_ ?_ fun h => hclosing ▸ h
  · rcases hworker with hsame | ⟨hnone, hhead⟩
    · rw [hsame]
    · rw [hnone, hhead]
      rfl
  · rcases hworker with hsame | ⟨-, hhead⟩
    · exact fun h => hsame ▸ h
    · exact fun h => absurd (hhead.symm.trans h) nofun

/-- A step that drops no clone. -/
theorem step_holding {i : ThreadedInput ι} (hs : Holding s) (hdelivers : Delivers s i)
    (hstep : (heldMachine auth).step s i = some t) : Holding t := by
  obtain ⟨hstep, ht⟩ := heldStep_eq auth hstep
  have hlock := step_lockInv auth hs.lock hstep
  rw [ht]
  have hmove := step_move auth hstep
  generalize t.threaded = u at hmove hlock ⊢
  have hmoved := hmove
  cases hmove with
  | @receive i onReceive onError ts timeout env hi hmay =>
    cases i with
    | receiveFromStartTimestampAsync => exact hs.user auth hmoved rfl hlock
    | receiveFromStartTimestampWithTimeoutAsync => exact hs.user auth hmoved rfl hlock
    | _ => cases hi
  | receiveEnd onEnd locks hmay => exact hs.user auth hmoved rfl hlock
  | refresh token env locks hmay => exact hs.user auth hmoved rfl hlock
  | tracing on locks hmay => exact hs.user auth hmoved rfl hlock
  | destroy hopen => exact hs.keep hlock rfl rfl id nofun
  | exit locks env alloc hhead hend =>
    rw [heldOn_iterate]
    · exact hs.keep hlock rfl (by rw [hhead]; rfl) nofun id
    · rfl
  | lockFailed env alloc hhead =>
    rw [heldOn_iterate]
    · exact hs.keep hlock rfl (by rw [hhead]; rfl) nofun id
    · rfl
  | doWork env alloc hhead h =>
    refine hs.queue auth hlock h rfl (by rw [hhead]; rfl) ?_
    simpa using hs.closing_ne hhead nofun
  | lowLevel i alloc hin hi h =>
    refine hs.queue auth hlock h rfl rfl ?_
    rcases hin with hworker | hclosing
    · simpa [hworker] using hs.closing_ne hworker nofun
    · rcases hs.lock.gone (by rw [hclosing]; rfl) with hgone | hgone <;> simp [hgone, hclosing]
  | unlock hworker hidle => exact hs.keep hlock rfl (by rw [hworker]; rfl) nofun id
  | @process callbacks hworker =>
    have hheld : heldOn s (.process : ThreadedInput ι)
        (asyncDispatchCallbackListProcess s.threaded callbacks) = processOn s callbacks := by
      simp only [heldOn, hworker]
    rw [hheld]
    exact hs.process hworker hdelivers hlock
  | callbackReturn hworker => exact hs.callbackReturn hworker hdelivers hlock
  | wake hworker => exact hs.keep hlock rfl (by rw [hworker]; rfl) nofun id
  | join alloc hclosing hworker h =>
    refine hs.queue auth hlock h rfl rfl ?_
    rcases hworker with hgone | hgone <;> simp [hgone]
  | deInit hclosing => exact hs.deInit hclosing hlock rfl rfl

/-- A clone that is dropped stays alive without an owner. -/
theorem step_not_released {i : ThreadedInput ι} (hs : Holding s) (hdrops : ¬ Delivers s i)
    (hstep : (heldMachine auth).step s i = some t) : ¬ Released t := by
  obtain ⟨hstep, ht⟩ := heldStep_eq auth hstep
  intro hreleased
  have hlive := hreleased.live
  rw [ht] at hlive
  cases i with
  | process =>
    simp only [Delivers, not_forall] at hdrops
    obtain ⟨callbacks, hcopied, d, hd, hdata, hnone⟩ := hdrops
    have hworker := eq_of_mem_copied hcopied
    obtain ⟨ds, hcons⟩ := List.head?_eq_some_iff.mp hd
    have hcurrent : s.current = none := hs.current_eq_none (by rw [hworker]; rfl)
    have hbefore : s.ledger.live = d.objects ++ ds.flatMap HeldDispatch.objects := by
      rw [hs.live, owned, hcurrent, hcons]
      rfl
    have hheld : heldOn s (.process : ThreadedInput ι) t.threaded =
        { s with list := ds, ledger := s.ledger.destroy d.handle } := by
      simp only [heldOn, hworker]
      exact processOn_dropped hcons (not_not.mp hnone)
    rw [hheld] at hlive
    refine hdata ((free_spec hbefore).1.mp (hlive.trans ?_))
    rw [owned, hcurrent]
    rfl
  | callbackReturn =>
    simp only [Delivers, not_forall] at hdrops
    obtain ⟨d, hcurrent, hdata, htype⟩ := hdrops
    have hbefore : s.ledger.live = d.objects ++ s.list.flatMap HeldDispatch.objects := by
      rw [hs.live, owned, Option.mem_def.mp hcurrent]
      rfl
    have hheld : heldOn s (.callbackReturn : ThreadedInput ι) t.threaded =
        { s with current := none, ledger := s.ledger.destroy d.handle } := by
      simp only [heldOn, callbackReturnOn, Option.mem_def.mp hcurrent, if_neg htype]
    rw [hheld] at hlive
    exact hdata ((free_spec hbefore).1.mp hlive)
  | _ => exact hdrops trivial

/-- A threaded receiver as it is created has nothing in memory. -/
theorem created_holding (c : EventHubReceiverLL σ) : Holding { threaded := created c } :=
  ⟨created_lockInv c, rfl, rfl, rfl, rfl, fun _ => rfl⟩

/-- From every state in which what is alive waits or is with the user, with any dispatches on the
list and any callbacks copied: the structs and the clones are released all along a run exactly when
no step of it drops a clone. -/
theorem run_releases_iff {is : List (ThreadedInput ι)} (hs : Holding s)
    (hrun : (heldMachine auth).run s is = some t) :
    (∀ js u, js <+: is → (heldMachine auth).run s js = some u → Released u) ↔
      (heldMachine auth).Meets Delivers s is := by
  have hkeep : ∀ s i t, Holding s → Delivers s i → (heldMachine auth).step s i = some t →
      Holding t := fun _ _ _ hs hi h => step_holding auth hs hi h
  have hbad : ∀ s i t, Holding s → ¬ Delivers s i → (heldMachine auth).step s i = some t →
      ¬ Released t := fun _ _ _ hs hi h => step_not_released auth hs hi h
  exact Machine.forall_past_iff hkeep (fun _ hs => hs.released) hbad hs hrun

/-- In this run the user gets the event, and its clone is destroyed when the callback returns. -/
theorem run_releases_iff_endedFromCallback :
    ∃ t, (heldMachine (EventHubAuthCBS.authModule fun _ => none)).run
        { threaded := created (.createdFromConnectionString "host" "hub" "name" "key" "group" "0") }
        endedFromCallback = some t ∧ t.ledger.next = 4 ∧ Released t := by
  refine ⟨_, rfl, rfl, ?_⟩
  exact (@run_releases_iff _ _ (EventHubAuthCBS.authModule fun _ => none) _ _ endedFromCallback
    (created_holding (.createdFromConnectionString "host" "hub" "name" "key" "group" "0")) rfl).mpr
    (by decide) endedFromCallback _ List.prefix_rfl rfl

/-- The user ends a reception, and uAMQP delivers a message while the stack is torn down; then the
receiver is destroyed. -/
def deliveredInTeardown : List (ThreadedInput AuthEnv) :=
  [.receiveFromStartTimestampAsync (some ⟨1, none⟩) (some ⟨2, none⟩) 0 {},
    .iterate true (EventHubReceiverLL.workAt 1) {},
    .lowLevel (.onCBSPutTokenOperationComplete .ok {}) {},
    .lowLevel (.uamqpReturn true (EventHubReceiverLL.workAt 1)) {}, .unlock, .process, .wake,
    .iterate true (EventHubReceiverLL.workAt 2) {}, .unlock, .process, .wake,
    .iterate true (EventHubReceiverLL.workAt 3) {},
    .lowLevel (.uamqpReturn true (EventHubReceiverLL.workAt 3)) {},
    .lowLevel (.uamqpReturn true (EventHubReceiverLL.workAt 3)) {}, .unlock, .process,
    .receiveEndAsync none true, .wake, .iterate true (EventHubReceiverLL.workAt 4) {},
    .lowLevel (.onMessageReceived { bodyData := some [7] } {}) {}, .lowLevel .callbackReturn {},
    .lowLevel (.uamqpReturn true (EventHubReceiverLL.workAt 4)) {}, .unlock, .process, .process,
    .destroy, .wake, .iterate true (EventHubReceiverLL.workAt 5) {}, .join {}, .deInit]

/-- The dispatch is freed without a call of the user, and its clone is alive for ever. -/
theorem run_leaks_eventData :
    ∃ t, (heldMachine (EventHubAuthCBS.authModule fun _ => none)).run
        { threaded := created (.createdFromConnectionString "host" "hub" "name" "key" "group" "0") }
        deliveredInTeardown = some t ∧
      t.threaded.closing = .destroyed ∧ t.ledger.live = [(1, .eventData)] ∧ ¬ Released t := by
  refine ⟨_, rfl, rfl, rfl, fun hreleased => ?_⟩
  have hlive := hreleased.live
  exact absurd hlive (by decide)

end EventHubReceiver

end EventHubs
