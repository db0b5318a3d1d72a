import EventHubs.Threaded.Dispatch

/-!
# The two states of a threaded receiver

The threaded receiver and its low-level receiver each keep a state of their own. They agree on
whether a reception is active as long as neither of two things happens: a receive call that has
succeeded at the low-level receiver cannot create the worker, or a tear-down after a failed
authentication ends the reception inside `EventHubReceiver_LL_DoWork`. After either the two states
disagree for ever, and every receive or end call is refused. Otherwise a reception that has been
ended can be driven to the end of its tear-down, so the receiver takes receive calls again.

## Main definitions

* `EventHubReceiver.Steady` — neither of the two happens in a step.
* `EventHubReceiver.Agrees`, `EventHubReceiver.Wedged`.
* `EventHubReceiver.WorkerInv`, `EventHubReceiver.PairInv` — the invariants.

## Main results

* `EventHubReceiver.step_pairInv`, `EventHubReceiver.run_agrees`.
-/

namespace EventHubs

namespace EventHubReceiver

variable {σ ι : Type} (auth : AuthModule σ ι) {s t : ThreadedReceiver σ}

/-- A receive call succeeds at the low-level receiver, and `ThreadAPI_Create` fails. -/
def lacksWorker (s : ThreadedReceiver σ) (i : ThreadedInput ι) : Bool :=
  match i.receiveCall with
  | some (some _, some _, _, timeout, env) =>
    env.locks && s.receiver.state = .inactive &&
      s.receiver.eventHubReceiverLL.client.state = .inactive &&
      (timeout = 0 || env.receive.tick.isSome) && env.receive.constructs &&
      s.worker.isNone && !env.creates
  | _ => false

/-- The worker is created when it is needed, and no tear-down after a failed authentication finds
the reception active. -/
def Steady (s : ThreadedReceiver σ) (i : ThreadedInput ι) : Prop :=
  lacksWorker s i = false ∧
  match i with
  | .lowLevel j _ => EventHubReceiverLL.Spares s.receiver.eventHubReceiverLL j
  | _ => True

instance (s : ThreadedReceiver σ) (i : ThreadedInput ι) : Decidable (Steady s i) := by
  unfold Steady
  cases i <;> infer_instance

/-- Both states say whether a reception is active. -/
def Agrees (s : ThreadedReceiver σ) : Prop :=
  s.receiver.state = .active ↔ s.receiver.eventHubReceiverLL.client.state = .active

/-- Both calls return `EVENTHUBRECEIVER_NOT_ALLOWED` whatever happens before they get the lock. -/
def Wedged (s : ThreadedReceiver σ) : Prop :=
  ∀ u, (threadedMachine auth).Leads s u → mayLock u = true →
    (∀ onReceive onError timestamp timeout env, env.locks = true →
      (executeCommonReceiveFromStartTimestampAsync u (some onReceive) (some onError) timestamp
        timeout env).1 = .notAllowed) ∧
    ∀ onEnd, (receiveEndAsync u onEnd true).1 = .notAllowed

/-! ### The worker -/

/-- Where the worker can stand. -/
structure WorkerInv (s : ThreadedReceiver σ) : Prop where
  running : s.closing = .open → s.worker ≠ none →
    s.receiver.threadState = .threadRun ∧ s.worker ≠ some .exited
  assigned : s.worker ≠ some .undefinedBehaviour
  empty : s.closing.before = true →
    betweenIterations s.worker = true ∨ s.worker = some (.processing none) →
    s.receiver.receiveCallbackList = []

/-- The worker and its list are left alone. -/
theorem WorkerInv.keep (hs : WorkerInv s) (hclosing : t.closing = s.closing)
    (hworker : t.worker = s.worker)
    (hthread : t.receiver.threadState = s.receiver.threadState)
    (hlist : t.receiver.receiveCallbackList = s.receiver.receiveCallbackList) : WorkerInv t where
  running := by
    rw [hclosing, hworker, hthread]
    exact hs.running
  assigned := hworker ▸ hs.assigned
  empty := by
    rw [hclosing, hworker, hlist]
    exact hs.empty

/-- A step of the worker from one point to another. -/
theorem WorkerInv.move (hs : WorkerInv s) {w w' : WorkerControl} (hw : s.worker = some w)
    (hw' : t.worker = some w') (hclosing : t.closing = s.closing)
    (hthread : t.receiver.threadState = s.receiver.threadState) (hexit : w' ≠ .exited)
    (hassigned : w' ≠ .undefinedBehaviour)
    (hempty : t.closing.before = true →
      betweenIterations (some w') = true ∨ w' = .processing none →
      t.receiver.receiveCallbackList = []) : WorkerInv t where
  running := fun hopen _ ↦ by
    rw [hthread, hw']
    exact ⟨(hs.running (hclosing ▸ hopen) (by simp [hw])).1, by simpa using hexit⟩
  assigned := by simpa [hw'] using hassigned
  empty := by simpa [hw'] using hempty

theorem step_workerInv {i : ThreadedInput ι} (hlock : LockInv s) (hs : WorkerInv s)
    (hstep : step auth s i = some t) : WorkerInv t := by
  cases step_move auth hstep with
  | receive onReceive onError ts timeout env _ hmay =>
    have hcases := executeCommon_cases s onReceive onError ts timeout env
    generalize executeCommonReceiveFromStartTimestampAsync s onReceive onError ts timeout env = x
      at hcases
    cases hcases with
    | refused => exact hs
    | failed r ll hr hstate hll => exact hs.keep rfl rfl rfl rfl
    | threadless ll hstate hll hworker =>
      exact ⟨fun _ h ↦ absurd hworker h, hs.assigned, hs.empty⟩
    | started receiveCb errorCb ll threadState worker hstate _ _ hll hthread =>
      rcases hthread with ⟨hworker, rfl⟩ | ⟨hworker, rfl, rfl⟩
      · exact hs.keep rfl hworker.symm rfl rfl
      · have hempty := hs.empty (before_of_mayLock hmay).1 (Or.inl (by rw [hworker]; rfl))
        exact ⟨fun _ _ ↦ ⟨rfl, (by rintro ⟨⟩)⟩, (by rintro ⟨⟩), fun _ _ ↦ hempty⟩
  | receiveEnd onEnd locks hmay =>
    rcases receiveEndAsync_cases s onEnd locks with ⟨r, -, h⟩ | ⟨ll, -, -, hll, h⟩ <;> rw [h]
    · exact hs
    · exact hs.keep rfl rfl rfl rfl
  | refresh token env locks hmay =>
    unfold refreshSASTokenAsync
    split_ifs
    · exact hs
    · exact hs
    · exact hs.keep rfl rfl rfl rfl
  | tracing on locks hmay =>
    unfold setConnectionTracing
    split_ifs
    · exact hs
    · exact hs.keep rfl rfl rfl rfl
  | destroy hopen => exact ⟨(by rintro ⟨⟩), hs.assigned, fun _ ↦ hs.empty (by rw [hopen]; rfl)⟩
  | exit locks env alloc hhead hend =>
    have hempty := hs.empty (hlock.before hhead (by rintro ⟨⟩)) (Or.inl (by rw [hhead]; rfl))
    refine ⟨fun hopen _ ↦ ?_, (by rintro ⟨⟩), fun _ _ ↦ hempty⟩
    -- the worker of an open receiver is told to run
    have hrun := (hs.running hopen (by simp [hhead])).1
    exact absurd (hend.symm.trans hrun) (by rintro ⟨⟩)
  | lockFailed env alloc hhead =>
    have hempty := hs.empty (hlock.before hhead (by rintro ⟨⟩)) (Or.inl (by rw [hhead]; rfl))
    exact hs.move hhead rfl rfl rfl (by rintro ⟨⟩) (by rintro ⟨⟩) fun _ _ ↦ hempty
  | doWork env alloc hhead h =>
    have hworker : t.worker = some .doWork := by rw [h.eq]; rfl
    have hclosing : t.closing = s.closing := by rw [h.eq]; rfl
    have hthread : t.receiver.threadState = s.receiver.threadState := by rw [h.eq]
    exact hs.move hhead hworker hclosing hthread (by rintro ⟨⟩) (by rintro ⟨⟩)
      (by simp [betweenIterations])
  | lowLevel i alloc hin hi h =>
    rw [h.eq]
    refine ⟨hs.running, hs.assigned, fun hbefore hbetween ↦ ?_⟩
    rcases hin with hworker | hclosing
    · have hwork : betweenIterations s.worker = true ∨ s.worker = some (.processing none) :=
        hbetween
      simp [hworker, betweenIterations] at hwork
    · have hafter : s.closing.before = true := hbefore
      rw [hclosing] at hafter
      cases hafter
  | unlock hworker hidle =>
    exact hs.move hworker rfl rfl rfl (by rintro ⟨⟩) (by rintro ⟨⟩) (by simp [betweenIterations])
  | @process callbacks hworker =>
    have hresult := process_result s callbacks
    generalize asyncDispatchCallbackListProcess s callbacks = u at hresult ⊢
    cases hresult with
    | done _ hlist =>
      exact hs.move hworker rfl rfl rfl (by rintro ⟨⟩) (by rintro ⟨⟩) fun _ _ ↦ hlist
    | unassigned dispatch rest hlist =>
      have hempty := hs.empty (hlock.before hworker (by rintro ⟨⟩)) (Or.inr hworker)
      exact absurd (hlist.symm.trans hempty) (by rintro ⟨⟩)
    | dropped copied dispatch rest hlist hnone =>
      exact hs.move hworker rfl rfl rfl (by rintro ⟨⟩) (by rintro ⟨⟩) (by simp [betweenIterations])
    | invoked copied dispatch rest callback hlist hcallback =>
      exact hs.move hworker rfl rfl rfl (by rintro ⟨⟩) (by rintro ⟨⟩) (by simp [betweenIterations])
  | callbackReturn hworker =>
    exact hs.move hworker rfl rfl rfl (by rintro ⟨⟩) (by rintro ⟨⟩) (by simp [betweenIterations])
  | wake hworker =>
    have hempty := hs.empty (hlock.before hworker (by rintro ⟨⟩)) (Or.inl (by rw [hworker]; rfl))
    exact hs.move hworker rfl rfl rfl (by rintro ⟨⟩) (by rintro ⟨⟩) fun _ _ ↦ hempty
  | join alloc hclosing hworker h =>
    rw [h.eq]
    exact ⟨(by rintro ⟨⟩), hs.assigned, (by rintro ⟨⟩)⟩
  | deInit hclosing => exact ⟨(by rintro ⟨⟩), hs.assigned, (by rintro ⟨⟩)⟩

/-! ### The two states -/

/-- What holds until `EventHubReceiver_LL_Destroy` is called. -/
structure PairInv (s : ThreadedReceiver σ) : Prop where
  agrees : Agrees s
  ending : s.receiver.eventHubReceiverLL.client.state = .active →
    s.receiver.eventHubReceiverLL.control.ending = false
  worker : s.receiver.eventHubReceiverLL.client.state ≠ .inactive → s.worker ≠ none

/-- A step that leaves both states alone. -/
theorem PairInv.keep (hs : PairInv s) (hupper : t.receiver.state = s.receiver.state)
    (hlower : t.receiver.eventHubReceiverLL.client.state =
      s.receiver.eventHubReceiverLL.client.state)
    (hcontrol : t.receiver.eventHubReceiverLL.control = s.receiver.eventHubReceiverLL.control)
    (hworker : s.worker ≠ none → t.worker ≠ none) : PairInv t where
  agrees := by
    unfold Agrees
    rw [hupper, hlower]
    exact hs.agrees
  ending := by
    rw [hlower, hcontrol]
    exact hs.ending
  worker := by
    rw [hlower]
    exact fun h ↦ hworker (hs.worker h)

theorem receiveAsyncCommon_state {ll ll' : ReceiverState σ}
    {onReceive onError : Option UserCallback} {ts : UInt64} {timeout : UInt32} {env : ReceiveEnv}
    {r : EventHubReceiverResult}
    (h : EventHubReceiverLL.receiveAsyncCommon ll onReceive onError ts timeout env = (r, ll')) :
    (r = .ok → ll'.client.state = .active) ∧ (r ≠ .ok → ll'.client.state = ll.client.state) := by
  rcases EventHubReceiverLL.receiveAsyncCommon_cases ll onReceive onError ts timeout env with
    ⟨r', hr, h'⟩ | ⟨r', tick, filter, hr, -, -, -, h'⟩ | ⟨receiveCb, errorCb, tick, -, -, -, h'⟩
  all_goals obtain ⟨rfl, rfl⟩ := Prod.mk.inj (h'.symm.trans h)
  · exact ⟨fun hok ↦ absurd hok hr, fun _ ↦ rfl⟩
  · exact ⟨fun hok ↦ absurd hok hr, fun _ ↦ rfl⟩
  · exact ⟨fun _ ↦ rfl, fun hne ↦ absurd rfl hne⟩

/-- What the low-level receive call needs to succeed. -/
theorem receiveAsyncCommon_ok {ll ll' : ReceiverState σ}
    {onReceive onError : Option UserCallback} {ts : UInt64} {timeout : UInt32} {env : ReceiveEnv}
    (h : EventHubReceiverLL.receiveAsyncCommon ll onReceive onError ts timeout env = (.ok, ll')) :
    ll.client.state = .inactive ∧ (timeout = 0 ∨ env.tick.isSome = true) ∧
      env.constructs = true := by
  unfold EventHubReceiverLL.receiveAsyncCommon at h
  split at h
  · by_cases hstate : ll.client.state = .inactive
    · rw [if_neg (by simp [hstate])] at h
      by_cases htick : (timeout ≠ 0 && env.tick.isNone) = true
      · rw [if_pos htick] at h
        cases h
      · rw [if_neg htick] at h
        refine ⟨hstate, ?_, ?_⟩
        · simpa [or_iff_not_imp_left, Option.ne_none_iff_isSome] using htick
        · by_contra hconstructs
          have hfails : (!env.constructs) = true := by simpa using hconstructs
          rw [if_pos hfails] at h
          cases h
    · rw [if_pos hstate] at h
      cases h
  · cases h

/-- A receive call that cannot create the worker is one that lacks it. -/
theorem lacksWorker_of_threadless {i : ThreadedInput ι} {onReceive onError : Option UserCallback}
    {ts : UInt64} {timeout : UInt32} {env : ThreadedReceiveEnv} {ll : ReceiverState σ}
    (hi : i.receiveCall = some (onReceive, onError, ts, timeout, env))
    (hstate : s.receiver.state = .inactive)
    (hll : lowLevelReceive s.receiver.eventHubReceiverLL ts timeout env.receive = (.ok, ll))
    (hworker : s.worker = none) (hcreates : env.creates = false)
    (hreceive : onReceive.isSome = true) (herror : onError.isSome = true)
    (hlocks : env.locks = true) : lacksWorker s i = true := by
  rw [lowLevelReceive_eq] at hll
  obtain ⟨hinactive, htick, hconstructs⟩ := receiveAsyncCommon_ok hll
  obtain ⟨receiveCb, rfl⟩ := Option.isSome_iff_exists.mp hreceive
  obtain ⟨errorCb, rfl⟩ := Option.isSome_iff_exists.mp herror
  simp [lacksWorker, hi, hlocks, hstate, hinactive, htick, hconstructs, hworker, hcreates]

/-- The low-level receiver takes a step inside `EventHubReceiver_LL_DoWork`. -/
theorem PairInv.lowLevel (hs : PairInv s) {i : ReceiverInput ι} {alloc : DispatchEnv}
    (hi : i.internal = true ∨ ∃ env, i = .doWork env)
    (hspares : EventHubReceiverLL.Spares s.receiver.eventHubReceiverLL i)
    (hworker : s.worker = some .doWork) (h : LowLevelStep auth s i alloc t) : PairInv t := by
  have hupper : t.receiver.state = s.receiver.state := by rw [h.eq]
  have hthread : t.worker ≠ none := by rw [h.eq]; exact (by simp [hworker] : s.worker ≠ none)
  have hagrees := hs.agrees
  by_cases hactive : s.receiver.eventHubReceiverLL.client.state = .active
  · have hongoing : EventHubReceiverLL.Ongoing s.receiver.eventHubReceiverLL.client
        s.receiver.eventHubReceiverLL :=
      ⟨⟨rfl, rfl, rfl, rfl, rfl, rfl⟩, hactive, hs.ending hactive⟩
    have huser : EventHubReceiverLL.userEnds s.receiver.eventHubReceiverLL i = false := by
      rcases hi with hi | ⟨env, rfl⟩
      · cases i <;> first | rfl | simp [ReceiverInput.internal] at hi
      · rfl
    have hnext := EventHubReceiverLL.step_ongoing auth hongoing hspares huser h.step
    refine ⟨?_, fun _ ↦ hnext.control, fun _ ↦ hthread⟩
    exact ⟨fun _ ↦ hnext.active, fun _ ↦ hupper.trans (hagrees.mpr hactive)⟩
  · have hnot : t.receiver.eventHubReceiverLL.client.state ≠ .active := by
      rcases EventHubReceiverLL.step_state auth h.step hi with hsame | hinactive
      · rw [hsame]
        exact hactive
      · simp [hinactive]
    refine ⟨⟨fun h ↦ ?_, fun h ↦ absurd h hnot⟩, fun h ↦ absurd h hnot, fun _ ↦ hthread⟩
    exact absurd (hagrees.mp (hupper.symm.trans h)) hactive

theorem step_pairInv {i : ThreadedInput ι} (hlock : LockInv s) (hsteady : Steady s i)
    (hs : s.closing.before = true → PairInv s) (hstep : step auth s i = some t)
    (hbefore : t.closing.before = true) : PairInv t := by
  cases step_move auth hstep with
  | receive onReceive onError ts timeout env hi hmay =>
    have hs := hs (before_of_mayLock hmay).1
    have hidle := hlock.idle (before_of_mayLock hmay).1 (before_of_mayLock hmay).2
    have hcases := executeCommon_cases s onReceive onError ts timeout env
    generalize executeCommonReceiveFromStartTimestampAsync s onReceive onError ts timeout env = x
      at hcases
    cases hcases with
    | refused => exact hs
    | failed r ll hr hstate hll =>
      rw [lowLevelReceive_eq] at hll
      exact hs.keep rfl ((receiveAsyncCommon_state hll).2 hr) (receiveAsyncCommon_control hll).1 id
    | threadless ll hstate hll hworker hcreates hreceive herror hlocks =>
      have hlacks := lacksWorker_of_threadless hi hstate hll hworker hcreates hreceive herror hlocks
      exact absurd (hsteady.1.symm.trans hlacks) (by rintro ⟨⟩)
    | started receiveCb errorCb ll threadState worker hstate _ _ hll hthread =>
      rw [lowLevelReceive_eq] at hll
      have hactive := (receiveAsyncCommon_state hll).1 rfl
      refine ⟨⟨fun _ ↦ hactive, fun _ ↦ rfl⟩, fun _ ↦ ?_, fun _ ↦ (by rintro ⟨⟩)⟩
      have hcontrol : ll.control = .idle := (receiveAsyncCommon_control hll).1.trans hidle
      rw [ReceiverControl.ending]
      simp [saveCallbacks, hcontrol, ReceiverControl.call]
  | receiveEnd onEnd locks hmay =>
    have hs := hs (before_of_mayLock hmay).1
    rcases receiveEndAsync_cases s onEnd locks with ⟨r, -, h⟩ | ⟨ll, hactive, -, hll, h⟩ <;> rw [h]
    · exact hs
    · rcases EventHubReceiverLL.receiveEndAsync_cases s.receiver.eventHubReceiverLL
        (if onEnd.isSome then some asyncEnd else none) with ⟨-, h'⟩ | ⟨hlower, h'⟩
      all_goals obtain ⟨hok, rfl⟩ := Prod.mk.inj (h'.symm.trans hll)
      · cases hok
      · exact ⟨⟨by rintro ⟨⟩, by rintro ⟨⟩⟩, by rintro ⟨⟩, fun _ ↦ hs.worker (by rw [hlower]; simp)⟩
  | refresh token env locks hmay =>
    have hs := hs (before_of_mayLock hmay).1
    unfold refreshSASTokenAsync
    split_ifs
    · exact hs
    · exact hs
    · rcases EventHubReceiverLL.refreshSASTokenAsync_cases s.receiver.eventHubReceiverLL token env
        with ⟨r, -, h⟩ | ⟨text, config, cfg, -, -, -, -, -, -, h⟩ <;> rw [h]
      · exact hs
      · exact hs.keep rfl rfl rfl id
  | tracing on locks hmay =>
    have hs := hs (before_of_mayLock hmay).1
    unfold setConnectionTracing
    split_ifs
    · exact hs
    · rcases EventHubReceiverLL.setConnectionTracing_cases s.receiver.eventHubReceiverLL on with
        ⟨-, h⟩ | ⟨-, h⟩ <;> rw [h] <;> exact hs.keep rfl rfl rfl id
  | destroy hopen => exact (hs (by rw [hopen]; rfl)).keep rfl rfl rfl id
  | exit locks env alloc hhead hend => exact (hs hbefore).keep rfl rfl rfl fun _ ↦ (by rintro ⟨⟩)
  | lockFailed env alloc hhead => exact (hs hbefore).keep rfl rfl rfl fun _ ↦ (by rintro ⟨⟩)
  | doWork env alloc hhead h =>
    have hs := hs (hlock.before hhead (by rintro ⟨⟩))
    have hstart : PairInv { s with worker := some .doWork, log := s.log ++ [.iteration true] } :=
      hs.keep rfl rfl rfl fun _ ↦ (by rintro ⟨⟩)
    exact hstart.lowLevel auth (Or.inr ⟨env, rfl⟩) (by rintro ⟨⟩) rfl h
  | lowLevel i alloc hin hi h =>
    have hclosing : t.closing = s.closing := by rw [h.eq]; rfl
    rcases hin with hworker | hdestroying
    · exact (hs (hclosing ▸ hbefore)).lowLevel auth (Or.inl hi) hsteady.2 hworker h
    · rw [hclosing, hdestroying] at hbefore
      cases hbefore
  | unlock hworker hidle => exact (hs hbefore).keep rfl rfl rfl fun _ ↦ (by rintro ⟨⟩)
  | @process callbacks hworker =>
    have hresult := process_result s callbacks
    have hs := hs (hlock.before hworker (by rintro ⟨⟩))
    generalize asyncDispatchCallbackListProcess s callbacks = u at hresult ⊢
    cases hresult <;> exact hs.keep rfl rfl rfl fun _ ↦ (by rintro ⟨⟩)
  | callbackReturn hworker => exact (hs hbefore).keep rfl rfl rfl fun _ ↦ (by rintro ⟨⟩)
  | wake hworker => exact (hs hbefore).keep rfl rfl rfl fun _ ↦ (by rintro ⟨⟩)
  | join alloc hclosing hworker h =>
    rw [h.eq] at hbefore
    cases hbefore
  | deInit hclosing => cases hbefore

/-! ### The way to the next receive call -/

/-- The worker has moved outside the lock. -/
structure Rests (s t : ThreadedReceiver σ) : Prop where
  lowLevel : t.receiver.eventHubReceiverLL = s.receiver.eventHubReceiverLL
  state : t.receiver.state = s.receiver.state
  threadState : t.receiver.threadState = s.receiver.threadState
  closing : t.closing = s.closing

theorem Rests.trans {u : ThreadedReceiver σ} (h : Rests s t) (h' : Rests t u) : Rests s u where
  lowLevel := h'.lowLevel.trans h.lowLevel
  state := h'.state.trans h.state
  threadState := h'.threadState.trans h.threadState
  closing := h'.closing.trans h.closing

/-- The worker can get through its list. -/
theorem leads_sleep (callbacks : AsyncCallbacks) (s : ThreadedReceiver σ)
    (hworker : s.worker = some (.processing (some callbacks))) :
    ∃ t, (threadedMachine auth).Leads s t ∧ Rests s t ∧ t.worker = some .sleep := by
  have hprocess : ∀ s : ThreadedReceiver σ, s.worker = some (.processing (some callbacks)) →
      (threadedMachine auth).step s .process =
        some (asyncDispatchCallbackListProcess s (some callbacks)) := by
    intro s h
    simp only [threadedMachine, step, h]
  induction hlist : s.receiver.receiveCallbackList generalizing s with
  | nil =>
    refine ⟨_, .head (hprocess s hworker) (.refl _), ?_⟩
    rw [asyncDispatchCallbackListProcess, hlist]
    exact ⟨⟨rfl, rfl, rfl, rfl⟩, rfl⟩
  | cons dispatch rest ih =>
    have hnext := hprocess s hworker
    have hresult := process_result s (some callbacks)
    generalize asyncDispatchCallbackListProcess s (some callbacks) = u at hresult hnext
    cases hresult with
    | done _ hnil => exact absurd (hnil.symm.trans hlist) (by rintro ⟨⟩)
    | dropped _ _ rest' hlist' _ =>
      obtain ⟨-, rfl⟩ := List.cons.inj (hlist'.symm.trans hlist)
      obtain ⟨t, hleads, hrests, ht⟩ := ih { s with
        receiver := { s.receiver with receiveCallbackList := rest' }
        worker := some (.processing (some callbacks)) } rfl rfl
      exact ⟨t, .head hnext hleads, ⟨hrests.1, hrests.2, hrests.3, hrests.4⟩, ht⟩
    | invoked _ called rest' callback hlist' _ =>
      obtain ⟨-, rfl⟩ := List.cons.inj (hlist'.symm.trans hlist)
      obtain ⟨t, hleads, hrests, ht⟩ := ih (callbackReturn { s with
        receiver := { s.receiver with receiveCallbackList := rest' }
        worker := some (.userCallback callbacks called)
        log := s.log ++ [.invoked callback called] } callbacks called) rfl rfl
      have hreturn : (threadedMachine auth).Leads { s with
          receiver := { s.receiver with receiveCallbackList := rest' }
          worker := some (.userCallback callbacks called)
          log := s.log ++ [.invoked callback called] } t := .head (i := .callbackReturn) rfl hleads
      exact ⟨t, .head hnext hreturn, ⟨hrests.1, hrests.2, hrests.3, hrests.4⟩, ht⟩

/-- A worker outside the lock can get to the head of its loop. -/
theorem leads_loopHead (hs : WorkerInv s) (hopen : s.closing = .open)
    (hworker : s.worker ≠ none) (hlock : s.worker ≠ some .doWork) :
    ∃ t, (threadedMachine auth).Leads s t ∧ Rests s t ∧ t.worker = some .loopHead := by
  have hwake : ∀ u : ThreadedReceiver σ, u.worker = some .sleep →
      ∃ t, (threadedMachine auth).Leads u t ∧ Rests u t ∧ t.worker = some .loopHead := by
    intro u hu
    exact ⟨{ u with worker := some .loopHead }, .head (i := .wake) (if_pos hu) (.refl _),
      ⟨rfl, rfl, rfl, rfl⟩, rfl⟩
  have hprocess : ∀ (callbacks : AsyncCallbacks) (u : ThreadedReceiver σ),
      u.worker = some (.processing (some callbacks)) →
      ∃ t, (threadedMachine auth).Leads u t ∧ Rests u t ∧ t.worker = some .loopHead := by
    intro callbacks u hu
    obtain ⟨v, hleads, hrests, hv⟩ := leads_sleep auth callbacks u hu
    obtain ⟨t, hleads', hrests', ht⟩ := hwake v hv
    exact ⟨t, hleads.trans hleads', hrests.trans hrests', ht⟩
  obtain ⟨w, hw⟩ := Option.ne_none_iff_exists'.mp hworker
  cases w with
  | loopHead => exact ⟨s, .refl s, ⟨rfl, rfl, rfl, rfl⟩, hw⟩
  | doWork => exact absurd hw hlock
  | processing callbacks =>
    cases callbacks with
    | none =>
      have hlist := hs.empty (by rw [hopen]; rfl) (Or.inr hw)
      obtain ⟨t, hleads, hrests, ht⟩ := hwake { s with worker := some .sleep } rfl
      have hstep : (threadedMachine auth).step s .process =
          some { s with worker := some .sleep } := by
        simp only [threadedMachine, step, hw, asyncDispatchCallbackListProcess, hlist]
      exact ⟨t, .head hstep hleads, ⟨hrests.1, hrests.2, hrests.3, hrests.4⟩, ht⟩
    | some callbacks => exact hprocess callbacks s hw
  | userCallback callbacks dispatch =>
    obtain ⟨t, hleads, hrests, ht⟩ := hprocess callbacks (callbackReturn s callbacks dispatch) rfl
    have hstep : (threadedMachine auth).step s .callbackReturn =
        some (callbackReturn s callbacks dispatch) := by
      simp only [threadedMachine, step, hw]
    exact ⟨t, .head hstep hleads, ⟨hrests.1, hrests.2, hrests.3, hrests.4⟩, ht⟩
  | sleep => exact hwake s hw
  | exited => exact absurd hw (hs.running hopen hworker).2
  | undefinedBehaviour => exact absurd hw hs.assigned

end EventHubReceiver

namespace EventHubReceiverLL

variable {σ ι : Type} (auth : AuthModule σ ι)

/-- Some steps inside the present call lead to the end of the reception. -/
def CanEnd (s : ReceiverState σ) : Prop :=
  ∃ (js : List (ReceiverInput ι)) (t : ReceiverState σ), (∀ j ∈ js, j.internal = true) ∧
    (receiverMachine auth).run s js = some t ∧ t.control = .idle ∧ t.client.state = .inactive

theorem CanEnd.head {s t : ReceiverState σ} {j : ReceiverInput ι} (hj : j.internal = true)
    (hstep : (receiverMachine auth).step s j = some t) (h : CanEnd auth t) : CanEnd auth s := by
  obtain ⟨js, u, hjs, hrun, hu⟩ := h
  refine ⟨j :: js, u, fun k hk ↦ ?_, by rw [Machine.run_cons, hstep, Option.bind_some, hrun], hu⟩
  rcases List.mem_cons.mp hk with rfl | hk
  · exact hj
  · exact hjs k hk

theorem CanEnd.refl {s : ReceiverState σ} (hidle : s.control = .idle)
    (hs : s.client.state = .inactive) : CanEnd auth s :=
  ⟨[], s, fun _ hj ↦ absurd hj List.not_mem_nil, rfl, hidle, hs⟩

theorem afterTeardown_canEnd {s : ReceiverState σ} (hs : s.client.state = .inactive) :
    CanEnd auth (afterTeardown s .endReception) := by
  unfold afterTeardown
  cases s.client.callback.onEventReceiveEndCallback with
  | none => exact .refl auth rfl hs
  | some callback =>
    have hend : CanEnd auth (endReturn
        { s with control := .endCb, log := s.log ++ [.ended callback .ok] }) := .refl auth rfl hs
    exact .head auth (j := .callbackReturn) rfl rfl hend

/-- `EventHubReceiver_LL_DoWork` can end a reception whose end has been asked for. -/
theorem doWork_canEnd {s : ReceiverState σ} (hpending : s.client.state = .inactivePending)
    (env : ReceiverEnv ι) : CanEnd auth (doWork auth s env) := by
  have hstate : (s.emit [.doWork]).client.state = .inactivePending := hpending
  have hwork : doWork auth s env =
      deInitializeStack (s.emit [.doWork]) (.teardown .endReception) := by
    simp only [doWork, hstate, teardownReceiverStack]
  rw [hwork]
  unfold deInitializeStack
  by_cases hreceiver : ((s.emit [.doWork]).client.stack .messageReceiver).isSome = true
  · rw [if_pos hreceiver]
    exact .head auth (j := .uamqpReturn true env) rfl rfl (afterTeardown_canEnd auth rfl)
  · rw [if_neg hreceiver]
    exact afterTeardown_canEnd auth rfl

end EventHubReceiverLL

namespace EventHubReceiver

variable {σ ι : Type} (auth : AuthModule σ ι) {s t : ThreadedReceiver σ}

/-- The worker can take the low-level receiver through the rest of a call. -/
theorem leads_lowLevel {ll : ReceiverState σ} {js : List (ReceiverInput ι)}
    (hjs : ∀ j ∈ js, j.internal = true) (hworker : s.worker = some .doWork)
    (hrun : (EventHubReceiverLL.receiverMachine auth).run s.receiver.eventHubReceiverLL js =
      some ll) :
    ∃ t, (threadedMachine auth).Leads s t ∧ t.receiver.eventHubReceiverLL = ll ∧
      t.worker = some .doWork ∧ t.receiver.state = s.receiver.state ∧ t.closing = s.closing := by
  induction js generalizing s with
  | nil => exact ⟨s, .refl s, Option.some.inj hrun, hworker, rfl, rfl⟩
  | cons j js ih =>
    rw [Machine.run_cons] at hrun
    obtain ⟨mid, hmid, hrest⟩ := Option.bind_eq_some_iff.mp hrun
    obtain ⟨hj, hjs⟩ := List.forall_mem_cons.mp hjs
    have hmid : EventHubReceiverLL.step auth s.receiver.eventHubReceiverLL j = some mid := hmid
    obtain ⟨u, hstep, hll, hu, hstate, hclosing⟩ : ∃ u,
        (threadedMachine auth).step s (.lowLevel j {}) = some u ∧
        u.receiver.eventHubReceiverLL = mid ∧ u.worker = some .doWork ∧
        u.receiver.state = s.receiver.state ∧ u.closing = s.closing := by
      simp only [threadedMachine, step, hworker, hj, lowLevel, hmid, decide_true, Bool.true_or,
        Bool.and_self, if_true, Option.map_some, Option.some.injEq]
      exact ⟨_, rfl, rfl, rfl, rfl, rfl⟩
    obtain ⟨t, hleads, ht⟩ := ih hjs hu (hll ▸ hrest)
    exact ⟨t, .head hstep hleads, ht.1, ht.2.1, ht.2.2.1.trans hstate, ht.2.2.2.trans hclosing⟩

theorem executeCommon_ok (hupper : s.receiver.state = .inactive)
    (hlower : s.receiver.eventHubReceiverLL.client.state = .inactive)
    (onReceive onError : UserCallback) (timestamp : UInt64) :
    (executeCommonReceiveFromStartTimestampAsync s (some onReceive) (some onError) timestamp 0
      {}).1 = .ok := by
  have hll : (lowLevelReceive s.receiver.eventHubReceiverLL timestamp 0 {}).1 = .ok := by
    rw [lowLevelReceive_eq]
    simp [EventHubReceiverLL.receiveAsyncCommon, hlower]
  unfold executeCommonReceiveFromStartTimestampAsync
  simp only [hupper, hll, ne_eq, not_true_eq_false, Bool.not_true, Bool.false_eq_true, if_false]
  split <;> rfl

/-- The worker can end a reception whose end has been asked for. -/
theorem leads_inactive (env : ReceiverEnv ι) (hlock : LockInv s) (hs : WorkerInv s)
    (hmay : mayLock s = true) (hworker : s.worker ≠ none)
    (hpending : s.receiver.eventHubReceiverLL.client.state = .inactivePending) :
    ∃ t, (threadedMachine auth).Leads s t ∧ mayLock t = true ∧
      t.receiver.state = s.receiver.state ∧
      t.receiver.eventHubReceiverLL.client.state = .inactive := by
  obtain ⟨hopen, hfree⟩ : s.closing = .open ∧ s.worker ≠ some .doWork := by
    simpa [mayLock] using hmay
  have hbefore : s.closing.before = true := by rw [hopen]; rfl
  obtain ⟨u, hleads, hrests, hhead⟩ := leads_loopHead auth hs hopen hworker hfree
  have hrun : u.receiver.threadState = .threadRun :=
    hrests.threadState.trans (hs.running hopen hworker).1
  have hidle : u.receiver.eventHubReceiverLL.control = .idle := by
    rw [hrests.lowLevel]
    exact hlock.idle hbefore hfree
  have hnot : u.receiver.eventHubReceiverLL.destroying = false := by
    rw [hrests.lowLevel]
    exact hlock.destroying hbefore
  have hlower : u.receiver.eventHubReceiverLL.client.state = .inactivePending := by
    rw [hrests.lowLevel]
    exact hpending
  obtain ⟨js, ll, hjs, hjsRun, hend, hinactive⟩ :=
    EventHubReceiverLL.doWork_canEnd (ι := ι) auth hlower env
  obtain ⟨v, hstep, hll, hv, hstate, hclosing⟩ : ∃ v,
      (threadedMachine auth).step u (.iterate true env {}) = some v ∧
      v.receiver.eventHubReceiverLL =
        EventHubReceiverLL.doWork auth u.receiver.eventHubReceiverLL env ∧
      v.worker = some .doWork ∧ v.receiver.state = u.receiver.state ∧ v.closing = u.closing := by
    simp only [threadedMachine, step, hhead, iterate, hrun, lowLevel, EventHubReceiverLL.step,
      hidle, hnot, decide_true, Bool.not_false, Bool.and_self, if_true, reduceCtorEq, if_false,
      Option.map_some, Option.some.injEq]
    exact ⟨_, rfl, rfl, rfl, rfl, rfl⟩
  obtain ⟨w, hleads', hwll, hw, hwstate, hwclosing⟩ := leads_lowLevel auth hjs hv (hll ▸ hjsRun)
  have hunlock : (threadedMachine auth).step w .unlock = some (unlock w) := by
    have hidle : w.receiver.eventHubReceiverLL.control = .idle := by rw [hwll, hend]
    simp only [threadedMachine, step, hw, hidle, decide_true, Bool.and_self, if_true]
  refine ⟨unlock w, hleads.trans (.head hstep (hleads'.trans (.head hunlock (.refl _)))),
    ?_, ?_, ?_⟩
  · have hopen : w.closing = .open :=
      hwclosing.trans (hclosing.trans (hrests.closing.trans hopen))
    simp [mayLock, unlock, hopen]
  · exact hwstate.trans (hstate.trans hrests.state)
  · change w.receiver.eventHubReceiverLL.client.state = .inactive
    rw [hwll, hinactive]

/-- A receiver whose states agree takes a receive or an end call, now or after the tear-down. -/
theorem PairInv.not_wedged (hs : PairInv s) (env : ReceiverEnv ι) (hlock : LockInv s)
    (hworker : WorkerInv s) (hmay : mayLock s = true) : ¬Wedged auth s := by
  intro hwedged
  have hagrees := hs.agrees
  cases hupper : s.receiver.state with
  | active =>
    have hlower := hagrees.mp hupper
    have hend : (receiveEndAsync s none true).1 = .ok := by
      simp [receiveEndAsync, hupper, EventHubReceiverLL.receiveEndAsync, hlower]
    exact absurd (hend.symm.trans ((hwedged s (.refl s) hmay).2 none)) nofun
  | inactive =>
    have hready : ∃ t, (threadedMachine auth).Leads s t ∧ mayLock t = true ∧
        t.receiver.state = s.receiver.state ∧
        t.receiver.eventHubReceiverLL.client.state = .inactive := by
      cases hlower : s.receiver.eventHubReceiverLL.client.state with
      | inactive => exact ⟨s, .refl s, hmay, rfl, hlower⟩
      | inactivePending =>
        exact leads_inactive auth env hlock hworker hmay (hs.worker (by simp [hlower])) hlower
      | active => exact absurd (hupper.symm.trans (hagrees.mpr hlower)) nofun
    obtain ⟨t, hleads, hmay', hstate, hinactive⟩ := hready
    have hok := executeCommon_ok (hstate.trans hupper) hinactive ⟨0, none⟩ ⟨0, none⟩ 0
    have hrefused := (hwedged t hleads hmay').1 ⟨0, none⟩ ⟨0, none⟩ 0 0 {} rfl
    exact absurd (hok.symm.trans hrefused) nofun

theorem created_workerInv (c : EventHubReceiverLL σ) : WorkerInv (created c) :=
  ⟨fun _ h ↦ absurd rfl h, nofun, fun _ _ ↦ rfl⟩

theorem created_pairInv {c : EventHubReceiverLL σ} (hc : EventHubReceiverLL.Created c) :
    PairInv (created c) := by
  have hstate : c.state = .inactive := by cases hc <;> rfl
  exact ⟨⟨nofun, fun h ↦ absurd (hstate.symm.trans h) nofun⟩,
    fun h ↦ absurd (hstate.symm.trans h) nofun, fun h ↦ absurd hstate h⟩

/-- In every run in which the worker is created when it is needed and no tear-down after a failed
authentication finds the reception active, the two states agree until `EventHubReceiver_LL_Destroy`,
and whenever the users may call, the receiver is not wedged. -/
theorem run_agrees {c : EventHubReceiverLL σ} (hc : EventHubReceiverLL.Created c)
    (env : ReceiverEnv ι) {is : List (ThreadedInput ι)}
    (hsteady : (threadedMachine auth).Meets Steady (created c) is)
    (hrun : (threadedMachine auth).run (created c) is = some t) :
    (t.closing.before = true → Agrees t) ∧ (mayLock t = true → ¬Wedged auth t) := by
  have hstep : ∀ s i t,
      (LockInv s ∧ WorkerInv s ∧ (s.closing.before = true → PairInv s)) → Steady s i →
      (threadedMachine auth).step s i = some t →
      LockInv t ∧ WorkerInv t ∧ (t.closing.before = true → PairInv t) :=
    fun _ _ _ hs hi h ↦ ⟨step_lockInv auth hs.1 h, step_workerInv auth hs.1 hs.2.1 h,
      step_pairInv auth hs.1 hi hs.2.2 h⟩
  obtain ⟨hlock, hworker, hpair⟩ := Machine.run_invariant_of_meets hstep
    ⟨created_lockInv c, created_workerInv c, fun _ ↦ created_pairInv hc⟩ hsteady hrun
  exact ⟨fun hbefore ↦ (hpair hbefore).agrees,
    fun hmay ↦ (hpair (before_of_mayLock hmay).1).not_wedged auth env hlock hworker hmay⟩

/-- A reception that is ended by the user and torn down. -/
theorem run_agrees_endedFromCallback :
    ∃ t, (threadedMachine (EventHubAuthCBS.authModule fun _ ↦ none)).run
        (created (.createdFromConnectionString "host" "hub" "name" "key" "group" "0"))
        endedFromCallback = some t ∧
      Agrees t ∧ ¬Wedged (EventHubAuthCBS.authModule fun _ ↦ none) t := by
  refine ⟨_, rfl, ?_⟩
  have h := @run_agrees _ _ (EventHubAuthCBS.authModule fun _ ↦ none) _ _
    (.fromConnectionString "host" "hub" "name" "key" "group" "0")
    (EventHubReceiverLL.workAt 1) endedFromCallback (by decide) rfl
  exact ⟨h.1 rfl, h.2 rfl⟩

/-! ### Disagreement -/

/-- The states disagree in one of the two ways. -/
def Stuck (s : ThreadedReceiver σ) : Prop :=
  s.closing = .open →
    (s.worker = none ∧ s.receiver.state = .inactive ∧
      s.receiver.eventHubReceiverLL.client.state = .active) ∨
    (s.receiver.state = .active ∧ s.receiver.eventHubReceiverLL.client.state = .inactive)

theorem Stuck.keep (hs : Stuck s) (hclosing : t.closing = s.closing)
    (hupper : t.receiver.state = s.receiver.state)
    (hlower : t.receiver.eventHubReceiverLL.client.state =
      s.receiver.eventHubReceiverLL.client.state)
    (hworker : s.worker = none → t.worker = none) : Stuck t := by
  intro hopen
  rw [hupper, hlower]
  exact (hs (hclosing ▸ hopen)).imp (fun h ↦ ⟨hworker h.1, h.2⟩) id

/-- A low-level receiver that is inactive stays so in `EventHubReceiver_LL_DoWork`. -/
theorem Stuck.lowLevel (hs : Stuck s) {w : WorkerControl} (hw : s.worker = some w)
    {i : ReceiverInput ι} {alloc : DispatchEnv} (hi : i.internal = true ∨ ∃ env, i = .doWork env)
    (h : LowLevelStep auth s i alloc t) : Stuck t := by
  have hclosing : t.closing = s.closing := by rw [h.eq]; rfl
  have hupper : t.receiver.state = s.receiver.state := by rw [h.eq]
  intro hopen
  rcases hs (hclosing ▸ hopen) with ⟨hnone, -⟩ | ⟨hactive, hinactive⟩
  · simp [hw] at hnone
  · refine Or.inr ⟨hupper.trans hactive, ?_⟩
    rcases EventHubReceiverLL.step_state auth h.step hi with hsame | hended
    · exact hsame.trans hinactive
    · exact hended

/-- In a stuck receiver that is open, the low-level call of a receive call is refused, or the call
does not get to it. -/
theorem Stuck.receive (hs : Stuck s) (hopen : s.closing = .open)
    (hstate : s.receiver.state = .inactive) {ts : UInt64} {timeout : UInt32} {env : ReceiveEnv}
    {r : EventHubReceiverResult} {ll : ReceiverState σ}
    (hll : lowLevelReceive s.receiver.eventHubReceiverLL ts timeout env = (r, ll)) :
    r = .notAllowed ∧ ll = s.receiver.eventHubReceiverLL := by
  rcases hs hopen with ⟨-, -, hactive⟩ | ⟨hupper, -⟩
  · rw [lowLevelReceive_eq] at hll
    simp only [EventHubReceiverLL.receiveAsyncCommon, hactive, ne_eq, reduceCtorEq,
      not_false_eq_true, if_true, Prod.mk.injEq] at hll
    exact ⟨hll.1.symm, hll.2.symm⟩
  · exact absurd (hstate.symm.trans hupper) nofun

theorem step_stuck {i : ThreadedInput ι} (hs : Stuck s) (hstep : step auth s i = some t) :
    Stuck t := by
  have hopenOf : mayLock s = true → s.closing = .open := fun hmay ↦ by
    simp only [mayLock, Bool.and_eq_true, decide_eq_true_eq] at hmay
    exact hmay.1
  cases step_move auth hstep with
  | receive onReceive onError ts timeout env _ hmay =>
    have hopen := hopenOf hmay
    have hcases := executeCommon_cases s onReceive onError ts timeout env
    generalize executeCommonReceiveFromStartTimestampAsync s onReceive onError ts timeout env = x
      at hcases
    cases hcases with
    | refused => exact hs
    | failed r ll hr hstate hll =>
      obtain ⟨-, rfl⟩ := hs.receive hopen hstate hll
      exact hs
    | threadless ll hstate hll => exact absurd (hs.receive hopen hstate hll).1 (by rintro ⟨⟩)
    | started receiveCb errorCb ll threadState worker hstate _ _ hll =>
      exact absurd (hs.receive hopen hstate hll).1 (by rintro ⟨⟩)
  | receiveEnd onEnd locks hmay =>
    rcases receiveEndAsync_cases s onEnd locks with ⟨r, -, h⟩ | ⟨ll, hactive, -, hll, h⟩ <;> rw [h]
    · exact hs
    · rcases hs (hopenOf hmay) with ⟨-, hupper, -⟩ | ⟨-, hinactive⟩
      · exact absurd (hactive.symm.trans hupper) (by rintro ⟨⟩)
      · simp [EventHubReceiverLL.receiveEndAsync, hinactive] at hll
  | refresh token env locks hmay =>
    unfold refreshSASTokenAsync
    split_ifs
    · exact hs
    · exact hs
    · rcases EventHubReceiverLL.refreshSASTokenAsync_cases s.receiver.eventHubReceiverLL token env
        with ⟨r, -, h⟩ | ⟨text, config, cfg, -, -, -, -, -, -, h⟩ <;> rw [h]
      · exact hs
      · exact hs.keep rfl rfl rfl id
  | tracing on locks hmay =>
    unfold setConnectionTracing
    split_ifs
    · exact hs
    · rcases EventHubReceiverLL.setConnectionTracing_cases s.receiver.eventHubReceiverLL on with
        ⟨-, h⟩ | ⟨-, h⟩ <;> rw [h] <;> exact hs.keep rfl rfl rfl id
  | destroy hopen => exact (by rintro ⟨⟩)
  | exit locks env alloc hhead hend => exact hs.keep rfl rfl rfl (by simp [hhead])
  | lockFailed env alloc hhead => exact hs.keep rfl rfl rfl (by simp [hhead])
  | doWork env alloc hhead h =>
    have hstart : Stuck { s with worker := some .doWork, log := s.log ++ [.iteration true] } :=
      hs.keep rfl rfl rfl (by simp [hhead])
    exact hstart.lowLevel auth rfl (Or.inr ⟨env, rfl⟩) h
  | lowLevel i alloc hin hi h =>
    rcases hin with hworker | hdestroying
    · exact hs.lowLevel auth hworker (Or.inl hi) h
    · have hclosing : t.closing = .destroying := by rw [h.eq]; exact hdestroying
      exact fun hopen ↦ absurd (hclosing.symm.trans hopen) (by rintro ⟨⟩)
  | unlock hworker hidle => exact hs.keep rfl rfl rfl (by simp [hworker])
  | @process callbacks hworker =>
    have hresult := process_result s callbacks
    generalize asyncDispatchCallbackListProcess s callbacks = u at hresult ⊢
    cases hresult <;> exact hs.keep rfl rfl rfl (by simp [hworker])
  | callbackReturn hworker => exact hs.keep rfl rfl rfl (by simp [hworker])
  | wake hworker => exact hs.keep rfl rfl rfl (by simp [hworker])
  | join alloc hclosing hworker h =>
    rw [h.eq]
    exact (by rintro ⟨⟩)
  | deInit hclosing => exact (by rintro ⟨⟩)

theorem Stuck.wedged (hs : Stuck s) : Wedged auth s := by
  intro u hleads hmay
  obtain ⟨is, his⟩ := hleads
  have hstep : ∀ s i t, Stuck s → (threadedMachine auth).step s i = some t → Stuck t :=
    fun _ _ _ hs h ↦ step_stuck auth hs h
  have hu : Stuck u := Machine.run_invariant hstep hs his
  have hopen : u.closing = .open := by
    simp only [mayLock, Bool.and_eq_true, decide_eq_true_eq] at hmay
    exact hmay.1
  refine ⟨fun onReceive onError timestamp timeout env hlocks ↦ ?_, fun onEnd ↦ ?_⟩
  · unfold executeCommonReceiveFromStartTimestampAsync
    by_cases hstate : u.receiver.state = .inactive
    · have hrefused : (lowLevelReceive u.receiver.eventHubReceiverLL timestamp timeout
          env.receive).1 = .notAllowed := (hu.receive hopen hstate (Eq.refl (_, _))).1
      simp only [hlocks, hstate, hrefused, Bool.not_true, Bool.false_eq_true, if_false, ne_eq,
        not_true_eq_false, reduceCtorEq, not_false_eq_true, if_true]
    · simp only [hlocks, hstate, Bool.not_true, Bool.false_eq_true, if_false, ne_eq,
        not_false_eq_true, if_true]
  · rcases hu hopen with ⟨-, hupper, -⟩ | ⟨hupper, hinactive⟩
    · simp [receiveEndAsync, hupper]
    · simp [receiveEndAsync, hupper, EventHubReceiverLL.receiveEndAsync, hinactive]

/-- The worker calls `EventHubReceiver_LL_DoWork` for a reception whose token is refused. -/
def tokenRefused : List (ThreadedInput AuthEnv) :=
  [.receiveFromStartTimestampAsync (some ⟨1, none⟩) (some ⟨2, none⟩) 0 {},
    .iterate true (EventHubReceiverLL.workAt 1) {},
    .lowLevel (.onCBSPutTokenOperationComplete .operationFailed {}) {},
    .lowLevel (.uamqpReturn true (EventHubReceiverLL.workAt 1)) {}, .unlock, .process, .wake,
    .iterate true (EventHubReceiverLL.workAt 2) {}, .lowLevel .callbackReturn {}, .unlock]

/-- After a failed `ThreadAPI_Create` the low-level receiver alone is active, after a refused token
the threaded receiver alone. Either is wedged. -/
theorem run_disagrees :
    (∃ t, (threadedMachine (EventHubAuthCBS.authModule fun _ ↦ none)).run
        (created (.createdFromConnectionString "host" "hub" "name" "key" "group" "0"))
        [.receiveFromStartTimestampAsync (some ⟨1, none⟩) (some ⟨2, none⟩) 0
          { creates := false }] = some t ∧
      mayLock t = true ∧ ¬Agrees t ∧ Wedged (EventHubAuthCBS.authModule fun _ ↦ none) t) ∧
    ∃ t, (threadedMachine (EventHubAuthCBS.authModule fun _ ↦ none)).run
        (created (.createdFromConnectionString "host" "hub" "name" "key" "group" "0"))
        tokenRefused = some t ∧
      mayLock t = true ∧ ¬Agrees t ∧ Wedged (EventHubAuthCBS.authModule fun _ ↦ none) t := by
  refine ⟨⟨_, rfl, rfl, fun h ↦ ?_, ?_⟩, ⟨_, rfl, rfl, fun h ↦ ?_, ?_⟩⟩
  · exact absurd (h.mpr rfl) nofun
  · exact Stuck.wedged _ fun _ ↦ Or.inl ⟨rfl, rfl, rfl⟩
  · exact absurd (h.mp rfl) nofun
  · exact Stuck.wedged _ fun _ ↦ Or.inr ⟨rfl, rfl⟩

end EventHubReceiver

end EventHubs
