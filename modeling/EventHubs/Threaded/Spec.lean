import EventHubs.Receiver.Calls
import EventHubs.Threaded.Receiver

/-!
# What the functions of the threaded receiver do

The outcomes of the public functions and the steps of the machine as case analyses, and the first
thing that follows from them: under the lock discipline, the low-level receiver inside a threaded
one runs as the machine of its own, so what holds of its runs holds here too.

## Main definitions

* `EventHubReceiver.Move` — what a step can be.
* `EventHubReceiver.LockInv` — the low-level receiver is between two calls while nobody holds the
  lock.

## Main results

* `EventHubReceiver.executeCommon_cases`, `EventHubReceiver.receiveEndAsync_cases`.
* `EventHubReceiver.step_lockInv`, `EventHubReceiver.run_lowLevel`.
-/

namespace EventHubs

/-- `EventHubReceiver_LL_Destroy` has not been called. -/
def Closing.before : Closing → Bool
  | .open => true
  | .joining => true
  | _ => false

/-- The receive calls, with the arguments that they give to
`ExecuteCommonReceiveFromStartTimestampAsync`. -/
def ThreadedInput.receiveCall {ι : Type} : ThreadedInput ι →
    Option (Option UserCallback × Option UserCallback × UInt64 × UInt32 × ThreadedReceiveEnv)
  | .receiveFromStartTimestampAsync onReceive onError timestamp env =>
    some (onReceive, onError, timestamp, 0, env)
  | .receiveFromStartTimestampWithTimeoutAsync onReceive onError timestamp timeout env =>
    some (onReceive, onError, timestamp, timeout, env)
  | _ => none

namespace EventHubReceiver

variable {σ ι : Type} (auth : AuthModule σ ι) {s t : ThreadedReceiver σ}

/-- The threaded receiver with another state of the low-level one. -/
def withLowLevel (s : ThreadedReceiver σ) (ll : ReceiverState σ) : ThreadedReceiver σ :=
  { s with receiver := { s.receiver with eventHubReceiverLL := ll } }

/-! ### Public functions -/

theorem lowLevelReceive_eq (ll : ReceiverState σ) (startTimestampInSec : UInt64)
    (waitTimeoutInMs : UInt32) (env : ReceiveEnv) :
    lowLevelReceive ll startTimestampInSec waitTimeoutInMs env =
      EventHubReceiverLL.receiveAsyncCommon ll (some asyncReceive) (some asyncReceiveError)
        startTimestampInSec waitTimeoutInMs env := by
  unfold lowLevelReceive
  by_cases hwait : waitTimeoutInMs = 0
  · rw [if_pos hwait, hwait]
    rfl
  · rw [if_neg hwait]
    rfl

/-- A receive call is refused before or by the low-level call, or the worker cannot be created, or
the reception is on. -/
inductive ReceiveResult (s : ThreadedReceiver σ) (onReceive onError : Option UserCallback)
    (startTimestampInSec : UInt64) (waitTimeoutInMs : UInt32) (env : ThreadedReceiveEnv) :
    EventHubReceiverResult × ThreadedReceiver σ → Prop
  | refused (r : EventHubReceiverResult) (hr : r ≠ .ok) :
    ReceiveResult s onReceive onError startTimestampInSec waitTimeoutInMs env (r, s)
  | failed (r : EventHubReceiverResult) (ll : ReceiverState σ) (hr : r ≠ .ok)
      (hstate : s.receiver.state = .inactive)
      (hll : lowLevelReceive s.receiver.eventHubReceiverLL startTimestampInSec waitTimeoutInMs
        env.receive = (r, ll)) :
    ReceiveResult s onReceive onError startTimestampInSec waitTimeoutInMs env
      (r, withLowLevel s ll)
  | threadless (ll : ReceiverState σ) (hstate : s.receiver.state = .inactive)
      (hll : lowLevelReceive s.receiver.eventHubReceiverLL startTimestampInSec waitTimeoutInMs
        env.receive = (.ok, ll)) (hworker : s.worker = none) (hcreates : env.creates = false)
      (hreceive : onReceive.isSome = true) (herror : onError.isSome = true)
      (hlocks : env.locks = true) :
    ReceiveResult s onReceive onError startTimestampInSec waitTimeoutInMs env
      (.error, { s with
        receiver := { s.receiver with eventHubReceiverLL := ll, threadState := .threadEnd } })
  | started (receiveCb errorCb : UserCallback) (ll : ReceiverState σ) (threadState : ThreadState)
      (worker : WorkerControl) (hstate : s.receiver.state = .inactive)
      (hreceive : onReceive = some receiveCb) (herror : onError = some errorCb)
      (hll : lowLevelReceive s.receiver.eventHubReceiverLL startTimestampInSec waitTimeoutInMs
        env.receive = (.ok, ll))
      (hworker : s.worker = some worker ∧ threadState = s.receiver.threadState ∨
        s.worker = none ∧ worker = .loopHead ∧ threadState = .threadRun) :
    ReceiveResult s onReceive onError startTimestampInSec waitTimeoutInMs env
      (.ok, saveCallbacks
        { s with
          receiver := { s.receiver with eventHubReceiverLL := ll, threadState := threadState }
          worker := some worker } receiveCb errorCb)

theorem executeCommon_cases (s : ThreadedReceiver σ) (onReceive onError : Option UserCallback)
    (startTimestampInSec : UInt64) (waitTimeoutInMs : UInt32) (env : ThreadedReceiveEnv) :
    ReceiveResult s onReceive onError startTimestampInSec waitTimeoutInMs env
      (executeCommonReceiveFromStartTimestampAsync s onReceive onError startTimestampInSec
        waitTimeoutInMs env) := by
  unfold executeCommonReceiveFromStartTimestampAsync
  cases onReceive with
  | none => exact .refused _ nofun
  | some receiveCb =>
    cases onError with
    | none => exact .refused _ nofun
    | some errorCb =>
      dsimp only
      by_cases hlocks : (!env.locks) = true
      · rw [if_pos hlocks]
        exact .refused _ nofun
      rw [if_neg hlocks]
      by_cases hstate : s.receiver.state = .inactive
      · rw [if_neg (by simp [hstate])]
        cases hll : lowLevelReceive s.receiver.eventHubReceiverLL startTimestampInSec
            waitTimeoutInMs env.receive with
        | mk r ll =>
          by_cases hr : r = .ok
          · subst hr
            rw [if_neg (by simp)]
            by_cases hnone : s.worker.isNone = true
            · rw [if_pos hnone]
              have hworker : s.worker = none := Option.isNone_iff_eq_none.mp hnone
              cases hcreates : env.creates with
              | false =>
                exact .threadless ll hstate hll hworker hcreates rfl rfl (by simpa using hlocks)
              | true =>
                exact .started receiveCb errorCb ll .threadRun .loopHead hstate rfl rfl hll
                  (Or.inr ⟨hworker, rfl, rfl⟩)
            · rw [if_neg hnone]
              obtain ⟨worker, hworker⟩ := Option.ne_none_iff_exists'.mp fun h ↦
                hnone (Option.isNone_iff_eq_none.mpr h)
              have h := ReceiveResult.started receiveCb errorCb ll s.receiver.threadState worker
                hstate (rfl : some receiveCb = _) (rfl : some errorCb = _) hll
                  (Or.inl ⟨hworker, rfl⟩)
              rw [← hworker] at h
              exact h
          · rw [if_pos hr]
            exact .failed r ll hr hstate hll
      · rw [if_pos hstate]
        exact .refused _ nofun

theorem receiveEndAsync_cases (s : ThreadedReceiver σ) (onEnd : Option UserCallback)
    (locks : Bool) :
    (∃ r, r ≠ .ok ∧ receiveEndAsync s onEnd locks = (r, s)) ∨
    ∃ ll, s.receiver.state = .active ∧ locks = true ∧
      EventHubReceiverLL.receiveEndAsync s.receiver.eventHubReceiverLL
        (if onEnd.isSome then some asyncEnd else none) = (.ok, ll) ∧
      receiveEndAsync s onEnd locks = (.ok, { s with
        receiver := { s.receiver with
          eventHubReceiverLL := ll
          state := .inactive
          callbacks := ⟨none, none, onEnd⟩ }
        log := s.log ++ [.ending onEnd] }) := by
  unfold receiveEndAsync
  cases locks with
  | false => exact Or.inl ⟨.error, nofun, rfl⟩
  | true =>
    by_cases hstate : s.receiver.state = .active
    · rcases EventHubReceiverLL.receiveEndAsync_cases s.receiver.eventHubReceiverLL
        (if onEnd.isSome then some asyncEnd else none) with ⟨-, h⟩ | ⟨-, h⟩
      · refine Or.inl ⟨.notAllowed, nofun, ?_⟩
        rw [if_neg (by simp), if_neg (by simp [hstate]), h]
        rfl
      · refine Or.inr ⟨_, hstate, rfl, h, ?_⟩
        rw [if_neg (by simp), if_neg (by simp [hstate]), h]
        rfl
    · exact Or.inl ⟨.notAllowed, nofun, by simp [hstate]⟩

/-! ### The worker -/

/-- What a turn of `AsyncDispatchCallbackListProcess` leaves. -/
inductive ProcessResult (s : ThreadedReceiver σ) :
    Option AsyncCallbacks → ThreadedReceiver σ → Prop
  | done (callbacks : Option AsyncCallbacks) (hlist : s.receiver.receiveCallbackList = []) :
    ProcessResult s callbacks { s with worker := some .sleep }
  | unassigned (dispatch : AsyncCallbackDispatch) (rest : List AsyncCallbackDispatch)
      (hlist : s.receiver.receiveCallbackList = dispatch :: rest) :
    ProcessResult s none { s with worker := some .undefinedBehaviour }
  | dropped (callbacks : AsyncCallbacks) (dispatch : AsyncCallbackDispatch)
      (rest : List AsyncCallbackDispatch)
      (hlist : s.receiver.receiveCallbackList = dispatch :: rest)
      (hnone : callbacks.forType dispatch.type = none) :
    ProcessResult s (some callbacks)
      { s with
        receiver := { s.receiver with receiveCallbackList := rest }
        worker := some (.processing (some callbacks)) }
  | invoked (callbacks : AsyncCallbacks) (dispatch : AsyncCallbackDispatch)
      (rest : List AsyncCallbackDispatch) (callback : UserCallback)
      (hlist : s.receiver.receiveCallbackList = dispatch :: rest)
      (hcallback : callbacks.forType dispatch.type = some callback) :
    ProcessResult s (some callbacks)
      { s with
        receiver := { s.receiver with receiveCallbackList := rest }
        worker := some (.userCallback callbacks dispatch)
        log := s.log ++ [.invoked callback dispatch] }

theorem process_result (s : ThreadedReceiver σ) (callbacks : Option AsyncCallbacks) :
    ProcessResult s callbacks (asyncDispatchCallbackListProcess s callbacks) := by
  unfold asyncDispatchCallbackListProcess
  cases hlist : s.receiver.receiveCallbackList with
  | nil => exact .done callbacks hlist
  | cons dispatch rest =>
    cases callbacks with
    | none => exact .unassigned dispatch rest hlist
    | some callbacks =>
      dsimp only
      cases hcallback : callbacks.forType dispatch.type with
      | none => exact .dropped callbacks dispatch rest hlist hcallback
      | some callback => exact .invoked callbacks dispatch rest callback hlist hcallback

/-! ### Steps -/

/-- The low-level receiver has taken a step, and what it has called back is queued. -/
structure LowLevelStep (s : ThreadedReceiver σ) (i : ReceiverInput ι) (alloc : DispatchEnv)
    (t : ThreadedReceiver σ) : Prop where
  step : EventHubReceiverLL.step auth s.receiver.eventHubReceiverLL i =
    some t.receiver.eventHubReceiverLL
  eq : t = { withLowLevel s t.receiver.eventHubReceiverLL with
    receiver := { s.receiver with
      eventHubReceiverLL := t.receiver.eventHubReceiverLL
      receiveCallbackList := t.receiver.receiveCallbackList }
    log := t.log }
  list : t.receiver.receiveCallbackList = s.receiver.receiveCallbackList ++
    (t.receiver.eventHubReceiverLL.log.drop s.receiver.eventHubReceiverLL.log.length).filterMap
      (deferred alloc)
  log : t.log = s.log ++
    ((t.receiver.eventHubReceiverLL.log.drop s.receiver.eventHubReceiverLL.log.length).filterMap
      (deferred alloc)).map .produced

theorem lowLevel_step {i : ReceiverInput ι} {alloc : DispatchEnv}
    (h : lowLevel auth s i alloc = some t) : LowLevelStep auth s i alloc t := by
  obtain ⟨ll, hll, rfl⟩ := Option.map_eq_some_iff.mp h
  exact ⟨hll, rfl, rfl, rfl⟩

/-- What a step can be. -/
inductive Move (s : ThreadedReceiver σ) : ThreadedInput ι → ThreadedReceiver σ → Prop
  | receive {i : ThreadedInput ι} (onReceive onError : Option UserCallback)
      (startTimestampInSec : UInt64) (waitTimeoutInMs : UInt32) (env : ThreadedReceiveEnv)
      (hi : i.receiveCall = some (onReceive, onError, startTimestampInSec, waitTimeoutInMs, env))
      (hmay : mayLock s = true) :
    Move s i (executeCommonReceiveFromStartTimestampAsync s onReceive onError startTimestampInSec
      waitTimeoutInMs env).2
  | receiveEnd (onEnd : Option UserCallback) (locks : Bool) (hmay : mayLock s = true) :
    Move s (.receiveEndAsync onEnd locks) (receiveEndAsync s onEnd locks).2
  | refresh (token : Option String) (env : RefreshEnv) (locks : Bool) (hmay : mayLock s = true) :
    Move s (.refreshSASTokenAsync token env locks) (refreshSASTokenAsync s token env locks).2
  | tracing (traceEnabled locks : Bool) (hmay : mayLock s = true) :
    Move s (.setConnectionTracing traceEnabled locks) (setConnectionTracing s traceEnabled locks).2
  | destroy (hopen : s.closing = .open) :
    Move s .destroy { s with
      receiver := { s.receiver with threadState := .threadEnd }
      closing := .joining }
  | exit (locks : Bool) (env : ReceiverEnv ι) (alloc : DispatchEnv)
      (hhead : s.worker = some .loopHead) (hend : s.receiver.threadState = .threadEnd) :
    Move s (.iterate locks env alloc) { s with worker := some .exited }
  | lockFailed (env : ReceiverEnv ι) (alloc : DispatchEnv) (hhead : s.worker = some .loopHead) :
    Move s (.iterate false env alloc)
      { s with worker := some (.processing none), log := s.log ++ [.iteration false] }
  | doWork (env : ReceiverEnv ι) (alloc : DispatchEnv) (hhead : s.worker = some .loopHead)
      {t : ThreadedReceiver σ}
      (h : LowLevelStep auth
        { s with worker := some .doWork, log := s.log ++ [.iteration true] }
        (.doWork env) alloc t) :
    Move s (.iterate true env alloc) t
  | lowLevel (i : ReceiverInput ι) (alloc : DispatchEnv)
      (hin : s.worker = some .doWork ∨ s.closing = .destroying) (hi : i.internal = true)
      {t : ThreadedReceiver σ} (h : LowLevelStep auth s i alloc t) : Move s (.lowLevel i alloc) t
  | unlock (hworker : s.worker = some .doWork)
      (hidle : s.receiver.eventHubReceiverLL.control = .idle) : Move s .unlock (unlock s)
  | process {callbacks : Option AsyncCallbacks}
      (hworker : s.worker = some (.processing callbacks)) :
    Move s .process (asyncDispatchCallbackListProcess s callbacks)
  | callbackReturn {callbacks : AsyncCallbacks} {dispatch : AsyncCallbackDispatch}
      (hworker : s.worker = some (.userCallback callbacks dispatch)) :
    Move s .callbackReturn (callbackReturn s callbacks dispatch)
  | wake (hworker : s.worker = some .sleep) : Move s .wake { s with worker := some .loopHead }
  | join (alloc : DispatchEnv) (hclosing : s.closing = .joining)
      (hworker : s.worker = none ∨ s.worker = some .exited) {t : ThreadedReceiver σ}
      (h : LowLevelStep auth { s with closing := .destroying } .destroy alloc t) :
    Move s (.join alloc) t
  | deInit (hclosing : s.closing = .destroying) :
    Move s .deInit { s with
      receiver := { s.receiver with receiveCallbackList := [] }
      closing := .destroyed
      log := s.log ++ (s.receiver.receiveCallbackList.filterMap (·.dataHandle)).map
        .eventDataDestroyed }

theorem step_move {i : ThreadedInput ι} (h : step auth s i = some t) : Move auth s i t := by
  cases i with
  | receiveFromStartTimestampAsync onReceive onError timestamp env =>
    obtain ⟨hmay, ⟨⟩⟩ := Option.ite_none_right_eq_some.mp h
    exact .receive onReceive onError timestamp 0 env rfl hmay
  | receiveFromStartTimestampWithTimeoutAsync onReceive onError timestamp timeout env =>
    obtain ⟨hmay, ⟨⟩⟩ := Option.ite_none_right_eq_some.mp h
    exact .receive onReceive onError timestamp timeout env rfl hmay
  | receiveEndAsync onEnd locks =>
    obtain ⟨hmay, ⟨⟩⟩ := Option.ite_none_right_eq_some.mp h
    exact .receiveEnd onEnd locks hmay
  | refreshSASTokenAsync token env locks =>
    obtain ⟨hmay, ⟨⟩⟩ := Option.ite_none_right_eq_some.mp h
    exact .refresh token env locks hmay
  | setConnectionTracing on locks =>
    obtain ⟨hmay, ⟨⟩⟩ := Option.ite_none_right_eq_some.mp h
    exact .tracing on locks hmay
  | destroy =>
    obtain ⟨hopen, ⟨⟩⟩ := Option.ite_none_right_eq_some.mp h
    exact .destroy hopen
  | iterate locks env alloc =>
    obtain ⟨hhead, h⟩ := Option.ite_none_right_eq_some.mp h
    unfold iterate at h
    by_cases hend : s.receiver.threadState = .threadEnd
    · rw [if_pos hend] at h
      obtain rfl := Option.some.inj h
      exact .exit locks env alloc hhead hend
    · rw [if_neg hend] at h
      cases locks with
      | false =>
        obtain rfl := Option.some.inj h
        exact .lockFailed env alloc hhead
      | true => exact .doWork env alloc hhead (lowLevel_step auth h)
  | lowLevel i alloc =>
    obtain ⟨hin, h⟩ := Option.ite_none_right_eq_some.mp h
    obtain ⟨hin, hi⟩ := Bool.and_eq_true_iff.mp hin
    exact .lowLevel i alloc (by simpa using hin) hi (lowLevel_step auth h)
  | unlock =>
    obtain ⟨hin, ⟨⟩⟩ := Option.ite_none_right_eq_some.mp h
    obtain ⟨hworker, hidle⟩ : s.worker = some .doWork ∧
      s.receiver.eventHubReceiverLL.control = .idle := by simpa using hin
    exact .unlock hworker hidle
  | process =>
    simp only [step] at h
    split at h
    · next callbacks hworker =>
      obtain rfl := Option.some.inj h
      exact .process hworker
    · cases h
  | callbackReturn =>
    simp only [step] at h
    split at h
    · next callbacks dispatch hworker =>
      obtain rfl := Option.some.inj h
      exact .callbackReturn hworker
    · cases h
  | wake =>
    obtain ⟨hworker, ⟨⟩⟩ := Option.ite_none_right_eq_some.mp h
    exact .wake hworker
  | join alloc =>
    obtain ⟨hin, h⟩ := Option.ite_none_right_eq_some.mp h
    obtain ⟨hclosing, hworker⟩ : s.closing = .joining ∧
      (s.worker = none ∨ s.worker = some .exited) := by simpa using hin
    exact .join alloc hclosing hworker (lowLevel_step auth h)
  | deInit =>
    obtain ⟨hin, ⟨⟩⟩ := Option.ite_none_right_eq_some.mp h
    obtain ⟨hclosing, -⟩ : s.closing = .destroying ∧
      s.receiver.eventHubReceiverLL.control = .destroyed := by simpa using hin
    exact .deInit hclosing

/-! ### The low-level receiver -/

/-- The low-level receiver is between two calls unless the worker or `EventHubReceiver_Destroy` is
in one, and it is destroyed after the worker has gone. -/
structure LockInv (s : ThreadedReceiver σ) : Prop where
  idle : s.closing.before = true → s.worker ≠ some .doWork →
    s.receiver.eventHubReceiverLL.control = .idle
  destroying : s.closing.before = true → s.receiver.eventHubReceiverLL.destroying = false
  gone : s.closing.before = false → s.worker = none ∨ s.worker = some .exited

theorem before_of_mayLock (h : mayLock s = true) :
    s.closing.before = true ∧ s.worker ≠ some .doWork := by
  obtain ⟨hopen, hworker⟩ : s.closing = .open ∧ s.worker ≠ some .doWork := by
    simpa [mayLock] using h
  exact ⟨by rw [hopen]; rfl, hworker⟩

theorem LockInv.mayCall (hs : LockInv s) (h : mayLock s = true) :
    EventHubReceiverLL.mayCall s.receiver.eventHubReceiverLL = true := by
  obtain ⟨hbefore, hworker⟩ := before_of_mayLock h
  simp [EventHubReceiverLL.mayCall, hs.idle hbefore hworker, hs.destroying hbefore]

/-- The worker is there only before `EventHubReceiver_LL_Destroy`. -/
theorem LockInv.before (hs : LockInv s) {w : WorkerControl} (hw : s.worker = some w)
    (hne : w ≠ .exited) : s.closing.before = true := by
  by_contra hafter
  rcases hs.gone (Bool.not_eq_true _ ▸ hafter) with h | h
  · simp [hw] at h
  · exact hne (Option.some.inj (hw.symm.trans h))

/-- What a step does to the low-level receiver is a step of its own machine, or nothing. -/
theorem step_lowLevel {i : ThreadedInput ι} (hs : LockInv s) (hstep : step auth s i = some t) :
    t.receiver.eventHubReceiverLL = s.receiver.eventHubReceiverLL ∨
      ∃ j, EventHubReceiverLL.step auth s.receiver.eventHubReceiverLL j =
        some t.receiver.eventHubReceiverLL := by
  have hreceive : ∀ {ts : UInt64} {timeout : UInt32} {env : ReceiveEnv}
      {r : EventHubReceiverResult} {ll : ReceiverState σ}, mayLock s = true →
      lowLevelReceive s.receiver.eventHubReceiverLL ts timeout env = (r, ll) →
      ∃ j, EventHubReceiverLL.step auth s.receiver.eventHubReceiverLL j = some ll := by
    intro ts timeout env r ll hmay hll
    refine ⟨.receiveFromStartTimestampWithTimeoutAsync (some asyncReceive) (some asyncReceiveError)
      ts timeout env, ?_⟩
    rw [lowLevelReceive_eq] at hll
    exact (if_pos (hs.mayCall hmay)).trans (congrArg (some ·.2) hll)
  cases step_move auth hstep with
  | receive onReceive onError ts timeout env _ hmay =>
    have hcases := executeCommon_cases s onReceive onError ts timeout env
    generalize executeCommonReceiveFromStartTimestampAsync s onReceive onError ts timeout env = x
      at hcases
    cases hcases with
    | refused => exact Or.inl rfl
    | failed r ll hr hstate hll => exact Or.inr (hreceive hmay hll)
    | threadless ll hstate hll => exact Or.inr (hreceive hmay hll)
    | started receiveCb errorCb ll threadState worker hstate _ _ hll =>
      exact Or.inr (hreceive hmay hll)
  | receiveEnd onEnd locks hmay =>
    rcases receiveEndAsync_cases s onEnd locks with ⟨r, -, h⟩ | ⟨ll, -, -, hll, h⟩ <;> rw [h]
    · exact Or.inl rfl
    · exact Or.inr ⟨.receiveEndAsync _, (if_pos (hs.mayCall hmay)).trans (congrArg (some ·.2) hll)⟩
  | refresh token env locks hmay =>
    unfold refreshSASTokenAsync
    split_ifs
    · exact Or.inl rfl
    · exact Or.inl rfl
    · exact Or.inr ⟨.refreshSASTokenAsync token env, if_pos (hs.mayCall hmay)⟩
  | tracing on locks hmay =>
    unfold setConnectionTracing
    split_ifs
    · exact Or.inl rfl
    · exact Or.inr ⟨.setConnectionTracing on, if_pos (hs.mayCall hmay)⟩
  | doWork env alloc hhead h => exact Or.inr ⟨_, h.step⟩
  | lowLevel i alloc hin hi h => exact Or.inr ⟨i, h.step⟩
  | @process callbacks hworker =>
    have hresult := process_result s callbacks
    generalize asyncDispatchCallbackListProcess s callbacks = u at hresult ⊢
    cases hresult <;> exact Or.inl rfl
  | join alloc hclosing hworker h => exact Or.inr ⟨_, h.step⟩
  | _ => exact Or.inl rfl

theorem receiveAsyncCommon_control {ll ll' : ReceiverState σ}
    {onReceive onError : Option UserCallback} {ts : UInt64} {timeout : UInt32} {env : ReceiveEnv}
    {r : EventHubReceiverResult}
    (h : EventHubReceiverLL.receiveAsyncCommon ll onReceive onError ts timeout env = (r, ll')) :
    ll'.control = ll.control ∧ ll'.destroying = ll.destroying := by
  rcases EventHubReceiverLL.receiveAsyncCommon_cases ll onReceive onError ts timeout env with
    ⟨r, -, h'⟩ | ⟨r, tick, filter, -, -, -, -, h'⟩ | ⟨receiveCb, errorCb, tick, -, -, -, h'⟩
  all_goals
    obtain rfl := congrArg Prod.snd (h'.symm.trans h)
    exact ⟨rfl, rfl⟩

/-- A critical section of a user leaves the low-level receiver between two calls. -/
theorem LockInv.locked (hs : LockInv s) (hmay : mayLock s = true)
    (hcontrol : t.receiver.eventHubReceiverLL.control = s.receiver.eventHubReceiverLL.control)
    (hdestroying : t.receiver.eventHubReceiverLL.destroying =
      s.receiver.eventHubReceiverLL.destroying) (hclosing : t.closing = s.closing) :
    LockInv t := by
  obtain ⟨hbefore, hworker⟩ := before_of_mayLock hmay
  refine ⟨fun _ _ ↦ hcontrol.trans (hs.idle hbefore hworker),
    fun _ ↦ hdestroying.trans (hs.destroying hbefore), fun hafter ↦ ?_⟩
  rw [hclosing, hbefore] at hafter
  cases hafter

/-- A step of the worker that leaves the low-level receiver alone. -/
theorem LockInv.worked {w : WorkerControl} (hs : LockInv s) (hw : s.worker = some w)
    (hne : w ≠ .exited)
    (hidle : w = .doWork → s.receiver.eventHubReceiverLL.control = .idle)
    (hll : t.receiver.eventHubReceiverLL = s.receiver.eventHubReceiverLL)
    (hclosing : t.closing = s.closing) : LockInv t := by
  have hbefore := hs.before hw hne
  refine ⟨fun _ _ ↦ ?_, fun _ ↦ hll ▸ hs.destroying hbefore, fun hafter ↦ ?_⟩
  · rw [hll]
    by_cases hwork : w = .doWork
    · exact hidle hwork
    · exact hs.idle hbefore fun h ↦ hwork (Option.some.inj (hw.symm.trans h))
  · rw [hclosing, hbefore] at hafter
    cases hafter

theorem step_lockInv {i : ThreadedInput ι} (hs : LockInv s) (hstep : step auth s i = some t) :
    LockInv t := by
  cases step_move auth hstep with
  | receive onReceive onError ts timeout env _ hmay =>
    have hcases := executeCommon_cases s onReceive onError ts timeout env
    generalize executeCommonReceiveFromStartTimestampAsync s onReceive onError ts timeout env = x
      at hcases
    cases hcases with
    | refused => exact hs
    | failed r ll hr hstate hll =>
      obtain ⟨hcontrol, hdestroying⟩ :=
        receiveAsyncCommon_control (lowLevelReceive_eq _ _ _ _ ▸ hll)
      exact hs.locked hmay hcontrol hdestroying rfl
    | threadless ll hstate hll =>
      obtain ⟨hcontrol, hdestroying⟩ :=
        receiveAsyncCommon_control (lowLevelReceive_eq _ _ _ _ ▸ hll)
      exact hs.locked hmay hcontrol hdestroying rfl
    | started receiveCb errorCb ll threadState worker hstate _ _ hll =>
      obtain ⟨hcontrol, hdestroying⟩ :=
        receiveAsyncCommon_control (lowLevelReceive_eq _ _ _ _ ▸ hll)
      exact hs.locked hmay hcontrol hdestroying rfl
  | receiveEnd onEnd locks hmay =>
    rcases receiveEndAsync_cases s onEnd locks with ⟨r, -, h⟩ | ⟨ll, -, -, hll, h⟩ <;> rw [h]
    · exact hs
    · rcases EventHubReceiverLL.receiveEndAsync_cases s.receiver.eventHubReceiverLL
        (if onEnd.isSome then some asyncEnd else none) with ⟨-, h'⟩ | ⟨-, h'⟩
      all_goals
        obtain rfl := congrArg Prod.snd (h'.symm.trans hll)
        exact hs.locked hmay rfl rfl rfl
  | refresh token env locks hmay =>
    unfold refreshSASTokenAsync
    split_ifs
    · exact hs
    · exact hs
    · rcases EventHubReceiverLL.refreshSASTokenAsync_cases s.receiver.eventHubReceiverLL token env
        with ⟨r, -, h⟩ | ⟨text, config, cfg, -, -, -, -, -, -, h⟩ <;> rw [h] <;>
        exact hs.locked hmay rfl rfl rfl
  | tracing on locks hmay =>
    unfold setConnectionTracing
    split_ifs
    · exact hs
    · rcases EventHubReceiverLL.setConnectionTracing_cases s.receiver.eventHubReceiverLL on with
        ⟨-, h⟩ | ⟨-, h⟩ <;> rw [h] <;> exact hs.locked hmay rfl rfl rfl
  | destroy hopen =>
    have hbefore : s.closing.before = true := by rw [hopen]; rfl
    exact ⟨fun _ hworker ↦ hs.idle hbefore hworker, fun _ ↦ hs.destroying hbefore, (by rintro ⟨⟩)⟩
  | exit locks env alloc hhead hend => exact hs.worked hhead (by rintro ⟨⟩) (by rintro ⟨⟩) rfl rfl
  | lockFailed env alloc hhead => exact hs.worked hhead (by rintro ⟨⟩) (by rintro ⟨⟩) rfl rfl
  | doWork env alloc hhead h =>
    have hbefore := hs.before hhead (by rintro ⟨⟩)
    rw [h.eq]
    refine ⟨fun _ hne ↦ absurd rfl hne, fun _ ↦ ?_, fun hafter ↦ ?_⟩
    · exact (EventHubReceiverLL.step_destroying auth h.step (by rintro ⟨⟩)).trans
        (hs.destroying hbefore)
    · exact absurd (hbefore.symm.trans hafter) (by rintro ⟨⟩)
  | lowLevel i alloc hin hi h =>
    have hdestroying := EventHubReceiverLL.step_destroying auth h.step
      (by rintro rfl; simp [ReceiverInput.internal] at hi)
    rw [h.eq]
    refine ⟨fun hbefore hne ↦ ?_, fun hbefore ↦ hdestroying.trans (hs.destroying hbefore), hs.gone⟩
    rcases hin with hworker | hclosing
    · exact absurd hworker hne
    · have hafter : s.closing.before = true := hbefore
      rw [hclosing] at hafter
      cases hafter
  | unlock hworker hidle => exact hs.worked hworker (by rintro ⟨⟩) (fun _ ↦ hidle) rfl rfl
  | @process callbacks hworker =>
    have hresult := process_result s callbacks
    generalize asyncDispatchCallbackListProcess s callbacks = u at hresult ⊢
    cases hresult <;> exact hs.worked hworker (by rintro ⟨⟩) (by rintro ⟨⟩) rfl rfl
  | callbackReturn hworker => exact hs.worked hworker (by rintro ⟨⟩) (by rintro ⟨⟩) rfl rfl
  | wake hworker => exact hs.worked hworker (by rintro ⟨⟩) (by rintro ⟨⟩) rfl rfl
  | join alloc hclosing hworker h =>
    rw [h.eq]
    exact ⟨(by rintro ⟨⟩), (by rintro ⟨⟩), fun _ ↦ hworker⟩
  | deInit hclosing =>
    exact ⟨(by rintro ⟨⟩), (by rintro ⟨⟩), fun _ ↦ hs.gone (by rw [hclosing]; rfl)⟩

theorem created_lockInv (c : EventHubReceiverLL σ) : LockInv (created c) :=
  ⟨fun _ _ ↦ rfl, fun _ ↦ rfl, fun h ↦ absurd h (by simp [created, Closing.before])⟩

/-- The low-level receiver of a threaded one is where a run of its own takes it. -/
theorem run_lowLevel {c : EventHubReceiverLL σ} {is : List (ThreadedInput ι)}
    (hrun : (threadedMachine auth).run (created c) is = some t) :
    LockInv t ∧ ∃ js, (EventHubReceiverLL.receiverMachine auth).run { client := c } js =
      some t.receiver.eventHubReceiverLL := by
  have hstep : ∀ s i t, (LockInv s ∧ ∃ js,
        (EventHubReceiverLL.receiverMachine auth).run { client := c } js =
          some s.receiver.eventHubReceiverLL) →
      (threadedMachine auth).step s i = some t →
      LockInv t ∧ ∃ js, (EventHubReceiverLL.receiverMachine auth).run { client := c } js =
        some t.receiver.eventHubReceiverLL := by
    rintro s i t ⟨hs, js, hjs⟩ hstep
    refine ⟨step_lockInv auth hs hstep, ?_⟩
    rcases step_lowLevel auth hs hstep with heq | ⟨j, hj⟩
    · exact ⟨js, heq ▸ hjs⟩
    · exact ⟨js ++ [j], Machine.run_concat_of_step _ hjs hj⟩
  exact Machine.run_invariant hstep ⟨created_lockInv c, [], rfl⟩ hrun

end EventHubReceiver

end EventHubs
