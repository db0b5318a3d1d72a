import EventHubs.Threaded.Agreement

/-!
# Failing calls of the threaded receiver

A receive or end call of the threaded receiver works on two objects, and a receive call commits the
low-level one before it creates the worker. When `ThreadAPI_Create` fails after that, the low-level
receiver keeps the reception. Every other failing call leaves both objects as they were: a failed
filter writes NULL over a filter that an inactive receiver does not have.

## Main definitions

* `EventHubReceiver.result` — what a call returns.
* `EventHubReceiver.Untouched` — what a failing call should leave.
* `EventHubReceiver.FailsAtomically`.

## Main results

* `EventHubReceiver.failsAtomically_iff` — which failing calls change nothing.
* `EventHubReceiver.half_started` — a receive call whose worker cannot be created.
-/

namespace EventHubs

namespace EventHubReceiver

variable {σ ι : Type} (auth : AuthModule σ ι) {s t : ThreadedReceiver σ}

/-- What a receive or end call returns. -/
def result (s : ThreadedReceiver σ) : ThreadedInput ι → Option EventHubReceiverResult
  | .receiveFromStartTimestampAsync onReceive onError timestamp env =>
    some (receiveFromStartTimestampAsync s onReceive onError timestamp env).1
  | .receiveFromStartTimestampWithTimeoutAsync onReceive onError timestamp timeout env =>
    some (receiveFromStartTimestampWithTimeoutAsync s onReceive onError timestamp timeout env).1
  | .receiveEndAsync onEnd locks => some (receiveEndAsync s onEnd locks).1
  | _ => none

theorem result_of_receiveCall {i : ThreadedInput ι} {onReceive onError : Option UserCallback}
    {timestamp : UInt64} {timeout : UInt32} {env : ThreadedReceiveEnv}
    (hi : i.receiveCall = some (onReceive, onError, timestamp, timeout, env)) :
    result s i = some (executeCommonReceiveFromStartTimestampAsync s onReceive onError timestamp
      timeout env).1 := by
  cases i with
  | receiveFromStartTimestampAsync =>
    obtain ⟨rfl, rfl, rfl, rfl, rfl⟩ : _ ∧ _ ∧ _ ∧ _ ∧ _ := by
      simpa [ThreadedInput.receiveCall] using hi
    rfl
  | receiveFromStartTimestampWithTimeoutAsync =>
    obtain ⟨rfl, rfl, rfl, rfl, rfl⟩ : _ ∧ _ ∧ _ ∧ _ ∧ _ := by
      simpa [ThreadedInput.receiveCall] using hi
    rfl
  | _ => cases hi

/-- Both states, the callbacks and contexts of both layers and the filter are as they were, and
`lockInfo` is free. -/
structure Untouched (s t : ThreadedReceiver σ) : Prop where
  state : t.receiver.state = s.receiver.state
  callbacks : t.receiver.callbacks = s.receiver.callbacks
  lowLevelState :
    t.receiver.eventHubReceiverLL.client.state = s.receiver.eventHubReceiverLL.client.state
  lowLevelCallbacks :
    t.receiver.eventHubReceiverLL.client.callback = s.receiver.eventHubReceiverLL.client.callback
  receiverQueryFilter :
    t.receiver.eventHubReceiverLL.client.receiverQueryFilter =
      s.receiver.eventHubReceiverLL.client.receiverQueryFilter
  free : mayLock t = true

/-- A call that does not return `EVENTHUBRECEIVER_OK` leaves everything as it was, and a receive
call then returns what it would have returned before, whatever the tick. -/
def FailsAtomically (s t : ThreadedReceiver σ) (i : ThreadedInput ι) : Prop :=
  (∃ r ∈ result s i, r ≠ .ok) →
    Untouched s t ∧
    ∀ onReceive onError timestamp timeout env, i.receiveCall =
        some (onReceive, onError, timestamp, timeout, env) →
      ∀ tick : UInt64,
        (executeCommonReceiveFromStartTimestampAsync t onReceive onError timestamp timeout
          { receive := { tick := some tick } }).1 =
        (executeCommonReceiveFromStartTimestampAsync s onReceive onError timestamp timeout
          { receive := { tick := some tick } }).1

/-- What a receive call returns when no external call fails depends on the two states only. -/
theorem executeCommon_result (s : ThreadedReceiver σ) (onReceive onError : Option UserCallback)
    (timestamp : UInt64) (timeout : UInt32) (tick : UInt64) :
    (executeCommonReceiveFromStartTimestampAsync s onReceive onError timestamp timeout
      { receive := { tick := some tick } }).1 =
      if onReceive = none ∨ onError = none then .invalidArg
      else if s.receiver.state = .inactive ∧
        s.receiver.eventHubReceiverLL.client.state = .inactive then .ok
      else .notAllowed := by
  cases onReceive with
  | none => rfl
  | some onReceive =>
    cases onError with
    | none => rfl
    | some onError =>
      rw [if_neg (by simp)]
      by_cases hupper : s.receiver.state = .inactive
      · by_cases hlower : s.receiver.eventHubReceiverLL.client.state = .inactive
        · have hll : (lowLevelReceive s.receiver.eventHubReceiverLL timestamp timeout
              { tick := some tick }).1 = .ok := by
            rw [lowLevelReceive_eq]
            simp [EventHubReceiverLL.receiveAsyncCommon, hlower]
          rw [if_pos ⟨hupper, hlower⟩]
          simp only [executeCommonReceiveFromStartTimestampAsync, hupper, hll, ne_eq,
            not_true_eq_false, Bool.not_true, Bool.false_eq_true, if_false]
          split <;> rfl
        · have hll : (lowLevelReceive s.receiver.eventHubReceiverLL timestamp timeout
              { tick := some tick }).1 = .notAllowed := by
            rw [lowLevelReceive_eq]
            simp [EventHubReceiverLL.receiveAsyncCommon, hlower]
          rw [if_neg (fun h => hlower h.2)]
          simp [executeCommonReceiveFromStartTimestampAsync, hupper, hll]
      · rw [if_neg (fun h => hupper h.1)]
        simp [executeCommonReceiveFromStartTimestampAsync, hupper]

theorem Untouched.failsAtomically {i : ThreadedInput ι} (h : Untouched s t) :
    FailsAtomically s t i := by
  refine fun _ => ⟨h, fun onReceive onError timestamp timeout env _ tick => ?_⟩
  rw [executeCommon_result, executeCommon_result, h.state, h.lowLevelState]

theorem Untouched.refl (hmay : mayLock s = true) : Untouched s s := ⟨rfl, rfl, rfl, rfl, rfl, hmay⟩

/-- A low-level receive call that fails changes at most the time stamp of a receiver that holds
nothing of an earlier reception. -/
theorem untouched_of_lowLevel {ll : ReceiverState σ} {timestamp : UInt64} {timeout : UInt32}
    {env : ReceiveEnv} {r : EventHubReceiverResult} (hmay : mayLock s = true)
    (hcleared : s.receiver.eventHubReceiverLL.client.state = .inactive →
      s.receiver.eventHubReceiverLL.client.receiverQueryFilter = none)
    (hll : lowLevelReceive s.receiver.eventHubReceiverLL timestamp timeout env = (r, ll))
    (hr : r ≠ .ok) : Untouched s (withLowLevel s ll) := by
  rw [lowLevelReceive_eq] at hll
  rcases EventHubReceiverLL.receiveAsyncCommon_cases s.receiver.eventHubReceiverLL
      (some asyncReceive) (some asyncReceiveError) timestamp timeout env with
    ⟨r', -, h⟩ | ⟨r', tick, filter, -, -, hinactive, hfilter, h⟩ | ⟨_, _, tick, -, -, -, h⟩
  · obtain ⟨-, rfl⟩ := Prod.mk.inj (h.symm.trans hll)
    exact .refl hmay
  · obtain ⟨-, rfl⟩ := Prod.mk.inj (h.symm.trans hll)
    have hsame : filter = s.receiver.eventHubReceiverLL.client.receiverQueryFilter :=
      hfilter.elim id fun hnone => hnone.trans (hcleared hinactive).symm
    exact ⟨rfl, rfl, rfl, rfl, hsame, hmay⟩
  · obtain ⟨rfl, -⟩ := Prod.mk.inj (h.symm.trans hll)
    exact absurd rfl hr

/-- A receive call that lacks its worker fails and leaves the low-level reception active. -/
theorem executeCommon_lacksWorker {i : ThreadedInput ι} {onReceive onError : Option UserCallback}
    {timestamp : UInt64} {timeout : UInt32} {env : ThreadedReceiveEnv}
    (hi : i.receiveCall = some (onReceive, onError, timestamp, timeout, env))
    (h : lacksWorker s i = true) :
    s.receiver.eventHubReceiverLL.client.state = .inactive ∧
    (executeCommonReceiveFromStartTimestampAsync s onReceive onError timestamp timeout env).1 =
      .error ∧
    (executeCommonReceiveFromStartTimestampAsync s onReceive onError timestamp timeout
      env).2.receiver.eventHubReceiverLL.client.state = .active := by
  cases onReceive with
  | none => simp [lacksWorker, hi] at h
  | some onReceive =>
    cases onError with
    | none => simp [lacksWorker, hi] at h
    | some onError =>
      simp only [lacksWorker, hi, Bool.and_eq_true, decide_eq_true_eq, Bool.or_eq_true,
        Bool.not_eq_true', Option.isNone_iff_eq_none] at h
      obtain ⟨⟨⟨⟨⟨⟨hlocks, hupper⟩, hlower⟩, htick⟩, hconstructs⟩, hworker⟩, hcreates⟩ := h
      have hnotick : (timeout ≠ 0 && env.receive.tick.isNone) = false := by
        rcases htick with rfl | htick
        · rfl
        · simp [Option.isNone_eq_false_iff.mpr htick]
      have hll : (lowLevelReceive s.receiver.eventHubReceiverLL timestamp timeout
            env.receive).1 = .ok ∧
          (lowLevelReceive s.receiver.eventHubReceiverLL timestamp timeout
            env.receive).2.client.state = .active := by
        rw [lowLevelReceive_eq]
        unfold EventHubReceiverLL.receiveAsyncCommon
        simp only [hlower, hnotick, hconstructs, ne_eq, not_true_eq_false, if_false,
          Bool.false_eq_true, Bool.not_true]
        exact ⟨trivial, rfl⟩
      refine ⟨hlower, ?_⟩
      simp only [executeCommonReceiveFromStartTimestampAsync, hlocks, hupper, hll.1, hworker,
        hcreates, ne_eq, not_true_eq_false, Bool.not_true, Bool.not_false, Bool.false_eq_true,
        if_false, if_true, Option.isNone_none]
      exact ⟨trivial, hll.2⟩

/-- In every reachable state, a call that fails leaves both receivers as they were exactly when it
is no receive call that succeeds at the low-level receiver and cannot create the worker. -/
theorem failsAtomically_iff {c : EventHubReceiverLL σ} (hc : EventHubReceiverLL.Created c)
    {is : List (ThreadedInput ι)} (hrun : (threadedMachine auth).run (created c) is = some s)
    {i : ThreadedInput ι} (hstep : (threadedMachine auth).step s i = some t) :
    FailsAtomically s t i ↔ lacksWorker s i = false := by
  obtain ⟨-, js, hjs⟩ := run_lowLevel auth hrun
  have hreg := EventHubReceiverLL.run_registrationInv auth hc hjs
  have hcleared : s.receiver.eventHubReceiverLL.client.state = .inactive →
      s.receiver.eventHubReceiverLL.client.receiverQueryFilter = none :=
    fun hinactive => (hreg.cleared hinactive).receiverQueryFilter
  -- an input that is no receive or end call returns nothing
  have hquiet : ∀ i : ThreadedInput ι, result s i = none → FailsAtomically s t i := by
    rintro i hnone ⟨r, hr, -⟩
    rw [hnone] at hr
    exact absurd hr (by simp)
  cases step_move auth hstep with
  | receive onReceive onError timestamp timeout env hi hmay =>
    have hresult := result_of_receiveCall (s := s) hi
    constructor
    · intro hfails
      by_contra hlacks
      obtain ⟨hlower, herror, hactive⟩ := executeCommon_lacksWorker hi (by simpa using hlacks)
      obtain ⟨hsame, -⟩ := hfails ⟨_, hresult, by simp [herror]⟩
      exact absurd (hactive.symm.trans (hsame.lowLevelState.trans hlower)) nofun
    · rintro hworker ⟨r, hr, hne⟩
      obtain rfl := Option.some.inj (hresult.symm.trans hr)
      have hcases := executeCommon_cases s onReceive onError timestamp timeout env
      generalize executeCommonReceiveFromStartTimestampAsync s onReceive onError timestamp timeout
        env = x at hcases hresult hr hne hstep ⊢
      have huntouched : Untouched s x.2 := by
        cases hcases with
        | refused r => exact .refl hmay
        | failed r ll hfailed hstate hll => exact untouched_of_lowLevel hmay hcleared hll hfailed
        | threadless ll hstate hll hnone hcreates hreceive herror hlocks =>
          have hlacks := lacksWorker_of_threadless hi hstate hll hnone hcreates hreceive herror
            hlocks
          exact absurd (hworker.symm.trans hlacks) nofun
        | started receiveCb errorCb ll threadState worker => exact absurd rfl hne
      exact huntouched.failsAtomically ⟨_, hr, hne⟩
  | receiveEnd onEnd locks hmay =>
    refine ⟨fun _ => rfl, ?_⟩
    rintro - ⟨r, hr, hne⟩
    obtain rfl := Option.some.inj hr
    rcases receiveEndAsync_cases s onEnd locks with ⟨r, -, h⟩ | ⟨ll, -, -, -, h⟩
    · have hsame : (receiveEndAsync s onEnd locks).2 = s := congrArg Prod.snd h
      rw [hsame]
      exact (Untouched.refl hmay).failsAtomically ⟨_, hr, hne⟩
    · exact absurd (congrArg Prod.fst h) hne
  | refresh | tracing | destroy | exit | lockFailed | doWork | lowLevel | unlock | process
    | callbackReturn | wake | join | deInit => exact ⟨fun _ => rfl, fun _ => hquiet _ rfl⟩

/-- The statement at a receive call whose filter cannot be made. -/
theorem failsAtomically_withoutFilter :
    ∃ t, (threadedMachine (EventHubAuthCBS.authModule fun _ => none)).step
        (created (.createdFromConnectionString "host" "hub" "name" "key" "group" "0"))
        (.receiveFromStartTimestampAsync (some ⟨1, none⟩) (some ⟨2, none⟩) 0
          { receive := { constructs := false } }) = some t ∧
      FailsAtomically (created (.createdFromConnectionString "host" "hub" "name" "key" "group" "0"))
        t (.receiveFromStartTimestampAsync (some ⟨1, none⟩) (some ⟨2, none⟩) 0
          { receive := { constructs := false } } : ThreadedInput AuthEnv) := by
  refine ⟨_, rfl, ?_⟩
  exact (@failsAtomically_iff _ _ (EventHubAuthCBS.authModule fun _ => none) _ _ _
    (.fromConnectionString "host" "hub" "name" "key" "group" "0") [] rfl _ rfl).mpr rfl

/-- After a receive call whose worker cannot be created the low-level receiver is active, and the
same call is then refused. -/
theorem half_started :
    ∃ t, (threadedMachine (EventHubAuthCBS.authModule fun _ => none)).step
        (created (.createdFromConnectionString "host" "hub" "name" "key" "group" "0"))
        (.receiveFromStartTimestampAsync (some ⟨1, none⟩) (some ⟨2, none⟩) 0
          { creates := false }) = some t ∧
      ¬ FailsAtomically
        (created (.createdFromConnectionString "host" "hub" "name" "key" "group" "0"))
        t (.receiveFromStartTimestampAsync (some ⟨1, none⟩) (some ⟨2, none⟩) 0
          { creates := false } : ThreadedInput AuthEnv) := by
  refine ⟨_, rfl, fun h => ?_⟩
  obtain ⟨hsame, -⟩ := h ⟨.error, rfl, nofun⟩
  exact absurd hsame.lowLevelState nofun

end EventHubReceiver

end EventHubs
