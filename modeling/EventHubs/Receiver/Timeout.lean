import EventHubs.Library.Chronicle
import EventHubs.Library.Clock
import EventHubs.Receiver.Registration
import Mathlib.Data.List.DropRight

/-!
# The receive timeout

A reception with a timeout calls its user when nothing was received for so long. The receiver keeps
a time stamp of the last activity and a flag for the messages since: `EHR_LL_OnMessageReceived` sets
the flag, and the end of an `EventHubReceiver_LL_DoWork` on an initialised stack turns the flag into
a new time stamp. When the tick cannot be read there, the flag is cleared and the time stamp stays.

The receiver runs against a clock here. An input comes with its time, a tick that can be read is
that time, and what happens is put into a history with it. The law of the timeout speaks of this
history only, not of the time stamp and the flag: the last activity is the latest start of a
reception, end of a bring-up, message noted or timeout in it.

## Main definitions

* `Moment` — what the law of the timeout is about.
* `EventHubReceiverLL.TimedState`, `EventHubReceiverLL.timedMachine` — the receiver and its clock.
* `EventHubReceiverLL.Accurate` — the law for one timeout.
* `EventHubReceiverLL.Due` — where there has to be one.
* `EventHubReceiverLL.NotesMessage` — the condition under which it holds.
* `EventHubReceiverLL.Tells`, `EventHubReceiverLL.TimerInv` — what the history tells of the timer,
  and the invariant.

## Main results

* `EventHubReceiverLL.step_ticked` — what a step can do to the timer.
* `EventHubReceiverLL.run_timeouts_accurate`.
-/

namespace EventHubs

/-- What is put into the history of a run. `opened` is the end of the bring-up of a reception with a
timeout, and `noted` the end of an `EventHubReceiver_LL_DoWork` that takes the messages so far for
an activity. -/
inductive Moment
  | started (waitTimeoutInMs : UInt32)
  | opened
  | doWork
  | received
  | noted
  | timedOut
  deriving DecidableEq, Repr

/-- The moments from which a timeout has to keep its distance. -/
def Moment.isActive : Moment → Bool
  | .started _ => true
  | .received => true
  | .timedOut => true
  | _ => false

/-- The moments that renew the last activity. -/
def Moment.renews : Moment → Bool
  | .started _ => true
  | .opened => true
  | .noted => true
  | .timedOut => true
  | _ => false

namespace EventHubReceiverLL

variable {σ ι : Type} (auth : AuthModule σ ι)

open ReceiverState Attempt

/-! ### The clock -/

/-- The tick that an input reads. -/
def tick? : ReceiverInput ι → Option UInt64
  | .receiveFromStartTimestampAsync _ _ _ env => env.tick
  | .receiveFromStartTimestampWithTimeoutAsync _ _ _ _ env => env.tick
  | .uamqpReturn _ env => env.tick
  | _ => none

/-- The timeout that a receive call asks for. -/
def waitOf : ReceiverInput ι → UInt32
  | .receiveFromStartTimestampWithTimeoutAsync _ _ _ waitTimeoutInMs _ => waitTimeoutInMs
  | _ => 0

/-- What an event is for the timeout. -/
def moment? (i : ReceiverInput ι) : ReceiverEvent → Option Moment
  | .started _ _ => some (.started (waitOf i))
  | .doWork => some .doWork
  | .received _ _ => some .received
  | .timedOut _ => some .timedOut
  | _ => none

/-- The timeout of the latest reception. -/
def latestWait (history : List (UInt64 × Moment)) : Option UInt32 :=
  history.foldl (fun wait e => match e.2 with
    | .started waitTimeoutInMs => some waitTimeoutInMs
    | _ => wait) none

/-- What happened since the latest `EventHubReceiver_LL_DoWork` began. -/
def sinceDoWork (history : List (UInt64 × Moment)) : List (UInt64 × Moment) :=
  history.rtakeWhile fun e => e.2 ≠ .doWork

/-- What happened since the reception began, messages were noted, or there was a timeout. -/
def sinceActivity (history : List (UInt64 × Moment)) : List (UInt64 × Moment) :=
  history.rtakeWhile fun e => match e.2 with
    | .started _ => false
    | .noted => false
    | .timedOut => false
    | _ => true

/-- A message was received and not noted yet. -/
def MessageWaits (history : List (UInt64 × Moment)) : Prop :=
  ∃ e ∈ sinceActivity history, e.2 = .received

instance (history : List (UInt64 × Moment)) : Decidable (MessageWaits history) :=
  inferInstanceAs (Decidable (∃ e ∈ sinceActivity history, e.2 = .received))

/-- The activity with which a return of uAMQP to `control` ends: the end of the bring-up, or of a
poll that finds a message. -/
def activityAt (history : List (UInt64 × Moment)) (ok : Bool) : ReceiverControl → Option Moment
  | .uamqp .messagereceiverOpen => if ok then some .opened else none
  | .uamqp (.connectionDowork true) => if MessageWaits history then some .noted else none
  | _ => none

/-- The activity with which a step ends, in a reception with a timeout and with a tick that can be
read. -/
def activity? (history : List (UInt64 × Moment)) (s : ReceiverState σ) :
    ReceiverInput ι → Option Moment
  | .uamqpReturn ok env =>
    if latestWait history = some 0 ∨ env.tick = none then none
    else activityAt history ok s.control
  | _ => none

/-- What a step adds to the history. -/
def moments (history : List (UInt64 × Moment)) (s : ReceiverState σ) (i : ReceiverInput ι)
    (t : ReceiverState σ) : List Moment :=
  (t.log.drop s.log.length).filterMap (moment? i) ++ (activity? history s i).toList

/-- A receiver with the time and its history so far, oldest first. -/
structure TimedState (σ : Type) where
  receiver : ReceiverState σ
  now : UInt64 := 0
  history : List (UInt64 × Moment) := []

/-- One step at the time with which the input comes, which is not before the present time. A tick
that can be read is this time. -/
def timedStep (s : TimedState σ) (x : UInt64 × ReceiverInput ι) : Option (TimedState σ) :=
  if s.now ≤ x.1 ∧ (tick? x.2).all (· == x.1) then
    (step auth s.receiver x.2).map fun t =>
      { receiver := t
        now := x.1
        history := s.history ++ (moments s.history s.receiver x.2 t).map fun m => (x.1, m) }
  else none

/-- The low-level receiver against a clock that does not go back. -/
def timedMachine : Machine (TimedState σ) (UInt64 × ReceiverInput ι) where
  step := timedStep auth

/-! ### The law -/

/-- A timeout at `now` is accurate: since the start of the reception, every earlier timeout and
every message at least the timeout of the reception has passed, and in the same
`EventHubReceiver_LL_DoWork` there was no message and no timeout. -/
structure Accurate (past : List (UInt64 × Moment)) (now : UInt64) : Prop where
  distance : ∃ wait, latestWait past = some wait ∧ wait ≠ 0 ∧
    ∀ e ∈ past, e.2.isActive = true → e.1.toNat + wait.toNat ≤ now.toNat
  quiet : ∀ e ∈ sinceDoWork past, e.2 ≠ .received
  once : ∀ e ∈ sinceDoWork past, e.2 ≠ .timedOut

/-- At `now` a timeout is due: the `connection_dowork` of an initialised stack returns, the timeout
of the reception has passed since everything that renews the last activity, and no message waits. -/
structure Due (s : TimedState σ) (now : UInt64) : Prop where
  polling : s.receiver.control = .uamqp (.connectionDowork true)
  forward : s.now ≤ now
  passed : ∃ wait, latestWait s.history = some wait ∧ wait ≠ 0 ∧
    ∀ e ∈ s.history, e.2.renews = true → e.1.toNat + wait.toNat ≤ now.toNat
  quiet : ¬ MessageWaits s.history

/-- Where a message waits at the end of an `EventHubReceiver_LL_DoWork` on an initialised stack, in
a reception with a timeout, the tick can be read. -/
def NotesMessage (s : TimedState σ) (x : UInt64 × ReceiverInput ι) : Prop :=
  match x.2 with
  | .uamqpReturn _ env =>
    s.receiver.control = .uamqp (.connectionDowork true) → latestWait s.history ≠ some 0 →
      MessageWaits s.history → env.tick.isSome = true
  | _ => True

instance (s : TimedState σ) : ∀ x : UInt64 × ReceiverInput ι, Decidable (NotesMessage s x)
  | (_, .uamqpReturn _ _) => inferInstanceAs (Decidable (_ → _ → _ → _))
  | (_, .receiveFromStartTimestampAsync ..) => isTrue trivial
  | (_, .receiveFromStartTimestampWithTimeoutAsync ..) => isTrue trivial
  | (_, .receiveEndAsync _) => isTrue trivial
  | (_, .refreshSASTokenAsync ..) => isTrue trivial
  | (_, .setConnectionTracing _) => isTrue trivial
  | (_, .doWork _) => isTrue trivial
  | (_, .destroy) => isTrue trivial
  | (_, .onMessageReceived ..) => isTrue trivial
  | (_, .onStateChanged ..) => isTrue trivial
  | (_, .onCBSPutTokenOperationComplete ..) => isTrue trivial
  | (_, .callbackReturn) => isTrue trivial

/-! ### The timer of a receiver -/

/-- The part of a receiver that the timeout depends on. -/
structure Timer where
  active : Bool
  waitTimeoutInMs : UInt32
  lastActivityTimestamp : UInt64
  wasMessageReceived : Bool

/-- The timer of a receiver, which runs while a reception is active or waits for its tear-down. -/
def timer (c : EventHubReceiverLL σ) : Timer where
  active := c.state ≠ .inactive
  waitTimeoutInMs := c.waitTimeoutInMs
  lastActivityTimestamp := c.lastActivityTimestamp
  wasMessageReceived := c.callback.wasMessageReceived

/-- The timer is left alone. -/
def KeepsTimer (s t : ReceiverState σ) : Prop := timer t.client = timer s.client

theorem KeepsTimer.eq {s t : ReceiverState σ} (h : KeepsTimer s t) :
    timer t.client = timer s.client := h

theorem KeepsTimer.refl (s : ReceiverState σ) : KeepsTimer s s := Eq.refl _

theorem KeepsTimer.trans {s t u : ReceiverState σ} (h : KeepsTimer s t) (h' : KeepsTimer t u) :
    KeepsTimer s u := Eq.trans h' h

theorem KeepsTimer.of_offstage {s t : ReceiverState σ} (h : Offstage s t) : KeepsTimer s t := by
  have hwait : t.client.waitTimeoutInMs = s.client.waitTimeoutInMs :=
    congrArg Registration.waitTimeoutInMs h.registration
  rw [KeepsTimer, timer, timer, h.state, hwait, h.lastActivityTimestamp, h.wasMessageReceived]

theorem AuthResult.timer {s t : ReceiverState σ} (h : AuthResult s t) : KeepsTimer s t := by
  cases h <;> rfl

theorem doWorkInitialized_timer (s : ReceiverState σ) (env : ReceiverEnv ι) :
    KeepsTimer s (doWorkInitialized auth s env) :=
  (KeepsTimer.of_offstage (handleSASTokenAuth_offstage auth s env)).trans
    (afterAuth_result _ _).timer

theorem bringUpFailed_timer (s : ReceiverState σ) :
    KeepsTimer s (deInitializeStack s .bringUpFailed) := by
  unfold deInitializeStack
  split_ifs <;> rfl

theorem doWorkActive_timer (s : ReceiverState σ) (env : ReceiverEnv ι) :
    KeepsTimer s (doWorkActive auth s env) := by
  unfold doWorkActive
  cases s.client.receiverAMQPConnectionState with
  | uninitialized =>
    have hinit := KeepsTimer.of_offstage (initializeFirst_offstage auth env s)
    dsimp only
    generalize initializeFirst auth env s = x at hinit ⊢
    rcases x with ⟨_ | _, t⟩
    · exact KeepsTimer.trans hinit (bringUpFailed_timer t)
    · exact KeepsTimer.trans hinit (doWorkInitialized_timer auth t env)
  | pendingReceiverCreate =>
    have hinit := KeepsTimer.of_offstage (initializeStackReceiver_offstage env s)
    dsimp only
    generalize initializeStackReceiver env s = x at hinit ⊢
    rcases x with ⟨_ | _, t⟩
    · exact KeepsTimer.trans hinit (bringUpFailed_timer t)
    · exact hinit
  | _ => exact doWorkInitialized_timer auth _ env

/-- `messagereceiver_open` has returned: the time stamp is renewed if the bring-up ends with a tick
that was read for a timeout. -/
theorem afterOpen_timer (s : ReceiverState σ) (ok : Bool) (env : ReceiverEnv ι) :
    KeepsTimer s (afterOpen auth s ok env) ∧
        (ok = false ∨ s.client.waitTimeoutInMs = 0 ∨ env.tick = none) ∨
      ok = true ∧ s.client.waitTimeoutInMs ≠ 0 ∧
        ∃ tick, env.tick = some tick ∧ timer (afterOpen auth s ok env).client =
          { timer s.client with lastActivityTimestamp := tick } := by
  unfold afterOpen
  split_ifs with hok hwait
  · exact .inl ⟨bringUpFailed_timer s, .inl (by simpa using hok)⟩
  · exact .inl ⟨doWorkInitialized_timer auth { s with
      client := { s.client with receiverAMQPConnectionState := .initialized } } env,
      .inr (.inl hwait)⟩
  · cases htick : env.tick with
    | none => exact .inl ⟨rfl, .inr (.inr rfl)⟩
    | some tick =>
      exact .inr ⟨by simpa using hok, hwait, tick, rfl, doWorkInitialized_timer auth { s with
        client := { s.client with
          lastActivityTimestamp := tick
          receiverAMQPConnectionState := .initialized } } env⟩

/-! ### One step of the timer -/

/-- Control stands in a call to uAMQP that an `EventHubReceiver_LL_DoWork` on an active reception
makes. -/
def inDoWork (c : ReceiverControl) : Bool :=
  match c.call with
  | some .messagereceiverOpen => true
  | some (.connectionDowork _) => true
  | _ => false

/-- Control does not stand in a timeout. -/
def NoTimeout (c : ReceiverControl) : Prop := ∀ tick, c ≠ .timeoutCb tick

/-- What a step from `s` to `t` at the time `now` can do to the timer, and what the history gets of
it. -/
inductive Ticked (s : ReceiverState σ) (i : ReceiverInput ι) (now : UInt64) (t : ReceiverState σ) :
    Option Moment → Prop
  | kept (h : KeepsTimer s t)
      (hcontrol : t.control = s.control ∨ NoTimeout s.control ∧ NoTimeout t.control ∧
        (inDoWork t.control = true → inDoWork s.control = true)) :
    Ticked s i now t none
  | stopped (h : (timer t.client).active = false) (hquiet : NoTimeout t.control)
      (hout : inDoWork t.control = false) :
    Ticked s i now t none
  | began (h : KeepsTimer s t ∨ (timer t.client).active = false) (hidle : s.control = .idle)
      (hquiet : NoTimeout t.control) :
    Ticked s i now t (some .doWork)
  | started {wait : UInt32} {stamp : UInt64} (h : timer t.client = ⟨true, wait, stamp, false⟩)
      (hstamp : wait ≠ 0 → stamp = now) (hquiet : NoTimeout t.control)
      (hout : inDoWork t.control = false) :
    Ticked s i now t (some (.started wait))
  | received (h : timer t.client = { timer s.client with wasMessageReceived := true })
      (hbefore : NoTimeout s.control) (hquiet : NoTimeout t.control)
      (hin : inDoWork t.control = true → inDoWork s.control = true) :
    Ticked s i now t (some .received)
  | opened (hcall : s.control = .uamqp .messagereceiverOpen)
      (hwait : s.client.waitTimeoutInMs ≠ 0)
      (h : timer t.client = { timer s.client with lastActivityTimestamp := now })
      (hquiet : NoTimeout t.control) :
    Ticked s i now t (some .opened)
  | noted (hwait : s.client.waitTimeoutInMs ≠ 0)
      (h : timer t.client =
        { timer s.client with lastActivityTimestamp := now, wasMessageReceived := false })
      (hidle : t.control = .idle) :
    Ticked s i now t (some .noted)
  | passed (hcall : s.control = .uamqp (.connectionDowork true))
      (hquiet : s.client.waitTimeoutInMs = 0 ∨ s.client.callback.wasMessageReceived = false ∨
        ∃ ok env, i = .uamqpReturn ok env ∧ env.tick = none)
      (h : timer t.client = { timer s.client with wasMessageReceived := false })
      (hidle : t.control = .idle) :
    Ticked s i now t none
  | fired (hcall : s.control = .uamqp (.connectionDowork true))
      (hwait : s.client.waitTimeoutInMs ≠ 0)
      (hflag : s.client.callback.wasMessageReceived = false)
      (hlong : s.client.waitTimeoutInMs.toUInt64 ≤ now - s.client.lastActivityTimestamp)
      (h : KeepsTimer s t) (htimeout : t.control = .timeoutCb now) :
    Ticked s i now t (some .timedOut)
  | returned {tick : UInt64} (htimeout : s.control = .timeoutCb tick)
      (h : timer t.client =
        { timer s.client with lastActivityTimestamp := tick, wasMessageReceived := false })
      (hidle : t.control = .idle) :
    Ticked s i now t none

variable {s t : ReceiverState σ} {i : ReceiverInput ι} {now : UInt64}
  {history : List (UInt64 × Moment)}

/-- A step that shows nothing of the timeout adds to the history the activity that it ends with. -/
theorem moments_eq {events : List ReceiverEvent} (hlog : t.log = s.log ++ events)
    (hnone : events.filterMap (moment? i) = []) {activity : Option Moment}
    (hactivity : activity? history s i = activity) :
    moments history s i t = activity.toList := by
  rw [moments, hlog, List.drop_left, hnone, hactivity, List.nil_append]

/-- A step that shows something of the timeout and ends with no activity. -/
theorem moments_shown {events : List ReceiverEvent} (hlog : t.log = s.log ++ events)
    (hnone : activity? history s i = none) :
    moments history s i t = events.filterMap (moment? i) := by
  rw [moments, hlog, List.drop_left, hnone]
  exact List.append_nil _

/-- What the history tells of a timer that runs: its timeout, and whether a message waits. -/
structure Tells (timer : Timer) (history : List (UInt64 × Moment)) : Prop where
  wait : timer.active = true → latestWait history = some timer.waitTimeoutInMs
  flag : timer.active = true → timer.waitTimeoutInMs ≠ 0 →
    (timer.wasMessageReceived = true ↔ MessageWaits history)

namespace Tells

variable {ok : Bool} {env : ReceiverEnv ι} {tick : UInt64}

/-- Without a timeout or a tick no activity is seen. -/
theorem unread (h : Tells (timer s.client) history) (hactive : (timer s.client).active = true)
    (hunread : s.client.waitTimeoutInMs = 0 ∨ env.tick = none) :
    activity? history s (.uamqpReturn ok env) = none := by
  refine if_pos (hunread.imp_left fun hzero => ?_)
  rw [h.wait hactive]
  exact congrArg some hzero

theorem read (h : Tells (timer s.client) history) (hactive : (timer s.client).active = true)
    (hwait : s.client.waitTimeoutInMs ≠ 0) (hread : env.tick = some tick) :
    ¬ (latestWait history = some 0 ∨ env.tick = none) := by
  rw [h.wait hactive, hread]
  simpa [timer] using hwait

/-- `messagereceiver_open` ends the bring-up. -/
theorem opened (h : Tells (timer s.client) history) (hactive : (timer s.client).active = true)
    (hcall : s.control = .uamqp .messagereceiverOpen) (hwait : s.client.waitTimeoutInMs ≠ 0)
    (hread : env.tick = some tick) :
    activity? history s (.uamqpReturn true env) = some .opened := by
  rw [activity?, if_neg (h.read hactive hwait hread), hcall]
  rfl

/-- A poll ends with an activity when the flag is set. -/
theorem polled (h : Tells (timer s.client) history) (hactive : (timer s.client).active = true)
    (hcall : s.control = .uamqp (.connectionDowork true)) (hwait : s.client.waitTimeoutInMs ≠ 0)
    (hread : env.tick = some tick) (ok : Bool) :
    activity? history s (.uamqpReturn ok env) =
      if s.client.callback.wasMessageReceived then some .noted else none := by
  rw [activity?, if_neg (h.read hactive hwait hread), hcall]
  exact if_congr (h.flag hactive hwait).symm rfl rfl

end Tells

theorem activity_of_none {ok : Bool} {env : ReceiverEnv ι}
    (hnone : activityAt history ok s.control = none) :
    activity? history s (.uamqpReturn ok env) = none := by
  rw [activity?, hnone, ite_self]

theorem filterMap_moment_internal {events : List ReceiverEvent}
    (h : ∀ e ∈ events, e.internal = true) : events.filterMap (moment? i) = [] := by
  refine List.filterMap_eq_nil_iff.mpr fun e he => ?_
  have hinternal := h e he
  cases e <;> first | rfl | cases hinternal

/-- A stretch of `EventHubReceiver_LL_DoWork` shows nothing that is noted, and ends in no
timeout. -/
theorem Worked.unnoted (h : Worked s t) : NoTimeout t.control ∧
    ∃ events, t.log = s.log ++ events ∧ events.filterMap (moment? i) = [] := by
  cases h with
  | resumed c h hc =>
    obtain ⟨events, hlog, hinternal⟩ := h.log
    refine ⟨?_, events, hlog, filterMap_moment_internal hinternal⟩
    rintro tick rfl
    cases hc
  | unregistered h hnone =>
    obtain ⟨events, hlog, hinternal⟩ := h.log
    exact ⟨nofun, events, hlog, filterMap_moment_internal hinternal⟩
  | raised callback r h hcb =>
    obtain ⟨events, hlog, hinternal⟩ := h.log
    refine ⟨nofun, events ++ [.errorRaised callback r], by rw [hlog, List.append_assoc], ?_⟩
    rw [List.filterMap_append, filterMap_moment_internal hinternal]
    rfl

/-- The end of an `EventHubReceiver_LL_DoWork` on an initialised stack. -/
theorem handleTimeouts_ticked (htells : Tells (timer s.client) history)
    (hactive : (timer s.client).active = true)
    (hcall : s.control = .uamqp (.connectionDowork true)) {ok : Bool} {env : ReceiverEnv ι}
    (hcb : s.client.callback.onEventReceiveCallback ≠ none)
    (htick : ∀ tick ∈ env.tick, tick = now) :
    ∃ m, moments history s (.uamqpReturn ok env) (handleTimeouts s env.tick) = Option.toList m ∧
      Ticked s (.uamqpReturn ok env) now (handleTimeouts s env.tick) m := by
  unfold handleTimeouts
  by_cases hwait : s.client.waitTimeoutInMs = 0
  · rw [if_pos hwait]
    exact ⟨none, moments_eq (List.append_nil _).symm rfl (htells.unread hactive (.inl hwait)),
      .passed hcall (.inl hwait) rfl rfl⟩
  · rw [if_neg hwait]
    cases hread : env.tick with
    | none =>
      exact ⟨none, moments_eq (List.append_nil _).symm rfl (htells.unread hactive (.inr hread)),
        .passed hcall (.inr (.inr ⟨ok, env, rfl, hread⟩)) rfl rfl⟩
    | some tick =>
      obtain rfl : tick = now := htick tick hread
      have hpolled := htells.polled hactive hcall hwait hread ok
      dsimp only
      cases hflag : s.client.callback.wasMessageReceived with
      | true =>
        rw [hflag, if_pos rfl] at hpolled
        exact ⟨some .noted, moments_eq (List.append_nil _).symm rfl hpolled,
          .noted hwait rfl rfl⟩
      | false =>
        rw [hflag, if_neg nofun] at hpolled
        simp only [Bool.false_eq_true, if_false]
        by_cases hlong : s.client.waitTimeoutInMs.toUInt64 ≤ tick - s.client.lastActivityTimestamp
        · rw [if_pos hlong]
          obtain ⟨callback, hcallback⟩ := Option.ne_none_iff_exists'.mp hcb
          simp only [hcallback]
          refine ⟨some .timedOut, ?_, .fired hcall hwait hflag hlong rfl rfl⟩
          rw [moments_shown rfl hpolled]
          rfl
        · rw [if_neg hlong]
          exact ⟨none, moments_eq (List.append_nil _).symm rfl hpolled,
            .passed hcall (.inr (.inl hflag)) rfl rfl⟩

/-- The end of a tear-down. -/
theorem afterDeInitialize_ended (s : ReceiverState σ) (after : AfterTeardown) :
    (timer (afterDeInitialize (finishDeInitializeStack s) (.teardown after)).client).active =
      false ∧
    NoTimeout (afterDeInitialize (finishDeInitializeStack s) (.teardown after)).control ∧
    inDoWork (afterDeInitialize (finishDeInitializeStack s) (.teardown after)).control = false ∧
    ∃ events, (afterDeInitialize (finishDeInitializeStack s) (.teardown after)).log =
      s.log ++ events ∧ events.filterMap (moment? i) = [] := by
  cases after with
  | endReception =>
    unfold afterDeInitialize afterTeardown
    dsimp only
    split
    · next callback heq =>
      exact ⟨rfl, (by rintro tick ⟨⟩), rfl, [.stackDestroyed, .tornDown, .ended callback .ok],
        by simp [resetReceiver, finishDeInitializeStack], rfl⟩
    · exact ⟨rfl, (by rintro tick ⟨⟩), rfl, [.stackDestroyed, .tornDown],
        by simp [resetReceiver, finishDeInitializeStack], rfl⟩
  | resetReception =>
    exact ⟨rfl, (by rintro tick ⟨⟩), rfl, [.stackDestroyed, .tornDown], List.append_assoc .., rfl⟩
  | destroy =>
    exact ⟨rfl, (by rintro tick ⟨⟩), rfl, [.stackDestroyed, .tornDown], List.append_assoc .., rfl⟩

/-- A tear-down stops the timer, now or when the message receiver is destroyed. -/
theorem teardownReceiverStack_ended (s : ReceiverState σ) (after : AfterTeardown) :
    (KeepsTimer s (teardownReceiverStack s after) ∨
      (timer (teardownReceiverStack s after).client).active = false) ∧
    NoTimeout (teardownReceiverStack s after).control ∧
    inDoWork (teardownReceiverStack s after).control = false ∧
    ∃ events, (teardownReceiverStack s after).log = s.log ++ events ∧
      events.filterMap (moment? i) = [] := by
  unfold teardownReceiverStack deInitializeStack
  split_ifs
  · exact ⟨.inl rfl, nofun, rfl, [], by simp, rfl⟩
  · obtain ⟨hstopped, hrest⟩ := afterDeInitialize_ended (i := i) s after
    exact ⟨.inr hstopped, hrest⟩

theorem Ticked.of_teardown {u : ReceiverState σ} (hu : KeepsTimer s u)
    (hbefore : NoTimeout s.control) {after : AfterTeardown} :
    Ticked s i now (teardownReceiverStack u after) none := by
  obtain ⟨htimer, hquiet, hout, -⟩ := teardownReceiverStack_ended (i := i) u after
  rcases htimer with hkept | hstopped
  · exact .kept (hu.trans hkept) (.inr ⟨hbefore, hquiet, by simp [hout]⟩)
  · exact .stopped hstopped hquiet hout

theorem doWork_ticked (s : ReceiverState σ) (env : ReceiverEnv ι) (hidle : s.control = .idle) :
    ∃ m, moments history s (.doWork env) (doWork auth s env) = Option.toList m ∧
      Ticked s (.doWork env) now (doWork auth s env) m := by
  have hmoments : ∀ events : List ReceiverEvent,
      (doWork auth s env).log = (s.emit [.doWork]).log ++ events →
      events.filterMap (moment? (.doWork env)) = [] →
      moments history s (.doWork env) (doWork auth s env) = Option.toList (some .doWork) := by
    intro events hlog hnone
    rw [moments_shown (hlog.trans (List.append_assoc ..)) rfl, List.filterMap_append, hnone]
    rfl
  refine ⟨some .doWork, ?_⟩
  unfold doWork at hmoments ⊢
  dsimp only at hmoments ⊢
  cases hstate : (s.emit [.doWork]).client.state with
  | inactivePending =>
    simp only [hstate] at hmoments ⊢
    obtain ⟨htimer, hquiet, -, events, hlog, hnone⟩ :=
      teardownReceiverStack_ended (i := .doWork env) (s.emit [.doWork]) .endReception
    exact ⟨hmoments events hlog hnone, .began htimer hidle hquiet⟩
  | active =>
    simp only [hstate] at hmoments ⊢
    obtain ⟨hquiet, events, hlog, hnone⟩ :=
      (doWorkActive_worked auth (s.emit [.doWork]) env).unnoted (i := .doWork env)
    exact ⟨hmoments events hlog hnone,
      .began (.inl (doWorkActive_timer auth (s.emit [.doWork]) env)) hidle hquiet⟩
  | inactive =>
    simp only [hstate] at hmoments ⊢
    refine ⟨hmoments [] (by simp) rfl, .began (.inl rfl) hidle fun tick hcontrol => ?_⟩
    exact absurd (hidle.symm.trans hcontrol) nofun

theorem uamqpReturn_ticked {call : ReceiverUamqpCall} (hcall : s.control = .uamqp call)
    (hreg : RegistrationInv s) (htells : Tells (timer s.client) history) {ok : Bool}
    {env : ReceiverEnv ι} (htick : ∀ tick ∈ env.tick, tick = now) :
    ∃ m, moments history s (.uamqpReturn ok env) (uamqpReturn auth s ok env call) =
        Option.toList m ∧
      Ticked s (.uamqpReturn ok env) now (uamqpReturn auth s ok env call) m := by
  have hbefore : NoTimeout s.control := hcall ▸ nofun
  have hactive : s.control.busy = true → (timer s.client).active = true := by
    intro hbusy
    simpa [timer] using hreg.active hbusy
  cases call with
  | messagereceiverOpen =>
    obtain ⟨hquiet, events, hlog, hnone⟩ :=
      (afterOpen_worked auth s ok env).unnoted (i := .uamqpReturn ok env)
    have hrunning := hactive (by rw [hcall]; rfl)
    rcases afterOpen_timer auth s ok env with ⟨hkept, hend⟩ | ⟨rfl, hwait, tick, hread, hopened⟩
    · have hunread : activity? history s (.uamqpReturn ok env) = none := by
        rcases hend with rfl | hend
        · exact activity_of_none (by rw [hcall]; rfl)
        · exact htells.unread hrunning hend
      exact ⟨none, moments_eq hlog hnone hunread,
        .kept hkept (.inr ⟨hbefore, hquiet, fun _ => by rw [hcall]; rfl⟩)⟩
    · obtain rfl := htick tick hread
      exact ⟨some .opened, moments_eq hlog hnone (htells.opened hrunning hcall hwait hread),
        .opened hcall hwait hopened hquiet⟩
  | connectionDowork poll =>
    cases poll with
    | false =>
      exact ⟨none, moments_eq (List.append_nil _).symm rfl (activity_of_none (by rw [hcall]; rfl)),
        .kept rfl (.inr ⟨hbefore, nofun, nofun⟩)⟩
    | true =>
      exact handleTimeouts_ticked htells (hactive (by rw [hcall]; rfl)) hcall
        (hreg.receive_ne_none (by rw [hcall]; rfl)) htick
  | messagereceiverDestroy after =>
    have hother : activity? history s (.uamqpReturn ok env : ReceiverInput ι) = none :=
      activity_of_none (by rw [hcall]; rfl)
    cases after with
    | bringUpFailed =>
      have hlog : (uamqpReturn auth s ok env (.messagereceiverDestroy .bringUpFailed)).log =
          s.log ++ [.stackDestroyed, .bringUpFailed] := List.append_assoc ..
      exact ⟨none, moments_eq hlog rfl hother, .kept rfl (.inr ⟨hbefore, nofun, nofun⟩)⟩
    | teardown after =>
      obtain ⟨hstopped, hquiet, hout, events, hlog, hnone⟩ :=
        afterDeInitialize_ended (i := .uamqpReturn ok env) s after
      exact ⟨none, moments_eq hlog hnone hother, .stopped hstopped hquiet hout⟩

/-- The tick that a successful receive call has read, with a timeout, is the last activity. -/
theorem receiveAsyncCommon_tick {onReceive onError : Option UserCallback} {timestamp : UInt64}
    {wait : UInt32} {env : ReceiveEnv} (hwait : wait ≠ 0)
    (hok : receiveAsyncCommon s onReceive onError timestamp wait env = (.ok, t)) :
    env.tick = some t.client.lastActivityTimestamp := by
  unfold receiveAsyncCommon at hok
  split at hok
  · cases hread : env.tick with
    | none =>
      simp only [hread, Option.isNone_none, Bool.and_true] at hok
      split_ifs at hok <;> simp_all
    | some tick =>
      simp only [hread, Option.isNone_some, Bool.and_false, Bool.false_eq_true, if_false,
        if_neg hwait] at hok
      split_ifs at hok
      · simp at hok
      · simp at hok
      · obtain ⟨-, rfl⟩ := Prod.mk.inj hok
        rfl
  · simp at hok

theorem receiveAsyncCommon_ticked (hreg : RegistrationInv s)
    (hends : activity? history s i = none)
    (onReceive onError : Option UserCallback) (timestamp : UInt64) (env : ReceiveEnv)
    (htick : ∀ tick ∈ env.tick, tick = now) :
    ∃ m, moments history s i
          (receiveAsyncCommon s onReceive onError timestamp (waitOf i) env).2 = Option.toList m ∧
      Ticked s i now (receiveAsyncCommon s onReceive onError timestamp (waitOf i) env).2 m := by
  -- control stands between calls or in a callback when a reception can begin
  have hout : s.client.state = .inactive → NoTimeout s.control ∧ inDoWork s.control = false := by
    intro hinactive
    have hquiet : s.control.busy = false := by
      by_contra hbusy
      exact hreg.active (by simpa using hbusy) hinactive
    cases hc : s.control with
    | idle => exact ⟨nofun, rfl⟩
    | endCb => exact ⟨nofun, rfl⟩
    | destroyed => exact ⟨nofun, rfl⟩
    | undefinedBehaviour => exact ⟨nofun, rfl⟩
    | _ => simp [hc, ReceiverControl.busy] at hquiet
  rcases receiveAsyncCommon_cases s onReceive onError timestamp (waitOf i) env with
    ⟨r, -, h⟩ | ⟨r, tick, filter, -, -, hinactive, -, h⟩ |
    ⟨receiveCb, errorCb, tick, hinactive, -, -, h⟩
  · rw [h]
    exact ⟨none, moments_eq (List.append_nil _).symm rfl hends, .kept rfl (.inl rfl)⟩
  · rw [h]
    obtain ⟨hquiet, hidle⟩ := hout hinactive
    refine ⟨none, moments_eq (List.append_nil _).symm rfl hends, .stopped ?_ hquiet hidle⟩
    simp [timer, hinactive]
  · obtain ⟨hquiet, hidle⟩ := hout hinactive
    have hstamp : waitOf i ≠ 0 → tick = now := fun hwait =>
      htick tick (receiveAsyncCommon_tick hwait h)
    rw [h]
    refine ⟨some (.started (waitOf i)), ?_, .started rfl hstamp hquiet hidle⟩
    rw [moments_shown rfl hends]
    rfl

/-- What a step does to the timer, and what the history gets of it. -/
theorem step_ticked (hreg : RegistrationInv s) (htells : Tells (timer s.client) history)
    (hstep : step auth s i = some t) (htick : ∀ tick ∈ tick? i, tick = now) :
    ∃ m, moments history s i t = Option.toList m ∧ Ticked s i now t m := by
  have hmove := step_move auth hstep
  cases i with
  | receiveFromStartTimestampAsync onReceive onError timestamp env =>
    obtain ⟨-, ⟨⟩⟩ := Option.ite_none_right_eq_some.mp hstep
    exact receiveAsyncCommon_ticked hreg rfl onReceive onError timestamp env htick
  | receiveFromStartTimestampWithTimeoutAsync onReceive onError timestamp wait env =>
    obtain ⟨-, ⟨⟩⟩ := Option.ite_none_right_eq_some.mp hstep
    exact receiveAsyncCommon_ticked hreg rfl onReceive onError timestamp env htick
  | receiveEndAsync onEnd =>
    cases hmove with
    | receiveAsync _ _ _ _ _ _ hi => cases hi
    | receiveEndAsync _ hmay =>
      rcases receiveEndAsync_cases s onEnd with ⟨-, h⟩ | ⟨hactive, h⟩ <;> rw [h]
      · exact ⟨none, moments_eq (List.append_nil _).symm rfl rfl, .kept rfl (.inl rfl)⟩
      · refine ⟨none, moments_eq rfl rfl rfl, .kept ?_ (.inl rfl)⟩
        simp [KeepsTimer, timer, hactive]
  | refreshSASTokenAsync token env =>
    cases hmove with
    | receiveAsync _ _ _ _ _ _ hi => cases hi
    | refreshSASTokenAsync _ _ hmay =>
      rcases refreshSASTokenAsync_cases s token env with
        ⟨r, -, h⟩ | ⟨text, config, cfg, -, -, -, -, -, -, h⟩ <;> rw [h]
      · exact ⟨none, moments_eq (List.append_nil _).symm rfl rfl, .kept rfl (.inl rfl)⟩
      · exact ⟨none, moments_eq rfl rfl rfl, .kept rfl (.inl rfl)⟩
  | setConnectionTracing on =>
    cases hmove with
    | receiveAsync _ _ _ _ _ _ hi => cases hi
    | setConnectionTracing _ hmay =>
      rcases setConnectionTracing_cases s on with ⟨-, h⟩ | ⟨-, h⟩ <;> rw [h]
      · exact ⟨none, moments_eq (List.append_nil _).symm rfl rfl, .kept rfl (.inl rfl)⟩
      · exact ⟨none, moments_eq rfl rfl rfl, .kept rfl (.inl rfl)⟩
  | doWork env =>
    cases hmove with
    | receiveAsync _ _ _ _ _ _ hi => cases hi
    | doWork _ hidle _ => exact doWork_ticked auth s env hidle
  | destroy =>
    cases hmove with
    | receiveAsync _ _ _ _ _ _ hi => cases hi
    | destroy hidle _ =>
      obtain ⟨-, -, -, events, hlog, hnone⟩ := teardownReceiverStack_ended (i := .destroy)
        { s with destroying := true, log := s.log ++ [.destroying] } .destroy
      have htorn : Ticked s (.destroy : ReceiverInput ι) now (destroy s) none :=
        .of_teardown (s := s) (u := { s with
          destroying := true
          log := s.log ++ [.destroying] }) rfl (hidle ▸ nofun)
      refine ⟨none, moments_eq (hlog.trans (List.append_assoc ..)) ?_ rfl, htorn⟩
      rw [List.filterMap_append, hnone]
      rfl
  | onMessageReceived message env =>
    cases hmove with
    | receiveAsync _ _ _ _ _ _ hi => cases hi
    | @onMessageReceived call _ _ hcall hreceiver =>
      have hnone := hreg.receive_ne_none (by rw [hcall]; rfl)
      rcases onMessageReceived_cases s message env call with
        h | ⟨hcb, -⟩ | ⟨callback, event, -, -, h⟩
      · rw [h]
        exact ⟨none, moments_eq rfl rfl rfl, .kept rfl (.inl rfl)⟩
      · exact absurd hcb hnone
      · rw [h]
        refine ⟨some .received, ?_, .received rfl (hcall ▸ nofun) nofun fun hin => ?_⟩
        · rw [moments_shown rfl rfl]
          rfl
        · rw [hcall]
          exact hin
  | onStateChanged newState previousState =>
    cases hmove with
    | receiveAsync _ _ _ _ _ _ hi => cases hi
    | @onStateChanged call _ _ hcall hreceiver =>
      rcases onStateChanged_cases s newState previousState call with h | ⟨callback, -, h⟩ <;> rw [h]
      · exact ⟨none, moments_eq (List.append_nil _).symm rfl rfl, .kept rfl (.inl rfl)⟩
      · exact ⟨none, moments_eq rfl rfl rfl, .kept rfl (.inr
          ⟨hcall ▸ nofun, nofun, fun hin => hcall ▸ hin⟩)⟩
  | onCBSPutTokenOperationComplete r env =>
    cases hmove with
    | receiveAsync _ _ _ _ _ _ hi => cases hi
    | @onCBSPutTokenOperationComplete poll a _ _ hcall ha hputs =>
      refine ⟨none, moments_eq rfl ?_ rfl, .kept rfl (.inl rfl)⟩
      refine filterMap_moment_internal fun e he => ?_
      obtain ⟨_, -, rfl⟩ := List.mem_map.mp he
      rfl
  | uamqpReturn ok env =>
    cases hmove with
    | receiveAsync _ _ _ _ _ _ hi => cases hi
    | uamqpReturn _ _ hcall => exact uamqpReturn_ticked auth hcall hreg htells htick
  | callbackReturn =>
    cases hmove with
    | receiveAsync _ _ _ _ _ _ hi => cases hi
    | receiveReturn hreceive =>
      exact ⟨none, moments_eq rfl rfl rfl,
        .kept rfl (.inr ⟨hreceive ▸ nofun, nofun, fun hin => hreceive ▸ hin⟩)⟩
    | @timeoutReturn tick htimeout =>
      exact ⟨none, moments_eq (List.append_nil _).symm rfl rfl, .returned htimeout rfl rfl⟩
    | @errorReturn after herror =>
      cases after with
      | uamqp call =>
        exact ⟨none, moments_eq (List.append_nil _).symm rfl rfl,
          .kept rfl (.inr ⟨herror ▸ nofun, nofun, fun hin => herror ▸ hin⟩)⟩
      | teardown =>
        obtain ⟨-, -, -, events, hlog, hnone⟩ :=
          teardownReceiverStack_ended (i := .callbackReturn) s .resetReception
        exact ⟨none, moments_eq hlog hnone rfl, .of_teardown (.refl s) (herror ▸ nofun)⟩
    | endReturn hend =>
      exact ⟨none, moments_eq (List.append_nil _).symm rfl rfl,
        .kept rfl (.inr ⟨hend ▸ nofun, nofun, nofun⟩)⟩

/-! ### The invariant -/

variable {m : Moment}

theorem latestWait_concat : latestWait (history ++ [(now, m)]) =
    match m with
    | .started wait => some wait
    | _ => latestWait history := by
  rw [latestWait, List.foldl_append]
  rfl

theorem sinceDoWork_concat (hm : m ≠ .doWork) :
    sinceDoWork (history ++ [(now, m)]) = sinceDoWork history ++ [(now, m)] :=
  List.rtakeWhile_concat_pos _ _ _ (by simpa using hm)

theorem sinceDoWork_doWork : sinceDoWork (history ++ [(now, .doWork)]) = [] :=
  List.rtakeWhile_concat_neg _ _ _ (by simp)

/-- After the start of a reception, a message that is noted or a timeout no message waits. -/
theorem not_messageWaits_concat
    (hm : m = .noted ∨ m = .timedOut ∨ ∃ wait, m = .started wait) :
    ¬ MessageWaits (history ++ [(now, m)]) := by
  have hnil : sinceActivity (history ++ [(now, m)]) = [] := by
    refine List.rtakeWhile_concat_neg _ _ _ ?_
    rcases hm with rfl | rfl | ⟨wait, rfl⟩ <;> exact nofun
  rw [MessageWaits, hnil]
  exact nofun

theorem messageWaits_received : MessageWaits (history ++ [(now, .received)]) := by
  refine ⟨(now, .received), ?_, rfl⟩
  rw [sinceActivity, List.rtakeWhile_concat_pos _ _ _ rfl]
  exact List.mem_append_right _ (List.mem_singleton.mpr rfl)

/-- The start of an `EventHubReceiver_LL_DoWork` and the end of the bring-up leave it open whether a
message waits. -/
theorem messageWaits_concat (hm : m = .doWork ∨ m = .opened) :
    MessageWaits (history ++ [(now, m)]) ↔ MessageWaits history := by
  have hkept : sinceActivity (history ++ [(now, m)]) = sinceActivity history ++ [(now, m)] := by
    refine List.rtakeWhile_concat_pos _ _ _ ?_
    rcases hm with rfl | rfl <;> rfl
  have hother : m ≠ .received := by rcases hm with rfl | rfl <;> exact nofun
  rw [MessageWaits, hkept]
  simp [MessageWaits, hother]

/-- What holds of a timer, the point at which control stands, the time and the history: the time
stamp is a moment that renews the last activity, and every moment that matters is not after it, or
is a message that the flag knows of, or is not after the tick of the present timeout. -/
structure Watch (timer : Timer) (control : ReceiverControl) (now : UInt64)
    (history : List (UInt64 × Moment)) : Prop extends Tells timer history where
  past : ∀ e ∈ history, e.1 ≤ now
  renewed : timer.active = true → timer.waitTimeoutInMs ≠ 0 →
    ∃ e ∈ history, e.2.renews = true ∧ e.1 = timer.lastActivityTimestamp
  seen : timer.active = true → timer.waitTimeoutInMs ≠ 0 →
    ∀ e ∈ history, e.2.isActive = true → e.1 ≤ timer.lastActivityTimestamp ∨
      e.2 = .received ∧ timer.wasMessageReceived = true ∨
      ∃ tick, control = .timeoutCb tick ∧ e.1 ≤ tick
  timeout : ∀ tick, control = .timeoutCb tick → (tick, Moment.timedOut) ∈ history ∧
    timer.lastActivityTimestamp ≤ tick ∧ timer.wasMessageReceived = false
  working : inDoWork control = true → ∀ e ∈ sinceDoWork history,
    (e.2 = .received → timer.wasMessageReceived = true) ∧ e.2 ≠ .timedOut
  accurate : Chronicle (fun past e => e.2 = .timedOut → Accurate past e.1) history

namespace Watch

variable {timer stopped : Timer} {control control' : ReceiverControl}

theorem mono (h : Watch timer control now history) {later : UInt64} (hle : now ≤ later) :
    Watch timer control later history :=
  { h with past := fun e he => UInt64.le_trans (h.past e he) hle }

/-- The time stamp is not in the future. -/
theorem stamp (h : Watch timer control now history) (hactive : timer.active = true)
    (hwait : timer.waitTimeoutInMs ≠ 0) : timer.lastActivityTimestamp ≤ now := by
  obtain ⟨e, he, -, htime⟩ := h.renewed hactive hwait
  exact htime ▸ h.past e he

/-- Outside a timeout a moment that matters is not after the time stamp, or the flag knows of it. -/
theorem seen_outside (h : Watch timer control now history) (hbefore : NoTimeout control)
    (hactive : timer.active = true) (hwait : timer.waitTimeoutInMs ≠ 0) {e : UInt64 × Moment}
    (he : e ∈ history) (hmoment : e.2.isActive = true) :
    e.1 ≤ timer.lastActivityTimestamp ∨ e.2 = .received ∧ timer.wasMessageReceived = true := by
  rcases h.seen hactive hwait e he hmoment with hle | hflag | ⟨tick, htick, -⟩
  · exact .inl hle
  · exact .inr hflag
  · exact absurd htick (hbefore tick)

/-- Outside a timeout control can move on. -/
theorem move (h : Watch timer control now history) (hbefore : NoTimeout control)
    (hquiet : NoTimeout control') (hin : inDoWork control' = true → inDoWork control = true) :
    Watch timer control' now history :=
  { h with
    seen := fun hactive hwait _ he hmoment =>
      (h.seen_outside hbefore hactive hwait he hmoment).imp_right .inl
    timeout := fun tick htick => absurd htick (hquiet tick)
    working := fun hwork => h.working (hin hwork) }

/-- A timer that is stopped promises nothing. -/
theorem stop (h : Watch timer control now history) (hstopped : stopped.active = false)
    (hquiet : NoTimeout control') (hout : inDoWork control' = true → sinceDoWork history = []) :
    Watch stopped control' now history where
  wait hactive := absurd (hstopped.symm.trans hactive) nofun
  flag hactive := absurd (hstopped.symm.trans hactive) nofun
  past := h.past
  renewed hactive := absurd (hstopped.symm.trans hactive) nofun
  seen hactive := absurd (hstopped.symm.trans hactive) nofun
  timeout tick htick := absurd htick (hquiet tick)
  working hwork e he := by
    rw [hout hwork] at he
    cases he
  accurate := h.accurate

theorem past_concat (h : Watch timer control now history) :
    ∀ e ∈ history ++ [(now, m)], e.1 ≤ now := by
  intro e he
  rcases List.mem_append.mp he with he | he
  · exact h.past e he
  · obtain rfl := List.mem_singleton.mp he
    exact UInt64.le_refl now

theorem accurate_concat (h : Watch timer control now history) (hm : m ≠ .timedOut) :
    Chronicle (fun past e => e.2 = .timedOut → Accurate past e.1) (history ++ [(now, m)]) :=
  h.accurate.concat fun htimeout => absurd htimeout hm

/-- A time stamp that is kept stays a moment that renews the last activity. -/
theorem renewed_concat (h : Watch timer control now history) (hactive : timer.active = true)
    (hwait : timer.waitTimeoutInMs ≠ 0) :
    ∃ e ∈ history ++ [(now, m)], e.2.renews = true ∧ e.1 = timer.lastActivityTimestamp := by
  obtain ⟨e, he, hrenews⟩ := h.renewed hactive hwait
  exact ⟨e, List.mem_append_left _ he, hrenews⟩

/-- A moment that is added at the time stamp and renews the last activity. -/
theorem renewed_now (hm : m.renews = true) :
    ∃ e ∈ history ++ [(now, m)], e.2.renews = true ∧ e.1 = now :=
  ⟨(now, m), List.mem_append_right _ (List.mem_singleton.mpr rfl), hm, rfl⟩

/-- An `EventHubReceiver_LL_DoWork` begins. -/
theorem begin (h : Watch timer control now history) (hbefore : NoTimeout control)
    (hquiet : NoTimeout control') : Watch timer control' now (history ++ [(now, .doWork)]) where
  wait hactive := latestWait_concat.trans (h.wait hactive)
  flag hactive hwait := (h.flag hactive hwait).trans (messageWaits_concat (.inl rfl)).symm
  past := h.past_concat
  renewed := h.renewed_concat
  seen hactive hwait e he hmoment := by
    rcases List.mem_append.mp he with he | he
    · exact (h.seen_outside hbefore hactive hwait he hmoment).imp_right .inl
    · obtain rfl := List.mem_singleton.mp he
      cases hmoment
  timeout tick htick := absurd htick (hquiet tick)
  working _ e he := by
    rw [sinceDoWork_doWork] at he
    cases he
  accurate := h.accurate_concat (by simp)

/-- A reception begins. -/
theorem start (h : Watch timer control now history) {wait : UInt32} {stamp : UInt64}
    (hstamp : wait ≠ 0 → stamp = now) (hquiet : NoTimeout control')
    (hout : inDoWork control' = false) :
    Watch ⟨true, wait, stamp, false⟩ control' now (history ++ [(now, .started wait)]) where
  wait _ := latestWait_concat
  flag _ _ := iff_of_false nofun (not_messageWaits_concat (.inr (.inr ⟨wait, rfl⟩)))
  past := h.past_concat
  renewed _ hwait := hstamp hwait ▸ renewed_now rfl
  seen _ hwait e he _ := .inl (hstamp hwait ▸ h.past_concat e he)
  timeout tick htick := absurd htick (hquiet tick)
  working hwork := absurd (hout.symm.trans hwork) nofun
  accurate := h.accurate_concat (by simp)

/-- A message is received. -/
theorem receive (h : Watch timer control now history) (hbefore : NoTimeout control)
    (hquiet : NoTimeout control') (hin : inDoWork control' = true → inDoWork control = true) :
    Watch { timer with wasMessageReceived := true } control' now
      (history ++ [(now, .received)]) where
  wait hactive := latestWait_concat.trans (h.wait hactive)
  flag _ _ := iff_of_true rfl messageWaits_received
  past := h.past_concat
  renewed := h.renewed_concat
  seen hactive hwait e he hmoment := by
    rcases List.mem_append.mp he with he | he
    · exact (h.seen_outside hbefore hactive hwait he hmoment).imp_right
        fun hflag => .inl ⟨hflag.1, rfl⟩
    · obtain rfl := List.mem_singleton.mp he
      exact .inr (.inl ⟨rfl, rfl⟩)
  timeout tick htick := absurd htick (hquiet tick)
  working hwork e he := by
    rw [sinceDoWork_concat (by simp)] at he
    rcases List.mem_append.mp he with he | he
    · exact ⟨fun _ => rfl, (h.working (hin hwork) e he).2⟩
    · obtain rfl := List.mem_singleton.mp he
      exact ⟨fun _ => rfl, by simp⟩
  accurate := h.accurate_concat (by simp)

/-- The bring-up ends. -/
theorem bringUp (h : Watch timer (.uamqp .messagereceiverOpen) now history)
    (hquiet : NoTimeout control') :
    Watch { timer with lastActivityTimestamp := now } control' now
      (history ++ [(now, .opened)]) where
  wait hactive := latestWait_concat.trans (h.wait hactive)
  flag hactive hwait := (h.flag hactive hwait).trans (messageWaits_concat (.inr rfl)).symm
  past := h.past_concat
  renewed _ _ := renewed_now rfl
  seen _ _ e he _ := .inl (h.past_concat e he)
  timeout tick htick := absurd htick (hquiet tick)
  working _ e he := by
    rw [sinceDoWork_concat (by simp)] at he
    rcases List.mem_append.mp he with he | he
    · exact h.working rfl e he
    · obtain rfl := List.mem_singleton.mp he
      exact ⟨nofun, nofun⟩
  accurate := h.accurate_concat (by simp)

/-- Messages are noted. -/
theorem note (h : Watch timer control now history) :
    Watch { timer with lastActivityTimestamp := now, wasMessageReceived := false } .idle now
      (history ++ [(now, .noted)]) where
  wait hactive := latestWait_concat.trans (h.wait hactive)
  flag _ _ := iff_of_false nofun (not_messageWaits_concat (.inl rfl))
  past := h.past_concat
  renewed _ _ := renewed_now rfl
  seen _ _ e he _ := .inl (h.past_concat e he)
  timeout := nofun
  working := nofun
  accurate := h.accurate_concat (by simp)

/-- An `EventHubReceiver_LL_DoWork` ends without a timeout. -/
theorem pass (h : Watch timer control now history) (hbefore : NoTimeout control)
    (hquiet : timer.active = true → timer.waitTimeoutInMs ≠ 0 →
      timer.wasMessageReceived = false) :
    Watch { timer with wasMessageReceived := false } .idle now history where
  wait := h.wait
  flag hactive hwait := by
    rw [← h.flag hactive hwait, hquiet hactive hwait]
  past := h.past
  renewed := h.renewed
  seen hactive hwait e he hmoment := by
    rcases h.seen_outside hbefore hactive hwait he hmoment with hle | ⟨-, hflag⟩
    · exact .inl hle
    · exact absurd ((hquiet hactive hwait).symm.trans hflag) nofun
  timeout := nofun
  working := nofun
  accurate := h.accurate

/-- A timeout begins. -/
theorem fire (h : Watch timer (.uamqp (.connectionDowork true)) now history)
    (hactive : timer.active = true) (hwait : timer.waitTimeoutInMs ≠ 0)
    (hflag : timer.wasMessageReceived = false)
    (hlong : timer.waitTimeoutInMs.toUInt64 ≤ now - timer.lastActivityTimestamp) :
    Watch timer (.timeoutCb now) now (history ++ [(now, .timedOut)]) where
  wait hactive := latestWait_concat.trans (h.wait hactive)
  flag _ _ := iff_of_false (by simp [hflag]) (not_messageWaits_concat (.inr (.inl rfl)))
  past := h.past_concat
  renewed := h.renewed_concat
  seen _ _ e he _ := .inr (.inr ⟨now, rfl, h.past_concat e he⟩)
  timeout tick htick := by
    cases htick
    exact ⟨List.mem_append_right _ (List.mem_singleton.mpr rfl), h.stamp hactive hwait, hflag⟩
  working := nofun
  accurate := by
    refine h.accurate.concat fun _ => ⟨⟨_, h.wait hactive, hwait, ?_⟩, ?_, fun e he =>
      (h.working rfl e he).2⟩
    · -- every moment that matters is not after the time stamp
      intro e he hmoment
      rcases h.seen_outside nofun hactive hwait he hmoment with hle | ⟨-, hset⟩
      · have hlast := h.stamp hactive hwait
        have hpassed := (Clock.period_le_sub_iff hlast).mp hlong
        have hlastNat := UInt64.le_iff_toNat_le.mp hlast
        have hleNat := UInt64.le_iff_toNat_le.mp hle
        dsimp only
        omega
      · exact absurd (hflag.symm.trans hset) nofun
    · intro e he hreceived
      exact absurd (hflag.symm.trans ((h.working rfl e he).1 hreceived)) nofun

/-- A timeout ends. -/
theorem finish {tick : UInt64} (h : Watch timer (.timeoutCb tick) now history) :
    Watch { timer with lastActivityTimestamp := tick, wasMessageReceived := false } .idle now
      history where
  wait := h.wait
  flag hactive hwait := by
    rw [← h.flag hactive hwait, (h.timeout tick rfl).2.2]
  past := h.past
  renewed _ _ := ⟨(tick, .timedOut), (h.timeout tick rfl).1, rfl, rfl⟩
  seen hactive hwait e he hmoment := by
    obtain ⟨-, hlast, hflag⟩ := h.timeout tick rfl
    rcases h.seen hactive hwait e he hmoment with hle | ⟨-, hset⟩ | ⟨_, ⟨⟩, hle⟩
    · exact .inl (UInt64.le_trans hle hlast)
    · exact absurd (hflag.symm.trans hset) nofun
    · exact .inl hle
  timeout := nofun
  working := nofun
  accurate := h.accurate

/-- What a step keeps of what is watched, at the time of its input. -/
theorem ticked (h : Watch (EventHubReceiverLL.timer s.client) s.control now history)
    (hreg : RegistrationInv s) {m : Option Moment}
    (hmeets : NotesMessage ⟨s, now, history⟩ (now, i)) (hticked : Ticked s i now t m) :
    Watch (EventHubReceiverLL.timer t.client) t.control now
      (history ++ m.toList.map fun m => (now, m)) := by
  cases hticked with
  | kept hkeep hcontrol =>
    rw [hkeep.eq]
    rcases hcontrol with hcontrol | ⟨hbefore, hquiet, hin⟩
    · simpa [hcontrol] using h
    · simpa using h.move hbefore hquiet hin
  | stopped hstopped hquiet hout =>
    simpa using h.stop hstopped hquiet (by simp [hout])
  | began htimer hidle hquiet =>
    have hbegun := h.begin (hidle ▸ nofun) hquiet
    rcases htimer with hkeep | hstopped
    · exact hkeep.eq ▸ hbegun
    · exact hbegun.stop hstopped hquiet fun _ => sinceDoWork_doWork
  | started htimer hstamp hquiet hout =>
    rw [htimer]
    exact h.start hstamp hquiet hout
  | received htimer hbefore hquiet hin =>
    rw [htimer]
    exact h.receive hbefore hquiet hin
  | opened hcall hwait htimer hquiet =>
    rw [htimer]
    rw [hcall] at h
    exact h.bringUp hquiet
  | noted hwait htimer hidle =>
    rw [htimer, hidle]
    exact h.note
  | passed hcall hquiet htimer hidle =>
    rw [htimer, hidle]
    refine (List.append_nil history).symm ▸ h.pass (hcall ▸ nofun) fun hactive hwait => ?_
    rcases hquiet with hzero | hclear | ⟨ok, env, rfl, hunread⟩
    · exact absurd hzero hwait
    · exact hclear
    · -- the tick could not be read, so no message waits
      by_contra hset
      have hlatest : latestWait history ≠ some 0 := by
        rw [h.wait hactive]
        simpa using hwait
      have hread := hmeets hcall hlatest ((h.flag hactive hwait).mp (by simpa using hset))
      rw [hunread] at hread
      cases hread
  | fired hcall hwait hflag hlong hkeep htimeout =>
    rw [hkeep.eq, htimeout]
    rw [hcall] at h
    have hactive : (EventHubReceiverLL.timer s.client).active = true := by
      simpa [timer] using hreg.active (by rw [hcall]; rfl)
    exact h.fire hactive hwait hflag hlong
  | returned htimeout htimer hidle =>
    rw [htimer, hidle]
    rw [htimeout] at h
    exact (List.append_nil history).symm ▸ h.finish

end Watch

/-- What holds of a receiver against a clock. -/
structure TimerInv (s : TimedState σ) : Prop where
  registration : RegistrationInv s.receiver
  watch : Watch (timer s.receiver.client) s.receiver.control s.now s.history

/-- A step of the receiver at a time that is not before the present one. -/
theorem timedStep_eq {s t : TimedState σ} {x : UInt64 × ReceiverInput ι}
    (hstep : timedStep auth s x = some t) :
    s.now ≤ x.1 ∧ (∀ tick ∈ tick? x.2, tick = x.1) ∧
      step auth s.receiver x.2 = some t.receiver ∧ t.now = x.1 ∧
      t.history = s.history ++
        (moments s.history s.receiver x.2 t.receiver).map fun m => (x.1, m) := by
  unfold timedStep at hstep
  split_ifs at hstep with hclock
  obtain ⟨u, hu, rfl⟩ := Option.map_eq_some_iff.mp hstep
  have htick : ∀ tick ∈ tick? x.2, tick = x.1 := by
    simpa [Option.all_eq_true] using hclock.2
  exact ⟨hclock.1, htick, hu, rfl, rfl⟩

theorem timedStep_of_step {s : TimedState σ} {u : ReceiverState σ} (hle : s.now ≤ now)
    (htick : ∀ tick ∈ tick? i, tick = now) (hstep : step auth s.receiver i = some u) :
    (timedMachine auth).step s (now, i) = some
      { receiver := u
        now := now
        history := s.history ++ (moments s.history s.receiver i u).map fun m => (now, m) } :=
  (if_pos ⟨hle, by simpa [Option.all_eq_true] using htick⟩).trans (by rw [hstep]; rfl)

theorem timedStep_inv {s t : TimedState σ} {x : UInt64 × ReceiverInput ι} (hs : TimerInv s)
    (hmeets : NotesMessage s x) (hstep : timedStep auth s x = some t) : TimerInv t := by
  obtain ⟨hle, htick, hreceiver, hnow, hhistory⟩ := timedStep_eq auth hstep
  obtain ⟨m, hmoments, hticked⟩ := step_ticked auth hs.registration hs.watch.toTells hreceiver htick
  refine ⟨step_registrationInv auth hs.registration hreceiver, ?_⟩
  rw [hnow, hhistory, hmoments]
  exact (hs.watch.mono hle).ticked hs.registration hmeets hticked

theorem created_timerInv {c : EventHubReceiverLL σ} (hc : Created c) :
    TimerInv { receiver := { client := c } } := by
  refine ⟨created_registrationInv hc, ?_⟩
  have hstopped : (timer c).active = false := by cases hc <;> rfl
  exact {
    wait := fun hactive => absurd (hstopped.symm.trans hactive) nofun
    flag := fun hactive => absurd (hstopped.symm.trans hactive) nofun
    past := nofun
    renewed := fun hactive => absurd (hstopped.symm.trans hactive) nofun
    seen := fun _ _ => nofun
    timeout := nofun
    working := nofun
    accurate := .nil }

theorem run_timerInv {c : EventHubReceiverLL σ} (hc : Created c)
    {is : List (UInt64 × ReceiverInput ι)} {t : TimedState σ}
    (hmeets : (timedMachine auth).Meets NotesMessage { receiver := { client := c } } is)
    (hrun : (timedMachine auth).run { receiver := { client := c } } is = some t) : TimerInv t := by
  have hstep : ∀ s x t, TimerInv s → NotesMessage s x → (timedMachine auth).step s x = some t →
      TimerInv t := fun _ _ _ hs hx h => timedStep_inv auth hs hx h
  exact Machine.run_invariant_of_meets hstep (created_timerInv hc) hmeets hrun

/-- The end of an `EventHubReceiver_LL_DoWork` without a message, after the timeout. -/
theorem handleTimeouts_due {callback : UserCallback}
    (hcb : s.client.callback.onEventReceiveCallback = some callback)
    (hwait : s.client.waitTimeoutInMs ≠ 0) (hflag : s.client.callback.wasMessageReceived = false)
    (hlong : s.client.waitTimeoutInMs.toUInt64 ≤ now - s.client.lastActivityTimestamp) :
    handleTimeouts s (some now) =
      { s with control := .timeoutCb now, log := s.log ++ [.timedOut callback] } := by
  unfold handleTimeouts
  rw [if_neg hwait]
  dsimp only
  rw [if_neg (by simp [hflag]), if_pos hlong, hcb]

/-- A timeout that is due happens, when the tick can be read. -/
theorem TimerInv.due {s : TimedState σ} (hs : TimerInv s) (hdue : Due s now) {ok : Bool}
    {env : ReceiverEnv ι} (hread : env.tick = some now) :
    ∃ callback t, s.receiver.client.callback.onEventReceiveCallback = some callback ∧
      (timedMachine auth).step s (now, .uamqpReturn ok env) = some t ∧
      t.receiver.log = s.receiver.log ++ [.timedOut callback] := by
  obtain ⟨hcall, hforward, ⟨wait, hlatest, hwait, hpassed⟩, hquiet⟩ := hdue
  have hbusy : s.receiver.control.busy = true := by rw [hcall]; rfl
  have hactive : (timer s.receiver.client).active = true := by
    simpa [timer] using hs.registration.active hbusy
  obtain rfl : wait = s.receiver.client.waitTimeoutInMs :=
    Option.some.inj (hlatest.symm.trans (hs.watch.wait hactive))
  obtain ⟨callback, hcb⟩ := Option.ne_none_iff_exists'.mp (hs.registration.receive_ne_none hbusy)
  have hflag : s.receiver.client.callback.wasMessageReceived = false := by
    by_contra hset
    exact hquiet ((hs.watch.flag hactive hwait).mp (by simpa [timer] using hset))
  -- the time stamp is one of the moments that renew the last activity
  obtain ⟨e, he, hrenews, htime⟩ := hs.watch.renewed hactive hwait
  have hstamp : s.receiver.client.lastActivityTimestamp.toNat +
      s.receiver.client.waitTimeoutInMs.toNat ≤ now.toNat := by
    have hrenewed := hpassed e he hrenews
    rwa [htime] at hrenewed
  have hlast : s.receiver.client.lastActivityTimestamp ≤ now :=
    UInt64.le_iff_toNat_le.mpr (Nat.le_of_add_right_le hstamp)
  have hlong := (Clock.period_le_sub_iff hlast).mpr (Nat.le_sub_of_add_le' hstamp)
  have hstep : step auth s.receiver (.uamqpReturn ok env) = some { s.receiver with
      control := .timeoutCb now
      log := s.receiver.log ++ [.timedOut callback] } := by
    have hreturn : step auth s.receiver (.uamqpReturn ok env) =
        some (handleTimeouts s.receiver env.tick) := by
      simp only [step, hcall]
      rfl
    rw [hreturn, hread, handleTimeouts_due hcb hwait hflag hlong]
  exact ⟨callback, _, hcb,
    timedStep_of_step auth hforward (by simp [tick?, hread]) hstep, rfl⟩

/-- In every run against a clock in which the end of an `EventHubReceiver_LL_DoWork` that finds a
message can read the tick, every timeout is accurate, and a timeout that is due happens when the
tick can be read. -/
theorem run_timeouts_accurate {c : EventHubReceiverLL σ} (hc : Created c)
    {is : List (UInt64 × ReceiverInput ι)} {t : TimedState σ}
    (hmeets : (timedMachine auth).Meets NotesMessage { receiver := { client := c } } is)
    (hrun : (timedMachine auth).run { receiver := { client := c } } is = some t) :
    Chronicle (fun past e => e.2 = .timedOut → Accurate past e.1) t.history ∧
    ∀ now, Due t now → ∀ ok env, env.tick = some now →
      ∃ callback u, t.receiver.client.callback.onEventReceiveCallback = some callback ∧
        (timedMachine auth).step t (now, .uamqpReturn ok env) = some u ∧
        u.receiver.log = t.receiver.log ++ [.timedOut callback] := by
  have ht := run_timerInv auth hc hmeets hrun
  exact ⟨ht.watch.accurate, fun now hdue ok env hread => ht.due auth hdue hread⟩

/-- `workAt`, with a tick in milliseconds. -/
def pollAt (now : UInt64) : ReceiverEnv AuthEnv := { workAt now with tick := some now }

/-- A reception with a timeout of 1000 ms that starts at 0 and receives a message at 900, where the
end of the `EventHubReceiver_LL_DoWork` reads `tick`. -/
def receivedAt900 (tick : Option UInt64) : List (UInt64 × ReceiverInput AuthEnv) :=
  [(0, .receiveFromStartTimestampWithTimeoutAsync (some ⟨1, none⟩) (some ⟨2, none⟩) 0 1000 {}),
    (1, .doWork (pollAt 1)), (1, .onCBSPutTokenOperationComplete .ok {}),
    (1, .uamqpReturn true (pollAt 1)), (2, .doWork (pollAt 2)), (3, .doWork (pollAt 3)),
    (3, .uamqpReturn true (pollAt 3)), (3, .uamqpReturn true (pollAt 3)),
    (900, .doWork (pollAt 900)), (900, .onMessageReceived { bodyData := some [7] } {}),
    (900, .callbackReturn), (900, .uamqpReturn true { pollAt 900 with tick })]

/-- With the message noted at 900, the timeout is due at 1900. -/
theorem run_timeouts_accurate_due :
    ∃ t, (timedMachine (EventHubAuthCBS.authModule fun _ => none)).run
        { receiver := {
            client := createdFromConnectionString "host" "hub" "name" "key" "group" "0" } }
        (receivedAt900 (some 900) ++ [(1900, .doWork (pollAt 1900))]) = some t ∧
      Due t 1900 ∧
      ∃ callback u, t.receiver.client.callback.onEventReceiveCallback = some callback ∧
        (timedMachine (EventHubAuthCBS.authModule fun _ => none)).step t
          (1900, .uamqpReturn true (pollAt 1900)) = some u ∧
        u.receiver.log = t.receiver.log ++ [.timedOut callback] := by
  have hdue : ∀ t, (timedMachine (EventHubAuthCBS.authModule fun _ => none)).run
        { receiver := {
            client := createdFromConnectionString "host" "hub" "name" "key" "group" "0" } }
        (receivedAt900 (some 900) ++ [(1900, .doWork (pollAt 1900))]) = some t → Due t 1900 := by
    rintro t ⟨⟩
    exact ⟨rfl, by decide, ⟨1000, rfl, by decide, by decide⟩, by decide⟩
  refine ⟨_, rfl, hdue _ rfl, ?_⟩
  exact (@run_timeouts_accurate _ _ (EventHubAuthCBS.authModule fun _ => none) _
    (.fromConnectionString "host" "hub" "name" "key" "group" "0")
    (receivedAt900 (some 900) ++ [(1900, .doWork (pollAt 1900))]) _ (by decide) rfl).2 1900
    (hdue _ rfl) true (pollAt 1900) rfl

/-- Without the tick the message at 900 is forgotten, and the timeout comes at 1003. -/
theorem run_timeouts_inaccurate :
    ∃ t, (timedMachine (EventHubAuthCBS.authModule fun _ => none)).run
        { receiver := {
            client := createdFromConnectionString "host" "hub" "name" "key" "group" "0" } }
        (receivedAt900 none ++ [(1003, .doWork (pollAt 1003)),
          (1003, .uamqpReturn true (pollAt 1003))]) = some t ∧
      (900, Moment.received) ∈ t.history ∧ (1003, Moment.timedOut) ∈ t.history ∧
      ¬ Chronicle (fun past e => e.2 = .timedOut → Accurate past e.1) t.history := by
  refine ⟨_, rfl, by decide, by decide, fun hlaw => ?_⟩
  obtain ⟨⟨wait, hwait, -, hdistance⟩, -, -⟩ := hlaw
    [(0, .started 1000), (1, .doWork), (2, .doWork), (3, .doWork), (3, .opened), (900, .doWork),
      (900, .received), (1003, .doWork)] (1003, .timedOut) ⟨[(1003, .noted)], rfl⟩ rfl
  obtain rfl : 1000 = wait := Option.some.inj hwait
  exact absurd (hdistance (900, .received) (by decide) rfl) (by decide)

end EventHubReceiverLL

end EventHubs
