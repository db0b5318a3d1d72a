import EventHubs.Auth.PutTime
import EventHubs.Library.Clock
import EventHubs.Receiver.Timeout
import EventHubs.Receiver.Turn

/-!
# The authorisation timeout of a reception

A receive call with a wait timeout arms the timeout of the token puts of its reception. The wait
timeout counts in milliseconds, and `EventHubAMQP_InitializeStackCommon` divides it by 1000 before
it is given to the auth handle, which takes zero for a put without timeout. So a wait timeout below
one second disarms the timeout that it asks for.

## Main definitions

* `EventHubReceiverLL.patience` — the seconds after which an outstanding put is late.
* `EventHubReceiverLL.Overdue` — the outstanding put is late.
* `EventHubReceiverLL.GivesUp` — what is done about a late put.

## Main results

* `EventHubReceiverLL.run_timed` — the timeout of every auth handle of a reception.
* `EventHubReceiverLL.run_givesUp_iff`.
* `EventHubReceiverLL.run_waits_forever` — a lost put of a reception that waits for 500 ms.
-/

namespace EventHubs.EventHubReceiverLL

open ReceiverState EventHubAuthCBS

/-- The seconds after which an outstanding put is late: the wait timeout, rounded up, and at least
one. -/
def patience (waitTimeoutInMs : UInt32) : ℕ := max ((waitTimeoutInMs.toNat + 999) / 1000) 1

/-- At the second `now` a put has been outstanding for so long. -/
def Overdue (waitTimeoutInMs : UInt32) (s : ReceiverState EventHubAuthCBSStruct) (now : UInt64) :
    Prop :=
  ∃ p, (tokenView s.tokenLog).outstanding = some p ∧
    p.now.toNat + patience waitTimeoutInMs ≤ now.toNat

/-- `EventHubReceiver_LL_DoWork` asks for the status of the authentication first. -/
def asksStatus {σ : Type} (c : EventHubReceiverLL σ) : Bool :=
  c.state = .active && (c.receiverAMQPConnectionState = .pendingAuthorization ||
    c.receiverAMQPConnectionState = .initialized)

/-- The auth handle `a` has a put timeout unless the wait timeout is zero, reports a late put as
`EVENTHUBAUTH_STATUS_TIMEOUT`, and the `EventHubReceiver_LL_DoWork` that sees this calls the error
callback. -/
structure GivesUp (parse : String → Option (String × UInt64)) (waitTimeoutInMs : UInt32)
    (a : EventHubAuthCBSStruct) (s : ReceiverState EventHubAuthCBSStruct) : Prop where
  armed : waitTimeoutInMs ≠ 0 → 1 ≤ a.sasTokenAuthFailureTimeoutInSecs
  reported : waitTimeoutInMs ≠ 0 → ∀ env now, env.statusNow = some now →
    Overdue waitTimeoutInMs s now → (getStatus a env).value = (.ok, .timeout)
  raised : waitTimeoutInMs ≠ 0 → asksStatus s.client = true → ∀ env now t,
    env.status.statusNow = some now → Overdue waitTimeoutInMs s now →
    step (authModule parse) s (.doWork env) = some t →
    ∃ callback, s.client.callback.onEventReceiveErrorCallback = some callback ∧
      t.control = .errorCb .teardown ∧
      t.log = s.log ++ [.doWork, .passed .eventHubAuthCBSGetStatus false,
        .auth (.status (some now) .ok .timeout), .errorRaised callback .sasTokenAuthTimeout]
  disarmed : waitTimeoutInMs = 0 → ∀ now, checkPutTimeoutStatus a now = false

variable {parse : String → Option (String × UInt64)} {s t u : ReceiverState EventHubAuthCBSStruct}
  {a : EventHubAuthCBSStruct} {i : ReceiverInput AuthEnv} {wait : UInt32}

/-! ### The timeout of the handle -/

/-- A receive call that returns OK sets the wait timeout of a receiver without auth handle. -/
theorem startsReception_anew (hs : RegistrationInv s) (hstart : startsReception s i = true)
    (hstep : step (authModule parse) s i = some u) :
    u.client.waitTimeoutInMs = waitOf i ∧ u.client.cbsHandle = none := by
  cases i with
  | receiveFromStartTimestampAsync onReceive onError timestamp env =>
    obtain ⟨-, ⟨⟩⟩ := Option.ite_none_right_eq_some.mp hstep
    have hanew := hs.anew (Prod.ext (of_decide_eq_true hstart) rfl)
    exact ⟨hanew.waitTimeoutInMs, hanew.cbsHandle⟩
  | receiveFromStartTimestampWithTimeoutAsync onReceive onError timestamp timeout env =>
    obtain ⟨-, ⟨⟩⟩ := Option.ite_none_right_eq_some.mp hstep
    have hanew := hs.anew (Prod.ext (of_decide_eq_true hstart) rfl)
    exact ⟨hanew.waitTimeoutInMs, hanew.cbsHandle⟩
  | _ => cases hstart

/-- A reception that is there has the wait timeout, and so has its auth handle. -/
def Waits (wait : UInt32) (c : EventHubReceiverLL EventHubAuthCBSStruct) : Prop :=
  Timed c ∧ (c.state ≠ .inactive → c.waitTimeoutInMs = wait)

theorem step_waits (hs : Waits wait s.client) (hstart : startsReception s i = false)
    (hstep : step (authModule parse) s i = some t) : Waits wait t.client := by
  rcases step_turn hstep with hturn | ⟨token, env, -, rfl⟩ | ⟨hnew, -⟩
  · refine ⟨hturn.timed hs.1, fun ht => ?_⟩
    obtain ⟨hstate, hwait⟩ := hturn.reception ht
    exact hwait.trans (hs.2 hstate)
  · rcases refreshSASTokenAsync_cases s token env with
      ⟨r, -, heq⟩ | ⟨text, config, cfg, -, -, -, -, -, -, heq⟩
    · exact heq ▸ hs
    · exact heq ▸ ⟨hs.1.congr rfl rfl, hs.2⟩
  · simp [hstart] at hnew

/-- While no other reception starts, every auth handle has the wait timeout in whole seconds. -/
theorem run_timed (hs : RegistrationInv s) (hstart : startsReception s i = true)
    (hstep : step (authModule parse) s i = some u) {js : List (ReceiverInput AuthEnv)}
    (hsame : (receiverMachine (authModule parse)).Meets (fun s j => startsReception s j = false)
      u js)
    (hrun : (receiverMachine (authModule parse)).run u js = some t)
    (ha : t.client.cbsHandle = some a) :
    a.sasTokenAuthFailureTimeoutInSecs = waitOf i / 1000 := by
  obtain ⟨hwait, hnone⟩ := startsReception_anew hs hstart hstep
  have hpres : ∀ s j t, Waits (waitOf i) s.client → startsReception s j = false →
      (receiverMachine (authModule parse)).step s j = some t → Waits (waitOf i) t.client :=
    fun _ _ _ hs hj h => step_waits hs hj h
  have ht := Machine.run_invariant_of_meets hpres ⟨.of_none hnone, fun _ => hwait⟩ hsame hrun
  have hinv : RegistrationInv t :=
    Machine.run_invariant (P := RegistrationInv)
      (fun _ _ _ hs h => step_registrationInv (authModule parse) hs h)
      (step_registrationInv (authModule parse) hs hstep) hrun
  have hactive : t.client.state ≠ .inactive := fun hinactive => by
    cases (hinv.cleared hinactive).cbsHandle.symm.trans ha
  rw [ht.1 a ha, waitTimeInSecs, ht.2 hactive]

/-- The whole seconds of a wait timeout are zero when it is below one second. -/
theorem one_le_seconds_iff : 1 ≤ wait / 1000 ↔ 1000 ≤ wait := by
  rw [UInt32.le_iff_toNat_le, UInt32.le_iff_toNat_le, UInt32.toNat_div]
  exact Nat.one_le_div_iff (by decide)

/-! ### What is done about a late put -/

/-- A put that is late for the wait timeout is late for the handle. -/
theorem checkPutTimeoutStatus_of_overdue
    (hseconds : a.sasTokenAuthFailureTimeoutInSecs = wait / 1000) (hwait : 1000 ≤ wait)
    {now : UInt64} (hlate : a.sasTokenPutTime.toNat + patience wait ≤ now.toNat) :
    checkPutTimeoutStatus a now = true := by
  have hpositive : 0 < a.sasTokenAuthFailureTimeoutInSecs := by
    have hone := one_le_seconds_iff.mpr hwait
    rw [← hseconds, UInt32.le_iff_toNat_le] at hone
    exact UInt32.lt_iff_toNat_lt.mpr hone
  have hle : a.sasTokenPutTime ≤ now := UInt64.le_iff_toNat_le.mpr (by omega)
  have hnat : a.sasTokenAuthFailureTimeoutInSecs.toNat = wait.toNat / 1000 := by
    rw [hseconds, UInt32.toNat_div]
    rfl
  rw [checkPutTimeoutStatus, if_pos hpositive, decide_eq_true_eq, Clock.period_le_sub_iff hle, hnat]
  unfold patience at hlate
  omega

theorem getStatus_of_timeout (h : a.cbsStatus = .timeout) (env : AuthEnv) :
    (getStatus a env).value = (.ok, .timeout) := by
  simp [getStatus, updateEventHubAuthACBSStatus, checksToken, checksPut, h]

/-- A put that has run out of time is reported, and the handle remembers it. -/
theorem getStatus_of_late (hprogress : a.cbsStatus = .inProgress) (hput : a.cbOperation = .put)
    {env : AuthEnv} {now : UInt64} (hnow : env.statusNow = some now)
    (hlate : checkPutTimeoutStatus a now = true) :
    getStatus a env =
      ⟨(.ok, .timeout), { a with cbsStatus := .timeout }, [.status (some now) .ok .timeout]⟩ := by
  have hupdate : updateEventHubAuthACBSStatus a env.statusNow =
      (true, { a with cbsStatus := .timeout }) := by
    simp [updateEventHubAuthACBSStatus, checksToken, checksPut, hprogress, hput, hnow, hlate]
  rw [getStatus, hupdate]
  simp [checksToken, checksPut, hprogress, hput, hnow]

/-- The `EventHubReceiver_LL_DoWork` that sees a late put. -/
theorem doWork_of_timeout (ha : s.client.cbsHandle = some a) (hasks : asksStatus s.client = true)
    {env : ReceiverEnv AuthEnv} {b : EventHubAuthCBSStruct} {events : List AuthEvent}
    (hstatus : getStatus a env.status = ⟨(.ok, .timeout), b, events⟩) {callback : UserCallback}
    (hcb : s.client.callback.onEventReceiveErrorCallback = some callback) :
    (doWork (authModule parse) s env).control = .errorCb .teardown ∧
      (doWork (authModule parse) s env).log = s.log ++ [.doWork] ++
        [.passed .eventHubAuthCBSGetStatus false] ++ events.map .auth ++
        [.errorRaised callback .sasTokenAuthTimeout] := by
  have hactive : s.client.state = .active ∧
      (s.client.receiverAMQPConnectionState = .pendingAuthorization ∨
        s.client.receiverAMQPConnectionState = .initialized) := by
    simpa [asksStatus] using hasks
  have hwork : doWork (authModule parse) s env =
      doWorkInitialized (authModule parse) (s.emit [.doWork]) env := by
    have hstate : (s.emit [.doWork]).client.state = .active := hactive.1
    unfold doWork doWorkActive
    simp only [hstate]
    rcases hactive.2 with h | h <;>
      simp only [show (s.emit [.doWork]).client.receiverAMQPConnectionState = _ from h]
  have hhandle : (s.emit [.doWork]).client.cbsHandle = some a := ha
  have hauth : handleSASTokenAuth (authModule parse) (s.emit [.doWork]) env =
      (((s.emit [.doWork]).passCBS .eventHubAuthCBSGetStatus).answer
        (getStatus a env.status), .timeout) := by
    unfold handleSASTokenAuth
    simp only [hhandle, authModule, hstatus]
    rfl
  rw [hwork, doWorkInitialized, hauth]
  simp only [afterAuth, raise, ReceiverState.answer, passCBS, emit, hcb, ha, hstatus]
  exact ⟨trivial, rfl⟩

/-! ### Runs -/

/-- In every run each auth handle of a reception gives up a late put, exactly when the reception
was started without wait timeout or with one of a second or more. -/
theorem run_givesUp_iff {c : EventHubReceiverLL EventHubAuthCBSStruct} (hc : Created c)
    {is js : List (ReceiverInput AuthEnv)}
    (hrun : (receiverMachine (authModule parse)).run { client := c } is = some s)
    (hstart : startsReception s i = true)
    (hstep : (receiverMachine (authModule parse)).step s i = some u)
    (hsame : (receiverMachine (authModule parse)).Meets (fun s j => startsReception s j = false)
      u js)
    (hrun' : (receiverMachine (authModule parse)).run u js = some t)
    (ha : t.client.cbsHandle = some a) :
    GivesUp parse (waitOf i) a t ↔ waitOf i = 0 ∨ 1000 ≤ waitOf i := by
  have hseconds := run_timed (run_registrationInv _ hc hrun) hstart hstep hsame hrun' ha
  have hall : (receiverMachine (authModule parse)).run { client := c } ((is ++ [i]) ++ js) =
      some t := by
    rw [Machine.run_append, Machine.run_concat_of_step _ hrun hstep]
    exact hrun'
  have hinv := run_registrationInv _ hc hall
  have hfollows : Follows parse (fun _ => True) (!t.control.steady) t :=
    run_follows hc (.inl fun _ => trivial) hall
  constructor
  · intro h
    rw [or_iff_not_imp_left]
    exact fun hne => one_le_seconds_iff.mp (hseconds ▸ h.armed hne)
  intro hwait
  have hlong : waitOf i ≠ 0 → 1000 ≤ waitOf i := fun hne => hwait.resolve_left hne
  have hpending : ∀ p, (tokenView t.tokenLog).outstanding = some p → a.cbsStatus = .timeout ∨
      a.cbsStatus = .inProgress ∧ a.sasTokenPutTime = p.now :=
    fun p hp => TokenSession.Steps.pending hfollows.steps a p ha hp
  have harmed : a.cbsStatus = .inProgress → a.cbOperation = .put :=
    hfollows.toReached.exclusive.armed a ha
  refine ⟨fun hne => ?_, fun hne env now hnow hlate => ?_,
    fun hne hasks env now v hnow hlate hv => ?_, fun hzero now => ?_⟩
  · rw [hseconds]
    exact one_le_seconds_iff.mpr (hlong hne)
  · obtain ⟨p, hp, hnows⟩ := hlate
    rcases hpending p hp with htimeout | ⟨hprogress, htime⟩
    · exact getStatus_of_timeout htimeout env
    · have hcheck := checkPutTimeoutStatus_of_overdue hseconds (hlong hne) (htime ▸ hnows)
      rw [getStatus_of_late hprogress (harmed hprogress) hnow hcheck]
  · cases step_move _ hv with
    | receiveAsync _ _ _ _ _ _ hi => cases hi
    | doWork _ hidle _ =>
      obtain ⟨p, hp, hnows⟩ := hlate
      -- between calls no put has been given up
      have hsettled := hfollows.toReached.exclusive.settled (by rw [hidle]; rfl) a ha
      obtain ⟨hprogress, htime⟩ := (hpending p hp).resolve_left hsettled.lasting.2
      have hcheck := checkPutTimeoutStatus_of_overdue hseconds (hlong hne) (htime ▸ hnows)
      have hstatus := getStatus_of_late hprogress (harmed hprogress) hnow hcheck
      have hactive : t.client.state ≠ .inactive := fun hinactive => by
        cases (hinv.cleared hinactive).cbsHandle.symm.trans ha
      obtain ⟨callback, hcb⟩ :=
        Option.isSome_iff_exists.mp (hinv.registered hactive).onEventReceiveErrorCallback
      obtain ⟨hcontrol, hlog⟩ := @doWork_of_timeout parse _ _ ha hasks env _ _ hstatus _ hcb
      exact ⟨callback, hcb, hcontrol, by simpa using hlog⟩
  · rw [checkPutTimeoutStatus, hseconds, hzero]
    rfl

/-- A receiver for partition 0 of a hub. -/
def partition0 : EventHubReceiverLL EventHubAuthCBSStruct :=
  createdFromConnectionString "host" "hub" "name" "key" "group" "0"

/-- A receive call with this wait timeout. -/
def receiveWithin (waitTimeoutInMs : UInt32) : ReceiverInput AuthEnv :=
  .receiveFromStartTimestampWithTimeoutAsync (some ⟨1, none⟩) (some ⟨2, none⟩) 0 waitTimeoutInMs {}

/-- The token is put at the second 1, and `connection_dowork` does not complete it. -/
def putLost : List (ReceiverInput AuthEnv) :=
  [.doWork (workAt 1), .uamqpReturn true (workAt 1)]

/-- A lost put of a reception that waits for a second. -/
theorem run_givesUp_iff_second :
    ∃ u t a, (receiverMachine (authModule fun _ => none)).step { client := partition0 }
        (receiveWithin 1000) = some u ∧
      (receiverMachine (authModule fun _ => none)).run u putLost = some t ∧
      t.client.cbsHandle = some a ∧ Overdue 1000 t 2 ∧ GivesUp (fun _ => none) 1000 a t := by
  refine ⟨_, _, _, rfl, rfl, rfl, ⟨_, rfl, by decide⟩, ?_⟩
  have hcreated : Created partition0 := .fromConnectionString _ _ _ _ _ _
  have hrun : (receiverMachine (authModule fun _ => none)).run { client := partition0 } [] =
      some { client := partition0 } := rfl
  refine (@run_givesUp_iff _ _ _ _ _ (receiveWithin 1000) _ hcreated _ putLost hrun ?_ rfl ?_ rfl
    rfl).mpr ?_
  · decide
  · exact ⟨rfl, fun _ _ => ⟨rfl, fun _ _ => trivial⟩⟩
  · exact .inr (by decide)

/-- A lost put of a reception that waits for 500 ms: at the second 1000000 the put of the second 1
is still in progress, and `EventHubReceiver_LL_DoWork` goes on to wait for it. -/
theorem run_waits_forever :
    ∃ u t a v, startsReception { client := partition0 } (receiveWithin 500) = true ∧
      (receiverMachine (authModule fun _ => none)).step { client := partition0 }
        (receiveWithin 500) = some u ∧
      (receiverMachine (authModule fun _ => none)).run u putLost = some t ∧
      t.client.cbsHandle = some a ∧ a.sasTokenAuthFailureTimeoutInSecs = 0 ∧
      Overdue 500 t 1000000 ∧ asksStatus t.client = true ∧
      (getStatus a { statusNow := some 1000000 }).value = (.ok, .inProgress) ∧
      (receiverMachine (authModule fun _ => none)).step t (.doWork (workAt 1000000)) = some v ∧
      v.control = .uamqp (.connectionDowork false) ∧ ¬ GivesUp (fun _ => none) 500 a t := by
  refine ⟨_, _, _, _, by decide, rfl, rfl, rfl, rfl, ⟨_, rfl, by decide⟩, rfl, rfl, rfl, rfl, ?_⟩
  exact fun h => absurd (h.armed (by decide)) (by decide)

end EventHubs.EventHubReceiverLL
