import EventHubs.Receiver.Registration

/-!
# Who ends a reception

A reception that the user has started and not ended stays as it was registered, through failing
bring-ups, errors of the connection and refused calls. The exception is the tear-down of an
`EventHubReceiver_LL_DoWork` whose authentication has failed or timed out: it goes through the
function that ends a reception for the user, and so ends this one too. The invariant therefore
asks that the state is not `RECEIVER_STATE_ACTIVE` when that tear-down resets the receiver.

## Main definitions

* `EventHubReceiverLL.resetsReception` — the steps that end such a tear-down.
* `EventHubReceiverLL.userEnds` — the steps by which the user ends a reception.
* `EventHubReceiverLL.SameReception`, `EventHubReceiverLL.Ongoing` — the invariant.

## Main results

* `EventHubReceiverLL.step_ongoing`, `EventHubReceiverLL.run_keeps_reception`.
-/

namespace EventHubs

/-- Control stands in a tear-down that the user has asked for. -/
def ReceiverControl.ending (c : ReceiverControl) : Bool :=
  c.call = some (.messagereceiverDestroy (.teardown .endReception)) ||
    c.call = some (.messagereceiverDestroy (.teardown .destroy))

theorem ReceiverControl.not_ending_of_working {c : ReceiverControl} (h : c.working = true) :
    c.ending = false := by
  unfold ReceiverControl.working at h
  split at h <;> first | rfl | cases h

theorem ReceiverControl.not_ending_of_quiet {c : ReceiverControl} (h : c.busy = false) :
    c.ending = false := by
  cases c <;> first | rfl | cases h

namespace EventHubReceiverLL

variable {σ ι : Type} (auth : AuthModule σ ι)

open ReceiverState

/-- The step finishes the tear-down of an `EventHubReceiver_LL_DoWork` whose authentication has
failed or timed out. -/
def resetsReception (s : ReceiverState σ) : ReceiverInput ι → Bool
  | .callbackReturn => s.control = .errorCb .teardown && (s.client.stack .messageReceiver).isNone
  | .uamqpReturn _ _ => s.control = .uamqp (.messagereceiverDestroy (.teardown .resetReception))
  | _ => false

/-- No such tear-down finds the reception active. -/
def Spares (s : ReceiverState σ) (i : ReceiverInput ι) : Prop :=
  resetsReception s i = true → s.client.state ≠ .active

instance (s : ReceiverState σ) (i : ReceiverInput ι) : Decidable (Spares s i) :=
  inferInstanceAs (Decidable (_ → _))

/-- The user ends the reception: `EventHubReceiver_LL_ReceiveEndAsync` returns OK, or the receiver
is destroyed. -/
def userEnds (s : ReceiverState σ) : ReceiverInput ι → Bool
  | .receiveEndAsync onEnd => (receiveEndAsync s onEnd).1 = .ok
  | .destroy => true
  | _ => false

/-- The state, the callbacks, the filter, the time stamp and the timeout are the same. -/
structure SameReception (c d : EventHubReceiverLL σ) : Prop where
  state : d.state = c.state
  onEventReceiveCallback : d.callback.onEventReceiveCallback = c.callback.onEventReceiveCallback
  onEventReceiveErrorCallback :
    d.callback.onEventReceiveErrorCallback = c.callback.onEventReceiveErrorCallback
  receiverQueryFilter : d.receiverQueryFilter = c.receiverQueryFilter
  startTimestamp : d.startTimestamp = c.startTimestamp
  waitTimeoutInMs : d.waitTimeoutInMs = c.waitTimeoutInMs

/-- The reception that `c` holds is active, and nobody takes it down. -/
structure Ongoing (c : EventHubReceiverLL σ) (s : ReceiverState σ) : Prop where
  same : SameReception c s.client
  active : s.client.state = .active
  control : s.control.ending = false

variable {c : EventHubReceiverLL σ} {s t : ReceiverState σ}

theorem SameReception.trans {c d e : EventHubReceiverLL σ} (h : SameReception c d)
    (h' : SameReception d e) : SameReception c e where
  state := h'.state.trans h.state
  onEventReceiveCallback := h'.onEventReceiveCallback.trans h.onEventReceiveCallback
  onEventReceiveErrorCallback := h'.onEventReceiveErrorCallback.trans h.onEventReceiveErrorCallback
  receiverQueryFilter := h'.receiverQueryFilter.trans h.receiverQueryFilter
  startTimestamp := h'.startTimestamp.trans h.startTimestamp
  waitTimeoutInMs := h'.waitTimeoutInMs.trans h.waitTimeoutInMs

theorem SameReception.of_registration {c d : EventHubReceiverLL σ}
    (h : d.registration = c.registration) : SameReception c d where
  state := congrArg Registration.state h
  onEventReceiveCallback := congrArg Registration.onEventReceiveCallback h
  onEventReceiveErrorCallback := congrArg Registration.onEventReceiveErrorCallback h
  receiverQueryFilter := congrArg Registration.receiverQueryFilter h
  startTimestamp := congrArg Registration.startTimestamp h
  waitTimeoutInMs := congrArg Registration.waitTimeoutInMs h

namespace Ongoing

theorem keep_same (hs : Ongoing c s) (h : SameReception s.client t.client)
    (hcontrol : t.control.ending = false) : Ongoing c t :=
  ⟨hs.same.trans h, h.state.trans hs.active, hcontrol⟩

theorem keep (hs : Ongoing c s) (h : t.client.registration = s.client.registration)
    (hcontrol : t.control.ending = false) : Ongoing c t :=
  hs.keep_same (.of_registration h) hcontrol

/-- Control stays in the call in which it stands. -/
theorem keep_call (hs : Ongoing c s) (h : t.client.registration = s.client.registration)
    (hcall : t.control.call = s.control.call) : Ongoing c t := by
  have hcontrol := hs.control
  refine hs.keep h ?_
  unfold ReceiverControl.ending at hcontrol ⊢
  rw [hcall, hcontrol]

theorem worked (hs : Ongoing c s) (h : Worked s t) : Ongoing c t := by
  cases h with
  | resumed control h hc =>
    exact hs.keep h.registration (ReceiverControl.not_ending_of_working hc)
  | unregistered h hnone => exact hs.keep h.registration rfl
  | raised callback r h hcb => exact hs.keep h.registration rfl

end Ongoing

theorem doWork_ongoing (hs : Ongoing c s) (env : ReceiverEnv ι) :
    Ongoing c (doWork auth s env) := by
  have hemit : Ongoing c (s.emit [.doWork]) := ⟨hs.same, hs.active, hs.control⟩
  have hactive := hemit.active
  unfold doWork
  simp only [hactive]
  exact hemit.worked (doWorkActive_worked auth _ env)

theorem uamqpReturn_ongoing (hs : Ongoing c s) {call : ReceiverUamqpCall} {ok : Bool}
    {env : ReceiverEnv ι} (hcall : s.control = .uamqp call)
    (hspares : Spares s (.uamqpReturn ok env)) : Ongoing c (uamqpReturn auth s ok env call) := by
  cases call with
  | messagereceiverOpen => exact hs.worked (afterOpen_worked auth s ok env)
  | connectionDowork poll =>
    cases poll with
    | false => exact hs.keep rfl rfl
    | true =>
      change Ongoing c (handleTimeouts s env.tick)
      rcases handleTimeouts_cases s env.tick with ⟨now, callback, -, h⟩ | ⟨stamp, h⟩ <;> rw [h]
      · exact hs.keep rfl rfl
      · exact hs.keep rfl rfl
  | messagereceiverDestroy after =>
    cases after with
    | bringUpFailed => exact hs.keep rfl rfl
    | teardown after =>
      have hcontrol := hs.control
      cases after with
      | resetReception => exact absurd hs.active (hspares (by simp [resetsReception, hcall]))
      | endReception => exact absurd hcontrol (by simp [ReceiverControl.ending, hcall,
          ReceiverControl.call])
      | destroy => exact absurd hcontrol (by simp [ReceiverControl.ending, hcall,
          ReceiverControl.call])

/-- A tear-down after a failed authentication that finds the reception active has to wait for the
message receiver. -/
theorem errorReturn_ongoing (hs : Ongoing c s) (herror : s.control = .errorCb .teardown)
    (hspares : Spares s (.callbackReturn : ReceiverInput ι)) :
    Ongoing c (errorReturn s .teardown) := by
  have hreceiver : (s.client.stack .messageReceiver).isSome = true := by
    by_contra hnone
    have hreset : resetsReception s (.callbackReturn : ReceiverInput ι) = true := by
      simpa [resetsReception, herror] using hnone
    exact hspares hreset hs.active
  unfold errorReturn teardownReceiverStack deInitializeStack
  simp only [hreceiver, if_true]
  exact hs.keep rfl rfl

theorem step_ongoing {i : ReceiverInput ι} (hs : Ongoing c s) (hspares : Spares s i)
    (huser : userEnds s i = false) (hstep : step auth s i = some t) : Ongoing c t := by
  cases step_move auth hstep with
  | receiveAsync onReceive onError timestamp timeout env hmay =>
    rcases receiveAsyncCommon_cases s onReceive onError timestamp timeout env with
      ⟨r, -, h⟩ | ⟨r, tick, filter, -, -, hinactive, -⟩ | ⟨receiveCb, errorCb, tick, hinactive, -⟩
    · rw [h]
      exact hs
    · exact absurd (hs.active.symm.trans hinactive) nofun
    · exact absurd (hs.active.symm.trans hinactive) nofun
  | receiveEndAsync onEnd hmay =>
    rcases receiveEndAsync_cases s onEnd with ⟨hne, -⟩ | ⟨-, h⟩
    · exact absurd hs.active hne
    · exact absurd huser (by simp [userEnds, h])
  | refreshSASTokenAsync token env hmay =>
    rcases refreshSASTokenAsync_cases s token env with
      ⟨r, -, h⟩ | ⟨text, config, cfg, -, -, -, -, -, -, h⟩ <;> rw [h]
    · exact hs
    · exact hs.keep_call rfl rfl
  | setConnectionTracing on hmay =>
    rcases setConnectionTracing_cases s on with ⟨-, h⟩ | ⟨-, h⟩ <;> rw [h] <;>
      exact hs.keep_call rfl rfl
  | doWork env _ _ => exact doWork_ongoing auth hs env
  | destroy _ _ => exact absurd huser (by simp [userEnds])
  | onMessageReceived message env hcall _ =>
    rcases onMessageReceived_cases s message env _ with h | ⟨-, h⟩ | ⟨callback, event, -, -, h⟩ <;>
      rw [h]
    · exact hs.keep_call rfl rfl
    · exact hs.keep rfl rfl
    · exact hs.keep_call rfl (by rw [hcall]; rfl)
  | onStateChanged newState previousState hcall _ =>
    rcases onStateChanged_cases s newState previousState _ with h | ⟨callback, -, h⟩ <;> rw [h]
    · exact hs
    · exact hs.keep_call rfl (by rw [hcall]; rfl)
  | onCBSPutTokenOperationComplete r env hcall _ _ => exact hs.keep_call rfl rfl
  | uamqpReturn ok env hcall => exact uamqpReturn_ongoing auth hs hcall hspares
  | receiveReturn hreceive => exact hs.keep_call rfl (by rw [hreceive]; rfl)
  | timeoutReturn htimeout => exact hs.keep rfl rfl
  | @errorReturn after herror =>
    cases after with
    | uamqp call => exact hs.keep_call rfl (by rw [herror]; rfl)
    | teardown => exact errorReturn_ongoing hs herror hspares
  | endReturn hend => exact hs.keep_same ⟨rfl, rfl, rfl, rfl, rfl, rfl⟩ rfl

/-- The next `EventHubReceiver_LL_DoWork` starts by bringing the stack up. -/
def StartsBringUp (s : ReceiverState σ) (env : ReceiverEnv ι) : Prop :=
  ∃ lost events, (doWork auth s env).log = s.log ++ .doWork :: .reset lost :: events

theorem Worked.log (h : Worked s t) : ∃ events, t.log = s.log ++ events := by
  cases h with
  | resumed control h hc =>
    obtain ⟨events, hlog, -⟩ := h.log
    exact ⟨events, hlog⟩
  | unregistered h hnone =>
    obtain ⟨events, hlog, -⟩ := h.log
    exact ⟨events, hlog⟩
  | raised callback r h hcb =>
    obtain ⟨events, hlog, -⟩ := h.log
    exact ⟨events ++ [.errorRaised callback r], by rw [hlog, List.append_assoc]⟩

theorem startsBringUp (hactive : s.client.state = .active)
    (huninit : s.client.receiverAMQPConnectionState = .uninitialized) (env : ReceiverEnv ι) :
    StartsBringUp auth s env := by
  have hemit : (s.emit [.doWork]).client.state = .active := hactive
  have hwork : doWork auth s env = doWorkActive auth (s.emit [.doWork]) env := by
    unfold doWork
    simp only [hemit]
  obtain ⟨events, hlog⟩ := (doWorkActive_restarts auth (s := s.emit [.doWork]) huninit env).log
  obtain ⟨lost, hreset⟩ : ∃ lost, (resetConnection (s.emit [.doWork])).log =
      s.log ++ [.doWork] ++ [.reset lost] := ⟨_, rfl⟩
  refine ⟨lost, events, ?_⟩
  rw [hwork, hlog, hreset, List.append_assoc, List.append_assoc]
  rfl

theorem receiveAsyncCommon_inactive {onReceive onError : Option UserCallback}
    {timestamp : UInt64} {timeout : UInt32} {env : ReceiveEnv}
    (hok : receiveAsyncCommon s onReceive onError timestamp timeout env = (.ok, t)) :
    s.client.state = .inactive ∧ t.control = s.control := by
  rcases receiveAsyncCommon_cases s onReceive onError timestamp timeout env with
    ⟨r, hr, h⟩ | ⟨r, tick, filter, hr, -, -, -, h⟩ |
    ⟨receiveCb, errorCb, tick, hinactive, -, -, h⟩
  · exact absurd (congrArg Prod.fst (h.symm.trans hok)) hr
  · exact absurd (congrArg Prod.fst (h.symm.trans hok)) hr
  · obtain rfl := congrArg Prod.snd (h.symm.trans hok)
    exact ⟨hinactive, rfl⟩

/-- In every run of a receiver in which no tear-down after a failed authentication finds the
reception active, a reception stays as the successful receive call has set it up until the user ends
it, and whenever it has no stack the next `EventHubReceiver_LL_DoWork` starts bringing one up. -/
theorem run_keeps_reception (hc : Created c) {is js : List (ReceiverInput ι)}
    {u : ReceiverState σ} (hrun : (receiverMachine auth).run { client := c } is = some s)
    {onReceive onError : Option UserCallback} {startTimestampInSec : UInt64}
    {waitTimeoutInMs : UInt32} {env : ReceiveEnv}
    (hok : receiveAsyncCommon s onReceive onError startTimestampInSec waitTimeoutInMs env =
      (.ok, u))
    (hspares : (receiverMachine auth).Meets Spares u js)
    (huser : (receiverMachine auth).Meets (fun s i ↦ userEnds s i = false) u js)
    (hrun' : (receiverMachine auth).run u js = some t) :
    t.client.state = .active ∧
    t.client.callback.onEventReceiveCallback = onReceive ∧
    t.client.callback.onEventReceiveErrorCallback = onError ∧
    t.client.receiverQueryFilter = some (createStartTimeFilter (startTimestampInSec * 1000)) ∧
    t.client.startTimestamp = startTimestampInSec * 1000 ∧
    t.client.waitTimeoutInMs = waitTimeoutInMs ∧
    (t.client.receiverAMQPConnectionState = .uninitialized →
      ∀ env, StartsBringUp auth t env) := by
  have hs := run_registrationInv auth hc hrun
  have hu := hs.anew hok
  have hstart : Ongoing u.client u := by
    refine ⟨⟨rfl, rfl, rfl, rfl, rfl, rfl⟩, hu.state, ?_⟩
    obtain ⟨hinactive, hcontrol⟩ := receiveAsyncCommon_inactive hok
    rw [hcontrol]
    -- a receiver in a call to uAMQP is not inactive
    have hquiet : s.control.busy = false := by
      by_contra hbusy
      exact hs.active (by simpa using hbusy) hinactive
    exact ReceiverControl.not_ending_of_quiet hquiet
  have hstep : ∀ s i t, Ongoing u.client s → (Spares s i ∧ userEnds s i = false) →
      (receiverMachine auth).step s i = some t → Ongoing u.client t :=
    fun _ _ _ hs hi h ↦ step_ongoing auth hs hi.1 hi.2 h
  have ht := Machine.run_invariant_of_meets hstep hstart (Machine.meets_and.mpr ⟨hspares, huser⟩)
    hrun'
  refine ⟨ht.active, ?_, ?_, ?_, ?_, ?_, fun huninit env ↦ startsBringUp auth ht.active huninit env⟩
  · rw [ht.same.onEventReceiveCallback, hu.callback]
  · rw [ht.same.onEventReceiveErrorCallback, hu.callback]
  · rw [ht.same.receiverQueryFilter, hu.receiverQueryFilter]
  · rw [ht.same.startTimestamp, hu.startTimestamp]
  · rw [ht.same.waitTimeoutInMs, hu.waitTimeoutInMs]

/-- A reception whose connection fails at `link_create` is still what the user has registered. -/
theorem run_keeps_reception_linkless :
    ∃ s u t, (receiverMachine (EventHubAuthCBS.authModule fun _ ↦ none)).run
        { client := createdFromConnectionString "host" "hub" "name" "key" "group" "0" }
        [] = some s ∧
      receiveAsyncCommon s (some ⟨1, none⟩) (some ⟨2, none⟩) 0 1000 {} = (.ok, u) ∧
      (receiverMachine (EventHubAuthCBS.authModule fun _ ↦ none)).run u
        (authorised.tail ++
          [.doWork { workAt 3 with succeeds := fun c ↦ c ≠ .linkCreate }]) = some t ∧
      t.client.state = .active ∧ t.client.waitTimeoutInMs = 1000 := by
  refine ⟨_, _, _, rfl, rfl, rfl, rfl, ?_⟩
  exact (@run_keeps_reception _ _ (EventHubAuthCBS.authModule fun _ ↦ none) _ _ _
    (.fromConnectionString "host" "hub" "name" "key" "group" "0") []
    (authorised.tail ++ [.doWork { workAt 3 with succeeds := fun c ↦ c ≠ .linkCreate }])
    _ rfl (some ⟨1, none⟩) (some ⟨2, none⟩) 0 1000 {} rfl (by decide) (by decide) rfl).2.2.2.2.2.1

/-- A reception whose token is refused. -/
def refused : List (ReceiverInput AuthEnv) :=
  [.receiveFromStartTimestampAsync (some ⟨1, none⟩) (some ⟨2, none⟩) 0 {}, .doWork (workAt 1),
    .onCBSPutTokenOperationComplete .operationFailed {}, .uamqpReturn true (workAt 1),
    .doWork (workAt 2), .callbackReturn]

/-- A refused token ends the reception that the user has not ended: the registration is gone, and
the next `EventHubReceiver_LL_DoWork` does nothing. -/
theorem run_drops_reception :
    ∃ t, (receiverMachine (EventHubAuthCBS.authModule fun _ ↦ none)).run
        { client := createdFromConnectionString "host" "hub" "name" "key" "group" "0" }
        refused = some t ∧
      (receiverMachine (EventHubAuthCBS.authModule fun _ ↦ none)).Meets
        (fun s i ↦ userEnds s i = false)
        { client := createdFromConnectionString "host" "hub" "name" "key" "group" "0" } refused ∧
      t.control = .idle ∧
      t.client.state = .inactive ∧ t.client.callback.onEventReceiveCallback = none ∧
      t.client.callback.onEventReceiveErrorCallback = none ∧
      t.client.receiverQueryFilter = none ∧
      ∀ env, doWork (EventHubAuthCBS.authModule fun _ ↦ none) t env = t.emit [.doWork] := by
  exact ⟨_, rfl, by decide, rfl, rfl, rfl, rfl, rfl, fun env ↦ rfl⟩

end EventHubReceiverLL

end EventHubs
