import EventHubs.Receiver.Stage
import EventHubs.Receiver.StackInvariant

/-!
# The registration of a reception

While a reception is active or waits for its tear-down, both callbacks and the filter are there, so
the calls that do not test them for NULL are safe. An inactive receiver holds nothing of an earlier
reception, and control is then at no point at which uAMQP or `EventHubReceiver_LL_DoWork` could call
the user about one. The tear-down frees the stack before it clears the registration, which keeps the
late callbacks of uAMQP safe.

## Main definitions

* `EventHubReceiverLL.Registered`, `EventHubReceiverLL.Cleared`.
* `EventHubReceiverLL.RegistrationInv` — the invariant.

## Main results

* `EventHubReceiverLL.step_registrationInv`, `EventHubReceiverLL.run_registered`.
-/

namespace EventHubs

/-- The points at which uAMQP or `EventHubReceiver_LL_DoWork` may call the user about a
reception. -/
def ReceiverControl.busy : ReceiverControl → Bool
  | .uamqp _ => true
  | .receiveCb _ => true
  | .timeoutCb _ => true
  | .errorCb _ => true
  | _ => false

namespace EventHubReceiverLL

variable {σ ι : Type} (auth : AuthModule σ ι)

open ReceiverState

/-- Both callbacks and the filter are there. -/
structure Registered (c : EventHubReceiverLL σ) : Prop where
  onEventReceiveCallback : c.callback.onEventReceiveCallback.isSome
  onEventReceiveErrorCallback : c.callback.onEventReceiveErrorCallback.isSome
  receiverQueryFilter : c.receiverQueryFilter.isSome

/-- Nothing is left of a reception. -/
structure Cleared (c : EventHubReceiverLL σ) : Prop where
  onEventReceiveCallback : c.callback.onEventReceiveCallback = none
  onEventReceiveErrorCallback : c.callback.onEventReceiveErrorCallback = none
  receiverQueryFilter : c.receiverQueryFilter = none
  extRefreshSASToken : c.extRefreshSASToken = none
  amqpState : c.receiverAMQPConnectionState = .uninitialized
  stack : ∀ field, c.stack field = none
  cbsHandle : c.cbsHandle = none

/-- The state of the reception says what is registered. -/
structure Enrolled (c : EventHubReceiverLL σ) : Prop where
  registered : c.state ≠ .inactive → Registered c
  cleared : c.state = .inactive → Cleared c

/-- What holds at every point of a run. -/
structure RegistrationInv (s : ReceiverState σ) : Prop extends Enrolled s.client where
  defined : s.control ≠ .undefinedBehaviour
  active : s.control.busy = true → s.client.state ≠ .inactive

variable {s t : ReceiverState σ}

/-! ### Keeping the registration -/

theorem Registered.congr {c d : EventHubReceiverLL σ} (h : Registered c)
    (hreceive : d.callback.onEventReceiveCallback = c.callback.onEventReceiveCallback)
    (herror : d.callback.onEventReceiveErrorCallback = c.callback.onEventReceiveErrorCallback)
    (hfilter : d.receiverQueryFilter = c.receiverQueryFilter) : Registered d :=
  ⟨hreceive ▸ h.onEventReceiveCallback, herror ▸ h.onEventReceiveErrorCallback,
    hfilter ▸ h.receiverQueryFilter⟩

theorem Registered.of_registration {c d : EventHubReceiverLL σ} (h : Registered c)
    (heq : d.registration = c.registration) : Registered d :=
  h.congr (congrArg Registration.onEventReceiveCallback heq)
    (congrArg Registration.onEventReceiveErrorCallback heq)
    (congrArg Registration.receiverQueryFilter heq)

theorem RegistrationInv.of_registered (hstate : t.client.state ≠ .inactive)
    (h : Registered t.client) (hdefined : t.control ≠ .undefinedBehaviour) : RegistrationInv t :=
  ⟨⟨fun _ ↦ h, fun hinactive ↦ absurd hinactive hstate⟩, hdefined, fun _ ↦ hstate⟩

theorem RegistrationInv.of_cleared (hstate : t.client.state = .inactive) (h : Cleared t.client)
    (hdefined : t.control ≠ .undefinedBehaviour) (hquiet : t.control.busy = false) :
    RegistrationInv t :=
  ⟨⟨fun hne ↦ absurd hstate hne, fun _ ↦ h⟩, hdefined, by simp [hquiet]⟩

/-- A step that leaves the registration of an active reception alone. -/
theorem RegistrationInv.keep (hs : RegistrationInv s) (hactive : s.client.state ≠ .inactive)
    (hdefined : t.control ≠ .undefinedBehaviour)
    (heq : t.client.registration = s.client.registration) : RegistrationInv t := by
  have hstate : t.client.state = s.client.state := congrArg Registration.state heq
  exact .of_registered (hstate ▸ hactive) ((hs.registered hactive).of_registration heq) hdefined

theorem RegistrationInv.receive_ne_none (hs : RegistrationInv s) (hbusy : s.control.busy = true) :
    s.client.callback.onEventReceiveCallback ≠ none := fun hnone ↦ by
  have hsome := (hs.registered (hs.active hbusy)).onEventReceiveCallback
  rw [hnone] at hsome
  exact absurd hsome (by simp)

theorem Worked.registrationInv (h : Worked s t) (hactive : s.client.state ≠ .inactive)
    (hs : Registered s.client) : RegistrationInv t := by
  cases h with
  | resumed c h hc =>
    have hu := hs.of_registration h.registration
    refine .of_registered (h.state ▸ hactive) hu ?_
    rintro rfl
    exact absurd hc (by decide)
  | unregistered h hnone =>
    have hsome := hs.onEventReceiveErrorCallback
    rw [hnone] at hsome
    exact absurd hsome (by simp)
  | raised callback r h hcb =>
    have hu := hs.of_registration h.registration
    exact .of_registered (h.state ▸ hactive) hu nofun

/-! ### Tear-down -/

theorem cleared_resetReceiver (s : ReceiverState σ) :
    Cleared (resetReceiver (finishDeInitializeStack s)).client :=
  ⟨rfl, rfl, rfl, rfl, rfl, fun _ ↦ rfl, rfl⟩

theorem afterTeardown_registrationInv (hstate : s.client.state = .inactive)
    (hs : Cleared s.client) (after : AfterTeardown) : RegistrationInv (afterTeardown s after) := by
  cases after with
  | endReception =>
    unfold afterTeardown
    cases s.client.callback.onEventReceiveEndCallback with
    | none => exact .of_cleared hstate hs nofun rfl
    | some callback => exact .of_cleared hstate hs nofun rfl
  | resetReception => exact .of_cleared hstate hs nofun rfl
  | destroy => exact .of_cleared hstate hs nofun rfl

theorem teardownReceiverStack_registrationInv (hs : Enrolled s.client) (after : AfterTeardown) :
    RegistrationInv (teardownReceiverStack s after) := by
  unfold teardownReceiverStack deInitializeStack
  by_cases hreceiver : (s.client.stack .messageReceiver).isSome = true
  · rw [if_pos hreceiver]
    -- a message receiver is there, so the reception is not inactive
    have hactive : s.client.state ≠ .inactive := fun hinactive ↦ by
      rw [(hs.cleared hinactive).stack] at hreceiver
      exact absurd hreceiver (by simp)
    exact .of_registered hactive (hs.registered hactive) nofun
  · rw [if_neg hreceiver]
    exact afterTeardown_registrationInv rfl (cleared_resetReceiver s) after

/-! ### Steps and runs -/

theorem doWork_registrationInv (hs : RegistrationInv s) (env : ReceiverEnv ι) :
    RegistrationInv (doWork auth s env) := by
  have hemit : Enrolled (s.emit [.doWork]).client := hs.toEnrolled
  unfold doWork
  dsimp only
  cases hstate : (s.emit [.doWork]).client.state with
  | inactivePending => exact teardownReceiverStack_registrationInv hemit _
  | active =>
    have hactive : (s.emit [.doWork]).client.state ≠ .inactive := by simp [hstate]
    exact (doWorkActive_worked auth _ env).registrationInv hactive (hemit.registered hactive)
  | inactive => exact ⟨hemit, hs.defined, hs.active⟩

theorem uamqpReturn_registrationInv (hs : RegistrationInv s) {call : ReceiverUamqpCall}
    (hcall : s.control = .uamqp call) (ok : Bool) (env : ReceiverEnv ι) :
    RegistrationInv (uamqpReturn auth s ok env call) := by
  have hactive : s.client.state ≠ .inactive := hs.active (by rw [hcall]; rfl)
  cases call with
  | messagereceiverOpen =>
    exact (afterOpen_worked auth s ok env).registrationInv hactive (hs.registered hactive)
  | connectionDowork poll =>
    cases poll with
    | false => exact hs.keep hactive nofun rfl
    | true =>
      change RegistrationInv (handleTimeouts s env.tick)
      rcases handleTimeouts_cases s env.tick with ⟨now, callback, -, h⟩ | ⟨stamp, h⟩ <;> rw [h]
      · exact hs.keep hactive nofun rfl
      · exact hs.keep hactive nofun rfl
  | messagereceiverDestroy after =>
    cases after with
    | bringUpFailed => exact hs.keep hactive nofun rfl
    | teardown after => exact afterTeardown_registrationInv rfl (cleared_resetReceiver s) after

theorem step_registrationInv {i : ReceiverInput ι} (hs : RegistrationInv s)
    (hstep : step auth s i = some t) : RegistrationInv t := by
  cases step_move auth hstep with
  | receiveAsync onReceive onError timestamp timeout env hmay =>
    rcases receiveAsyncCommon_cases s onReceive onError timestamp timeout env with
      ⟨r, -, h⟩ | ⟨r, tick, filter, -, -, hinactive, hfilter, h⟩ |
        ⟨receiveCb, errorCb, tick, -, -, -, h⟩ <;>
      rw [h]
    · exact hs
    · have hcleared := hs.cleared hinactive
      have hnone : filter = none := hfilter.elim (·.trans hcleared.receiverQueryFilter) id
      exact .of_cleared hinactive { hcleared with receiverQueryFilter := hnone } hs.defined
        (Bool.not_eq_true _ ▸ fun hbusy ↦ hs.active hbusy hinactive)
    · exact .of_registered nofun ⟨rfl, rfl, rfl⟩ hs.defined
  | receiveEndAsync onEnd hmay =>
    rcases receiveEndAsync_cases s onEnd with ⟨-, h⟩ | ⟨hactive, h⟩ <;> rw [h]
    · exact hs
    · exact .of_registered nofun ((hs.registered (by simp [hactive])).congr rfl rfl rfl) hs.defined
  | refreshSASTokenAsync token env hmay =>
    rcases refreshSASTokenAsync_cases s token env with
      ⟨r, -, h⟩ | ⟨text, config, cfg, -, -, hactive, -, -, -, h⟩ <;> rw [h]
    · exact hs
    · exact hs.keep (by simp [hactive]) hs.defined rfl
  | setConnectionTracing on hmay =>
    rcases setConnectionTracing_cases s on with ⟨-, h⟩ | ⟨-, h⟩ <;> rw [h]
    · exact ⟨⟨fun hne ↦ (hs.registered hne).congr rfl rfl rfl,
        fun hinactive ↦ { hs.cleared hinactive with }⟩, hs.defined, hs.active⟩
    · exact ⟨⟨fun hne ↦ (hs.registered hne).congr rfl rfl rfl,
        fun hinactive ↦ { hs.cleared hinactive with }⟩, hs.defined, hs.active⟩
  | doWork env _ _ => exact doWork_registrationInv auth hs env
  | destroy _ _ =>
    exact teardownReceiverStack_registrationInv
      (s := { s with destroying := true, log := s.log ++ [.destroying] }) hs.toEnrolled _
  | onMessageReceived message env hcall _ =>
    have hbusy : s.control.busy = true := by rw [hcall]; rfl
    have hactive : s.client.state ≠ .inactive := hs.active hbusy
    rcases onMessageReceived_cases s message env _ with h | ⟨hnone, -⟩ | ⟨callback, event, -, -, h⟩
    · rw [h]
      exact hs.keep hactive hs.defined rfl
    · exact absurd hnone (hs.receive_ne_none hbusy)
    · rw [h]
      exact hs.keep hactive nofun rfl
  | onStateChanged newState previousState hcall _ =>
    have hactive : s.client.state ≠ .inactive := hs.active (by rw [hcall]; rfl)
    rcases onStateChanged_cases s newState previousState _ with h | ⟨callback, -, h⟩ <;> rw [h]
    · exact hs
    · exact hs.keep hactive nofun rfl
  | onCBSPutTokenOperationComplete r env hcall _ _ =>
    exact hs.keep (hs.active (by rw [hcall]; rfl)) hs.defined rfl
  | uamqpReturn ok env hcall => exact uamqpReturn_registrationInv auth hs hcall ok env
  | receiveReturn hreceive =>
    exact hs.keep (hs.active (by rw [hreceive]; rfl)) nofun rfl
  | timeoutReturn htimeout =>
    exact hs.keep (hs.active (by rw [htimeout]; rfl)) nofun rfl
  | @errorReturn after herror =>
    cases after with
    | uamqp call => exact hs.keep (hs.active (by rw [herror]; rfl)) nofun rfl
    | teardown => exact teardownReceiverStack_registrationInv hs.toEnrolled _
  | endReturn hend =>
    exact ⟨⟨fun hne ↦ (hs.registered hne).congr rfl rfl rfl,
      fun hinactive ↦ { hs.cleared hinactive with }⟩, nofun, nofun⟩

theorem created_registrationInv {c : EventHubReceiverLL σ} (hc : Created c) :
    RegistrationInv { client := c } := by
  refine .of_cleared ?_ ?_ nofun rfl
  · cases hc <;> rfl
  · cases hc <;> exact ⟨rfl, rfl, rfl, rfl, rfl, fun _ ↦ rfl, rfl⟩

theorem run_registrationInv {c : EventHubReceiverLL σ} (hc : Created c)
    {is : List (ReceiverInput ι)} (hrun : (receiverMachine auth).run { client := c } is = some t) :
    RegistrationInv t := by
  have hstep : ∀ s i t, RegistrationInv s → (receiverMachine auth).step s i = some t →
      RegistrationInv t := fun _ _ _ hs h ↦ step_registrationInv auth hs h
  exact Machine.run_invariant hstep (created_registrationInv hc) hrun

/-- What a receive call has set up, with nothing of an earlier reception. -/
structure Anew (onReceive onError : Option UserCallback) (startTimestampInSec : UInt64)
    (timeout : UInt32) (c : EventHubReceiverLL σ) : Prop where
  state : c.state = .active
  callback : c.callback =
    { onEventReceiveCallback := onReceive
      wasMessageReceived := false
      onEventReceiveErrorCallback := onError
      onEventReceiveEndCallback := none }
  registered : Registered c
  receiverQueryFilter : c.receiverQueryFilter =
    some (createStartTimeFilter (startTimestampInSec * 1000))
  startTimestamp : c.startTimestamp = startTimestampInSec * 1000
  waitTimeoutInMs : c.waitTimeoutInMs = timeout
  sasTokenAuthFailureTimeoutInSecs :
    (authConfig c).sasTokenAuthFailureTimeoutInSecs = timeout / 1000
  extRefreshSASToken : c.extRefreshSASToken = none
  amqpState : c.receiverAMQPConnectionState = .uninitialized
  stack : ∀ field, c.stack field = none
  cbsHandle : c.cbsHandle = none

theorem authConfig_timeout (c : EventHubReceiverLL σ) :
    (authConfig c).sasTokenAuthFailureTimeoutInSecs = waitTimeInSecs c := by
  unfold authConfig
  cases c.connectionParams.extSASTokenConfig <;> rfl

theorem RegistrationInv.anew (hs : RegistrationInv s) {onReceive onError : Option UserCallback}
    {timestamp : UInt64} {timeout : UInt32} {env : ReceiveEnv}
    (hok : receiveAsyncCommon s onReceive onError timestamp timeout env = (.ok, t)) :
    Anew onReceive onError timestamp timeout t.client := by
  rcases receiveAsyncCommon_cases s onReceive onError timestamp timeout env with
    ⟨r, hr, h⟩ | ⟨r, tick, filter, hr, -, -, -, h⟩ |
    ⟨receiveCb, errorCb, tick, hinactive, rfl, rfl, h⟩
  · exact absurd (congrArg Prod.fst (h.symm.trans hok)) hr
  · exact absurd (congrArg Prod.fst (h.symm.trans hok)) hr
  · obtain rfl := congrArg Prod.snd (h.symm.trans hok)
    have hcleared := hs.cleared hinactive
    exact ⟨rfl, rfl, ⟨rfl, rfl, rfl⟩, rfl, rfl, rfl, authConfig_timeout _,
      hcleared.extRefreshSASToken, hcleared.amqpState, hcleared.stack, hcleared.cbsHandle⟩

/-- In every run of a receiver the state says what is registered: an active reception, and one that
waits for its tear-down, has both callbacks and a filter; between calls an inactive receiver has
nothing of a reception. So no NULL callback is ever called, and a receive call that succeeds starts
from a clean receiver. -/
theorem run_registered {c : EventHubReceiverLL σ} (hc : Created c) {is : List (ReceiverInput ι)}
    (hrun : (receiverMachine auth).run { client := c } is = some t) :
    (t.client.state ≠ .inactive → Registered t.client) ∧
    (t.control = .idle → t.client.state = .inactive → Cleared t.client) ∧
    t.control ≠ .undefinedBehaviour ∧
    ∀ onReceive onError startTimestampInSec waitTimeoutInMs env u,
      receiveAsyncCommon t onReceive onError startTimestampInSec waitTimeoutInMs env = (.ok, u) →
      Anew onReceive onError startTimestampInSec waitTimeoutInMs u.client := by
  have ht := run_registrationInv auth hc hrun
  refine ⟨ht.registered, fun _ hinactive ↦ ht.cleared hinactive, ht.defined, ?_⟩
  intro onReceive onError timestamp timeout env u hok
  exact ht.anew hok

/-- A reception that uAMQP interrupts while its message receiver is destroyed. -/
def endedInTeardown : List (ReceiverInput AuthEnv) :=
  receiving ++ [.receiveEndAsync (some ⟨3, none⟩), .doWork (workAt 4),
    .onStateChanged .error .closing, .refreshSASTokenAsync (some "token") { parsed := none },
    .callbackReturn, .onMessageReceived { bodyData := some [7] } {}, .callbackReturn]

/-- The callbacks are still there when uAMQP calls while the stack is taken down. -/
theorem run_registered_endedInTeardown :
    ∃ t, (receiverMachine (EventHubAuthCBS.authModule fun _ ↦ none)).run
        { client := createdFromConnectionString "host" "hub" "name" "key" "group" "0" }
        endedInTeardown = some t ∧
      t.control = .uamqp (.messagereceiverDestroy (.teardown .endReception)) ∧
      Registered t.client := by
  refine ⟨_, rfl, rfl, ?_⟩
  exact (@run_registered _ _ (EventHubAuthCBS.authModule fun _ ↦ none) _ _
    (.fromConnectionString "host" "hub" "name" "key" "group" "0") endedInTeardown rfl).1 (by decide)

end EventHubReceiverLL

end EventHubs
