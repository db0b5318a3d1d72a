import EventHubs.Sender.PartitionKey
import EventHubs.Sender.Release

/-!
# Senders without their callbacks

`SenderState.mute` forgets the confirmation callbacks of the entries and what was told to them.
Bringing up, authenticating on and taking down the stack do not see the difference. A run in which
some entries have no callback and none of these meets an unguarded call is, after `mute`, a run in
which all entries have one.

## Main definitions

* `SenderState.mute`, `muteEvent`.
* `EventHubClientLL.fillInput`, `EventHubClientLL.Filled` — a callback in the place of NULL.

## Main results

* `EventHubClientLL.doWork_mute`, `EventHubClientLL.step_mute`.
* `EventHubClientLL.run_filled`.
* `EventHubClientLL.run_spares_null`.
-/

namespace EventHubs

open Attempt

/-- An event as a user without confirmation callbacks sees it. -/
def muteEvent : SenderEvent → List SenderEvent
  | .accepted n _ idleTimer => [.accepted n none idleTimer]
  | .confirmed _ _ _ => []
  | e => [e]

/-- An entry without its callback. -/
def EventHubEventList.mute (e : EventHubEventList) : EventHubEventList :=
  { e with callback := none }

theorem muteEvent_auth (events : List AuthEvent) :
    (events.map SenderEvent.auth).flatMap muteEvent = events.map .auth := by
  induction events with
  | nil => rfl
  | cons e events ih => simpa [muteEvent] using ih

namespace SenderState

variable {σ : Type}

/-- A sender without the confirmation callbacks and without what they were told. -/
def mute (s : SenderState σ) : SenderState σ :=
  { s with
    client := { s.client with
      outgoingEvents := s.client.outgoingEvents.map EventHubEventList.mute }
    log := s.log.flatMap muteEvent }

@[simp]
theorem mute_stack (s : SenderState σ) : s.mute.client.stack = s.client.stack := rfl

@[simp]
theorem mute_cbsHandle (s : SenderState σ) : s.mute.client.cbsHandle = s.client.cbsHandle := rfl

@[simp]
theorem mute_credential (s : SenderState σ) : s.mute.client.credential = s.client.credential := rfl

@[simp]
theorem mute_amqpState (s : SenderState σ) : s.mute.client.amqpState = s.client.amqpState := rfl

@[simp]
theorem mute_messageSenderState (s : SenderState σ) :
    s.mute.client.messageSenderState = s.client.messageSenderState := rfl

@[simp]
theorem mute_extRefreshSASToken (s : SenderState σ) :
    s.mute.client.extRefreshSASToken = s.client.extRefreshSASToken := rfl

theorem emit_mute (s : SenderState σ) (events : List SenderEvent) :
    (s.emit events).mute = s.mute.emit (events.flatMap muteEvent) := by
  simp [emit, mute]

theorem pass_mute (s : SenderState σ) (call : StackCall) (field : StackField) :
    s.mute.pass call field = (s.pass call field).mute :=
  (emit_mute s [.passed call (s.client.stack field).isNone]).symm

theorem passCBS_mute (s : SenderState σ) (call : StackCall) :
    s.mute.passCBS call = (s.passCBS call).mute :=
  (emit_mute s [.passed call s.client.cbsHandle.isNone]).symm

theorem store_mute (s : SenderState σ) (field : StackField) (h : Option Handle) :
    s.mute.store field h = (s.store field h).mute := by
  simp [store, mute, muteEvent]

theorem storeCBS_mute (s : SenderState σ) (a : Option σ) :
    s.mute.storeCBS a = (s.storeCBS a).mute := by
  cases a <;> simp [storeCBS, mute, muteEvent]

theorem answer_mute {α : Type} (s : SenderState σ) (x : Answer σ α) :
    s.mute.answer x = (s.answer x).mute := by
  simp [answer, mute, muteEvent_auth]

theorem raise_mute (s : SenderState σ) (r : EventHubClientErrorResult) (after : AfterErrorCb)
    (without : SenderState σ → SenderState σ) (h : without s.mute = (without s).mute) :
    s.mute.raise r after without = (s.raise r after without).mute := by
  cases hcb : s.client.onErrorCb with
  | none => simpa only [raise, mute, hcb] using h
  | some callback => simp [raise, mute, hcb, muteEvent]

/-- Calling a callback that is there. -/
theorem confirm_mute {s : SenderState σ} {e : EventHubEventList} (hheard : e.callback.isSome)
    (cause : List SenderEvent) (r : EventHubClientConfirmationResult) (after : AfterConfirm) :
    (s.confirm e cause r after).mute =
      { s.mute.emit (cause.flatMap muteEvent) with control := .confirming e.number after } := by
  obtain ⟨callback, hcallback⟩ := Option.isSome_iff_exists.mp hheard
  simp [confirm, hcallback, mute, emit, muteEvent]

theorem mute_entry (s : SenderState σ) (n : Nat) :
    s.mute.entry? n = (s.entry? n).map EventHubEventList.mute := by
  unfold entry? mute
  rw [List.find?_map]
  rfl

theorem unlink_mute (s : SenderState σ) (n : Nat) : s.mute.unlink n = (s.unlink n).mute := by
  have hclones : (s.mute.entry? n).elim [] (·.clones) = (s.entry? n).elim [] (·.clones) := by
    rw [mute_entry]
    cases s.entry? n <;> rfl
  simp only [unlink, hclones]
  simp only [mute, List.filter_map, List.flatMap_append]
  rfl

theorem waitForAck_mute (s : SenderState σ) (n : Nat) :
    s.mute.waitForAck n = (s.waitForAck n).mute := by
  simp only [waitForAck, mute, List.map_map]
  congr 3
  funext e
  by_cases h : e.number = n <;> simp [EventHubEventList.mute, h]

theorem flink_mute (s : SenderState σ) (n : Nat) : s.mute.flink n = s.flink n := by
  simp only [flink, mute, List.dropWhile_map, ← List.map_tail, List.head?_map, Option.map_map]
  rfl

end SenderState

namespace EventHubClientLL

variable {σ ι : Type} (auth : AuthModule σ ι)

open SenderState

/-! ### The stack -/

theorem createHandle_mute (env : DoWorkEnv ι) (call : SenderCall) (field : StackField) :
    Commutes mute (createHandle (σ := σ) env call field) := by
  intro s
  unfold createHandle
  split_ifs
  · have h := store_mute s field (some s.nextHandle)
    exact congrArg (fun t : SenderState σ ↦ (some (), { t with nextHandle := s.nextHandle + 1 })) h
  · exact congrArg (Prod.mk none) (store_mute s field none)

theorem passHandle_mute (call : StackCall) (field : StackField) :
    Commutes mute (passHandle (σ := σ) call field) := .update fun s ↦ pass_mute s call field

theorem createSASToken_mute (env : DoWorkEnv ι) : Commutes mute (createSASToken auth env) := by
  unfold createSASToken
  refine .bind (.update fun s ↦ ?_) fun _ ↦ .bind (passHandle_mute _ _) fun _ s ↦ ?_
  · unfold writeAuthTimeout
    rw [mute_credential]
    split_ifs <;> rfl
  · change (_, s.mute.storeCBS _) = _
    rw [storeCBS_mute]
    rfl

theorem initializeUamqpStackCommon_mute (env : DoWorkEnv ι) :
    Commutes mute (initializeUamqpStackCommon auth env) := by
  unfold initializeUamqpStackCommon
  repeat' first
    | exact createSASToken_mute auth env
    | exact .check
    | exact passHandle_mute _ _
    | exact createHandle_mute env _ _
    | refine .bind ?_ fun _ ↦ ?_

theorem initializeUamqpSenderStack_mute (env : DoWorkEnv ι) :
    Commutes (mute (σ := σ)) (initializeUamqpSenderStack env) := by
  unfold initializeUamqpSenderStack
  repeat' first
    | exact .check
    | exact passHandle_mute _ _
    | exact createHandle_mute env _ _
    | refine .bind ?_ fun _ ↦ ?_

theorem initializeUamqpStack_mute (env : DoWorkEnv ι) :
    Commutes mute (initializeUamqpStack auth env) := by
  have hset : ∀ state, Commutes (mute (σ := σ)) (setAMQPState state) :=
    fun state ↦ .update fun s ↦ rfl
  have hfirst : Commutes mute (initializeFirst auth env) :=
    .bind (.update fun s ↦ rfl) fun _ ↦
      .bind (initializeUamqpStackCommon_mute auth env) fun _ ↦ hset _
  have hsecond : Commutes (mute (σ := σ)) (initializeSecond env) :=
    .bind (initializeUamqpSenderStack_mute env) fun _ ↦ hset _
  intro s
  unfold initializeUamqpStack
  rw [mute_amqpState]
  split_ifs
  · exact hfirst s
  · exact hsecond s

theorem finishDestroyUamqpStack_mute (s : SenderState σ) :
    finishDestroyUamqpStack s.mute = (finishDestroyUamqpStack s).mute := by
  simp [finishDestroyUamqpStack, mute, muteEvent]

theorem afterDestroyUamqpStack_mute (s : SenderState σ) (after : AfterDestroy) :
    afterDestroyUamqpStack s.mute after = (afterDestroyUamqpStack s after).mute := by
  cases after with
  | initFailed => exact raise_mute s _ _ (fun s ↦ { s with control := .idle }) rfl
  | _ => rfl

theorem destroyUamqpStack_mute (s : SenderState σ) (after : AfterDestroy) :
    destroyUamqpStack s.mute after = (destroyUamqpStack s after).mute := by
  unfold destroyUamqpStack
  rw [mute_stack]
  split_ifs
  · rfl
  · rw [finishDestroyUamqpStack_mute, afterDestroyUamqpStack_mute]

theorem refreshExtOrProceed_mute (s : SenderState σ) (a : σ) (env : DoWorkEnv ι) :
    refreshExtOrProceed auth s.mute a env =
      ((refreshExtOrProceed auth s a env).1.mute, (refreshExtOrProceed auth s a env).2) := by
  have hproceed : refreshExtOrProceed.proceed s.mute = (refreshExtOrProceed.proceed s).mute := by
    unfold refreshExtOrProceed.proceed
    rw [mute_amqpState]
    split_ifs <;> rfl
  unfold refreshExtOrProceed
  rw [mute_extRefreshSASToken, mute_credential]
  cases s.client.extRefreshSASToken with
  | none => exact congrArg (·, AuthOutcome.done) hproceed
  | some token =>
    dsimp only
    split_ifs
    · rw [passCBS_mute, answer_mute]
      rfl
    · rw [passCBS_mute, answer_mute]
      rfl
    · exact congrArg (·, AuthOutcome.done) hproceed

theorem handleSASTokenAuth_mute (s : SenderState σ) (env : DoWorkEnv ι) :
    handleSASTokenAuth auth s.mute env =
      ((handleSASTokenAuth auth s env).1.mute, (handleSASTokenAuth auth s env).2) := by
  unfold handleSASTokenAuth
  rw [mute_cbsHandle]
  cases s.client.cbsHandle with
  | none => exact congrArg (·, AuthOutcome.failed) (passCBS_mute s _)
  | some a =>
    dsimp only
    rw [passCBS_mute, answer_mute]
    generalize (s.passCBS .eventHubAuthCBSGetStatus).answer (auth.getStatus a env.status) = t
    split_ifs
    · rfl
    · cases (auth.getStatus a env.status).value.2 with
      | refreshRequired =>
        simp only [onStatus, refreshAuto, passCBS_mute, answer_mute]
      | idle => simp only [onStatus, authenticateFirst, passCBS_mute, answer_mute]
      | ok => exact refreshExtOrProceed_mute auth t _ env
      | _ => rfl

theorem startLoop_mute (s : SenderState σ) : startLoop s.mute = (startLoop s).mute := by
  simp only [startLoop, mute, List.head?_map, Option.map_map]
  rfl

theorem connectionDowork_mute (s : SenderState σ) :
    connectionDowork s.mute = (connectionDowork s).mute := by
  rw [connectionDowork, pass_mute]
  rfl

theorem afterAuth_mute (s : SenderState σ) (outcome : AuthOutcome) :
    afterAuth s.mute outcome = (afterAuth s outcome).mute := by
  cases outcome with
  | failed => exact raise_mute s _ _ (destroyUamqpStack · .return) (destroyUamqpStack_mute s _)
  | timeout => exact raise_mute s _ _ (destroyUamqpStack · .return) (destroyUamqpStack_mute s _)
  | inProgress => exact connectionDowork_mute s
  | done =>
    unfold afterAuth openAndSend
    rw [mute_amqpState, mute_messageSenderState]
    dsimp only
    split_ifs
    · rw [pass_mute]
      rfl
    · exact startLoop_mute s
    · rfl

theorem doWorkInitialized_mute (s : SenderState σ) (env : DoWorkEnv ι) :
    doWorkInitialized auth s.mute env = (doWorkInitialized auth s env).mute := by
  unfold doWorkInitialized
  rw [mute_messageSenderState]
  split_ifs
  · exact destroyUamqpStack_mute s _
  · rw [handleSASTokenAuth_mute]
    exact afterAuth_mute _ _

theorem doWork_mute (s : SenderState σ) (env : DoWorkEnv ι) :
    doWork auth s.mute env = (doWork auth s env).mute := by
  have hemit : s.mute.emit [.doWork] = (s.emit [.doWork]).mute := (emit_mute s [.doWork]).symm
  unfold doWork
  rw [hemit]
  generalize s.emit [.doWork] = s
  dsimp only
  rw [mute_amqpState]
  split_ifs
  · rw [initializeUamqpStack_mute auth env s]
    rcases initializeUamqpStack auth env s with ⟨_ | _, t⟩
    · exact destroyUamqpStack_mute t _
    · exact doWorkInitialized_mute auth t env
  · exact doWorkInitialized_mute auth s env

/-! ### Steps that look at no callback -/

/-- Whether a step may look at a confirmation callback. -/
def looks (s : SenderState σ) : SenderInput ι → Bool
  | .sendAsync _ _ _ _ => true
  | .sendBatchAsync _ _ _ _ => true
  | .iterate _ _ _ => true
  | .onMessageSendComplete _ _ => true
  | .drain => true
  | .uamqpReturn _ =>
    match s.control with
    | .uamqp (.messagesenderSendAsync _ _ taken) => !taken
    | _ => false
  | _ => false

theorem refreshSASTokenAsync_mute (s : SenderState σ) (token : Option String) (env : RefreshEnv) :
    (refreshSASTokenAsync s.mute token env).2 = (refreshSASTokenAsync s token env).2.mute := by
  unfold refreshSASTokenAsync
  cases token with
  | none => rfl
  | some token =>
    have hconfig : s.mute.client.extSASTokenParseConfig = s.client.extSASTokenParseConfig := rfl
    rw [mute_credential, mute_amqpState, mute_extRefreshSASToken, hconfig]
    dsimp only
    cases env.parsed with
    | none => split_ifs <;> rfl
    | some cfg =>
      dsimp only
      split_ifs <;> first | rfl | simp [mute, muteEvent]

theorem afterStateChange_mute (s : SenderState σ) (newState : MessageSenderState)
    (call : UamqpCall) :
    afterStateChange s.mute newState call = (afterStateChange s newState call).mute := by
  unfold afterStateChange
  split_ifs
  · exact raise_mute s _ _ (fun s ↦ { s with control := .uamqp call }) rfl
  · rfl

theorem onMessageSenderStateChanged_mute (s : SenderState σ)
    (newState previousState : MessageSenderState) (call : UamqpCall) :
    onMessageSenderStateChanged s.mute newState previousState call =
      (onMessageSenderStateChanged s newState previousState call).mute := by
  have hset : { s.mute with client := { s.mute.client with messageSenderState := newState } } =
      ({ s with client := { s.client with messageSenderState := newState } } :
        SenderState σ).mute := rfl
  unfold onMessageSenderStateChanged
  rw [hset]
  generalize ({ s with client := { s.client with messageSenderState := newState } } :
    SenderState σ) = s
  have hcb : s.mute.client.stateChangeCb = s.client.stateChangeCb := rfl
  dsimp only
  rw [hcb]
  split_ifs
  · rfl
  · cases s.client.stateChangeCb with
    | none => exact afterStateChange_mute s newState call
    | some callback =>
      cases reportedState newState with
      | none => exact afterStateChange_mute s newState call
      | some state => simp [mute, muteEvent]

theorem uamqpReturn_mute (s : SenderState σ) (ok : Bool) {call : UamqpCall}
    (hlooks : ∀ n next, call ≠ .messagesenderSendAsync n next false) :
    uamqpReturn s.mute ok call = (uamqpReturn s ok call).mute := by
  cases call with
  | messagesenderOpen =>
    cases ok with
    | false => rfl
    | true => exact startLoop_mute s
  | messagesenderSendAsync n next taken =>
    cases taken with
    | true => rfl
    | false => exact absurd rfl (hlooks n next)
  | connectionDowork => rfl
  | messagesenderDestroy after =>
    simp only [uamqpReturn]
    rw [finishDestroyUamqpStack_mute, afterDestroyUamqpStack_mute]

theorem confirmReturn_mute (s : SenderState σ) (n : Nat) (after : AfterConfirm) :
    confirmReturn s.mute n after = (confirmReturn s n after).mute := by
  have h := unlink_mute s n
  cases after with
  | uamqp call => exact congrArg (fun t : SenderState σ ↦ { t with control := .uamqp call }) h
  | loop next => exact congrArg (fun t : SenderState σ ↦ { t with control := .loop next }) h
  | draining => rfl

theorem destroy_mute (s : SenderState σ) : destroy s.mute = (destroy s).mute := by
  have hset : { s.mute with destroying := true, log := s.mute.log ++ [SenderEvent.destroying] } =
      ({ s with destroying := true, log := s.log ++ [.destroying] } : SenderState σ).mute := by
    simp [mute, muteEvent]
  unfold destroy
  rw [hset, destroyUamqpStack_mute]

/-- A step that looks at no callback does the same to a muted sender. -/
theorem step_mute {s : SenderState σ} {i : SenderInput ι} (hlooks : looks s i = false) :
    step auth s.mute i = (step auth s i).map mute := by
  have hmay : mayCall s.mute = mayCall s := rfl
  have hcontrol : s.mute.control = s.control := rfl
  have hdestroying : s.mute.destroying = s.destroying := rfl
  cases i with
  | sendAsync _ _ _ _ => cases hlooks
  | sendBatchAsync _ _ _ _ => cases hlooks
  | iterate _ _ _ => cases hlooks
  | onMessageSendComplete _ _ => cases hlooks
  | drain => cases hlooks
  | setMessageTimeout timeout =>
    simp only [step, hmay]
    split_ifs <;> rfl
  | setStateChangeCallback callback =>
    simp only [step, hmay]
    split_ifs <;> rfl
  | setErrorCallback callback =>
    simp only [step, hmay]
    split_ifs <;> rfl
  | setLogTrace on =>
    simp only [step, hmay]
    split_ifs <;> rfl
  | refreshSASTokenAsync token env =>
    simp only [step, hmay, refreshSASTokenAsync_mute]
    split_ifs <;> rfl
  | doWork env =>
    simp only [step, hcontrol, hdestroying, doWork_mute]
    split_ifs <;> rfl
  | destroy =>
    simp only [step, hcontrol, hdestroying, destroy_mute]
    split_ifs <;> rfl
  | onMessageSenderStateChanged newState previousState =>
    simp only [step, hcontrol, mute_stack]
    cases s.control with
    | uamqp call =>
      by_cases hsender : (s.client.stack .messageSender).isSome
      · simp only [hsender, if_true, onMessageSenderStateChanged_mute]
        rfl
      · simp only [hsender]
        rfl
    | _ => rfl
  | onCBSPutTokenOperationComplete r env =>
    have hputs : s.mute.outstandingPuts = s.outstandingPuts := rfl
    simp only [step, hcontrol, mute_cbsHandle, hputs]
    split
    · split_ifs
      · rw [onCBSPutTokenOperationComplete, answer_mute]
        rfl
      · rfl
    · rfl
  | uamqpReturn ok =>
    simp only [step, hcontrol]
    cases hc : s.control with
    | uamqp call =>
      refine congrArg some (uamqpReturn_mute s ok fun n next hcall ↦ ?_)
      simp [looks, hc, hcall] at hlooks
    | _ => rfl
  | callbackReturn =>
    simp only [step, hcontrol]
    cases s.control with
    | confirming n after => exact congrArg some (confirmReturn_mute s n after)
    | stateChangeCb newState call => exact congrArg some (afterStateChange_mute s newState call)
    | errorCb after =>
      cases after with
      | tearDown => exact congrArg some (destroyUamqpStack_mute s _)
      | _ => rfl
    | _ => rfl

/-! ### A callback in the place of NULL -/

/-- The callback `f` in the place of a NULL callback with a NULL context. -/
def fillCallback (f : Nat) (callback context : Option Nat) : Option Nat :=
  if callback.isNone && context.isNone then some f else callback

/-- The input with `f` in the place of NULL. -/
def fillInput (f : Nat) : SenderInput ι → SenderInput ι
  | .sendAsync event callback context env =>
    .sendAsync event (fillCallback f callback context) context env
  | .sendBatchAsync list callback context env =>
    .sendBatchAsync list (fillCallback f callback context) context env
  | i => i

/-- The second inputs are the first ones with `f` in the place of NULL, where `f` is a callback that
returns at once. -/
inductive Filled (f : Nat) : List (SenderInput ι) → List (SenderInput ι) → Prop
  | nil : Filled f [] []
  | cons {is js : List (SenderInput ι)} (i : SenderInput ι) (h : Filled f is js) :
    Filled f (i :: is) (fillInput f i :: js)
  | returned {is js : List (SenderInput ι)} (i : SenderInput ι) (h : Filled f is js) :
    Filled f (i :: is) (fillInput f i :: .callbackReturn :: js)

/-- The second sender differs from the first in its callbacks only, and every entry has one. -/
structure Fills (s s' : SenderState σ) : Prop where
  mute : s'.mute = s.mute
  heard : ∀ e ∈ s'.client.outgoingEvents, e.callback.isSome = true

section Fills

variable {s s' : SenderState σ} (h : Fills s s')
include h

theorem Fills.control : s'.control = s.control :=
  (congrArg SenderState.control h.mute :)

theorem Fills.inFlight : s'.inFlight = s.inFlight :=
  (congrArg SenderState.inFlight h.mute :)

theorem Fills.flink (n : Nat) : s'.flink n = s.flink n := by
  rw [← flink_mute s', h.mute, flink_mute]

theorem Fills.hasTimeout {e e' : EventHubEventList} (he : e'.mute = e.mute) (currentTime : UInt64) :
    EventHubClientLL.hasTimeout s'.client e' currentTime =
      EventHubClientLL.hasTimeout s.client e currentTime := by
  have hlimit : s'.client.msgTimeout = s.client.msgTimeout :=
    (congrArg (fun t : SenderState σ ↦ t.client.msgTimeout) h.mute :)
  have hidle : e'.idleTimer = e.idleTimer := (congrArg EventHubEventList.idleTimer he :)
  rw [EventHubClientLL.hasTimeout, EventHubClientLL.hasTimeout, hlimit, hidle]

/-- Both senders list the entry numbered `n`, or neither does. -/
theorem Fills.entry_cases (n : Nat) :
    (s.entry? n = none ∧ s'.entry? n = none) ∨
    ∃ e e', s.entry? n = some e ∧ s'.entry? n = some e' ∧ e'.mute = e.mute ∧
      e'.callback.isSome = true := by
  have hmap : (s'.entry? n).map EventHubEventList.mute =
    (s.entry? n).map EventHubEventList.mute := by
    rw [← mute_entry, ← mute_entry, h.mute]
  cases hentry' : s'.entry? n with
  | none =>
    rw [hentry', Option.map_none] at hmap
    exact Or.inl ⟨Option.map_eq_none_iff.mp hmap.symm, rfl⟩
  | some e' =>
    rw [hentry', Option.map_some] at hmap
    obtain ⟨e, hentry, he⟩ := Option.map_eq_some_iff.mp hmap.symm
    exact Or.inr ⟨e, e', hentry, rfl, he.symm, h.heard e' (entry?_spec hentry').1⟩

end Fills

/-- Calling the callbacks of an entry that has one in both senders. -/
theorem confirm_mute_eq {t t' : SenderState σ} (hmute : t'.mute = t.mute) {e e' : EventHubEventList}
    (he : e'.mute = e.mute) (hheard : e.callback.isSome = true)
    (hheard' : e'.callback.isSome = true) (cause : List SenderEvent)
    (r : EventHubClientConfirmationResult) (after : AfterConfirm) :
    (t'.confirm e' cause r after).mute = (t.confirm e cause r after).mute := by
  have hnumber : e'.number = e.number := (congrArg EventHubEventList.number he :)
  rw [confirm_mute hheard', confirm_mute hheard, hmute, hnumber]

theorem expire_mute {s : SenderState σ} {e : EventHubEventList} (hheard : e.callback.isSome = true)
    (currentTime : UInt64) :
    (expire s e currentTime).mute = { (s.mute.waitForAck e.number).emit
        [.overdue e.number e.idleTimer currentTime s.mute.client.msgTimeout] with
      control := .confirming e.number (.loop (s.mute.flink e.number)) } := by
  obtain ⟨callback, hcallback⟩ := Option.isSome_iff_exists.mp hheard
  simp only [expire, hcallback]
  rw [confirm_mute hheard, waitForAck_mute, flink_mute]
  rfl

theorem handOver_mute (s : SenderState σ) (e : EventHubEventList) (message : AMQPMessage)
    (taken : Bool) : handOver s.mute e.mute message taken = (handOver s e message taken).mute := by
  have hnumber : e.mute.number = e.number := rfl
  unfold handOver
  rw [hnumber, flink_mute, waitForAck_mute, pass_mute]
  simp [mute, muteEvent]

theorem iterate_fill {s s' : SenderState σ} (h : Fills s s') {c : Option Nat}
    (hs : s.control = .loop c) {env : BuildEnv} {currentTime : UInt64} {taken : Bool}
    (hnull : sparesNull s (.iterate env currentTime taken : SenderInput ι) = true) :
    (iterate s' c env currentTime taken).mute = (iterate s c env currentTime taken).mute := by
  cases c with
  | none =>
    simp only [iterate]
    rw [← connectionDowork_mute, h.mute, connectionDowork_mute]
  | some n =>
    rcases h.entry_cases n with ⟨hentry, hentry'⟩ | ⟨e, e', hentry, hentry', he, hheard'⟩
    · rw [iterate_gone env currentTime taken hentry, iterate_gone env currentTime taken hentry']
      exact congrArg (fun t : SenderState σ ↦ { t with control := .undefinedBehaviour }) h.mute
    · simp only [sparesNull, hs, hentry, Option.all_some, Bool.or_eq_true, Bool.and_eq_true,
        decide_eq_true_eq] at hnull
      have hnumber : e'.number = e.number := (congrArg EventHubEventList.number he :)
      have hstatus' : e'.currentStatus = e.currentStatus :=
        (congrArg EventHubEventList.currentStatus he :)
      have hevents' : e'.eventDataList = e.eventDataList :=
        (congrArg EventHubEventList.eventDataList he :)
      have hidle' : e'.idleTimer = e.idleTimer := (congrArg EventHubEventList.idleTimer he :)
      cases hstatus : e.currentStatus with
      | waitingForAck =>
        rw [iterate_acked env currentTime taken hentry hstatus,
          iterate_acked env currentTime taken hentry' (hstatus'.trans hstatus), h.flink]
        exact congrArg (fun t : SenderState σ ↦ { t with control := .loop (s.flink n) }) h.mute
      | waitingToBeSent =>
        cases hbuild : buildMessage env e.eventDataList with
        | none =>
          have hheard : e.callback.isSome = true := by simpa [hstatus, hbuild] using hnull
          rw [iterate_unbuildable env currentTime taken hentry hstatus hbuild,
            iterate_unbuildable env currentTime taken hentry' (hstatus'.trans hstatus)
              (hevents' ▸ hbuild), h.flink]
          exact confirm_mute_eq h.mute he hheard hheard' _ _ _
        | some message =>
          have htick : ({ s' with lastTick := currentTime } : SenderState σ).mute =
              ({ s with lastTick := currentTime } : SenderState σ).mute :=
            congrArg (fun t : SenderState σ ↦ { t with lastTick := currentTime }) h.mute
          rw [iterate_built env currentTime taken hentry hstatus hbuild,
            iterate_built env currentTime taken hentry' (hstatus'.trans hstatus)
              (hevents' ▸ hbuild), h.hasTimeout he]
          split_ifs with htimeout
          · have hheard : e.callback.isSome = true := by simpa [hstatus, htimeout] using hnull
            rw [expire_mute hheard', expire_mute hheard, htick, hnumber, hidle']
          · rw [← handOver_mute, htick, he, handOver_mute]

theorem uamqpReturn_fill {s s' : SenderState σ} (h : Fills s s') {call : UamqpCall}
    (hs : s.control = .uamqp call) {ok : Bool}
    (hnull : sparesNull s (.uamqpReturn ok : SenderInput ι) = true) :
    (uamqpReturn s' ok call).mute = (uamqpReturn s ok call).mute := by
  by_cases hrefused : ∃ n next, call = .messagesenderSendAsync n next false
  · obtain ⟨n, next, rfl⟩ := hrefused
    simp only [uamqpReturn, if_neg (show ¬false = true by simp)]
    rcases h.entry_cases n with ⟨hentry, hentry'⟩ | ⟨e, e', hentry, hentry', he, hheard'⟩
    · rw [hentry, hentry']
      exact congrArg (fun t : SenderState σ ↦ { t with control := .undefinedBehaviour }) h.mute
    · have hheard : e.callback.isSome = true := by simpa [sparesNull, hs, hentry] using hnull
      rw [hentry, hentry']
      exact confirm_mute_eq h.mute he hheard hheard' _ _ _
  · have hlooks : ∀ n next, call ≠ .messagesenderSendAsync n next false :=
      fun n next hcall ↦ hrefused ⟨n, next, hcall⟩
    rw [← uamqpReturn_mute s' ok hlooks, h.mute, uamqpReturn_mute s ok hlooks]

/-- A report on an entry without a callback unlinks it at once, and one on an entry with a callback
when the callback returns. -/
theorem onMessageSendComplete_fill {s s' : SenderState σ} (h : Fills s s') {call : UamqpCall}
    (hs : s.control = .uamqp call) (n : Nat) (r : MessageSendResult) :
    (onMessageSendComplete s' n r call).mute = (onMessageSendComplete s n r call).mute ∨
    ((onMessageSendComplete s' n r call).control = .confirming n (.uamqp call) ∧
      (confirmReturn (onMessageSendComplete s' n r call) n (.uamqp call)).mute =
        (onMessageSendComplete s n r call).mute) := by
  have hflight : ({ s' with inFlight := s'.inFlight.erase n } : SenderState σ).mute =
      ({ s with inFlight := s.inFlight.erase n } : SenderState σ).mute :=
    (congrArg (fun t : SenderState σ ↦ { t with inFlight := t.inFlight.erase n }) h.mute :)
  rcases h.entry_cases n with ⟨hentry, hentry'⟩ | ⟨e, e', hentry, hentry', he, hheard'⟩
  · simp only [onMessageSendComplete, hentry, hentry']
    exact Or.inl (congrArg (fun t : SenderState σ ↦
      { t with control := .undefinedBehaviour }) h.mute)
  · obtain ⟨callback', hcallback'⟩ := Option.isSome_iff_exists.mp hheard'
    have hn : e'.number = n := (entry?_spec hentry').2
    cases hcallback : e.callback with
    | some callback =>
      refine Or.inl ?_
      simp only [onMessageSendComplete, hentry, hentry', hcallback, hcallback']
      exact confirm_mute_eq hflight he (hcallback ▸ rfl) hheard' _ _ _
    | none =>
      refine Or.inr ?_
      simp only [onMessageSendComplete, hentry, hentry', hcallback, hcallback']
      refine ⟨by simp [SenderState.confirm, hcallback', hn], ?_⟩
      rw [← confirmReturn_mute, confirm_mute hheard', hflight, ← unlink_mute, emit_mute]
      simp only [confirmReturn, ← hs]
      rfl

/-- One round of the loop of `EventHubClient_LL_Destroy`, with the same difference. -/
theorem drain_fill {s s' : SenderState σ} (h : Fills s s') (hs : s.control = .draining) :
    (drain s').mute = (drain s).mute ∨
    ∃ n, (drain s').control = .confirming n .draining ∧
      (confirmReturn (drain s') n .draining).mute = (drain s).mute := by
  have hlist : s'.client.outgoingEvents.map EventHubEventList.mute =
      s.client.outgoingEvents.map EventHubEventList.mute :=
    (congrArg (fun t : SenderState σ ↦ t.client.outgoingEvents) h.mute :)
  cases hevents : s.client.outgoingEvents with
  | nil =>
    have hevents' : s'.client.outgoingEvents = [] := by simpa [hevents] using hlist
    simp only [drain, hevents, hevents']
    exact Or.inl (congrArg (fun t : SenderState σ ↦ { t with control := .destroyed }) h.mute)
  | cons e rest =>
    rw [hevents, List.map_cons] at hlist
    obtain ⟨e', rest', hevents', he, hrest⟩ := List.map_eq_cons_iff.mp hlist
    have hheard' : e'.callback.isSome = true := h.heard e' (hevents' ▸ List.mem_cons_self)
    obtain ⟨callback', hcallback'⟩ := Option.isSome_iff_exists.mp hheard'
    have hnumber : e'.number = e.number := (congrArg EventHubEventList.number he :)
    have hclones : e'.clones = e.clones := (congrArg EventHubEventList.clones he :)
    have hunlinked : ({ s' with
          client := { s'.client with outgoingEvents := rest' }
          inFlight := s'.inFlight.erase e'.number
          freed := s'.freed ++ e'.clones } : SenderState σ).mute =
        ({ s with
          client := { s.client with outgoingEvents := rest }
          inFlight := s.inFlight.erase e.number
          freed := s.freed ++ e.clones } : SenderState σ).mute := by
      have hset := (congrArg (fun t : SenderState σ ↦ { t with
        client := { t.client with outgoingEvents := rest.map EventHubEventList.mute }
        inFlight := t.inFlight.erase e.number
        freed := t.freed ++ e.clones }) h.mute :)
      rw [hnumber, hclones]
      simp only [mute] at hset ⊢
      rwa [hrest]
    simp only [drain, hevents, hevents']
    cases hcallback : e.callback with
    | some callback =>
      simp only [hcallback']
      rw [hnumber] at hunlinked ⊢
      exact Or.inl (confirm_mute_eq hunlinked he (hcallback ▸ rfl) hheard' _ _ _)
    | none =>
      simp only [hcallback']
      refine Or.inr ⟨e'.number, by simp [SenderState.confirm, hcallback'], ?_⟩
      rw [← confirmReturn_mute, confirm_mute hheard', hunlinked, emit_mute]
      simp only [confirmReturn, ← hs, hnumber]
      rfl

/-! ### Send calls -/

theorem queue_mute (s : SenderState σ) (list : List EventData) (callback : Option UserCallback)
    (idleTimer : UInt64) :
    (queue s list callback idleTimer).mute = queue s.mute list none idleTimer := by
  simp [queue, mute, muteEvent, EventHubEventList.mute]

/-- With a callback or without one, a send call that is not refused for its arguments does the
same. -/
theorem sendAsync_mute (s : SenderState σ) (event : Option EventData)
    {callback context : Option Nat}
    (hargs : (callback.isNone && context.isSome) = false) (env : SendEnv) :
    (sendAsync s event callback context env).2.mute = (sendAsync s.mute event none none env).2 := by
  unfold sendAsync
  cases event with
  | none => rfl
  | some event =>
    dsimp only
    rw [hargs]
    simp only [Bool.false_eq_true, if_false, Option.isSome_none, Bool.and_false]
    split_ifs <;> first | rfl | exact queue_mute ..

theorem sendBatchAsync_mute (s : SenderState σ) (list : Option (List (Option EventData)))
    {callback context : Option Nat} (hargs : (callback.isNone && context.isSome) = false)
    (env : SendEnv) :
    (sendBatchAsync s list callback context env).2.mute =
      (sendBatchAsync s.mute list none none env).2 := by
  unfold sendBatchAsync
  cases list with
  | none => rfl
  | some list =>
    dsimp only
    rw [hargs]
    simp only [Option.isSome_none, Bool.and_false]
    cases validateEventDataList list with
    | none => split_ifs <;> rfl
    | some events =>
      dsimp only
      split_ifs <;> first | rfl | exact queue_mute ..

theorem Fills.mayCall {s s' : SenderState σ} (h : Fills s s') :
    EventHubClientLL.mayCall s' = EventHubClientLL.mayCall s :=
  (congrArg EventHubClientLL.mayCall h.mute :)

theorem heard_of_stays {s t : SenderState σ} (hst : Stays s t)
    (h : ∀ e ∈ s.client.outgoingEvents, e.callback.isSome = true) :
    ∀ e ∈ t.client.outgoingEvents, e.callback.isSome = true := by
  intro e he
  obtain ⟨a, ha, -, hcallback, -⟩ := hst.entries e he
  exact hcallback ▸ h a ha

theorem heard_of_queueing {s t : SenderState σ} {callback : Option UserCallback} {tick : UInt64}
    (hst : Queueing s callback tick t) (hcallback : callback.isSome = true)
    (h : ∀ e ∈ s.client.outgoingEvents, e.callback.isSome = true) :
    ∀ e ∈ t.client.outgoingEvents, e.callback.isSome = true := by
  rcases hst with rfl | rfl | ⟨list, key, -, rfl⟩
  · exact h
  · exact h
  · intro e he
    rcases List.mem_append.mp he with he | he
    · exact h e he
    · obtain rfl := List.mem_singleton.mp he
      exact hcallback

/-- With `f` in the place of NULL there is a callback, or the arguments are refused as before. -/
theorem fillCallback_cases (f : Nat) (callback context : Option Nat) :
    (fillCallback f callback context = callback ∧ (callback.isNone && context.isSome) = true) ∨
    ((fillCallback f callback context).isSome = true ∧
      (callback.isNone && context.isSome) = false) := by
  cases callback <;> cases context <;> simp [fillCallback]

theorem sendAsync_fill {s s' : SenderState σ} (h : Fills s s') (f : Nat) (event : Option EventData)
    (callback context : Option Nat) (env : SendEnv) :
    Fills (sendAsync s event callback context env).2
      (sendAsync s' event (fillCallback f callback context) context env).2 := by
  rcases fillCallback_cases f callback context with ⟨heq, hargs⟩ | ⟨hsome, hargs⟩
  · have hrefused : ∀ s : SenderState σ, (sendAsync s event callback context env).2 = s := by
      intro s
      cases event <;> simp [sendAsync, hargs]
    rw [heq, hrefused, hrefused]
    exact h
  · have hargs' : ((fillCallback f callback context).isNone && context.isSome) = false := by
      simp [Option.isNone_eq_false_iff.mpr hsome]
    refine ⟨?_, heard_of_queueing (sendAsync_cases ..) (by simpa using hsome) h.heard⟩
    rw [sendAsync_mute s' event hargs', h.mute, sendAsync_mute s event hargs]

theorem sendBatchAsync_fill {s s' : SenderState σ} (h : Fills s s') (f : Nat)
    (list : Option (List (Option EventData))) (callback context : Option Nat) (env : SendEnv) :
    Fills (sendBatchAsync s list callback context env).2
      (sendBatchAsync s' list (fillCallback f callback context) context env).2 := by
  rcases fillCallback_cases f callback context with ⟨heq, hargs⟩ | ⟨hsome, hargs⟩
  · have hrefused : ∀ s : SenderState σ, (sendBatchAsync s list callback context env).2 = s := by
      intro s
      cases list <;> simp [sendBatchAsync, hargs]
    rw [heq, hrefused, hrefused]
    exact h
  · have hargs' : ((fillCallback f callback context).isNone && context.isSome) = false := by
      simp [Option.isNone_eq_false_iff.mpr hsome]
    refine ⟨?_, heard_of_queueing (sendBatchAsync_cases ..) (by simpa using hsome) h.heard⟩
    rw [sendBatchAsync_mute s' list hargs', h.mute, sendBatchAsync_mute s list hargs]

/-! ### Runs -/

/-- A step of a sender that spares NULL is one step of a sender with callbacks, or one step and the
return of the callback that it called. -/
theorem step_fill {s s' t : SenderState σ} {i : SenderInput ι} (h : Fills s s') (f : Nat)
    (hnull : sparesNull s i = true) (hstep : step auth s i = some t) :
    (∃ t', step auth s' (fillInput f i) = some t' ∧ Fills t t') ∨
    ∃ u' t', step auth s' (fillInput f i) = some u' ∧ step auth u' .callbackReturn = some t' ∧
      Fills t t' := by
  have hone : ∀ {t'}, i.sends = none → step auth s' i = some t' → t'.mute = t.mute →
      Fills t t' := by
    intro t' hsends hstep' hmute
    rcases step_stays auth hstep' with ⟨callback, tick, hsome, -⟩ | hstays
    · cases hsends.symm.trans hsome
    · exact ⟨hmute, heard_of_stays hstays h.heard⟩
  have htwo : ∀ {u' n after}, i.sends = none → step auth s' i = some u' →
      u'.control = .confirming n after → (confirmReturn u' n after).mute = t.mute →
      ∃ u' t', step auth s' i = some u' ∧ step auth u' .callbackReturn = some t' ∧ Fills t t' := by
    intro u' n after hsends hstep' hcontrol hmute
    rcases step_stays auth hstep' with ⟨callback, tick, hsome, -⟩ | hstays
    · cases hsends.symm.trans hsome
    · refine ⟨u', confirmReturn u' n after, hstep', by simp [step, hcontrol], hmute, ?_⟩
      exact heard_of_stays (confirmReturn_stays u' n after) (heard_of_stays hstays h.heard)
  by_cases hlooks : looks s i = false
  · have hlooks' : looks s' i = false := by
      rw [← hlooks]
      unfold looks
      rw [h.control]
    have hmute := step_mute auth hlooks'
    rw [h.mute, step_mute auth hlooks, hstep] at hmute
    obtain ⟨t', hstep', htt'⟩ := Option.map_eq_some_iff.mp hmute.symm
    have hfill : fillInput f i = i ∧ i.sends = none := by
      cases i <;> first | exact ⟨rfl, rfl⟩ | cases hlooks
    exact Or.inl ⟨t', hfill.1.symm ▸ hstep', hone hfill.2 hstep' htt'⟩
  · cases i with
    | sendAsync event callback context env =>
      obtain ⟨hmay, ⟨⟩⟩ := Option.ite_none_right_eq_some.mp hstep
      exact Or.inl ⟨_, by simp [fillInput, step, h.mayCall, hmay], sendAsync_fill h f event _ _ env⟩
    | sendBatchAsync list callback context env =>
      obtain ⟨hmay, ⟨⟩⟩ := Option.ite_none_right_eq_some.mp hstep
      exact Or.inl ⟨_, by simp [fillInput, step, h.mayCall, hmay],
        sendBatchAsync_fill h f list _ _ env⟩
    | iterate env currentTime taken =>
      cases hc : s.control with
      | loop c =>
        simp only [step, hc, Option.some.injEq] at hstep
        subst hstep
        have hstep' : step auth s' (.iterate env currentTime taken) =
            some (iterate s' c env currentTime taken) := by simp only [step, h.control, hc]
        exact Or.inl ⟨_, hstep', hone rfl hstep' (iterate_fill h hc hnull)⟩
      | _ => simp [step, hc] at hstep
    | onMessageSendComplete n r =>
      cases hc : s.control with
      | uamqp call =>
        simp only [step, hc, Option.ite_none_right_eq_some] at hstep
        obtain ⟨hn, ⟨⟩⟩ := hstep
        have hstep' : step auth s' (.onMessageSendComplete n r) =
            some (onMessageSendComplete s' n r call) := by
          simp only [step, h.control, hc, h.inFlight, if_pos hn]
        rcases onMessageSendComplete_fill h hc n r with hmute | ⟨hcontrol, hmute⟩
        · exact Or.inl ⟨_, hstep', hone rfl hstep' hmute⟩
        · exact Or.inr (htwo rfl hstep' hcontrol hmute)
      | _ => simp [step, hc] at hstep
    | uamqpReturn ok =>
      cases hc : s.control with
      | uamqp call =>
        simp only [step, hc, Option.some.injEq] at hstep
        subst hstep
        have hstep' : step auth s' (.uamqpReturn ok) = some (uamqpReturn s' ok call) := by
          simp only [step, h.control, hc]
        exact Or.inl ⟨_, hstep', hone rfl hstep' (uamqpReturn_fill h hc hnull)⟩
      | _ => simp [step, hc] at hstep
    | drain =>
      cases hc : s.control with
      | draining =>
        simp only [step, hc, Option.some.injEq] at hstep
        subst hstep
        have hstep' : step auth s' (.drain : SenderInput ι) = some (drain s') := by
          simp only [step, h.control, hc]
        rcases drain_fill h hc with hmute | ⟨n, hcontrol, hmute⟩
        · exact Or.inl ⟨_, hstep', hone rfl hstep' hmute⟩
        · exact Or.inr (htwo rfl hstep' hcontrol hmute)
      | _ => simp [step, hc] at hstep
    | _ => exact absurd rfl hlooks

/-- A run that spares NULL is, after `mute`, a run in which every entry has a callback. -/
theorem run_filled {s s' t : SenderState σ} (h : Fills s s') (f : Nat) {is : List (SenderInput ι)}
    (hnull : (senderMachine auth).Meets (fun s i ↦ sparesNull s i = true) s is)
    (hrun : (senderMachine auth).run s is = some t) :
    ∃ js t', Filled f is js ∧ (senderMachine auth).run s' js = some t' ∧ Fills t t' := by
  induction is generalizing s s' with
  | nil =>
    obtain rfl : s = t := Option.some.inj hrun
    exact ⟨[], s', .nil, rfl, h⟩
  | cons i is ih =>
    rw [Machine.run_cons] at hrun
    obtain ⟨u, hu, hut⟩ := Option.bind_eq_some_iff.mp hrun
    rcases step_fill auth h f hnull.1 hu with ⟨u', hu', hfills⟩ | ⟨v', u', hv', hu', hfills⟩
    · obtain ⟨js, t', hfilled, hrun', htt'⟩ := ih hfills (hnull.2 u hu) hut
      refine ⟨_, t', .cons i hfilled, ?_, htt'⟩
      rw [Machine.run_cons]
      exact Option.bind_eq_some_iff.mpr ⟨u', hu', hrun'⟩
    · obtain ⟨js, t', hfilled, hrun', htt'⟩ := ih hfills (hnull.2 u hu) hut
      refine ⟨_, t', .returned i hfilled, ?_, htt'⟩
      rw [Machine.run_cons]
      refine Option.bind_eq_some_iff.mpr ⟨v', hv', ?_⟩
      rw [Machine.run_cons]
      exact Option.bind_eq_some_iff.mpr ⟨u', hu', hrun'⟩

/-- In every run in which no entry without a callback comes to an unguarded call of it, no NULL
callback is called, the clones of a listed entry are not freed, those of an entry that is gone are
freed once, and the run with a callback `f` in the place of NULL differs in the calls of `f`
only. -/
theorem run_spares_null {c : EventHubClientLL σ} (hc : Created c) {is js : List (SenderInput ι)}
    {s t : SenderState σ} (hs : (senderMachine auth).run { client := c } is = some s)
    (ht : (senderMachine auth).run s js = some t)
    (hnull : (senderMachine auth).Meets (fun s i ↦ sparesNull s i = true) { client := c }
    (is ++ js)) :
    t.control ≠ .undefinedBehaviour ∧
    (∀ n callback r, SenderEvent.confirmed n callback r ∈ t.log →
      ∃ idleTimer, SenderEvent.accepted n (some callback) idleTimer ∈ t.log) ∧
    t.freed.Nodup ∧
    (∀ e ∈ s.client.outgoingEvents,
      (t.Holds e ∧ ∀ x ∈ t.freed, x.1 ≠ e.number) ∨ LetGo t e) ∧
    (t.control = .destroyed → t.client.outgoingEvents = []) ∧
    ∀ f, ∃ filled t', Filled f (is ++ js) filled ∧
      (senderMachine auth).run { client := c } filled = some t' ∧ t'.mute = t.mute ∧
      ∀ e ∈ t'.client.outgoingEvents, e.callback.isSome = true := by
  have hrun : (senderMachine auth).run { client := c } (is ++ js) = some t := by
    rw [Machine.run_append, hs]
    exact ht
  have hkempt := run_kempt auth (created_kempt hc) hs
  have hkempt' := run_kempt auth hkempt ht
  have htended := run_tended auth hc hrun
  refine ⟨?_, fun n callback r h ↦ (hkempt'.confirmed n callback r h).2, htended.nodup,
    fun e he ↦ ?_, hkempt'.emptied, fun f ↦ ?_⟩
  · have hstep : ∀ s i t, Kempt s ∧ s.control ≠ .undefinedBehaviour → sparesNull s i = true →
        (senderMachine auth).step s i = some t → Kempt t ∧ t.control ≠ .undefinedBehaviour :=
      fun s i t hs hi h ↦ ⟨step_kempt auth hs.1 h, step_defined auth hs.1.toPosted h hi hs.2⟩
    exact (Machine.run_invariant_of_meets hstep ⟨created_kempt hc, by simp⟩ hnull hrun).2
  · rcases run_holds_or_letGo auth hkempt.toPosted ht he with hholds | hgone
    · obtain ⟨a, ha, hnumber, -⟩ := id hholds
      exact Or.inl ⟨hholds, fun x hx ↦ hnumber ▸ htended.live a ha x hx⟩
    · exact Or.inr hgone
  · have hstart : Fills { client := c } ({ client := c } : SenderState σ) := by
      have hevents : c.outgoingEvents = [] := by cases hc <;> rfl
      exact ⟨rfl, by simp [hevents]⟩
    obtain ⟨filled, t', hfilled, hrun', hfills⟩ := run_filled auth hstart f hnull hrun
    exact ⟨filled, t', hfilled, hrun', hfills.mute, hfills.heard⟩

/-- An event without a callback that is sent and confirmed, then the sender is destroyed. -/
theorem run_spares_null_sendSilently :
    ∃ s t, (senderMachine (EventHubAuthCBS.authModule fun _ ↦ none)).run
        { client := createdFromConnectionString "name" "key" "host" "hub" "target" }
        (opened [{ buffer := [7] }]) = some s ∧
      (senderMachine (EventHubAuthCBS.authModule fun _ ↦ none)).run s
        [.iterate {} 20 true, .onMessageSendComplete 0 .ok, .uamqpReturn true, .iterate {} 20 true,
          .uamqpReturn true, .destroy, .uamqpReturn true, .drain] = some t ∧
      t.control = .destroyed ∧ t.freed = [(0, 0)] ∧
      ∀ e ∈ s.client.outgoingEvents, (t.Holds e ∧ ∀ x ∈ t.freed, x.1 ≠ e.number) ∨ LetGo t e := by
  refine ⟨_, _, rfl, rfl, rfl, by decide, ?_⟩
  exact (@run_spares_null _ _ (EventHubAuthCBS.authModule fun _ ↦ none) _
    (.fromConnectionString "name" "key" "host" "hub" "target") (opened [{ buffer := [7] }])
    [.iterate {} 20 true, .onMessageSendComplete 0 .ok, .uamqpReturn true, .iterate {} 20 true,
      .uamqpReturn true, .destroy, .uamqpReturn true, .drain] _ _ rfl rfl (by decide)).2.2.2.1

/-- The three ways to the call of a NULL callback: no message can be built, the message is too old,
and `messagesender_send_async` returns NULL. -/
theorem run_calls_null :
    (∃ t, (senderMachine (EventHubAuthCBS.authModule fun _ ↦ none)).run
        { client := createdFromConnectionString "name" "key" "host" "hub" "target" }
        (opened [{ buffer := [7] }] ++
          [.iterate { succeeds := fun call ↦ decide (call ≠ .eventDataGetData 0) } 20 true]) =
            some t ∧
      t.control = .undefinedBehaviour) ∧
    (∃ t, (senderMachine (EventHubAuthCBS.authModule fun _ ↦ none)).run
        { client := createdFromConnectionString "name" "key" "host" "hub" "target" }
        (.setMessageTimeout 1 :: opened [{ buffer := [7] }] ++ [.iterate {} 3000 true]) = some t ∧
      t.control = .undefinedBehaviour) ∧
    ∃ t, (senderMachine (EventHubAuthCBS.authModule fun _ ↦ none)).run
        { client := createdFromConnectionString "name" "key" "host" "hub" "target" }
        (opened [{ buffer := [7] }] ++ [.iterate {} 20 false, .uamqpReturn true]) = some t ∧
      t.control = .undefinedBehaviour :=
  ⟨⟨_, rfl, rfl⟩, ⟨_, rfl, rfl⟩, _, rfl, rfl⟩

end EventHubClientLL

end EventHubs
