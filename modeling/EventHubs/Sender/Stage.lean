import EventHubs.Sender.Record

/-!
# What a step of a sender does to its stack

Most steps leave the uAMQP stack and its authentication alone. `Act` lists the others: the
bring-up and the authentication in `EventHubClient_LL_DoWork`, a hand-over, a call of
`connection_dowork`, the completion of a put, an accepted refresh, and the two halves of
`destroy_uamqp_stack`.

## Main definitions

* `SenderControl.sending`, `SenderControl.steady` — where control stands.
* `SenderState.Offstage` — the stack and its authentication are left alone.
* `SenderState.Unseen` — what concerns tokens is left alone.
* `EventHubClientLL.Act`.

## Main results

* `EventHubClientLL.step_act`.
-/

namespace EventHubs

/-- Events that say nothing about the stack and its authentication. -/
def SenderEvent.mute : SenderEvent → Bool
  | .handedOver _ _ _ => false
  | .passed _ _ => false
  | .stored _ _ => false
  | .storedCBS _ => false
  | .authCreated => false
  | .auth _ => false
  | .stackDestroyed => false
  | .refreshAccepted _ => false
  | .doWork => false
  | _ => true

/-- Events that are no hand-over and say nothing about tokens. -/
def SenderEvent.blind : SenderEvent → Bool
  | .handedOver _ _ _ => false
  | .authCreated => false
  | .auth _ => false
  | .stackDestroyed => false
  | .refreshAccepted _ => false
  | .doWork => false
  | _ => true

theorem SenderEvent.blind_of_mute {e : SenderEvent} (h : e.mute = true) : e.blind = true := by
  cases e <;> first | rfl | cases h

namespace SenderControl

/-- Control stands in the sending branch of `EventHubClient_LL_DoWork`. -/
def sending (c : SenderControl) : Bool :=
  c.pass.isSome || c.call = some .messagesenderOpen

/-- The call is `messagesender_destroy`. -/
def destroys : UamqpCall → Bool
  | .messagesenderDestroy _ => true
  | _ => false

/-- No tear-down of the stack is under way. -/
def steady : SenderControl → Bool
  | .undefinedBehaviour => false
  | .errorCb .tearDown => false
  | c => !(c.call.any destroys)

theorem sending_of_call {c : SenderControl} {call : UamqpCall} (h : c.call = some call) :
    c.sending = (call.saved.isSome || call = .messagesenderOpen) := by
  cases c with
  | loop c => simp [SenderControl.call] at h
  | confirming n after =>
    cases after <;> simp_all [SenderControl.call, sending, SenderControl.pass]
  | _ => simp_all [sending, SenderControl.pass]

theorem steady_of_call {c : SenderControl} {call : UamqpCall} (h : c.call = some call) :
    c.steady = !destroys call := by
  cases c with
  | undefinedBehaviour => simp [SenderControl.call] at h
  | errorCb after => cases after <;> simp_all [SenderControl.call, steady]
  | _ => simp_all [steady]

/-- The sending branch runs on a stack that stays. -/
theorem steady_of_sending {c : SenderControl} (h : c.sending = true) : c.steady = true := by
  have hcall : ∀ call, c.call = some call → c.steady = true := fun call hc ↦ by
    rw [steady_of_call hc]
    rw [sending_of_call hc] at h
    cases call <;> simp_all [destroys, UamqpCall.saved]
  cases c with
  | uamqp call => exact hcall call rfl
  | stateChangeCb state call => exact hcall call rfl
  | errorCb after => cases after <;> first | exact hcall _ rfl | cases h
  | confirming n after => cases after <;> first | exact hcall _ rfl | rfl
  | undefinedBehaviour => cases h
  | _ => rfl

end SenderControl

namespace SenderState

variable {σ : Type}

/-- A step leaves the stack and its authentication alone. -/
structure Offstage (s t : SenderState σ) : Prop where
  stack : t.client.stack = s.client.stack
  cbsHandle : t.client.cbsHandle = s.client.cbsHandle
  amqpState : t.client.amqpState = s.client.amqpState
  credential : t.client.credential = s.client.credential
  extRefreshSASToken : t.client.extRefreshSASToken = s.client.extRefreshSASToken
  extSASTokenParseConfig : t.client.extSASTokenParseConfig = s.client.extSASTokenParseConfig
  outstandingPuts : t.outstandingPuts = s.outstandingPuts
  senderState : t.client.messageSenderState = s.client.messageSenderState ∨
    (s.client.stack .messageSender).isSome
  log : ∃ events, t.log = s.log ++ events ∧ ∀ e ∈ events, e.mute = true
  sending : t.control.sending = true → s.control.sending = true
  steady : t.control.steady = true → s.control.steady = true

/-- What concerns tokens is left alone. -/
structure Unseen (s t : SenderState σ) : Prop where
  cbsHandle : t.client.cbsHandle = s.client.cbsHandle
  credential : t.client.credential = s.client.credential
  extRefreshSASToken : t.client.extRefreshSASToken = s.client.extRefreshSASToken
  extSASTokenParseConfig : t.client.extSASTokenParseConfig = s.client.extSASTokenParseConfig
  outstandingPuts : t.outstandingPuts = s.outstandingPuts
  log : ∃ events, t.log = s.log ++ events ∧ ∀ e ∈ events, e.blind = true

theorem Offstage.unseen {s t : SenderState σ} (h : Offstage s t) : Unseen s t := by
  obtain ⟨events, hlog, hmute⟩ := h.log
  exact ⟨h.cbsHandle, h.credential, h.extRefreshSASToken, h.extSASTokenParseConfig,
    h.outstandingPuts, events, hlog, fun e he ↦ SenderEvent.blind_of_mute (hmute e he)⟩

namespace Unseen

theorem refl (s : SenderState σ) : Unseen s s := ⟨rfl, rfl, rfl, rfl, rfl, [], by simp, by simp⟩

theorem trans {s t u : SenderState σ} (h : Unseen s t) (h' : Unseen t u) : Unseen s u := by
  obtain ⟨events, hlog, hblind⟩ := h.log
  obtain ⟨events', hlog', hblind'⟩ := h'.log
  refine ⟨h'.1.trans h.1, h'.2.trans h.2, h'.3.trans h.3, h'.4.trans h.4, h'.5.trans h.5,
    events ++ events', by rw [hlog', hlog, List.append_assoc], fun e he ↦ ?_⟩
  exact (List.mem_append.mp he).elim (hblind e) (hblind' e)

theorem pass (s : SenderState σ) (call : StackCall) (field : StackField) :
    Unseen s (s.pass call field) :=
  ⟨rfl, rfl, rfl, rfl, rfl, _, rfl, by simp [SenderEvent.blind]⟩

theorem passCBS (s : SenderState σ) (call : StackCall) : Unseen s (s.passCBS call) :=
  ⟨rfl, rfl, rfl, rfl, rfl, _, rfl, by simp [SenderEvent.blind]⟩

end Unseen

namespace Offstage

/-- Only control changes. -/
theorem of_control {s : SenderState σ} {c : SenderControl}
    (hsending : c.sending = true → s.control.sending = true)
    (hsteady : c.steady = true → s.control.steady = true) :
    Offstage s { s with control := c } :=
  ⟨rfl, rfl, rfl, rfl, rfl, rfl, rfl, Or.inl rfl, ⟨[], by simp, by simp⟩, hsending, hsteady⟩

/-- Only the queue, the tick and the log change, and control. -/
theorem of_queue {s t : SenderState σ} {m : List SenderEvent}
    {q : List EventHubEventList} (hclient : t.client = { s.client with outgoingEvents := q })
    (hputs : t.outstandingPuts = s.outstandingPuts) (hlog : t.log = s.log ++ m)
    (hevents : ∀ e ∈ m, e.mute = true)
    (hsending : t.control.sending = true → s.control.sending = true)
    (hsteady : t.control.steady = true → s.control.steady = true) : Offstage s t := by
  refine ⟨?_, ?_, ?_, ?_, ?_, ?_, hputs, Or.inl ?_, ⟨m, hlog, hevents⟩, hsending, hsteady⟩ <;>
    rw [hclient]

/-- Control stays in the same call to uAMQP, and the state of the message sender may change. -/
theorem of_call {s t : SenderState σ} {m : List SenderEvent} {state : MessageSenderState}
    {call : UamqpCall} (hs : s.control.call = some call) (ht : t.control.call = some call)
    (hsender : (s.client.stack .messageSender).isSome ∨ state = s.client.messageSenderState)
    (hclient : t.client = { s.client with messageSenderState := state })
    (hputs : t.outstandingPuts = s.outstandingPuts) (hlog : t.log = s.log ++ m)
    (hevents : ∀ e ∈ m, e.mute = true) : Offstage s t := by
  refine ⟨?_, ?_, ?_, ?_, ?_, ?_, hputs, ?_, ⟨m, hlog, hevents⟩, ?_, ?_⟩
  iterate 6 rw [hclient]
  · rw [hclient]
    exact hsender.symm
  · rw [SenderControl.sending_of_call hs, SenderControl.sending_of_call ht]
    exact id
  · rw [SenderControl.steady_of_call hs, SenderControl.steady_of_call ht]
    exact id

end Offstage

/-- Calling a confirmation callback. -/
theorem confirm_offstage {s t : SenderState σ} {e : EventHubEventList} {cause : List SenderEvent}
    {q : List EventHubEventList} (r : EventHubClientConfirmationResult) {after : AfterConfirm}
    (hclient : t.client = { s.client with outgoingEvents := q })
    (hputs : t.outstandingPuts = s.outstandingPuts) (hlog : t.log = s.log)
    (hcause : ∀ a ∈ cause, a.mute = true)
    (hsending : (SenderControl.confirming e.number after).sending = true → s.control.sending = true)
    (hsteady : (SenderControl.confirming e.number after).steady = true →
      s.control.steady = true) : Offstage s (t.confirm e cause r after) := by
  cases hcb : e.callback with
  | none =>
    simp only [SenderState.confirm, hcb]
    exact .of_queue (m := []) hclient hputs (by simpa using hlog) (by simp)
      (by simp [SenderControl.sending, SenderControl.pass, SenderControl.call])
      (by simp [SenderControl.steady])
  | some callback =>
    simp only [SenderState.confirm, hcb]
    refine .of_queue hclient hputs (by rw [hlog]) (fun a ha ↦ ?_) hsending hsteady
    rcases List.mem_append.mp ha with ha | ha
    · exact hcause a ha
    · obtain rfl := List.mem_singleton.mp ha
      rfl

end SenderState

namespace EventHubClientLL

variable {σ ι : Type} (auth : AuthModule σ ι)

open SenderState

theorem createHandle_unseen (env : DoWorkEnv ι) (call : SenderCall) (field : StackField) :
    Attempt.Frame Unseen (createHandle (σ := σ) env call field) := by
  intro s
  unfold createHandle
  split_ifs <;> exact ⟨rfl, rfl, rfl, rfl, rfl, _, rfl, by simp [SenderEvent.blind]⟩

theorem passHandle_unseen (call : StackCall) (field : StackField) :
    Attempt.Frame Unseen (passHandle (σ := σ) call field) := fun s ↦ .pass s call field

theorem initializeUamqpSenderStack_unseen (env : DoWorkEnv ι) :
    Attempt.Frame (Unseen (σ := σ)) (initializeUamqpSenderStack env) := by
  unfold initializeUamqpSenderStack
  repeat' first
    | exact .check .refl
    | exact passHandle_unseen _ _
    | exact createHandle_unseen env _ _
    | refine .bind .trans ?_ fun _ ↦ ?_

/-- What a step does to the stack. -/
inductive Act (s : SenderState σ) : SenderState σ → Prop
  | offstage {t : SenderState σ} (h : Offstage s t) : Act s t
  | refresh (text : String) (hcredential : s.client.credential = .sasTokenExt)
      (hstate : s.client.amqpState = .initialized)
      (hpending : s.client.extRefreshSASToken = none) :
    Act s { s with
      client := { s.client with extRefreshSASToken := some text }
      log := s.log ++ [.refreshAccepted text] }
  | doWork (env : DoWorkEnv ι) (hidle : s.control = .idle) : Act s (doWork auth s env)
  | connectionDowork (hloop : s.control = .loop none) : Act s (connectionDowork s)
  | handOver {u : SenderState σ} (e : EventHubEventList) (message : AMQPMessage) (taken : Bool)
      (h : Offstage s u) (hsending : s.control.sending = true) : Act s (handOver u e message taken)
  | putComplete {a : σ} (r : CBSOperationResult) (env : ι)
      (hcall : s.control = .uamqp .connectionDowork) (ha : s.client.cbsHandle = some a)
      (hputs : 0 < s.outstandingPuts) : Act s (onCBSPutTokenOperationComplete auth s a r env)
  | dismantle {u : SenderState σ} (after : AfterDestroy) (h : Offstage s u) :
    Act s (destroyUamqpStack u after)
  | finish (after : AfterDestroy) (hcall : s.control = .uamqp (.messagesenderDestroy after)) :
    Act s (afterDestroyUamqpStack (finishDestroyUamqpStack s) after)

theorem queueing_offstage {s t : SenderState σ} {callback : Option UserCallback} {tick : UInt64}
    (h : Queueing s callback tick t) :
    Offstage s t := by
  rcases h with rfl | rfl | ⟨list, key, -, rfl⟩
  · exact .of_control id id
  · exact .of_queue (m := []) rfl rfl (List.append_nil _).symm (by simp) id id
  · exact .of_queue rfl rfl rfl (by simp [SenderEvent.mute]) id id

theorem setField_offstage (s : SenderState σ) {f : EventHubClientLL σ → EventHubClientLL σ}
    (hf : Setter f) : Offstage s (setField s f) := by
  refine ⟨?_, ?_, ?_, ?_, ?_, ?_, rfl, Or.inl ?_, ⟨[], by simp [setField], by simp⟩, id, id⟩ <;>
    simp only [setField] <;> rw [hf.eq s.client]

theorem iterate_act {s : SenderState σ} {c : Option Nat} (hs : s.control = .loop c)
    (env : BuildEnv) (currentTime : UInt64) (taken : Bool) :
    Act auth s (iterate s c env currentTime taken) := by
  have hsending : s.control.sending = true := by rw [hs]; rfl
  have hsteady : s.control.steady = true := by rw [hs]; rfl
  cases c with
  | none => exact .connectionDowork hs
  | some n =>
    cases hentry : s.entry? n with
    | none =>
      rw [iterate_gone env currentTime taken hentry]
      exact .offstage (.of_control (fun _ ↦ hsending) fun _ ↦ hsteady)
    | some e =>
      cases hstatus : e.currentStatus with
      | waitingForAck =>
        rw [iterate_acked env currentTime taken hentry hstatus]
        exact .offstage (.of_control (fun _ ↦ hsending) fun _ ↦ hsteady)
      | waitingToBeSent =>
        cases hbuild : buildMessage env e.eventDataList with
        | none =>
          rw [iterate_unbuildable env currentTime taken hentry hstatus hbuild]
          exact .offstage (confirm_offstage .error rfl rfl rfl (by simp [SenderEvent.mute])
            (fun _ ↦ hsending) fun _ ↦ hsteady)
        | some message =>
          rw [iterate_built env currentTime taken hentry hstatus hbuild]
          split_ifs
          · unfold expire
            cases e.callback with
            | none =>
              exact .offstage (.of_queue (m := []) rfl rfl (List.append_nil _).symm (by simp)
                (fun _ ↦ hsending) fun _ ↦ hsteady)
            | some callback =>
              exact .offstage (confirm_offstage .timeout rfl rfl rfl (by simp [SenderEvent.mute])
                (fun _ ↦ hsending) fun _ ↦ hsteady)
          · exact .handOver e message taken (.of_queue (m := []) rfl rfl
              (List.append_nil _).symm (by simp) id id) hsending

theorem onMessageSendComplete_offstage {s : SenderState σ} {call : UamqpCall}
    (hs : s.control = .uamqp call) (n : Nat) (r : MessageSendResult) :
    Offstage s (onMessageSendComplete s n r call) := by
  have hcall : s.control.call = some call := by rw [hs]; rfl
  cases hentry : s.entry? n with
  | none =>
    simp only [onMessageSendComplete, hentry]
    exact .of_control (by simp [SenderControl.sending, SenderControl.pass, SenderControl.call])
      (by simp [SenderControl.steady])
  | some e =>
    cases hcb : e.callback with
    | none =>
      simp only [onMessageSendComplete, hentry, hcb]
      exact .of_queue rfl rfl (List.append_assoc ..) (by simp [SenderEvent.mute]) id id
    | some callback =>
      simp only [onMessageSendComplete, hentry, hcb]
      have hnext : (SenderControl.confirming e.number (.uamqp call)).call = some call := rfl
      refine confirm_offstage (q := s.client.outgoingEvents) _ rfl rfl rfl
        (by simp [SenderEvent.mute]) ?_ ?_
      · rw [SenderControl.sending_of_call hnext, SenderControl.sending_of_call hcall]
        exact id
      · rw [SenderControl.steady_of_call hnext, SenderControl.steady_of_call hcall]
        exact id

/-- After a state change nothing but the error callback follows. -/
theorem afterStateChange_result (s : SenderState σ) (newState : MessageSenderState)
    (call : UamqpCall) : ∃ events, (afterStateChange s newState call).log = s.log ++ events ∧
      (∀ e ∈ events, e.mute = true) ∧ (afterStateChange s newState call).client = s.client ∧
      (afterStateChange s newState call).outstandingPuts = s.outstandingPuts := by
  unfold afterStateChange SenderState.raise
  split_ifs
  · cases s.client.onErrorCb with
    | none => exact ⟨[], (List.append_nil _).symm, by simp, rfl, rfl⟩
    | some callback => exact ⟨_, rfl, by simp [SenderEvent.mute], rfl, rfl⟩
  · exact ⟨[], (List.append_nil _).symm, by simp, rfl, rfl⟩

theorem afterStateChange_offstage {s : SenderState σ} {call : UamqpCall}
    (hs : s.control.call = some call) (newState : MessageSenderState) :
    Offstage s (afterStateChange s newState call) := by
  obtain ⟨events, hlog, hevents, hclient, hputs⟩ := afterStateChange_result s newState call
  exact .of_call hs (afterStateChange_spec s newState call).2.1 (Or.inr rfl) hclient hputs hlog
    hevents

theorem onMessageSenderStateChanged_offstage {s : SenderState σ} {call : UamqpCall}
    (hs : s.control = .uamqp call) (newState previousState : MessageSenderState)
    (hsender : (s.client.stack .messageSender).isSome) :
    Offstage s (onMessageSenderStateChanged s newState previousState call) := by
  have hcall : s.control.call = some call := by rw [hs]; rfl
  have hcall' := (onMessageSenderStateChanged_spec hs newState previousState).2.1
  suffices h : ∃ events,
      (onMessageSenderStateChanged s newState previousState call).log = s.log ++ events ∧
      (∀ e ∈ events, e.mute = true) ∧
      (onMessageSenderStateChanged s newState previousState call).client =
        { s.client with messageSenderState := newState } ∧
      (onMessageSenderStateChanged s newState previousState call).outstandingPuts =
        s.outstandingPuts by
    obtain ⟨events, hlog, hevents, hclient, hputs⟩ := h
    exact .of_call hcall hcall' (Or.inl hsender) hclient hputs hlog hevents
  unfold onMessageSenderStateChanged
  dsimp only
  split_ifs
  · exact ⟨[], (List.append_nil _).symm, by simp, rfl, rfl⟩
  · split
    · exact ⟨_, rfl, by simp [SenderEvent.mute], rfl, rfl⟩
    · exact afterStateChange_result _ newState call

theorem uamqpReturn_act {s : SenderState σ} {call : UamqpCall} (hs : s.control = .uamqp call)
    (ok : Bool) : Act auth s (uamqpReturn s ok call) := by
  cases call with
  | messagesenderOpen =>
    have hsending : s.control.sending = true := by rw [hs]; rfl
    have hsteady : s.control.steady = true := by rw [hs]; rfl
    cases ok <;> exact .offstage (.of_control (fun _ ↦ hsending) fun _ ↦ hsteady)
  | connectionDowork =>
    exact .offstage (.of_control (by simp [SenderControl.sending, SenderControl.pass,
      SenderControl.call]) fun _ ↦ by rw [hs]; rfl)
  | messagesenderDestroy after => exact .finish after hs
  | messagesenderSendAsync n next taken =>
    have hsending : s.control.sending = true := by rw [hs]; rfl
    have hsteady : s.control.steady = true := by rw [hs]; rfl
    cases taken with
    | true => exact .offstage (.of_control (fun _ ↦ hsending) fun _ ↦ hsteady)
    | false =>
      cases hentry : s.entry? n with
      | none =>
        simp only [uamqpReturn, hentry]
        exact .offstage (.of_control (fun _ ↦ hsending) fun _ ↦ hsteady)
      | some e =>
        simp only [uamqpReturn, hentry, if_neg (show ¬false = true by simp)]
        exact .offstage (confirm_offstage (q := s.client.outgoingEvents) .error rfl rfl rfl
          (by simp) (fun _ ↦ hsending) fun _ ↦ hsteady)

theorem confirmReturn_offstage {s : SenderState σ} {n : Nat} {after : AfterConfirm}
    (hs : s.control = .confirming n after) : Offstage s (confirmReturn s n after) := by
  cases after with
  | uamqp call =>
    have hcall : s.control.call = some call := by rw [hs]; rfl
    refine .of_queue rfl rfl rfl (by simp [SenderEvent.mute]) ?_ ?_
    · rw [SenderControl.sending_of_call hcall]
      exact fun h ↦ SenderControl.sending_of_call (c := .uamqp call) rfl ▸ h
    · rw [SenderControl.steady_of_call hcall]
      exact id
  | loop next =>
    exact .of_queue rfl rfl rfl (by simp [SenderEvent.mute]) (fun _ ↦ by rw [hs]; rfl)
      fun _ ↦ by rw [hs]; rfl
  | draining => exact .of_control (by rintro ⟨⟩) fun _ ↦ by rw [hs]; rfl

theorem drain_offstage {s : SenderState σ} (hs : s.control = .draining) : Offstage s (drain s) := by
  have hsteady : s.control.steady = true := by rw [hs]; rfl
  cases hevents : s.client.outgoingEvents with
  | nil =>
    simp only [drain, hevents]
    exact .of_control (by rintro ⟨⟩) fun _ ↦ hsteady
  | cons e rest =>
    cases hcb : e.callback with
    | none =>
      simp only [drain, hevents, hcb]
      exact .of_queue rfl rfl rfl (by simp [SenderEvent.mute]) id id
    | some callback =>
      simp only [drain, hevents, hcb]
      exact confirm_offstage _ rfl rfl rfl (by simp [SenderEvent.mute]) (by rintro ⟨⟩)
        fun _ ↦ hsteady

theorem step_act {s t : SenderState σ} {i : SenderInput ι} (h : step auth s i = some t) :
    Act auth s t := by
  cases step_move auth h with
  | sendAsync event callback context env _ =>
    exact .offstage (queueing_offstage (sendAsync_cases s event callback context env))
  | sendBatchAsync list callback context env _ =>
    exact .offstage (queueing_offstage (sendBatchAsync_cases s list callback context env))
  | setField hf _ => exact .offstage (setField_offstage s hf)
  | refreshSASTokenAsync token env _ =>
    rcases refreshSASTokenAsync_cases s token env with h | ⟨text, -, hcred, hstate, hpending, h⟩
    · rw [h]
      exact .offstage (.of_control id id)
    · rw [h]
      exact .refresh text hcred hstate hpending
  | doWork env hidle _ => exact .doWork env hidle
  | destroy _ _ =>
    exact .dismantle _ (.of_queue rfl rfl rfl (by simp [SenderEvent.mute]) id id)
  | iterate env currentTime taken hloop => exact iterate_act auth hloop env currentTime taken
  | onMessageSendComplete r hcall _ => exact .offstage (onMessageSendComplete_offstage hcall _ r)
  | onMessageSenderStateChanged newState previousState hcall hsender =>
    exact .offstage (onMessageSenderStateChanged_offstage hcall newState previousState hsender)
  | onCBSPutTokenOperationComplete r env hcall ha hputs => exact .putComplete r env hcall ha hputs
  | uamqpReturn ok hcall => exact uamqpReturn_act auth hcall ok
  | confirmReturn hconfirm => exact .offstage (confirmReturn_offstage hconfirm)
  | stateChangeReturn hchange =>
    exact .offstage (afterStateChange_offstage (by rw [hchange]; rfl) _)
  | @errorReturn after herror =>
    cases after with
    | uamqp call =>
      have hcall : s.control.call = some call := by rw [herror]; rfl
      exact .offstage (.of_call (m := []) hcall rfl (Or.inr rfl) rfl rfl
        (List.append_nil _).symm (by simp))
    | tearDown => exact .dismantle _ (.of_control id id)
    | done =>
      exact .offstage (.of_control (by rintro ⟨⟩) fun _ ↦ by rw [herror]; rfl)
  | drain hdraining => exact .offstage (drain_offstage hdraining)

end EventHubClientLL

end EventHubs
