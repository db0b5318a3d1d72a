import EventHubs.Sender.Delivery
import EventHubs.Sender.Stage

/-!
# The stack of a sender and its state

`amqp_state` says which handles of the uAMQP stack are there. Every failure point of the bring-up
leads through `destroy_uamqp_stack`, so the two agree again before anything else happens, and no
call is given a NULL handle of the stack and no handle is lost by overwriting its field.

## Main definitions

* `EventHubClientLL.Connected`, `EventHubClientLL.StackConsistent`.
* `EventHubClientLL.Built` — which handles a bring-up has made so far.
* `EventHubClientLL.StackInv`.

## Main results

* `EventHubClientLL.step_stackInv`, `EventHubClientLL.run_stack_consistent`.
-/

namespace EventHubs

open Attempt

/-- The event gives no NULL handle to a call and loses no handle. -/
def SenderEvent.sound : SenderEvent → Bool
  | .passed _ isNull => !isNull
  | .stored _ lost => !lost
  | .storedCBS lost => !lost
  | _ => true

theorem SenderEvent.sound_of_mute {e : SenderEvent} (h : e.mute = true) : e.sound = true := by
  cases e <;> first | rfl | cases h

namespace EventHubClientLL

variable {σ ι : Type} (auth : AuthModule σ ι)

open SenderState

/-- The handles that the first phase of the bring-up makes are there. -/
structure Connected (c : EventHubClientLL σ) : Prop where
  connection : (c.stack .connection).isSome
  session : (c.stack .session).isSome
  cbsHandle : c.cbsHandle.isSome
  saslIo : (c.stack .saslIo).isSome
  tlsIo : (c.stack .tlsIo).isSome
  saslMechanismHandle : (c.stack .saslMechanismHandle).isSome

/-- `amqp_state` says which handles are there. -/
def StackConsistent (c : EventHubClientLL σ) : Prop :=
  match c.amqpState with
  | .uninitialized => (∀ field, c.stack field = none) ∧ c.cbsHandle = none ∧
      c.extRefreshSASToken = none ∧ c.messageSenderState = .idle
  | .pendingAuthorization => Connected c ∧ c.stack .link = none ∧ c.stack .messageSender = none
  | .pendingSenderCreate => Connected c ∧ c.stack .link = none ∧ c.stack .messageSender = none
  | .initialized => Connected c ∧ (c.stack .link).isSome ∧ (c.stack .messageSender).isSome

theorem StackConsistent.connected {c : EventHubClientLL σ} (h : StackConsistent c)
    (hne : c.amqpState ≠ .uninitialized) : Connected c := by
  unfold StackConsistent at h
  cases hstate : c.amqpState with
  | uninitialized => exact absurd hstate hne
  | _ => simp only [hstate] at h; exact h.1

theorem StackConsistent.sender {c : EventHubClientLL σ} (h : StackConsistent c)
    (hstate : c.amqpState = .initialized) : (c.stack .messageSender).isSome := by
  simp only [StackConsistent, hstate] at h
  exact h.2.2

/-- The invariant depends on a few fields. -/
theorem StackConsistent.congr {c d : EventHubClientLL σ} (h : StackConsistent c)
    (hstate : d.amqpState = c.amqpState) (hstack : d.stack = c.stack)
    (hcbs : d.cbsHandle.isSome = c.cbsHandle.isSome)
    (hrefresh : c.amqpState = .uninitialized → d.extRefreshSASToken = c.extRefreshSASToken)
    (hsender : c.amqpState = .uninitialized → d.messageSenderState = c.messageSenderState) :
    StackConsistent d := by
  have hconnected : Connected c → Connected d := fun h ↦ by
    refine ⟨?_, ?_, hcbs.trans h.cbsHandle, ?_, ?_, ?_⟩ <;> rw [hstack]
    exacts [h.connection, h.session, h.saslIo, h.tlsIo, h.saslMechanismHandle]
  unfold StackConsistent at h ⊢
  rw [hstate, hstack]
  cases hc : c.amqpState with
  | uninitialized =>
    simp only [hc] at h
    refine ⟨h.1, ?_, (hrefresh hc).trans h.2.2.1, (hsender hc).trans h.2.2.2⟩
    have hnone := hcbs
    rw [h.2.1] at hnone
    simpa using hnone
  | _ => simp only [hc] at h; exact ⟨hconnected h.1, h.2⟩

/-! ### Bring-up -/

/-- Exactly the given fields of the stack are not NULL, `cbs` says whether the auth handle is, and
the log is sound. -/
structure Built (fields : List StackField) (cbs : Bool) (s : SenderState σ) : Prop where
  stack : ∀ field, (s.client.stack field).isSome = decide (field ∈ fields)
  cbsHandle : s.client.cbsHandle.isSome = cbs
  quiet : s.control.sending = false
  sound : ∀ e ∈ s.log, e.sound = true

/-- A failed bring-up has made no message sender. -/
structure Halted (s : SenderState σ) : Prop where
  messageSender : s.client.stack .messageSender = none
  sound : ∀ e ∈ s.log, e.sound = true

theorem sound_append {l m : List SenderEvent} (hl : ∀ e ∈ l, e.sound = true)
    (hm : ∀ e ∈ m, e.sound = true) : ∀ e ∈ l ++ m, e.sound = true := fun e he ↦
  (List.mem_append.mp he).elim (hl e) (hm e)

theorem sound_concat {l : List SenderEvent} {e : SenderEvent} (hl : ∀ a ∈ l, a.sound = true)
    (he : e.sound = true) : ∀ a ∈ l ++ [e], a.sound = true :=
  sound_append hl fun _ ha ↦ List.mem_singleton.mp ha ▸ he

theorem sound_pass {s : SenderState σ} (hs : ∀ e ∈ s.log, e.sound = true) {call : StackCall}
    {field : StackField} (hfield : (s.client.stack field).isSome) :
    ∀ e ∈ (s.pass call field).log, e.sound = true := by
  obtain ⟨handle, hhandle⟩ := Option.isSome_iff_exists.mp hfield
  exact sound_concat hs (by simp [SenderEvent.sound, hhandle])

section Built

variable {fields : List StackField} {cbs : Bool}

theorem Built.halted {s : SenderState σ} (h : Built fields cbs s)
    (hsender : StackField.messageSender ∉ fields) : Halted s := by
  refine ⟨?_, h.sound⟩
  have := h.stack .messageSender
  simpa [hsender] using this

theorem Built.pass {s : SenderState σ} (h : Built fields cbs s) (call : StackCall)
    {field : StackField} (hfield : field ∈ fields) : Built fields cbs (s.pass call field) := by
  have hsome : (s.client.stack field).isSome = true := by rw [h.stack]; simpa using hfield
  exact ⟨h.stack, h.cbsHandle, h.quiet, sound_pass h.sound hsome⟩

theorem check_spec (b : Bool) (hsender : StackField.messageSender ∉ fields) :
    Spec (Built (σ := σ) fields cbs) (check b) (fun _ ↦ Built fields cbs) Halted :=
  .keep fun _ h ↦ h.halted hsender

theorem passHandle_spec (call : StackCall) {field : StackField} (hfield : field ∈ fields) :
    Spec (Built (σ := σ) fields cbs) (passHandle call field) (fun _ ↦ Built fields cbs) Halted :=
  .update fun _ h ↦ h.pass call hfield

theorem createHandle_spec (env : DoWorkEnv ι) (call : SenderCall) {field : StackField}
    (hfield : field ∉ fields) (hsender : StackField.messageSender ∉ fields) :
    Spec (Built (σ := σ) fields cbs) (createHandle env call field)
      (fun _ ↦ Built (field :: fields) cbs) Halted := by
  intro s hs
  have hnone : (s.client.stack field).isSome = false := by rw [hs.stack]; simpa using hfield
  have hstored : ∀ e ∈ s.log ++ [.stored field (s.client.stack field).isSome], e.sound = true :=
    sound_concat hs.sound (by simp [SenderEvent.sound, hnone])
  unfold createHandle
  split_ifs
  · refine ⟨fun other ↦ ?_, hs.cbsHandle, hs.quiet, hstored⟩
    by_cases heq : other = field
    · simp [SenderState.store, heq]
    · simp [SenderState.store, heq, hs.stack]
  · refine ⟨?_, hstored⟩
    by_cases heq : StackField.messageSender = field
    · simp [SenderState.store, heq]
    · simpa [SenderState.store, heq] using (hs.halted hsender).messageSender

theorem createSASToken_spec (env : DoWorkEnv ι) (hsession : StackField.session ∈ fields)
    (hsender : StackField.messageSender ∉ fields) :
    Spec (Built (σ := σ) fields false) (createSASToken auth env) (fun _ ↦ Built fields true)
      Halted := by
  have hwrite : ∀ s : SenderState σ, Built fields false s →
      Built fields false { s with client := writeAuthTimeout s.client } := fun s hs ↦ by
    unfold writeAuthTimeout
    split_ifs <;> exact ⟨hs.stack, hs.cbsHandle, hs.quiet, hs.sound⟩
  unfold createSASToken
  refine .bind (Q := fun _ ↦ Built fields false) (.update hwrite) fun _ ↦ ?_
  refine .bind (passHandle_spec _ hsession) fun _ ↦ ?_
  refine .bind (Q := fun _ ↦ Built fields false) (.read fun _ hs ↦ hs) fun s ↦ ?_
  generalize (authConfig s.client).bind
    (fun cfg ↦ auth.create cfg (s.client.stack .session) env.create) = a
  have hsound : ∀ s : SenderState σ, Built fields false s →
      ∀ e ∈ (s.storeCBS a).log, e.sound = true := fun s hs ↦ by
    refine sound_append hs.sound fun e he ↦ ?_
    rcases List.mem_cons.mp he with rfl | he
    · simp [SenderEvent.sound, hs.cbsHandle]
    · split_ifs at he with ha
      · obtain rfl := List.mem_singleton.mp he
        rfl
      · simp at he
  refine .bind (Q := fun _ ↦ Built fields a.isSome)
    (.update fun s hs ↦ ⟨hs.stack, rfl, hs.quiet, hsound s hs⟩) fun _ ↦ ?_
  cases a with
  | none => exact .check (fun _ _ h ↦ nomatch h) fun s hs _ ↦ hs.halted hsender
  | some a => exact .check (fun _ hs _ ↦ hs) fun _ _ h ↦ nomatch h

end Built

/-- The handles of the first phase. -/
def firstPhase : List StackField :=
  [.session, .connection, .saslIo, .tlsIo, .saslMechanismHandle]

theorem initializeUamqpStackCommon_spec (env : DoWorkEnv ι) :
    Spec (Built (σ := σ) [] false) (initializeUamqpStackCommon auth env)
      (fun _ ↦ Built firstPhase true) Halted := by
  unfold initializeUamqpStackCommon
  repeat first
    | refine .bind (check_spec _ (by decide)) fun _ ↦ ?_
    | refine .bind (passHandle_spec _ (by decide)) fun _ ↦ ?_
    | refine .bind (createHandle_spec env _ (by decide) (by decide)) fun _ ↦ ?_
  exact createSASToken_spec auth env (by decide) (by decide)

theorem initializeUamqpSenderStack_spec (env : DoWorkEnv ι) :
    Spec (Built (σ := σ) firstPhase true) (initializeUamqpSenderStack env)
      (fun _ ↦ Built (.messageSender :: .link :: firstPhase) true) Halted := by
  unfold initializeUamqpSenderStack
  repeat first
    | refine .bind (check_spec _ (by decide)) fun _ ↦ ?_
    | refine .bind (passHandle_spec _ (by decide)) fun _ ↦ ?_
    | refine .bind (createHandle_spec env _ (by decide) (by decide)) fun _ ↦ ?_
  exact createHandle_spec env _ (by decide) (by decide)

/-- The stack is there, in the state that `amqp_state` says. -/
structure Up (s : SenderState σ) : Prop where
  consistent : StackConsistent s.client
  initialized : s.client.amqpState ≠ .uninitialized
  quiet : s.control.sending = false
  sound : ∀ e ∈ s.log, e.sound = true

theorem Built.connected {fields : List StackField} {s : SenderState σ} (h : Built fields true s)
    (hfirst : firstPhase ⊆ fields) : Connected s.client := by
  have hsome : ∀ field ∈ firstPhase, (s.client.stack field).isSome = true := fun field hf ↦ by
    rw [h.stack]
    simpa using hfirst hf
  exact ⟨hsome _ (by decide), hsome _ (by decide), h.cbsHandle, hsome _ (by decide),
    hsome _ (by decide), hsome _ (by decide)⟩

theorem Built.of_uninitialized {s : SenderState σ} (hs : StackConsistent s.client)
    (hquiet : s.control.sending = false) (hsound : ∀ e ∈ s.log, e.sound = true)
    (hstate : s.client.amqpState = .uninitialized) : Built [] false s := by
  simp only [StackConsistent, hstate] at hs
  exact ⟨fun field ↦ by simp [hs.1 field], by simp [hs.2.1], hquiet, hsound⟩

theorem Built.of_pendingSenderCreate {s : SenderState σ} (hs : StackConsistent s.client)
    (hquiet : s.control.sending = false) (hsound : ∀ e ∈ s.log, e.sound = true)
    (hstate : s.client.amqpState = .pendingSenderCreate) : Built firstPhase true s := by
  simp only [StackConsistent, hstate] at hs
  obtain ⟨hconnected, hlink, hsender⟩ := hs
  refine ⟨fun field ↦ ?_, hconnected.cbsHandle, hquiet, hsound⟩
  cases field with
  | connection => exact hconnected.connection
  | session => exact hconnected.session
  | link => rw [hlink]; rfl
  | saslMechanismHandle => exact hconnected.saslMechanismHandle
  | saslIo => exact hconnected.saslIo
  | tlsIo => exact hconnected.tlsIo
  | messageSender => rw [hsender]; rfl

theorem initializeFirst_spec (env : DoWorkEnv ι) :
    Spec (Built (σ := σ) [] false) (initializeFirst auth env) (fun _ ↦ Up) Halted := by
  unfold initializeFirst
  refine .bind (Q := fun _ ↦ Built [] false)
    (.update fun s hs ↦ ⟨hs.1, hs.2, hs.3, hs.4⟩) fun _ ↦ ?_
  refine .bind (initializeUamqpStackCommon_spec auth env) fun _ ↦ .update fun s hs ↦ ?_
  have hlink := hs.stack .link
  have hsender := hs.stack .messageSender
  have hconnected := hs.connected (fun _ h ↦ h)
  refine ⟨?_, by simp, hs.quiet, hs.sound⟩
  exact ⟨⟨hconnected.1, hconnected.2, hconnected.3, hconnected.4, hconnected.5, hconnected.6⟩,
    by simpa [firstPhase] using hlink, by simpa [firstPhase] using hsender⟩

theorem initializeSecond_spec (env : DoWorkEnv ι) :
    Spec (Built (σ := σ) firstPhase true) (initializeSecond env) (fun _ ↦ Up) Halted := by
  unfold initializeSecond
  refine .bind (initializeUamqpSenderStack_spec env) fun _ ↦ .update fun s hs ↦ ?_
  have hconnected := hs.connected (by decide)
  refine ⟨?_, by simp, hs.quiet, hs.sound⟩
  exact ⟨⟨hconnected.1, hconnected.2, hconnected.3, hconnected.4, hconnected.5, hconnected.6⟩,
    by rw [hs.stack]; decide, by rw [hs.stack]; decide⟩

/-- `initialize_uamqp_stack` brings the stack to the next state, or leaves no message sender. -/
theorem initializeUamqpStack_spec (env : DoWorkEnv ι) :
    Spec (fun s : SenderState σ ↦ StackConsistent s.client ∧ s.control.sending = false ∧
        (∀ e ∈ s.log, e.sound = true) ∧
        (s.client.amqpState = .uninitialized ∨ s.client.amqpState = .pendingSenderCreate))
      (initializeUamqpStack auth env) (fun _ ↦ Up) Halted := by
  rintro s ⟨hs, hquiet, hsound, hstate⟩
  unfold initializeUamqpStack
  split_ifs with huninit
  · exact initializeFirst_spec auth env s (.of_uninitialized hs hquiet hsound huninit)
  · exact initializeSecond_spec env s (.of_pendingSenderCreate hs hquiet hsound
      (hstate.resolve_left huninit))

/-! ### The invariant -/

/-- `amqp_state` says which handles are there, the sending branch runs on an initialised stack,
and nothing was given a NULL handle or lost one. -/
structure StackInv (s : SenderState σ) : Prop where
  consistent : StackConsistent s.client
  sending : s.control.sending = true → s.client.amqpState = .initialized
  sound : ∀ e ∈ s.log, e.sound = true

theorem Up.stackInv {s : SenderState σ} (h : Up s) : StackInv s :=
  ⟨h.consistent, fun hc ↦ by simp [h.quiet] at hc, h.sound⟩

theorem StackInv.offstage {s t : SenderState σ} (hs : StackInv s) (h : Offstage s t) :
    StackInv t := by
  refine ⟨hs.consistent.congr h.amqpState h.stack (by rw [h.cbsHandle])
    (fun _ ↦ h.extRefreshSASToken) fun hstate ↦ h.senderState.resolve_right fun hsender ↦ ?_,
    fun hsending ↦ h.amqpState.trans (hs.sending (h.sending hsending)), ?_⟩
  · have hconsistent := hs.consistent
    simp only [StackConsistent, hstate] at hconsistent
    simp [hconsistent.1] at hsender
  · obtain ⟨events, hlog, hmute⟩ := h.log
    rw [hlog]
    exact sound_append hs.sound fun e he ↦ SenderEvent.sound_of_mute (hmute e he)

/-- After `destroy_uamqp_stack` all handles are NULL. -/
theorem finish_stackInv {s : SenderState σ} (hs : ∀ e ∈ s.log, e.sound = true)
    (after : AfterDestroy) :
    StackInv (afterDestroyUamqpStack (finishDestroyUamqpStack s) after) := by
  have hdown : StackConsistent (finishDestroyUamqpStack s).client :=
    ⟨fun _ ↦ rfl, rfl, rfl, rfl⟩
  have hsound : ∀ e ∈ (finishDestroyUamqpStack s).log, e.sound = true :=
    sound_concat hs rfl
  cases after with
  | initFailed =>
    unfold afterDestroyUamqpStack SenderState.raise
    dsimp only
    split
    · exact ⟨hdown, by rintro ⟨⟩, hsound⟩
    · exact ⟨hdown, by rintro ⟨⟩, sound_concat hsound rfl⟩
  | «return» => exact ⟨hdown, by rintro ⟨⟩, hsound⟩
  | destroy => exact ⟨hdown, by rintro ⟨⟩, hsound⟩

theorem destroyUamqpStack_stackInv {s : SenderState σ} (hs : StackInv s) (after : AfterDestroy) :
    StackInv (destroyUamqpStack s after) := by
  unfold destroyUamqpStack
  split_ifs
  · exact ⟨hs.consistent, by rintro ⟨⟩, hs.sound⟩
  · exact finish_stackInv hs.sound after

theorem raise_stackInv {s : SenderState σ} (hs : StackInv s) (r : EventHubClientErrorResult) :
    StackInv (s.raise r .tearDown (destroyUamqpStack · .return)) := by
  unfold SenderState.raise
  cases s.client.onErrorCb with
  | none => exact destroyUamqpStack_stackInv hs .return
  | some callback => exact ⟨hs.consistent, by rintro ⟨⟩, sound_concat hs.sound rfl⟩

/-! ### Authentication -/

section Up

variable {s : SenderState σ}

theorem Up.passCBS (h : Up s) (call : StackCall) : Up (s.passCBS call) := by
  have hcbs := (h.consistent.connected h.initialized).cbsHandle
  obtain ⟨a, ha⟩ := Option.isSome_iff_exists.mp hcbs
  exact ⟨h.1, h.2, h.3, sound_concat h.4 (by simp [SenderEvent.sound, ha])⟩

theorem Up.answer {α : Type} (h : Up s) (x : Answer σ α) : Up (s.answer x) := by
  have hcbs := (h.consistent.connected h.initialized).cbsHandle
  refine ⟨h.consistent.congr rfl rfl (hcbs.symm ▸ rfl) (fun _ ↦ rfl) fun _ ↦ rfl, h.2, h.3,
    sound_append h.sound fun e he ↦ ?_⟩
  obtain ⟨a, -, rfl⟩ := List.mem_map.mp he
  rfl

theorem Up.pass (h : Up s) {c : StackCall} {field : StackField}
    (hfield : (s.client.stack field).isSome) : Up (s.pass c field) :=
  ⟨h.1, h.2, h.3, sound_pass h.4 hfield⟩

theorem Up.proceed (h : Up s) : Up (refreshExtOrProceed.proceed s) := by
  unfold refreshExtOrProceed.proceed
  split_ifs with hstate
  · have hconsistent := h.consistent
    simp only [StackConsistent, hstate] at hconsistent
    obtain ⟨hconnected, hrest⟩ := hconsistent
    exact ⟨⟨⟨hconnected.1, hconnected.2, hconnected.3, hconnected.4, hconnected.5, hconnected.6⟩,
      hrest⟩, by simp, h.quiet, h.sound⟩
  · exact h

theorem Up.refreshExtOrProceed (h : Up s) (a : σ) (env : DoWorkEnv ι) :
    Up (refreshExtOrProceed auth s a env).1 := by
  unfold EventHubClientLL.refreshExtOrProceed
  cases s.client.extRefreshSASToken with
  | none => exact h.proceed
  | some token =>
    dsimp only
    by_cases hcred : s.client.credential = .sasTokenExt
    · rw [if_pos hcred]
      have h' := (h.passCBS .eventHubAuthCBSRefresh).answer (auth.refresh a (some token) env.put)
      exact ⟨h'.consistent.congr rfl rfl rfl (fun hstate ↦ absurd hstate h'.initialized)
        fun _ ↦ rfl, h'.initialized, h'.quiet, h'.sound⟩
    · rw [if_neg hcred]
      exact h.proceed

theorem Up.handleSASTokenAuth (h : Up s) (env : DoWorkEnv ι) :
    Up (handleSASTokenAuth auth s env).1 := by
  unfold EventHubClientLL.handleSASTokenAuth
  cases s.client.cbsHandle with
  | none => exact h.passCBS _
  | some a =>
    have hstatus := (h.passCBS .eventHubAuthCBSGetStatus).answer (auth.getStatus a env.status)
    dsimp only
    generalize (s.passCBS .eventHubAuthCBSGetStatus).answer (auth.getStatus a env.status) = t
      at hstatus ⊢
    split_ifs
    · exact hstatus
    · cases (auth.getStatus a env.status).value.2 with
      | refreshRequired => exact (hstatus.passCBS _).answer _
      | idle => exact (hstatus.passCBS _).answer _
      | ok => exact hstatus.refreshExtOrProceed auth _ env
      | _ => exact hstatus

theorem Up.connectionDowork (h : Up s) : StackInv (connectionDowork s) := by
  have h' := h.pass (c := .connectionDowork) (h.consistent.connected h.initialized).connection
  exact ⟨h'.consistent, by rintro ⟨⟩, h'.sound⟩

end Up

/-! ### `EventHubClient_LL_DoWork` -/

theorem afterAuth_stackInv {s : SenderState σ} (h : Up s) (outcome : AuthOutcome) :
    StackInv (afterAuth s outcome) := by
  unfold afterAuth
  cases outcome with
  | failed => exact raise_stackInv h.stackInv _
  | timeout => exact raise_stackInv h.stackInv _
  | inProgress => exact h.connectionDowork
  | done =>
    dsimp only
    split_ifs with hstate
    · unfold openAndSend
      split_ifs
      · have h' := h.pass (c := .messagesenderOpen) (h.consistent.sender hstate)
        exact ⟨h'.consistent, fun _ ↦ hstate, h'.sound⟩
      · exact ⟨h.consistent, fun _ ↦ hstate, h.sound⟩
    · exact ⟨h.consistent, by rintro ⟨⟩, h.sound⟩

theorem doWorkInitialized_stackInv {s : SenderState σ} (h : Up s) (env : DoWorkEnv ι) :
    StackInv (doWorkInitialized auth s env) := by
  unfold doWorkInitialized
  split_ifs
  · exact destroyUamqpStack_stackInv h.stackInv _
  · exact afterAuth_stackInv (h.handleSASTokenAuth auth env) _

/-- `destroy_uamqp_stack` after a failed bring-up has no message sender to destroy. -/
theorem Halted.destroyUamqpStack {s : SenderState σ} (h : Halted s) :
    StackInv (destroyUamqpStack s .initFailed) := by
  unfold EventHubClientLL.destroyUamqpStack
  rw [if_neg (by simp [h.messageSender])]
  exact finish_stackInv h.sound .initFailed

theorem doWork_stackInv {s : SenderState σ} (hs : StackInv s) (hidle : s.control = .idle)
    (env : DoWorkEnv ι) : StackInv (doWork auth s env) := by
  have hquiet : (s.emit [.doWork]).control.sending = false := by
    simp only [SenderState.emit, hidle]
    rfl
  have hsound : ∀ e ∈ (s.emit [.doWork]).log, e.sound = true :=
    sound_concat hs.sound rfl
  have hconsistent : StackConsistent (s.emit [.doWork]).client := hs.consistent
  unfold doWork
  dsimp only
  generalize s.emit [.doWork] = s' at hquiet hsound hconsistent ⊢
  split_ifs with hstate
  · have hinit := initializeUamqpStack_spec auth env s'
      ⟨hconsistent, hquiet, hsound, by simpa using hstate⟩
    generalize initializeUamqpStack auth env s' = x at hinit ⊢
    rcases x with ⟨_ | _, t⟩
    · exact Halted.destroyUamqpStack hinit
    · exact doWorkInitialized_stackInv auth hinit env
  · have hne : s'.client.amqpState ≠ .uninitialized := fun h ↦ by simp [h] at hstate
    exact doWorkInitialized_stackInv auth ⟨hconsistent, hne, hquiet, hsound⟩ env

/-! ### Steps and runs -/

theorem step_stackInv {s t : SenderState σ} {i : SenderInput ι} (hs : StackInv s)
    (hstep : step auth s i = some t) : StackInv t := by
  cases step_act auth hstep with
  | offstage h => exact hs.offstage h
  | refresh text _ hstate _ =>
    refine ⟨hs.consistent.congr rfl rfl rfl (fun h ↦ ?_) fun _ ↦ rfl, hs.sending,
      sound_concat hs.sound rfl⟩
    simp [hstate] at h
  | doWork env hidle => exact doWork_stackInv auth hs hidle env
  | connectionDowork hloop =>
    have hstate := hs.sending (by rw [hloop]; rfl)
    have hconnected := hs.consistent.connected (by simp [hstate])
    exact ⟨hs.consistent, by rintro ⟨⟩, sound_pass hs.sound hconnected.connection⟩
  | @handOver u e message taken h hsending =>
    have hu := hs.offstage h
    have hstate : u.client.amqpState = .initialized := h.amqpState.trans (hs.sending hsending)
    have hsender : ((u.waitForAck e.number).client.stack .messageSender).isSome :=
      hu.consistent.sender hstate
    have hlog : ∀ a ∈ (u.waitForAck e.number).log, a.sound = true := hu.sound
    exact ⟨hu.consistent.congr rfl rfl rfl (fun _ ↦ rfl) fun _ ↦ rfl, fun _ ↦ hstate,
      sound_concat (sound_pass hlog hsender) rfl⟩
  | putComplete r env hcall ha _ =>
    refine ⟨hs.consistent.congr rfl rfl (by rw [ha]; rfl) (fun _ ↦ rfl) fun _ ↦ rfl, hs.sending,
      sound_append hs.sound fun e he ↦ ?_⟩
    obtain ⟨b, -, rfl⟩ := List.mem_map.mp he
    rfl
  | dismantle after h => exact destroyUamqpStack_stackInv (hs.offstage h) after
  | finish after _ => exact finish_stackInv hs.sound after

theorem created_stackInv {c : EventHubClientLL σ} (hc : Created c) : StackInv { client := c } := by
  refine ⟨?_, by rintro ⟨⟩, by simp⟩
  cases hc <;> exact ⟨fun _ ↦ rfl, rfl, rfl, rfl⟩

/-- In every reachable state of a sender `amqp_state` says which handles of the stack are there,
no call was given a NULL handle of the stack, and no creating call was stored over a handle. -/
theorem run_stack_consistent {c : EventHubClientLL σ} (hc : Created c)
    {is : List (SenderInput ι)} {t : SenderState σ}
    (hrun : (senderMachine auth).run { client := c } is = some t) :
    StackConsistent t.client ∧
    (∀ call isNull, SenderEvent.passed call isNull ∈ t.log → isNull = false) ∧
    (∀ field lost, SenderEvent.stored field lost ∈ t.log → lost = false) ∧
    ∀ lost, SenderEvent.storedCBS lost ∈ t.log → lost = false := by
  have hstep : ∀ s i t, StackInv s → (senderMachine auth).step s i = some t → StackInv t :=
    fun _ _ _ hs h ↦ step_stackInv auth hs h
  have ht := Machine.run_invariant hstep (created_stackInv hc) hrun
  refine ⟨ht.consistent, fun call isNull h ↦ ?_, fun field lost h ↦ ?_, fun lost h ↦ ?_⟩ <;>
    simpa [SenderEvent.sound] using ht.sound _ h

/-- The stack of a sender that has sent one message. -/
theorem run_stack_consistent_sendOne :
    ∃ t, (senderMachine (EventHubAuthCBS.authModule fun _ ↦ none)).run
        { client := createdFromConnectionString "name" "key" "host" "hub" "target" }
        (sendOne.take 14) = some t ∧
      t.client.amqpState = .initialized ∧ StackConsistent t.client := by
  refine ⟨_, rfl, rfl, ?_⟩
  exact (@run_stack_consistent _ _ (EventHubAuthCBS.authModule fun _ ↦ none) _
    (.fromConnectionString "name" "key" "host" "hub" "target") (sendOne.take 14) _ rfl).1

end EventHubClientLL

end EventHubs
