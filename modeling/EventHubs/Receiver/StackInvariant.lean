import EventHubs.Auth.Handle
import EventHubs.Receiver.Stage

/-!
# The stack of a receiver and its state

`receiverAMQPConnectionState` says which handles of the uAMQP stack are there, as long as the
second phase of the bring-up succeeds: `EventHubAMQP_InitializeStackReceiver` takes the stack down
when one of its calls fails, and `EventHubConnectionAMQP_ReceiverInitialize` keeps the stack when
the tick cannot be read afterwards, and neither writes the state. A failure of the first phase
finds the state at `RECEIVER_AMQP_UNINITIALIZED` and leaves it there.

## Main definitions

* `EventHubReceiverLL.Connected`, `EventHubReceiverLL.StackConsistent`.
* `EventHubReceiverLL.SecondPhaseSucceeds` — the condition on a step.
* `EventHubReceiverLL.Built` — which handles a bring-up has made so far.
* `EventHubReceiverLL.StackInv`.

## Main results

* `EventHubReceiverLL.step_stackInv`, `EventHubReceiverLL.run_receiverStack_consistent`.
* `EventHubReceiverLL.run_stack_stuck` — without the condition.
-/

namespace EventHubs

open Attempt

/-- The event gives no NULL handle to a call and loses no handle. -/
def ReceiverEvent.sound : ReceiverEvent → Bool
  | .passed _ isNull => !isNull
  | .stored _ lost => !lost
  | .storedCBS lost => !lost
  | .reset lost => !lost
  | _ => true

/-- The calls of the second phase of the bring-up, up to `messagereceiver_open`. -/
def secondPhase : List ReceiverCall :=
  [.amqpvalueCreateMap, .amqpvalueCreateFilterKey, .amqpvalueCreateDescriptor,
    .amqpvalueCreateFilterValue, .amqpvalueCreateDescribed, .amqpvalueSetMapValue, .sourceCreate,
    .amqpvalueCreateAddress, .sourceSetAddress, .sourceSetFilter, .amqpvalueCreateSource,
    .messagingCreateTarget, .linkCreate, .linkSetRcvSettleMode, .linkSetMaxMessageSize,
    .messagereceiverCreate]

namespace EventHubReceiverLL

variable {σ ι : Type} (auth : AuthModule σ ι)

open ReceiverState

/-- The handles that the first phase of the bring-up makes are there. -/
structure Connected (c : EventHubReceiverLL σ) : Prop where
  connection : (c.stack .connection).isSome
  session : (c.stack .session).isSome
  cbsHandle : c.cbsHandle.isSome
  saslIo : (c.stack .saslIo).isSome
  tlsIo : (c.stack .tlsIo).isSome
  saslMechanismHandle : (c.stack .saslMechanismHandle).isSome

/-- `receiverAMQPConnectionState` says which handles are there. -/
def StackConsistent (c : EventHubReceiverLL σ) : Prop :=
  match c.receiverAMQPConnectionState with
  | .uninitialized => (∀ field, c.stack field = none) ∧ c.cbsHandle = none
  | .pendingAuthorization => Connected c ∧ c.stack .link = none ∧ c.stack .messageReceiver = none
  | .pendingReceiverCreate => Connected c ∧ c.stack .link = none ∧ c.stack .messageReceiver = none
  | .initialized => Connected c ∧ (c.stack .link).isSome ∧ (c.stack .messageReceiver).isSome

/-- The second phase of the bring-up is only entered when all its calls succeed, and the tick can
be read after `messagereceiver_open` if there is a wait timeout. -/
def SecondPhaseSucceeds (s : ReceiverState σ) : ReceiverInput ι → Prop
  | .doWork env => s.client.state = .active →
      s.client.receiverAMQPConnectionState = .pendingReceiverCreate →
      ∀ call ∈ secondPhase, env.succeeds call = true
  | .uamqpReturn ok env => s.control = .uamqp .messagereceiverOpen →
      ok = true ∧ (s.client.waitTimeoutInMs ≠ 0 → env.tick.isSome)
  | _ => True

instance (s : ReceiverState σ) (i : ReceiverInput ι) : Decidable (SecondPhaseSucceeds s i) := by
  cases i <;> unfold SecondPhaseSucceeds <;> infer_instance

theorem StackConsistent.connected {c : EventHubReceiverLL σ} (h : StackConsistent c)
    (hne : c.receiverAMQPConnectionState ≠ .uninitialized) : Connected c := by
  unfold StackConsistent at h
  cases hstate : c.receiverAMQPConnectionState with
  | uninitialized => exact absurd hstate hne
  | _ => simp only [hstate] at h; exact h.1

theorem Connected.congr {c d : EventHubReceiverLL σ} (h : Connected c) (hstack : d.stack = c.stack)
    (hcbs : d.cbsHandle.isSome = c.cbsHandle.isSome) : Connected d := by
  refine ⟨?_, ?_, hcbs.trans h.cbsHandle, ?_, ?_, ?_⟩ <;> rw [hstack]
  exacts [h.connection, h.session, h.saslIo, h.tlsIo, h.saslMechanismHandle]

/-- The invariant depends on a few fields. -/
theorem StackConsistent.congr {c d : EventHubReceiverLL σ} (h : StackConsistent c)
    (hstate : d.receiverAMQPConnectionState = c.receiverAMQPConnectionState)
    (hstack : d.stack = c.stack) (hcbs : d.cbsHandle.isSome = c.cbsHandle.isSome) :
    StackConsistent d := by
  unfold StackConsistent at h ⊢
  rw [hstate]
  cases hc : c.receiverAMQPConnectionState with
  | uninitialized =>
    simp only [hc] at h
    refine ⟨hstack ▸ h.1, ?_⟩
    rw [h.2] at hcbs
    simpa using hcbs
  | _ =>
    simp only [hc] at h
    rw [hstack]
    exact ⟨h.1.congr hstack hcbs, h.2⟩

/-! ### Bring-up -/

/-- Exactly the given fields of the stack are not NULL, `cbs` says whether the auth handle is,
`receiverAMQPConnectionState` is the given one, and the log is sound. -/
structure Built (state : EventHubReceiverAMQPState) (fields : List ReceiverField) (cbs : Bool)
    (s : ReceiverState σ) : Prop where
  stack : ∀ field, (s.client.stack field).isSome = decide (field ∈ fields)
  cbsHandle : s.client.cbsHandle.isSome = cbs
  amqpState : s.client.receiverAMQPConnectionState = state
  active : s.client.state = .active
  sound : ∀ e ∈ s.log, e.sound = true

/-- A failed bring-up has made no message receiver. -/
structure Halted (state : EventHubReceiverAMQPState) (s : ReceiverState σ) : Prop where
  messageReceiver : s.client.stack .messageReceiver = none
  amqpState : s.client.receiverAMQPConnectionState = state
  active : s.client.state = .active
  sound : ∀ e ∈ s.log, e.sound = true

theorem sound_append {l m : List ReceiverEvent} (hl : ∀ e ∈ l, e.sound = true)
    (hm : ∀ e ∈ m, e.sound = true) : ∀ e ∈ l ++ m, e.sound = true := fun e he ↦
  (List.mem_append.mp he).elim (hl e) (hm e)

theorem sound_concat {l : List ReceiverEvent} {e : ReceiverEvent} (hl : ∀ a ∈ l, a.sound = true)
    (he : e.sound = true) : ∀ a ∈ l ++ [e], a.sound = true :=
  sound_append hl fun _ ha ↦ List.mem_singleton.mp ha ▸ he

theorem sound_pass {s : ReceiverState σ} (hs : ∀ e ∈ s.log, e.sound = true)
    (call : ReceiverStackCall) {field : ReceiverField} (hfield : (s.client.stack field).isSome) :
    ∀ e ∈ (s.pass call field).log, e.sound = true := by
  obtain ⟨handle, hhandle⟩ := Option.isSome_iff_exists.mp hfield
  exact sound_concat hs (by simp [ReceiverEvent.sound, hhandle])

section Built

variable {state : EventHubReceiverAMQPState} {fields : List ReceiverField} {cbs : Bool}

theorem Built.halted {s : ReceiverState σ} (h : Built state fields cbs s)
    (hreceiver : ReceiverField.messageReceiver ∉ fields) : Halted state s := by
  refine ⟨?_, h.amqpState, h.active, h.sound⟩
  have := h.stack .messageReceiver
  simpa [hreceiver] using this

theorem Built.pass {s : ReceiverState σ} (h : Built state fields cbs s) (call : ReceiverStackCall)
    {field : ReceiverField} (hfield : field ∈ fields) :
    Built state fields cbs (s.pass call field) := by
  have hsome : (s.client.stack field).isSome = true := by rw [h.stack]; simpa using hfield
  exact ⟨h.stack, h.cbsHandle, h.amqpState, h.active, sound_pass h.sound call hsome⟩

theorem check_spec (b : Bool) (hreceiver : ReceiverField.messageReceiver ∉ fields) :
    Spec (Built (σ := σ) state fields cbs) (check b) (fun _ ↦ Built state fields cbs)
      (Halted state) :=
  .keep fun _ h ↦ h.halted hreceiver

theorem passHandle_spec (call : ReceiverStackCall) {field : ReceiverField}
    (hfield : field ∈ fields) :
    Spec (Built (σ := σ) state fields cbs) (passHandle call field)
      (fun _ ↦ Built state fields cbs) (Halted state) :=
  .update fun _ h ↦ h.pass call hfield

theorem createHandle_spec (env : ReceiverEnv ι) (call : ReceiverCall) {field : ReceiverField}
    (hfield : field ∉ fields) (hreceiver : ReceiverField.messageReceiver ∉ fields) :
    Spec (Built (σ := σ) state fields cbs) (createHandle env call field)
      (fun _ ↦ Built state (field :: fields) cbs) (Halted state) := by
  intro s hs
  have hnone : (s.client.stack field).isSome = false := by rw [hs.stack]; simpa using hfield
  have hstored : ∀ e ∈ s.log ++ [.stored field (s.client.stack field).isSome], e.sound = true :=
    sound_concat hs.sound (by simp [ReceiverEvent.sound, hnone])
  unfold createHandle
  split_ifs
  · refine ⟨fun other ↦ ?_, hs.cbsHandle, hs.amqpState, hs.active, hstored⟩
    by_cases heq : other = field
    · simp [ReceiverState.store, heq]
    · simp [ReceiverState.store, heq, hs.stack]
  · refine ⟨?_, hs.amqpState, hs.active, hstored⟩
    by_cases heq : ReceiverField.messageReceiver = field
    · simp [ReceiverState.store, heq]
    · simpa [ReceiverState.store, heq] using (hs.halted hreceiver).messageReceiver

theorem createSasToken_spec (env : ReceiverEnv ι) (hsession : ReceiverField.session ∈ fields)
    (hreceiver : ReceiverField.messageReceiver ∉ fields) :
    Spec (Built (σ := σ) state fields false) (createSasToken auth env)
      (fun _ ↦ Built state fields true) (Halted state) := by
  unfold createSasToken
  refine .bind (Q := fun _ ↦ Built state fields false)
    (.update fun s hs ↦ ⟨hs.1, hs.2, hs.3, hs.4, hs.5⟩) fun _ ↦ ?_
  refine .bind (passHandle_spec _ hsession) fun _ ↦ ?_
  refine .bind (Q := fun _ ↦ Built state fields false) (.read fun _ hs ↦ hs) fun s ↦ ?_
  dsimp only
  generalize auth.create (authConfig s.client) (s.client.stack .session) env.create = a
  have hsound : ∀ s : ReceiverState σ, Built state fields false s →
      ∀ e ∈ (s.storeCBS a).log, e.sound = true := fun s hs ↦ by
    refine sound_append hs.sound fun e he ↦ ?_
    rcases List.mem_cons.mp he with rfl | he
    · simp [ReceiverEvent.sound, hs.cbsHandle]
    · split_ifs at he with ha
      · obtain rfl := List.mem_singleton.mp he
        rfl
      · simp at he
  refine .bind (Q := fun _ ↦ Built state fields a.isSome)
    (.update fun s hs ↦ ⟨hs.stack, rfl, hs.amqpState, hs.active, hsound s hs⟩) fun _ ↦ ?_
  cases a with
  | none => exact .check (fun _ _ h ↦ nomatch h) fun s hs _ ↦ hs.halted hreceiver
  | some a => exact .check (fun _ hs _ ↦ hs) fun _ _ h ↦ nomatch h

end Built

/-- The handles of the first phase. -/
def firstPhase : List ReceiverField :=
  [.session, .connection, .saslIo, .tlsIo, .saslMechanismHandle]

theorem initializeStackCommon_spec (state : EventHubReceiverAMQPState) (env : ReceiverEnv ι) :
    Spec (Built (σ := σ) state [] false) (initializeStackCommon auth env)
      (fun _ ↦ Built state firstPhase true) (Halted state) := by
  unfold initializeStackCommon
  repeat first
    | refine .bind (check_spec _ (by decide)) fun _ ↦ ?_
    | refine .bind (passHandle_spec _ (by decide)) fun _ ↦ ?_
    | refine .bind (createHandle_spec env _ (by decide) (by decide)) fun _ ↦ ?_
  exact createSasToken_spec auth env (by decide) (by decide)

theorem initializeSource_spec (state : EventHubReceiverAMQPState) (env : ReceiverEnv ι) :
    Spec (Built (σ := σ) state firstPhase true) (initializeSource env)
      (fun _ ↦ Built state firstPhase true) (Halted state) := by
  unfold initializeSource
  repeat refine .bind (check_spec _ (by decide)) fun _ ↦ ?_
  exact check_spec _ (by decide)

theorem initializeStackReceiver_spec (state : EventHubReceiverAMQPState) (env : ReceiverEnv ι) :
    Spec (Built (σ := σ) state firstPhase true) (initializeStackReceiver env)
      (fun _ ↦ Built state (.messageReceiver :: .link :: firstPhase) true) (Halted state) := by
  unfold initializeStackReceiver
  refine .bind (initializeSource_spec state env) fun _ ↦ ?_
  repeat first
    | refine .bind (check_spec _ (by decide)) fun _ ↦ ?_
    | refine .bind (passHandle_spec _ (by decide)) fun _ ↦ ?_
    | refine .bind (createHandle_spec env _ (by decide) (by decide)) fun _ ↦ ?_
  exact passHandle_spec _ (by decide)

theorem createHandle_succeeds {env : ReceiverEnv ι} {call : ReceiverCall}
    (hcall : env.succeeds call = true) (field : ReceiverField) :
    Succeeds (createHandle (σ := σ) env call field) := fun s ↦ by
  unfold createHandle
  rw [if_pos hcall]
  exact ⟨_, _, rfl⟩

theorem initializeStackReceiver_succeeds {env : ReceiverEnv ι}
    (h : ∀ call ∈ secondPhase, env.succeeds call = true) :
    Succeeds (initializeStackReceiver (σ := σ) env) := by
  unfold initializeStackReceiver initializeSource
  repeat' first
    | exact .check (h _ (by decide))
    | exact createHandle_succeeds (h _ (by decide)) _
    | exact .update
    | refine .bind ?_ fun _ ↦ ?_

/-- The next handle and the configuration of the authentication that a bring-up comes with. -/
structure Supplied (next : Handle) (cfg : EventHubAuthCBSConfig) (s : ReceiverState σ) : Prop where
  nextHandle : s.nextHandle = next
  authConfig : authConfig s.client = cfg

theorem authConfig_writeWaitTime (c : EventHubReceiverLL σ) :
    authConfig (writeWaitTime c) = authConfig c := by
  cases hbase : c.connectionParams.extSASTokenConfig with
  | none => simp only [authConfig, writeWaitTime, hbase, Option.map_none, waitTimeInSecs]
  | some cfg => simp only [authConfig, writeWaitTime, hbase, Option.map_some, waitTimeInSecs]

section Supplied

variable {env : ReceiverEnv ι} {P : ReceiverState σ → Prop} {next : Handle}
  {cfg : EventHubAuthCBSConfig}

/-- A call that succeeds does not stop the bring-up. -/
theorem check_runs {b : Bool} (hb : b = true) :
    Spec P (check b) (fun _ ↦ P) fun _ ↦ False :=
  .check (fun _ hs _ ↦ hs) fun _ _ hfalse ↦ absurd hb (by simp [hfalse])

theorem passHandle_runs (call : ReceiverStackCall) (field : ReceiverField) :
    Spec (Supplied (σ := σ) next cfg) (passHandle call field) (fun _ ↦ Supplied next cfg)
      fun _ ↦ False :=
  .update fun _ hs ↦ ⟨hs.nextHandle, hs.authConfig⟩

theorem createHandle_runs {call : ReceiverCall} (hcall : env.succeeds call = true)
    (field : ReceiverField) :
    Spec (Supplied (σ := σ) next cfg) (createHandle env call field)
      (fun _ s ↦ Supplied (next + 1) cfg s ∧ s.client.stack field = some next)
      fun _ ↦ False := by
  rintro s ⟨rfl, rfl⟩
  unfold createHandle
  rw [if_pos hcall]
  exact ⟨⟨rfl, rfl⟩, Function.update_self ..⟩

/-- `CreateSasToken` succeeds when `EventHubAuthCBS_Create` does. -/
theorem createSasToken_runs {session : Handle}
    (hcreate : (auth.create cfg (some session) env.create).isSome = true) :
    Spec (fun s ↦ Supplied next cfg s ∧ s.client.stack .session = some session)
      (createSasToken auth env) (fun _ _ ↦ True) fun _ ↦ False := by
  unfold createSasToken
  have hwritten : ∀ s : ReceiverState σ,
      (Supplied next cfg s ∧ s.client.stack .session = some session) →
      authConfig (writeWaitTime s.client) = cfg ∧
        (writeWaitTime s.client).stack .session = some session := by
    rintro s ⟨⟨-, hcfg⟩, hsession⟩
    exact ⟨(authConfig_writeWaitTime s.client).trans hcfg, hsession⟩
  have hstored : ∀ a : Option σ, a.isSome = true → Spec (fun _ : ReceiverState σ ↦ True)
      (update (fun s : ReceiverState σ ↦ s.storeCBS a) >>= fun _ ↦ check a.isSome)
      (fun _ _ ↦ True) fun _ ↦ False := fun a ha ↦
    .bind (Q := fun _ _ ↦ True) (.update fun _ _ ↦ trivial) fun _ ↦ check_runs ha
  refine .bind (Q := fun _ s ↦ authConfig s.client = cfg ∧
    s.client.stack .session = some session) (.update hwritten) fun _ ↦ ?_
  refine .bind (Q := fun _ s ↦ authConfig s.client = cfg ∧
    s.client.stack .session = some session) (.update fun _ hs ↦ hs) fun _ ↦ ?_
  refine .bind (Q := fun s _ ↦ authConfig s.client = cfg ∧
    s.client.stack .session = some session) (.read fun _ hs ↦ hs) fun s ↦ ?_
  intro u hs
  dsimp only at hs ⊢
  rw [hs.1, hs.2]
  exact hstored _ hcreate u trivial

/-- The first phase of the bring-up succeeds when all its calls do and `EventHubAuthCBS_Create`
does on the configuration of the receiver and the session, which is the fifth handle made. -/
theorem initializeFirst_runs (h : ∀ call, env.succeeds call = true)
    (hcreate : (auth.create cfg (some (next + 4)) env.create).isSome = true) :
    Spec (Supplied (σ := σ) next cfg) (initializeFirst auth env) (fun _ _ ↦ True)
      fun _ ↦ False := by
  have hmake : ∀ {k : Handle} {call : ReceiverCall} {field : ReceiverField},
      Spec (Supplied (σ := σ) k cfg) (createHandle env call field)
        (fun _ ↦ Supplied (k + 1) cfg) fun _ ↦ False := fun {k call field} ↦
    .mono (createHandle_runs (h call) field) (fun _ hs ↦ hs) (fun _ _ hs ↦ hs.1) fun _ hf ↦ hf
  unfold initializeFirst
  refine .bind (Q := fun _ ↦ Supplied next cfg) (.update fun _ hs ↦ ⟨hs.1, hs.2⟩) fun _ ↦ ?_
  refine .bind (Q := fun _ _ ↦ True) ?_ fun _ ↦ .update fun _ _ ↦ trivial
  unfold initializeStackCommon
  refine .bind (check_runs (h _)) fun _ ↦ .bind hmake fun _ ↦ ?_
  refine .bind (check_runs (h _)) fun _ ↦ .bind hmake fun _ ↦ ?_
  refine .bind (check_runs (h _)) fun _ ↦ ?_
  refine .bind (passHandle_runs _ _) fun _ ↦ .bind (passHandle_runs _ _) fun _ ↦ ?_
  refine .bind hmake fun _ ↦ .bind (passHandle_runs _ _) fun _ ↦ ?_
  refine .bind hmake fun _ ↦ .bind (passHandle_runs _ _) fun _ ↦ ?_
  refine .bind (passHandle_runs _ _) fun _ ↦ ?_
  refine .bind (createHandle_runs (h _) .session) fun _ ↦ ?_
  refine .bind (Q := fun _ s ↦ Supplied (next + 5) cfg s ∧
    s.client.stack .session = some (next + 4)) ?_ fun _ ↦ ?_
  · exact .update fun _ hs ↦ ⟨⟨hs.1.nextHandle, hs.1.authConfig⟩, hs.2⟩
  · exact .bind (check_runs (h _)) fun _ ↦ createSasToken_runs auth hcreate

end Supplied

/-- The stack is there, in the state that `receiverAMQPConnectionState` says. -/
structure Up (s : ReceiverState σ) : Prop where
  consistent : StackConsistent s.client
  initialized : s.client.receiverAMQPConnectionState ≠ .uninitialized
  sound : ∀ e ∈ s.log, e.sound = true

theorem Built.connected {state : EventHubReceiverAMQPState} {fields : List ReceiverField}
    {s : ReceiverState σ} (h : Built state fields true s) (hfirst : firstPhase ⊆ fields) :
    Connected s.client := by
  have hsome : ∀ field ∈ firstPhase, (s.client.stack field).isSome = true := fun field hf ↦ by
    rw [h.stack]
    simpa using hfirst hf
  exact ⟨hsome _ (by decide), hsome _ (by decide), h.cbsHandle, hsome _ (by decide),
    hsome _ (by decide), hsome _ (by decide)⟩

theorem Built.of_pendingReceiverCreate {s : ReceiverState σ} (hs : StackConsistent s.client)
    (hstate : s.client.receiverAMQPConnectionState = .pendingReceiverCreate)
    (hactive : s.client.state = .active) (hsound : ∀ e ∈ s.log, e.sound = true) :
    Built .pendingReceiverCreate firstPhase true s := by
  simp only [StackConsistent, hstate] at hs
  obtain ⟨hconnected, hlink, hreceiver⟩ := hs
  refine ⟨fun field ↦ ?_, hconnected.cbsHandle, hstate, hactive, hsound⟩
  cases field with
  | connection => exact hconnected.connection
  | session => exact hconnected.session
  | link => rw [hlink]; rfl
  | saslMechanismHandle => exact hconnected.saslMechanismHandle
  | saslIo => exact hconnected.saslIo
  | tlsIo => exact hconnected.tlsIo
  | messageReceiver => rw [hreceiver]; rfl

/-- The first phase brings the stack to `RECEIVER_AMQP_PENDING_AUTHORIZATION`, or leaves
`RECEIVER_AMQP_UNINITIALIZED` and no message receiver. -/
theorem initializeFirst_spec (env : ReceiverEnv ι) :
    Spec (fun s : ReceiverState σ ↦ StackConsistent s.client ∧ s.client.state = .active ∧
        s.client.receiverAMQPConnectionState = .uninitialized ∧ ∀ e ∈ s.log, e.sound = true)
      (initializeFirst auth env) (fun _ ↦ Up) (Halted .uninitialized) := by
  unfold initializeFirst
  refine .bind (Q := fun _ ↦ Built .uninitialized [] false) (.update ?_) fun _ ↦ ?_
  · rintro s ⟨hs, hactive, hstate, hsound⟩
    simp only [StackConsistent, hstate] at hs
    refine ⟨fun _ ↦ rfl, rfl, hstate, hactive, sound_concat hsound ?_⟩
    simp [ReceiverEvent.sound, hs.1, hs.2]
  · refine .bind (initializeStackCommon_spec auth _ env) fun _ ↦ .update fun s hs ↦ ?_
    have hlink := hs.stack .link
    have hreceiver := hs.stack .messageReceiver
    have hconnected := hs.connected (fun _ h ↦ h)
    refine ⟨?_, by simp, hs.sound⟩
    exact ⟨hconnected.congr rfl rfl, by simpa [firstPhase] using hlink,
      by simpa [firstPhase] using hreceiver⟩

/-! ### The invariant -/

/-- Outside `messagereceiver_open`, `receiverAMQPConnectionState` says which handles are there; in
it, link and message receiver are there already. No stack is taken down by a failed second phase,
and nothing was given a NULL handle or lost one. -/
structure StackInv (s : ReceiverState σ) : Prop where
  consistent : s.control ≠ .undefinedBehaviour → s.control.call ≠ some .messagereceiverOpen →
    StackConsistent s.client
  opening : s.control.call = some .messagereceiverOpen →
    s.client.receiverAMQPConnectionState = .pendingReceiverCreate ∧ Connected s.client ∧
      (s.client.stack .link).isSome ∧ (s.client.stack .messageReceiver).isSome
  regular : s.control.call ≠ some (.messagereceiverDestroy .bringUpFailed)
  sound : ∀ e ∈ s.log, e.sound = true

theorem StackInv.of_consistent {s : ReceiverState σ} (hs : StackConsistent s.client)
    (hsound : ∀ e ∈ s.log, e.sound = true) (hopen : s.control.call ≠ some .messagereceiverOpen)
    (hregular : s.control.call ≠ some (.messagereceiverDestroy .bringUpFailed)) : StackInv s :=
  ⟨fun _ _ ↦ hs, fun h ↦ absurd h hopen, hregular, hsound⟩

section Keep

variable {s t : ReceiverState σ}

/-- Where a connection is expected, it is there. -/
theorem StackInv.connected (hs : StackInv s) (hdefined : s.control ≠ .undefinedBehaviour)
    (hne : s.client.receiverAMQPConnectionState ≠ .uninitialized) : Connected s.client := by
  by_cases hopen : s.control.call = some .messagereceiverOpen
  · exact (hs.opening hopen).2.1
  · exact (hs.consistent hdefined hopen).connected hne

/-- A step that stays in the same call to uAMQP and leaves the stack alone. -/
theorem StackInv.keep {m : List ReceiverEvent} (hs : StackInv s)
    (hdefined : s.control ≠ .undefinedBehaviour) (hcall : t.control.call = s.control.call)
    (hstate : t.client.receiverAMQPConnectionState = s.client.receiverAMQPConnectionState)
    (hstack : t.client.stack = s.client.stack)
    (hcbs : t.client.cbsHandle.isSome = s.client.cbsHandle.isSome)
    (hlog : t.log = s.log ++ m) (hevents : ∀ e ∈ m, e.sound = true) : StackInv t := by
  refine ⟨fun _ hne ↦ ?_, fun heq ↦ ?_, hcall ▸ hs.regular, hlog ▸ sound_append hs.sound hevents⟩
  · exact (hs.consistent hdefined (hcall ▸ hne)).congr hstate hstack hcbs
  · obtain ⟨hpending, hconnected, hlink, hreceiver⟩ := hs.opening (hcall ▸ heq)
    rw [hstack]
    exact ⟨hstate.trans hpending, hconnected.congr hstack hcbs, hlink, hreceiver⟩

/-- A step that leaves the call to uAMQP, which is not `messagereceiver_open`. -/
theorem StackInv.leave {m : List ReceiverEvent} (hs : StackInv s)
    (hdefined : s.control ≠ .undefinedBehaviour)
    (hopen : s.control.call ≠ some .messagereceiverOpen) (hcall : t.control.call = none)
    (hstate : t.client.receiverAMQPConnectionState = s.client.receiverAMQPConnectionState)
    (hstack : t.client.stack = s.client.stack) (hcbs : t.client.cbsHandle = s.client.cbsHandle)
    (hlog : t.log = s.log ++ m) (hevents : ∀ e ∈ m, e.sound = true) : StackInv t :=
  .of_consistent ((hs.consistent hdefined hopen).congr hstate hstack (by rw [hcbs]))
    (hlog ▸ sound_append hs.sound hevents) (by simp [hcall]) (by simp [hcall])

end Keep

/-! ### Tear-down -/

/-- After `TeardownReceiverStack` all handles are NULL. -/
theorem afterTeardown_stackInv {s : ReceiverState σ} (hs : ∀ e ∈ s.log, e.sound = true)
    (after : AfterTeardown) :
    StackInv (afterTeardown (resetReceiver (finishDeInitializeStack s)) after) := by
  have hdown : StackConsistent (resetReceiver (finishDeInitializeStack s)).client :=
    ⟨fun _ ↦ rfl, rfl⟩
  have hsound : ∀ e ∈ (resetReceiver (finishDeInitializeStack s)).log, e.sound = true :=
    sound_concat (sound_concat hs rfl) rfl
  generalize resetReceiver (finishDeInitializeStack s) = t at hdown hsound ⊢
  cases after with
  | endReception =>
    unfold afterTeardown
    dsimp only
    split
    · exact .of_consistent hdown (sound_concat hsound rfl) nofun nofun
    · exact .of_consistent hdown hsound nofun nofun
  | resetReception => exact .of_consistent hdown hsound nofun nofun
  | destroy => exact .of_consistent hdown hsound nofun nofun

theorem teardownReceiverStack_stackInv {s : ReceiverState σ} (hs : StackConsistent s.client)
    (hsound : ∀ e ∈ s.log, e.sound = true) (after : AfterTeardown) :
    StackInv (teardownReceiverStack s after) := by
  unfold teardownReceiverStack deInitializeStack
  split_ifs
  · exact .of_consistent hs hsound (by simp [ReceiverControl.call]) (by simp [ReceiverControl.call])
  · exact afterTeardown_stackInv hsound after

/-- The clean-up after a failed first phase has no message receiver to destroy. -/
theorem Halted.deInitializeStack {s : ReceiverState σ} (h : Halted .uninitialized s) :
    deInitializeStack s .bringUpFailed =
      { (finishDeInitializeStack s).emit [.bringUpFailed] with control := .idle } := by
  unfold EventHubReceiverLL.deInitializeStack
  rw [if_neg (by simp [h.messageReceiver])]
  rfl

theorem Halted.stackInv {s : ReceiverState σ} (h : Halted .uninitialized s) :
    StackInv (EventHubReceiverLL.deInitializeStack s .bringUpFailed) := by
  rw [h.deInitializeStack]
  refine .of_consistent ?_ (sound_concat (sound_concat h.sound rfl) rfl)
    (by simp [ReceiverControl.call]) (by simp [ReceiverControl.call])
  simp [StackConsistent, ReceiverState.emit, finishDeInitializeStack, h.amqpState]

/-! ### Authentication -/

section Up

variable {s : ReceiverState σ}

theorem Up.passCBS (h : Up s) (call : ReceiverStackCall) : Up (s.passCBS call) := by
  have hcbs := (h.consistent.connected h.initialized).cbsHandle
  obtain ⟨a, ha⟩ := Option.isSome_iff_exists.mp hcbs
  exact ⟨h.1, h.2, sound_concat h.3 (by simp [ReceiverEvent.sound, ha])⟩

theorem Up.answer {α : Type} (h : Up s) (x : Answer σ α) : Up (s.answer x) := by
  have hcbs := (h.consistent.connected h.initialized).cbsHandle
  refine ⟨h.consistent.congr rfl rfl (hcbs.symm ▸ rfl), h.2,
    sound_append h.sound fun e he ↦ ?_⟩
  obtain ⟨a, -, rfl⟩ := List.mem_map.mp he
  rfl

theorem Up.proceed (h : Up s) : Up (proceed s) := by
  unfold EventHubReceiverLL.proceed
  split_ifs with hstate
  · have hconsistent := h.consistent
    simp only [StackConsistent, hstate] at hconsistent
    exact ⟨⟨hconsistent.1.congr rfl rfl, hconsistent.2⟩, by simp, h.sound⟩
  · exact h

theorem Up.refreshExtOrProceed (h : Up s) (a : σ) (env : ReceiverEnv ι) :
    Up (refreshExtOrProceed auth s a env).1 := by
  unfold EventHubReceiverLL.refreshExtOrProceed
  cases s.client.extRefreshSASToken with
  | none => exact h.proceed
  | some token =>
    dsimp only
    by_cases hcred : s.client.connectionParams.credential = .sasTokenExt
    · rw [if_pos hcred]
      have h' := (h.passCBS .eventHubAuthCBSRefresh).answer (auth.refresh a (some token) env.put)
      exact ⟨h'.consistent.congr rfl rfl rfl, h'.initialized, h'.sound⟩
    · rw [if_neg hcred]
      exact h.proceed

theorem Up.handleSASTokenAuth (h : Up s) (env : ReceiverEnv ι) :
    Up (handleSASTokenAuth auth s env).1 := by
  unfold EventHubReceiverLL.handleSASTokenAuth
  cases s.client.cbsHandle with
  | none => exact h.passCBS _
  | some a =>
    have hstatus := (h.passCBS .eventHubAuthCBSGetStatus).answer (auth.getStatus a env.status)
    dsimp only
    generalize (s.passCBS .eventHubAuthCBSGetStatus).answer (auth.getStatus a env.status) = t
      at hstatus ⊢
    split_ifs
    · exact hstatus
    · cases (auth.getStatus a env.status).value.2 with
      | refreshRequired => exact (hstatus.passCBS _).answer _
      | idle => exact (hstatus.passCBS _).answer _
      | ok => exact hstatus.refreshExtOrProceed auth _ env
      | _ => exact hstatus

end Up

/-! ### `EventHubReceiver_LL_DoWork` -/

section DoWork

variable {s : ReceiverState σ}

/-- What `HandleSASTokenAuth` reports only moves control and gives the connection to
`connection_dowork`. -/
theorem AuthResult.stackInv {t : ReceiverState σ} (h : Up s) (ht : AuthResult s t) :
    StackInv t := by
  cases ht with
  | unregistered => exact .of_consistent h.consistent h.sound nofun nofun
  | raised callback r =>
    exact .of_consistent h.consistent (sound_concat h.sound rfl) nofun nofun
  | connection poll hne =>
    exact .of_consistent h.consistent
      (sound_pass h.sound _ (h.consistent.connected h.initialized).connection) nofun nofun
  | leave => exact .of_consistent h.consistent h.sound nofun nofun

theorem AuthResult.client {t : ReceiverState σ} (ht : AuthResult s t) : t.client = s.client := by
  cases ht <;> rfl

theorem AuthResult.log {t : ReceiverState σ} (ht : AuthResult s t) :
    ∃ events, t.log = s.log ++ events := by
  cases ht with
  | raised callback r => exact ⟨_, rfl⟩
  | connection poll => exact ⟨_, rfl⟩
  | _ => exact ⟨[], (List.append_nil _).symm⟩

theorem doWorkInitialized_stackInv (h : Up s) (env : ReceiverEnv ι) :
    StackInv (doWorkInitialized auth s env) :=
  (afterAuth_result _ _).stackInv (h.handleSASTokenAuth auth env)

theorem doWorkInitialized_initialized (h : Up s) (env : ReceiverEnv ι) :
    (doWorkInitialized auth s env).client.receiverAMQPConnectionState ≠ .uninitialized := by
  unfold doWorkInitialized
  dsimp only
  rw [(afterAuth_result _ _).client]
  exact (h.handleSASTokenAuth auth env).initialized

theorem doWorkInitialized_connected (h : Up s) (env : ReceiverEnv ι) :
    Connected (doWorkInitialized auth s env).client := by
  have hup := h.handleSASTokenAuth auth env
  unfold doWorkInitialized
  dsimp only
  rw [(afterAuth_result _ _).client]
  exact hup.consistent.connected hup.initialized

theorem doWorkInitialized_log (s : ReceiverState σ) (env : ReceiverEnv ι) :
    ∃ events, (doWorkInitialized auth s env).log = s.log ++ events := by
  obtain ⟨events, hlog, -⟩ := (handleSASTokenAuth_offstage auth s env).log
  obtain ⟨events', hlog'⟩ :=
    (afterAuth_result (handleSASTokenAuth auth s env).1 (handleSASTokenAuth auth s env).2).log
  exact ⟨events ++ events', by rw [← List.append_assoc, ← hlog]; exact hlog'⟩

theorem doWorkActive_stackInv {env : ReceiverEnv ι} (hs : StackConsistent s.client)
    (hsound : ∀ e ∈ s.log, e.sound = true) (hactive : s.client.state = .active)
    (hsecond : s.client.receiverAMQPConnectionState = .pendingReceiverCreate →
      ∀ call ∈ secondPhase, env.succeeds call = true) : StackInv (doWorkActive auth s env) := by
  unfold doWorkActive
  cases hstate : s.client.receiverAMQPConnectionState with
  | uninitialized =>
    have hinit := initializeFirst_spec auth env s ⟨hs, hactive, hstate, hsound⟩
    dsimp only
    generalize initializeFirst auth env s = x at hinit ⊢
    rcases x with ⟨_ | _, t⟩
    · exact Halted.stackInv hinit
    · exact doWorkInitialized_stackInv auth hinit env
  | pendingReceiverCreate =>
    have hinit := initializeStackReceiver_spec _ env s
      (.of_pendingReceiverCreate hs hstate hactive hsound)
    have hnone := fun t ↦ (initializeStackReceiver_succeeds (σ := σ) (hsecond hstate)).ne_none
      (s := s) (t := t)
    dsimp only
    generalize initializeStackReceiver env s = x at hinit hnone ⊢
    rcases x with ⟨_ | _, t⟩
    · exact absurd rfl (hnone t)
    · have hbuilt : Built .pendingReceiverCreate (.messageReceiver :: .link :: firstPhase) true t :=
        hinit
      refine ⟨fun _ h ↦ absurd rfl h, fun _ ↦ ?_, by simp [ReceiverControl.call], hbuilt.sound⟩
      refine ⟨hbuilt.amqpState, hbuilt.connected (by decide), ?_, ?_⟩ <;>
        · dsimp only
          rw [hbuilt.stack]
          decide
  | _ =>
    have hne : s.client.receiverAMQPConnectionState ≠ .uninitialized := by simp [hstate]
    exact doWorkInitialized_stackInv auth ⟨hs, hne, hsound⟩ env

theorem doWork_stackInv (hs : StackInv s) (hidle : s.control = .idle) {env : ReceiverEnv ι}
    (hsecond : s.client.state = .active →
      s.client.receiverAMQPConnectionState = .pendingReceiverCreate →
      ∀ call ∈ secondPhase, env.succeeds call = true) : StackInv (doWork auth s env) := by
  have hconsistent : StackConsistent s.client :=
    hs.consistent (by simp [hidle]) (by simp [hidle, ReceiverControl.call])
  have hsound : ∀ e ∈ (s.emit [.doWork]).log, e.sound = true := sound_concat hs.sound rfl
  unfold doWork
  dsimp only
  cases hstate : (s.emit [.doWork]).client.state with
  | inactivePending =>
    exact teardownReceiverStack_stackInv (s := s.emit [.doWork]) hconsistent hsound _
  | active => exact doWorkActive_stackInv auth hconsistent hsound hstate (hsecond hstate)
  | inactive =>
    exact .of_consistent hconsistent hsound (by simp [ReceiverState.emit, hidle,
      ReceiverControl.call]) (by simp [ReceiverState.emit, hidle, ReceiverControl.call])

/-- After `messagereceiver_open` and the tick the stack is initialised. -/
theorem afterOpen_stackInv (hs : StackInv s) (hopen : s.control = .uamqp .messagereceiverOpen)
    {ok : Bool} {env : ReceiverEnv ι} (hok : ok = true)
    (htick : s.client.waitTimeoutInMs ≠ 0 → env.tick.isSome) :
    StackInv (afterOpen auth s ok env) := by
  obtain ⟨-, hconnected, hlink, hreceiver⟩ := hs.opening (by rw [hopen]; rfl)
  subst hok
  unfold afterOpen
  rw [if_neg (by simp)]
  have hup : ∀ tick, Up { s with client := { s.client with
      lastActivityTimestamp := tick
      receiverAMQPConnectionState := .initialized } } := fun tick ↦
    ⟨⟨hconnected.congr rfl rfl, hlink, hreceiver⟩, by simp, hs.sound⟩
  split_ifs with hwait
  · exact doWorkInitialized_stackInv auth (hup s.client.lastActivityTimestamp) env
  · obtain ⟨tick, htick'⟩ := Option.isSome_iff_exists.mp (htick hwait)
    rw [htick']
    exact doWorkInitialized_stackInv auth (hup tick) env

end DoWork

/-! ### Steps and runs -/

theorem defined_of_mayCall {s : ReceiverState σ} (h : mayCall s = true) :
    s.control ≠ .undefinedBehaviour := fun hc ↦ by
  simp [mayCall, hc] at h

theorem uamqpReturn_stackInv {s : ReceiverState σ} {call : ReceiverUamqpCall} {ok : Bool}
    {env : ReceiverEnv ι} (hs : StackInv s) (hcall : s.control = .uamqp call)
    (hsecond : s.control = .uamqp .messagereceiverOpen →
      ok = true ∧ (s.client.waitTimeoutInMs ≠ 0 → env.tick.isSome)) :
    StackInv (uamqpReturn auth s ok env call) := by
  have hdefined : s.control ≠ .undefinedBehaviour := by simp [hcall]
  cases call with
  | messagereceiverOpen =>
    exact afterOpen_stackInv auth hs hcall (hsecond hcall).1 (hsecond hcall).2
  | connectionDowork poll =>
    have hopen : s.control.call ≠ some .messagereceiverOpen := by simp [hcall, ReceiverControl.call]
    cases poll with
    | false =>
      exact hs.leave (m := []) hdefined hopen rfl rfl rfl rfl (List.append_nil _).symm (by simp)
    | true =>
      change StackInv (handleTimeouts s env.tick)
      rcases handleTimeouts_cases s env.tick with ⟨now, callback, -, h⟩ | ⟨stamp, h⟩ <;> rw [h]
      · exact hs.leave hdefined hopen rfl rfl rfl rfl rfl (by simp [ReceiverEvent.sound])
      · exact hs.leave (m := []) hdefined hopen rfl rfl rfl rfl (List.append_nil _).symm (by simp)
  | messagereceiverDestroy after =>
    cases after with
    | bringUpFailed => exact absurd (by rw [hcall]; rfl) hs.regular
    | teardown after => exact afterTeardown_stackInv hs.sound after

theorem step_stackInv {s t : ReceiverState σ} {i : ReceiverInput ι} (hs : StackInv s)
    (hsecond : SecondPhaseSucceeds s i) (hstep : step auth s i = some t) : StackInv t := by
  have hnil := (List.append_nil s.log).symm
  cases step_move auth hstep with
  | receiveAsync onReceive onError timestamp timeout env hmay =>
    have hdefined := defined_of_mayCall hmay
    rcases receiveAsyncCommon_cases s onReceive onError timestamp timeout env with
      ⟨r, -, h⟩ | ⟨r, tick, filter, -, -, -, -, h⟩ |
        ⟨receiveCb, errorCb, tick, -, -, -, h⟩ <;> rw [h]
    · exact hs
    · exact hs.keep (m := []) hdefined rfl rfl rfl rfl hnil (by simp)
    · exact hs.keep hdefined rfl rfl rfl rfl rfl (by simp [ReceiverEvent.sound])
  | receiveEndAsync onEnd hmay =>
    rcases receiveEndAsync_cases s onEnd with ⟨-, h⟩ | ⟨-, h⟩ <;> rw [h]
    · exact hs
    · exact hs.keep (defined_of_mayCall hmay) rfl rfl rfl rfl rfl (by simp [ReceiverEvent.sound])
  | refreshSASTokenAsync token env hmay =>
    rcases refreshSASTokenAsync_cases s token env with
      ⟨r, -, h⟩ | ⟨text, config, cfg, -, -, -, -, -, -, h⟩ <;> rw [h]
    · exact hs
    · exact hs.keep (defined_of_mayCall hmay) rfl rfl rfl rfl rfl (by simp [ReceiverEvent.sound])
  | setConnectionTracing on hmay =>
    have hdefined := defined_of_mayCall hmay
    rcases setConnectionTracing_cases s on with ⟨-, h⟩ | ⟨hne, h⟩ <;> rw [h]
    · exact hs.keep (m := []) hdefined rfl rfl rfl rfl hnil (by simp)
    · obtain ⟨c, hc⟩ := Option.isSome_iff_exists.mp (hs.connected hdefined hne).connection
      exact hs.keep hdefined rfl rfl rfl rfl rfl (by simp [ReceiverEvent.sound, hc])
  | doWork env hidle _ => exact doWork_stackInv auth hs hidle hsecond
  | destroy hidle _ =>
    refine teardownReceiverStack_stackInv ?_ (sound_concat hs.sound rfl) _
    exact hs.consistent (by simp [hidle]) (by simp [hidle, ReceiverControl.call])
  | @onMessageReceived call message env hcall _ =>
    have hdefined : s.control ≠ .undefinedBehaviour := by simp [hcall]
    have hcall' : s.control.call = some call := by rw [hcall]; rfl
    rcases onMessageReceived_cases s message env call with
      h | ⟨-, h⟩ | ⟨callback, event, -, -, h⟩ <;> rw [h]
    · exact hs.keep hdefined rfl rfl rfl rfl rfl (by simp [ReceiverEvent.sound])
    · exact ⟨fun h ↦ absurd rfl h, nofun, nofun, hs.sound⟩
    · exact hs.keep hdefined hcall'.symm rfl rfl rfl rfl (by simp [ReceiverEvent.sound])
  | @onStateChanged call newState previousState hcall _ =>
    have hcall' : s.control.call = some call := by rw [hcall]; rfl
    rcases onStateChanged_cases s newState previousState call with h | ⟨callback, -, h⟩ <;> rw [h]
    · exact hs
    · exact hs.keep (by simp [hcall]) hcall'.symm rfl rfl rfl rfl (by simp [ReceiverEvent.sound])
  | onCBSPutTokenOperationComplete r env hcall ha _ =>
    refine hs.keep (by simp [hcall]) rfl rfl rfl (by rw [ha]; rfl) rfl fun e he ↦ ?_
    obtain ⟨b, -, rfl⟩ := List.mem_map.mp he
    rfl
  | uamqpReturn ok env hcall => exact uamqpReturn_stackInv auth hs hcall hsecond
  | receiveReturn hreceive =>
    exact hs.keep (by simp [hreceive]) (by rw [hreceive]; rfl) rfl rfl rfl rfl
      (by simp [ReceiverEvent.sound])
  | timeoutReturn htimeout =>
    exact hs.leave (m := []) (by simp [htimeout]) (by simp [htimeout, ReceiverControl.call]) rfl rfl
      rfl rfl hnil (by simp)
  | @errorReturn after herror =>
    cases after with
    | uamqp call =>
      exact hs.keep (m := []) (by simp [herror]) (by rw [herror]; rfl) rfl rfl rfl hnil (by simp)
    | teardown =>
      refine teardownReceiverStack_stackInv (hs.consistent (by simp [herror]) ?_) hs.sound _
      simp [herror, ReceiverControl.call]
  | endReturn hend =>
    exact hs.leave (m := []) (by simp [hend]) (by simp [hend, ReceiverControl.call]) rfl rfl rfl rfl
      hnil (by simp)

theorem created_stackInv {c : EventHubReceiverLL σ} (hc : Created c) :
    StackInv { client := c } := by
  refine .of_consistent ?_ (by simp) nofun nofun
  cases hc <;> exact ⟨fun _ ↦ rfl, rfl⟩

/-- The next `EventHubReceiver_LL_DoWork` of an active receiver without a stack starts the bring-up.
When a call fails it ends where it began. When all calls succeed, among them
`EventHubAuthCBS_Create` for the configuration of the receiver and the session that has just been
made, the stack of the first phase is there. -/
structure Restarts (t : ReceiverState σ) (env : ReceiverEnv ι) : Prop where
  starts : ∃ events, (doWork auth t env).log = t.log ++ .doWork :: .reset false :: events
  failed : (initializeFirst auth env (t.emit [.doWork])).1 = none →
    (doWork auth t env).control = .idle ∧ (doWork auth t env).client.state = .active ∧
    (doWork auth t env).client.receiverAMQPConnectionState = .uninitialized ∧
    StackConsistent (doWork auth t env).client
  connects : (∀ call, env.succeeds call = true) →
    (auth.create (authConfig t.client) (some (t.nextHandle + 4)) env.create).isSome = true →
    (doWork auth t env).client.receiverAMQPConnectionState ≠ .uninitialized ∧
    Connected (doWork auth t env).client

theorem StackInv.restarts {t : ReceiverState σ} (ht : StackInv t) (hidle : t.control = .idle)
    (hactive : t.client.state = .active)
    (huninit : t.client.receiverAMQPConnectionState = .uninitialized) (env : ReceiverEnv ι) :
    Restarts auth t env := by
  have hconsistent : StackConsistent t.client :=
    ht.consistent (by simp [hidle]) (by simp [hidle, ReceiverControl.call])
  have hspec := initializeFirst_spec (σ := σ) auth env
  have hpre : StackConsistent (t.emit [.doWork]).client ∧
      (t.emit [.doWork]).client.state = .active ∧
      (t.emit [.doWork]).client.receiverAMQPConnectionState = .uninitialized ∧
      ∀ e ∈ (t.emit [.doWork]).log, e.sound = true :=
    ⟨hconsistent, hactive, huninit, sound_concat ht.sound rfl⟩
  have hactive' : (t.emit [.doWork]).client.state = .active := hactive
  have huninit' : (t.emit [.doWork]).client.receiverAMQPConnectionState = .uninitialized := huninit
  have hreset : (resetConnection (t.emit [.doWork])).log = t.log ++ [.doWork, .reset false] := by
    simp only [StackConsistent, huninit] at hconsistent
    simp [resetConnection, ReceiverState.emit, hconsistent.1, hconsistent.2]
  have hoffstage := initializeFirst_offstage auth env (t.emit [.doWork])
  refine ⟨?_, fun hnone ↦ ?_, fun hcalls hcreate ↦ ?_⟩
  · obtain ⟨events, hlog, -⟩ := hoffstage.log
    rcases hinit : initializeFirst auth env (t.emit [.doWork]) with ⟨_ | a, u⟩
    · have hhalted : Halted .uninitialized u := hspec.of_eq_none hpre hinit
      have hwork : doWork auth t env = deInitializeStack u .bringUpFailed := by
        simp only [doWork, doWorkActive, hactive', huninit', hinit]
      have hended : (doWork auth t env).log = u.log ++ [.stackDestroyed, .bringUpFailed] := by
        rw [hwork, hhalted.deInitializeStack]
        simp [finishDeInitializeStack, ReceiverState.emit]
      have hlog' : u.log = t.log ++ [.doWork, .reset false] ++ events := by
        rw [hinit, hreset] at hlog
        exact hlog
      exact ⟨events ++ [.stackDestroyed, .bringUpFailed], by rw [hended, hlog']; simp⟩
    · have hwork : doWork auth t env = doWorkInitialized auth u env := by
        simp only [doWork, doWorkActive, hactive', huninit', hinit]
      rw [hinit, hreset] at hlog
      obtain ⟨events', hlog'⟩ := doWorkInitialized_log auth u env
      exact ⟨events ++ events', by rw [hwork, hlog', hlog]; simp⟩
  · obtain ⟨u, hu⟩ : ∃ u, initializeFirst auth env (t.emit [.doWork]) = (none, u) :=
      ⟨_, Prod.ext hnone rfl⟩
    have hhalted : Halted .uninitialized u := hspec.of_eq_none hpre hu
    have hwork : doWork auth t env = deInitializeStack u .bringUpFailed := by
      simp only [doWork, doWorkActive, hactive', huninit', hu]
    have hinv := hhalted.stackInv
    rw [hhalted.deInitializeStack] at hinv hwork
    rw [hwork]
    exact ⟨rfl, hhalted.active, hhalted.amqpState, hinv.consistent nofun nofun⟩
  · have hruns := initializeFirst_runs auth hcalls hcreate (t.emit [.doWork]) ⟨rfl, rfl⟩
    rcases hinit : initializeFirst auth env (t.emit [.doWork]) with ⟨_ | a, u⟩
    · rw [hinit] at hruns
      exact hruns.elim
    · have hwork : doWork auth t env = doWorkInitialized auth u env := by
        simp only [doWork, doWorkActive, hactive', huninit', hinit]
      have hup := hspec.of_eq_some hpre hinit
      rw [hwork]
      exact ⟨doWorkInitialized_initialized auth hup env, doWorkInitialized_connected auth hup env⟩

/-- In every run of a receiver in which the second phase of the bring-up is entered only to succeed,
`receiverAMQPConnectionState` says which handles of the stack are there, no call was given a NULL
handle, no creating call and no reset was stored over a handle, and an active receiver without a
stack starts the bring-up afresh. -/
theorem run_receiverStack_consistent {c : EventHubReceiverLL σ} (hc : Created c)
    {is : List (ReceiverInput ι)} {t : ReceiverState σ}
    (hsecond : (receiverMachine auth).Meets SecondPhaseSucceeds { client := c } is)
    (hrun : (receiverMachine auth).run { client := c } is = some t) :
    (t.control = .idle → StackConsistent t.client) ∧
    (∀ call isNull, ReceiverEvent.passed call isNull ∈ t.log → isNull = false) ∧
    (∀ field lost, ReceiverEvent.stored field lost ∈ t.log → lost = false) ∧
    (∀ lost, ReceiverEvent.storedCBS lost ∈ t.log → lost = false) ∧
    (∀ lost, ReceiverEvent.reset lost ∈ t.log → lost = false) ∧
    (t.control = .idle → t.client.state = .active →
      t.client.receiverAMQPConnectionState = .uninitialized → ∀ env, Restarts auth t env) := by
  have hstep : ∀ s i t, StackInv s → SecondPhaseSucceeds s i →
      (receiverMachine auth).step s i = some t → StackInv t :=
    fun _ _ _ hs hi h ↦ step_stackInv auth hs hi h
  have ht := Machine.run_invariant_of_meets hstep (created_stackInv hc) hsecond hrun
  refine ⟨fun hidle ↦ ht.consistent (by simp [hidle]) (by simp [hidle, ReceiverControl.call]),
    fun call isNull h ↦ ?_, fun field lost h ↦ ?_, fun lost h ↦ ?_, fun lost h ↦ ?_,
    fun hidle hactive huninit env ↦ ht.restarts auth hidle hactive huninit env⟩ <;>
    simpa [ReceiverEvent.sound] using ht.sound _ h

/-- What the environment contributes at the second `now` when all calls succeed. -/
def workAt (now : UInt64) : ReceiverEnv AuthEnv where
  create := {}
  status := { statusNow := some now }
  put := { putNow := some now }

/-- A reception with a wait timeout is started and authorised. -/
def authorised : List (ReceiverInput AuthEnv) :=
  [.receiveFromStartTimestampWithTimeoutAsync (some ⟨1, none⟩) (some ⟨2, none⟩) 0 1000 {},
    .doWork (workAt 1), .onCBSPutTokenOperationComplete .ok {}, .uamqpReturn true (workAt 1),
    .doWork (workAt 2)]

/-- The reception is brought up and polled once. -/
def receiving : List (ReceiverInput AuthEnv) :=
  authorised ++ [.doWork (workAt 3), .uamqpReturn true (workAt 3), .uamqpReturn true (workAt 3)]

/-- A first bring-up in which `connection_create` fails. -/
def failedOnce : List (ReceiverInput AuthEnv) :=
  [.receiveFromStartTimestampWithTimeoutAsync (some ⟨1, none⟩) (some ⟨2, none⟩) 0 1000 {},
    .doWork { workAt 1 with succeeds := fun c ↦ c ≠ .connectionCreate }]

/-- The stack of a receiver that is up, and the second bring-up of a receiver whose first one has
failed. -/
theorem run_receiverStack_consistent_receiving :
    (∃ t, (receiverMachine (EventHubAuthCBS.authModule fun _ ↦ none)).run
        { client := createdFromConnectionString "host" "hub" "name" "key" "group" "0" }
        receiving = some t ∧
      t.control = .idle ∧ t.client.receiverAMQPConnectionState = .initialized ∧
      StackConsistent t.client) ∧
    ∃ t, (receiverMachine (EventHubAuthCBS.authModule fun _ ↦ none)).run
        { client := createdFromConnectionString "host" "hub" "name" "key" "group" "0" }
        failedOnce = some t ∧
      ReceiverEvent.bringUpFailed ∈ t.log ∧
      Connected (doWork (EventHubAuthCBS.authModule fun _ ↦ none) t (workAt 2)).client := by
  have hcreated : Created
      (createdFromConnectionString (σ := EventHubAuthCBSStruct) "host" "hub" "name" "key" "group"
        "0") := .fromConnectionString "host" "hub" "name" "key" "group" "0"
  refine ⟨⟨_, rfl, rfl, rfl, ?_⟩, ⟨_, rfl, by decide, ?_⟩⟩
  · exact (@run_receiverStack_consistent _ _ (EventHubAuthCBS.authModule fun _ ↦ none) _ hcreated
      receiving _ (by decide) rfl).1 rfl
  · obtain ⟨-, -, -, -, -, hrestarts⟩ := @run_receiverStack_consistent _ _
      (EventHubAuthCBS.authModule fun _ ↦ none) _ hcreated failedOnce _ (by decide) rfl
    exact ((hrestarts rfl rfl rfl (workAt 2)).connects (fun _ ↦ rfl) rfl).2

/-- A failing `link_create` leaves the receiver at `RECEIVER_AMQP_PENDING_RECEIVER_CREATE` without
handles, and the next bring-up gives `link_create` a NULL session. A failing tick leaves it there
with all handles, and the next bring-up overwrites link and message receiver. -/
theorem run_stack_stuck :
    (∃ t, (receiverMachine (EventHubAuthCBS.authModule fun _ ↦ none)).run
        { client := createdFromConnectionString "host" "hub" "name" "key" "group" "0" }
        (authorised ++ [.doWork { workAt 3 with succeeds := fun c ↦ c ≠ .linkCreate },
          .doWork { workAt 4 with succeeds := fun c ↦ c ≠ .linkCreate }]) = some t ∧
      t.control = .idle ∧ ¬StackConsistent t.client ∧
      ReceiverEvent.passed .linkCreate true ∈ t.log) ∧
    ∃ t, (receiverMachine (EventHubAuthCBS.authModule fun _ ↦ none)).run
        { client := createdFromConnectionString "host" "hub" "name" "key" "group" "0" }
        (authorised ++ [.doWork (workAt 3), .uamqpReturn true { workAt 3 with tick := none },
          .doWork (workAt 4), .uamqpReturn true { workAt 4 with tick := none }]) = some t ∧
      t.control = .idle ∧ ¬StackConsistent t.client ∧
      ReceiverEvent.stored .link true ∈ t.log ∧
      ReceiverEvent.stored .messageReceiver true ∈ t.log := by
  refine ⟨⟨_, rfl, rfl, fun h ↦ ?_, by decide⟩, ⟨_, rfl, rfl, fun h ↦ ?_, by decide, by decide⟩⟩
  · exact absurd h.1.connection (by decide)
  · exact absurd h.2.1 (by decide)

end EventHubReceiverLL

end EventHubs
