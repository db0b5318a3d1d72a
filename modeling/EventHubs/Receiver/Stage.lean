import EventHubs.Receiver.Spec

/-!
# What `EventHubReceiver_LL_DoWork` does to a reception

Bringing the stack up, authenticating and taking the stack down after a failed bring-up leave the
registration alone. `Worked` lists what a stretch of `EventHubReceiver_LL_DoWork` on an active
reception can end in.

## Main definitions

* `ReceiverEvent.internal` — events that the user does not see.
* `Registration` — the fields that a receive call sets up.
* `ReceiverState.Backstage` — the registration is left alone.
* `ReceiverState.Offstage` — so is all else that does not belong to the stack.
* `EventHubReceiverLL.Worked`.

## Main results

* `EventHubReceiverLL.doWorkActive_worked`, `EventHubReceiverLL.afterOpen_worked`.
-/

namespace EventHubs

/-- Events that neither begin nor end a reception and that the user does not see. -/
def ReceiverEvent.internal : ReceiverEvent → Bool
  | .started _ _ => false
  | .ending _ => false
  | .received _ _ => false
  | .timedOut _ => false
  | .errorRaised _ _ => false
  | .ended _ _ => false
  | .doWork => false
  | _ => true

/-- The points that `EventHubReceiver_LL_DoWork` on an active reception reaches without calling the
user. -/
def ReceiverControl.working : ReceiverControl → Bool
  | .idle => true
  | .uamqp .messagereceiverOpen => true
  | .uamqp (.connectionDowork _) => true
  | .uamqp (.messagereceiverDestroy .bringUpFailed) => true
  | _ => false

/-- What a receive call registers, with the state of the reception and its end callback. -/
structure Registration where
  state : EventHubReceiverState
  onEventReceiveCallback : Option UserCallback
  onEventReceiveErrorCallback : Option UserCallback
  onEventReceiveEndCallback : Option UserCallback
  receiverQueryFilter : Option String
  startTimestamp : UInt64
  waitTimeoutInMs : UInt32

/-- The registration that a receiver holds. -/
def EventHubReceiverLL.registration {σ : Type} (c : EventHubReceiverLL σ) : Registration where
  state := c.state
  onEventReceiveCallback := c.callback.onEventReceiveCallback
  onEventReceiveErrorCallback := c.callback.onEventReceiveErrorCallback
  onEventReceiveEndCallback := c.callback.onEventReceiveEndCallback
  receiverQueryFilter := c.receiverQueryFilter
  startTimestamp := c.startTimestamp
  waitTimeoutInMs := c.waitTimeoutInMs

namespace ReceiverState

variable {σ : Type}

/-- The registration is left alone. -/
structure Backstage (s t : ReceiverState σ) : Prop where
  registration : t.client.registration = s.client.registration
  log : ∃ events, t.log = s.log ++ events ∧ ∀ e ∈ events, e.internal = true

namespace Backstage

variable {s t u : ReceiverState σ}

theorem state (h : Backstage s t) : t.client.state = s.client.state :=
  congrArg Registration.state h.registration

theorem onEventReceiveErrorCallback (h : Backstage s t) :
    t.client.callback.onEventReceiveErrorCallback =
      s.client.callback.onEventReceiveErrorCallback :=
  congrArg Registration.onEventReceiveErrorCallback h.registration

/-- A change that shows nothing. -/
theorem of_registration (h : t.client.registration = s.client.registration) (hlog : t.log = s.log) :
    Backstage s t := ⟨h, [], by simp [hlog], by simp⟩

theorem refl (s : ReceiverState σ) : Backstage s s := of_registration rfl rfl

theorem trans (h : Backstage s t) (h' : Backstage t u) : Backstage s u := by
  obtain ⟨events, hlog, hinternal⟩ := h.log
  obtain ⟨events', hlog', hinternal'⟩ := h'.log
  refine ⟨h'.registration.trans h.registration, events ++ events',
    by rw [hlog', hlog, List.append_assoc], fun e he ↦ ?_⟩
  exact (List.mem_append.mp he).elim (hinternal e) (hinternal' e)

theorem pass (s : ReceiverState σ) (call : ReceiverStackCall) (field : ReceiverField) :
    Backstage s (s.pass call field) := ⟨rfl, _, rfl, by simp [ReceiverEvent.internal]⟩

theorem passCBS (s : ReceiverState σ) (call : ReceiverStackCall) : Backstage s (s.passCBS call) :=
  ⟨rfl, _, rfl, by simp [ReceiverEvent.internal]⟩

theorem answer {α : Type} (s : ReceiverState σ) (x : Answer σ α) : Backstage s (s.answer x) := by
  refine ⟨rfl, _, rfl, fun e he ↦ ?_⟩
  obtain ⟨a, -, rfl⟩ := List.mem_map.mp he
  rfl

end Backstage

/-- What belongs to the stack may change, and nothing else. -/
structure Offstage (s t : ReceiverState σ) : Prop extends Backstage s t where
  lastActivityTimestamp : t.client.lastActivityTimestamp = s.client.lastActivityTimestamp
  wasMessageReceived :
    t.client.callback.wasMessageReceived = s.client.callback.wasMessageReceived
  destroying : t.destroying = s.destroying

namespace Offstage

variable {s t u : ReceiverState σ}

theorem refl (s : ReceiverState σ) : Offstage s s := ⟨.refl s, rfl, rfl, rfl⟩

theorem trans (h : Offstage s t) (h' : Offstage t u) : Offstage s u :=
  ⟨h.toBackstage.trans h'.toBackstage, h'.lastActivityTimestamp.trans h.lastActivityTimestamp,
    h'.wasMessageReceived.trans h.wasMessageReceived, h'.destroying.trans h.destroying⟩

theorem passCBS (s : ReceiverState σ) (call : ReceiverStackCall) : Offstage s (s.passCBS call) :=
  ⟨.passCBS s call, rfl, rfl, rfl⟩

theorem answer {α : Type} (s : ReceiverState σ) (x : Answer σ α) : Offstage s (s.answer x) :=
  ⟨.answer s x, rfl, rfl, rfl⟩

end Offstage

end ReceiverState

namespace EventHubReceiverLL

variable {σ ι : Type} (auth : AuthModule σ ι)

open ReceiverState Attempt

/-! ### Bring-up -/

theorem createHandle_offstage (env : ReceiverEnv ι) (call : ReceiverCall) (field : ReceiverField) :
    Frame (Offstage (σ := σ)) (createHandle env call field) := by
  intro s
  unfold createHandle
  split_ifs <;> exact ⟨⟨rfl, _, rfl, by simp [ReceiverEvent.internal]⟩, rfl, rfl, rfl⟩

theorem passHandle_offstage (call : ReceiverStackCall) (field : ReceiverField) :
    Frame (Offstage (σ := σ)) (passHandle call field) := fun s ↦
  ⟨.pass s call field, rfl, rfl, rfl⟩

theorem createSasToken_offstage (env : ReceiverEnv ι) :
    Frame (Offstage (σ := σ)) (createSasToken auth env) := by
  have hstore : ∀ (s : ReceiverState σ) (a : Option σ), Offstage s (s.storeCBS a) := fun s a ↦ by
    refine ⟨⟨rfl, _, rfl, ?_⟩, rfl, rfl, rfl⟩
    cases a <;> simp [ReceiverEvent.internal]
  unfold createSasToken
  refine .bind .trans (.update fun s ↦ ⟨.of_registration rfl rfl, rfl, rfl, rfl⟩) fun _ ↦ ?_
  refine .bind .trans (passHandle_offstage _ _) fun _ ↦ .bind .trans (.read .refl) fun s ↦ ?_
  exact .bind .trans (.update fun t ↦ hstore t _) fun _ ↦ .check .refl

theorem initializeStackCommon_offstage (env : ReceiverEnv ι) :
    Frame (Offstage (σ := σ)) (initializeStackCommon auth env) := by
  unfold initializeStackCommon
  repeat' first
    | exact .check .refl
    | exact passHandle_offstage _ _
    | exact createHandle_offstage env _ _
    | exact createSasToken_offstage auth env
    | refine .bind .trans ?_ fun _ ↦ ?_

/-- The bring-up starts with `EventHubConnectionAMQP_Reset`. -/
theorem initializeFirst_offstage (env : ReceiverEnv ι) (s : ReceiverState σ) :
    Offstage (resetConnection s) (initializeFirst auth env s).2 := by
  have hframe : Frame (Offstage (σ := σ))
      (initializeStackCommon auth env >>= fun _ ↦ setAMQPState .pendingAuthorization) :=
    .bind .trans (initializeStackCommon_offstage auth env) fun _ ↦
      .update fun s ↦ ⟨.of_registration rfl rfl, rfl, rfl, rfl⟩
  exact hframe (resetConnection s)

theorem resetConnection_offstage (s : ReceiverState σ) : Offstage s (resetConnection s) :=
  ⟨⟨rfl, _, rfl, by simp [ReceiverEvent.internal]⟩, rfl, rfl, rfl⟩

theorem initializeStackReceiver_offstage (env : ReceiverEnv ι) :
    Frame (Offstage (σ := σ)) (initializeStackReceiver env) := by
  unfold initializeStackReceiver initializeSource
  repeat' first
    | exact .check .refl
    | exact passHandle_offstage _ _
    | exact createHandle_offstage env _ _
    | refine .bind .trans ?_ fun _ ↦ ?_

/-! ### Authentication -/

theorem proceed_offstage (s : ReceiverState σ) : Offstage s (proceed s) := by
  unfold proceed
  split_ifs
  · exact ⟨.of_registration rfl rfl, rfl, rfl, rfl⟩
  · exact .refl s

theorem refreshExtOrProceed_offstage (s : ReceiverState σ) (a : σ) (env : ReceiverEnv ι) :
    Offstage s (refreshExtOrProceed auth s a env).1 := by
  unfold refreshExtOrProceed
  cases s.client.extRefreshSASToken with
  | none => exact proceed_offstage s
  | some token =>
    dsimp only
    by_cases hcred : s.client.connectionParams.credential = .sasTokenExt
    · rw [if_pos hcred]
      have h := (Offstage.passCBS s .eventHubAuthCBSRefresh).trans
        (.answer _ (auth.refresh a (some token) env.put))
      exact h.trans ⟨.of_registration rfl rfl, rfl, rfl, rfl⟩
    · rw [if_neg hcred]
      exact proceed_offstage s

theorem handleSASTokenAuth_offstage (s : ReceiverState σ) (env : ReceiverEnv ι) :
    Offstage s (handleSASTokenAuth auth s env).1 := by
  unfold handleSASTokenAuth
  cases s.client.cbsHandle with
  | none => exact .passCBS s _
  | some a =>
    have hstatus := (Offstage.passCBS s .eventHubAuthCBSGetStatus).trans
      (.answer _ (auth.getStatus a env.status))
    dsimp only
    generalize (s.passCBS .eventHubAuthCBSGetStatus).answer (auth.getStatus a env.status) = t
      at hstatus ⊢
    split_ifs
    · exact hstatus
    · cases (auth.getStatus a env.status).value.2 with
      | refreshRequired => exact hstatus.trans ((Offstage.passCBS t _).trans (.answer _ _))
      | idle => exact hstatus.trans ((Offstage.passCBS t _).trans (.answer _ _))
      | ok => exact hstatus.trans (refreshExtOrProceed_offstage auth t _ env)
      | _ => exact hstatus

/-! ### `EventHubReceiver_LL_DoWork` -/

/-- What a stretch of `EventHubReceiver_LL_DoWork` on an active reception ends in: a point reached
without calling the user, the call of an error callback that is NULL, or the error callback before a
tear-down. -/
inductive Worked (s : ReceiverState σ) : ReceiverState σ → Prop
  | resumed {u : ReceiverState σ} (c : ReceiverControl) (h : Backstage s u)
      (hc : c.working = true) : Worked s { u with control := c }
  | unregistered {u : ReceiverState σ} (h : Backstage s u)
      (hnone : s.client.callback.onEventReceiveErrorCallback = none) :
    Worked s { u with control := .undefinedBehaviour }
  | raised {u : ReceiverState σ} (callback : UserCallback) (r : EventHubReceiverResult)
      (h : Backstage s u)
      (hcb : s.client.callback.onEventReceiveErrorCallback = some callback) :
    Worked s { u with
      control := .errorCb .teardown
      log := u.log ++ [.errorRaised callback r] }

theorem Worked.of_backstage {s u t : ReceiverState σ} (hw : Worked u t) (h : Backstage s u) :
    Worked s t := by
  cases hw with
  | resumed c hu hc => exact .resumed c (h.trans hu) hc
  | unregistered hu hnone =>
    exact .unregistered (h.trans hu) (h.onEventReceiveErrorCallback ▸ hnone)
  | raised callback r hu hcb =>
    exact .raised callback r (h.trans hu) (h.onEventReceiveErrorCallback ▸ hcb)

theorem AuthResult.worked {s u t : ReceiverState σ} (h : Backstage s u) (ht : AuthResult u t) :
    Worked s t := by
  cases ht with
  | unregistered hnone => exact .unregistered h (h.onEventReceiveErrorCallback ▸ hnone)
  | raised callback r hcb => exact .raised callback r h (h.onEventReceiveErrorCallback ▸ hcb)
  | connection poll => exact .resumed _ (h.trans (.pass u _ _)) rfl
  | leave => exact .resumed _ h rfl

theorem doWorkInitialized_worked {s u : ReceiverState σ} (h : Backstage s u)
    (env : ReceiverEnv ι) : Worked s (doWorkInitialized auth u env) :=
  (afterAuth_result _ _).worked (h.trans (handleSASTokenAuth_offstage auth u env).toBackstage)

theorem finishDeInitializeStack_backstage (s : ReceiverState σ) :
    Backstage s ((finishDeInitializeStack s).emit [.bringUpFailed]) :=
  ⟨rfl, [.stackDestroyed, .bringUpFailed], List.append_assoc ..,
    by simp [ReceiverEvent.internal]⟩

theorem bringUpFailed_worked {s u : ReceiverState σ} (h : Backstage s u) :
    Worked s (deInitializeStack u .bringUpFailed) := by
  unfold deInitializeStack
  split_ifs
  · exact .resumed _ h rfl
  · exact .resumed _ (h.trans (finishDeInitializeStack_backstage u)) rfl

/-- Without a stack, `EventHubReceiver_LL_DoWork` on an active reception starts the bring-up. -/
theorem doWorkActive_restarts {s : ReceiverState σ}
    (huninit : s.client.receiverAMQPConnectionState = .uninitialized) (env : ReceiverEnv ι) :
    Worked (resetConnection s) (doWorkActive auth s env) := by
  have h := (initializeFirst_offstage auth env s).toBackstage
  unfold doWorkActive
  simp only [huninit]
  generalize initializeFirst auth env s = x at h ⊢
  rcases x with ⟨_ | _, t⟩
  · exact bringUpFailed_worked h
  · exact doWorkInitialized_worked auth h env

theorem doWorkActive_worked (s : ReceiverState σ) (env : ReceiverEnv ι) :
    Worked s (doWorkActive auth s env) := by
  cases hstate : s.client.receiverAMQPConnectionState with
  | uninitialized =>
    exact (doWorkActive_restarts auth hstate env).of_backstage
      (resetConnection_offstage s).toBackstage
  | pendingReceiverCreate =>
    have h := (initializeStackReceiver_offstage env s).toBackstage
    unfold doWorkActive
    simp only [hstate]
    generalize initializeStackReceiver env s = x at h ⊢
    rcases x with ⟨_ | _, t⟩
    · exact bringUpFailed_worked h
    · exact .resumed _ h rfl
  | _ =>
    unfold doWorkActive
    simp only [hstate]
    exact doWorkInitialized_worked auth (.refl s) env

theorem afterOpen_worked (s : ReceiverState σ) (ok : Bool) (env : ReceiverEnv ι) :
    Worked s (afterOpen auth s ok env) := by
  unfold afterOpen
  split_ifs
  · exact bringUpFailed_worked (.refl s)
  · have h : Backstage s { s with
        client := { s.client with receiverAMQPConnectionState := .initialized } } :=
      .of_registration rfl rfl
    exact doWorkInitialized_worked auth h env
  · cases env.tick with
    | none =>
      have h : Backstage s (s.emit [.bringUpFailed]) :=
        ⟨rfl, _, rfl, by simp [ReceiverEvent.internal]⟩
      exact .resumed .idle h rfl
    | some tick =>
      have h : Backstage s { s with
          client := { s.client with
            lastActivityTimestamp := tick
            receiverAMQPConnectionState := .initialized } } := .of_registration rfl rfl
      exact doWorkInitialized_worked auth h env

end EventHubReceiverLL

end EventHubs
