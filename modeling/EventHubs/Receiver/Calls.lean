import EventHubs.Receiver.Reception

/-!
# The calls of a receiver, seen from its owner

What the owner of a low-level receiver can rely on while a call of it goes on: the log only grows,
`EventHubReceiver_LL_Destroy` is the only call that destroys, and the end callback is called only if
one is registered.

## Main definitions

* `EventHubReceiverLL.KeepsDestroying`, `EventHubReceiverLL.Served` — what a step inside a call
  leaves.

## Main results

* `EventHubReceiverLL.step_destroying`, `EventHubReceiverLL.step_served`.
-/

namespace EventHubs

namespace EventHubReceiverLL

variable {σ ι : Type} (auth : AuthModule σ ι)

open ReceiverState Attempt

/-! ### `destroying` -/

/-- `destroying` is left alone. -/
def KeepsDestroying (s t : ReceiverState σ) : Prop := t.destroying = s.destroying

theorem KeepsDestroying.trans {s t u : ReceiverState σ} (h : KeepsDestroying s t)
    (h' : KeepsDestroying t u) : KeepsDestroying s u := Eq.trans h' h

theorem AuthResult.destroying {s t : ReceiverState σ} (h : AuthResult s t) :
    KeepsDestroying s t := by
  cases h <;> rfl

theorem doWorkInitialized_destroying (s : ReceiverState σ) (env : ReceiverEnv ι) :
    KeepsDestroying s (doWorkInitialized auth s env) :=
  KeepsDestroying.trans (handleSASTokenAuth_offstage auth s env).destroying
    (afterAuth_result _ _).destroying

theorem deInitializeStack_destroying (s : ReceiverState σ) (after : AfterDeInitialize) :
    KeepsDestroying s (deInitializeStack s after) := by
  have hafter : KeepsDestroying s (afterDeInitialize (finishDeInitializeStack s) after) := by
    cases after with
    | bringUpFailed => rfl
    | teardown after =>
      cases after with
      | endReception =>
        unfold afterDeInitialize afterTeardown
        dsimp only
        split <;> rfl
      | resetReception => rfl
      | destroy => rfl
  unfold deInitializeStack
  split_ifs
  · rfl
  · exact hafter

theorem doWork_destroying (s : ReceiverState σ) (env : ReceiverEnv ι) :
    KeepsDestroying s (doWork auth s env) := by
  unfold doWork
  dsimp only
  cases (s.emit [.doWork]).client.state with
  | inactivePending => exact deInitializeStack_destroying (s.emit [.doWork]) _
  | inactive => rfl
  | active =>
    unfold doWorkActive
    cases (s.emit [.doWork]).client.receiverAMQPConnectionState with
    | uninitialized =>
      have hinit := (initializeFirst_offstage auth env (s.emit [.doWork])).destroying
      dsimp only
      generalize initializeFirst auth env (s.emit [.doWork]) = x at hinit ⊢
      rcases x with ⟨_ | _, t⟩
      · exact KeepsDestroying.trans hinit (deInitializeStack_destroying t _)
      · exact KeepsDestroying.trans hinit (doWorkInitialized_destroying auth t env)
    | pendingReceiverCreate =>
      have hinit := (initializeStackReceiver_offstage env (s.emit [.doWork])).destroying
      dsimp only
      generalize initializeStackReceiver env (s.emit [.doWork]) = x at hinit ⊢
      rcases x with ⟨_ | _, t⟩
      · exact KeepsDestroying.trans hinit (deInitializeStack_destroying t _)
      · exact hinit
    | _ => exact doWorkInitialized_destroying auth _ env

theorem uamqpReturn_destroying (s : ReceiverState σ) (ok : Bool) (env : ReceiverEnv ι)
    (call : ReceiverUamqpCall) : KeepsDestroying s (uamqpReturn auth s ok env call) := by
  cases call with
  | messagereceiverOpen =>
    unfold uamqpReturn afterOpen
    dsimp only
    split_ifs
    · exact deInitializeStack_destroying s _
    · exact doWorkInitialized_destroying auth _ env
    · cases env.tick with
      | none => rfl
      | some tick => exact doWorkInitialized_destroying auth _ env
  | connectionDowork poll =>
    cases poll with
    | false => rfl
    | true =>
      change KeepsDestroying s (handleTimeouts s env.tick)
      rcases handleTimeouts_cases s env.tick with ⟨now, callback, -, h⟩ |
        ⟨stamp, h⟩ <;> rw [h] <;> rfl
  | messagereceiverDestroy after =>
    cases after with
    | bringUpFailed => rfl
    | teardown after =>
      cases after with
      | endReception =>
        unfold uamqpReturn afterDeInitialize afterTeardown
        dsimp only
        split <;> rfl
      | resetReception => rfl
      | destroy => rfl

/-- Nothing but `EventHubReceiver_LL_Destroy` sets `destroying`. -/
theorem step_destroying {s t : ReceiverState σ} {i : ReceiverInput ι}
    (hstep : step auth s i = some t) (hi : i ≠ .destroy) :
    t.destroying = s.destroying := by
  cases step_move auth hstep with
  | receiveAsync onReceive onError timestamp timeout env _ =>
    rcases receiveAsyncCommon_cases s onReceive onError timestamp timeout env with
      ⟨r, -, h⟩ | ⟨r, tick, filter, -, -, -, -, h⟩ |
        ⟨receiveCb, errorCb, tick, -, -, -, h⟩ <;> rw [h]
  | receiveEndAsync onEnd _ =>
    rcases receiveEndAsync_cases s onEnd with ⟨-, h⟩ | ⟨-, h⟩ <;> rw [h]
  | refreshSASTokenAsync token env _ =>
    rcases refreshSASTokenAsync_cases s token env with
      ⟨r, -, h⟩ | ⟨text, config, cfg, -, -, -, -, -, -, h⟩ <;> rw [h]
  | setConnectionTracing on _ =>
    rcases setConnectionTracing_cases s on with ⟨-, h⟩ | ⟨-, h⟩ <;> rw [h]
  | doWork env _ _ => exact doWork_destroying auth s env
  | destroy _ _ => exact absurd rfl hi
  | onMessageReceived message env _ _ =>
    rcases onMessageReceived_cases s message env _ with h | ⟨-, h⟩ | ⟨callback, event, -, -, h⟩ <;>
      rw [h] <;> rfl
  | onStateChanged newState previousState _ _ =>
    rcases onStateChanged_cases s newState previousState _ with h | ⟨callback, -, h⟩ <;> rw [h]
  | onCBSPutTokenOperationComplete r env _ _ _ => rfl
  | uamqpReturn ok env _ => exact uamqpReturn_destroying auth s ok env _
  | receiveReturn _ => rfl
  | timeoutReturn _ => rfl
  | @errorReturn after _ =>
    cases after with
    | uamqp call => rfl
    | teardown => exact deInitializeStack_destroying s _
  | endReturn _ => rfl

/-! ### The end callback -/

/-- The log has grown, and the end callback was called only if it was registered and is not
registered anew. -/
structure Served (s t : ReceiverState σ) : Prop where
  log : ∃ events, t.log = s.log ++ events ∧ ∀ callback r, .ended callback r ∈ events →
    s.client.callback.onEventReceiveEndCallback ≠ none
  onEnd : t.client.callback.onEventReceiveEndCallback ≠ none →
    s.client.callback.onEventReceiveEndCallback ≠ none

namespace Served

variable {s t u : ReceiverState σ}

/-- A step that shows nothing of the end callback. -/
theorem of_events (events : List ReceiverEvent) (hlog : t.log = s.log ++ events)
    (hevents : ∀ callback r, .ended callback r ∉ events)
    (honEnd : t.client.callback.onEventReceiveEndCallback =
      s.client.callback.onEventReceiveEndCallback) : Served s t :=
  ⟨⟨events, hlog, fun callback r h ↦ absurd h (hevents callback r)⟩, fun h ↦ honEnd ▸ h⟩

theorem of_backstage (h : Backstage s t) : Served s t := by
  obtain ⟨events, hlog, hinternal⟩ := h.log
  refine of_events _ hlog (fun callback r hmem ↦ ?_)
    (congrArg Registration.onEventReceiveEndCallback h.registration)
  exact absurd (hinternal _ hmem) (by simp [ReceiverEvent.internal])

theorem of_worked (h : Worked s t) : Served s t := by
  cases h with
  | resumed c h hc => exact of_backstage ⟨h.registration, h.log⟩
  | unregistered h hnone => exact of_backstage ⟨h.registration, h.log⟩
  | @raised u callback r h hcb =>
    obtain ⟨events, hlog, hinternal⟩ := h.log
    refine of_events (events ++ [.errorRaised callback r]) ?_ (fun cb r' hmem ↦ ?_)
      (congrArg Registration.onEventReceiveEndCallback h.registration)
    · rw [← List.append_assoc, ← hlog]
    · rcases List.mem_append.mp hmem with hmem | hmem
      · exact absurd (hinternal _ hmem) (by simp [ReceiverEvent.internal])
      · simp at hmem

end Served

variable {s t : ReceiverState σ}

theorem afterDeInitialize_served (s : ReceiverState σ) (after : AfterDeInitialize) :
    Served s (afterDeInitialize (finishDeInitializeStack s) after) := by
  have hreset : ∀ c : ReceiverControl,
      Served s { resetReceiver (finishDeInitializeStack s) with control := c } := fun c ↦
    .of_events [.stackDestroyed, .tornDown] (List.append_assoc ..) (by simp) rfl
  cases after with
  | bringUpFailed =>
    exact .of_events [.stackDestroyed, .bringUpFailed] (List.append_assoc ..)
      (by simp) rfl
  | teardown after =>
    cases after with
    | endReception =>
      cases hend : s.client.callback.onEventReceiveEndCallback with
      | none =>
        have hend' : (resetReceiver (finishDeInitializeStack
            s)).client.callback.onEventReceiveEndCallback = none := hend
        simp only [afterDeInitialize, afterTeardown, hend']
        exact hreset _
      | some callback =>
        have hend' : (resetReceiver (finishDeInitializeStack
            s)).client.callback.onEventReceiveEndCallback = some callback := hend
        simp only [afterDeInitialize, afterTeardown, hend']
        refine ⟨⟨[.stackDestroyed, .tornDown, .ended callback .ok], ?_, fun _ _ _ ↦ ?_⟩,
          fun _ ↦ ?_⟩
        · simp [resetReceiver, finishDeInitializeStack]
        all_goals simp [hend]
    | resetReception => exact hreset _
    | destroy => exact hreset _

theorem deInitializeStack_served (s : ReceiverState σ) (after : AfterDeInitialize) :
    Served s (deInitializeStack s after) := by
  unfold deInitializeStack
  split_ifs
  · exact .of_backstage (.of_registration rfl rfl)
  · exact afterDeInitialize_served s after

theorem Served.trans {u : ReceiverState σ} (h : Served s t) (h' : Served t u) : Served s u := by
  obtain ⟨events, hlog, hended⟩ := h.log
  obtain ⟨events', hlog', hended'⟩ := h'.log
  refine ⟨⟨events ++ events', by rw [hlog', hlog, List.append_assoc], fun callback r hmem ↦ ?_⟩,
    fun hu ↦ h.onEnd (h'.onEnd hu)⟩
  rcases List.mem_append.mp hmem with hmem | hmem
  · exact hended callback r hmem
  · exact h.onEnd (hended' callback r hmem)

theorem doWork_served (s : ReceiverState σ) (env : ReceiverEnv ι) :
    Served s (doWork auth s env) := by
  have hstart : Served s (s.emit [.doWork]) := .of_events _ rfl (by simp) rfl
  refine hstart.trans ?_
  unfold doWork
  dsimp only
  cases (s.emit [.doWork]).client.state with
  | inactivePending => exact deInitializeStack_served _ _
  | active => exact .of_worked (doWorkActive_worked auth _ env)
  | inactive => exact .of_backstage (.refl _)

/-- What a step leaves by which a call goes on, or by which `EventHubReceiver_LL_DoWork` or
`EventHubReceiver_LL_Destroy` begins. -/
theorem step_served {i : ReceiverInput ι} (hstep : step auth s i = some t)
    (hi : i.internal = true ∨ i = .destroy ∨ ∃ env, i = .doWork env) : Served s t := by
  cases step_move auth hstep with
  | receiveAsync onReceive onError timestamp timeout env _ =>
    rcases receiveAsyncCommon_cases s onReceive onError timestamp timeout env with
      ⟨r, -, h⟩ | ⟨r, tick, filter, -, -, -, -, h⟩ |
        ⟨receiveCb, errorCb, tick, -, -, -, h⟩ <;> rw [h]
    · exact .of_backstage (.refl s)
    · exact .of_events _ (List.append_nil _).symm (by simp) rfl
    · exact ⟨⟨_, rfl, by simp⟩, nofun⟩
  | receiveEndAsync => simp [ReceiverInput.internal] at hi
  | refreshSASTokenAsync => simp [ReceiverInput.internal] at hi
  | setConnectionTracing => simp [ReceiverInput.internal] at hi
  | doWork env _ _ => exact doWork_served auth s env
  | destroy _ _ =>
    have hstart : Served s { s with destroying := true, log := s.log ++ [.destroying] } :=
      .of_events _ rfl (by simp) rfl
    exact hstart.trans (deInitializeStack_served _ _)
  | onMessageReceived message env _ _ =>
    rcases onMessageReceived_cases s message env _ with h | ⟨-, h⟩ | ⟨callback, event, -, -, h⟩ <;>
      rw [h]
    · exact .of_events _ rfl (by simp) rfl
    · exact .of_backstage (.of_registration rfl rfl)
    · exact .of_events _ rfl (by simp) rfl
  | onStateChanged newState previousState _ _ =>
    rcases onStateChanged_cases s newState previousState _ with h | ⟨callback, -, h⟩ <;> rw [h]
    · exact .of_backstage (.refl s)
    · exact .of_events _ rfl (by simp) rfl
  | @onCBSPutTokenOperationComplete _ a r env _ _ _ =>
    exact .of_backstage ((Backstage.answer s _).trans (.of_registration rfl rfl))
  | @uamqpReturn call ok env _ =>
    cases call with
    | messagereceiverOpen => exact .of_worked (afterOpen_worked auth s ok env)
    | messagereceiverDestroy after => exact afterDeInitialize_served s after
    | connectionDowork poll =>
      cases poll with
      | false => exact .of_backstage (.of_registration rfl rfl)
      | true =>
        change Served s (handleTimeouts s env.tick)
        rcases handleTimeouts_cases s env.tick with ⟨now, callback, -, h⟩ | ⟨stamp, h⟩ <;> rw [h]
        · exact .of_events _ rfl (by simp) rfl
        · exact .of_backstage (.of_registration rfl rfl)
  | receiveReturn _ => exact .of_events _ rfl (by simp) rfl
  | timeoutReturn _ => exact .of_backstage (.of_registration rfl rfl)
  | @errorReturn after _ =>
    cases after with
    | uamqp call => exact .of_backstage (.of_registration rfl rfl)
    | teardown => exact deInitializeStack_served s _
  | endReturn _ => exact ⟨⟨[], by simp [endReturn, setCallback], by simp⟩, nofun⟩

/-! ### The state of the reception -/

theorem Worked.state (h : Worked s t) : t.client.state = s.client.state := by
  cases h with
  | resumed c h hc => exact h.state
  | unregistered h hnone => exact h.state
  | raised callback r h hcb => exact h.state

theorem afterDeInitialize_state (s : ReceiverState σ) (after : AfterDeInitialize) :
    (afterDeInitialize (finishDeInitializeStack s) after).client.state = s.client.state ∨
      (afterDeInitialize (finishDeInitializeStack s) after).client.state = .inactive := by
  cases after with
  | bringUpFailed => exact Or.inl rfl
  | teardown after =>
    refine Or.inr ?_
    cases after with
    | endReception =>
      unfold afterDeInitialize afterTeardown
      dsimp only
      split <;> rfl
    | resetReception => rfl
    | destroy => rfl

theorem deInitializeStack_state (s : ReceiverState σ) (after : AfterDeInitialize) :
    (deInitializeStack s after).client.state = s.client.state ∨
      (deInitializeStack s after).client.state = .inactive := by
  unfold deInitializeStack
  split_ifs
  · exact Or.inl rfl
  · exact afterDeInitialize_state s after

/-- A call that goes on, or an `EventHubReceiver_LL_DoWork` that begins, does at most end the
reception. -/
theorem step_state {i : ReceiverInput ι} (hstep : step auth s i = some t)
    (hi : i.internal = true ∨ ∃ env, i = .doWork env) :
    t.client.state = s.client.state ∨ t.client.state = .inactive := by
  cases step_move auth hstep with
  | receiveAsync onReceive onError timestamp timeout env _ hreceives =>
    obtain hi | ⟨env, rfl⟩ := hi
    · cases i <;> simp [ReceiverInput.internal, receives] at hi hreceives
    · cases hreceives
  | receiveEndAsync => simp [ReceiverInput.internal] at hi
  | refreshSASTokenAsync => simp [ReceiverInput.internal] at hi
  | setConnectionTracing => simp [ReceiverInput.internal] at hi
  | doWork env _ _ =>
    unfold doWork
    dsimp only
    cases (s.emit [.doWork]).client.state with
    | inactivePending => exact deInitializeStack_state (s.emit [.doWork]) _
    | active => exact Or.inl (doWorkActive_worked auth _ env).state
    | inactive => exact Or.inl rfl
  | destroy _ _ => simp [ReceiverInput.internal] at hi
  | onMessageReceived message env _ _ =>
    rcases onMessageReceived_cases s message env _ with h | ⟨-, h⟩ | ⟨callback, event, -, -, h⟩ <;>
      rw [h] <;> exact Or.inl rfl
  | onStateChanged newState previousState _ _ =>
    rcases onStateChanged_cases s newState previousState _ with h | ⟨callback, -, h⟩ <;> rw [h] <;>
      exact Or.inl rfl
  | onCBSPutTokenOperationComplete r env _ _ _ => exact Or.inl rfl
  | @uamqpReturn call ok env _ =>
    cases call with
    | messagereceiverOpen => exact Or.inl (afterOpen_worked auth s ok env).state
    | messagereceiverDestroy after => exact afterDeInitialize_state s after
    | connectionDowork poll =>
      cases poll with
      | false => exact Or.inl rfl
      | true =>
        change (handleTimeouts s env.tick).client.state = s.client.state ∨ _
        rcases handleTimeouts_cases s env.tick with ⟨now, callback, -, h⟩ |
          ⟨stamp, h⟩ <;> rw [h] <;>
          exact Or.inl rfl
  | receiveReturn _ => exact Or.inl rfl
  | timeoutReturn _ => exact Or.inl rfl
  | @errorReturn after _ =>
    cases after with
    | uamqp call => exact Or.inl rfl
    | teardown => exact deInitializeStack_state s _
  | endReturn _ => exact Or.inl rfl

end EventHubReceiverLL

end EventHubs
