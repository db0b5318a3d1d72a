import EventHubs.Sender.Delivery

/-!
# The calls of a sender, seen from its owner

What the owner of a low-level sender can rely on while a call of it goes on: a step calls at most
one confirmation callback, as the last thing it shows, `EventHubClient_LL_Destroy` is the only call
that destroys, and only the send calls accept entries.

## Main definitions

* `SenderInput.internal` — the inputs by which a call of the sender goes on.
* `EventHubClientLL.Calls` — what a step calls back.

## Main results

* `EventHubClientLL.step_calls`, `EventHubClientLL.accepted_of_step`.
* `EventHubClientLL.sendAsync_result`, `EventHubClientLL.sendBatchAsync_result`.
-/

namespace EventHubs

/-- The inputs by which a call of the sender goes on. -/
def SenderInput.internal {ι : Type} : SenderInput ι → Bool
  | .iterate _ _ _ => true
  | .onMessageSendComplete _ _ => true
  | .onMessageSenderStateChanged _ _ => true
  | .onCBSPutTokenOperationComplete _ _ => true
  | .uamqpReturn _ => true
  | .callbackReturn => true
  | .drain => true
  | _ => false

/-- The event is no call of a confirmation callback. -/
def SenderEvent.unconfirming : SenderEvent → Bool
  | .confirmed _ _ _ => false
  | _ => true

theorem SenderEvent.unconfirming_of_eventView {e : SenderEvent} (h : eventView e = []) :
    e.unconfirming = true := by
  cases e <;> first | rfl | cases h

theorem confirmations_append (l m : List SenderEvent) (n : Nat) :
    confirmations (l ++ m) n = confirmations l n + confirmations m n := List.countP_append

theorem confirmations_pos {log : List SenderEvent} {n : Nat} {callback : UserCallback}
    {r : EventHubClientConfirmationResult} (h : SenderEvent.confirmed n callback r ∈ log) :
    0 < confirmations log n :=
  List.countP_pos_iff.mpr ⟨_, h, by simp⟩

namespace EventHubClientLL

variable {σ ι : Type} (auth : AuthModule σ ι) {s t : SenderState σ}

open SenderState

/-! ### Confirmation callbacks -/

/-- A step calls no confirmation callback, or one and then nothing else before this one returns, and
it does not begin to destroy. -/
inductive Calls (s t : SenderState σ) : Prop
  | none (events : List SenderEvent) (hlog : t.log = s.log ++ events)
      (hevents : ∀ e ∈ events, e.unconfirming = true)
      (hdestroying : t.destroying = s.destroying := by rfl)
  | one (cause : List SenderEvent) (n : Nat) (callback : UserCallback)
      (r : EventHubClientConfirmationResult)
      (hlog : t.log = s.log ++ (cause ++ [.confirmed n callback r]))
      (hcause : ∀ e ∈ cause, e.unconfirming = true) (hcontrol : t.control ≠ .idle)
      (hdestroying : t.destroying = s.destroying := by rfl)

theorem Calls.destroying (h : Calls s t) : t.destroying = s.destroying := by
  cases h <;> assumption

theorem unconfirming_of_traceView {events : List SenderEvent} (h : traceView events = []) :
    ∀ e ∈ events, e.unconfirming = true := fun e he ↦
  SenderEvent.unconfirming_of_eventView (List.flatMap_eq_nil_iff.mp h e he)

theorem calls_of_sameQueue (h : SameQueue s t) : Calls s t := by
  obtain ⟨events, hlog, hquiet⟩ := h.log
  exact .none events hlog (unconfirming_of_traceView hquiet) h.destroying

theorem Calls.of_log (h : t.log = s.log) (hdestroying : t.destroying = s.destroying) :
    Calls s t := .none [] (by simpa using h) nofun hdestroying

theorem confirm_calls {e : EventHubEventList} {cause : List SenderEvent}
    (r : EventHubClientConfirmationResult) (after : AfterConfirm) (hlog : t.log = s.log)
    (hcause : ∀ a ∈ cause, a.unconfirming = true)
    (hdestroying : t.destroying = s.destroying) :
    Calls s (t.confirm e cause r after) := by
  unfold SenderState.confirm
  cases e.callback with
  | none => exact .of_log hlog hdestroying
  | some callback => exact .one cause e.number callback r (by rw [hlog]) hcause nofun hdestroying

theorem queueing_calls {callback : Option UserCallback} {tick : UInt64}
    (h : Queueing s callback tick t) : Calls s t := by
  rcases h with rfl | rfl | ⟨list, key, -, rfl⟩
  · exact .of_log rfl rfl
  · exact .of_log rfl rfl
  · exact .none _ rfl (by simp [SenderEvent.unconfirming]) rfl

theorem iterate_calls (s : SenderState σ) (c : Option Nat) (env : BuildEnv)
    (currentTime : UInt64) (taken : Bool) : Calls s (iterate s c env currentTime taken) := by
  cases c with
  | none => exact .none _ rfl (by simp [SenderEvent.unconfirming]) rfl
  | some n =>
    cases hentry : s.entry? n with
    | none =>
      rw [iterate_gone env currentTime taken hentry]
      exact .of_log rfl rfl
    | some e =>
      cases hstatus : e.currentStatus with
      | waitingForAck =>
        rw [iterate_acked env currentTime taken hentry hstatus]
        exact .of_log rfl rfl
      | waitingToBeSent =>
        cases hbuild : buildMessage env e.eventDataList with
        | none =>
          rw [iterate_unbuildable env currentTime taken hentry hstatus hbuild]
          exact confirm_calls _ _ rfl (by simp [SenderEvent.unconfirming]) rfl
        | some message =>
          rw [iterate_built env currentTime taken hentry hstatus hbuild]
          split_ifs
          · unfold expire
            cases e.callback with
            | none => exact .of_log rfl rfl
            | some callback => exact confirm_calls _ _ rfl (by simp [SenderEvent.unconfirming]) rfl
          · exact .none _ (List.append_assoc ..) (by simp [SenderEvent.unconfirming]) rfl

theorem onMessageSendComplete_calls (s : SenderState σ) (n : Nat) (r : MessageSendResult)
    (call : UamqpCall) : Calls s (onMessageSendComplete s n r call) := by
  unfold onMessageSendComplete
  cases s.entry? n with
  | none => exact .of_log rfl rfl
  | some e =>
    dsimp only
    cases e.callback with
    | none => exact .none _ (List.append_assoc ..) (by simp [SenderEvent.unconfirming]) rfl
    | some callback => exact confirm_calls _ _ rfl (by simp [SenderEvent.unconfirming]) rfl

theorem uamqpReturn_calls (s : SenderState σ) (ok : Bool) (call : UamqpCall) :
    Calls s (uamqpReturn s ok call) := by
  cases call with
  | messagesenderOpen => cases ok <;> exact .of_log rfl rfl
  | connectionDowork => exact .of_log rfl rfl
  | messagesenderDestroy after =>
    exact calls_of_sameQueue ((finishDestroyUamqpStack_sameQueue s).trans
      (afterDestroyUamqpStack_sameQueue _ after))
  | messagesenderSendAsync n next taken =>
    cases taken with
    | true => exact .of_log rfl rfl
    | false =>
      cases hentry : s.entry? n with
      | none =>
        simp only [uamqpReturn, hentry]
        exact .of_log rfl rfl
      | some e =>
        simp only [uamqpReturn, hentry, if_neg (show ¬false = true by simp)]
        exact confirm_calls _ _ rfl (by simp) rfl

theorem confirmReturn_calls (s : SenderState σ) (n : Nat) (after : AfterConfirm) :
    Calls s (confirmReturn s n after) := by
  cases after with
  | uamqp call => exact .none _ rfl (by simp [SenderEvent.unconfirming]) rfl
  | loop next => exact .none _ rfl (by simp [SenderEvent.unconfirming]) rfl
  | draining => exact .of_log rfl rfl

theorem drain_calls (s : SenderState σ) : Calls s (drain s) := by
  unfold drain
  cases s.client.outgoingEvents with
  | nil => exact .of_log rfl rfl
  | cons e rest =>
    dsimp only
    cases e.callback with
    | none => exact .none _ rfl (by simp [SenderEvent.unconfirming]) rfl
    | some callback => exact confirm_calls _ _ rfl (by simp [SenderEvent.unconfirming]) rfl

theorem destroy_log (s : SenderState σ) :
    ∃ events, (destroy s).log = s.log ++ events ∧ ∀ e ∈ events, e.unconfirming = true := by
  obtain ⟨events, hlog, hquiet⟩ := (destroyUamqpStack_sameQueue
    { s with destroying := true, log := s.log ++ [.destroying] } .destroy).log
  refine ⟨_, hlog.trans (List.append_assoc ..), fun e he ↦ ?_⟩
  rcases List.mem_cons.mp he with rfl | he
  · rfl
  · exact unconfirming_of_traceView hquiet e he

theorem step_calls {i : SenderInput ι} (h : step auth s i = some t) (hi : i ≠ .destroy) :
    Calls s t := by
  cases step_move auth h with
  | sendAsync event callback context env _ =>
    exact queueing_calls (sendAsync_cases s event callback context env)
  | sendBatchAsync list callback context env _ =>
    exact queueing_calls (sendBatchAsync_cases s list callback context env)
  | setField hf _ => exact calls_of_sameQueue (setField_sameQueue s hf)
  | refreshSASTokenAsync token env _ =>
    exact calls_of_sameQueue (refreshSASTokenAsync_sameQueue s token env)
  | doWork env _ _ => exact calls_of_sameQueue (doWork_spec auth s env).1
  | destroy _ _ => exact absurd rfl hi
  | iterate env currentTime taken _ => exact iterate_calls s _ env currentTime taken
  | onMessageSendComplete r _ _ => exact onMessageSendComplete_calls s _ r _
  | onMessageSenderStateChanged newState previousState hcall _ =>
    exact calls_of_sameQueue (onMessageSenderStateChanged_spec hcall newState previousState).1
  | @onCBSPutTokenOperationComplete a r env _ _ _ =>
    exact calls_of_sameQueue (onCBSPutTokenOperationComplete_sameQueue auth s a r env)
  | uamqpReturn ok _ => exact uamqpReturn_calls s ok _
  | confirmReturn _ => exact confirmReturn_calls s _ _
  | stateChangeReturn _ => exact calls_of_sameQueue (afterStateChange_spec s _ _).1
  | @errorReturn after _ =>
    cases after with
    | uamqp call => exact .of_log rfl rfl
    | tearDown => exact calls_of_sameQueue (destroyUamqpStack_sameQueue s _)
    | done => exact .of_log rfl rfl
  | drain _ => exact drain_calls s

/-! ### Acceptance -/

/-- A send call is refused, or it runs out of memory after it has read the tick, or it queues its
events and returns OK. -/
inductive SendResult (s : SenderState σ) (callback : Option UserCallback) (tick : UInt64) :
    EventHubClientResult × SenderState σ → Prop
  | refused (r : EventHubClientResult) (hr : r ≠ .ok) : SendResult s callback tick (r, s)
  | unallocated : SendResult s callback tick (.error, { s with lastTick := tick })
  | queued (events : List EventData) :
    SendResult s callback tick (.ok, queue s events callback tick)

theorem sendAsync_result (s : SenderState σ) (event : Option EventData)
    (callback context : Option Nat) (env : SendEnv) :
    SendResult s (callback.map (⟨·, context⟩)) env.idleTimer
      (sendAsync s event callback context env) := by
  unfold sendAsync
  cases event with
  | none => exact .refused _ nofun
  | some event =>
    dsimp only
    split_ifs
    · exact .refused _ nofun
    · exact .refused _ nofun
    · exact .refused _ nofun
    · exact .unallocated
    · exact .queued _

theorem sendBatchAsync_result (s : SenderState σ) (list : Option (List (Option EventData)))
    (callback context : Option Nat) (env : SendEnv) :
    SendResult s (callback.map (⟨·, context⟩)) env.idleTimer
      (sendBatchAsync s list callback context env) := by
  unfold sendBatchAsync
  cases list with
  | none => exact .refused _ nofun
  | some list =>
    dsimp only
    by_cases hbad : (list.length = 0 || (callback.isNone && context.isSome)) = true
    · rw [if_pos hbad]
      exact .refused _ nofun
    · rw [if_neg hbad]
      cases validateEventDataList list with
      | none => exact .refused _ nofun
      | some events =>
        dsimp only
        split_ifs
        · exact .refused _ nofun
        · exact .unallocated
        · exact .queued _
        · exact .unallocated

/-- A step that sends nothing accepts nothing. -/
theorem accepted_of_step {i : SenderInput ι} (hs : Kempt s) (h : step auth s i = some t)
    (hi : i.sends = none) {n : Nat} {callback : Option UserCallback} {tick : UInt64}
    (haccepted : SenderEvent.accepted n callback tick ∈ t.log) :
    SenderEvent.accepted n callback tick ∈ s.log := by
  have ht := step_kempt auth hs h
  obtain ⟨⟨events, hlog, -⟩, hnext⟩ : (∃ events, t.log = s.log ++ events ∧
      ∀ e ∈ events, Founded s t e) ∧ t.nextEntry = s.nextEntry := by
    rcases step_stays auth h with ⟨callback, tick, hsends, -⟩ | hstays
    · exact absurd (hi.symm.trans hsends) nofun
    · exact ⟨hstays.log, hstays.next⟩
  -- the accepted numbers are those below `nextEntry`, which the step has left alone
  have hnumber : n ∈ accepted s.log := by
    have hmem : n ∈ accepted t.log := List.mem_filterMap.mpr ⟨_, haccepted, rfl⟩
    rw [accepted_eq_range ht, hnext] at hmem
    rwa [accepted_eq_range hs]
  obtain ⟨e, he, hn⟩ := List.mem_filterMap.mp hnumber
  cases e with
  | accepted m callback' tick' =>
    obtain rfl : m = n := Option.some.inj hn
    have hlater : SenderEvent.accepted m callback' tick' ∈ t.log := by
      rw [hlog]
      exact List.mem_append_left _ he
    obtain ⟨rfl, rfl⟩ := accepted_unique ht hlater haccepted
    exact he
  | _ => cases hn

/-- Nothing has been said of the entry that comes next. -/
theorem confirmations_nextEntry (hs : Kempt s) : confirmations s.log s.nextEntry = 0 := by
  refine List.countP_eq_zero.mpr fun e he ↦ ?_
  cases e with
  | confirmed n callback r =>
    obtain ⟨-, tick, haccepted⟩ := hs.confirmed n callback r he
    have hmem : n ∈ accepted s.log := List.mem_filterMap.mpr ⟨_, haccepted, rfl⟩
    rw [accepted_eq_range hs, List.mem_range] at hmem
    simpa using hmem.ne
  | _ => nofun

/-- A confirmation callback is called at most once for an entry. -/
theorem confirmations_le_one (hs : Kempt s) {n : Nat} {callback : UserCallback}
    {r : EventHubClientConfirmationResult} (h : SenderEvent.confirmed n callback r ∈ s.log) :
    confirmations s.log n = 1 := by
  obtain ⟨-, tick, haccepted⟩ := hs.confirmed n callback r h
  rcases pending_or_settled hs haccepted with hpending | hsettled
  · exact absurd hpending.never (confirmations_pos h).ne'
  · exact hsettled.once

end EventHubClientLL

end EventHubs
