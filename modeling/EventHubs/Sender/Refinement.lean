import EventHubs.Library.OutboxInvariant
import EventHubs.Sender.Machine
import Mathlib.Data.List.ReduceOption

/-!
# A sender is an outbox

The entries of `outgoingEvents`, the place of the loop of `EventHubClient_LL_DoWork` and the
hand-overs of a sender form an outbox: `SenderState.outbox` reads it off, and every step of a
sender is a run of it. Bringing up, authenticating on and taking down the uAMQP stack leave it
unchanged.

## Main definitions

* `SenderState.outbox`, `traceView`, `entryView`.
* `SenderState.SameQueue` — the part of the state that the outbox is read from is unchanged.

## Main results

* `EventHubClientLL.step_refines`, `EventHubClientLL.step_posted`.
-/

namespace EventHubs

open Attempt Relation

/-! ### The outbox of a sender -/

/-- The notice that a confirmation is. -/
def noticeOf : EventHubClientConfirmationResult → Outbox.Notice
  | .ok => .delivered
  | .timeout => .expired
  | .destroy => .abandoned
  | _ => .failed

/-- What an event of a sender means to its outbox. -/
def eventView : SenderEvent → List Outbox.Event
  | .accepted n callback _ => [.accepted n callback.isSome]
  | .unbuildable n => [.unbuildable n]
  | .overdue n _ _ _ => [.overdue n]
  | .handedOver n _ taken => [.handedOver n taken]
  | .completed n r => [.reported n (r = .ok)]
  | .confirmed n _ r => [.notified n (noticeOf r)]
  | .removed n => [.removed n]
  | .destroying => [.closing]
  | _ => []

/-- The trace of the outbox. -/
def traceView (log : List SenderEvent) : List Outbox.Event := log.flatMap eventView

@[simp]
theorem traceView_append (l m : List SenderEvent) :
    traceView (l ++ m) = traceView l ++ traceView m := List.flatMap_append

@[simp]
theorem traceView_cons (e : SenderEvent) (l : List SenderEvent) :
    traceView (e :: l) = eventView e ++ traceView l := List.flatMap_cons

@[simp]
theorem traceView_nil : traceView [] = [] := rfl

/-- An entry of `outgoingEvents` as an entry of the outbox. -/
def entryView (e : EventHubEventList) : Outbox.Entry :=
  ⟨e.number, e.currentStatus = .waitingForAck, e.callback.isSome⟩

/-- The `next_list_entry` that is saved during a call to uAMQP. -/
def UamqpCall.saved : UamqpCall → Option (Option Nat)
  | .messagesenderSendAsync _ next _ => some next
  | _ => none

/-- The entry that `messagesender_send_async` is given, and whether it is going to be taken. -/
def UamqpCall.hand : UamqpCall → Option (Nat × Bool)
  | .messagesenderSendAsync n _ taken => some (n, taken)
  | _ => none

namespace SenderControl

/-- The call to uAMQP that is under way. -/
def call : SenderControl → Option UamqpCall
  | .uamqp c => some c
  | .stateChangeCb _ c => some c
  | .errorCb (.uamqp c) => some c
  | .confirming _ (.uamqp c) => some c
  | _ => none

/-- Where the loop of `EventHubClient_LL_DoWork` goes next. -/
def pass : SenderControl → Option (Option Nat)
  | .loop c => some c
  | .confirming _ (.loop next) => some next
  | c => c.call.bind UamqpCall.saved

/-- The entry in the hands of uAMQP. -/
def hand (c : SenderControl) : Option (Nat × Bool) := c.call.bind UamqpCall.hand

/-- The listed entry whose confirmation callback is running. -/
def notifying : SenderControl → Option Nat
  | .confirming n (.uamqp _) => some n
  | .confirming n (.loop _) => some n
  | _ => none

/-- Whether control stands inside `EventHubClient_LL_Destroy` or after it. -/
def closing : SenderControl → Bool
  | .draining => true
  | .confirming _ .draining => true
  | .destroyed => true
  | c => c.call = some (.messagesenderDestroy .destroy)

end SenderControl

namespace SenderState

variable {σ : Type}

/-- The outbox of a sender. -/
def outbox (s : SenderState σ) : Outbox where
  entries := s.client.outgoingEvents.map entryView
  next := s.nextEntry
  inFlight := s.inFlight
  pass := s.control.pass
  hand := s.control.hand
  notifying := s.control.notifying
  closed := s.destroying
  trace := traceView s.log

/-- Nothing that the outbox is read from has changed, control apart. -/
structure SameQueue (s t : SenderState σ) : Prop where
  outgoingEvents : t.client.outgoingEvents = s.client.outgoingEvents
  nextEntry : t.nextEntry = s.nextEntry
  inFlight : t.inFlight = s.inFlight
  destroying : t.destroying = s.destroying
  lastTick : t.lastTick = s.lastTick
  freed : t.freed = s.freed
  log : ∃ events, t.log = s.log ++ events ∧ traceView events = []

namespace SameQueue

theorem trace {s t : SenderState σ} (h : SameQueue s t) : traceView t.log = traceView s.log := by
  obtain ⟨events, hlog, hquiet⟩ := h.log
  rw [hlog, traceView_append, hquiet, List.append_nil]

/-- Only the client and the control change, and the client keeps its queue. -/
theorem of_client {s t : SenderState σ}
    (h : (t.client.outgoingEvents, t.nextEntry, t.inFlight, t.destroying, t.lastTick, t.freed,
      t.log) = (s.client.outgoingEvents, s.nextEntry, s.inFlight, s.destroying, s.lastTick,
      s.freed, s.log)) : SameQueue s t := by
  simp only [Prod.mk.injEq] at h
  obtain ⟨hevents, hnext, hflight, hdestroying, htick, hfreed, hlog⟩ := h
  exact ⟨hevents, hnext, hflight, hdestroying, htick, hfreed, [], by simpa using hlog, rfl⟩

theorem refl (s : SenderState σ) : SameQueue s s := of_client rfl

theorem trans {s t u : SenderState σ} (h : SameQueue s t) (h' : SameQueue t u) :
    SameQueue s u := by
  obtain ⟨events, hlog, hquiet⟩ := h.log
  obtain ⟨events', hlog', hquiet'⟩ := h'.log
  refine ⟨h'.1.trans h.1, h'.2.trans h.2, h'.3.trans h.3, h'.4.trans h.4, h'.5.trans h.5,
    h'.6.trans h.6, events ++ events', ?_, by rw [traceView_append, hquiet, hquiet']; rfl⟩
  rw [hlog', hlog, List.append_assoc]

theorem emit (s : SenderState σ) {events : List SenderEvent} (h : traceView events = []) :
    SameQueue s (s.emit events) :=
  ⟨rfl, rfl, rfl, rfl, rfl, rfl, events, rfl, h⟩

theorem store (s : SenderState σ) (field : StackField) (h : Option Handle) :
    SameQueue s (s.store field h) :=
  ⟨rfl, rfl, rfl, rfl, rfl, rfl, _, rfl, rfl⟩

theorem storeCBS (s : SenderState σ) (a : Option σ) : SameQueue s (s.storeCBS a) := by
  refine ⟨rfl, rfl, rfl, rfl, rfl, rfl, _, rfl, ?_⟩
  cases a <;> rfl

theorem pass (s : SenderState σ) (call : StackCall) (field : StackField) :
    SameQueue s (s.pass call field) := emit s rfl

theorem passCBS (s : SenderState σ) (call : StackCall) : SameQueue s (s.passCBS call) := emit s rfl

theorem answer {α : Type} (s : SenderState σ) (x : Answer σ α) : SameQueue s (s.answer x) := by
  refine ⟨rfl, rfl, rfl, rfl, rfl, rfl, _, rfl, ?_⟩
  induction x.events with
  | nil => rfl
  | cons e l ih => simpa [eventView] using ih

/-- With the same place of control the outbox is the same. -/
theorem outbox_eq {s t : SenderState σ} (h : SameQueue s t)
    (hpass : t.control.pass = s.control.pass)
    (hhand : t.control.hand = s.control.hand)
    (hnotifying : t.control.notifying = s.control.notifying) : t.outbox = s.outbox := by
  simp only [SenderState.outbox, h.1, h.2, h.3, h.4, h.trace, hpass, hhand, hnotifying]

end SameQueue

end SenderState

namespace EventHubClientLL

variable {σ ι : Type} (auth : AuthModule σ ι)

open SenderState

/-! ### The stack -/

theorem createHandle_frame (env : DoWorkEnv ι) (call : SenderCall) (field : StackField) :
    Frame SameQueue (createHandle (σ := σ) env call field) := by
  intro s
  unfold createHandle
  split_ifs
  · have h := SameQueue.store s field (some s.nextHandle)
    exact ⟨h.1, h.2, h.3, h.4, h.5, h.6, h.7⟩
  · exact .store s field none

theorem passHandle_frame (call : StackCall) (field : StackField) :
    Frame SameQueue (passHandle (σ := σ) call field) := fun s ↦ .pass s call field

theorem check_frame (b : Bool) : Frame (SameQueue (σ := σ)) (check b) := .check .refl

theorem createSASToken_frame (env : DoWorkEnv ι) : Frame SameQueue (createSASToken auth env) := by
  unfold createSASToken
  refine .bind .trans (.update fun s ↦ ?_) fun _ ↦ ?_
  · unfold writeAuthTimeout
    split_ifs <;> exact .of_client rfl
  refine .bind .trans (passHandle_frame _ _) fun _ ↦ ?_
  refine .bind .trans (.read .refl) fun s ↦ ?_
  refine .bind .trans (.update fun t ↦ .storeCBS t _) fun _ ↦ check_frame _

theorem initializeUamqpStackCommon_frame (env : DoWorkEnv ι) :
    Frame SameQueue (initializeUamqpStackCommon auth env) := by
  unfold initializeUamqpStackCommon
  repeat' first
    | exact createSASToken_frame auth env
    | exact check_frame _
    | exact passHandle_frame _ _
    | exact createHandle_frame env _ _
    | refine .bind .trans ?_ fun _ ↦ ?_

theorem initializeUamqpSenderStack_frame (env : DoWorkEnv ι) :
    Frame (SameQueue (σ := σ)) (initializeUamqpSenderStack env) := by
  unfold initializeUamqpSenderStack
  repeat' first
    | exact check_frame _
    | exact passHandle_frame _ _
    | exact createHandle_frame env _ _
    | refine .bind .trans ?_ fun _ ↦ ?_

theorem initializeUamqpStack_frame (env : DoWorkEnv ι) :
    Frame SameQueue (initializeUamqpStack auth env) := by
  have hset : ∀ state, Frame (SameQueue (σ := σ)) (setAMQPState state) :=
    fun state ↦ .update fun s ↦ .of_client rfl
  intro s
  unfold initializeUamqpStack
  split_ifs
  · refine Frame.bind .trans (.update fun s ↦ .of_client rfl) (fun _ ↦ ?_) s
    exact .bind .trans (initializeUamqpStackCommon_frame auth env) fun _ ↦ hset _
  · exact Frame.bind .trans (initializeUamqpSenderStack_frame env) (fun _ ↦ hset _) s

theorem proceed_sameQueue (s : SenderState σ) : SameQueue s (refreshExtOrProceed.proceed s) := by
  unfold refreshExtOrProceed.proceed
  split_ifs <;> exact .of_client rfl

theorem refreshExtOrProceed_sameQueue (s : SenderState σ) (a : σ) (env : DoWorkEnv ι) :
    SameQueue s (refreshExtOrProceed auth s a env).1 := by
  unfold refreshExtOrProceed
  cases s.client.extRefreshSASToken with
  | none => exact proceed_sameQueue s
  | some token =>
    dsimp only
    by_cases hcred : s.client.credential = .sasTokenExt
    · rw [if_pos hcred]
      have h := (SameQueue.passCBS s .eventHubAuthCBSRefresh).trans
        (.answer _ (auth.refresh a (some token) env.put))
      exact ⟨h.1, h.2, h.3, h.4, h.5, h.6, h.7⟩
    · rw [if_neg hcred]
      exact proceed_sameQueue s

theorem handleSASTokenAuth_sameQueue (s : SenderState σ) (env : DoWorkEnv ι) :
    SameQueue s (handleSASTokenAuth auth s env).1 := by
  unfold handleSASTokenAuth
  cases s.client.cbsHandle with
  | none => exact .passCBS s _
  | some a =>
    have hstatus := (SameQueue.passCBS s .eventHubAuthCBSGetStatus).trans
      (.answer _ (auth.getStatus a env.status))
    dsimp only
    generalize (s.passCBS .eventHubAuthCBSGetStatus).answer (auth.getStatus a env.status) = t
      at hstatus ⊢
    split_ifs
    · exact hstatus
    · cases (auth.getStatus a env.status).value.2 with
      | refreshRequired => exact hstatus.trans ((SameQueue.passCBS t _).trans (.answer _ _))
      | idle => exact hstatus.trans ((SameQueue.passCBS t _).trans (.answer _ _))
      | ok => exact hstatus.trans (refreshExtOrProceed_sameQueue auth t _ env)
      | _ => exact hstatus

theorem setField_sameQueue (s : SenderState σ) {f : EventHubClientLL σ → EventHubClientLL σ}
    (hf : Setter f) : SameQueue s (setField s f) := by
  have hevents : (f s.client).outgoingEvents = s.client.outgoingEvents := by rw [hf.eq s.client]
  exact .of_client (by simp only [setField, hevents])

theorem onCBSPutTokenOperationComplete_sameQueue (s : SenderState σ) (a : σ)
    (r : CBSOperationResult) (env : ι) :
    SameQueue s (onCBSPutTokenOperationComplete auth s a r env) := by
  have h := SameQueue.answer s (auth.onCBSPutTokenOperationComplete a r env)
  exact ⟨h.1, h.2, h.3, h.4, h.5, h.6, h.7⟩

/-! ### Control outside the loop -/

/-- Control stands outside the loop, outside `messagesender_send_async`, and in no confirmation
callback of a listed entry. -/
structure Outside (c : SenderControl) : Prop where
  pass : c.pass = none
  hand : c.hand = none
  notifying : c.notifying = none

theorem raise_sameQueue {s : SenderState σ} {r : EventHubClientErrorResult} {after : AfterErrorCb}
    {without : SenderState σ → SenderState σ} (h : SameQueue s (without s)) :
    SameQueue s (s.raise r after without) := by
  unfold SenderState.raise
  cases s.client.onErrorCb with
  | none => exact h
  | some callback => exact ⟨rfl, rfl, rfl, rfl, rfl, rfl, _, rfl, rfl⟩

theorem raise_outside {s : SenderState σ} {r : EventHubClientErrorResult} {after : AfterErrorCb}
    {without : SenderState σ → SenderState σ} (h : Outside (without s).control)
    (hafter : Outside (.errorCb after)) : Outside (s.raise r after without).control := by
  unfold SenderState.raise
  cases s.client.onErrorCb with
  | none => exact h
  | some callback => exact hafter

theorem afterDestroyUamqpStack_sameQueue (s : SenderState σ) (after : AfterDestroy) :
    SameQueue s (afterDestroyUamqpStack s after) := by
  unfold afterDestroyUamqpStack
  cases after with
  | initFailed => exact raise_sameQueue (.of_client rfl)
  | «return» => exact .of_client rfl
  | destroy => exact .of_client rfl

theorem finishDestroyUamqpStack_sameQueue (s : SenderState σ) :
    SameQueue s (finishDestroyUamqpStack s) :=
  ⟨rfl, rfl, rfl, rfl, rfl, rfl, _, rfl, rfl⟩

theorem afterDestroyUamqpStack_outside (s : SenderState σ) (after : AfterDestroy) :
    Outside (afterDestroyUamqpStack s after).control := by
  cases after with
  | initFailed => exact raise_outside ⟨rfl, rfl, rfl⟩ ⟨rfl, rfl, rfl⟩
  | «return» => exact ⟨rfl, rfl, rfl⟩
  | destroy => exact ⟨rfl, rfl, rfl⟩

theorem destroyUamqpStack_sameQueue (s : SenderState σ) (after : AfterDestroy) :
    SameQueue s (destroyUamqpStack s after) := by
  unfold destroyUamqpStack
  split_ifs
  · exact .of_client rfl
  · exact (finishDestroyUamqpStack_sameQueue s).trans (afterDestroyUamqpStack_sameQueue _ after)

theorem destroyUamqpStack_outside (s : SenderState σ) (after : AfterDestroy) :
    Outside (destroyUamqpStack s after).control := by
  unfold destroyUamqpStack
  split_ifs
  · exact ⟨rfl, rfl, rfl⟩
  · exact afterDestroyUamqpStack_outside _ after

theorem raise_cases (s : SenderState σ) (r : EventHubClientErrorResult) (after : AfterErrorCb)
    (without : SenderState σ → SenderState σ) :
    s.raise r after without = without s ∨
      (s.raise r after without).control = .errorCb after := by
  unfold SenderState.raise
  cases s.client.onErrorCb with
  | none => exact Or.inl rfl
  | some callback => exact Or.inr rfl

theorem afterDestroyUamqpStack_control (s : SenderState σ) (after : AfterDestroy) :
    (afterDestroyUamqpStack s after).control = .idle ∨
      (afterDestroyUamqpStack s after).control = .errorCb .done ∨
      after = .destroy ∧ (afterDestroyUamqpStack s after).control = .draining := by
  cases after with
  | initFailed =>
    rcases raise_cases s .amqpInitFailure .done fun s ↦ { s with control := .idle } with h | h
    · exact Or.inl (congrArg SenderState.control h)
    · exact Or.inr (Or.inl h)
  | «return» => exact Or.inl rfl
  | destroy => exact Or.inr (Or.inr ⟨rfl, rfl⟩)

theorem destroyUamqpStack_control (s : SenderState σ) (after : AfterDestroy) :
    (destroyUamqpStack s after).control = .uamqp (.messagesenderDestroy after) ∨
      (destroyUamqpStack s after).control = .idle ∨
      (destroyUamqpStack s after).control = .errorCb .done ∨
      after = .destroy ∧ (destroyUamqpStack s after).control = .draining := by
  unfold destroyUamqpStack
  split_ifs
  · exact Or.inl rfl
  · exact Or.inr (afterDestroyUamqpStack_control _ after)

/-- Control has a place, and not one in `EventHubClient_LL_Destroy`. -/
structure Working (c : SenderControl) : Prop where
  working : c.closing = false
  defined : c ≠ .undefinedBehaviour

theorem destroyUamqpStack_working (s : SenderState σ) {after : AfterDestroy}
    (hafter : after ≠ .destroy) : Working (destroyUamqpStack s after).control := by
  rcases destroyUamqpStack_control s after with h | h | h | h
  · rw [h]
    exact ⟨by simpa [SenderControl.closing, SenderControl.call] using hafter, by simp⟩
  · rw [h]
    exact ⟨rfl, by simp⟩
  · rw [h]
    exact ⟨rfl, by simp⟩
  · exact absurd h.1 hafter

/-- Control stands outside, or at the beginning of the loop, and not in
`EventHubClient_LL_Destroy`. -/
structure AtStart (s : SenderState σ) : Prop extends Working s.control where
  place : Outside s.control ∨ s.control = .loop (s.client.outgoingEvents.head?.map (·.number))

theorem AtStart.of_outside {s : SenderState σ} (h : Outside s.control) (hw : Working s.control) :
    AtStart s := ⟨hw, Or.inl h⟩

theorem destroyUamqpStack_atStart (s : SenderState σ) {after : AfterDestroy}
    (hafter : after ≠ .destroy) : AtStart (destroyUamqpStack s after) :=
  .of_outside (destroyUamqpStack_outside s after) (destroyUamqpStack_working s hafter)

theorem raise_atStart (s : SenderState σ) (r : EventHubClientErrorResult) :
    AtStart (s.raise r .tearDown (destroyUamqpStack · .return)) := by
  refine .of_outside (raise_outside (destroyUamqpStack_outside s _) ⟨rfl, rfl, rfl⟩) ?_
  rcases raise_cases s r .tearDown (destroyUamqpStack · .return) with h | h
  · exact h ▸ destroyUamqpStack_working s (by simp)
  · exact h ▸ ⟨rfl, by simp⟩

theorem openAndSend_spec (s : SenderState σ) :
    SameQueue s (openAndSend s) ∧ AtStart (openAndSend s) := by
  unfold openAndSend
  split_ifs
  · have h := SameQueue.pass s .messagesenderOpen .messageSender
    exact ⟨⟨h.1, h.2, h.3, h.4, h.5, h.6, h.7⟩, .of_outside ⟨rfl, rfl, rfl⟩ ⟨rfl, by simp⟩⟩
  · exact ⟨.of_client rfl, ⟨rfl, by simp [startLoop]⟩, Or.inr rfl⟩

theorem afterAuth_spec (s : SenderState σ) (outcome : AuthOutcome) :
    SameQueue s (afterAuth s outcome) ∧ AtStart (afterAuth s outcome) := by
  have hdestroy := destroyUamqpStack_sameQueue s .return
  unfold afterAuth
  cases outcome with
  | failed => exact ⟨raise_sameQueue hdestroy, raise_atStart s _⟩
  | timeout => exact ⟨raise_sameQueue hdestroy, raise_atStart s _⟩
  | inProgress =>
    have h := SameQueue.pass s .connectionDowork .connection
    exact ⟨⟨h.1, h.2, h.3, h.4, h.5, h.6, h.7⟩,
      .of_outside ⟨rfl, rfl, rfl⟩ ⟨rfl, by simp [connectionDowork]⟩⟩
  | done =>
    dsimp only
    split_ifs
    · exact openAndSend_spec s
    · exact ⟨.of_client rfl, .of_outside ⟨rfl, rfl, rfl⟩ ⟨rfl, by simp⟩⟩

theorem doWorkInitialized_spec (s : SenderState σ) (env : DoWorkEnv ι) :
    SameQueue s (doWorkInitialized auth s env) ∧ AtStart (doWorkInitialized auth s env) := by
  unfold doWorkInitialized
  split_ifs
  · exact ⟨destroyUamqpStack_sameQueue s _, destroyUamqpStack_atStart s (by simp)⟩
  · have hafter :=
      afterAuth_spec (handleSASTokenAuth auth s env).1 (handleSASTokenAuth auth s env).2
    exact ⟨(handleSASTokenAuth_sameQueue auth s env).trans hafter.1, hafter.2⟩

theorem doWork_spec (s : SenderState σ) (env : DoWorkEnv ι) :
    SameQueue s (doWork auth s env) ∧ AtStart (doWork auth s env) := by
  have hstart : SameQueue s (s.emit [.doWork]) := .emit s rfl
  unfold doWork
  dsimp only
  generalize s.emit [.doWork] = s' at hstart ⊢
  split_ifs
  · have hinit := initializeUamqpStack_frame auth env s'
    generalize initializeUamqpStack auth env s' = x at hinit ⊢
    rcases x with ⟨_ | _, t⟩
    · exact ⟨hstart.trans (hinit.trans (destroyUamqpStack_sameQueue t _)),
        destroyUamqpStack_atStart t (by simp)⟩
    · have h := doWorkInitialized_spec auth t env
      exact ⟨hstart.trans (hinit.trans h.1), h.2⟩
  · have h := doWorkInitialized_spec auth s' env
    exact ⟨hstart.trans h.1, h.2⟩

/-! ### The loop and the callbacks -/

theorem entry?_spec {s : SenderState σ} {n : Nat} {e : EventHubEventList}
    (h : s.entry? n = some e) :
    e ∈ s.client.outgoingEvents ∧ e.number = n := by
  have hn := List.find?_some h
  exact ⟨List.mem_of_find?_eq_some h, by simpa using hn⟩

theorem entryView_mem {s : SenderState σ} {n : Nat} {e : EventHubEventList}
    (h : s.entry? n = some e) : entryView e ∈ s.outbox.entries :=
  List.mem_map_of_mem (entry?_spec h).1

theorem follow_view (n : Nat) (l : List EventHubEventList) :
    Outbox.follow n (l.map entryView) =
      ((l.dropWhile fun e ↦ e.number ≠ n).tail.head?).map (·.number) := by
  have hdrop : (l.map entryView).dropWhile (fun e ↦ e.number ≠ n) =
      (l.dropWhile fun e ↦ e.number ≠ n).map entryView := List.dropWhile_map ..
  rw [Outbox.follow, hdrop, ← List.map_tail, List.head?_map, Option.map_map]
  rfl

theorem follow_outbox (s : SenderState σ) (n : Nat) :
    Outbox.follow n s.outbox.entries = s.flink n := follow_view n _

theorem mark_view (n : Nat) (l : List EventHubEventList) :
    (l.map fun e ↦ if e.number = n then { e with currentStatus := .waitingForAck } else e).map
      entryView = Outbox.mark n (l.map entryView) := by
  simp only [Outbox.mark, List.map_map]
  refine List.map_congr_left fun e _ ↦ ?_
  by_cases hn : e.number = n <;> simp [entryView, hn]

theorem unlink_view (n : Nat) (l : List EventHubEventList) :
    (l.filter fun e ↦ e.number ≠ n).map entryView = Outbox.unlink n (l.map entryView) := by
  simp only [Outbox.unlink, List.filter_map]
  rfl

/-- Giving up a pass, also when undefined behaviour follows. -/
theorem leave_refines {s t : SenderState σ} (h : SameQueue s t)
    (hquiet : s.control.notifying = none)
    (ht : Outside t.control) : ReflTransGen Outbox.Step s.outbox t.outbox := by
  have hout : t.outbox = { s.outbox with pass := none, hand := none } := by
    simp only [SenderState.outbox, h.1, h.2, h.3, h.4, h.trace, ht.1, ht.2, ht.3, hquiet]
  rw [hout]
  exact .single (.leave hquiet)

/-- The step from between two calls into a call. -/
theorem atStart_refines {s t : SenderState σ} (h : SameQueue s t) (hs : Outside s.control)
    (ht : AtStart t) : ReflTransGen Outbox.Step s.outbox t.outbox := by
  rcases ht.place with ht | ht
  · exact leave_refines h hs.notifying ht
  · have hout : t.outbox =
        { s.outbox with pass := some (s.outbox.entries.head?.map (·.number)) } := by
      simp only [SenderState.outbox, ht, h.1, h.2, h.3, h.4, h.trace, hs.1, hs.2, hs.3,
        List.head?_map, Option.map_map]
      rfl
    rw [hout]
    exact .single (.start hs.pass hs.hand hs.notifying)

/-- Calling the confirmation callback of an entry tells it its notice. -/
theorem confirm_outbox (s : SenderState σ) {e : EventHubEventList} (cause : List SenderEvent)
    (r : EventHubClientConfirmationResult) (after : AfterConfirm) (h : e.callback.isSome) :
    (s.confirm e cause r after).outbox = { s.outbox with
      pass := (SenderControl.confirming e.number after).pass
      hand := (SenderControl.confirming e.number after).hand
      notifying := (SenderControl.confirming e.number after).notifying
      trace := s.outbox.trace ++ (traceView cause ++ (entryView e).notice (noticeOf r)) } := by
  obtain ⟨callback, hcallback⟩ := Option.isSome_iff_exists.mp h
  simp [SenderState.confirm, SenderState.outbox, hcallback, eventView, Outbox.Entry.notice,
    entryView]

theorem confirm_none (s : SenderState σ) {e : EventHubEventList} (cause : List SenderEvent)
    (r : EventHubClientConfirmationResult) (after : AfterConfirm) (h : e.callback = none) :
    s.confirm e cause r after = { s with control := .undefinedBehaviour } := by
  simp only [SenderState.confirm, h]

/-- An accepted entry joins the outbox. -/
theorem queue_refines {s : SenderState σ} (hopen : s.destroying = false) (list : List EventData)
    (callback : Option UserCallback) (idleTimer : UInt64) :
    Outbox.Step s.outbox (queue s list callback idleTimer).outbox := by
  have hout : (queue s list callback idleTimer).outbox = { s.outbox with
      entries := s.outbox.entries ++ [⟨s.outbox.next, false, callback.isSome⟩]
      next := s.outbox.next + 1
      trace := s.outbox.trace ++ [.accepted s.outbox.next callback.isSome] } := by
    simp [SenderState.outbox, queue, entryView, eventView]
  rw [hout]
  exact .accept callback.isSome hopen

/-- At least one event, and all with the same partition key. -/
def SharesKey (key : Option String) (events : List EventData) : Prop :=
  events ≠ [] ∧ ∀ e ∈ events, e.partitionKey = key

/-- A send call leaves the sender, reads the tick only, or queues events that share a key. -/
def Queueing (s : SenderState σ) (callback : Option UserCallback) (tick : UInt64)
    (t : SenderState σ) : Prop :=
  t = s ∨ t = { s with lastTick := tick } ∨
    ∃ events key, SharesKey key events ∧ t = queue s events callback tick

theorem sharesKey_of_validateEventDataList {list : List (Option EventData)}
    {events : List EventData} (hlist : list.length ≠ 0)
    (h : validateEventDataList list = some events) : ∃ key, SharesKey key events := by
  cases list with
  | nil => exact absurd rfl hlist
  | cons first rest =>
    cases first with
    | none => cases h
    | some first =>
      obtain ⟨hall, ⟨⟩⟩ := Option.ite_none_right_eq_some.mp h
      refine ⟨first.partitionKey, List.cons_ne_nil _ _, fun e he ↦ ?_⟩
      rcases List.mem_cons.mp he with rfl | he
      · rfl
      · simpa using List.all_eq_true.mp hall (some e) (List.reduceOption_mem_iff.mp he)

theorem sendAsync_cases (s : SenderState σ) (event : Option EventData)
    (callback context : Option Nat) (env : SendEnv) :
    Queueing s (callback.map (⟨·, context⟩)) env.idleTimer
      (sendAsync s event callback context env).2 := by
  unfold sendAsync
  repeat' split
  all_goals first
    | exact Or.inl rfl
    | exact Or.inr (Or.inl rfl)
    | exact Or.inr (Or.inr ⟨_, _, ⟨List.cons_ne_nil _ _, List.forall_mem_singleton.mpr rfl⟩, rfl⟩)

theorem sendBatchAsync_cases (s : SenderState σ) (list : Option (List (Option EventData)))
    (callback context : Option Nat) (env : SendEnv) :
    Queueing s (callback.map (⟨·, context⟩)) env.idleTimer
      (sendBatchAsync s list callback context env).2 := by
  cases list with
  | none => exact Or.inl rfl
  | some list =>
    unfold sendBatchAsync
    dsimp only
    by_cases hbad : (list.length = 0 || (callback.isNone && context.isSome)) = true
    · rw [if_pos hbad]
      exact Or.inl rfl
    · rw [if_neg hbad]
      have hlist : list.length ≠ 0 := fun h ↦ hbad (by rw [h]; rfl)
      cases hvalid : validateEventDataList list with
      | none => exact Or.inl rfl
      | some events =>
        obtain ⟨key, hkey⟩ := sharesKey_of_validateEventDataList hlist hvalid
        dsimp only
        split_ifs
        · exact Or.inl rfl
        · exact Or.inr (Or.inl rfl)
        · exact Or.inr (Or.inr ⟨events, key, hkey, rfl⟩)
        · exact Or.inr (Or.inl rfl)

/-- `EventHubClient_LL_RefreshSASTokenAsync` leaves the sender or stores the token. -/
theorem refreshSASTokenAsync_cases (s : SenderState σ) (token : Option String) (env : RefreshEnv) :
    (refreshSASTokenAsync s token env).2 = s ∨
    ∃ text, token = some text ∧ s.client.credential = .sasTokenExt ∧
      s.client.amqpState = .initialized ∧ s.client.extRefreshSASToken = none ∧
      (refreshSASTokenAsync s token env).2 =
        { s with
          client := { s.client with extRefreshSASToken := some text }
          log := s.log ++ [.refreshAccepted text] } := by
  unfold refreshSASTokenAsync
  cases token with
  | none => exact Or.inl rfl
  | some text =>
    dsimp only
    by_cases hcred : s.client.credential = .sasTokenExt
    · by_cases hstate : s.client.amqpState = .initialized
      · cases hpending : s.client.extRefreshSASToken with
        | some _ => exact Or.inl (by simp [hcred, hstate])
        | none =>
          rw [if_neg (not_not.mpr hcred), if_neg (not_not.mpr hstate), if_neg (by simp)]
          repeat' split
          all_goals first
            | exact Or.inl rfl
            | exact Or.inr ⟨text, rfl, hcred, hstate, rfl, rfl⟩
      · exact Or.inl (by simp [hcred, hstate])
    · exact Or.inl (by simp [hcred])

theorem refreshSASTokenAsync_sameQueue (s : SenderState σ) (token : Option String)
    (env : RefreshEnv) : SameQueue s (refreshSASTokenAsync s token env).2 := by
  rcases refreshSASTokenAsync_cases s token env with h | ⟨text, -, -, -, -, h⟩
  · rw [h]
    exact .refl s
  · rw [h]
    exact ⟨rfl, rfl, rfl, rfl, rfl, rfl, _, rfl, rfl⟩

theorem queueing_refines {s t : SenderState σ} {callback : Option UserCallback} {tick : UInt64}
    (hopen : s.destroying = false)
    (h : Queueing s callback tick t) :
    ReflTransGen Outbox.Step s.outbox t.outbox := by
  rcases h with rfl | rfl | ⟨list, key, -, rfl⟩
  · exact .refl
  · exact .refl
  · exact .single (queue_refines hopen list callback tick)

theorem queueing_control {s t : SenderState σ} {callback : Option UserCallback} {tick : UInt64}
    (h : Queueing s callback tick t) :
    t.control = s.control := by
  rcases h with rfl | rfl | ⟨list, key, -, rfl⟩ <;> rfl

section Iterate

variable {s : SenderState σ} {n : Nat} {e : EventHubEventList} (env : BuildEnv)
  (currentTime : UInt64) (taken : Bool)

theorem iterate_gone (h : s.entry? n = none) :
    iterate s (some n) env currentTime taken = { s with control := .undefinedBehaviour } := by
  simp only [iterate, h]

theorem iterate_acked (h : s.entry? n = some e) (hstatus : e.currentStatus = .waitingForAck) :
    iterate s (some n) env currentTime taken = { s with control := .loop (s.flink n) } := by
  simp only [iterate, h, hstatus]

theorem iterate_unbuildable (h : s.entry? n = some e) (hstatus : e.currentStatus = .waitingToBeSent)
    (hbuild : buildMessage env e.eventDataList = none) :
    iterate s (some n) env currentTime taken =
      s.confirm e [.unbuildable n] .error (.loop (s.flink n)) := by
  simp only [iterate, h, hstatus, hbuild]

theorem iterate_built (h : s.entry? n = some e) (hstatus : e.currentStatus = .waitingToBeSent)
    {message : AMQPMessage} (hbuild : buildMessage env e.eventDataList = some message) :
    iterate s (some n) env currentTime taken =
      if hasTimeout s.client e currentTime then
        expire { s with lastTick := currentTime } e currentTime
      else handOver { s with lastTick := currentTime } e message taken := by
  simp only [iterate, h, hstatus, hbuild]

end Iterate

/-- Marking an entry of `outgoingEvents`. -/
theorem waitForAck_outbox (s : SenderState σ) (n : Nat) :
    (s.waitForAck n).outbox = { s.outbox with entries := Outbox.mark n s.outbox.entries } := by
  simp only [SenderState.outbox, SenderState.waitForAck, mark_view]

theorem unlink_outbox (s : SenderState σ) (n : Nat) :
    (s.unlink n).outbox = { s.outbox with
      entries := Outbox.unlink n s.outbox.entries
      trace := s.outbox.trace ++ [.removed n] } := by
  simp only [SenderState.outbox, SenderState.unlink, unlink_view]
  simp [eventView]

theorem handOver_outbox (s : SenderState σ) (e : EventHubEventList) (message : AMQPMessage)
    (taken : Bool) : (handOver s e message taken).outbox = { s.outbox with
      entries := Outbox.mark e.number s.outbox.entries
      pass := some (s.flink e.number)
      inFlight := if taken then e.number :: s.outbox.inFlight else s.outbox.inFlight
      hand := some (e.number, taken)
      notifying := none
      trace := s.outbox.trace ++ [.handedOver e.number taken] } := by
  simp only [SenderState.outbox, handOver, SenderState.pass, SenderState.emit,
    SenderState.waitForAck, mark_view, traceView_append]
  simp [eventView, SenderControl.pass, SenderControl.hand, SenderControl.call,
    SenderControl.notifying, UamqpCall.saved, UamqpCall.hand]

/-- One round of the loop. -/
theorem iterate_refines {s : SenderState σ} {c : Option Nat} (hs : s.control = .loop c)
    (env : BuildEnv) (currentTime : UInt64) (taken : Bool) :
    ReflTransGen Outbox.Step s.outbox (iterate s c env currentTime taken).outbox := by
  have hquiet : s.outbox.notifying = none := by simp only [SenderState.outbox, hs]; rfl
  have hhand : s.outbox.hand = none := by simp only [SenderState.outbox, hs]; rfl
  have hpass : s.outbox.pass = some c := by simp only [SenderState.outbox, hs]; rfl
  cases c with
  | none =>
    have h := SameQueue.pass s .connectionDowork .connection
    exact leave_refines (t := connectionDowork s) ⟨h.1, h.2, h.3, h.4, h.5, h.6, h.7⟩ hquiet
      ⟨rfl, rfl, rfl⟩
  | some n =>
    cases hentry : s.entry? n with
    | none =>
      rw [iterate_gone env currentTime taken hentry]
      exact leave_refines (.of_client rfl) hquiet ⟨rfl, rfl, rfl⟩
    | some e =>
      obtain ⟨-, rfl⟩ := entry?_spec hentry
      have he := entryView_mem hentry
      cases hstatus : e.currentStatus with
      | waitingForAck =>
        rw [iterate_acked env currentTime taken hentry hstatus]
        have hstep := Outbox.Step.skip hpass he (by simp [entryView, hstatus]) hhand hquiet
        convert ReflTransGen.single hstep using 1
        simp only [SenderState.outbox, ← follow_outbox] at hquiet hhand ⊢
        rw [hquiet, hhand]
        rfl
      | waitingToBeSent =>
        have hwaits : (entryView e).handed = false := by simp [entryView, hstatus]
        cases hbuild : buildMessage env e.eventDataList with
        | none =>
          rw [iterate_unbuildable env currentTime taken hentry hstatus hbuild]
          cases hcb : e.callback with
          | none =>
            rw [confirm_none _ _ _ _ hcb]
            exact leave_refines (.of_client rfl) hquiet ⟨rfl, rfl, rfl⟩
          | some callback =>
            rw [confirm_outbox _ _ _ _ (by simp [hcb]), ← follow_outbox]
            have hstep := Outbox.Step.fail hpass he hwaits hhand hquiet
            convert ReflTransGen.single hstep using 1
            rw [hhand]
            rfl
        | some message =>
          rw [iterate_built env currentTime taken hentry hstatus hbuild]
          have hnext : (SenderState.flink { s with lastTick := currentTime } e.number) =
              Outbox.follow e.number s.outbox.entries := (follow_outbox s e.number).symm
          split_ifs
          · cases hcb : e.callback with
            | none =>
              simp only [expire, hcb]
              exact leave_refines (s := { s with lastTick := currentTime }) (.of_client rfl) hquiet
                ⟨rfl, rfl, rfl⟩
            | some callback =>
              simp only [expire, hcb]
              rw [confirm_outbox _ _ _ _ (by simp [hcb]), waitForAck_outbox, hnext]
              have hstep := Outbox.Step.expire hpass he hwaits hhand hquiet
              convert ReflTransGen.single hstep using 1
              rw [hhand]
              rfl
          · rw [handOver_outbox, hnext]
            have hstep := Outbox.Step.handOver taken hpass he hwaits hhand hquiet
            convert ReflTransGen.single hstep using 1
            rw [hquiet]
            rfl

/-- `on_message_send_complete` reports and, without a callback, removes at once. -/
theorem onMessageSendComplete_refines {s : SenderState σ} {call : UamqpCall}
    (hs : s.control = .uamqp call) {n : Nat} (hn : n ∈ s.inFlight) (r : MessageSendResult) :
    ReflTransGen Outbox.Step s.outbox (onMessageSendComplete s n r call).outbox := by
  have hquiet : s.outbox.notifying = none := by simp only [SenderState.outbox, hs]; rfl
  have hpass : s.outbox.pass = call.saved := by simp only [SenderState.outbox, hs]; rfl
  have hhand : s.outbox.hand = call.hand := by simp only [SenderState.outbox, hs]; rfl
  cases hentry : s.entry? n with
  | none =>
    simp only [onMessageSendComplete, hentry]
    exact leave_refines (.of_client rfl) hquiet ⟨rfl, rfl, rfl⟩
  | some e =>
    obtain ⟨-, rfl⟩ := entry?_spec hentry
    have he := entryView_mem hentry
    have hcarrier : s.outbox.pass = none ∨ s.outbox.hand.isSome := by
      rw [hpass, hhand]
      cases call <;> simp [UamqpCall.saved, UamqpCall.hand]
    have hreport := Outbox.Step.report (decide (r = .ok)) he hn hcarrier hquiet
    cases hcb : e.callback with
    | none =>
      simp only [onMessageSendComplete, hentry, hcb, unlink_outbox]
      refine (ReflTransGen.single hreport).tail ?_
      convert Outbox.Step.release (n := e.number) _ using 1
      · simp only [SenderState.outbox, SenderState.emit] at hquiet ⊢
        simp [hquiet, eventView, Outbox.Entry.notice, entryView, hcb]
      · rfl
    | some callback =>
      simp only [onMessageSendComplete, hentry, hcb]
      rw [confirm_outbox _ _ _ _ (by simp [hcb])]
      convert ReflTransGen.single hreport using 1
      have hnotice : noticeOf (confirmationOf r) =
          if decide (r = .ok) then Outbox.Notice.delivered else .failed := by cases r <;> rfl
      rw [hpass, hhand, hnotice]
      rfl

/-- A call to uAMQP returns. -/
theorem uamqpReturn_refines {s : SenderState σ} {call : UamqpCall} (hs : s.control = .uamqp call)
    (ok : Bool) : ReflTransGen Outbox.Step s.outbox (uamqpReturn s ok call).outbox := by
  have hquiet : s.outbox.notifying = none := by simp only [SenderState.outbox, hs]; rfl
  have hpass : s.outbox.pass = call.saved := by simp only [SenderState.outbox, hs]; rfl
  have hhand : s.outbox.hand = call.hand := by simp only [SenderState.outbox, hs]; rfl
  cases call with
  | messagesenderOpen =>
    have houtside : Outside s.control := by rw [hs]; exact ⟨rfl, rfl, rfl⟩
    simp only [uamqpReturn]
    split_ifs
    · exact atStart_refines (.of_client rfl) houtside ⟨⟨rfl, by simp [startLoop]⟩, Or.inr rfl⟩
    · exact leave_refines (.of_client rfl) hquiet ⟨rfl, rfl, rfl⟩
  | connectionDowork => exact leave_refines (.of_client rfl) hquiet ⟨rfl, rfl, rfl⟩
  | messagesenderDestroy after =>
    have hfinish := finishDestroyUamqpStack_sameQueue s
    exact leave_refines (hfinish.trans (afterDestroyUamqpStack_sameQueue _ after)) hquiet
      (afterDestroyUamqpStack_outside _ after)
  | messagesenderSendAsync n next taken =>
    cases taken with
    | true =>
      have hstep := Outbox.Step.returned hhand hquiet
      convert ReflTransGen.single hstep using 1
      simp only [uamqpReturn, SenderState.outbox, hs]
      rfl
    | false =>
      cases hentry : s.entry? n with
      | none =>
        simp only [uamqpReturn, hentry]
        exact leave_refines (.of_client rfl) hquiet ⟨rfl, rfl, rfl⟩
      | some e =>
        obtain ⟨-, rfl⟩ := entry?_spec hentry
        simp only [uamqpReturn, hentry]
        cases hcb : e.callback with
        | none =>
          rw [if_neg (by simp), confirm_none _ _ _ _ hcb]
          exact leave_refines (.of_client rfl) hquiet ⟨rfl, rfl, rfl⟩
        | some callback =>
          have hstep := Outbox.Step.refuse hhand (entryView_mem hentry) hquiet
          rw [if_neg (by simp), confirm_outbox _ _ _ _ (by simp [hcb])]
          convert ReflTransGen.single hstep using 1
          rw [hpass]
          rfl

/-- Unlinking the entry whose callback has run. -/
theorem unlink_refines {s : SenderState σ} {n : Nat} {c : SenderControl}
    (hs : s.control.notifying = some n) (hpass : c.pass = s.control.pass)
    (hhand : c.hand = s.control.hand) (hquiet : c.notifying = none) :
    ReflTransGen Outbox.Step s.outbox ({ s.unlink n with control := c }).outbox := by
  convert ReflTransGen.single (Outbox.Step.release (o := s.outbox) hs) using 1
  have h := unlink_outbox s n
  simp only [SenderState.outbox, Outbox.mk.injEq] at h ⊢
  simp only [h, hpass, hhand, hquiet]
  simp

/-- A confirmation callback returns. -/
theorem confirmReturn_refines {s : SenderState σ} {n : Nat} {after : AfterConfirm}
    (hs : s.control = .confirming n after) :
    ReflTransGen Outbox.Step s.outbox (confirmReturn s n after).outbox := by
  cases after with
  | uamqp call => exact unlink_refines (by rw [hs]; rfl) (by rw [hs]; rfl) (by rw [hs]; rfl) rfl
  | loop next => exact unlink_refines (by rw [hs]; rfl) (by rw [hs]; rfl) (by rw [hs]; rfl) rfl
  | draining =>
    exact leave_refines (.of_client rfl) (by rw [hs]; rfl) ⟨rfl, rfl, rfl⟩

theorem afterStateChange_spec (s : SenderState σ) (newState : MessageSenderState)
    (call : UamqpCall) : SameQueue s (afterStateChange s newState call) ∧
      (afterStateChange s newState call).control.call = some call ∧
      (afterStateChange s newState call).control.notifying = none := by
  unfold afterStateChange
  split_ifs
  · refine ⟨raise_sameQueue (.of_client rfl), ?_⟩
    unfold SenderState.raise
    cases s.client.onErrorCb <;> exact ⟨rfl, rfl⟩
  · exact ⟨.of_client rfl, rfl, rfl⟩

theorem onMessageSenderStateChanged_spec {s : SenderState σ} {call : UamqpCall}
    (hs : s.control = .uamqp call) (newState previousState : MessageSenderState) :
    SameQueue s (onMessageSenderStateChanged s newState previousState call) ∧
      (onMessageSenderStateChanged s newState previousState call).control.call = some call ∧
      (onMessageSenderStateChanged s newState previousState call).control.notifying = none := by
  have hset : SameQueue s
      { s with client := { s.client with messageSenderState := newState } } :=
    .of_client rfl
  have hcontrol : SenderState.control
      { s with client := { s.client with messageSenderState := newState } } = .uamqp call := hs
  unfold onMessageSenderStateChanged
  dsimp only
  generalize { s with client := { s.client with messageSenderState := newState } } = t
    at hset hcontrol ⊢
  have hafter := afterStateChange_spec t newState call
  split_ifs
  · exact ⟨hset, by rw [hcontrol]; rfl, by rw [hcontrol]; rfl⟩
  · split
    · exact ⟨⟨rfl, rfl, rfl, rfl, rfl, rfl, _, rfl, rfl⟩, rfl, rfl⟩
    · exact ⟨hset.trans hafter.1, hafter.2⟩

/-- The same call to uAMQP is under way, so the outbox is the same. -/
theorem sameCall_outbox {s t : SenderState σ} (h : SameQueue s t) {call : UamqpCall}
    (hs : s.control.call = some call) (ht : t.control.call = some call)
    (hquiet : s.control.notifying = none) (hquiet' : t.control.notifying = none) :
    t.outbox = s.outbox := by
  have hplace : ∀ c : SenderControl, c.call = some call → c.notifying = none →
      c.pass = call.saved ∧ c.hand = call.hand := by
    intro c hc hn
    refine ⟨?_, by rw [SenderControl.hand, hc]; rfl⟩
    cases c with
    | confirming n after => cases after <;> simp_all [SenderControl.notifying, SenderControl.call]
    | loop c => simp [SenderControl.call] at hc
    | _ => simp only [SenderControl.pass, hc]; rfl
  have h₁ := hplace _ hs hquiet
  have h₂ := hplace _ ht hquiet'
  exact h.outbox_eq (h₂.1.trans h₁.1.symm) (h₂.2.trans h₁.2.symm) (hquiet'.trans hquiet.symm)

/-- The error callback returns. -/
theorem errorReturn_refines {s : SenderState σ} {after : AfterErrorCb}
    (hs : s.control = .errorCb after) :
    ReflTransGen Outbox.Step s.outbox (errorReturn s after).outbox := by
  have hquiet : s.control.notifying = none := by rw [hs]; rfl
  cases after with
  | uamqp call =>
    have h : (errorReturn s (.uamqp call)).outbox = s.outbox :=
      @sameCall_outbox _ _ _ (.of_client rfl) call (by rw [hs]; rfl) rfl hquiet rfl
    rw [h]
  | tearDown =>
    exact leave_refines (destroyUamqpStack_sameQueue s _) hquiet (destroyUamqpStack_outside s _)
  | done => exact leave_refines (.of_client rfl) hquiet ⟨rfl, rfl, rfl⟩

/-- `EventHubClient_LL_Destroy` closes the outbox. -/
theorem destroy_refines {s : SenderState σ} (hs : s.control.notifying = none) :
    ReflTransGen Outbox.Step s.outbox (destroy s).outbox := by
  have hclose : SenderState.outbox { s with destroying := true, log := s.log ++ [.destroying] } =
      { s.outbox with closed := true, trace := s.outbox.trace ++ [.closing] } := by
    simp [SenderState.outbox, eventView]
  refine ReflTransGen.head .close (hclose ▸ ?_)
  exact leave_refines (destroyUamqpStack_sameQueue _ _) hs (destroyUamqpStack_outside _ _)

/-- One round of the loop of `EventHubClient_LL_Destroy`. -/
theorem drain_refines {s : SenderState σ} (hs : s.control = .draining)
    (hclosed : s.destroying = true) : ReflTransGen Outbox.Step s.outbox (drain s).outbox := by
  have houtside : Outside s.control := by rw [hs]; exact ⟨rfl, rfl, rfl⟩
  cases hevents : s.client.outgoingEvents with
  | nil =>
    simp only [drain, hevents]
    exact leave_refines (.of_client rfl) houtside.3 ⟨rfl, rfl, rfl⟩
  | cons e rest =>
    have hhead : s.outbox.entries = entryView e :: rest.map entryView := by
      simp [SenderState.outbox, hevents]
    have hstep := Outbox.Step.abandon hhead hclosed houtside.1 houtside.2 houtside.3
    cases hcb : e.callback with
    | none =>
      convert ReflTransGen.single hstep using 1
      simp [drain, hevents, hcb, SenderState.outbox, SenderState.emit, eventView,
        Outbox.Entry.notice, entryView]
    | some callback =>
      convert ReflTransGen.single hstep using 1
      simp only [drain, hevents, hcb]
      rw [confirm_outbox _ _ _ _ (by simp [hcb])]
      have hpass := houtside.pass
      simp only [SenderState.outbox, houtside.1, houtside.2, houtside.3]
      rfl

/-! ### Steps and runs -/

/-- How a step enters `EventHubClient_LL_Destroy`, and what holds at its end. -/
structure Closes (s t : SenderState σ) : Prop where
  origin : t.control.closing = true → s.control.closing = true ∨ t.destroying = true
  emptied : t.control = .destroyed → t.client.outgoingEvents = []

theorem Closes.of_working {s t : SenderState σ} (h : t.control.closing = false) : Closes s t :=
  ⟨fun hc ↦ absurd hc (by simp [h]), fun hc ↦ absurd h (by simp [hc, SenderControl.closing])⟩

theorem Closes.of_call {s t : SenderState σ} {call : UamqpCall} (hs : s.control.call = some call)
    (ht : t.control.call = some call) : Closes s t := by
  have hclosing : ∀ c : SenderControl, c.call = some call →
      (c.closing = true ↔ call = .messagesenderDestroy .destroy) := by
    intro c hc
    cases c with
    | confirming n after => cases after <;> simp_all [SenderControl.closing, SenderControl.call]
    | errorCb after => cases after <;> simp_all [SenderControl.closing, SenderControl.call]
    | _ => simp_all [SenderControl.closing, SenderControl.call]
  exact ⟨fun hc ↦ Or.inl ((hclosing _ hs).mpr ((hclosing _ ht).mp hc)),
    fun hc ↦ by simp [hc, SenderControl.call] at ht⟩

theorem Closes.of_control {s t : SenderState σ} (h : t.control = s.control)
    (hs : s.control ≠ .destroyed) : Closes s t :=
  ⟨fun hc ↦ Or.inl (h ▸ hc), fun hc ↦ absurd (h ▸ hc) hs⟩

theorem control_ne_destroyed_of_mayCall {s : SenderState σ} (h : mayCall s) :
    s.control ≠ .destroyed := by
  intro hc
  simp [mayCall, hc] at h

theorem confirm_control (s : SenderState σ) (e : EventHubEventList) (cause : List SenderEvent)
    (r : EventHubClientConfirmationResult) (after : AfterConfirm) :
    (s.confirm e cause r after).control = .undefinedBehaviour ∨
      (s.confirm e cause r after).control = .confirming e.number after := by
  unfold SenderState.confirm
  cases e.callback with
  | none => exact Or.inl rfl
  | some callback => exact Or.inr rfl

theorem confirm_loop_working (s : SenderState σ) (e : EventHubEventList)
    (cause : List SenderEvent) (r : EventHubClientConfirmationResult) (next : Option Nat) :
    (s.confirm e cause r (.loop next)).control.closing = false := by
  rcases confirm_control s e cause r (.loop next) with h | h <;> rw [h] <;> rfl

theorem expire_working (s : SenderState σ) (e : EventHubEventList) (currentTime : UInt64) :
    (expire s e currentTime).control.closing = false := by
  unfold expire
  cases e.callback with
  | none => rfl
  | some callback => exact confirm_loop_working ..

theorem iterate_working (s : SenderState σ) (c : Option Nat) (env : BuildEnv)
    (currentTime : UInt64) (taken : Bool) :
    (iterate s c env currentTime taken).control.closing = false := by
  cases c with
  | none => rfl
  | some n =>
    cases hentry : s.entry? n with
    | none => rw [iterate_gone env currentTime taken hentry]; rfl
    | some e =>
      cases hstatus : e.currentStatus with
      | waitingForAck => rw [iterate_acked env currentTime taken hentry hstatus]; rfl
      | waitingToBeSent =>
        cases hbuild : buildMessage env e.eventDataList with
        | none =>
          rw [iterate_unbuildable env currentTime taken hentry hstatus hbuild]
          exact confirm_loop_working ..
        | some message =>
          rw [iterate_built env currentTime taken hentry hstatus hbuild]
          split_ifs
          · exact expire_working ..
          · rfl

theorem onMessageSendComplete_closes {s : SenderState σ} {call : UamqpCall}
    (hs : s.control = .uamqp call) (n : Nat) (r : MessageSendResult) :
    Closes s (onMessageSendComplete s n r call) := by
  unfold onMessageSendComplete
  cases s.entry? n with
  | none => exact .of_working rfl
  | some e =>
    dsimp only
    cases e.callback with
    | none => exact .of_control rfl (by simp [hs])
    | some callback =>
      rcases confirm_control { s with inFlight := s.inFlight.erase n } e [.completed n r]
        (confirmationOf r) (.uamqp call) with h | h
      · exact .of_working (by rw [h]; rfl)
      · exact .of_call (by rw [hs]; rfl) (by rw [h]; rfl)

theorem destroyUamqpStack_closes (s : SenderState σ) {after : AfterDestroy} {t : SenderState σ}
    (h : after ≠ .destroy ∨ s.destroying = true) : Closes t (destroyUamqpStack s after) := by
  by_cases hafter : after = .destroy
  · have hdestroying : s.destroying = true := h.resolve_left (not_not.mpr hafter)
    refine ⟨fun _ ↦ Or.inr ?_, fun hc ↦ ?_⟩
    · rw [(destroyUamqpStack_sameQueue s after).destroying, hdestroying]
    · subst hafter
      unfold destroyUamqpStack at hc
      split_ifs at hc
      cases hc
  · exact .of_working (destroyUamqpStack_working s hafter).working

theorem uamqpReturn_closes {s : SenderState σ} {call : UamqpCall} (hs : s.control = .uamqp call)
    (ok : Bool) : Closes s (uamqpReturn s ok call) := by
  cases call with
  | messagesenderOpen => cases ok <;> exact .of_working rfl
  | connectionDowork => exact .of_working rfl
  | messagesenderSendAsync n next taken =>
    cases taken with
    | true => exact .of_working rfl
    | false =>
      cases hentry : s.entry? n with
      | none => exact .of_working (by simp [uamqpReturn, hentry, SenderControl.closing,
          SenderControl.call])
      | some e =>
        refine .of_working ?_
        simp only [uamqpReturn, hentry, if_neg (show ¬false = true by simp)]
        exact confirm_loop_working ..
  | messagesenderDestroy after =>
    cases after with
    | initFailed =>
      rcases afterDestroyUamqpStack_control (finishDestroyUamqpStack s) .initFailed with h | h | h
      · exact .of_working (by simp only [uamqpReturn, h]; rfl)
      · exact .of_working (by simp only [uamqpReturn, h]; rfl)
      · exact absurd h.1 (by simp)
    | «return» => exact .of_working rfl
    | destroy => exact ⟨fun _ ↦ Or.inl (by rw [hs]; rfl), fun hc ↦ by cases hc⟩

theorem drain_closes {s : SenderState σ} (hs : s.control = .draining) : Closes s (drain s) := by
  refine ⟨fun _ ↦ Or.inl (by rw [hs]; rfl), fun hc ↦ ?_⟩
  cases hevents : s.client.outgoingEvents with
  | nil => simp [drain, hevents]
  | cons e rest =>
    simp only [drain, hevents] at hc
    cases hcb : e.callback with
    | none => simp [hcb, SenderState.emit, hs] at hc
    | some callback =>
      simp only [hcb] at hc
      simp [SenderState.confirm, hcb] at hc

/-- Only `EventHubClient_LL_Destroy` leads into its own loop. -/
theorem step_closes {s t : SenderState σ} {i : SenderInput ι} (h : step auth s i = some t) :
    Closes s t := by
  cases step_move auth h with
  | sendAsync event callback context env hmay =>
    have hne := control_ne_destroyed_of_mayCall hmay
    have h := queueing_control (sendAsync_cases s event callback context env)
    exact .of_control h hne
  | sendBatchAsync list callback context env hmay =>
    have hne := control_ne_destroyed_of_mayCall hmay
    have h := queueing_control (sendBatchAsync_cases s list callback context env)
    exact .of_control h hne
  | setField hf hmay => exact .of_control rfl (control_ne_destroyed_of_mayCall hmay)
  | refreshSASTokenAsync token env hmay =>
    have hne := control_ne_destroyed_of_mayCall hmay
    rcases refreshSASTokenAsync_cases s token env with h | ⟨_, -, -, -, -, h⟩ <;>
      exact .of_control (by rw [h]) hne
  | doWork env _ _ => exact .of_working (doWork_spec auth s env).2.working
  | destroy _ _ => exact destroyUamqpStack_closes _ (Or.inr rfl)
  | iterate env currentTime taken _ => exact .of_working (iterate_working s _ env currentTime taken)
  | onMessageSendComplete r hcall _ => exact onMessageSendComplete_closes hcall _ r
  | onMessageSenderStateChanged newState previousState hcall _ =>
    exact .of_call (by rw [hcall]; rfl)
      (onMessageSenderStateChanged_spec hcall newState previousState).2.1
  | onCBSPutTokenOperationComplete r env hcall _ _ => exact .of_control rfl (by simp [hcall])
  | uamqpReturn ok hcall => exact uamqpReturn_closes hcall ok
  | @confirmReturn n after hconfirm =>
    cases after with
    | uamqp call => exact .of_call (by rw [hconfirm]; rfl) rfl
    | loop next => exact .of_working rfl
    | draining => exact ⟨fun _ ↦ Or.inl (by rw [hconfirm]; rfl), fun hc ↦ by cases hc⟩
  | stateChangeReturn hchange =>
    exact .of_call (by rw [hchange]; rfl) (afterStateChange_spec s _ _).2.1
  | @errorReturn after herror =>
    cases after with
    | uamqp call => exact .of_call (by rw [herror]; rfl) rfl
    | tearDown => exact destroyUamqpStack_closes _ (Or.inl (by simp))
    | done => exact .of_working rfl
  | drain hdraining => exact drain_closes hdraining

/-- Every step of a sender is a run of its outbox. -/
theorem step_refines {s t : SenderState σ} {i : SenderInput ι} (h : step auth s i = some t)
    (hclosing : s.control.closing = true → s.destroying = true) :
    ReflTransGen Outbox.Step s.outbox t.outbox := by
  have hmay : ∀ {s : SenderState σ}, mayCall s = true → s.destroying = false := by
    intro s h
    simp only [mayCall, Bool.and_eq_true, Bool.not_eq_true'] at h
    exact h.1
  cases step_move auth h with
  | sendAsync event callback context env hcall =>
    exact queueing_refines (hmay hcall) (sendAsync_cases s event callback context env)
  | sendBatchAsync list callback context env hcall =>
    exact queueing_refines (hmay hcall) (sendBatchAsync_cases s list callback context env)
  | setField hf _ => rw [(setField_sameQueue s hf).outbox_eq rfl rfl rfl]
  | refreshSASTokenAsync token env _ =>
    have hcontrol : (refreshSASTokenAsync s token env).2.control = s.control := by
      rcases refreshSASTokenAsync_cases s token env with h | ⟨text, -, -, -, -, h⟩ <;> rw [h]
    rw [(refreshSASTokenAsync_sameQueue s token env).outbox_eq (by rw [hcontrol])
      (by rw [hcontrol]) (by rw [hcontrol])]
  | doWork env hidle _ =>
    exact atStart_refines (doWork_spec auth s env).1 (by rw [hidle]; exact ⟨rfl, rfl, rfl⟩)
      (doWork_spec auth s env).2
  | destroy hidle _ => exact destroy_refines (by rw [hidle]; rfl)
  | iterate env currentTime taken hloop => exact iterate_refines hloop env currentTime taken
  | onMessageSendComplete r hcall hn => exact onMessageSendComplete_refines hcall hn r
  | onMessageSenderStateChanged newState previousState hcall _ =>
    have h := onMessageSenderStateChanged_spec hcall newState previousState
    rw [sameCall_outbox h.1 (by rw [hcall]; rfl) h.2.1 (by rw [hcall]; rfl) h.2.2]
  | @onCBSPutTokenOperationComplete a r env _ _ _ =>
    rw [(onCBSPutTokenOperationComplete_sameQueue auth s a r env).outbox_eq rfl rfl rfl]
  | uamqpReturn ok hcall => exact uamqpReturn_refines hcall ok
  | confirmReturn hconfirm => exact confirmReturn_refines hconfirm
  | @stateChangeReturn newState call hchange =>
    have h := afterStateChange_spec s newState call
    rw [sameCall_outbox h.1 (by rw [hchange]; rfl) h.2.1 (by rw [hchange]; rfl) h.2.2]
  | errorReturn herror => exact errorReturn_refines herror
  | drain hdraining => exact drain_refines hdraining (hclosing (by rw [hdraining]; rfl))

/-- What holds of a sender because it is an outbox. -/
structure Posted (s : SenderState σ) : Prop where
  inv : s.outbox.Inv
  closing : s.control.closing = true → s.destroying = true
  emptied : s.control = .destroyed → s.client.outgoingEvents = []

theorem Posted.nodup_numbers {s : SenderState σ} (hs : Posted s) :
    (s.client.outgoingEvents.map (·.number)).Nodup := by
  have h := hs.inv.ordered.sorted.nodup
  rwa [SenderState.outbox, List.map_map] at h

theorem Posted.eq_of_number {s : SenderState σ} (hs : Posted s) {a e : EventHubEventList}
    (ha : a ∈ s.client.outgoingEvents) (he : e ∈ s.client.outgoingEvents)
    (heq : a.number = e.number) : a = e :=
  List.inj_on_of_nodup_map hs.nodup_numbers ha he heq

theorem step_posted {s t : SenderState σ} {i : SenderInput ι} (hs : Posted s)
    (h : step auth s i = some t) : Posted t := by
  have hrefines := step_refines auth h hs.closing
  have hcloses := step_closes auth h
  refine ⟨hs.inv.steps hrefines, fun hc ↦ ?_, hcloses.emptied⟩
  exact (hcloses.origin hc).elim (fun hc ↦ Outbox.closed_of_steps hrefines (hs.closing hc)) id

/-- A new sender has a new outbox. -/
theorem created_posted {c : EventHubClientLL σ} (hc : Created c) : Posted { client := c } := by
  have hevents : c.outgoingEvents = [] := by cases hc <;> rfl
  refine ⟨?_, by simp [SenderControl.closing, SenderControl.call], by simp⟩
  have hnew : SenderState.outbox { client := c } = {} := by
    simp only [SenderState.outbox, hevents]
    rfl
  exact hnew ▸ Outbox.Inv.new

end EventHubClientLL

end EventHubs
