import EventHubs.Auth.Handle
import EventHubs.Sender.Record
import Mathlib.Data.List.Pairwise

/-!
# What becomes of the messages of a sender

Every accepted entry is confirmed once, with its own callback and for a reason that the log bears
out, and the entries are given to `messagesender_send_async` at most once and in the order in which
they were accepted.

## Main definitions

* `confirmations`, `handedOver`, `accepted` — what a log says about the entries.
* `Pending`, `Settled`, `TruthfulLog`.

## Main results

* `EventHubClientLL.run_confirms_once`.
* `EventHubClientLL.run_hands_over_in_order`.
-/

namespace EventHubs

open Relation

/-- How often the confirmation callback of the entry numbered `n` was called. -/
def confirmations (log : List SenderEvent) (n : Nat) : Nat :=
  log.countP fun
    | .confirmed m _ _ => m = n
    | _ => false

/-- The entries given to `messagesender_send_async`, in this order. -/
def handedOver (log : List SenderEvent) : List Nat :=
  log.filterMap fun
    | .handedOver n _ _ => some n
    | _ => none

/-- The number of an accepted entry. -/
def acceptedNumber : SenderEvent → Option Nat
  | .accepted n _ _ => some n
  | _ => none

/-- The accepted entries, in the order of acceptance. -/
def accepted (log : List SenderEvent) : List Nat := log.filterMap acceptedNumber

/-! ### Reading the trace -/

theorem notices_traceView (log : List SenderEvent) (n : Nat) :
    Outbox.notices (traceView log) n = confirmations log n := by
  induction log with
  | nil => rfl
  | cons e log ih =>
    rw [traceView_cons, Outbox.notices_append, ih]
    cases e <;> simp [eventView, Outbox.notices, confirmations, List.countP_cons, Nat.add_comm]

theorem handedOver_traceView (log : List SenderEvent) :
    Outbox.handedOver (traceView log) = handedOver log := by
  induction log with
  | nil => rfl
  | cons e log ih =>
    rw [traceView_cons, Outbox.handedOver_append, ih]
    cases e <;> simp [eventView, Outbox.handedOver, handedOver]

theorem accepted_traceView (log : List SenderEvent) :
    Outbox.accepted (traceView log) = accepted log := by
  induction log with
  | nil => rfl
  | cons e log ih =>
    rw [traceView_cons, Outbox.accepted_append, ih]
    cases e <;> simp [eventView, Outbox.accepted, accepted, List.filterMap_cons, acceptedNumber]

section Trace

variable {log : List SenderEvent} {n : Nat}

theorem mem_traceView {v : Outbox.Event} :
    v ∈ traceView log ↔ ∃ e ∈ log, v ∈ eventView e := List.mem_flatMap

theorem notified_mem_traceView {k : Outbox.Notice} :
    Outbox.Event.notified n k ∈ traceView log ↔
      ∃ callback r, SenderEvent.confirmed n callback r ∈ log ∧ noticeOf r = k := by
  rw [mem_traceView]
  constructor
  · rintro ⟨e, he, hv⟩
    cases e <;> simp only [eventView, List.mem_singleton, List.not_mem_nil, reduceCtorEq] at hv
    cases hv
    exact ⟨_, _, he, rfl⟩
  · rintro ⟨callback, r, he, rfl⟩
    exact ⟨_, he, List.mem_singleton_self _⟩

theorem reported_mem_traceView {good : Bool} :
    Outbox.Event.reported n good ∈ traceView log ↔
      ∃ r, SenderEvent.completed n r ∈ log ∧ good = decide (r = .ok) := by
  rw [mem_traceView]
  constructor
  · rintro ⟨e, he, hv⟩
    cases e <;> simp only [eventView, List.mem_singleton, List.not_mem_nil, reduceCtorEq] at hv
    cases hv
    exact ⟨_, he, rfl⟩
  · rintro ⟨r, he, rfl⟩
    exact ⟨_, he, List.mem_singleton_self _⟩

theorem handedOver_mem_traceView {taken : Bool} :
    Outbox.Event.handedOver n taken ∈ traceView log ↔
      ∃ message, SenderEvent.handedOver n message taken ∈ log := by
  rw [mem_traceView]
  constructor
  · rintro ⟨e, he, hv⟩
    cases e <;> simp only [eventView, List.mem_singleton, List.not_mem_nil, reduceCtorEq] at hv
    cases hv
    exact ⟨_, he⟩
  · rintro ⟨message, he⟩
    exact ⟨_, he, List.mem_singleton_self _⟩

theorem overdue_mem_traceView :
    Outbox.Event.overdue n ∈ traceView log ↔
      ∃ idleTimer currentTime msgTimeout,
        SenderEvent.overdue n idleTimer currentTime msgTimeout ∈ log := by
  rw [mem_traceView]
  constructor
  · rintro ⟨e, he, hv⟩
    cases e <;> simp only [eventView, List.mem_singleton, List.not_mem_nil, reduceCtorEq] at hv
    cases hv
    exact ⟨_, _, _, he⟩
  · rintro ⟨idleTimer, currentTime, msgTimeout, he⟩
    exact ⟨_, he, List.mem_singleton_self _⟩

theorem unbuildable_mem_traceView :
    Outbox.Event.unbuildable n ∈ traceView log ↔ SenderEvent.unbuildable n ∈ log := by
  rw [mem_traceView]
  constructor
  · rintro ⟨e, he, hv⟩
    cases e <;> simp only [eventView, List.mem_singleton, List.not_mem_nil, reduceCtorEq] at hv
    cases hv
    exact he
  · intro he
    exact ⟨_, he, List.mem_singleton_self _⟩

theorem closing_mem_traceView :
    Outbox.Event.closing ∈ traceView log ↔ SenderEvent.destroying ∈ log := by
  rw [mem_traceView]
  constructor
  · rintro ⟨e, he, hv⟩
    cases e <;> simp only [eventView, List.mem_singleton, List.not_mem_nil, reduceCtorEq] at hv
    exact he
  · intro he
    exact ⟨_, he, List.mem_singleton_self _⟩

theorem accepted_mem_traceView {heard : Bool} :
    Outbox.Event.accepted n heard ∈ traceView log ↔
      ∃ callback idleTimer, SenderEvent.accepted n callback idleTimer ∈ log ∧
        heard = callback.isSome := by
  rw [mem_traceView]
  constructor
  · rintro ⟨e, he, hv⟩
    cases e <;> simp only [eventView, List.mem_singleton, List.not_mem_nil, reduceCtorEq] at hv
    cases hv
    exact ⟨_, _, he, rfl⟩
  · rintro ⟨callback, idleTimer, he, rfl⟩
    exact ⟨_, he, List.mem_singleton_self _⟩

end Trace

/-! ### What is said of an entry -/

namespace SenderState

variable {σ : Type}

/-- The entry numbered `n` is in `outgoingEvents` and its callback was never called. -/
structure Pending (s : SenderState σ) (n : Nat) : Prop where
  listed : ∃ e ∈ s.client.outgoingEvents, e.number = n
  quiet : s.control.notifying ≠ some n
  never : confirmations s.log n = 0

/-- The entry numbered `n` is out of `outgoingEvents`, or will be when its callback returns, and
this callback, the one it was accepted with, was called once. -/
structure Settled (s : SenderState σ) (n : Nat) (callback : UserCallback) : Prop where
  removed : (∀ e ∈ s.client.outgoingEvents, e.number ≠ n) ∨ s.control.notifying = some n
  once : confirmations s.log n = 1
  own : ∃ r, SenderEvent.confirmed n callback r ∈ s.log

end SenderState

/-- Every confirmation has the cause that it names. -/
structure TruthfulLog (log : List SenderEvent) : Prop where
  /-- OK says that `on_message_send_complete` was called with `MESSAGE_SEND_OK`. -/
  ok : ∀ n callback, SenderEvent.confirmed n callback .ok ∈ log →
    SenderEvent.completed n .ok ∈ log
  /-- What uAMQP reports on a message that it took is what the user is told. -/
  completed : ∀ n r, SenderEvent.completed n r ∈ log →
    (∃ message, SenderEvent.handedOver n message true ∈ log) ∧
    ∀ callback idleTimer, SenderEvent.accepted n (some callback) idleTimer ∈ log →
      SenderEvent.confirmed n callback (EventHubClientLL.confirmationOf r) ∈ log
  /-- TIMEOUT says that the entry waited longer than the timeout and was never handed over. -/
  timeout : ∀ n callback, SenderEvent.confirmed n callback .timeout ∈ log →
    (∀ message taken, SenderEvent.handedOver n message taken ∉ log) ∧
    ∃ idleTimer currentTime msgTimeout,
      SenderEvent.accepted n (some callback) idleTimer ∈ log ∧
      SenderEvent.overdue n idleTimer currentTime msgTimeout ∈ log ∧
      0 < msgTimeout.toNat ∧ idleTimer.toNat ≤ currentTime.toNat ∧
      msgTimeout.toNat < (currentTime.toNat - idleTimer.toNat) / 1000
  /-- DESTROY is told in `EventHubClient_LL_Destroy`, to entries without a result. -/
  destroy : ∀ n callback, SenderEvent.confirmed n callback .destroy ∈ log →
    SenderEvent.destroying ∈ log ∧ ∀ r, SenderEvent.completed n r ∉ log
  /-- ERROR says that uAMQP failed to send, that no message could be built, or that uAMQP did not
  take the message. -/
  error : ∀ n callback, SenderEvent.confirmed n callback .error ∈ log →
    (∃ r, r ≠ .ok ∧ SenderEvent.completed n r ∈ log) ∨ SenderEvent.unbuildable n ∈ log ∨
      ∃ message, SenderEvent.handedOver n message false ∈ log
  /-- No other result is told, and no callback that was not given. -/
  known : ∀ n callback r, SenderEvent.confirmed n callback r ∈ log →
    r ≠ .exceedMaxSize ∧ r ≠ .unknown ∧
    ∃ idleTimer, SenderEvent.accepted n (some callback) idleTimer ∈ log

namespace EventHubClientLL

variable {σ ι : Type} (auth : AuthModule σ ι)

open SenderState

section Reading

variable {s : SenderState σ} (hs : Kempt s)
include hs

theorem accepted_eq_range : accepted s.log = List.range s.nextEntry := by
  rw [← accepted_traceView]
  exact hs.inv.accounted.all

/-- An entry is accepted once. -/
theorem accepted_unique {n : Nat} {callback callback' : Option UserCallback}
    {idleTimer idleTimer' : UInt64} (h : SenderEvent.accepted n callback idleTimer ∈ s.log)
    (h' : SenderEvent.accepted n callback' idleTimer' ∈ s.log) :
    callback = callback' ∧ idleTimer = idleTimer' := by
  have hnodup : (accepted s.log).Nodup := accepted_eq_range hs ▸ List.nodup_range
  have hpairs := List.pairwise_filterMap.mp hnodup
  have hsymm : Std.Symm fun a b : SenderEvent ↦
      ∀ x, acceptedNumber a = some x → ∀ y, acceptedNumber b = some y → x ≠ y :=
    ⟨fun a b h x hx y hy heq ↦ h y hy x hx heq.symm⟩
  by_contra hne
  refine hpairs.forall h h' (fun heq ↦ hne ?_) n rfl n rfl rfl
  cases heq
  exact ⟨rfl, rfl⟩

theorem own_of_notified {n : Nat} {callback callback' : UserCallback} {idleTimer : UInt64}
    {r : EventHubClientConfirmationResult}
    (h : SenderEvent.accepted n (some callback) idleTimer ∈ s.log)
    (h' : SenderEvent.confirmed n callback' r ∈ s.log) : callback' = callback := by
  obtain ⟨-, idleTimer', h'⟩ := hs.confirmed n callback' r h'
  exact Option.some.inj (accepted_unique hs h' h).1

omit hs in
theorem listed_iff {n : Nat} :
    (∀ e ∈ s.outbox.entries, e.number = n → s.outbox.notifying = some n) ↔
      (∀ e ∈ s.client.outgoingEvents, e.number ≠ n) ∨ s.control.notifying = some n := by
  constructor
  · intro h
    by_contra hne
    rw [not_or] at hne
    obtain ⟨hlisted, hquiet⟩ := hne
    push Not at hlisted
    obtain ⟨e, he, hn⟩ := hlisted
    exact hquiet (h _ (List.mem_map_of_mem he) hn)
  · rintro (h | h) v hv hn
    · obtain ⟨e, he, rfl⟩ := List.mem_map.mp hv
      exact absurd hn (h e he)
    · exact h

/-- Every accepted entry with a callback is pending or settled. -/
theorem pending_or_settled {n : Nat} {callback : UserCallback} {idleTimer : UInt64}
    (h : SenderEvent.accepted n (some callback) idleTimer ∈ s.log) :
    Pending s n ∨ Settled s n callback := by
  by_cases hgone : ∀ e ∈ s.outbox.entries, e.number = n → s.outbox.notifying = some n
  · have honce : confirmations s.log n = 1 := by
      rw [← notices_traceView]
      exact hs.inv.accounted.once n (accepted_mem_traceView.mpr ⟨_, _, h, rfl⟩) hgone
    refine Or.inr ⟨listed_iff.mp hgone, honce, ?_⟩
    have hpos : 0 < confirmations s.log n := by omega
    obtain ⟨e, he, hn⟩ := List.countP_pos_iff.mp hpos
    cases e <;> simp only [decide_eq_true_eq, Bool.false_eq_true] at hn
    subst hn
    exact ⟨_, own_of_notified hs h he ▸ he⟩
  · push Not at hgone
    obtain ⟨v, hv, rfl, hquiet⟩ := hgone
    obtain ⟨e, he, rfl⟩ := List.mem_map.mp hv
    refine Or.inl ⟨⟨e, he, rfl⟩, hquiet, ?_⟩
    rw [← notices_traceView]
    exact (hs.inv.accounted.fresh _ hv hquiet).1

/-- Every confirmation has the cause that it names. -/
theorem truthfulLog (ht : Timed s) : TruthfulLog s.log where
  ok n callback h := by
    obtain ⟨r, hr, hgood⟩ := reported_mem_traceView.mp
      (hs.inv.truthful.delivered n (notified_mem_traceView.mpr ⟨callback, .ok, h, rfl⟩))
    exact of_decide_eq_true hgood.symm ▸ hr
  completed n r h := by
    obtain ⟨hover, htold⟩ :=
      hs.inv.truthful.reported n _ (reported_mem_traceView.mpr ⟨r, h, rfl⟩)
    refine ⟨handedOver_mem_traceView.mp hover, fun callback idleTimer hacc ↦ ?_⟩
    obtain ⟨callback', r', h', hnotice⟩ := notified_mem_traceView.mp
      (htold (accepted_mem_traceView.mpr ⟨_, _, hacc, rfl⟩))
    obtain rfl := own_of_notified hs hacc h'
    have hknown := (hs.confirmed n callback' r' h').1
    have hr : r' = confirmationOf r := by
      cases r <;> cases r' <;> simp_all [noticeOf, confirmationOf]
    exact hr ▸ h'
  timeout n callback h := by
    obtain ⟨hover, hnever⟩ :=
      hs.inv.truthful.expired n (notified_mem_traceView.mpr ⟨callback, .timeout, h, rfl⟩)
    refine ⟨fun message taken hmem ↦
      hnever taken (handedOver_mem_traceView.mpr ⟨message, hmem⟩), ?_⟩
    obtain ⟨idleTimer, currentTime, msgTimeout, hover⟩ := overdue_mem_traceView.mp hover
    obtain ⟨⟨callback', hacc⟩, hpos, hlt⟩ := hs.overdue n idleTimer currentTime msgTimeout hover
    obtain ⟨-, idleTimer', hacc'⟩ := hs.confirmed n callback .timeout h
    obtain ⟨rfl, rfl⟩ := accepted_unique hs hacc hacc'
    have hle := ht.overdue n idleTimer currentTime msgTimeout hover
    rw [UInt64.lt_iff_toNat_lt] at hpos hlt
    rw [UInt64.le_iff_toNat_le] at hle
    rw [UInt64.toNat_div, UInt64.toNat_sub_of_le _ _ (UInt64.le_iff_toNat_le.mpr hle)] at hlt
    exact ⟨idleTimer, currentTime, msgTimeout, hacc, hover, hpos, hle, hlt⟩
  destroy n callback h := by
    obtain ⟨hclosing, hnever⟩ :=
      hs.inv.truthful.abandoned n (notified_mem_traceView.mpr ⟨callback, .destroy, h, rfl⟩)
    exact ⟨closing_mem_traceView.mp hclosing,
      fun r hr ↦ hnever _ (reported_mem_traceView.mpr ⟨r, hr, rfl⟩)⟩
  error n callback h := by
    rcases hs.inv.truthful.failed n (notified_mem_traceView.mpr ⟨callback, .error, h, rfl⟩) with
      hcause | hcause | hcause
    · obtain ⟨r, hr, hbad⟩ := reported_mem_traceView.mp hcause
      exact Or.inl ⟨r, of_decide_eq_false hbad.symm, hr⟩
    · exact Or.inr (Or.inl (unbuildable_mem_traceView.mp hcause))
    · exact Or.inr (Or.inr (handedOver_mem_traceView.mp hcause))
  known n callback r h := by
    obtain ⟨⟨hr, hr'⟩, hacc⟩ := hs.confirmed n callback r h
    exact ⟨hr, hr', hacc⟩

end Reading

/-! ### Confirmations -/

/-- In every run in which all entries are accepted with a callback and the ticks do not go back,
every accepted entry waits in `outgoingEvents` with its callback never called, or is removed with
its callback called once; after `EventHubClient_LL_Destroy` all of them have been called. No
confirmation says anything that did not happen. -/
theorem run_confirms_once {c : EventHubClientLL σ} (hc : Created c) {is : List (SenderInput ι)}
    {t : SenderState σ} (hrun : (senderMachine auth).run { client := c } is = some t)
    (hticks : (senderMachine auth).Meets TickAdvances { client := c } is) (hheard : AllHeard t) :
    t.control ≠ .undefinedBehaviour ∧
    (∀ n callback idleTimer, SenderEvent.accepted n (some callback) idleTimer ∈ t.log →
      Pending t n ∨ Settled t n callback) ∧
    (t.control = .destroyed →
      ∀ n callback idleTimer, SenderEvent.accepted n (some callback) idleTimer ∈ t.log →
        Settled t n callback) ∧
    TruthfulLog t.log := by
  have ht := run_kempt auth (created_kempt hc) hrun
  refine ⟨ht.defined hheard, fun n callback idleTimer h ↦ pending_or_settled ht h,
    fun hdestroyed n callback idleTimer h ↦ ?_, truthfulLog ht (run_timed auth hc hrun hticks)⟩
  refine (pending_or_settled ht h).resolve_left fun hpending ↦ ?_
  obtain ⟨e, he, -⟩ := hpending.listed
  simp [ht.emptied hdestroyed] at he

/-- What the environment contributes to a `EventHubClient_LL_DoWork` at second `now` in which all
calls succeed. -/
def doWorkAt (now : UInt64) : DoWorkEnv AuthEnv where
  create := {}
  status := { statusNow := some now }
  put := { putNow := some now }

/-- A message is sent and confirmed, then the sender is destroyed. -/
def sendOne : List (SenderInput AuthEnv) :=
  [.sendAsync (some { buffer := [7] }) (some 1) (some 2) { idleTimer := 10 },
    .doWork (doWorkAt 100), .onCBSPutTokenOperationComplete .ok { completeNow := some 101 },
    .uamqpReturn true, .doWork (doWorkAt 102), .doWork (doWorkAt 103),
    .onMessageSenderStateChanged .open .opening, .uamqpReturn true,
    .iterate {} 20 true, .onMessageSendComplete 0 .ok, .callbackReturn, .uamqpReturn true,
    .iterate {} 20 true, .uamqpReturn true, .destroy, .uamqpReturn true, .drain]

/-- The confirmation of a message that was sent. -/
theorem run_confirms_once_sendOne :
    ∃ t, (senderMachine (EventHubAuthCBS.authModule fun _ ↦ none)).run
        { client := createdFromConnectionString "name" "key" "host" "hub" "target" } sendOne =
        some t ∧
      t.control = .destroyed ∧ Settled t 0 ⟨1, some 2⟩ ∧
      SenderEvent.confirmed 0 ⟨1, some 2⟩ .ok ∈ t.log := by
  refine ⟨_, rfl, rfl, ?_, by decide⟩
  have h := @run_confirms_once _ _ (EventHubAuthCBS.authModule fun _ ↦ none) _
    (.fromConnectionString "name" "key" "host" "hub" "target") sendOne _ rfl (by decide) (by decide)
  exact h.2.2.1 rfl 0 ⟨1, some 2⟩ 10 (by decide)

/-! ### Hand-overs -/

theorem spent_of_waitingForAck {s : SenderState σ} (hs : Kempt s) {e : EventHubEventList}
    (he : e ∈ s.client.outgoingEvents) (hstatus : e.currentStatus = .waitingForAck) :
    Outbox.Spent e.number s.outbox := by
  refine ⟨hs.inv.ordered.below _ (List.mem_map_of_mem he), fun v hv hn ↦ ?_⟩
  have heq : v = entryView e :=
    hs.inv.ordered.sorted.eq_of_number hv (List.mem_map_of_mem he) hn
  simp [heq, entryView, hstatus]

/-- An entry that waits for its acknowledgement is not handed over later. -/
theorem run_keeps_waitingForAck {s t : SenderState σ} (hs : Kempt s) {js : List (SenderInput ι)}
    (hrun : (senderMachine auth).run s js = some t) {e : EventHubEventList}
    (he : e ∈ s.client.outgoingEvents) (hstatus : e.currentStatus = .waitingForAck) :
    ∃ events, t.log = s.log ++ events ∧ e.number ∉ handedOver events := by
  obtain ⟨⟨events, hlog⟩, hsteps⟩ := run_extends auth hs hrun
  obtain ⟨-, trace, htrace, hnot⟩ := (spent_of_waitingForAck hs he hstatus).steps hsteps
  refine ⟨events, hlog.symm, fun hmem ↦ hnot ?_⟩
  have hview : traceView t.log = traceView s.log ++ trace := htrace
  rw [← hlog, traceView_append] at hview
  rw [← List.append_cancel_left hview, handedOver_traceView]
  exact hmem

/-- The entries are a block that waits for acknowledgements and a block that waits to be sent. -/
theorem outgoingEvents_blocks {s : SenderState σ} (hs : Kempt s) :
    ∃ acked waiting, s.client.outgoingEvents = acked ++ waiting ∧
      (∀ e ∈ acked, e.currentStatus = .waitingForAck) ∧
      ∀ e ∈ waiting, e.currentStatus = .waitingToBeSent := by
  obtain ⟨l₁, l₂, hsplit, h₁, h₂⟩ := hs.inv.ordered.blocks.split
  obtain ⟨acked, waiting, hevents, rfl, rfl⟩ := List.map_eq_append_iff.mp hsplit
  refine ⟨acked, waiting, hevents, fun e he ↦ ?_, fun e he ↦ ?_⟩
  · simpa [entryView] using h₁ _ (List.mem_map_of_mem he)
  · have hwaits := h₂ _ (List.mem_map_of_mem he)
    cases hstatus : e.currentStatus with
    | waitingToBeSent => rfl
    | waitingForAck => simp [entryView, hstatus] at hwaits

/-- The numbers of the entries stand in the order of acceptance. -/
theorem outgoingEvents_sublist {s : SenderState σ} (hs : Kempt s) :
    (s.client.outgoingEvents.map (·.number)).Sublist (accepted s.log) := by
  have hviews : Outbox.Sorted (s.client.outgoingEvents.map entryView) := hs.inv.ordered.sorted
  rw [Outbox.Sorted, List.pairwise_map] at hviews
  have hsorted : (s.client.outgoingEvents.map (·.number)).Pairwise (· < ·) :=
    List.pairwise_map.mpr hviews
  have hbelow : ∀ n ∈ s.client.outgoingEvents.map (·.number), n < s.nextEntry := by
    intro n hn
    obtain ⟨e, he, rfl⟩ := List.mem_map.mp hn
    exact hs.inv.ordered.below _ (List.mem_map_of_mem he)
  rw [accepted_eq_range hs]
  exact Outbox.sublist_range hsorted hbelow

/-- In every run the entries given to `messagesender_send_async` are a subsequence of the accepted
ones without repetition, entries that wait for an acknowledgement are not given again, whatever
happens to the stack, and the entries of `outgoingEvents` stand in the order of acceptance, those
that wait for an acknowledgement first. -/
theorem run_hands_over_in_order {c : EventHubClientLL σ} (hc : Created c)
    {is js : List (SenderInput ι)} {s t : SenderState σ}
    (hs : (senderMachine auth).run { client := c } is = some s)
    (ht : (senderMachine auth).run s js = some t) :
    (handedOver t.log).Sublist (accepted t.log) ∧ (handedOver t.log).Nodup ∧
    (∀ e ∈ s.client.outgoingEvents, e.currentStatus = .waitingForAck →
      ∃ events, t.log = s.log ++ events ∧ e.number ∉ handedOver events) ∧
    (∃ acked waiting, t.client.outgoingEvents = acked ++ waiting ∧
      (∀ e ∈ acked, e.currentStatus = .waitingForAck) ∧
      ∀ e ∈ waiting, e.currentStatus = .waitingToBeSent) ∧
    (t.client.outgoingEvents.map (·.number)).Sublist (accepted t.log) := by
  have hkempt := run_kempt auth (created_kempt hc) hs
  have hkempt' := run_kempt auth hkempt ht
  obtain ⟨hsublist, hnodup⟩ := hkempt'.inv.handedOver_sublist
  have hover : Outbox.handedOver t.outbox.trace = handedOver t.log := handedOver_traceView t.log
  have haccepted : Outbox.accepted t.outbox.trace = accepted t.log := accepted_traceView t.log
  rw [hover, haccepted] at hsublist
  rw [hover] at hnodup
  exact ⟨hsublist, hnodup, fun e he hstatus ↦ run_keeps_waitingForAck auth hkempt ht he hstatus,
    outgoingEvents_blocks hkempt', outgoingEvents_sublist hkempt'⟩

/-- The hand-over of a message that was sent. -/
theorem run_hands_over_in_order_sendOne :
    ∃ s t, (senderMachine (EventHubAuthCBS.authModule fun _ ↦ none)).run
        { client := createdFromConnectionString "name" "key" "host" "hub" "target" }
        (sendOne.take 9) = some s ∧
      (senderMachine (EventHubAuthCBS.authModule fun _ ↦ none)).run s (sendOne.drop 9) = some t ∧
      handedOver t.log = [0] ∧ (handedOver t.log).Sublist (accepted t.log) := by
  refine ⟨_, _, rfl, rfl, by decide, ?_⟩
  exact (@run_hands_over_in_order _ _ (EventHubAuthCBS.authModule fun _ ↦ none) _
    (.fromConnectionString "name" "key" "host" "hub" "target") (sendOne.take 9) (sendOne.drop 9)
    _ _ rfl rfl).1

end EventHubClientLL

end EventHubs
