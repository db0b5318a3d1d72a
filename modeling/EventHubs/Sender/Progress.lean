import EventHubs.Library.OutboxPass
import EventHubs.Sender.Delivery

/-!
# What a call of `EventHubClient_LL_DoWork` gets done

The loop of `EventHubClient_LL_DoWork` saves the entry that it goes to next before it calls out, and
while it calls out entries are queued, completed and unlinked. Nevertheless no entry that was queued
before the call waits to be sent when the loop is over, and the rounds of the loop are bounded by
the entries that were queued before it or are queued while it runs.

## Main definitions

* `SenderState.Acked` — an entry that waits for its acknowledgement is where one can come from.
* `SenderState.roundsAhead` — how many rounds the loop can still make.

## Main results

* `EventHubClientLL.run_leaves_nothing_waiting`, `EventHubClientLL.run_bounds_rounds`.
-/

namespace EventHubs

open Relation

/-- The rounds of the loop of `EventHubClient_LL_DoWork` among some inputs. -/
def SenderInput.isRound {ι : Type} : SenderInput ι → Bool
  | .iterate _ _ _ => true
  | _ => false

namespace SenderState

variable {σ : Type}

/-- uAMQP holds the entry numbered `n`, or has refused it, or its callback is running. -/
def Held (s : SenderState σ) (n : Nat) : Prop :=
  n ∈ s.inFlight ∨ s.control.hand = some (n, false) ∨ s.control.notifying = some n

/-- An entry that waits for its acknowledgement is held. -/
def Acked (s : SenderState σ) : Prop :=
  s.control = .undefinedBehaviour ∨
  ∀ e ∈ s.client.outgoingEvents, e.currentStatus = .waitingForAck → s.Held e.number

theorem Held.mem_inFlight {s : SenderState σ} {n : Nat} (h : s.Held n)
    (hhand : s.control.hand = none) (hquiet : s.control.notifying = none) : n ∈ s.inFlight := by
  simpa [Held, hhand, hquiet] using h

/-- The same entries, held as before. -/
theorem Acked.congr {s t : SenderState σ} (h : Acked s) (hs : s.control ≠ .undefinedBehaviour)
    (hevents : ∀ e ∈ t.client.outgoingEvents, e.currentStatus = .waitingForAck →
      e ∈ s.client.outgoingEvents)
    (hflight : t.inFlight = s.inFlight) (hhand : t.control.hand = s.control.hand)
    (hnotifying : t.control.notifying = s.control.notifying) : Acked t := by
  refine Or.inr fun e he hstatus ↦ ?_
  have hheld := (h.resolve_left hs) e (hevents e he hstatus) hstatus
  rwa [Held, hflight, hhand, hnotifying]

/-- Outside the loop and `messagesender_send_async` uAMQP holds all of them. -/
theorem Acked.of_quiet {s t : SenderState σ} (h : Acked s) (hs : s.control ≠ .undefinedBehaviour)
    (hhand : s.control.hand = none) (hquiet : s.control.notifying = none)
    (hevents : ∀ e ∈ t.client.outgoingEvents, e.currentStatus = .waitingForAck →
      e ∈ s.client.outgoingEvents) (hflight : t.inFlight = s.inFlight) : Acked t := by
  refine Or.inr fun e he hstatus ↦ Or.inl ?_
  exact hflight ▸ ((h.resolve_left hs) e (hevents e he hstatus) hstatus).mem_inFlight hhand hquiet

/-- With control at another place the queue of a state is the same. -/
theorem SameQueue.mem_of_mem {s t : SenderState σ} (h : SameQueue s t) :
    ∀ e ∈ t.client.outgoingEvents, e.currentStatus = .waitingForAck →
      e ∈ s.client.outgoingEvents := fun _ he _ ↦ h.outgoingEvents ▸ he

/-- A callback is called for the entry that left the hands of uAMQP. -/
theorem confirm_acked {s : SenderState σ} {e : EventHubEventList} {cause : List SenderEvent}
    {r : EventHubClientConfirmationResult} {after : AfterConfirm}
    (hafter : ∀ n, (SenderControl.confirming n after).notifying = some n)
    (h : ∀ a ∈ s.client.outgoingEvents, a.currentStatus = .waitingForAck →
      a.number = e.number ∨ a.number ∈ s.inFlight ∨
        (SenderControl.confirming e.number after).hand = some (a.number, false)) :
    Acked (s.confirm e cause r after) := by
  unfold SenderState.confirm
  cases e.callback with
  | none => exact Or.inl rfl
  | some callback =>
    refine Or.inr fun a ha hstatus ↦ ?_
    rcases h a ha hstatus with heq | hflight | hhand
    · exact Or.inr (Or.inr (heq ▸ hafter e.number))
    · exact Or.inl hflight
    · exact Or.inr (Or.inl hhand)

/-- How many rounds the loop of `EventHubClient_LL_DoWork` can still make if no entry is queued. -/
def roundsAhead (s : SenderState σ) : Nat :=
  match s.control.pass with
  | some c => Outbox.ahead s.outbox.entries c + 1
  | none =>
    if s.control.call = some .messagesenderOpen then s.client.outgoingEvents.length + 1 else 0

/-- At the same place there are at most as many more rounds ahead as entries more. -/
theorem roundsAhead_le {s t : SenderState σ} {k : Nat} (hpass : t.control.pass = s.control.pass)
    (hcall : t.control.call = s.control.call)
    (hahead : ∀ c, Outbox.ahead t.outbox.entries c ≤ Outbox.ahead s.outbox.entries c + k)
    (hlength : t.client.outgoingEvents.length ≤ s.client.outgoingEvents.length + k) :
    t.roundsAhead ≤ s.roundsAhead + k := by
  unfold roundsAhead
  rw [hpass, hcall]
  cases s.control.pass with
  | some c => exact (Nat.succ_le_succ (hahead c)).trans (Nat.le_of_eq (Nat.succ_add _ k).symm)
  | none =>
    dsimp only
    split_ifs <;> omega

theorem roundsAhead_eq_zero {s : SenderState σ} (hpass : s.control.pass = none)
    (hcall : s.control.call ≠ some .messagesenderOpen) : s.roundsAhead = 0 := by
  simp [roundsAhead, hpass, hcall]

theorem roundsAhead_loop {s : SenderState σ} {c : Option Nat} (h : s.control.pass = some c) :
    s.roundsAhead = Outbox.ahead s.outbox.entries c + 1 := by
  simp [roundsAhead, h]

theorem SameQueue.roundsAhead_le {s t : SenderState σ} (h : SameQueue s t)
    (hpass : t.control.pass = s.control.pass) (hcall : t.control.call = s.control.call) :
    t.roundsAhead ≤ s.roundsAhead := by
  have hentries : t.outbox.entries = s.outbox.entries := by
    simp only [SenderState.outbox, h.outgoingEvents]
  refine SenderState.roundsAhead_le (k := 0) hpass hcall (fun c ↦ ?_) ?_
  · rw [hentries]
    exact Nat.le_refl _
  · rw [h.outgoingEvents]
    exact Nat.le_refl _

end SenderState

namespace EventHubClientLL

variable {σ ι : Type} (auth : AuthModule σ ι)

open SenderState

/-! ### Acknowledgements -/

theorem queueing_acked {s t : SenderState σ} {callback : Option UserCallback} {tick : UInt64}
    (hs : Acked s) (hdefined : s.control ≠ .undefinedBehaviour) (h : Queueing s callback tick t) :
    Acked t := by
  refine hs.congr hdefined (fun e he hstatus ↦ ?_) ?_ ?_ ?_
  · rcases h with rfl | rfl | ⟨list, key, -, rfl⟩
    · exact he
    · exact he
    · rcases List.mem_append.mp he with he | he
      · exact he
      · obtain rfl := List.mem_singleton.mp he
        cases hstatus
  · rcases h with rfl | rfl | ⟨list, key, -, rfl⟩ <;> rfl
  · rw [queueing_control h]
  · rw [queueing_control h]

theorem mem_of_waits {s : SenderState σ} {n : Nat} {a : EventHubEventList}
    (ha : a ∈ (s.waitForAck n).client.outgoingEvents) (hstatus : a.currentStatus = .waitingForAck) :
    a.number = n ∨ a ∈ s.client.outgoingEvents := by
  obtain ⟨b, hb, rfl⟩ := List.mem_map.mp ha
  split_ifs with hn
  · exact Or.inl hn
  · exact Or.inr hb

theorem iterate_acked_of {s : SenderState σ} {c : Option Nat} (h : Acked s)
    (hs : s.control = .loop c) (env : BuildEnv) (currentTime : UInt64) (taken : Bool) :
    Acked (iterate s c env currentTime taken) := by
  have hdefined : s.control ≠ .undefinedBehaviour := by simp [hs]
  have hhand : s.control.hand = none := by rw [hs]; rfl
  have hquiet : s.control.notifying = none := by rw [hs]; rfl
  have hflight : ∀ e ∈ s.client.outgoingEvents, e.currentStatus = .waitingForAck →
      e.number ∈ s.inFlight := fun e he hstatus ↦
    ((h.resolve_left hdefined) e he hstatus).mem_inFlight hhand hquiet
  cases c with
  | none => exact h.of_quiet hdefined hhand hquiet (fun e he _ ↦ he) rfl
  | some n =>
    cases hentry : s.entry? n with
    | none =>
      rw [iterate_gone env currentTime taken hentry]
      exact Or.inl rfl
    | some e =>
      obtain ⟨-, rfl⟩ := entry?_spec hentry
      cases hstatus : e.currentStatus with
      | waitingForAck =>
        rw [iterate_acked env currentTime taken hentry hstatus]
        exact h.of_quiet hdefined hhand hquiet (fun e he _ ↦ he) rfl
      | waitingToBeSent =>
        cases hbuild : buildMessage env e.eventDataList with
        | none =>
          rw [iterate_unbuildable env currentTime taken hentry hstatus hbuild]
          exact confirm_acked (fun _ ↦ rfl) fun a ha hack ↦ Or.inr (Or.inl (hflight a ha hack))
        | some message =>
          rw [iterate_built env currentTime taken hentry hstatus hbuild]
          have hmarked : ∀ a ∈ (s.waitForAck e.number).client.outgoingEvents,
              a.currentStatus = .waitingForAck → a.number = e.number ∨ a.number ∈ s.inFlight :=
            fun a ha hack ↦ (mem_of_waits ha hack).imp_right fun ha ↦ hflight a ha hack
          split_ifs
          · unfold expire
            cases e.callback with
            | none => exact Or.inl rfl
            | some callback =>
              exact confirm_acked (fun _ ↦ rfl) fun a ha hack ↦
                (hmarked a ha hack).imp_right Or.inl
          · refine Or.inr fun a ha hack ↦ ?_
            rcases hmarked a ha hack with heq | hin
            · cases taken with
              | true => exact Or.inl (heq ▸ List.mem_cons_self)
              | false => exact Or.inr (Or.inl (heq ▸ rfl))
            · cases taken with
              | true => exact Or.inl (List.mem_cons_of_mem _ hin)
              | false => exact Or.inl hin

theorem onMessageSendComplete_acked {s : SenderState σ} {call : UamqpCall} (h : Acked s)
    (hs : s.control = .uamqp call) (n : Nat) (r : MessageSendResult) :
    Acked (onMessageSendComplete s n r call) := by
  have hheld : ∀ a ∈ s.client.outgoingEvents, a.currentStatus = .waitingForAck →
      a.number = n ∨ a.number ∈ s.inFlight.erase n ∨ s.control.hand = some (a.number, false) := by
    intro a ha hack
    rcases h.resolve_left (by simp [hs]) a ha hack with hin | hhand | hnot
    · by_cases heq : a.number = n
      · exact Or.inl heq
      · exact Or.inr (Or.inl ((List.mem_erase_of_ne heq).mpr hin))
    · exact Or.inr (Or.inr hhand)
    · rw [hs] at hnot
      cases hnot
  rw [hs] at hheld
  cases hentry : s.entry? n with
  | none =>
    simp only [onMessageSendComplete, hentry]
    exact Or.inl rfl
  | some e =>
    obtain ⟨-, rfl⟩ := entry?_spec hentry
    cases hcb : e.callback with
    | none =>
      simp only [onMessageSendComplete, hentry, hcb]
      refine Or.inr fun a ha hack ↦ ?_
      obtain ⟨ha, hne⟩ := List.mem_filter.mp ha
      rcases hheld a ha hack with heq | hin | hhand
      · exact absurd heq (by simpa using hne)
      · exact Or.inl hin
      · exact Or.inr (Or.inl (hs ▸ hhand))
    | some callback =>
      simp only [onMessageSendComplete, hentry, hcb]
      exact confirm_acked (fun _ ↦ rfl) hheld

theorem uamqpReturn_acked {s : SenderState σ} {call : UamqpCall} (h : Acked s)
    (hs : s.control = .uamqp call) (ok : Bool) : Acked (uamqpReturn s ok call) := by
  have hdefined : s.control ≠ .undefinedBehaviour := by simp [hs]
  have hquiet : s.control.notifying = none := by rw [hs]; rfl
  cases call with
  | messagesenderOpen =>
    refine h.of_quiet hdefined (by rw [hs]; rfl) hquiet (fun e he _ ↦ ?_) ?_
    · cases ok <;> exact he
    · cases ok <;> rfl
  | connectionDowork => exact h.of_quiet hdefined (by rw [hs]; rfl) hquiet (fun e he _ ↦ he) rfl
  | messagesenderDestroy after =>
    have hqueue := (finishDestroyUamqpStack_sameQueue s).trans
      (afterDestroyUamqpStack_sameQueue _ after)
    exact h.of_quiet hdefined (by rw [hs]; rfl) hquiet hqueue.mem_of_mem hqueue.inFlight
  | messagesenderSendAsync n next taken =>
    have hheld : ∀ a ∈ s.client.outgoingEvents, a.currentStatus = .waitingForAck →
        a.number ∈ s.inFlight ∨ (n, taken) = (a.number, false) := by
      intro a ha hack
      rcases h.resolve_left hdefined a ha hack with hin | hhand | hnot
      · exact Or.inl hin
      · rw [hs] at hhand
        exact Or.inr (Option.some.inj hhand)
      · simp [hquiet] at hnot
    cases taken with
    | true =>
      exact Or.inr fun a ha hack ↦ Or.inl ((hheld a ha hack).resolve_right (by simp))
    | false =>
      cases hentry : s.entry? n with
      | none =>
        simp only [uamqpReturn, hentry]
        exact Or.inl rfl
      | some e =>
        obtain ⟨-, rfl⟩ := entry?_spec hentry
        simp only [uamqpReturn, hentry, if_neg (show ¬false = true by simp)]
        refine confirm_acked (fun _ ↦ rfl) fun a ha hack ↦ ?_
        rcases hheld a ha hack with hin | heq
        · exact Or.inr (Or.inl hin)
        · exact Or.inl (Prod.mk.inj heq).1.symm

theorem confirmReturn_acked {s : SenderState σ} {n : Nat} {after : AfterConfirm} (h : Acked s)
    (hs : s.control = .confirming n after) : Acked (confirmReturn s n after) := by
  have hdefined : s.control ≠ .undefinedBehaviour := by simp [hs]
  have hunlinked : ∀ c : SenderControl, s.control.notifying = some n →
      c.hand = s.control.hand → Acked { s.unlink n with control := c } := by
    intro c hnot hhand
    refine Or.inr fun a ha hack ↦ ?_
    obtain ⟨ha, hne⟩ := List.mem_filter.mp ha
    rcases h.resolve_left hdefined a ha hack with hin | hheld | heq
    · exact Or.inl hin
    · exact Or.inr (Or.inl (hhand.trans hheld))
    · exact absurd (Option.some.inj (heq.symm.trans hnot)) (by simpa using hne)
  cases after with
  | uamqp call => exact hunlinked _ (by rw [hs]; rfl) (by rw [hs]; rfl)
  | loop next => exact hunlinked _ (by rw [hs]; rfl) (by rw [hs]; rfl)
  | draining => exact h.of_quiet hdefined (by rw [hs]; rfl) (by rw [hs]; rfl) (fun e he _ ↦ he) rfl

theorem drain_acked {s : SenderState σ} (hp : Posted s) (h : Acked s)
    (hs : s.control = .draining) : Acked (drain s) := by
  have hdefined : s.control ≠ .undefinedBehaviour := by simp [hs]
  have hhand : s.control.hand = none := by rw [hs]; rfl
  have hquiet : s.control.notifying = none := by rw [hs]; rfl
  cases hevents : s.client.outgoingEvents with
  | nil =>
    simp only [drain, hevents]
    exact h.of_quiet hdefined hhand hquiet (fun e he _ ↦ he) rfl
  | cons e rest =>
    have hflight : ∀ a ∈ rest, a.currentStatus = .waitingForAck →
        a.number ∈ s.inFlight.erase e.number := by
      intro a ha hack
      have hmem : a ∈ s.client.outgoingEvents := hevents ▸ List.mem_cons_of_mem e ha
      have hnodup := hp.nodup_numbers
      rw [hevents, List.map_cons, List.nodup_cons] at hnodup
      have hne : a.number ≠ e.number := fun heq ↦
        hnodup.1 (heq ▸ List.mem_map_of_mem (f := EventHubEventList.number) ha)
      refine (List.mem_erase_of_ne hne).mpr ?_
      exact ((h.resolve_left hdefined) a hmem hack).mem_inFlight hhand hquiet
    simp only [drain, hevents]
    cases hcb : e.callback with
    | none => exact Or.inr fun a ha hack ↦ Or.inl (hflight a ha hack)
    | some callback =>
      simp only [SenderState.confirm, hcb]
      exact Or.inr fun a ha hack ↦ Or.inl (hflight a ha hack)

/-- A step keeps what waits for an acknowledgement held. -/
theorem step_acked {s t : SenderState σ} {i : SenderInput ι} (hp : Posted s) (hs : Acked s)
    (h : step auth s i = some t) : Acked t := by
  have hmay : mayCall s = true → s.control ≠ .undefinedBehaviour := by
    intro hm hc
    simp [mayCall, hc] at hm
  cases step_move auth h with
  | sendAsync event callback context env hcall =>
    exact queueing_acked hs (hmay hcall) (sendAsync_cases s event callback context env)
  | sendBatchAsync list callback context env hcall =>
    exact queueing_acked hs (hmay hcall) (sendBatchAsync_cases s list callback context env)
  | setField hf hcall =>
    have hqueue := setField_sameQueue s hf
    exact hs.congr (hmay hcall) hqueue.mem_of_mem hqueue.inFlight rfl rfl
  | refreshSASTokenAsync token env hcall =>
    have hqueue := refreshSASTokenAsync_sameQueue s token env
    have hcontrol : (refreshSASTokenAsync s token env).2.control = s.control := by
      rcases refreshSASTokenAsync_cases s token env with h | ⟨text, -, -, -, -, h⟩ <;> rw [h]
    exact hs.congr (hmay hcall) hqueue.mem_of_mem hqueue.inFlight (by rw [hcontrol])
      (by rw [hcontrol])
  | doWork env hidle _ =>
    have hqueue := (doWork_spec auth s env).1
    exact hs.of_quiet (by simp [hidle]) (by rw [hidle]; rfl) (by rw [hidle]; rfl)
      hqueue.mem_of_mem hqueue.inFlight
  | destroy hidle _ =>
    have hqueue := destroyUamqpStack_sameQueue
      { s with destroying := true, log := s.log ++ [.destroying] } .destroy
    exact hs.of_quiet (by simp [hidle]) (by rw [hidle]; rfl) (by rw [hidle]; rfl)
      hqueue.mem_of_mem hqueue.inFlight
  | iterate env currentTime taken hloop => exact iterate_acked_of hs hloop env currentTime taken
  | onMessageSendComplete r hcall _ => exact onMessageSendComplete_acked hs hcall _ r
  | onMessageSenderStateChanged newState previousState hcall _ =>
    obtain ⟨hqueue, hsame, hquiet⟩ :=
      onMessageSenderStateChanged_spec hcall newState previousState
    refine hs.congr (by simp [hcall]) hqueue.mem_of_mem hqueue.inFlight ?_ ?_
    · rw [SenderControl.hand, hsame, hcall]
      rfl
    · rw [hquiet, hcall]
      rfl
  | @onCBSPutTokenOperationComplete a r env hcall _ _ =>
    have hqueue := onCBSPutTokenOperationComplete_sameQueue auth s a r env
    exact hs.congr (by simp [hcall]) hqueue.mem_of_mem hqueue.inFlight rfl rfl
  | uamqpReturn ok hcall => exact uamqpReturn_acked hs hcall ok
  | confirmReturn hconfirm => exact confirmReturn_acked hs hconfirm
  | @stateChangeReturn newState call hchange =>
    obtain ⟨hqueue, hsame, hquiet⟩ := afterStateChange_spec s newState call
    refine hs.congr (by simp [hchange]) hqueue.mem_of_mem hqueue.inFlight ?_ ?_
    · rw [SenderControl.hand, hsame, hchange]
      rfl
    · rw [hquiet, hchange]
      rfl
  | @errorReturn after herror =>
    have hdefined : s.control ≠ .undefinedBehaviour := by simp [herror]
    cases after with
    | uamqp call =>
      exact hs.congr hdefined (fun e he _ ↦ he) rfl (by rw [herror]; rfl) (by rw [herror]; rfl)
    | tearDown =>
      have hqueue := destroyUamqpStack_sameQueue s .return
      exact hs.of_quiet hdefined (by rw [herror]; rfl) (by rw [herror]; rfl) hqueue.mem_of_mem
        hqueue.inFlight
    | done =>
      exact hs.of_quiet hdefined (by rw [herror]; rfl) (by rw [herror]; rfl) (fun e he _ ↦ he) rfl
  | drain hdraining => exact drain_acked hp hs hdraining

theorem run_acked {s t : SenderState σ} (hp : Kempt s) (hs : Acked s) {is : List (SenderInput ι)}
    (h : (senderMachine auth).run s is = some t) : Acked t := by
  have hstep : ∀ u i v, Kempt u ∧ Acked u → (senderMachine auth).step u i = some v →
      Kempt v ∧ Acked v := fun u i v hu h ↦
    ⟨step_kempt auth hu.1 h, step_acked auth hu.1.toPosted hu.2 h⟩
  exact (Machine.run_invariant hstep ⟨hp, hs⟩ h).2

theorem created_acked {c : EventHubClientLL σ} (hc : Created c) : Acked { client := c } := by
  have hevents : c.outgoingEvents = [] := by cases hc <;> rfl
  exact Or.inr (by simp [hevents])

/-- When the loop of `EventHubClient_LL_DoWork` is over, every entry that was accepted before the
call is in the hands of uAMQP, or is out of `outgoingEvents` with its callback called once. -/
theorem run_leaves_nothing_waiting {c : EventHubClientLL σ} (hc : Created c)
    {is js : List (SenderInput ι)} {s t : SenderState σ}
    (hs : (senderMachine auth).run { client := c } is = some s) (hidle : s.control = .idle)
    (ht : (senderMachine auth).run s js = some t) (hend : t.control = .loop none) :
    ∀ n < s.nextEntry,
      (∃ e ∈ t.client.outgoingEvents, e.number = n ∧ e.currentStatus = .waitingForAck ∧
        n ∈ t.inFlight ∧ ∃ message, SenderEvent.handedOver n message true ∈ t.log) ∨
      (∀ e ∈ t.client.outgoingEvents, e.number ≠ n) ∧
        ∀ callback idleTimer, SenderEvent.accepted n (some callback) idleTimer ∈ t.log →
          confirmations t.log n = 1 := by
  intro n hn
  have hkempt := run_kempt auth (created_kempt hc) hs
  have hkempt' := run_kempt auth hkempt ht
  have hacked := run_acked auth hkempt (run_acked auth (created_kempt hc) (created_acked hc) hs) ht
  have hpass : s.outbox.pass ≠ some none := by
    simp only [SenderState.outbox, hidle]
    simp [SenderControl.pass, SenderControl.call]
  have hswept : Outbox.Swept s.nextEntry t.outbox :=
    (Outbox.Swept.of_pass (Nat.le_refl _) hpass).steps hkempt.inv (run_extends auth hkempt ht).2
  have hhand : t.control.hand = none := by rw [hend]; rfl
  have hquiet : t.control.notifying = none := by rw [hend]; rfl
  by_cases hlisted : ∃ e ∈ t.client.outgoingEvents, e.number = n
  · obtain ⟨e, he, rfl⟩ := hlisted
    have hstatus : e.currentStatus = .waitingForAck := by
      have hdone := hswept.ended (by simp only [SenderState.outbox, hend]; rfl) (entryView e)
        (List.mem_map_of_mem he) hn
      have hnone : t.outbox.notifying ≠ some (entryView e).number := by
        simp [SenderState.outbox, hquiet]
      simpa [entryView] using hdone.resolve_right hnone
    have hflight : e.number ∈ t.inFlight :=
      (hacked.resolve_left (by simp [hend]) e he hstatus).mem_inFlight hhand hquiet
    exact Or.inl ⟨e, he, rfl, hstatus, hflight,
      handedOver_mem_traceView.mp (hkempt'.inv.truthful.flight e.number hflight)⟩
  · push Not at hlisted
    refine Or.inr ⟨hlisted, fun callback idleTimer hacc ↦ ?_⟩
    rcases pending_or_settled hkempt' hacc with hpending | hsettled
    · obtain ⟨e, he, hnumber⟩ := hpending.listed
      exact absurd hnumber (hlisted e he)
    · exact hsettled.once

/-- An entry that was queued before a call is sent and confirmed during it. -/
theorem run_leaves_nothing_waiting_sendOne :
    ∃ s t, (senderMachine (EventHubAuthCBS.authModule fun _ ↦ none)).run
        { client := createdFromConnectionString "name" "key" "host" "hub" "target" }
        (sendOne.take 5) = some s ∧
      (senderMachine (EventHubAuthCBS.authModule fun _ ↦ none)).run s
        ((sendOne.drop 5).take 7) = some t ∧
      (∀ e ∈ t.client.outgoingEvents, e.number ≠ 0) ∧ confirmations t.log 0 = 1 := by
  refine ⟨_, _, rfl, rfl, ?_⟩
  have h := @run_leaves_nothing_waiting _ _ (EventHubAuthCBS.authModule fun _ ↦ none) _
    (.fromConnectionString "name" "key" "host" "hub" "target") (sendOne.take 5)
    ((sendOne.drop 5).take 7) _ _ rfl rfl rfl rfl 0 (by decide)
  rcases h with ⟨e, he, -⟩ | ⟨hgone, honce⟩
  · exact absurd he (by decide +revert)
  · exact ⟨hgone, honce ⟨1, some 2⟩ 10 (by decide)⟩

/-! ### Rounds -/

theorem queueing_roundsAhead {s t : SenderState σ} {callback : Option UserCallback}
    {tick : UInt64} (h : Queueing s callback tick t) :
    t.roundsAhead + s.nextEntry ≤ s.roundsAhead + t.nextEntry := by
  rcases h with rfl | rfl | ⟨list, key, -, rfl⟩
  · exact Nat.le_refl _
  · exact Nat.add_le_add_right ((SameQueue.of_client (s := s) rfl).roundsAhead_le rfl rfl) _
  · have hentries : (queue s list callback tick).outbox.entries =
        s.outbox.entries ++ [⟨s.nextEntry, false, callback.isSome⟩] := by
      simp [SenderState.outbox, queue, entryView]
    have h := SenderState.roundsAhead_le (s := s) (t := queue s list callback tick) (k := 1)
      rfl rfl (fun c ↦ by rw [hentries]; exact Outbox.ahead_concat _ _ c) (by simp [queue])
    exact (Nat.add_le_add_right h _).trans (Nat.le_of_eq (by simp only [queue]; omega))

/-- Going on from an entry of the loop. -/
theorem ahead_flink {s : SenderState σ} (hs : Posted s) {e : EventHubEventList}
    (he : e ∈ s.client.outgoingEvents) :
    Outbox.ahead s.outbox.entries (s.flink e.number) <
      Outbox.ahead s.outbox.entries (some e.number) := by
  rw [← follow_outbox]
  exact Outbox.ahead_follow hs.inv.ordered.sorted (List.mem_map_of_mem (f := entryView) he)

/-- A callback inside the loop. -/
theorem confirm_roundsAhead {s : SenderState σ} {e : EventHubEventList}
    {cause : List SenderEvent} {r : EventHubClientConfirmationResult} {next : Option Nat} :
    (s.confirm e cause r (.loop next)).roundsAhead ≤ Outbox.ahead s.outbox.entries next + 1 := by
  unfold SenderState.confirm
  cases e.callback with
  | none => exact Nat.zero_le _
  | some callback => exact Nat.le_refl _

theorem iterate_roundsAhead {s : SenderState σ} {c : Option Nat} (hp : Posted s)
    (hs : s.control = .loop c) (env : BuildEnv) (currentTime : UInt64) (taken : Bool) :
    (iterate s c env currentTime taken).roundsAhead + 1 ≤ s.roundsAhead := by
  rw [roundsAhead_loop (s := s) (c := c) (by rw [hs]; rfl)]
  cases c with
  | none => exact Nat.le_refl _
  | some n =>
    cases hentry : s.entry? n with
    | none =>
      rw [iterate_gone env currentTime taken hentry]
      exact Nat.le_add_left _ _
    | some e =>
      obtain ⟨he, rfl⟩ := entry?_spec hentry
      have hless := ahead_flink hp he
      cases hstatus : e.currentStatus with
      | waitingForAck =>
        rw [iterate_acked env currentTime taken hentry hstatus]
        exact Nat.succ_le_succ hless
      | waitingToBeSent =>
        cases hbuild : buildMessage env e.eventDataList with
        | none =>
          rw [iterate_unbuildable env currentTime taken hentry hstatus hbuild]
          exact (Nat.succ_le_succ confirm_roundsAhead).trans (Nat.succ_le_succ hless)
        | some message =>
          rw [iterate_built env currentTime taken hentry hstatus hbuild]
          have hmarked : Outbox.ahead (s.waitForAck e.number).outbox.entries (s.flink e.number) =
              Outbox.ahead s.outbox.entries (s.flink e.number) := by
            rw [waitForAck_outbox]
            exact Outbox.ahead_mark _ _ _
          split_ifs
          · cases hcb : e.callback with
            | none =>
              simp only [expire, hcb]
              exact Nat.le_add_left _ _
            | some callback =>
              simp only [expire, hcb]
              refine (Nat.succ_le_succ (confirm_roundsAhead.trans ?_)).trans
                (Nat.succ_le_succ hless)
              exact Nat.succ_le_succ (Nat.le_of_eq hmarked)
          · exact (Nat.succ_le_succ (Nat.succ_le_succ (Nat.le_of_eq hmarked))).trans
              (Nat.succ_le_succ hless)

/-- Unlinking an entry at the same place. -/
theorem unlink_roundsAhead {s t : SenderState σ} {n : Nat}
    (hevents : t.client.outgoingEvents = (s.unlink n).client.outgoingEvents)
    (hpass : t.control.pass = s.control.pass) (hcall : t.control.call = s.control.call) :
    t.roundsAhead ≤ s.roundsAhead := by
  have hentries : t.outbox.entries = Outbox.unlink n s.outbox.entries := by
    have h := unlink_outbox s n
    simp only [SenderState.outbox, Outbox.mk.injEq] at h ⊢
    rw [hevents]
    exact h.1
  refine SenderState.roundsAhead_le (k := 0) hpass hcall (fun c ↦ ?_) ?_
  · rw [hentries]
    exact Outbox.ahead_unlink _ _ c
  · rw [hevents]
    exact List.length_filter_le _ _

theorem onMessageSendComplete_roundsAhead {s : SenderState σ} {call : UamqpCall}
    (hs : s.control = .uamqp call) (n : Nat) (r : MessageSendResult) :
    (onMessageSendComplete s n r call).roundsAhead ≤ s.roundsAhead := by
  cases hentry : s.entry? n with
  | none =>
    simp only [onMessageSendComplete, hentry]
    exact Nat.zero_le _
  | some e =>
    obtain ⟨-, rfl⟩ := entry?_spec hentry
    cases hcb : e.callback with
    | none =>
      simp only [onMessageSendComplete, hentry, hcb]
      exact unlink_roundsAhead (n := e.number) rfl rfl rfl
    | some callback =>
      simp only [onMessageSendComplete, hentry, hcb, SenderState.confirm]
      exact SenderState.roundsAhead_le (k := 0) (by rw [hs]; rfl) (by rw [hs]; rfl)
        (fun c ↦ Nat.le_refl _) (Nat.le_refl _)

theorem uamqpReturn_roundsAhead {s : SenderState σ} {call : UamqpCall}
    (hs : s.control = .uamqp call) (ok : Bool) :
    (uamqpReturn s ok call).roundsAhead ≤ s.roundsAhead := by
  cases call with
  | messagesenderOpen =>
    have hopen : s.roundsAhead = s.client.outgoingEvents.length + 1 := by
      simp [roundsAhead, hs, SenderControl.pass, SenderControl.call, UamqpCall.saved]
    cases ok with
    | true =>
      rw [hopen]
      refine (Nat.le_of_eq (roundsAhead_loop rfl)).trans (Nat.succ_le_succ ?_)
      refine (Outbox.ahead_le_length _ _).trans (Nat.le_of_eq ?_)
      simp [SenderState.outbox, uamqpReturn, startLoop]
    | false => exact Nat.zero_le _
  | connectionDowork => exact Nat.zero_le _
  | messagesenderDestroy after =>
    have hzero : (uamqpReturn s ok (.messagesenderDestroy after)).roundsAhead = 0 := by
      refine roundsAhead_eq_zero (afterDestroyUamqpStack_outside _ after).pass ?_
      rcases afterDestroyUamqpStack_control (finishDestroyUamqpStack s) after with h | h | ⟨-, h⟩
      · simp [uamqpReturn, h, SenderControl.call]
      · simp [uamqpReturn, h, SenderControl.call]
      · simp [uamqpReturn, h, SenderControl.call]
    exact hzero ▸ Nat.zero_le _
  | messagesenderSendAsync n next taken =>
    have hahead : s.roundsAhead = Outbox.ahead s.outbox.entries next + 1 :=
      roundsAhead_loop (by rw [hs]; rfl)
    cases taken with
    | true => exact hahead ▸ Nat.le_refl _
    | false =>
      cases hentry : s.entry? n with
      | none =>
        simp only [uamqpReturn, hentry]
        exact Nat.zero_le _
      | some e =>
        simp only [uamqpReturn, hentry, if_neg (show ¬false = true by simp)]
        exact hahead ▸ confirm_roundsAhead

theorem confirmReturn_roundsAhead {s : SenderState σ} {n : Nat} {after : AfterConfirm}
    (hs : s.control = .confirming n after) :
    (confirmReturn s n after).roundsAhead ≤ s.roundsAhead := by
  cases after with
  | uamqp call => exact unlink_roundsAhead (n := n) rfl (by rw [hs]; rfl) (by rw [hs]; rfl)
  | loop next => exact unlink_roundsAhead (n := n) rfl (by rw [hs]; rfl) (by rw [hs]; rfl)
  | draining => exact Nat.zero_le _

/-- Tearing down leaves no rounds. -/
theorem destroyUamqpStack_roundsAhead (s : SenderState σ) (after : AfterDestroy) :
    (destroyUamqpStack s after).roundsAhead = 0 := by
  refine roundsAhead_eq_zero (destroyUamqpStack_outside s after).pass ?_
  rcases destroyUamqpStack_control s after with h | h | h | ⟨-, h⟩ <;>
    simp [h, SenderControl.call]

theorem drain_roundsAhead (s : SenderState σ) (hs : s.control = .draining) :
    (drain s).roundsAhead = 0 := by
  cases hevents : s.client.outgoingEvents with
  | nil => simp [drain, hevents, roundsAhead, SenderControl.pass, SenderControl.call]
  | cons e rest =>
    cases hcb : e.callback <;>
      simp [drain, hevents, hcb, SenderState.confirm, SenderState.emit, roundsAhead,
        SenderControl.pass, SenderControl.call, hs]

theorem errorReturn_roundsAhead {s : SenderState σ} {after : AfterErrorCb}
    (hs : s.control = .errorCb after) : (errorReturn s after).roundsAhead ≤ s.roundsAhead := by
  cases after with
  | uamqp call =>
    have hsame : SameQueue s (errorReturn s (.uamqp call)) := .of_client rfl
    exact hsame.roundsAhead_le (by rw [hs]; rfl) (by rw [hs]; rfl)
  | tearDown => exact (destroyUamqpStack_roundsAhead s .return).trans_le (Nat.zero_le _)
  | done => exact Nat.zero_le _

/-- While the same call to uAMQP is under way the loop stays where it is. -/
theorem sameCall_roundsAhead {s t : SenderState σ} {call : UamqpCall} (h : SameQueue s t)
    (hs : s.control.call = some call) (ht : t.control.call = some call)
    (hquiet : s.control.notifying = none) (hquiet' : t.control.notifying = none) :
    t.roundsAhead ≤ s.roundsAhead :=
  h.roundsAhead_le (congrArg Outbox.pass (sameCall_outbox h hs ht hquiet hquiet'))
    (ht.trans hs.symm)

/-- A step other than a call of `EventHubClient_LL_DoWork` adds a round for each entry that it
queues. -/
theorem step_roundsAhead {s t : SenderState σ} {i : SenderInput ι} (hp : Posted s)
    (h : step auth s i = some t) (hi : ∀ env, i ≠ .doWork env) :
    t.roundsAhead + s.nextEntry ≤ s.roundsAhead + t.nextEntry := by
  have hnext := (step_continues auth h).next
  cases step_move auth h with
  | sendAsync event callback context env _ =>
    exact queueing_roundsAhead (sendAsync_cases s event callback context env)
  | sendBatchAsync list callback context env _ =>
    exact queueing_roundsAhead (sendBatchAsync_cases s list callback context env)
  | setField hf _ => exact Nat.add_le_add ((setField_sameQueue s hf).roundsAhead_le rfl rfl) hnext
  | refreshSASTokenAsync token env _ =>
    have hcontrol : (refreshSASTokenAsync s token env).2.control = s.control := by
      rcases refreshSASTokenAsync_cases s token env with h | ⟨text, -, -, -, -, h⟩ <;> rw [h]
    exact Nat.add_le_add ((refreshSASTokenAsync_sameQueue s token env).roundsAhead_le
      (by rw [hcontrol]) (by rw [hcontrol])) hnext
  | doWork env _ _ => exact absurd rfl (hi env)
  | destroy _ _ =>
    exact Nat.add_le_add ((destroyUamqpStack_roundsAhead _ _).trans_le (Nat.zero_le _)) hnext
  | iterate env currentTime taken hloop =>
    exact Nat.add_le_add
      (Nat.le_of_succ_le (iterate_roundsAhead hp hloop env currentTime taken)) hnext
  | onMessageSendComplete r hcall _ =>
    exact Nat.add_le_add (onMessageSendComplete_roundsAhead hcall _ r) hnext
  | onMessageSenderStateChanged newState previousState hcall _ =>
    obtain ⟨hqueue, hsame, hquiet⟩ :=
      onMessageSenderStateChanged_spec hcall newState previousState
    exact Nat.add_le_add (sameCall_roundsAhead hqueue (by rw [hcall]; rfl) hsame
      (by rw [hcall]; rfl) hquiet) hnext
  | @onCBSPutTokenOperationComplete a r env _ _ _ =>
    exact Nat.add_le_add ((onCBSPutTokenOperationComplete_sameQueue auth s a r env).roundsAhead_le
      rfl rfl) hnext
  | uamqpReturn ok hcall => exact Nat.add_le_add (uamqpReturn_roundsAhead hcall ok) hnext
  | confirmReturn hconfirm => exact Nat.add_le_add (confirmReturn_roundsAhead hconfirm) hnext
  | @stateChangeReturn newState call hchange =>
    obtain ⟨hqueue, hsame, hquiet⟩ := afterStateChange_spec s newState call
    exact Nat.add_le_add (sameCall_roundsAhead hqueue (by rw [hchange]; rfl) hsame
      (by rw [hchange]; rfl) hquiet) hnext
  | errorReturn herror => exact Nat.add_le_add (errorReturn_roundsAhead herror) hnext
  | drain hdraining =>
    exact Nat.add_le_add ((drain_roundsAhead s hdraining).trans_le (Nat.zero_le _)) hnext

/-- A round of the loop uses up one of the rounds ahead. -/
theorem step_isRound {s t : SenderState σ} {i : SenderInput ι} (hp : Posted s)
    (h : step auth s i = some t) (hi : i.isRound = true) :
    t.roundsAhead + 1 + s.nextEntry ≤ s.roundsAhead + t.nextEntry := by
  have hnext := (step_continues auth h).next
  cases i with
  | iterate env currentTime taken =>
    cases hc : s.control <;> simp only [step, hc, reduceCtorEq, Option.some.injEq] at h
    subst h
    exact Nat.add_le_add (iterate_roundsAhead hp hc env currentTime taken) hnext
  | _ => cases hi

/-- The rounds of a run are among the rounds ahead and those of the entries that it queues. -/
theorem run_roundsAhead {s t : SenderState σ} (hs : Kempt s) {js : List (SenderInput ι)}
    (h : (senderMachine auth).run s js = some t) (hjs : ∀ env, SenderInput.doWork env ∉ js) :
    t.roundsAhead + js.countP SenderInput.isRound + s.nextEntry ≤
      s.roundsAhead + t.nextEntry := by
  induction js generalizing s with
  | nil =>
    obtain rfl : s = t := Option.some.inj h
    exact Nat.le_refl _
  | cons i js ih =>
    rw [Machine.run_cons] at h
    obtain ⟨u, hu, hut⟩ := Option.bind_eq_some_iff.mp h
    have hrest := ih (step_kempt auth hs hu) hut fun env hmem ↦
      hjs env (List.mem_cons_of_mem i hmem)
    have hother := step_roundsAhead auth hs.toPosted hu fun env heq ↦
      hjs env (heq ▸ List.mem_cons_self)
    rw [List.countP_cons]
    cases hround : i.isRound with
    | true =>
      have hround' := step_isRound auth hs.toPosted hu hround
      rw [if_pos rfl]
      omega
    | false =>
      rw [if_neg (by simp)]
      omega

theorem doWork_roundsAhead {s : SenderState σ} (env : DoWorkEnv ι) :
    (doWork auth s env).roundsAhead ≤ s.client.outgoingEvents.length + 1 := by
  obtain ⟨hqueue, hstart⟩ := doWork_spec auth s env
  have hlength : (doWork auth s env).outbox.entries.length = s.client.outgoingEvents.length := by
    simp [SenderState.outbox, hqueue.outgoingEvents]
  rcases hstart.place with houtside | hloop
  · unfold roundsAhead
    rw [houtside.pass, hqueue.outgoingEvents]
    dsimp only
    split_ifs
    · exact Nat.le_refl _
    · exact Nat.zero_le _
  · rw [roundsAhead_loop (by rw [hloop]; rfl), ← hlength]
    exact Nat.succ_le_succ (Outbox.ahead_le_length _ _)

/-- A call of `EventHubClient_LL_DoWork` makes at most one round of its loop for each entry that
was queued before it or is queued while it runs, and one to find that none follows. -/
theorem run_bounds_rounds {c : EventHubClientLL σ} (hc : Created c)
    {is js : List (SenderInput ι)} {s t : SenderState σ} {env : DoWorkEnv ι}
    (hs : (senderMachine auth).run { client := c } is = some s)
    (ht : (senderMachine auth).run s (.doWork env :: js) = some t)
    (hjs : ∀ env, SenderInput.doWork env ∉ js) :
    js.countP SenderInput.isRound ≤
      s.client.outgoingEvents.length + (t.nextEntry - s.nextEntry) + 1 := by
  have hkempt := run_kempt auth (created_kempt hc) hs
  rw [Machine.run_cons] at ht
  obtain ⟨u, hu, hut⟩ := Option.bind_eq_some_iff.mp ht
  have hstep : step auth s (.doWork env) = some u := hu
  have hrun := run_roundsAhead auth (step_kempt auth hkempt hstep) hut hjs
  obtain ⟨-, hdo⟩ := Option.ite_none_right_eq_some.mp hstep
  obtain rfl : doWork auth s env = u := Option.some.inj hdo
  have hnext : (doWork auth s env).nextEntry = s.nextEntry := (doWork_spec auth s env).1.nextEntry
  have hahead := doWork_roundsAhead auth (s := s) env
  omega

/-- The rounds of the call that sends a message. -/
theorem run_bounds_rounds_sendOne :
    ∃ s t, (senderMachine (EventHubAuthCBS.authModule fun _ ↦ none)).run
        { client := createdFromConnectionString "name" "key" "host" "hub" "target" }
        (sendOne.take 5) = some s ∧
      (senderMachine (EventHubAuthCBS.authModule fun _ ↦ none)).run s
        ((sendOne.drop 5).take 9) = some t ∧
      ((sendOne.drop 6).take 8).countP SenderInput.isRound ≤
        s.client.outgoingEvents.length + (t.nextEntry - s.nextEntry) + 1 := by
  refine ⟨_, _, rfl, rfl, ?_⟩
  exact @run_bounds_rounds _ _ (EventHubAuthCBS.authModule fun _ ↦ none) _
    (.fromConnectionString "name" "key" "host" "hub" "target") (sendOne.take 5)
    ((sendOne.drop 6).take 8) _ _ (doWorkAt 103) rfl rfl (by simp [sendOne])

end EventHubClientLL

end EventHubs
