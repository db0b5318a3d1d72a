import EventHubs.Sender.Refinement

/-!
# What the log of a sender records

Every entry of `outgoingEvents` stands in the log as accepted, with its callback and the tick at
which it was queued, and every confirmation and every time-out goes back to an entry. The entries
that the loop, uAMQP and the callbacks of uAMQP refer to are there, so that a sender whose entries
all have callbacks does nothing undefined.

## Main definitions

* `SenderState.Continues` — what one step does to the entries and to the log.
* `EventHubClientLL.Recorded`, `EventHubClientLL.Timed`, `EventHubClientLL.Kempt`.
* `EventHubClientLL.sparesNull` — a step calls no callback that is NULL.

## Main results

* `EventHubClientLL.run_kempt`, `EventHubClientLL.run_timed`, `EventHubClientLL.run_extends`.
-/

namespace EventHubs

open Relation

/-- The callback that a send call is given. -/
def SenderInput.sends {ι : Type} : SenderInput ι → Option (Option UserCallback)
  | .sendAsync _ callback context _ => some (callback.map (⟨·, context⟩))
  | .sendBatchAsync _ callback context _ => some (callback.map (⟨·, context⟩))
  | _ => none

namespace SenderState

variable {σ : Type}

/-- A hand-over, a confirmation and a time-out that a step shows belong to an entry listed before
it. -/
def Founded (s t : SenderState σ) : SenderEvent → Prop
  | .confirmed n callback r =>
    (r ≠ .exceedMaxSize ∧ r ≠ .unknown) ∧
      ∃ e ∈ s.client.outgoingEvents, e.number = n ∧ e.callback = some callback
  | .overdue n idleTimer currentTime msgTimeout =>
    (∃ e ∈ s.client.outgoingEvents, e.number = n ∧ e.idleTimer = idleTimer) ∧
      currentTime = t.lastTick ∧ 0 < msgTimeout ∧ msgTimeout < (currentTime - idleTimer) / 1000
  | .handedOver n message _ =>
    ∃ e ∈ s.client.outgoingEvents, e.number = n ∧ ∃ env, buildMessage env e.eventDataList =
      some message
  | _ => True

/-- An entry is listed that differs at most in its status. -/
def Holds (s : SenderState σ) (e : EventHubEventList) : Prop :=
  ∃ a ∈ s.client.outgoingEvents, a.number = e.number ∧ a.callback = e.callback ∧
    a.idleTimer = e.idleTimer ∧ a.eventDataList = e.eventDataList

/-- An entry listed after a step was listed before it or has just been accepted. -/
def Kept (s t : SenderState σ) (e : EventHubEventList) : Prop :=
  s.Holds e ∨
  (SenderEvent.accepted e.number e.callback e.idleTimer ∈ t.log ∧ e.idleTimer = t.lastTick) ∧
    e.number = s.nextEntry ∧ ∃ key, EventHubClientLL.SharesKey key e.eventDataList

/-- The entries stay and no clone is freed, or one entry goes and its clones are freed. -/
def Releases (s t : SenderState σ) : Prop :=
  (t.freed = s.freed ∧ ∀ e ∈ s.client.outgoingEvents, t.Holds e) ∨
  ∃ e ∈ s.client.outgoingEvents, t.freed = s.freed ++ e.clones ∧
    (∀ a ∈ s.client.outgoingEvents, a.number ≠ e.number → a ∈ t.client.outgoingEvents) ∧
    t.client.outgoingEvents.Sublist (s.client.outgoingEvents.erase e)

/-- What one step does to the entries, to their clones and to the log. -/
structure Continues (s t : SenderState σ) : Prop where
  log : ∃ events, t.log = s.log ++ events ∧ ∀ e ∈ events, Founded s t e
  entries : ∀ e ∈ t.client.outgoingEvents, Kept s t e
  next : s.nextEntry ≤ t.nextEntry
  releases : Releases s t

/-- What a step does that accepts no entry. -/
structure Stays (s t : SenderState σ) : Prop where
  log : ∃ events, t.log = s.log ++ events ∧ ∀ e ∈ events, Founded s t e
  entries : ∀ e ∈ t.client.outgoingEvents, s.Holds e
  next : t.nextEntry = s.nextEntry
  releases : Releases s t

theorem Holds.of_mem {s : SenderState σ} {e : EventHubEventList}
    (h : e ∈ s.client.outgoingEvents) : s.Holds e := ⟨e, h, rfl, rfl, rfl, rfl⟩

theorem Kept.of_mem {s t : SenderState σ} {e : EventHubEventList}
    (h : e ∈ s.client.outgoingEvents) : Kept s t e := Or.inl (.of_mem h)

theorem founded_of_eventView {s t : SenderState σ} {e : SenderEvent} (h : eventView e = []) :
    Founded s t e := by
  cases e <;> first | exact trivial | cases h

theorem founded_of_traceView {s t : SenderState σ} {events : List SenderEvent}
    (h : traceView events = []) : ∀ e ∈ events, Founded s t e := fun e he ↦
  founded_of_eventView (List.flatMap_eq_nil_iff.mp h e he)

namespace Stays

theorem continues {s t : SenderState σ} (h : Stays s t) : Continues s t :=
  ⟨h.log, fun e he ↦ Or.inl (h.entries e he), h.next.ge, h.releases⟩

theorem of_sameQueue {s t : SenderState σ} (h : SameQueue s t) : Stays s t := by
  obtain ⟨events, hlog, hquiet⟩ := h.log
  exact ⟨⟨events, hlog, founded_of_traceView hquiet⟩, fun e he ↦ .of_mem (h.outgoingEvents ▸ he),
    h.nextEntry, Or.inl ⟨h.freed, fun e he ↦ .of_mem (h.outgoingEvents ▸ he)⟩⟩

theorem of_subset {s t : SenderState σ} {events : List SenderEvent} (hlog : t.log = s.log ++ events)
    (hevents : ∀ e ∈ events, Founded s t e)
    (h : ∀ e ∈ t.client.outgoingEvents, e ∈ s.client.outgoingEvents)
    (hnext : t.nextEntry = s.nextEntry) (hreleases : Releases s t) : Stays s t :=
  ⟨⟨events, hlog, hevents⟩, fun e he ↦ .of_mem (h e he), hnext, hreleases⟩

end Stays

theorem mem_of_mem_unlink {s : SenderState σ} {n : Nat} {e : EventHubEventList}
    (h : e ∈ (s.unlink n).client.outgoingEvents) : e ∈ s.client.outgoingEvents :=
  List.mem_of_mem_filter h

theorem filter_sublist_erase {α : Type} [DecidableEq α] {p : α → Bool} {a : α} (ha : p a = false)
    (l : List α) : (l.filter p).Sublist (l.erase a) := by
  induction l with
  | nil => exact .slnil
  | cons b l ih =>
    by_cases hb : b = a
    · subst hb
      rw [List.erase_cons_head, List.filter_cons_of_neg (by simp [ha])]
      exact List.filter_sublist
    · rw [List.erase_cons_tail (by simpa using hb), List.filter_cons]
      split_ifs
      · exact ih.cons_cons b
      · exact ih.cons b

theorem Releases.of_keep {s t : SenderState σ} (hfreed : t.freed = s.freed)
    (h : ∀ e ∈ s.client.outgoingEvents, e ∈ t.client.outgoingEvents) : Releases s t :=
  Or.inl ⟨hfreed, fun e he ↦ .of_mem (h e he)⟩

theorem unlink_releases (s : SenderState σ) (n : Nat) : Releases s (s.unlink n) := by
  have hmem : ∀ a ∈ s.client.outgoingEvents, a.number ≠ n →
      a ∈ (s.unlink n).client.outgoingEvents := fun a ha hne ↦
    List.mem_filter.mpr ⟨ha, by simpa using hne⟩
  cases hentry : s.entry? n with
  | none =>
    refine .of_keep ?_ fun a ha ↦ hmem a ha ?_
    · simp [unlink, hentry]
    · simpa using List.find?_eq_none.mp hentry a ha
  | some e =>
    have he := List.mem_of_find?_eq_some hentry
    have hnumber : e.number = n := by simpa using List.find?_some hentry
    refine Or.inr ⟨e, he, by simp [unlink, hentry], fun a ha hne ↦ hmem a ha (hnumber ▸ hne), ?_⟩
    exact filter_sublist_erase (by simp [hnumber]) _

/-- Calling the confirmation callback of a listed entry. -/
theorem confirm_stays {s t : SenderState σ} {e : EventHubEventList} {cause : List SenderEvent}
    {r : EventHubClientConfirmationResult} {after : AfterConfirm}
    (he : e ∈ s.client.outgoingEvents) (hr : r ≠ .exceedMaxSize ∧ r ≠ .unknown)
    (hlog : t.log = s.log)
    (hcause : ∀ a ∈ cause, Founded s (t.confirm e cause r after) a)
    (hentries : ∀ a ∈ t.client.outgoingEvents, s.Holds a) (hnext : t.nextEntry = s.nextEntry)
    (hreleases : Releases s t) : Stays s (t.confirm e cause r after) := by
  cases hcb : e.callback with
  | none =>
    simp only [SenderState.confirm, hcb] at hcause ⊢
    exact ⟨⟨[], by simpa using hlog, by simp⟩, hentries, hnext, hreleases⟩
  | some callback =>
    simp only [SenderState.confirm, hcb] at hcause ⊢
    refine ⟨⟨_, by rw [hlog], fun a ha ↦ ?_⟩, hentries, hnext, hreleases⟩
    rcases List.mem_append.mp ha with ha | ha
    · exact hcause a ha
    · obtain rfl := List.mem_singleton.mp ha
      exact ⟨hr, e, he, rfl, hcb⟩

end SenderState

namespace EventHubClientLL

variable {σ ι : Type} (auth : AuthModule σ ι)

open SenderState

theorem queueing_continues {s t : SenderState σ} {callback : Option UserCallback} {tick : UInt64}
    (h : Queueing s callback tick t) :
    Continues s t := by
  rcases h with rfl | rfl | ⟨list, key, hkey, rfl⟩
  · exact Stays.continues (.of_sameQueue (.refl _))
  · exact Stays.continues (.of_subset (List.append_nil _).symm (by simp) (fun e he ↦ he) rfl
      (.of_keep rfl fun e he ↦ he))
  · refine ⟨⟨_, rfl, by simp [Founded]⟩, fun e he ↦ ?_, Nat.le_succ _,
      .of_keep rfl fun e he ↦ List.mem_append_left _ he⟩
    rcases List.mem_append.mp he with he | he
    · exact .of_mem he
    · obtain rfl := List.mem_singleton.mp he
      exact Or.inr ⟨⟨by simp [queue], rfl⟩, rfl, key, hkey⟩

theorem hasTimeout_iff {c : EventHubClientLL σ} {e : EventHubEventList} {currentTime : UInt64} :
    hasTimeout c e currentTime = true ↔
      0 < c.msgTimeout ∧ c.msgTimeout < (currentTime - e.idleTimer) / 1000 := by
  simp [hasTimeout]

theorem waitForAck_entries (s : SenderState σ) (n : Nat) :
    ∀ a ∈ (s.waitForAck n).client.outgoingEvents, s.Holds a := by
  intro a ha
  obtain ⟨b, hb, rfl⟩ := List.mem_map.mp ha
  refine ⟨b, hb, ?_⟩
  split_ifs <;> exact ⟨rfl, rfl, rfl, rfl⟩

theorem waitForAck_releases (s : SenderState σ) (n : Nat) : Releases s (s.waitForAck n) := by
  refine Or.inl ⟨rfl, fun e he ↦ ⟨_, List.mem_map_of_mem he, ?_⟩⟩
  split_ifs <;> exact ⟨rfl, rfl, rfl, rfl⟩

theorem iterate_stays (s : SenderState σ) (c : Option Nat) (env : BuildEnv)
    (currentTime : UInt64) (taken : Bool) : Stays s (iterate s c env currentTime taken) := by
  cases c with
  | none =>
    have h := SameQueue.pass s .connectionDowork .connection
    exact .of_sameQueue (t := connectionDowork s) ⟨h.1, h.2, h.3, h.4, h.5, h.6, h.7⟩
  | some n =>
    cases hentry : s.entry? n with
    | none =>
      rw [iterate_gone env currentTime taken hentry]
      exact .of_sameQueue (.of_client rfl)
    | some e =>
      obtain ⟨he, rfl⟩ := entry?_spec hentry
      cases hstatus : e.currentStatus with
      | waitingForAck =>
        rw [iterate_acked env currentTime taken hentry hstatus]
        exact .of_sameQueue (.of_client rfl)
      | waitingToBeSent =>
        cases hbuild : buildMessage env e.eventDataList with
        | none =>
          rw [iterate_unbuildable env currentTime taken hentry hstatus hbuild]
          exact confirm_stays he (by simp) rfl (by simp [Founded]) (fun a ha ↦ .of_mem ha) rfl
            (.of_keep rfl fun a ha ↦ ha)
        | some message =>
          rw [iterate_built env currentTime taken hentry hstatus hbuild]
          split_ifs with htimeout
          · cases hcb : e.callback with
            | none =>
              simp only [expire, hcb]
              exact .of_subset (List.append_nil _).symm (by simp) (fun a ha ↦ ha) rfl
                (.of_keep rfl fun a ha ↦ ha)
            | some callback =>
              simp only [expire, hcb]
              refine confirm_stays he (by simp) rfl ?_ (waitForAck_entries s e.number) rfl
                (waitForAck_releases s e.number)
              simp only [List.mem_singleton, forall_eq]
              refine ⟨⟨e, he, rfl, rfl⟩, ?_, hasTimeout_iff.mp htimeout⟩
              simp [SenderState.confirm, hcb, SenderState.waitForAck]
          · refine ⟨⟨_, List.append_assoc .., fun a ha ↦ ?_⟩,
              waitForAck_entries s e.number, rfl, waitForAck_releases s e.number⟩
            rcases List.mem_cons.mp ha with rfl | ha
            · exact True.intro
            · obtain rfl := List.mem_singleton.mp ha
              exact ⟨e, he, rfl, env, hbuild⟩

theorem onMessageSendComplete_stays (s : SenderState σ) (n : Nat) (r : MessageSendResult)
    (call : UamqpCall) : Stays s (onMessageSendComplete s n r call) := by
  cases hentry : s.entry? n with
  | none =>
    simp only [onMessageSendComplete, hentry]
    exact .of_sameQueue (.of_client rfl)
  | some e =>
    obtain ⟨he, rfl⟩ := entry?_spec hentry
    cases hcb : e.callback with
    | none =>
      simp only [onMessageSendComplete, hentry, hcb]
      exact .of_subset (List.append_assoc ..) (by simp [Founded]) (fun a ha ↦ mem_of_mem_unlink ha)
        rfl (unlink_releases s e.number)
    | some callback =>
      simp only [onMessageSendComplete, hentry, hcb]
      exact confirm_stays he (by cases r <;> simp [confirmationOf]) rfl (by simp [Founded])
        (fun a ha ↦ .of_mem ha) rfl (.of_keep rfl fun a ha ↦ ha)

theorem uamqpReturn_stays (s : SenderState σ) (ok : Bool) (call : UamqpCall) :
    Stays s (uamqpReturn s ok call) := by
  cases call with
  | messagesenderOpen => cases ok <;> exact .of_sameQueue (.of_client rfl)
  | connectionDowork => exact .of_sameQueue (.of_client rfl)
  | messagesenderDestroy after =>
    exact .of_sameQueue ((finishDestroyUamqpStack_sameQueue s).trans
      (afterDestroyUamqpStack_sameQueue _ after))
  | messagesenderSendAsync n next taken =>
    cases taken with
    | true => exact .of_sameQueue (.of_client rfl)
    | false =>
      cases hentry : s.entry? n with
      | none =>
        simp only [uamqpReturn, hentry]
        exact .of_sameQueue (.of_client rfl)
      | some e =>
        simp only [uamqpReturn, hentry, if_neg (show ¬false = true by simp)]
        exact confirm_stays (entry?_spec hentry).1 (by simp) rfl (by simp)
          (fun a ha ↦ .of_mem ha) rfl (.of_keep rfl fun a ha ↦ ha)

theorem confirmReturn_stays (s : SenderState σ) (n : Nat) (after : AfterConfirm) :
    Stays s (confirmReturn s n after) := by
  cases after with
  | uamqp call =>
    exact .of_subset rfl (by simp [Founded]) (fun a ha ↦ mem_of_mem_unlink ha) rfl
      (unlink_releases s n)
  | loop next =>
    exact .of_subset rfl (by simp [Founded]) (fun a ha ↦ mem_of_mem_unlink ha) rfl
      (unlink_releases s n)
  | draining => exact .of_sameQueue (.of_client rfl)

theorem destroy_stays (s : SenderState σ) : Stays s (destroy s) := by
  have h := destroyUamqpStack_sameQueue
    { s with destroying := true, log := s.log ++ [.destroying] } .destroy
  obtain ⟨events, hlog, hquiet⟩ := h.log
  refine .of_subset (hlog.trans (List.append_assoc ..)) (fun a ha ↦ ?_)
    (fun a ha ↦ h.outgoingEvents ▸ ha) h.nextEntry
      (.of_keep h.freed fun a ha ↦ h.outgoingEvents ▸ ha)
  rcases List.mem_cons.mp ha with rfl | ha
  · exact trivial
  · exact founded_of_traceView hquiet a ha

theorem drain_stays (s : SenderState σ) : Stays s (drain s) := by
  cases hevents : s.client.outgoingEvents with
  | nil =>
    simp only [drain, hevents]
    exact .of_sameQueue (.of_client rfl)
  | cons e rest =>
    have hrest : ∀ a ∈ rest, a ∈ s.client.outgoingEvents := fun a ha ↦ by
      rw [hevents]
      exact List.mem_cons_of_mem e ha
    have he : e ∈ s.client.outgoingEvents := by rw [hevents]; exact List.mem_cons_self
    have hreleases : Releases s { s with
        client := { s.client with outgoingEvents := rest }
        inFlight := s.inFlight.erase e.number
        freed := s.freed ++ e.clones } := by
      refine Or.inr ⟨e, he, rfl, fun a ha hne ↦ ?_, by rw [hevents, List.erase_cons_head]⟩
      rw [hevents] at ha
      exact (List.mem_cons.mp ha).resolve_left fun heq ↦ hne (heq ▸ rfl)
    cases hcb : e.callback with
    | none =>
      simp only [drain, hevents, hcb]
      exact .of_subset rfl (by simp [Founded]) hrest rfl hreleases
    | some callback =>
      simp only [drain, hevents, hcb]
      exact confirm_stays he (by simp) rfl (by simp [Founded])
        (fun a ha ↦ .of_mem (hrest a ha)) rfl hreleases

/-- A step that is not a successful send accepts no entry. -/
theorem step_stays {s t : SenderState σ} {i : SenderInput ι} (h : step auth s i = some t) :
    (∃ callback tick, i.sends = some callback ∧ Queueing s callback tick t) ∨ Stays s t := by
  cases step_move auth h with
  | sendAsync event callback context env _ =>
    exact Or.inl ⟨_, _, rfl, sendAsync_cases s event callback context env⟩
  | sendBatchAsync list callback context env _ =>
    exact Or.inl ⟨_, _, rfl, sendBatchAsync_cases s list callback context env⟩
  | setField hf _ => exact Or.inr (.of_sameQueue (setField_sameQueue s hf))
  | refreshSASTokenAsync token env _ =>
    exact Or.inr (.of_sameQueue (refreshSASTokenAsync_sameQueue s token env))
  | doWork env _ _ => exact Or.inr (.of_sameQueue (doWork_spec auth s env).1)
  | destroy _ _ => exact Or.inr (destroy_stays s)
  | iterate env currentTime taken _ => exact Or.inr (iterate_stays s _ env currentTime taken)
  | onMessageSendComplete r _ _ => exact Or.inr (onMessageSendComplete_stays s _ r _)
  | onMessageSenderStateChanged newState previousState hcall _ =>
    exact Or.inr (.of_sameQueue (onMessageSenderStateChanged_spec hcall newState previousState).1)
  | @onCBSPutTokenOperationComplete a r env _ _ _ =>
    exact Or.inr (.of_sameQueue (onCBSPutTokenOperationComplete_sameQueue auth s a r env))
  | uamqpReturn ok _ => exact Or.inr (uamqpReturn_stays s ok _)
  | confirmReturn _ => exact Or.inr (confirmReturn_stays s _ _)
  | stateChangeReturn _ => exact Or.inr (.of_sameQueue (afterStateChange_spec s _ _).1)
  | @errorReturn after _ =>
    cases after with
    | uamqp call => exact Or.inr (.of_sameQueue (.of_client rfl))
    | tearDown => exact Or.inr (.of_sameQueue (destroyUamqpStack_sameQueue s _))
    | done => exact Or.inr (.of_sameQueue (.of_client rfl))
  | drain _ => exact Or.inr (drain_stays s)

theorem step_continues {s t : SenderState σ} {i : SenderInput ι} (h : step auth s i = some t) :
    Continues s t := by
  rcases step_stays auth h with ⟨callback, tick, -, hqueueing⟩ | hstays
  · exact queueing_continues hqueueing
  · exact hstays.continues

/-! ### Invariants of the record -/

/-- Every listed entry, every confirmation and every time-out goes back to an accepted entry. -/
structure Recorded (s : SenderState σ) : Prop where
  entries : ∀ e ∈ s.client.outgoingEvents,
    SenderEvent.accepted e.number e.callback e.idleTimer ∈ s.log
  confirmed : ∀ n callback r, SenderEvent.confirmed n callback r ∈ s.log →
    (r ≠ .exceedMaxSize ∧ r ≠ .unknown) ∧
      ∃ idleTimer, SenderEvent.accepted n (some callback) idleTimer ∈ s.log
  overdue : ∀ n idleTimer currentTime msgTimeout,
    SenderEvent.overdue n idleTimer currentTime msgTimeout ∈ s.log →
      (∃ callback, SenderEvent.accepted n callback idleTimer ∈ s.log) ∧
      0 < msgTimeout ∧ msgTimeout < (currentTime - idleTimer) / 1000

theorem Recorded.continues {s t : SenderState σ} (hs : Recorded s) (h : Continues s t) :
    Recorded t := by
  obtain ⟨events, hlog, hfounded⟩ := h.log
  have hold : ∀ {e}, e ∈ s.log → e ∈ t.log := fun he ↦ hlog ▸ List.mem_append_left _ he
  have hsplit : ∀ {e}, e ∈ t.log → e ∈ s.log ∨ Founded s t e := fun {e} he ↦ by
    rcases List.mem_append.mp (hlog ▸ he) with he | he
    · exact Or.inl he
    · exact Or.inr (hfounded e he)
  refine ⟨fun e he ↦ ?_, fun n callback r h ↦ ?_, fun n idleTimer currentTime msgTimeout h ↦ ?_⟩
  · rcases h.entries e he with ⟨a, ha, hnumber, hcallback, hidle, -⟩ | hnew
    · rw [← hnumber, ← hcallback, ← hidle]
      exact hold (hs.entries a ha)
    · exact hnew.1.1
  · rcases hsplit h with h | ⟨hr, e, he, rfl, hcb⟩
    · obtain ⟨hr, idleTimer, h⟩ := hs.confirmed n callback r h
      exact ⟨hr, idleTimer, hold h⟩
    · exact ⟨hr, e.idleTimer, hcb ▸ hold (hs.entries e he)⟩
  · rcases hsplit h with h | ⟨⟨e, he, rfl, rfl⟩, -, hlimit⟩
    · obtain ⟨⟨callback, h⟩, hlimit⟩ := hs.overdue n idleTimer currentTime msgTimeout h
      exact ⟨⟨callback, hold h⟩, hlimit⟩
    · exact ⟨⟨e.callback, hold (hs.entries e he)⟩, hlimit⟩

/-- No tick that was read is later than the last one. -/
structure Timed (s : SenderState σ) : Prop where
  entries : ∀ e ∈ s.client.outgoingEvents, e.idleTimer ≤ s.lastTick
  overdue : ∀ n idleTimer currentTime msgTimeout,
    SenderEvent.overdue n idleTimer currentTime msgTimeout ∈ s.log → idleTimer ≤ currentTime

theorem Timed.continues {s t : SenderState σ} (hs : Timed s) (h : Continues s t)
    (htick : s.lastTick ≤ t.lastTick) : Timed t := by
  obtain ⟨events, hlog, hfounded⟩ := h.log
  refine ⟨fun e he ↦ ?_, fun n idleTimer currentTime msgTimeout h ↦ ?_⟩
  · rcases h.entries e he with ⟨a, ha, -, -, hidle, -⟩ | hnew
    · exact hidle ▸ UInt64.le_trans (hs.entries a ha) htick
    · exact hnew.1.2 ▸ UInt64.le_refl _
  · rcases List.mem_append.mp (hlog ▸ h) with h | h
    · exact hs.overdue n idleTimer currentTime msgTimeout h
    · obtain ⟨⟨e, he, -, rfl⟩, rfl, -⟩ := hfounded _ h
      exact UInt64.le_trans (hs.entries e he) htick

/-- The tick that a step reads is not before the last one. -/
def TickAdvances (s : SenderState σ) : SenderInput ι → Prop
  | .sendAsync _ _ _ env => s.lastTick ≤ env.idleTimer
  | .sendBatchAsync _ _ _ env => s.lastTick ≤ env.idleTimer
  | .iterate _ currentTime _ => s.lastTick ≤ currentTime
  | _ => True

instance (s : SenderState σ) (i : SenderInput ι) : Decidable (TickAdvances s i) := by
  cases i <;> unfold TickAdvances <;> infer_instance

theorem queueing_lastTick {s t : SenderState σ} {callback : Option UserCallback} {tick : UInt64}
    (h : Queueing s callback tick t)
    (htick : s.lastTick ≤ tick) : s.lastTick ≤ t.lastTick := by
  rcases h with rfl | rfl | ⟨list, key, -, rfl⟩
  · exact UInt64.le_refl _
  · exact htick
  · exact htick

@[simp]
theorem confirm_lastTick (s : SenderState σ) (e : EventHubEventList) (cause : List SenderEvent)
    (r : EventHubClientConfirmationResult) (after : AfterConfirm) :
    (s.confirm e cause r after).lastTick = s.lastTick := by
  unfold SenderState.confirm
  cases e.callback <;> rfl

theorem iterate_lastTick (s : SenderState σ) (c : Option Nat) (env : BuildEnv)
    (currentTime : UInt64) (taken : Bool) :
    (iterate s c env currentTime taken).lastTick = s.lastTick ∨
      (iterate s c env currentTime taken).lastTick = currentTime := by
  cases c with
  | none => exact Or.inl rfl
  | some n =>
    cases hentry : s.entry? n with
    | none => exact Or.inl (by rw [iterate_gone env currentTime taken hentry])
    | some e =>
      cases hstatus : e.currentStatus with
      | waitingForAck => exact Or.inl (by rw [iterate_acked env currentTime taken hentry hstatus])
      | waitingToBeSent =>
        cases hbuild : buildMessage env e.eventDataList with
        | none =>
          rw [iterate_unbuildable env currentTime taken hentry hstatus hbuild]
          exact Or.inl (confirm_lastTick ..)
        | some message =>
          rw [iterate_built env currentTime taken hentry hstatus hbuild]
          split_ifs
          · unfold expire
            cases e.callback with
            | none => exact Or.inr rfl
            | some callback => exact Or.inr (confirm_lastTick ..)
          · exact Or.inr rfl

theorem onMessageSendComplete_lastTick (s : SenderState σ) (n : Nat) (r : MessageSendResult)
    (call : UamqpCall) : (onMessageSendComplete s n r call).lastTick = s.lastTick := by
  unfold onMessageSendComplete
  cases s.entry? n with
  | none => rfl
  | some e =>
    dsimp only
    cases e.callback with
    | none => rfl
    | some callback => exact confirm_lastTick ..

theorem uamqpReturn_lastTick (s : SenderState σ) (ok : Bool) (call : UamqpCall) :
    (uamqpReturn s ok call).lastTick = s.lastTick := by
  cases call with
  | messagesenderOpen => cases ok <;> rfl
  | connectionDowork => rfl
  | messagesenderDestroy after =>
    exact (afterDestroyUamqpStack_sameQueue (finishDestroyUamqpStack s) after).lastTick
  | messagesenderSendAsync n next taken =>
    cases taken with
    | true => rfl
    | false =>
      simp only [uamqpReturn, if_neg (show ¬false = true by simp)]
      cases s.entry? n with
      | none => rfl
      | some e => exact confirm_lastTick ..

theorem drain_lastTick (s : SenderState σ) : (drain s).lastTick = s.lastTick := by
  unfold drain
  cases s.client.outgoingEvents with
  | nil => rfl
  | cons e rest =>
    dsimp only
    cases e.callback with
    | none => rfl
    | some callback => exact confirm_lastTick ..

theorem step_lastTick {s t : SenderState σ} {i : SenderInput ι} (h : step auth s i = some t)
    (htick : TickAdvances s i) : s.lastTick ≤ t.lastTick := by
  have hsame : ∀ {t : SenderState σ}, t.lastTick = s.lastTick → s.lastTick ≤ t.lastTick :=
    fun h ↦ h ▸ UInt64.le_refl _
  cases step_move auth h with
  | sendAsync event callback context env _ =>
    exact queueing_lastTick (sendAsync_cases s event callback context env) htick
  | sendBatchAsync list callback context env _ =>
    exact queueing_lastTick (sendBatchAsync_cases s list callback context env) htick
  | setField _ _ => exact UInt64.le_refl _
  | refreshSASTokenAsync token env _ =>
    exact hsame (refreshSASTokenAsync_sameQueue s token env).lastTick
  | doWork env _ _ => exact hsame (doWork_spec auth s env).1.lastTick
  | destroy _ _ => exact hsame (destroyUamqpStack_sameQueue _ _).lastTick
  | iterate env currentTime taken _ =>
    rcases iterate_lastTick s _ env currentTime taken with h | h
    · exact hsame h
    · rw [h]
      exact htick
  | onMessageSendComplete r _ _ => exact hsame (onMessageSendComplete_lastTick s _ r _)
  | onMessageSenderStateChanged newState previousState hcall _ =>
    exact hsame (onMessageSenderStateChanged_spec hcall newState previousState).1.lastTick
  | onCBSPutTokenOperationComplete _ _ _ _ _ => exact UInt64.le_refl _
  | uamqpReturn ok _ => exact hsame (uamqpReturn_lastTick s ok _)
  | @confirmReturn n after _ => cases after <;> exact UInt64.le_refl _
  | stateChangeReturn _ => exact hsame (afterStateChange_spec s _ _).1.lastTick
  | @errorReturn after _ =>
    cases after with
    | uamqp call => exact UInt64.le_refl _
    | tearDown => exact hsame (destroyUamqpStack_sameQueue s _).lastTick
    | done => exact UInt64.le_refl _
  | drain _ => exact hsame (drain_lastTick s)

/-! ### No undefined behaviour -/

/-- Whether an event accepts an entry with a callback, if it accepts one. -/
def heard : SenderEvent → Bool
  | .accepted _ callback _ => callback.isSome
  | _ => true

/-- Every entry was accepted with a callback. -/
def AllHeard (s : SenderState σ) : Prop := ∀ e ∈ s.log, heard e = true

instance (s : SenderState σ) : Decidable (AllHeard s) :=
  inferInstanceAs (Decidable (∀ e ∈ s.log, heard e = true))

theorem AllHeard.of_continues {s t : SenderState σ} (ht : AllHeard t) (h : Continues s t) :
    AllHeard s := by
  obtain ⟨events, hlog, -⟩ := h.log
  exact fun e he ↦ ht e (hlog ▸ List.mem_append_left _ he)

theorem AllHeard.callback {s : SenderState σ} (h : AllHeard s) (hs : Recorded s)
    {e : EventHubEventList} (he : e ∈ s.client.outgoingEvents) : e.callback.isSome :=
  h _ (hs.entries e he)

/-- No entry without a callback comes to a call of it that is not guarded: its message can be built
and is not too old when the loop reaches it, and uAMQP does not refuse it. -/
def sparesNull (s : SenderState σ) : SenderInput ι → Bool
  | .iterate env currentTime _ =>
    match s.control with
    | .loop (some n) => (s.entry? n).all fun e ↦
      e.callback.isSome || e.currentStatus = .waitingForAck ||
        ((buildMessage env e.eventDataList).isSome && !hasTimeout s.client e currentTime)
    | _ => true
  | .uamqpReturn _ =>
    match s.control with
    | .uamqp (.messagesenderSendAsync n _ false) => (s.entry? n).all (·.callback.isSome)
    | _ => true
  | _ => true

theorem sparesNull_of_heard {s : SenderState σ}
    (h : ∀ e ∈ s.client.outgoingEvents, e.callback.isSome = true) (i : SenderInput ι) :
    sparesNull s i = true := by
  have hall : ∀ (n : Nat) (p : EventHubEventList → Bool),
      (∀ e, e.callback.isSome = true → p e = true) → (s.entry? n).all p = true := by
    intro n p hp
    cases he : s.entry? n with
    | none => rfl
    | some e => exact hp e (h e (entry?_spec he).1)
  unfold sparesNull
  split
  · split
    · exact hall _ _ fun e he ↦ by rw [he]; rfl
    · rfl
  · split
    · exact hall _ _ fun e he ↦ he
    · rfl
  · rfl

theorem AllHeard.sparesNull {s : SenderState σ} (h : AllHeard s) (hs : Recorded s)
    (i : SenderInput ι) : sparesNull s i = true :=
  sparesNull_of_heard (fun _ he ↦ h.callback hs he) i

theorem entry?_of_outbox {s : SenderState σ} {n : Nat}
    (h : ∃ e ∈ s.outbox.entries, e.number = n) : ∃ e, s.entry? n = some e := by
  obtain ⟨v, hv, rfl⟩ := h
  obtain ⟨e, he, rfl⟩ := List.mem_map.mp hv
  have hsome : (s.entry? e.number).isSome := List.find?_isSome.mpr ⟨e, he, by simp⟩
  exact Option.isSome_iff_exists.mp hsome

theorem confirm_defined {s : SenderState σ} {e : EventHubEventList} (cause : List SenderEvent)
    (r : EventHubClientConfirmationResult) (after : AfterConfirm) (h : e.callback.isSome) :
    (s.confirm e cause r after).control ≠ .undefinedBehaviour := by
  obtain ⟨callback, hcallback⟩ := Option.isSome_iff_exists.mp h
  simp [SenderState.confirm, hcallback]

section Defined

variable {s : SenderState σ} (hp : Posted s)
include hp

theorem iterate_defined {c : Option Nat} (hs : s.control = .loop c) {env : BuildEnv}
    {currentTime : UInt64} {taken : Bool}
    (hnull : sparesNull s (.iterate env currentTime taken : SenderInput ι) = true) :
    (iterate s c env currentTime taken).control ≠ .undefinedBehaviour := by
  cases c with
  | none => simp [iterate, connectionDowork]
  | some n =>
    have hpass : s.outbox.pass = some (some n) := by simp only [SenderState.outbox, hs]; rfl
    obtain ⟨v, hv, hnumber, -⟩ := hp.inv.walking.ahead n hpass
    obtain ⟨e, hentry⟩ := entry?_of_outbox ⟨v, hv, hnumber⟩
    simp only [sparesNull, hs, hentry, Option.all_some, Bool.or_eq_true, Bool.and_eq_true,
      decide_eq_true_eq] at hnull
    cases hstatus : e.currentStatus with
    | waitingForAck => simp [iterate_acked env currentTime taken hentry hstatus]
    | waitingToBeSent =>
      cases hbuild : buildMessage env e.eventDataList with
      | none =>
        have hcb : e.callback.isSome = true := by simpa [hstatus, hbuild] using hnull
        rw [iterate_unbuildable env currentTime taken hentry hstatus hbuild]
        exact confirm_defined _ _ _ hcb
      | some message =>
        rw [iterate_built env currentTime taken hentry hstatus hbuild]
        split_ifs with htimeout
        · have hcb : e.callback.isSome = true := by simpa [hstatus, htimeout] using hnull
          obtain ⟨callback, hcallback⟩ := Option.isSome_iff_exists.mp hcb
          simp only [expire, hcallback]
          exact confirm_defined _ _ _ hcb
        · simp [handOver]

theorem onMessageSendComplete_defined {n : Nat} (hn : n ∈ s.inFlight)
    (hdefined : s.control ≠ .undefinedBehaviour) (r : MessageSendResult) (call : UamqpCall) :
    (onMessageSendComplete s n r call).control ≠ .undefinedBehaviour := by
  obtain ⟨v, hv, hnumber, -⟩ := hp.inv.carried.flight n hn
  obtain ⟨e, hentry⟩ := entry?_of_outbox ⟨v, hv, hnumber⟩
  cases hcallback : e.callback with
  | none =>
    simp only [onMessageSendComplete, hentry, hcallback]
    exact hdefined
  | some callback =>
    simp only [onMessageSendComplete, hentry, hcallback]
    exact confirm_defined _ _ _ (hcallback ▸ rfl)

theorem uamqpReturn_defined {call : UamqpCall} (hs : s.control = .uamqp call) {ok : Bool}
    (hnull : sparesNull s (.uamqpReturn ok : SenderInput ι) = true) :
    (uamqpReturn s ok call).control ≠ .undefinedBehaviour := by
  cases call with
  | messagesenderOpen => cases ok <;> simp [uamqpReturn, startLoop]
  | connectionDowork => simp [uamqpReturn]
  | messagesenderDestroy after =>
    rcases afterDestroyUamqpStack_control (finishDestroyUamqpStack s) after with h | h | h
    · simp [uamqpReturn, h]
    · simp [uamqpReturn, h]
    · simp [uamqpReturn, h.2]
  | messagesenderSendAsync n next taken =>
    cases taken with
    | true => simp [uamqpReturn]
    | false =>
      have hhand : s.outbox.hand = some (n, false) := by simp only [SenderState.outbox, hs]; rfl
      obtain ⟨e, hentry⟩ := entry?_of_outbox (hp.inv.carried.held n hhand).1
      have hcb : e.callback.isSome = true := by simpa [sparesNull, hs, hentry] using hnull
      simp only [uamqpReturn, hentry, if_neg (show ¬false = true by simp)]
      exact confirm_defined _ _ _ hcb

omit hp in
theorem drain_defined (hdefined : s.control ≠ .undefinedBehaviour) :
    (drain s).control ≠ .undefinedBehaviour := by
  cases hevents : s.client.outgoingEvents with
  | nil => simp [drain, hevents]
  | cons e rest =>
    cases hcallback : e.callback with
    | none =>
      simp only [drain, hevents, hcallback]
      exact hdefined
    | some callback =>
      simp only [drain, hevents, hcallback]
      exact confirm_defined _ _ _ (hcallback ▸ rfl)

/-- A step that calls no NULL callback is not undefined. -/
theorem step_defined {t : SenderState σ} {i : SenderInput ι} (h : step auth s i = some t)
    (hnull : sparesNull s i = true) (hs : s.control ≠ .undefinedBehaviour) :
    t.control ≠ .undefinedBehaviour := by
  cases step_move auth h with
  | sendAsync event callback context env _ =>
    rw [queueing_control (sendAsync_cases s event callback context env)]
    exact hs
  | sendBatchAsync list callback context env _ =>
    rw [queueing_control (sendBatchAsync_cases s list callback context env)]
    exact hs
  | setField _ _ => exact hs
  | refreshSASTokenAsync token env _ =>
    rcases refreshSASTokenAsync_cases s token env with h | ⟨text, -, -, -, -, h⟩ <;>
      simpa only [h] using hs
  | doWork env _ _ => exact (doWork_spec auth s env).2.defined
  | destroy _ _ =>
    rcases destroyUamqpStack_control { s with destroying := true, log := s.log ++ [.destroying] }
      .destroy with h | h | h | h <;> simp [destroy, h]
  | iterate env currentTime taken hloop => exact iterate_defined hp hloop hnull
  | onMessageSendComplete r _ hn => exact onMessageSendComplete_defined hp hn hs r _
  | onMessageSenderStateChanged newState previousState hcall _ =>
    have h := (onMessageSenderStateChanged_spec hcall newState previousState).2.1
    exact fun hc ↦ by simp [hc, SenderControl.call] at h
  | onCBSPutTokenOperationComplete _ _ _ _ _ => exact hs
  | uamqpReturn ok hcall => exact uamqpReturn_defined hp hcall hnull
  | @confirmReturn n after _ => cases after <;> simp [confirmReturn]
  | @stateChangeReturn newState call _ =>
    have h := (afterStateChange_spec s newState call).2.1
    exact fun hc ↦ by simp [hc, SenderControl.call] at h
  | @errorReturn after _ =>
    cases after with
    | uamqp call => simp [errorReturn]
    | tearDown => exact (destroyUamqpStack_working s (by simp)).defined
    | done => simp [errorReturn]
  | drain _ => exact drain_defined hs

end Defined

/-! ### Runs -/

/-- What holds of a sender along every run. -/
structure Kempt (s : SenderState σ) : Prop extends Posted s, Recorded s where
  defined : AllHeard s → s.control ≠ .undefinedBehaviour

theorem step_kempt {s t : SenderState σ} {i : SenderInput ι} (hs : Kempt s)
    (h : step auth s i = some t) : Kempt t := by
  have hcontinues := step_continues auth h
  refine ⟨step_posted auth hs.toPosted h, hs.toRecorded.continues hcontinues, fun hheard ↦ ?_⟩
  have hheard' := hheard.of_continues hcontinues
  exact step_defined auth hs.toPosted h (hheard'.sparesNull hs.toRecorded i) (hs.defined hheard')

theorem created_kempt {c : EventHubClientLL σ} (hc : Created c) : Kempt { client := c } := by
  have hevents : c.outgoingEvents = [] := by cases hc <;> rfl
  exact ⟨created_posted hc, ⟨by simp [hevents], by simp, by simp⟩, by simp⟩

theorem run_kempt {s t : SenderState σ} (hs : Kempt s) {is : List (SenderInput ι)}
    (h : (senderMachine auth).run s is = some t) : Kempt t := by
  have hstep : ∀ s i t, Kempt s → (senderMachine auth).step s i = some t → Kempt t :=
    fun _ _ _ hs h ↦ step_kempt auth hs h
  exact Machine.run_invariant hstep hs h

/-- A run appends to the log and is a run of the outbox. -/
theorem run_extends {s t : SenderState σ} (hs : Kempt s) {is : List (SenderInput ι)}
    (h : (senderMachine auth).run s is = some t) :
    s.log <+: t.log ∧ ReflTransGen Outbox.Step s.outbox t.outbox := by
  have hstep : ∀ u i v, Kempt u ∧ s.log <+: u.log ∧ ReflTransGen Outbox.Step s.outbox u.outbox →
      (senderMachine auth).step u i = some v →
      Kempt v ∧ s.log <+: v.log ∧ ReflTransGen Outbox.Step s.outbox v.outbox := by
    rintro u i v ⟨hu, hlog, hsteps⟩ h
    obtain ⟨events, hlog', -⟩ := (step_continues auth h).log
    exact ⟨step_kempt auth hu h, hlog.trans ⟨events, hlog'.symm⟩,
      hsteps.trans (step_refines auth h hu.closing)⟩
  exact (Machine.run_invariant hstep ⟨hs, List.prefix_refl _, .refl⟩ h).2

theorem run_timed {c : EventHubClientLL σ} (hc : Created c) {is : List (SenderInput ι)}
    {t : SenderState σ} (h : (senderMachine auth).run { client := c } is = some t)
    (hticks : (senderMachine auth).Meets TickAdvances { client := c } is) : Timed t := by
  have hstep : ∀ s i t, Timed s → TickAdvances s i → (senderMachine auth).step s i = some t →
      Timed t := fun s i t hs hi h ↦
    hs.continues (step_continues auth h) (step_lastTick auth h hi)
  have hevents : c.outgoingEvents = [] := by cases hc <;> rfl
  exact Machine.run_invariant_of_meets hstep ⟨by simp [hevents], by simp⟩ hticks h

end EventHubClientLL

end EventHubs
