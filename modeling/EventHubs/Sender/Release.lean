import EventHubs.Sender.Delivery

/-!
# Clones of the events that wait

An entry of `outgoingEvents` owns the clones of its events. As long as it is listed none of them has
been given to `EventData_Destroy`, and when it is unlinked each of them is, once.

## Main definitions

* `SenderState.Tended` — no clone of a listed entry is freed and no clone is freed twice.
* `SenderState.LetGo` — an entry is gone and its clones are freed.

## Main results

* `EventHubClientLL.run_tended`, `EventHubClientLL.run_holds_or_letGo`.
-/

namespace EventHubs

theorem EventHubEventList.mem_clones {e : EventHubEventList} {x : Nat × Nat} :
    x ∈ e.clones ↔ x.1 = e.number ∧ x.2 < e.eventCount := by
  simp only [clones, List.mem_map, List.mem_range]
  constructor
  · rintro ⟨index, hindex, rfl⟩
    exact ⟨rfl, hindex⟩
  · rintro ⟨hnumber, hindex⟩
    exact ⟨x.2, hindex, Prod.ext hnumber.symm rfl⟩

theorem EventHubEventList.nodup_clones (e : EventHubEventList) : e.clones.Nodup :=
  List.nodup_range.map fun _ _ h ↦ (Prod.mk.inj h).2

namespace SenderState

variable {σ : Type} {s t : SenderState σ} {e : EventHubEventList}

/-- No clone of a listed entry is freed, and no clone is freed twice. -/
structure Tended (s : SenderState σ) : Prop where
  nodup : s.freed.Nodup
  below : ∀ x ∈ s.freed, x.1 < s.nextEntry
  live : ∀ e ∈ s.client.outgoingEvents, ∀ x ∈ s.freed, x.1 ≠ e.number

/-- An accepted entry is no longer listed, and its clones are freed. -/
structure LetGo (s : SenderState σ) (e : EventHubEventList) : Prop where
  gone : ∀ a ∈ s.client.outgoingEvents, a.number ≠ e.number
  freed : ∀ x ∈ e.clones, x ∈ s.freed
  below : e.number < s.nextEntry

/-- An entry that was unlinked shares its number with none that is left. -/
theorem number_ne_of_mem_erase (hs : EventHubClientLL.Posted s) (he : e ∈ s.client.outgoingEvents)
    {a : EventHubEventList} (ha : a ∈ s.client.outgoingEvents.erase e) :
    a ∈ s.client.outgoingEvents ∧ a.number ≠ e.number := by
  obtain ⟨hne, hmem⟩ := hs.nodup_numbers.of_map.mem_erase_iff.mp ha
  exact ⟨hmem, fun heq ↦ hne (hs.eq_of_number hmem he heq)⟩

theorem number_lt_nextEntry (hs : EventHubClientLL.Posted s) (he : e ∈ s.client.outgoingEvents) :
    e.number < s.nextEntry :=
  hs.inv.ordered.below _ (List.mem_map_of_mem he)

theorem Tended.continues (h : Tended s) (hs : EventHubClientLL.Posted s) (hst : Continues s t) :
    Tended t := by
  rcases hst.releases with ⟨hfreed, -⟩ | ⟨e, he, hfreed, -, hleft⟩
  · refine ⟨hfreed ▸ h.nodup, fun x hx ↦ (h.below x (hfreed ▸ hx)).trans_le hst.next,
      fun a ha x hx ↦ ?_⟩
    rw [hfreed] at hx
    rcases hst.entries a ha with ⟨b, hb, hnumber, -⟩ | ⟨-, hnumber, -⟩
    · exact hnumber ▸ h.live b hb x hx
    · exact hnumber ▸ (h.below x hx).ne
  · have hclone : ∀ x ∈ e.clones, x.1 = e.number := fun x hx ↦
      (EventHubEventList.mem_clones.mp hx).1
    refine ⟨?_, fun x hx ↦ ?_, fun a ha x hx ↦ ?_⟩
    · rw [hfreed]
      exact h.nodup.append e.nodup_clones fun x hx hx' ↦ h.live e he x hx (hclone x hx')
    · refine lt_of_lt_of_le ?_ hst.next
      rcases List.mem_append.mp (hfreed ▸ hx) with hx | hx
      · exact h.below x hx
      · exact hclone x hx ▸ number_lt_nextEntry hs he
    · obtain ⟨ha, hne⟩ := number_ne_of_mem_erase hs he (hleft.subset ha)
      rcases List.mem_append.mp (hfreed ▸ hx) with hx | hx
      · exact h.live a ha x hx
      · exact hclone x hx ▸ hne.symm

/-- Clones that are freed stay freed, and an entry that is gone does not return. -/
theorem LetGo.continues (h : LetGo s e) (hst : Continues s t) : LetGo t e := by
  have hgrows : ∀ x ∈ s.freed, x ∈ t.freed := fun x hx ↦ by
    rcases hst.releases with ⟨hfreed, -⟩ | ⟨gone, -, hfreed, -⟩
    · exact hfreed ▸ hx
    · exact hfreed ▸ List.mem_append_left _ hx
  refine ⟨fun a ha ↦ ?_, fun x hx ↦ hgrows x (h.freed x hx), h.below.trans_le hst.next⟩
  rcases hst.entries a ha with ⟨b, hb, hnumber, -⟩ | ⟨-, hnumber, -⟩
  · exact hnumber ▸ h.gone b hb
  · exact hnumber ▸ h.below.ne'

/-- A listed entry stays listed or is let go. -/
theorem Holds.continues (h : s.Holds e) (hs : EventHubClientLL.Posted s) (hst : Continues s t) :
    t.Holds e ∨ LetGo t e := by
  obtain ⟨a, ha, hnumber, hcallback, hidle, hevents⟩ := h
  rcases hst.releases with ⟨-, hkeep⟩ | ⟨gone, hgone, hfreed, hkeep, hleft⟩
  · obtain ⟨b, hb, h₁, h₂, h₃, h₄⟩ := hkeep a ha
    exact Or.inl ⟨b, hb, h₁.trans hnumber, h₂.trans hcallback, h₃.trans hidle, h₄.trans hevents⟩
  · by_cases hsame : a.number = gone.number
    · refine Or.inr ⟨fun b hb ↦ ?_, fun x hx ↦ ?_, ?_⟩
      · have := (number_ne_of_mem_erase hs hgone (hleft.subset hb)).2
        rwa [← hnumber, hsame]
      · have heq : a = gone := by
          by_contra hne
          have hmem : a ∈ s.client.outgoingEvents.erase gone :=
            (List.mem_erase_of_ne hne).mpr ha
          exact (number_ne_of_mem_erase hs hgone hmem).2 hsame
        have hx : x ∈ gone.clones := by
          rw [EventHubEventList.mem_clones] at hx ⊢
          rwa [← heq, EventHubEventList.eventCount, hnumber, hevents]
        exact hfreed ▸ List.mem_append_right _ hx
      · exact hnumber ▸ (number_lt_nextEntry hs ha).trans_le hst.next
    · exact Or.inl ⟨a, hkeep a ha hsame, hnumber, hcallback, hidle, hevents⟩

end SenderState

namespace EventHubClientLL

variable {σ ι : Type} (auth : AuthModule σ ι)

open SenderState

theorem run_tended {c : EventHubClientLL σ} (hc : Created c) {is : List (SenderInput ι)}
    {s : SenderState σ} (hrun : (senderMachine auth).run { client := c } is = some s) :
    Tended s := by
  have hstart : Posted { client := c } ∧ Tended { client := c } :=
    ⟨created_posted hc, List.nodup_nil, by simp, by simp⟩
  have hstep : ∀ s i t, Posted s ∧ Tended s → (senderMachine auth).step s i = some t →
      Posted t ∧ Tended t := fun s i t hs h ↦
    ⟨step_posted auth hs.1 h, hs.2.continues hs.1 (step_continues auth h)⟩
  exact (Machine.run_invariant hstep hstart hrun).2

/-- Along a run an entry that was listed is listed, or it is gone and its clones are freed. -/
theorem run_holds_or_letGo {s t : SenderState σ} (hs : Posted s) {is : List (SenderInput ι)}
    (hrun : (senderMachine auth).run s is = some t) {e : EventHubEventList}
    (he : e ∈ s.client.outgoingEvents) : t.Holds e ∨ LetGo t e := by
  have hstep : ∀ s i t, Posted s ∧ (s.Holds e ∨ LetGo s e) →
      (senderMachine auth).step s i = some t → Posted t ∧ (t.Holds e ∨ LetGo t e) := by
    rintro s i t ⟨hs, hfate⟩ h
    refine ⟨step_posted auth hs h, ?_⟩
    rcases hfate with hfate | hfate
    · exact hfate.continues hs (step_continues auth h)
    · exact Or.inr (hfate.continues (step_continues auth h))
  exact (Machine.run_invariant hstep ⟨hs, Or.inl (.of_mem he)⟩ hrun).2

end EventHubClientLL

end EventHubs
