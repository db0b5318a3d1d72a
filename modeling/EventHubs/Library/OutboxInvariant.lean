import EventHubs.Library.Outbox
import Mathlib.Data.List.Sort

/-!
# The invariant of an outbox

Five groups of facts that every step of an outbox preserves: the order of the entries and of the
hand-overs, where a pass stands, what the carrier holds, how many notices an entry has been told,
and why.

## Main definitions

* `Outbox.Ordered`, `Outbox.Walking`, `Outbox.Carried`, `Outbox.Accounted`, `Outbox.Truthful`.
* `Outbox.Inv` — all of them.

## Main results

* `Outbox.Inv.step`, `Outbox.Inv.steps`.
* `Outbox.Inv.handedOver_sublist` — entries are handed over once and in order.
* `Outbox.Blocks.split` — handed entries stand before the waiting ones.
-/

namespace Outbox

/-- The order of the entries and of the hand-overs. -/
structure Ordered (o : Outbox) : Prop where
  sorted : Sorted o.entries
  below : ∀ e ∈ o.entries, e.number < o.next
  blocks : Blocks o.entries
  given : (handedOver o.trace).Pairwise (· < ·)
  givenBelow : ∀ n ∈ handedOver o.trace, n < o.next
  givenBefore : ∀ n ∈ handedOver o.trace, ∀ e ∈ o.entries, e.handed = false → n < e.number

/-- Where a pass stands: at a listed entry with everything handed before it, and while the
carrier or a listener is busy that entry waits. -/
structure Walking (o : Outbox) : Prop where
  ahead : ∀ c, o.pass = some (some c) → ∃ e ∈ o.entries, e.number = c ∧
    (o.hand.isSome ∨ o.notifying.isSome → e.handed = false)
  behind : ∀ c, o.pass = some (some c) → ∀ e ∈ o.entries, e.number < c →
    e.handed = true ∨ o.notifying = some e.number
  apart : ∀ c, o.pass = some (some c) → o.notifying ≠ some c ∧ ∀ taken, o.hand ≠ some (c, taken)

/-- What the carrier holds, and the entry that is being told its notice. -/
structure Carried (o : Outbox) : Prop where
  flight : ∀ n ∈ o.inFlight, ∃ e ∈ o.entries, e.number = n ∧ e.handed = true
  nodup : o.inFlight.Nodup
  quiet : ∀ n ∈ o.inFlight, o.notifying ≠ some n ∧ o.hand ≠ some (n, false)
  held : ∀ n, o.hand = some (n, false) → (∃ e ∈ o.entries, e.number = n) ∧ o.notifying ≠ some n
  listed : ∀ n, o.notifying = some n → ∃ e ∈ o.entries, e.number = n

/-- How many notices an entry has been told. -/
structure Accounted (o : Outbox) : Prop where
  all : accepted o.trace = List.range o.next
  heard : ∀ e ∈ o.entries, Event.accepted e.number e.heard ∈ o.trace
  heardOnce : ∀ n h h', Event.accepted n h ∈ o.trace → Event.accepted n h' ∈ o.trace → h = h'
  fresh : ∀ e ∈ o.entries, o.notifying ≠ some e.number →
    notices o.trace e.number = 0 ∧ ∀ good, Event.reported e.number good ∉ o.trace
  once : ∀ n, Event.accepted n true ∈ o.trace →
    (∀ e ∈ o.entries, e.number = n → o.notifying = some n) → notices o.trace n = 1
  future : ∀ n, o.next ≤ n → notices o.trace n = 0 ∧ ∀ good, Event.reported n good ∉ o.trace

/-- Why a notice was told. -/
structure Truthful (o : Outbox) : Prop where
  delivered : ∀ n, Event.notified n .delivered ∈ o.trace → Event.reported n true ∈ o.trace
  failed : ∀ n, Event.notified n .failed ∈ o.trace → Event.reported n false ∈ o.trace ∨
    Event.unbuildable n ∈ o.trace ∨ Event.handedOver n false ∈ o.trace
  expired : ∀ n, Event.notified n .expired ∈ o.trace → Event.overdue n ∈ o.trace ∧
    ∀ taken, Event.handedOver n taken ∉ o.trace
  abandoned : ∀ n, Event.notified n .abandoned ∈ o.trace → Event.closing ∈ o.trace ∧
    ∀ good, Event.reported n good ∉ o.trace
  reported : ∀ n good, Event.reported n good ∈ o.trace → Event.handedOver n true ∈ o.trace ∧
    (Event.accepted n true ∈ o.trace →
      Event.notified n (if good then .delivered else .failed) ∈ o.trace)
  flight : ∀ n ∈ o.inFlight, Event.handedOver n true ∈ o.trace
  held : ∀ n taken, o.hand = some (n, taken) → Event.handedOver n taken ∈ o.trace
  closed : o.closed = true → Event.closing ∈ o.trace

/-- The invariant of an outbox. -/
structure Inv (o : Outbox) : Prop where
  ordered : Ordered o
  walking : Walking o
  carried : Carried o
  accounted : Accounted o
  truthful : Truthful o

variable {o o' : Outbox}

@[simp]
theorem handedOver_notice (e : Entry) (r : Notice) : handedOver (e.notice r) = [] := by
  unfold Entry.notice
  split_ifs <;> rfl

@[simp]
theorem accepted_notice (e : Entry) (r : Notice) : accepted (e.notice r) = [] := by
  unfold Entry.notice
  split_ifs <;> rfl

/-! ### Order -/

theorem Ordered.sublist (h : Ordered o) (hl : o'.entries.Sublist o.entries)
    (hn : o'.next = o.next) (ht : handedOver o'.trace = handedOver o.trace) : Ordered o' where
  sorted := List.Pairwise.sublist hl h.sorted
  below e he := hn ▸ h.below e (hl.subset he)
  blocks := List.Pairwise.sublist hl h.blocks
  given := ht ▸ h.given
  givenBelow := by
    rw [ht, hn]
    exact h.givenBelow
  givenBefore n hnt e he := h.givenBefore n (ht ▸ hnt) e (hl.subset he)

theorem Ordered.concat (h : Ordered o) (heard : Bool)
    (hl : o'.entries = o.entries ++ [⟨o.next, false, heard⟩]) (hn : o'.next = o.next + 1)
    (ht : handedOver o'.trace = handedOver o.trace) : Ordered o' where
  sorted := hl ▸ h.sorted.concat h.below
  below e he := by
    rw [hn]
    rw [hl] at he
    rcases List.mem_append.mp he with he | he
    · exact Nat.lt_succ_of_lt (h.below e he)
    · obtain rfl := List.mem_singleton.mp he
      exact Nat.lt_succ_self _
  blocks := hl ▸ h.blocks.concat rfl
  given := ht ▸ h.given
  givenBelow n hnt := by
    rw [hn]
    exact Nat.lt_succ_of_lt (h.givenBelow n (ht ▸ hnt))
  givenBefore n hnt e he hw := by
    rw [ht] at hnt
    rw [hl] at he
    rcases List.mem_append.mp he with he | he
    · exact h.givenBefore n hnt e he hw
    · obtain rfl := List.mem_singleton.mp he
      exact h.givenBelow n hnt

/-- A waiting entry of a marked list was waiting, and is another one. -/
theorem waits_of_mem_mark {n : Nat} {l : List Entry} {a : Entry} (ha : a ∈ mark n l)
    (hw : a.handed = false) :
    ∃ b ∈ l, a.number = b.number ∧ b.handed = false ∧ b.number ≠ n := by
  obtain ⟨b, hb, hab, -, hiff⟩ := exists_of_mem_mark ha
  have hnot : ¬ (b.handed = true ∨ b.number = n) := fun h ↦ by simp [hiff.mpr h] at hw
  exact ⟨b, hb, hab, by simpa using fun h ↦ hnot (Or.inl h), fun h ↦ hnot (Or.inr h)⟩

/-- Marking the first waiting entry, with or without a hand-over. -/
theorem Ordered.mark (h : Ordered o) {e : Entry} (he : e ∈ o.entries) (hwaits : e.handed = false)
    (hbefore : ∀ a ∈ o.entries, a.number < e.number → a.handed = true)
    (hl : o'.entries = mark e.number o.entries) (hn : o'.next = o.next)
    (ht : handedOver o'.trace = handedOver o.trace ∨
      handedOver o'.trace = handedOver o.trace ++ [e.number]) : Ordered o' where
  sorted := hl ▸ h.sorted.mark _
  below a ha := by
    obtain ⟨b, hb, hab, -⟩ := exists_of_mem_mark (hl ▸ ha)
    rw [hab, hn]
    exact h.below b hb
  blocks := hl ▸ h.blocks.mark h.sorted hbefore
  given := by
    rcases ht with ht | ht
    · exact ht ▸ h.given
    · rw [ht]
      exact List.pairwise_append.mpr ⟨h.given, List.pairwise_singleton .., fun n hnt m hm ↦
        List.mem_singleton.mp hm ▸ h.givenBefore n hnt e he hwaits⟩
  givenBelow n hnt := by
    rw [hn]
    rcases ht with ht | ht
    · exact h.givenBelow n (ht ▸ hnt)
    · rw [ht] at hnt
      rcases List.mem_append.mp hnt with hnt | hnt
      · exact h.givenBelow n hnt
      · exact List.mem_singleton.mp hnt ▸ h.below e he
  givenBefore n hnt a ha hw := by
    obtain ⟨b, hb, hab, hbw, hne⟩ := waits_of_mem_mark (hl ▸ ha) hw
    rw [hab]
    have hold : n ∈ handedOver o.trace ∨ n = e.number := by
      rcases ht with ht | ht
      · exact Or.inl (ht ▸ hnt)
      · rw [ht] at hnt
        exact (List.mem_append.mp hnt).imp_right List.mem_singleton.mp
    rcases hold with hold | rfl
    · exact h.givenBefore n hold b hb hbw
    · rcases Nat.lt_or_gt_of_ne hne with hlt | hgt
      · simp [hbefore b hb hlt] at hbw
      · exact hgt

/-! ### The pass -/

theorem Walking.of_pass_none (h : o'.pass = none) : Walking o' where
  ahead c hc := by simp [h] at hc
  behind c hc := by simp [h] at hc
  apart c hc := by simp [h] at hc

/-- Before the entry that a pass looks at, everything is handed while no notice is told. -/
theorem Walking.handed_before (h : Walking o) (hquiet : o.notifying = none) {c : Nat}
    (hpass : o.pass = some (some c)) {e : Entry} (he : e ∈ o.entries) (hlt : e.number < c) :
    e.handed = true :=
  (h.behind c hpass e he hlt).resolve_right (by simp [hquiet])

theorem Walking.concat (h : Walking o) (ho : Ordered o) {e : Entry}
    (hl : o'.entries = o.entries ++ [e]) (hlast : e.number = o.next) (hp : o'.pass = o.pass)
    (hh : o'.hand = o.hand) (hn : o'.notifying = o.notifying) : Walking o' where
  ahead c hc := by
    obtain ⟨f, hf, hrest⟩ := h.ahead c (hp ▸ hc)
    rw [hl, hh, hn]
    exact ⟨f, List.mem_append_left _ hf, hrest⟩
  behind c hc f hf hlt := by
    rw [hn]
    rw [hl] at hf
    rcases List.mem_append.mp hf with hf | hf
    · exact h.behind c (hp ▸ hc) f hf hlt
    · obtain ⟨g, hg, rfl, -⟩ := h.ahead c (hp ▸ hc)
      obtain rfl := List.mem_singleton.mp hf
      exact absurd (ho.below g hg) (Nat.not_lt.mpr (hlast ▸ Nat.le_of_lt hlt))
  apart c hc := by
    rw [hn, hh]
    exact h.apart c (hp ▸ hc)

/-- A pass starts at the first entry. -/
theorem Walking.start (ho : Ordered o) (hl : o'.entries = o.entries)
    (hp : o'.pass = some (o.entries.head?.map (·.number))) (hh : o'.hand = none)
    (hn : o'.notifying = none) : Walking o' where
  ahead c hc := by
    obtain ⟨⟨e, he, hec⟩, -⟩ := head_spec ho.sorted (Option.some.inj (hp.symm.trans hc))
    exact ⟨e, hl ▸ he, hec, by simp [hh, hn]⟩
  behind c hc e he hlt := by
    obtain ⟨-, hleast⟩ := head_spec ho.sorted (Option.some.inj (hp.symm.trans hc))
    exact absurd hlt (Nat.not_lt.mpr (hleast e (hl ▸ he)))
  apart c _ := by simp [hh, hn]

/-- A pass goes past an entry that is handed already. -/
theorem Walking.skip (h : Walking o) (ho : Ordered o) {e : Entry}
    (hpass : o.pass = some (some e.number)) (he : e ∈ o.entries) (hhanded : e.handed = true)
    (hquiet : o.notifying = none) (hl : o'.entries = o.entries)
    (hp : o'.pass = some (follow e.number o.entries)) (hh : o'.hand = none)
    (hn : o'.notifying = none) : Walking o' where
  ahead c hc := by
    obtain ⟨⟨f, hf, hfc⟩, -⟩ := follow_spec ho.sorted he (Option.some.inj (hp.symm.trans hc))
    exact ⟨f, hl ▸ hf, hfc, by simp [hh, hn]⟩
  behind c hc f hf hlt := by
    obtain ⟨-, -, hle⟩ := follow_spec ho.sorted he (Option.some.inj (hp.symm.trans hc))
    rw [hl] at hf
    rcases Nat.lt_or_eq_of_le (hle f hf hlt) with hlt' | heq
    · exact Or.inl (h.handed_before hquiet hpass hf hlt')
    · exact Or.inl (ho.sorted.eq_of_number hf he heq ▸ hhanded)
  apart c _ := by simp [hh, hn]

/-- A pass goes past a waiting entry, which is marked or is being told its notice. -/
theorem Walking.past (h : Walking o) (ho : Ordered o) {e : Entry}
    (hpass : o.pass = some (some e.number)) (he : e ∈ o.entries) (hwaits : e.handed = false)
    (hquiet : o.notifying = none)
    (hl : o'.entries = o.entries ∧ o'.notifying = some e.number ∨
      o'.entries = mark e.number o.entries)
    (hp : o'.pass = some (follow e.number o.entries))
    (hh : ∀ c taken, o'.hand = some (c, taken) → c = e.number)
    (hn : ∀ c, o'.notifying = some c → c = e.number) : Walking o' where
  ahead c hc := by
    have hfollow := Option.some.inj (hp.symm.trans hc)
    obtain ⟨⟨f, hf, rfl⟩, hlt, -⟩ := follow_spec ho.sorted he hfollow
    have hfw := follow_waits ho.sorted ho.blocks he hwaits hf hlt
    rcases hl with ⟨hl, -⟩ | hl
    · exact ⟨f, hl ▸ hf, rfl, fun _ ↦ hfw⟩
    · obtain ⟨g, hg, hgf, -, hiff⟩ := mem_mark_of_mem (n := e.number) hf
      refine ⟨g, hl ▸ hg, hgf, fun _ ↦ ?_⟩
      by_contra hne
      rcases hiff.mp (by simpa using hne) with h' | h'
      · simp [hfw] at h'
      · exact absurd h' (Nat.ne_of_gt hlt)
  behind c hc a ha hlt := by
    obtain ⟨-, -, hle⟩ := follow_spec ho.sorted he (Option.some.inj (hp.symm.trans hc))
    rcases hl with ⟨hl, hnotify⟩ | hl
    · rw [hl] at ha
      rcases Nat.lt_or_eq_of_le (hle a ha hlt) with hlt' | heq
      · exact Or.inl (h.handed_before hquiet hpass ha hlt')
      · exact Or.inr (heq ▸ hnotify)
    · rw [hl] at ha
      obtain ⟨b, hb, hab, -, hiff⟩ := exists_of_mem_mark ha
      rcases Nat.lt_or_eq_of_le (hle b hb (hab ▸ hlt)) with hlt' | heq
      · exact Or.inl (hiff.mpr (Or.inl (h.handed_before hquiet hpass hb hlt')))
      · exact Or.inl (hiff.mpr (Or.inr heq))
  apart c hc := by
    obtain ⟨-, hlt, -⟩ := follow_spec ho.sorted he (Option.some.inj (hp.symm.trans hc))
    exact ⟨fun h' ↦ absurd (hn c h') (Nat.ne_of_gt hlt),
      fun taken h' ↦ absurd (hh c taken h') (Nat.ne_of_gt hlt)⟩

/-- While a pass stays where it is the carrier may finish and a listener may start. -/
theorem Walking.turn (h : Walking o) (hquiet : o.notifying = none) (hl : o'.entries = o.entries)
    (hp : o'.pass = o.pass) (hh : ∀ c taken, o'.hand = some (c, taken) → o.hand = some (c, taken))
    (hbusy : o'.notifying.isSome → o.pass = none ∨ o.hand.isSome)
    (hn : ∀ c, o'.notifying = some c → o.pass ≠ some (some c)) : Walking o' where
  ahead c hc := by
    obtain ⟨e, he, hec, hw⟩ := h.ahead c (hp ▸ hc)
    refine ⟨e, hl ▸ he, hec, fun hor ↦ hw (Or.inl ?_)⟩
    rcases hor with hhand | hnot
    · obtain ⟨⟨m, taken⟩, hm⟩ := Option.isSome_iff_exists.mp hhand
      simp [hh m taken hm]
    · exact (hbusy hnot).resolve_left (by simp [← hp, hc])
  behind c hc e he hlt := Or.inl (h.handed_before hquiet (hp ▸ hc) (hl ▸ he) hlt)
  apart c hc :=
    ⟨fun h' ↦ hn c h' (hp ▸ hc), fun taken h' ↦ (h.apart c (hp ▸ hc)).2 taken (hh c taken h')⟩

/-- The entry that was told its notice is unlinked. -/
theorem Walking.release (h : Walking o) {n : Nat} (hnotifying : o.notifying = some n)
    (hl : o'.entries = unlink n o.entries) (hp : o'.pass = o.pass) (hh : o'.hand = o.hand)
    (hn : o'.notifying = none) : Walking o' where
  ahead c hc := by
    obtain ⟨e, he, rfl, hw⟩ := h.ahead c (hp ▸ hc)
    refine ⟨e, hl ▸ mem_unlink.mpr ⟨he, fun heq ↦ ?_⟩, rfl, fun _ ↦ hw (Or.inr ?_)⟩
    · exact (h.apart e.number (hp ▸ hc)).1 (heq ▸ hnotifying)
    · simp [hnotifying]
  behind c hc e he hlt := by
    rw [hl] at he
    obtain ⟨he, hne⟩ := mem_unlink.mp he
    refine Or.inl ((h.behind c (hp ▸ hc) e he hlt).resolve_right fun h' ↦ hne ?_)
    exact (Option.some.inj (hnotifying.symm.trans h')).symm
  apart c hc := by
    rw [hn, hh]
    exact ⟨by simp, (h.apart c (hp ▸ hc)).2⟩

/-! ### The carrier -/

/-- Nothing new is handed over. -/
theorem Carried.keep (h : Carried o) (hsub : o'.inFlight.Sublist o.inFlight)
    (hl : ∀ f ∈ o.entries, (∃ g ∈ o'.entries, g.number = f.number ∧
      (f.handed = true → g.handed = true)) ∨
        f.number ∉ o'.inFlight ∧ o'.hand ≠ some (f.number, false))
    (hh : o'.hand = o.hand ∨ o'.hand = none)
    (hn : ∀ n, o'.notifying = some n → (∃ e ∈ o'.entries, e.number = n) ∧ n ∉ o'.inFlight ∧
      o'.hand ≠ some (n, false)) : Carried o' where
  flight n hnf := by
    obtain ⟨f, hf, rfl, hfh⟩ := h.flight n (hsub.subset hnf)
    obtain ⟨g, hg, hgn, hgh⟩ := (hl f hf).resolve_right fun hnot ↦ hnot.1 hnf
    exact ⟨g, hg, hgn, hgh hfh⟩
  nodup := hsub.nodup h.nodup
  quiet n hnf := by
    refine ⟨fun hnot ↦ (hn n hnot).2.1 hnf, fun hhand ↦ ?_⟩
    rcases hh with hh | hh
    · exact (h.quiet n (hsub.subset hnf)).2 (hh ▸ hhand)
    · simp [hh] at hhand
  held n hhand := by
    refine ⟨?_, fun hnot ↦ (hn n hnot).2.2 hhand⟩
    rcases hh with hh | hh
    · obtain ⟨⟨f, hf, rfl⟩, -⟩ := h.held n (hh ▸ hhand)
      obtain ⟨g, hg, hgn, -⟩ := (hl f hf).resolve_right fun hnot ↦ hnot.2 hhand
      exact ⟨g, hg, hgn⟩
    · simp [hh] at hhand
  listed n hnot := (hn n hnot).1

/-- A waiting entry is not with the carrier. -/
theorem Carried.not_mem_of_waits (h : Carried o) (ho : Ordered o) {e : Entry} (he : e ∈ o.entries)
    (hwaits : e.handed = false) : e.number ∉ o.inFlight := by
  intro hmem
  obtain ⟨f, hf, hfe, hfh⟩ := h.flight _ hmem
  obtain rfl := ho.sorted.eq_of_number hf he hfe
  simp [hwaits] at hfh

/-- A waiting entry is handed over. -/
theorem Carried.handOver (h : Carried o) (ho : Ordered o) {e : Entry} (he : e ∈ o.entries)
    (hwaits : e.handed = false) {taken : Bool} (hl : o'.entries = mark e.number o.entries)
    (hf : o'.inFlight = if taken then e.number :: o.inFlight else o.inFlight)
    (hh : o'.hand = some (e.number, taken)) (hn : o'.notifying = none) : Carried o' := by
  have hnew := h.not_mem_of_waits ho he hwaits
  obtain ⟨g, hg, hge, -, hgh⟩ := mem_mark_of_mem (n := e.number) he
  have hold : ∀ n ∈ o.inFlight, ∃ f ∈ o'.entries, f.number = n ∧ f.handed = true := by
    intro n hnf
    obtain ⟨f, hf, rfl, hfh⟩ := h.flight n hnf
    obtain ⟨f', hf', hff', -, hiff⟩ := mem_mark_of_mem (n := e.number) hf
    exact ⟨f', hl ▸ hf', hff', hiff.mpr (Or.inl hfh)⟩
  cases taken with
  | false =>
    simp only [Bool.false_eq_true, if_false] at hf
    refine ⟨fun n hnf ↦ hold n (hf ▸ hnf), hf ▸ h.nodup, fun n hnf ↦ ⟨by simp [hn], ?_⟩,
      fun n hhand ↦ ⟨?_, by simp [hn]⟩, fun n hnot ↦ by simp [hn] at hnot⟩
    · rintro heq
      obtain rfl : e.number = n := by simpa [hh] using heq
      exact hnew (hf ▸ hnf)
    · obtain rfl : e.number = n := by simpa [hh] using hhand
      exact ⟨g, hl ▸ hg, hge⟩
  | true =>
    simp only [if_true] at hf
    refine ⟨fun n hnf ↦ ?_, hf ▸ List.nodup_cons.mpr ⟨hnew, h.nodup⟩,
      fun n _ ↦ ⟨by simp [hn], by simp [hh]⟩, fun n hhand ↦ by simp [hh] at hhand,
      fun n hnot ↦ by simp [hn] at hnot⟩
    rw [hf] at hnf
    rcases List.mem_cons.mp hnf with rfl | hnf
    · exact ⟨g, hl ▸ hg, hge, hgh.mpr (Or.inr rfl)⟩
    · exact hold n hnf

/-! ### The notices -/

@[simp]
theorem mem_notice {e : Entry} {r : Notice} {ev : Event} :
    ev ∈ e.notice r ↔ e.heard = true ∧ ev = .notified e.number r := by
  unfold Entry.notice
  split_ifs with h <;> simp [h]

theorem notices_notice (e : Entry) (r : Notice) (n : Nat) :
    notices (e.notice r) n = if e.heard = true ∧ e.number = n then 1 else 0 := by
  unfold Entry.notice
  split_ifs with h h' h' <;> simp_all [notices]

/-- Events that neither accept, report nor notify. -/
def Silent (t : List Event) : Prop :=
  accepted t = [] ∧ (∀ n, notices t n = 0) ∧ (∀ n h, Event.accepted n h ∉ t) ∧
    ∀ n good, Event.reported n good ∉ t

/-- A step without a notice. -/
theorem Accounted.keep (h : Accounted o) {t : List Event} (ht : o'.trace = o.trace ++ t)
    (hsilent : Silent t) (hnext : o'.next = o.next)
    (hl : ∀ e ∈ o'.entries, ∃ b ∈ o.entries, e.number = b.number ∧ e.heard = b.heard)
    (hl' : ∀ b ∈ o.entries, o.notifying ≠ some b.number → ∃ e ∈ o'.entries, e.number = b.number)
    (hn : ∀ e ∈ o'.entries, o'.notifying ≠ some e.number → o.notifying ≠ some e.number)
    (hn' : ∀ n, o'.notifying = some n → o.notifying = some n) : Accounted o' := by
  obtain ⟨hacc, hnot, hnacc, hnrep⟩ := hsilent
  have hmem : ∀ n hd, Event.accepted n hd ∈ o'.trace ↔ Event.accepted n hd ∈ o.trace := by
    intro n hd
    simp [ht, hnacc n hd]
  have hcount : ∀ n, notices o'.trace n = notices o.trace n := by
    intro n
    simp [ht, hnot n]
  have hrep : ∀ n good, Event.reported n good ∈ o'.trace ↔ Event.reported n good ∈ o.trace := by
    intro n good
    simp [ht, hnrep n good]
  refine ⟨?_, ?_, ?_, ?_, ?_, ?_⟩
  · simp [ht, hacc, h.all, hnext]
  · intro e he
    obtain ⟨b, hb, hnum, hhd⟩ := hl e he
    rw [hnum, hhd]
    exact (hmem _ _).mpr (h.heard b hb)
  · intro n a b ha hb
    exact h.heardOnce n a b ((hmem n a).mp ha) ((hmem n b).mp hb)
  · intro e he hne
    obtain ⟨b, hb, hnum, -⟩ := hl e he
    have hold := hnum ▸ hn e he hne
    simp only [hcount, hrep, hnum]
    exact h.fresh b hb hold
  · intro n hn1 hall
    rw [hcount]
    refine h.once n ((hmem n true).mp hn1) fun b hb hbn ↦ ?_
    by_contra hne
    obtain ⟨e, he, hen⟩ := hl' b hb (hbn ▸ hne)
    exact hne (hn' n (hall e he (hen.trans hbn)))
  · intro n hle
    simp only [hcount, hrep]
    exact h.future n (hnext ▸ hle)

/-- A step that tells one entry its notice. -/
theorem Accounted.notify (h : Accounted o) (ho : Ordered o) {e : Entry} (he : e ∈ o.entries)
    (hquiet : o.notifying = none) {t : List Event} {r : Notice}
    (ht : o'.trace = o.trace ++ (t ++ e.notice r)) (hacc : accepted t = [])
    (hnacc : ∀ n h, Event.accepted n h ∉ t) (hnot : ∀ n, notices t n = 0)
    (hnrep : ∀ n good, Event.reported n good ∈ t → n = e.number) (hnext : o'.next = o.next)
    (hl : ∀ a ∈ o'.entries, ∃ b ∈ o.entries, a.number = b.number ∧ a.heard = b.heard)
    (hl' : ∀ b ∈ o.entries, b.number ≠ e.number → ∃ a ∈ o'.entries, a.number = b.number)
    (hn : ∀ a ∈ o'.entries, a.number = e.number → o'.notifying = some e.number)
    (hn' : ∀ n, o'.notifying = some n → n = e.number) : Accounted o' := by
  have hmem : ∀ n hd, Event.accepted n hd ∈ o'.trace ↔ Event.accepted n hd ∈ o.trace := by
    intro n hd
    simp [ht, hnacc n hd]
  have hcount : ∀ n, n ≠ e.number → notices o'.trace n = notices o.trace n := by
    intro n hne
    simp [ht, hnot n, notices_notice, Ne.symm hne]
  have hrep : ∀ n good, n ≠ e.number →
      (Event.reported n good ∈ o'.trace ↔ Event.reported n good ∈ o.trace) := by
    intro n good hne
    simp only [ht, List.mem_append, mem_notice]
    refine ⟨?_, Or.inl⟩
    rintro (hold | hnew | ⟨-, hnew⟩)
    · exact hold
    · exact absurd (hnrep n good hnew) hne
    · simp at hnew
  refine ⟨?_, ?_, ?_, ?_, ?_, ?_⟩
  · simp [ht, hacc, h.all, hnext]
  · intro a ha
    obtain ⟨b, hb, hnum, hhd⟩ := hl a ha
    rw [hnum, hhd]
    exact (hmem _ _).mpr (h.heard b hb)
  · intro n a b ha hb
    exact h.heardOnce n a b ((hmem n a).mp ha) ((hmem n b).mp hb)
  · intro a ha hne
    obtain ⟨b, hb, hnum, -⟩ := hl a ha
    have hother : b.number ≠ e.number := fun heq ↦ hne (by rw [hnum, heq, hn a ha (hnum.trans heq)])
    simp only [hnum, hcount _ hother, hrep _ _ hother]
    exact h.fresh b hb (by simp [hquiet])
  · intro n hn1 hall
    by_cases hne : n = e.number
    · subst hne
      have hheard := h.heardOnce _ _ _ (h.heard e he) ((hmem _ true).mp hn1)
      simp [ht, (h.fresh e he (by simp [hquiet])).1, hnot, notices_notice, hheard]
    · rw [hcount n hne]
      refine h.once n ((hmem n true).mp hn1) fun b hb hbn ↦ ?_
      obtain ⟨a, ha, hab⟩ := hl' b hb (hbn ▸ hne)
      exact absurd (hn' n (hall a ha (hab.trans hbn))) hne
  · intro n hle
    have hother : n ≠ e.number := Nat.ne_of_gt (Nat.lt_of_lt_of_le (ho.below e he) (hnext ▸ hle))
    simp only [hcount _ hother, hrep _ _ hother]
    exact h.future n (hnext ▸ hle)

theorem Accounted.accept (h : Accounted o) (hc : Carried o) (ho : Ordered o) (heard : Bool) :
    Accounted { o with
      entries := o.entries ++ [⟨o.next, false, heard⟩]
      next := o.next + 1
      trace := o.trace ++ [.accepted o.next heard] } := by
  have hnew : ∀ hd, Event.accepted o.next hd ∉ o.trace := by
    intro hd hmem
    have : o.next ∈ accepted o.trace := List.mem_filterMap.mpr ⟨_, hmem, rfl⟩
    simp [h.all] at this
  have hzero : ∀ n, notices [Event.accepted o.next heard] n = 0 := fun n ↦ rfl
  refine ⟨?_, ?_, ?_, ?_, ?_, ?_⟩
  · rw [accepted_append, h.all, List.range_succ]
    rfl
  · intro e he
    rcases List.mem_append.mp he with he | he
    · exact List.mem_append_left _ (h.heard e he)
    · obtain rfl := List.mem_singleton.mp he
      exact List.mem_append_right _ (List.mem_singleton_self _)
  · intro n a b ha hb
    simp only [List.mem_append, List.mem_singleton, Event.accepted.injEq] at ha hb
    rcases ha with ha | ⟨rfl, rfl⟩ <;> rcases hb with hb | ⟨hn, rfl⟩
    · exact h.heardOnce n a b ha hb
    · exact absurd (hn ▸ ha) (hnew a)
    · exact absurd hb (hnew b)
    · rfl
  · intro e he hne
    simp only [notices_append, hzero, Nat.add_zero, List.mem_append, List.mem_singleton,
      reduceCtorEq, or_false]
    rcases List.mem_append.mp he with he | he
    · exact h.fresh e he hne
    · obtain rfl := List.mem_singleton.mp he
      exact h.future _ (Nat.le_refl _)
  · intro n hn1 hall
    simp only [notices_append, hzero, Nat.add_zero]
    simp only [List.mem_append, List.mem_singleton, Event.accepted.injEq] at hn1
    rcases hn1 with hn1 | ⟨rfl, -⟩
    · exact h.once n hn1 fun e he ↦ hall e (List.mem_append_left _ he)
    · obtain ⟨e, he, hen⟩ := hc.listed _ (hall ⟨o.next, false, heard⟩ (by simp) rfl)
      exact absurd (ho.below e he) (by omega)
  · intro n hle
    simp only [notices_append, hzero, Nat.add_zero, List.mem_append, List.mem_singleton,
      reduceCtorEq, or_false]
    exact h.future n (Nat.le_of_succ_le hle)

/-! ### The reasons -/

/-- An entry that is not being told its notice has been told none and has no report. -/
theorem Accounted.untold (h : Accounted o) {e : Entry} (he : e ∈ o.entries)
    (hne : o.notifying ≠ some e.number) :
    (∀ r, Event.notified e.number r ∉ o.trace) ∧ ∀ good, Event.reported e.number good ∉ o.trace :=
  ⟨notices_eq_zero_iff.mp (h.fresh e he hne).1, (h.fresh e he hne).2⟩

/-- A waiting entry has not been handed over. -/
theorem Ordered.not_handedOver (h : Ordered o) {e : Entry} (he : e ∈ o.entries)
    (hwaits : e.handed = false) (taken : Bool) : Event.handedOver e.number taken ∉ o.trace :=
  fun hmem ↦ Nat.lt_irrefl _ (h.givenBefore _ (mem_handedOver.mpr ⟨taken, hmem⟩) e he hwaits)

theorem Truthful.step (h : Truthful o) (ha : Accounted o) (ho : Ordered o) (hs : Step o o') :
    Truthful o' := by
  cases hs with
  | accept heard hopen =>
    have hnew := (ha.future o.next (Nat.le_refl _)).2
    constructor <;> simp <;> grind [Truthful]
  | start => exact ⟨h.1, h.2, h.3, h.4, h.5, h.6, h.7, h.8⟩
  | leave => exact ⟨h.1, h.2, h.3, h.4, h.5, h.6, by simp, h.8⟩
  | skip => exact ⟨h.1, h.2, h.3, h.4, h.5, h.6, h.7, h.8⟩
  | fail hpass he hwaits hhand hquiet =>
    constructor <;> simp <;> grind [Truthful]
  | @expire e hpass he hwaits hhand hquiet =>
    have hnew := ho.not_handedOver he hwaits
    constructor <;> simp <;> grind [Truthful]
  | @handOver e taken hpass he hwaits hhand hquiet =>
    have hnew := (ha.untold he (by simp [hquiet])).1
    constructor <;> simp <;> grind [Truthful]
  | returned => exact ⟨h.1, h.2, h.3, h.4, h.5, h.6, by simp, h.8⟩
  | refuse hhand he hquiet =>
    constructor <;> simp <;> grind [Truthful]
  | @report e good he hflight hcarrier hquiet =>
    have hnew := (ha.untold he (by simp [hquiet])).1
    have hheard : Event.accepted e.number true ∈ o.trace → e.heard = true :=
      ha.heardOnce _ _ _ (ha.heard e he)
    cases good <;> constructor <;> simp <;> grind [Truthful]
  | release => constructor <;> simp <;> grind [Truthful]
  | close => constructor <;> simp <;> grind [Truthful]
  | @abandon e rest hhead hclosed hpass hhand hquiet =>
    have hnew := (ha.untold (hhead ▸ List.mem_cons_self : e ∈ o.entries) (by simp [hquiet])).2
    -- every event but the removal and the notice is an old one
    have hmem : ∀ ev, ev ∈ o.trace ++ .removed e.number :: e.notice .abandoned ↔ ev ∈ o.trace ∨
        ev = .removed e.number ∨ e.heard = true ∧ ev = .notified e.number .abandoned :=
      fun ev ↦ by simp only [List.mem_append, List.mem_cons, mem_notice]
    constructor <;> simp only [hmem, reduceCtorEq, Event.notified.injEq, and_false, and_true,
      or_false, false_or]
    · exact h.delivered
    · exact h.failed
    · exact h.expired
    · rintro n (hold | ⟨-, hn⟩)
      · exact h.abandoned n hold
      · exact ⟨h.closed hclosed, hn ▸ hnew⟩
    · intro n good hn
      exact ⟨(h.reported n good hn).1, fun hacc ↦ .inl ((h.reported n good hn).2 hacc)⟩
    · exact fun n hn ↦ h.flight n (List.mem_of_mem_erase hn)
    · exact h.held
    · exact h.closed

/-! ### All together -/

theorem silent_of_forall {t : List Event}
    (h : ∀ ev ∈ t, match ev with
      | .accepted _ _ | .notified _ _ | .reported _ _ => False
      | _ => True) : Silent t := by
  refine ⟨?_, fun n ↦ notices_eq_zero_iff.mpr fun r hr ↦ h _ hr, fun n hd hm ↦ h _ hm,
    fun n good hm ↦ h _ hm⟩
  refine List.filterMap_eq_nil_iff.mpr fun ev hev ↦ ?_
  have := h ev hev
  cases ev <;> simp_all

theorem Ordered.step (h : Inv o) (hs : Step o o') : Ordered o' := by
  obtain ⟨ho, hw, -, -, -⟩ := h
  cases hs with
  | accept heard hopen => exact ho.concat heard rfl rfl (by simp [handedOver])
  | start => exact ho.sublist (.refl _) rfl rfl
  | leave => exact ho.sublist (.refl _) rfl rfl
  | skip => exact ho.sublist (.refl _) rfl rfl
  | fail => exact ho.sublist (.refl _) rfl (by simp [handedOver])
  | expire hpass he hwaits hhand hquiet =>
    exact ho.mark he hwaits (fun a ha ↦ hw.handed_before hquiet hpass ha) rfl rfl
      (Or.inl (by simp [handedOver]))
  | handOver taken hpass he hwaits hhand hquiet =>
    exact ho.mark he hwaits (fun a ha ↦ hw.handed_before hquiet hpass ha) rfl rfl
      (Or.inr (by simp [handedOver]))
  | returned => exact ho.sublist (.refl _) rfl rfl
  | refuse => exact ho.sublist (.refl _) rfl (by simp)
  | report => exact ho.sublist (.refl _) rfl (by simp [handedOver])
  | release => exact ho.sublist List.filter_sublist rfl (by simp [handedOver])
  | close => exact ho.sublist (.refl _) rfl (by simp [handedOver])
  | @abandon e rest hhead =>
    exact ho.sublist (hhead ▸ List.sublist_cons_self e rest) rfl (by simp [handedOver])

theorem Walking.step (h : Inv o) (hs : Step o o') : Walking o' := by
  obtain ⟨ho, hw, hc, -, -⟩ := h
  cases hs with
  | accept heard hopen => exact hw.concat ho rfl rfl rfl rfl rfl
  | start hpass hhand hquiet => exact .start ho rfl rfl hhand hquiet
  | leave => exact .of_pass_none rfl
  | skip hpass he hhanded hhand hquiet =>
    exact hw.skip ho hpass he hhanded hquiet rfl rfl hhand hquiet
  | fail hpass he hwaits hhand hquiet =>
    exact hw.past ho hpass he hwaits hquiet (Or.inl ⟨rfl, rfl⟩) rfl (by simp [hhand]) (by simp)
  | expire hpass he hwaits hhand hquiet =>
    exact hw.past ho hpass he hwaits hquiet (Or.inr rfl) rfl (by simp [hhand]) (by simp)
  | handOver taken hpass he hwaits hhand hquiet =>
    exact hw.past ho hpass he hwaits hquiet (Or.inr rfl) rfl (by simp) (by simp [hquiet])
  | returned hhand hquiet =>
    exact hw.turn hquiet rfl rfl (by simp) (by simp [hquiet]) (by simp [hquiet])
  | @refuse e hhand he hquiet =>
    refine hw.turn hquiet rfl rfl (by simp) (fun _ ↦ Or.inr (by simp [hhand])) fun c hn hp ↦ ?_
    obtain rfl : e.number = c := by simpa using hn
    exact (hw.apart _ hp).2 false hhand
  | @report e good he hflight hcarrier hquiet =>
    refine hw.turn hquiet rfl rfl (fun _ _ h ↦ h) (fun _ ↦ hcarrier) fun c hn hp ↦ ?_
    obtain rfl : e.number = c := by simpa using hn
    obtain ⟨f, hf, hfe, hwaits⟩ := hw.ahead _ hp
    rcases hcarrier with hcarrier | hcarrier
    · simp [hcarrier] at hp
    · exact hc.not_mem_of_waits ho hf (hwaits (Or.inl hcarrier)) (hfe ▸ hflight)
  | release hnotifying => exact hw.release hnotifying rfl rfl rfl rfl
  | close => exact ⟨hw.1, hw.2, hw.3⟩
  | abandon hhead hclosed hpass => exact .of_pass_none hpass

theorem Carried.step (h : Inv o) (hs : Step o o') : Carried o' := by
  obtain ⟨ho, hw, hc, -, -⟩ := h
  have same : ∀ f ∈ o.entries, ∃ g ∈ o.entries, g.number = f.number ∧
      (f.handed = true → g.handed = true) := fun f hf ↦ ⟨f, hf, rfl, id⟩
  cases hs with
  | accept heard hopen =>
    refine hc.keep (.refl _) (fun f hf ↦ Or.inl ⟨f, List.mem_append_left _ hf, rfl, id⟩)
      (Or.inl rfl) fun n hn ↦ ?_
    obtain ⟨e, he, hen⟩ := hc.listed n hn
    exact ⟨⟨e, List.mem_append_left _ he, hen⟩, fun hm ↦ (hc.quiet n hm).1 hn,
      fun hh ↦ (hc.held n hh).2 hn⟩
  | start hpass hhand hquiet =>
    exact hc.keep (.refl _) (fun f hf ↦ Or.inl (same f hf)) (Or.inl rfl) (by simp [hquiet])
  | leave hquiet =>
    exact hc.keep (.refl _) (fun f hf ↦ Or.inl (same f hf)) (Or.inr rfl) (by simp [hquiet])
  | skip hpass he hhanded hhand hquiet =>
    exact hc.keep (.refl _) (fun f hf ↦ Or.inl (same f hf)) (Or.inl rfl) (by simp [hquiet])
  | @fail e hpass he hwaits hhand hquiet =>
    refine hc.keep (.refl _) (fun f hf ↦ Or.inl (same f hf)) (Or.inl rfl) fun n hn ↦ ?_
    obtain rfl : e.number = n := by simpa using hn
    exact ⟨⟨e, he, rfl⟩, hc.not_mem_of_waits ho he hwaits, by simp [hhand]⟩
  | @expire e hpass he hwaits hhand hquiet =>
    refine hc.keep (.refl _) (fun f hf ↦ Or.inl ?_) (Or.inl rfl) fun n hn ↦ ?_
    · obtain ⟨g, hg, hgf, -, hiff⟩ := mem_mark_of_mem (n := e.number) hf
      exact ⟨g, hg, hgf, fun h ↦ hiff.mpr (Or.inl h)⟩
    · obtain rfl : e.number = n := by simpa using hn
      obtain ⟨g, hg, hge, -, -⟩ := mem_mark_of_mem (n := e.number) he
      exact ⟨⟨g, hg, hge⟩, hc.not_mem_of_waits ho he hwaits, by simp [hhand]⟩
  | handOver taken hpass he hwaits hhand hquiet => exact hc.handOver ho he hwaits rfl rfl rfl hquiet
  | returned hhand hquiet =>
    exact hc.keep (.refl _) (fun f hf ↦ Or.inl (same f hf)) (Or.inr rfl) (by simp [hquiet])
  | @refuse e hhand he hquiet =>
    refine hc.keep (.refl _) (fun f hf ↦ Or.inl (same f hf)) (Or.inr rfl) fun n hn ↦ ?_
    obtain rfl : e.number = n := by simpa using hn
    exact ⟨⟨e, he, rfl⟩, fun hm ↦ (hc.quiet _ hm).2 hhand, by simp⟩
  | @report e good he hflight hcarrier hquiet =>
    refine hc.keep List.erase_sublist (fun f hf ↦ Or.inl (same f hf)) (Or.inl rfl) fun n hn ↦ ?_
    obtain rfl : e.number = n := by simpa using hn
    exact ⟨⟨e, he, rfl⟩, hc.nodup.not_mem_erase, (hc.quiet _ hflight).2⟩
  | @release n hnotifying =>
    refine hc.keep (.refl _) (fun f hf ↦ ?_) (Or.inl rfl) (by simp)
    by_cases hfn : f.number = n
    · exact Or.inr ⟨fun hm ↦ (hc.quiet _ hm).1 (hfn ▸ hnotifying),
        fun hh ↦ (hc.held _ hh).2 (hfn ▸ hnotifying)⟩
    · exact Or.inl ⟨f, mem_unlink.mpr ⟨hf, hfn⟩, rfl, id⟩
  | close => exact ⟨hc.1, hc.2, hc.3, hc.4, hc.5⟩
  | @abandon e rest hhead hclosed hpass hhand hquiet =>
    refine hc.keep List.erase_sublist (fun f hf ↦ ?_) (Or.inl rfl) (by simp [hquiet])
    rw [hhead] at hf
    rcases List.mem_cons.mp hf with rfl | hf
    · exact Or.inr ⟨hc.nodup.not_mem_erase, by simp [hhand]⟩
    · exact Or.inl ⟨f, hf, rfl, id⟩

theorem Accounted.step (h : Inv o) (hs : Step o o') : Accounted o' := by
  obtain ⟨ho, hw, hc, ha, -⟩ := h
  have same : ∀ e ∈ o.entries, ∃ b ∈ o.entries, e.number = b.number ∧ e.heard = b.heard :=
    fun e he ↦ ⟨e, he, rfl, rfl⟩
  have same' : ∀ b ∈ o.entries, ∃ e ∈ o.entries, e.number = b.number := fun b hb ↦ ⟨b, hb, rfl⟩
  have marked : ∀ n, ∀ e ∈ mark n o.entries, ∃ b ∈ o.entries, e.number = b.number ∧
      e.heard = b.heard := fun n e he ↦ by
    obtain ⟨b, hb, hnum, hhd, -⟩ := exists_of_mem_mark he
    exact ⟨b, hb, hnum, hhd⟩
  have marked' : ∀ n, ∀ b ∈ o.entries, ∃ e ∈ mark n o.entries, e.number = b.number :=
    fun n b hb ↦ by
    obtain ⟨e, he, hnum, -⟩ := mem_mark_of_mem (n := n) hb
    exact ⟨e, he, hnum⟩
  have nothing : Silent [] := silent_of_forall (by simp)
  cases hs with
  | accept heard hopen => exact ha.accept hc ho heard
  | start hpass hhand hquiet =>
    exact ha.keep (List.append_nil _).symm nothing rfl same (fun b hb _ ↦ same' b hb)
      (fun _ _ h ↦ h) fun _ h ↦ h
  | leave hquiet =>
    exact ha.keep (List.append_nil _).symm nothing rfl same (fun b hb _ ↦ same' b hb)
      (fun _ _ h ↦ h) fun _ h ↦ h
  | skip =>
    exact ha.keep (List.append_nil _).symm nothing rfl same (fun b hb _ ↦ same' b hb)
      (fun _ _ h ↦ h) fun _ h ↦ h
  | @fail e hpass he hwaits hhand hquiet =>
    exact ha.notify ho he hquiet rfl (t := [.unbuildable e.number]) rfl (by simp) (fun _ ↦ rfl)
      (by simp) rfl same (fun b hb _ ↦ same' b hb) (fun _ _ _ ↦ rfl) (by simp [eq_comm])
  | @expire e hpass he hwaits hhand hquiet =>
    exact ha.notify ho he hquiet rfl (t := [.overdue e.number]) rfl (by simp) (fun _ ↦ rfl)
      (by simp) rfl (marked _) (fun b hb _ ↦ marked' _ b hb) (fun _ _ _ ↦ rfl) (by simp [eq_comm])
  | @handOver e taken hpass he hwaits hhand hquiet =>
    exact ha.keep rfl (silent_of_forall (by simp)) rfl (marked _) (fun b hb _ ↦ marked' _ b hb)
      (fun _ _ _ ↦ by simp [hquiet]) fun _ h ↦ h
  | returned =>
    exact ha.keep (List.append_nil _).symm nothing rfl same (fun b hb _ ↦ same' b hb)
      (fun _ _ h ↦ h) fun _ h ↦ h
  | @refuse e hhand he hquiet =>
    exact ha.notify ho he hquiet rfl (t := []) rfl (by simp) (fun _ ↦ rfl) (by simp) rfl same
      (fun b hb _ ↦ same' b hb) (fun _ _ _ ↦ rfl) (by simp [eq_comm])
  | @report e good he hflight hcarrier hquiet =>
    exact ha.notify ho he hquiet rfl (t := [.reported e.number good]) rfl (by simp) (fun _ ↦ rfl)
      (by simp) rfl same (fun b hb _ ↦ same' b hb) (fun _ _ _ ↦ rfl) (by simp [eq_comm])
  | @release n hnotifying =>
    refine ha.keep rfl (silent_of_forall (by simp)) rfl (fun e he ↦ same e (mem_unlink.mp he).1)
      (fun b hb hne ↦ ⟨b, mem_unlink.mpr ⟨hb, fun hbn ↦ hne (hbn ▸ hnotifying)⟩, rfl⟩)
      (fun e he _ h ↦ ?_) (by simp)
    exact (mem_unlink.mp he).2 (Option.some.inj (hnotifying.symm.trans h)).symm
  | close =>
    exact ha.keep rfl (silent_of_forall (by simp)) rfl same (fun b hb _ ↦ same' b hb)
      (fun _ _ h ↦ h) fun _ h ↦ h
  | @abandon e rest hhead hclosed hpass hhand hquiet =>
    have he : e ∈ o.entries := hhead ▸ List.mem_cons_self
    refine ha.notify ho he hquiet rfl (t := [.removed e.number]) rfl (by simp) (fun _ ↦ rfl)
      (by simp) rfl (fun a h ↦ same a (hhead ▸ List.mem_cons_of_mem e h)) (fun b hb hne ↦ ?_)
      (fun a h heq ↦ ?_) (by simp [hquiet])
    · rw [hhead] at hb
      exact ⟨b, (List.mem_cons.mp hb).resolve_left fun heq ↦ hne (heq ▸ rfl), rfl⟩
    · have hlt := (List.pairwise_cons.mp (hhead ▸ ho.sorted)).1 a h
      exact absurd heq (Nat.ne_of_gt hlt)

/-- Every step keeps the invariant. -/
theorem Inv.step (h : Inv o) (hs : Step o o') : Inv o' :=
  ⟨.step h hs, .step h hs, .step h hs, .step h hs, h.truthful.step h.accounted h.ordered hs⟩

/-- Every run keeps the invariant. -/
theorem Inv.steps (h : Inv o) (hs : Relation.ReflTransGen Step o o') : Inv o' := by
  induction hs with
  | refl => exact h
  | tail _ hstep ih => exact ih.step hstep

/-- A new outbox. -/
theorem Inv.new : Inv {} where
  ordered := ⟨.nil, by simp, .nil, .nil, by simp [handedOver], by simp [handedOver]⟩
  walking := .of_pass_none rfl
  carried := ⟨by simp, .nil, by simp, by simp, by simp⟩
  accounted := ⟨rfl, by simp, by simp, by simp, by simp, fun _ _ ↦ ⟨rfl, by simp⟩⟩
  truthful := ⟨by simp, by simp, by simp, by simp, by simp, by simp, by simp, by simp⟩

/-! ### What the invariant says -/

/-- An increasing list of numbers below `m` is a subsequence of all of them. -/
theorem sublist_range {l : List Nat} {m : Nat} (h : l.Pairwise (· < ·)) (hbelow : ∀ n ∈ l, n < m) :
    l.Sublist (List.range m) := by
  have hfilter : l = (List.range m).filter (· ∈ l) := by
    refine h.eq_of_mem_iff (List.pairwise_lt_range.filter _) fun n ↦ ?_
    simp only [List.mem_filter, List.mem_range, decide_eq_true_eq]
    exact ⟨fun hn ↦ ⟨hbelow n hn, hn⟩, And.right⟩
  rw [hfilter]
  exact List.filter_sublist

/-- The entries handed over are a subsequence of the accepted ones, each at most once. -/
theorem Inv.handedOver_sublist (h : Inv o) :
    (handedOver o.trace).Sublist (accepted o.trace) ∧ (handedOver o.trace).Nodup := by
  refine ⟨?_, h.ordered.given.imp fun hlt ↦ Nat.ne_of_lt hlt⟩
  rw [h.accounted.all]
  exact sublist_range h.ordered.given h.ordered.givenBelow

/-- The entry numbered `n` has been handed over or is gone. -/
structure Spent (n : Nat) (o : Outbox) : Prop where
  old : n < o.next
  handed : ∀ e ∈ o.entries, e.number = n → e.handed = true

theorem Spent.sublist {n : Nat} (h : Spent n o) (hl : o'.entries.Sublist o.entries)
    (hn : o'.next = o.next) : Spent n o' :=
  ⟨hn ▸ h.old, fun e he ↦ h.handed e (hl.subset he)⟩

theorem Spent.mark {n : Nat} (h : Spent n o) (m : Nat) (hl : o'.entries = mark m o.entries)
    (hn : o'.next = o.next) : Spent n o' := by
  refine ⟨hn ▸ h.old, fun e he heq ↦ ?_⟩
  obtain ⟨a, ha, hnumber, -, hhanded⟩ := exists_of_mem_mark (hl ▸ he)
  exact hhanded.mpr (Or.inl (h.handed a ha (hnumber.symm.trans heq)))

/-- A spent entry stays spent, and a step does not hand it over. -/
theorem Spent.step {n : Nat} (h : Spent n o) (hs : Step o o') :
    Spent n o' ∧ ∃ events, o'.trace = o.trace ++ events ∧ n ∉ handedOver events := by
  have hkeep : ∃ events, o.trace = o.trace ++ events ∧ n ∉ handedOver events :=
    ⟨[], (List.append_nil _).symm, by simp [handedOver]⟩
  have hnotice : ∀ (a : Event) (e : Entry) (r : Notice), handedOver [a] = [] →
      n ∉ handedOver (a :: e.notice r) := by
    intro a e r ha
    rw [← List.singleton_append, handedOver_append, ha, handedOver_notice]
    simp
  cases hs with
  | accept heard hopen =>
    refine ⟨⟨Nat.lt_succ_of_lt h.old, fun e he heq ↦ ?_⟩, _, rfl, by simp [handedOver]⟩
    rcases List.mem_append.mp he with he | he
    · exact h.handed e he heq
    · obtain rfl := List.mem_singleton.mp he
      exact absurd h.old (by simp [← heq])
  | start => exact ⟨h.sublist (.refl _) rfl, hkeep⟩
  | leave => exact ⟨h.sublist (.refl _) rfl, hkeep⟩
  | skip => exact ⟨h.sublist (.refl _) rfl, hkeep⟩
  | fail => exact ⟨h.sublist (.refl _) rfl, _, rfl, hnotice _ _ _ rfl⟩
  | @expire e =>
    exact ⟨h.mark e.number rfl rfl, _, rfl, hnotice _ _ _ rfl⟩
  | @handOver e taken _ he hwaits _ _ =>
    refine ⟨h.mark e.number rfl rfl, _, rfl, ?_⟩
    have hne : e.number ≠ n := fun heq ↦ by simp [h.handed e he heq] at hwaits
    simpa [handedOver] using hne.symm
  | returned => exact ⟨h.sublist (.refl _) rfl, hkeep⟩
  | refuse => exact ⟨h.sublist (.refl _) rfl, _, rfl, by simp⟩
  | report => exact ⟨h.sublist (.refl _) rfl, _, rfl, hnotice _ _ _ rfl⟩
  | release => exact ⟨h.sublist List.filter_sublist rfl, _, rfl, by simp [handedOver]⟩
  | close => exact ⟨h.sublist (.refl _) rfl, _, rfl, by simp [handedOver]⟩
  | @abandon e rest hhead =>
    have hsub : rest.Sublist o.entries := hhead ▸ List.sublist_cons_self e rest
    exact ⟨h.sublist hsub rfl, _, rfl, hnotice _ _ _ rfl⟩

/-- A spent entry is never handed over again. -/
theorem Spent.steps {n : Nat} (h : Spent n o) (hs : Relation.ReflTransGen Step o o') :
    Spent n o' ∧ ∃ events, o'.trace = o.trace ++ events ∧ n ∉ handedOver events := by
  induction hs with
  | refl => exact ⟨h, [], (List.append_nil _).symm, by simp [handedOver]⟩
  | tail _ hstep ih =>
    obtain ⟨hspent, events, htrace, hnot⟩ := ih
    obtain ⟨hspent', events', htrace', hnot'⟩ := hspent.step hstep
    refine ⟨hspent', events ++ events', by rw [htrace', htrace, List.append_assoc], ?_⟩
    rw [handedOver_append, List.mem_append]
    exact fun hmem ↦ hmem.elim hnot hnot'

/-- Handed entries stand before the waiting ones. -/
theorem Blocks.split {l : List Entry} (h : Blocks l) :
    ∃ l₁ l₂, l = l₁ ++ l₂ ∧ (∀ e ∈ l₁, e.handed = true) ∧ ∀ e ∈ l₂, e.handed = false := by
  induction l with
  | nil => exact ⟨[], [], rfl, by simp, by simp⟩
  | cons e l ih =>
    obtain ⟨he, hl⟩ := List.pairwise_cons.mp h
    cases hhanded : e.handed with
    | true =>
      obtain ⟨l₁, l₂, rfl, h₁, h₂⟩ := ih hl
      exact ⟨e :: l₁, l₂, rfl, by simpa [hhanded] using h₁, h₂⟩
    | false =>
      refine ⟨[], e :: l, rfl, by simp, fun a ha ↦ ?_⟩
      rcases List.mem_cons.mp ha with rfl | ha
      · exact hhanded
      · by_contra hne
        have := he a ha (by simpa using hne)
        simp [hhanded] at this

end Outbox
