import EventHubs.Library.OutboxInvariant

/-!
# Passes

A pass walks along the entries until no entry follows. Whatever is accepted, reported and removed
while it walks, no entry that was accepted before it began waits behind it at its end, and it looks
at no entry twice.

## Main definitions

* `Outbox.Swept` — a pass at its end has left no early entry waiting.
* `Outbox.ahead` — how many entries a pass still looks at.

## Main results

* `Outbox.Swept.steps` — no pass leaves an entry behind that was accepted before it began.
* `Outbox.ahead_follow` — a pass that goes on has fewer entries ahead.
-/

namespace Outbox

variable {o o' : Outbox}

/-- When no entry follows, the entry is the last one. -/
theorem follow_none {l : List Entry} (hs : Sorted l) {e : Entry} (he : e ∈ l)
    (h : follow e.number l = none) : ∀ f ∈ l, f.number ≤ e.number := by
  intro f hf
  obtain ⟨l₁, l₂, rfl⟩ := List.append_of_mem he
  obtain ⟨-, -, h₁₂⟩ := List.pairwise_append.mp hs
  have hdrop : (l₁ ++ e :: l₂).dropWhile (fun a ↦ a.number ≠ e.number) = e :: l₂ := by
    rw [List.dropWhile_append_of_pos fun a ha ↦ by
      simpa using Nat.ne_of_lt (h₁₂ a ha e List.mem_cons_self)]
    simp
  rw [follow, hdrop, List.tail_cons, Option.map_eq_none_iff, List.head?_eq_none_iff] at h
  subst h
  rcases List.mem_append.mp hf with hf | hf
  · exact Nat.le_of_lt (h₁₂ f hf e List.mem_cons_self)
  · obtain rfl := List.mem_singleton.mp hf
    exact Nat.le_refl _

/-! ### What a pass leaves behind -/

/-- A pass at its end has left no entry below `m` waiting. -/
structure Swept (m : Nat) (o : Outbox) : Prop where
  old : m ≤ o.next
  ended : o.pass = some none → ∀ e ∈ o.entries, e.number < m →
    e.handed = true ∨ o.notifying = some e.number

theorem Swept.of_pass {m : Nat} (hold : m ≤ o.next) (h : o.pass ≠ some none) : Swept m o :=
  ⟨hold, fun hp ↦ absurd hp h⟩

/-- A pass goes past an entry that is marked or is being told its notice. -/
theorem Swept.past {m : Nat} (h : Swept m o) (hi : Inv o) {e : Entry}
    (hpass : o.pass = some (some e.number)) (he : e ∈ o.entries) (hquiet : o.notifying = none)
    (hn : o'.next = o.next) (hp : o'.pass = some (follow e.number o.entries))
    (hl : o'.entries = o.entries ∧ (e.handed = true ∨ o'.notifying = some e.number) ∨
      o'.entries = mark e.number o.entries) : Swept m o' := by
  refine ⟨hn ▸ h.old, fun hend a ha _ ↦ ?_⟩
  have hlast := follow_none hi.ordered.sorted he (Option.some.inj (hp.symm.trans hend))
  rcases hl with ⟨hl, hdone⟩ | hl
  · rw [hl] at ha
    rcases Nat.lt_or_eq_of_le (hlast a ha) with hlt | heq
    · exact Or.inl (hi.walking.handed_before hquiet hpass ha hlt)
    · obtain rfl := hi.ordered.sorted.eq_of_number ha he heq
      exact hdone
  · rw [hl] at ha
    obtain ⟨b, hb, -, -, hiff⟩ := exists_of_mem_mark ha
    rcases Nat.lt_or_eq_of_le (hlast b hb) with hlt | heq
    · exact Or.inl (hiff.mpr (Or.inl (hi.walking.handed_before hquiet hpass hb hlt)))
    · exact Or.inl (hiff.mpr (Or.inr heq))

/-- A step keeps a pass from leaving anything behind. -/
theorem Swept.step {m : Nat} (h : Swept m o) (hi : Inv o) (hs : Step o o') : Swept m o' := by
  -- While a pass stays at its end nothing is unmarked, and a notice ends with a removal.
  have hquiet : ∀ {p : Outbox}, p.next = o.next → p.pass = o.pass → p.entries = o.entries →
      o.notifying = none → Swept m p := by
    intro p hn hp hl hnot
    refine ⟨hn ▸ h.old, fun hend e he hlt ↦ Or.inl ?_⟩
    exact (h.ended (hp ▸ hend) e (hl ▸ he) hlt).resolve_right (by simp [hnot])
  cases hs with
  | accept heard hopen =>
    refine ⟨Nat.le_succ_of_le h.old, fun hend e he hlt ↦ ?_⟩
    rcases List.mem_append.mp he with he | he
    · exact h.ended hend e he hlt
    · obtain rfl := List.mem_singleton.mp he
      exact absurd (Nat.lt_of_lt_of_le hlt h.old) (Nat.lt_irrefl _)
  | start hpass hhand hnot =>
    refine ⟨h.old, fun hend e he _ ↦ ?_⟩
    have hnil : o.entries = [] := by simpa using hend
    simp [hnil] at he
  | leave => exact .of_pass h.old (by simp)
  | skip hpass he hhanded hhand hnot =>
    exact h.past hi hpass he hnot rfl rfl (Or.inl ⟨rfl, Or.inl hhanded⟩)
  | fail hpass he hwaits hhand hnot =>
    exact h.past hi hpass he hnot rfl rfl (Or.inl ⟨rfl, Or.inr rfl⟩)
  | expire hpass he hwaits hhand hnot => exact h.past hi hpass he hnot rfl rfl (Or.inr rfl)
  | handOver taken hpass he hwaits hhand hnot =>
    exact h.past hi hpass he hnot rfl rfl (Or.inr rfl)
  | returned hhand hnot => exact hquiet rfl rfl rfl hnot
  | refuse hhand he hnot => exact hquiet rfl rfl rfl hnot
  | report good he hflight hcarrier hnot => exact hquiet rfl rfl rfl hnot
  | @release n hnotifying =>
    refine ⟨h.old, fun hend e he hlt ↦ ?_⟩
    obtain ⟨he, hne⟩ := mem_unlink.mp he
    refine Or.inl ((h.ended hend e he hlt).resolve_right fun hnot ↦ hne ?_)
    exact (Option.some.inj (hnotifying.symm.trans hnot)).symm
  | close => exact ⟨h.old, h.ended⟩
  | abandon hhead hclosed hpass => exact .of_pass h.old (by simp [hpass])

/-- No pass leaves an entry behind that was accepted before it began. -/
theorem Swept.steps {m : Nat} (h : Swept m o) (hi : Inv o)
    (hs : Relation.ReflTransGen Step o o') : Swept m o' := by
  induction hs with
  | refl => exact h
  | tail hsteps hstep ih => exact ih.step (hi.steps hsteps) hstep

/-! ### What a pass has ahead -/

/-- How many entries stand from the number `c` on. -/
def countFrom (c : Nat) (l : List Entry) : Nat := l.countP fun e ↦ c ≤ e.number

theorem countFrom_le_length (c : Nat) (l : List Entry) : countFrom c l ≤ l.length :=
  List.countP_le_length

/-- Marking changes no number. -/
theorem countFrom_mark (c n : Nat) (l : List Entry) : countFrom c (mark n l) = countFrom c l := by
  rw [countFrom, mark, List.countP_map]
  refine List.countP_congr fun e _ ↦ ?_
  simp only [Function.comp_apply]
  split_ifs <;> rfl

theorem countFrom_unlink (c n : Nat) (l : List Entry) : countFrom c (unlink n l) ≤ countFrom c l :=
  List.Sublist.countP_le List.filter_sublist

theorem countFrom_concat (c : Nat) (l : List Entry) (e : Entry) :
    countFrom c (l ++ [e]) ≤ countFrom c l + 1 := by
  rw [countFrom, List.countP_append]
  exact Nat.add_le_add_left (List.countP_le_length.trans (by simp)) _

/-- From a later place on there are fewer entries, and not the one that was passed. -/
theorem countFrom_lt {l : List Entry} {e : Entry} (he : e ∈ l) {m : Nat} (hlt : e.number < m) :
    countFrom m l < countFrom e.number l := by
  obtain ⟨l₁, l₂, rfl⟩ := List.append_of_mem he
  have hle : ∀ k : List Entry, countFrom m k ≤ countFrom e.number k := fun k ↦
    List.countP_mono_left fun a _ h ↦ by
      simp only [decide_eq_true_eq] at h ⊢
      omega
  have h₁ := hle l₁
  have h₂ := hle l₂
  simp only [countFrom, List.countP_append, List.countP_cons] at h₁ h₂ ⊢
  simp only [Nat.not_le.mpr hlt, decide_false, Nat.le_refl, decide_true, if_true]
  simp only [Bool.false_eq_true, if_false]
  omega

/-- How many entries a pass still looks at from a place on, if no more are accepted. -/
def ahead (l : List Entry) : Option Nat → Nat
  | none => 0
  | some c => countFrom c l

/-- A pass that goes on from an entry has fewer entries ahead. -/
theorem ahead_follow {l : List Entry} (hs : Sorted l) {e : Entry} (he : e ∈ l) :
    ahead l (follow e.number l) < ahead l (some e.number) := by
  cases h : follow e.number l with
  | none => exact List.countP_pos_iff.mpr ⟨e, he, by simp⟩
  | some m => exact countFrom_lt he (follow_spec hs he h).2.1

theorem ahead_le_length (l : List Entry) (c : Option Nat) : ahead l c ≤ l.length := by
  cases c with
  | none => exact Nat.zero_le _
  | some c => exact countFrom_le_length c l

theorem ahead_mark (n : Nat) (l : List Entry) (c : Option Nat) :
    ahead (mark n l) c = ahead l c := by
  cases c with
  | none => rfl
  | some c => exact countFrom_mark c n l

theorem ahead_unlink (n : Nat) (l : List Entry) (c : Option Nat) :
    ahead (unlink n l) c ≤ ahead l c := by
  cases c with
  | none => exact Nat.le_refl _
  | some c => exact countFrom_unlink c n l

theorem ahead_concat (l : List Entry) (e : Entry) (c : Option Nat) :
    ahead (l ++ [e]) c ≤ ahead l c + 1 := by
  cases c with
  | none => exact Nat.zero_le _
  | some c => exact countFrom_concat c l e

end Outbox
