import Mathlib.Data.List.Infix
import Mathlib.Data.List.Nodup
import Mathlib.Logic.Relation

/-!
# Outboxes

An outbox keeps entries in the order in which they were accepted. A pass walks along them, from
each entry to the one that follows it, and hands the waiting ones to a carrier. The carrier takes
an entry or refuses it, and reports at most once on an entry it took. Every entry ends with one
notice, given while the entry is still listed, and is removed afterwards. While a notice is given
and while the carrier has an entry in its hands, more entries can be accepted and reports on
earlier ones can arrive, although the pass already knows where it goes next.

`Outbox.Step` is the list of what can happen.

## Main definitions

* `Outbox`, `Outbox.Step`, `Outbox.follow`.
* `Outbox.Sorted`, `Outbox.Blocks` — the order of the entries.
* `Outbox.handedOver`, `Outbox.accepted`, `Outbox.notices` — what a trace says.

## Main results

* `Outbox.follow_spec`, `Outbox.follow_waits` — where a pass goes next.
* `Outbox.Blocks.mark` — marking the first waiting entry keeps the blocks.
-/

namespace Outbox

/-- What an entry is told at its end. -/
inductive Notice
  | delivered
  | failed
  | expired
  | abandoned
  deriving DecidableEq, Repr

/-- What happens, oldest first. -/
inductive Event
  | accepted (n : Nat) (heard : Bool)
  | handedOver (n : Nat) (taken : Bool)
  | reported (n : Nat) (good : Bool)
  | unbuildable (n : Nat)
  | overdue (n : Nat)
  | closing
  | notified (n : Nat) (r : Notice)
  | removed (n : Nat)
  deriving DecidableEq, Repr

/-- An entry: its number, whether it has been marked as handed over, and whether anyone listens
to its notice. -/
structure Entry where
  number : Nat
  handed : Bool
  heard : Bool
  deriving DecidableEq, Repr

/-- The number of the entry after the one numbered `c`. -/
def follow (c : Nat) (l : List Entry) : Option Nat :=
  ((l.dropWhile fun e ↦ e.number ≠ c).tail.head?).map (·.number)

/-- Mark the entry numbered `n` as handed over. -/
def mark (n : Nat) (l : List Entry) : List Entry :=
  l.map fun e ↦ if e.number = n then { e with handed := true } else e

/-- Unlink the entry numbered `n`. -/
def unlink (n : Nat) (l : List Entry) : List Entry :=
  l.filter fun e ↦ e.number ≠ n

/-- The notice of an entry, if anyone listens. -/
def Entry.notice (e : Entry) (r : Notice) : List Event :=
  if e.heard then [.notified e.number r] else []

end Outbox

open Outbox in
/-- An outbox with the trace of what has happened. In `pass`, `none` means that no pass is under
way and `some none` that the pass is past the last entry; `hand` is the entry that the carrier is
looking at, with its answer; `notifying` is the entry that is being told its notice. -/
structure Outbox where
  entries : List Entry := []
  next : Nat := 0
  inFlight : List Nat := []
  pass : Option (Option Nat) := none
  hand : Option (Nat × Bool) := none
  notifying : Option Nat := none
  closed : Bool := false
  trace : List Event := []

namespace Outbox

/-- What can happen to an outbox. -/
inductive Step (o : Outbox) : Outbox → Prop
  | accept (heard : Bool) (hopen : o.closed = false) :
    Step o { o with
      entries := o.entries ++ [⟨o.next, false, heard⟩]
      next := o.next + 1
      trace := o.trace ++ [.accepted o.next heard] }
  | start (hpass : o.pass = none) (hhand : o.hand = none) (hquiet : o.notifying = none) :
    Step o { o with pass := some (o.entries.head?.map (·.number)) }
  | leave (hquiet : o.notifying = none) : Step o { o with pass := none, hand := none }
  | skip {e : Entry} (hpass : o.pass = some (some e.number)) (he : e ∈ o.entries)
      (hhanded : e.handed = true) (hhand : o.hand = none) (hquiet : o.notifying = none) :
    Step o { o with pass := some (follow e.number o.entries) }
  | fail {e : Entry} (hpass : o.pass = some (some e.number)) (he : e ∈ o.entries)
      (hwaits : e.handed = false) (hhand : o.hand = none) (hquiet : o.notifying = none) :
    Step o { o with
      pass := some (follow e.number o.entries)
      notifying := some e.number
      trace := o.trace ++ .unbuildable e.number :: e.notice .failed }
  | expire {e : Entry} (hpass : o.pass = some (some e.number)) (he : e ∈ o.entries)
      (hwaits : e.handed = false) (hhand : o.hand = none) (hquiet : o.notifying = none) :
    Step o { o with
      entries := mark e.number o.entries
      pass := some (follow e.number o.entries)
      notifying := some e.number
      trace := o.trace ++ .overdue e.number :: e.notice .expired }
  | handOver {e : Entry} (taken : Bool) (hpass : o.pass = some (some e.number))
      (he : e ∈ o.entries) (hwaits : e.handed = false) (hhand : o.hand = none)
      (hquiet : o.notifying = none) :
    Step o { o with
      entries := mark e.number o.entries
      pass := some (follow e.number o.entries)
      inFlight := if taken then e.number :: o.inFlight else o.inFlight
      hand := some (e.number, taken)
      trace := o.trace ++ [.handedOver e.number taken] }
  | returned {n : Nat} (hhand : o.hand = some (n, true)) (hquiet : o.notifying = none) :
    Step o { o with hand := none }
  | refuse {e : Entry} (hhand : o.hand = some (e.number, false)) (he : e ∈ o.entries)
      (hquiet : o.notifying = none) :
    Step o { o with
      hand := none
      notifying := some e.number
      trace := o.trace ++ e.notice .failed }
  | report {e : Entry} (good : Bool) (he : e ∈ o.entries) (hflight : e.number ∈ o.inFlight)
      (hcarrier : o.pass = none ∨ o.hand.isSome) (hquiet : o.notifying = none) :
    Step o { o with
      inFlight := o.inFlight.erase e.number
      notifying := some e.number
      trace := o.trace ++ .reported e.number good ::
        e.notice (if good then .delivered else .failed) }
  | release {n : Nat} (hnotifying : o.notifying = some n) :
    Step o { o with
      entries := unlink n o.entries
      notifying := none
      trace := o.trace ++ [.removed n] }
  | close : Step o { o with closed := true, trace := o.trace ++ [.closing] }
  | abandon {e : Entry} {rest : List Entry} (hhead : o.entries = e :: rest)
      (hclosed : o.closed = true) (hpass : o.pass = none) (hhand : o.hand = none)
      (hquiet : o.notifying = none) :
    Step o { o with
      entries := rest
      inFlight := o.inFlight.erase e.number
      trace := o.trace ++ .removed e.number :: e.notice .abandoned }

theorem closed_of_step {o p : Outbox} (h : Step o p) (hclosed : o.closed = true) :
    p.closed = true := by
  cases h <;> first | exact hclosed | rfl

/-- A closed outbox stays closed. -/
theorem closed_of_steps {o p : Outbox} (h : Relation.ReflTransGen Step o p)
    (hclosed : o.closed = true) : p.closed = true := by
  induction h with
  | refl => exact hclosed
  | tail _ hstep ih => exact closed_of_step hstep ih

/-! ### Lists of entries -/

/-- Numbers increase along the list. -/
def Sorted (l : List Entry) : Prop := l.Pairwise fun a b ↦ a.number < b.number

/-- An entry before a handed one is handed. -/
def Blocks (l : List Entry) : Prop := l.Pairwise fun a b ↦ b.handed = true → a.handed = true

theorem Sorted.nodup {l : List Entry} (h : Sorted l) : (l.map (·.number)).Nodup :=
  (List.pairwise_map.mpr h).imp fun hlt ↦ Nat.ne_of_lt hlt

theorem Sorted.eq_of_number {l : List Entry} (h : Sorted l) {a b : Entry} (ha : a ∈ l)
    (hb : b ∈ l) (heq : a.number = b.number) : a = b :=
  List.inj_on_of_nodup_map h.nodup ha hb heq

theorem mem_mark {n : Nat} {l : List Entry} {e : Entry} :
    e ∈ mark n l ↔ ∃ a ∈ l, (if a.number = n then { a with handed := true } else a) = e :=
  List.mem_map

theorem mem_unlink {n : Nat} {l : List Entry} {e : Entry} :
    e ∈ unlink n l ↔ e ∈ l ∧ e.number ≠ n := by
  simp [unlink]

/-- Marking changes no number and no listener, and unmarks nothing. -/
theorem exists_of_mem_mark {n : Nat} {l : List Entry} {e : Entry} (h : e ∈ mark n l) :
    ∃ a ∈ l, e.number = a.number ∧ e.heard = a.heard ∧
      (e.handed = true ↔ a.handed = true ∨ a.number = n) := by
  obtain ⟨a, ha, rfl⟩ := mem_mark.mp h
  refine ⟨a, ha, ?_⟩
  split_ifs with hn <;> simp [hn]

theorem mem_mark_of_mem {n : Nat} {l : List Entry} {a : Entry} (h : a ∈ l) :
    ∃ e ∈ mark n l, e.number = a.number ∧ e.heard = a.heard ∧
      (e.handed = true ↔ a.handed = true ∨ a.number = n) := by
  refine ⟨_, mem_mark.mpr ⟨a, h, rfl⟩, ?_⟩
  split_ifs with hn <;> simp [hn]

theorem Sorted.mark {l : List Entry} (h : Sorted l) (n : Nat) : Sorted (mark n l) := by
  refine List.pairwise_map.mpr (h.imp fun hlt ↦ ?_)
  split_ifs <;> exact hlt

theorem Sorted.concat {l : List Entry} (h : Sorted l) {e : Entry}
    (hlast : ∀ a ∈ l, a.number < e.number) : Sorted (l ++ [e]) :=
  List.pairwise_append.mpr ⟨h, List.pairwise_singleton .., fun a ha _ hb ↦
    List.mem_singleton.mp hb ▸ hlast a ha⟩

theorem Blocks.concat {l : List Entry} (h : Blocks l) {e : Entry} (hwaits : e.handed = false) :
    Blocks (l ++ [e]) :=
  List.pairwise_append.mpr ⟨h, List.pairwise_singleton .., fun _ _ _ hb hhanded ↦ by
    simp [List.mem_singleton.mp hb, hwaits] at hhanded⟩

/-- Marking the first waiting entry keeps the blocks. -/
theorem Blocks.mark {l : List Entry} (hb : Blocks l) (hs : Sorted l) {n : Nat}
    (hbefore : ∀ a ∈ l, a.number < n → a.handed = true) : Blocks (mark n l) := by
  refine List.pairwise_map.mpr ?_
  refine (hb.and hs).imp_of_mem fun {a _} ha _ h hhanded ↦ ?_
  obtain ⟨himp, hlt⟩ := h
  split_ifs with han
  · rfl
  · split_ifs at hhanded with hbn
    · exact hbefore a ha (hbn ▸ hlt)
    · exact himp hhanded

/-- In a sorted list the entry that follows is the next larger one. -/
theorem follow_spec {l : List Entry} (hs : Sorted l) {e : Entry} (he : e ∈ l) {m : Nat}
    (h : follow e.number l = some m) :
    (∃ f ∈ l, f.number = m) ∧ e.number < m ∧ ∀ f ∈ l, f.number < m → f.number ≤ e.number := by
  obtain ⟨l₁, l₂, rfl⟩ := List.append_of_mem he
  obtain ⟨h₁, h₂, h₁₂⟩ := List.pairwise_append.mp hs
  obtain ⟨he₂, h₂⟩ := List.pairwise_cons.mp h₂
  have hdrop : (l₁ ++ e :: l₂).dropWhile (fun a ↦ a.number ≠ e.number) = e :: l₂ := by
    rw [List.dropWhile_append_of_pos fun a ha ↦ by
      simpa using Nat.ne_of_lt (h₁₂ a ha e List.mem_cons_self)]
    simp
  rw [follow, hdrop, List.tail_cons] at h
  obtain ⟨f, hf, rfl⟩ := Option.map_eq_some_iff.mp h
  obtain ⟨l₃, rfl⟩ := List.head?_eq_some_iff.mp hf
  refine ⟨⟨f, by simp, rfl⟩, he₂ f List.mem_cons_self, fun a ha hlt ↦ ?_⟩
  simp only [List.mem_append, List.mem_cons] at ha
  rcases ha with ha | rfl | rfl | ha
  · exact Nat.le_of_lt (h₁₂ a ha e List.mem_cons_self)
  · exact Nat.le_refl _
  · exact absurd hlt (Nat.lt_irrefl _)
  · exact absurd ((List.pairwise_cons.mp h₂).1 a ha) (Nat.not_lt.mpr (Nat.le_of_lt hlt))

/-- What follows a waiting entry waits. -/
theorem follow_waits {l : List Entry} (hs : Sorted l) (hb : Blocks l) {e : Entry} (he : e ∈ l)
    (hwaits : e.handed = false) {f : Entry} (hf : f ∈ l) (hlt : e.number < f.number) :
    f.handed = false := by
  obtain ⟨l₁, l₂, rfl⟩ := List.append_of_mem he
  obtain ⟨-, h₂, h₁₂⟩ := List.pairwise_append.mp hs
  obtain ⟨-, hb₂, -⟩ := List.pairwise_append.mp hb
  rcases List.mem_append.mp hf with hf | hf
  · exact absurd (h₁₂ f hf e List.mem_cons_self) (Nat.not_lt.mpr (Nat.le_of_lt hlt))
  · rcases List.mem_cons.mp hf with rfl | hf
    · exact hwaits
    · by_contra hne
      have := (List.pairwise_cons.mp hb₂).1 f hf (by simpa using hne)
      simp [hwaits] at this

/-- The first entry has the least number. -/
theorem head_spec {l : List Entry} (hs : Sorted l) {c : Nat}
    (h : l.head?.map (·.number) = some c) :
    (∃ e ∈ l, e.number = c) ∧ ∀ e ∈ l, c ≤ e.number := by
  obtain ⟨e, he, rfl⟩ := Option.map_eq_some_iff.mp h
  obtain ⟨rest, rfl⟩ := List.head?_eq_some_iff.mp he
  refine ⟨⟨e, List.mem_cons_self, rfl⟩, fun a ha ↦ ?_⟩
  rcases List.mem_cons.mp ha with rfl | ha
  · exact Nat.le_refl _
  · exact Nat.le_of_lt ((List.pairwise_cons.mp hs).1 a ha)

/-! ### The trace -/

/-- The numbers handed over, in the order of the hand-overs. -/
def handedOver (trace : List Event) : List Nat :=
  trace.filterMap fun
    | .handedOver n _ => some n
    | _ => none

/-- The numbers accepted, in the order of acceptance. -/
def accepted (trace : List Event) : List Nat :=
  trace.filterMap fun
    | .accepted n _ => some n
    | _ => none

/-- How often the entry numbered `n` was told a notice. -/
def notices (trace : List Event) (n : Nat) : Nat :=
  trace.countP fun
    | .notified m _ => m = n
    | _ => false

@[simp]
theorem handedOver_append (t u : List Event) :
    handedOver (t ++ u) = handedOver t ++ handedOver u := List.filterMap_append

@[simp]
theorem accepted_append (t u : List Event) : accepted (t ++ u) = accepted t ++ accepted u :=
  List.filterMap_append

@[simp]
theorem notices_append (t u : List Event) (n : Nat) :
    notices (t ++ u) n = notices t n + notices u n := List.countP_append

theorem mem_handedOver {t : List Event} {n : Nat} :
    n ∈ handedOver t ↔ ∃ taken, Event.handedOver n taken ∈ t := by
  simp only [handedOver, List.mem_filterMap]
  constructor
  · rintro ⟨e, he, heq⟩
    cases e with
    | handedOver m taken =>
      obtain rfl : m = n := Option.some.inj heq
      exact ⟨taken, he⟩
    | _ => simp at heq
  · rintro ⟨taken, h⟩
    exact ⟨_, h, rfl⟩

theorem notices_eq_zero_iff {t : List Event} {n : Nat} :
    notices t n = 0 ↔ ∀ r, Event.notified n r ∉ t := by
  simp only [notices, List.countP_eq_zero]
  constructor
  · intro h r hr
    simpa using h _ hr
  · intro h e he
    cases e with
    | notified m r =>
      simp only [decide_eq_true_eq]
      rintro rfl
      exact h r he
    | _ => simp

end Outbox
