import EventHubs.Library.Ledger
import Mathlib.Logic.Function.Basic

/-!
# Ledgers with owners

Every live object of a ledger is held by one slot of a table, and every slot holds a live object or
nothing. What the slots hold is then a table of values: the ledger with its table implements it.

## Main definitions

* `Ledger.OwnedBy` — a live object has exactly one slot.
* `Ledger.contents` — the value in each slot.

## Main results

* `Ledger.OwnedBy.give`, `Ledger.OwnedBy.clear`, `Ledger.OwnedBy.replace`,
  `Ledger.OwnedBy.settles`, each with what the slots hold afterwards.
* `Ledger.OwnedBy.live_eq_nil` — without owners nothing is alive.
-/

namespace Ledger

variable {α κ : Type*} {l m : Ledger α} {owner : κ → Option ℕ} {i j : κ} {n : ℕ} {a : α}

/-- Every slot holds a live object or nothing, no two slots hold one object, and every live object
is in a slot. Nothing was destroyed that was not alive. -/
structure OwnedBy (l : Ledger α) (owner : κ → Option ℕ) : Prop where
  live : ∀ i n, owner i = some n → n ∈ l.handles
  alone : ∀ i j n, owner i = some n → owner j = some n → i = j
  owned : ∀ n ∈ l.handles, ∃ i, owner i = some n
  faults : l.faults = []

/-- Destroy the object under a handle, if there is a handle. -/
def destroyIf (l : Ledger α) : Option ℕ → Ledger α
  | none => l
  | some n => l.destroy n

/-- The value in each slot. -/
def contents (l : Ledger α) (owner : κ → Option ℕ) (i : κ) : Option α := (owner i).bind l.read

/-! ### Reading -/

theorem read_congr (h : m.live = l.live) (n : ℕ) : m.read n = l.read n := by rw [read, read, h]

theorem read_create (l : Ledger α) (a : α) : (l.create a).read l.next = some a :=
  read_of_mem (List.mem_append_right _ List.mem_cons_self)

/-- A live handle reads the same when another object is created. -/
theorem read_create_of_mem (h : n ∈ l.handles) (a : α) : (l.create a).read n = l.read n := by
  obtain ⟨⟨_, b⟩, hb, rfl⟩ := List.mem_map.mp h
  rw [read_of_mem hb, read_of_mem (List.mem_append_left _ hb)]

theorem mem_handles_destroy {k : ℕ} : n ∈ (l.destroy k).handles ↔ n ∈ l.handles ∧ n ≠ k := by
  by_cases h : k ∈ l.handles
  · rw [destroy, dif_pos h]
    simp only [handles, List.mem_map, List.mem_filter]
    constructor
    · rintro ⟨p, ⟨hp, hne⟩, rfl⟩
      exact ⟨⟨p, hp, rfl⟩, by simpa using hne⟩
    · rintro ⟨⟨p, hp, rfl⟩, hne⟩
      exact ⟨p, ⟨hp, by simpa using hne⟩, rfl⟩
  · rw [destroy, dif_neg h]
    exact ⟨fun hn => ⟨hn, fun hnk => h (hnk ▸ hn)⟩, fun hn => hn.1⟩

/-- A live handle reads the same when another object is destroyed. -/
theorem read_destroy_of_ne {k : ℕ} (h : n ∈ l.handles) (hne : n ≠ k) :
    (l.destroy k).read n = l.read n := by
  obtain ⟨⟨_, b⟩, hb, rfl⟩ := List.mem_map.mp h
  rw [read_of_mem hb]
  by_cases hk : k ∈ l.handles
  · rw [destroy, dif_pos hk]
    exact read_of_mem (List.mem_filter.mpr ⟨hb, by simpa using hne⟩)
  · rw [destroy, dif_neg hk]
    exact read_of_mem hb

theorem faults_destroy_of_mem (h : n ∈ l.handles) : (l.destroy n).faults = l.faults := by
  rw [destroy, dif_pos h]

/-! ### Owners -/

namespace OwnedBy

/-- An empty ledger needs no owner. -/
theorem empty (hlive : l.live = []) (hfaults : l.faults = []) :
    l.OwnedBy fun _ : κ => none where
  live := by simp
  alone := by simp
  owned := by simp [handles, hlive]
  faults := hfaults

theorem contents_eq_some (h : l.OwnedBy owner) (hi : owner i = some n) :
    ∃ a, l.contents owner i = some a := by
  obtain ⟨⟨_, a⟩, ha, rfl⟩ := List.mem_map.mp (h.live i n hi)
  exact ⟨a, by rw [contents, hi, Option.bind_some, read_of_mem ha]⟩

/-- What was settled in between has no owner. -/
theorem settles (h : l.OwnedBy owner) (hm : l.Settles m) : m.OwnedBy owner where
  live i n hi := by rw [handles, hm.live]; exact h.live i n hi
  alone := h.alone
  owned n hn := h.owned n (by rwa [handles, hm.live] at hn)
  faults := hm.faults.trans h.faults

theorem contents_settles (hm : l.Settles m) : m.contents owner = l.contents owner := by
  funext i
  exact congrArg (Option.bind (owner i)) (funext (read_congr hm.live))

/-- Without owners nothing is alive. -/
theorem live_eq_nil (h : l.OwnedBy owner) (hnone : ∀ i, owner i = none) : l.live = [] := by
  have hempty : ∀ n, n ∉ l.handles := by
    intro n hn
    obtain ⟨i, hi⟩ := h.owned n hn
    rw [hnone i] at hi
    cases hi
  exact List.map_eq_nil_iff.mp (List.eq_nil_iff_forall_not_mem.mpr hempty)

variable [DecidableEq κ]

/-- A new object goes into an empty slot. -/
theorem give (h : l.OwnedBy owner) (hi : owner i = none) (a : α) :
    (l.create a).OwnedBy (Function.update owner i (some l.next)) := by
  have hold : ∀ j n, j ≠ i → Function.update owner i (some l.next) j = some n →
      owner j = some n ∧ n ≠ l.next := by
    intro j n hj hn
    rw [Function.update_of_ne hj] at hn
    exact ⟨hn, (lt_next_of_mem (h.live j n hn)).ne⟩
  have hself : ∀ n, Function.update owner i (some l.next) i = some n → n = l.next := by
    intro n hn
    rw [Function.update_self] at hn
    exact (Option.some.inj hn).symm
  refine ⟨fun j n hj => ?_, fun j k n hj hk => ?_, fun n hn => ?_, h.faults⟩
  · by_cases hji : j = i
    · obtain rfl := hself n (hji ▸ hj)
      exact mem_handles_create l a
    · rw [handles, create_live, List.map_append]
      exact List.mem_append_left _ (h.live j n (hold j n hji hj).1)
  · by_cases hji : j = i
    · by_cases hki : k = i
      · rw [hji, hki]
      · exact absurd (hself n (hji ▸ hj)) (hold k n hki hk).2
    · by_cases hki : k = i
      · exact absurd (hself n (hki ▸ hk)) (hold j n hji hj).2
      · exact h.alone j k n (hold j n hji hj).1 (hold k n hki hk).1
  · rw [handles, create_live, List.map_append, List.mem_append] at hn
    rcases hn with hn | hn
    · obtain ⟨j, hj⟩ := h.owned n hn
      refine ⟨j, ?_⟩
      rw [Function.update_of_ne, hj]
      rintro rfl
      rw [hi] at hj
      cases hj
    · obtain rfl : n = l.next := by simpa using hn
      exact ⟨i, Function.update_self ..⟩

theorem contents_give (h : l.OwnedBy owner) (a : α) :
    (l.create a).contents (Function.update owner i (some l.next)) =
      Function.update (l.contents owner) i (some a) := by
  funext j
  by_cases hj : j = i
  · subst hj
    rw [contents, Function.update_self, Function.update_self, Option.bind_some, read_create]
  · rw [contents, Function.update_of_ne hj, Function.update_of_ne hj, contents]
    cases hn : owner j with
    | none => rfl
    | some n => exact read_create_of_mem (h.live j n hn) a

/-- The object in a slot is destroyed. -/
theorem take (h : l.OwnedBy owner) (hi : owner i = some n) :
    (l.destroy n).OwnedBy (Function.update owner i none) := by
  have hold : ∀ j k, Function.update owner i none j = some k → j ≠ i ∧ owner j = some k := by
    intro j k hk
    by_cases hj : j = i
    · rw [hj, Function.update_self] at hk
      cases hk
    · exact ⟨hj, by rwa [Function.update_of_ne hj] at hk⟩
  refine ⟨fun j k hk => ?_, fun j k p hj hk => ?_, fun k hk => ?_, ?_⟩
  · obtain ⟨hne, hk⟩ := hold j k hk
    refine mem_handles_destroy.mpr ⟨h.live j k hk, ?_⟩
    rintro rfl
    exact hne (h.alone j i k hk hi)
  · exact h.alone j k p (hold j p hj).2 (hold k p hk).2
  · obtain ⟨hk, hne⟩ := mem_handles_destroy.mp hk
    obtain ⟨j, hj⟩ := h.owned k hk
    refine ⟨j, ?_⟩
    rw [Function.update_of_ne, hj]
    rintro rfl
    exact hne (Option.some.inj (hj.symm.trans hi))
  · rw [faults_destroy_of_mem (h.live i n hi), h.faults]

theorem contents_take (h : l.OwnedBy owner) (hi : owner i = some n) :
    (l.destroy n).contents (Function.update owner i none) =
      Function.update (l.contents owner) i none := by
  funext j
  by_cases hj : j = i
  · subst hj
    rw [contents, Function.update_self, Function.update_self, Option.bind_none]
  · rw [contents, Function.update_of_ne hj, Function.update_of_ne hj, contents]
    cases hk : owner j with
    | none => rfl
    | some k =>
      refine read_destroy_of_ne (h.live j k hk) ?_
      rintro rfl
      exact hj (h.alone j i k hk hi)

/-- A slot is emptied, whether it holds an object or not. -/
theorem clear (h : l.OwnedBy owner) (i : κ) :
    (l.destroyIf (owner i)).OwnedBy (Function.update owner i none) := by
  cases hi : owner i with
  | none =>
    have hsame := Function.update_eq_self i owner
    rw [hi] at hsame
    rw [hsame]
    exact h
  | some n => exact h.take hi

theorem contents_clear (h : l.OwnedBy owner) (i : κ) :
    (l.destroyIf (owner i)).contents (Function.update owner i none) =
      Function.update (l.contents owner) i none := by
  cases hi : owner i with
  | none =>
    have hsame := Function.update_eq_self i owner
    have hcontents := Function.update_eq_self i (l.contents owner)
    rw [hi] at hsame
    rw [contents, hi, Option.bind_none] at hcontents
    rw [hsame, hcontents]
    rfl
  | some n => exact h.contents_take hi

/-- A slot gets a new object for the one it held, if it held one. -/
theorem replace (h : l.OwnedBy owner) (i : κ) (a : α) :
    ((l.destroyIf (owner i)).create a).OwnedBy
      (Function.update owner i (some (l.destroyIf (owner i)).next)) := by
  have hgive := (h.clear i).give (Function.update_self ..) a
  rwa [Function.update_idem] at hgive

theorem contents_replace (h : l.OwnedBy owner) (i : κ) (a : α) :
    ((l.destroyIf (owner i)).create a).contents
      (Function.update owner i (some (l.destroyIf (owner i)).next)) =
        Function.update (l.contents owner) i (some a) := by
  have hgive := (h.clear i).contents_give (i := i) a
  rwa [Function.update_idem, h.contents_clear, Function.update_idem] at hgive

end OwnedBy

end Ledger
