import EventHubs.Library.Attempt
import EventHubs.Library.Ledger
import Mathlib.Logic.Function.Basic

/-!
# Scaffolds of objects that are made from one another

A structure has fields, and a field is NULL or holds an object. An object may be made from what
other fields hold, and then has to be destroyed before them. A scaffold keeps the fields, the ledger
of the objects, each with its field and the handles it was made from, and the handles that were
destroyed while something that was made from them was still alive.

In a sound scaffold the fields hold all that is alive, and the order in which a list of fields is
released can be checked on the fields alone.

## Main definitions

* `Scaffold`, `Scaffold.make`, `Scaffold.void`, `Scaffold.dispose`, `Scaffold.release`.
* `Scaffold.Cleared` — nothing is alive.
* `Scaffold.Sound` — nothing is lost, and nothing was destroyed too early, twice or unmade.
* `Scaffold.Holds` — exactly these fields of a sound scaffold hold something.
* `Scaffold.Unwinds` — an order in which fields may be released.
* `Scaffold.partsOf`, `Scaffold.unwinds` — the parts given by a table.
* `Attempt.Over` — code on a state and a scaffold does to the state what other code does.

## Main results

* `Scaffold.Sound.make`, `Scaffold.Sound.release`, `Scaffold.Sound.releaseAll`.
* `Scaffold.Holds.assign`, `Scaffold.Holds.release`, `Scaffold.Holds.releaseAll`,
  `Scaffold.Holds.disposeLeaves`.
* `Scaffold.disposeAll_eq` — what is disposed of once may stay in its field.
* `Attempt.Over.bind`.
-/

/-- The fields, the objects and what went wrong. -/
structure Scaffold (κ : Type) where
  ledger : Ledger (κ × List ℕ) := { balanced := .nil }
  field : κ → Option ℕ := fun _ => none
  /-- The handles that were destroyed while something that was made from them was alive. -/
  early : List ℕ := []

namespace Scaffold

variable {κ : Type} [DecidableEq κ] {r s : Scaffold κ} {k : κ}

/-- Create an object from what some fields hold, and assign it to a field. -/
def make (r : Scaffold κ) (k : κ) (parts : List κ) : Scaffold κ where
  ledger := r.ledger.create (k, parts.filterMap r.field)
  field := Function.update r.field k (some r.ledger.next)
  early := r.early

/-- Assign NULL to a field. -/
def void (r : Scaffold κ) (k : κ) : Scaffold κ := { r with field := Function.update r.field k none }

/-- Assign the result of a creating call to a field. -/
def assign (r : Scaffold κ) (succeeds : Bool) (k : κ) (parts : List κ) : Scaffold κ :=
  if succeeds then r.make k parts else r.void k

/-- Something that is alive was made from the object. -/
def supports (r : Scaffold κ) (n : ℕ) : Bool := r.ledger.live.any fun p => n ∈ p.2.2

/-- Destroy what a field holds, if it holds something. -/
def dispose (r : Scaffold κ) (k : κ) : Scaffold κ :=
  match r.field k with
  | none => r
  | some n =>
    { r with
      ledger := r.ledger.destroy n
      early := if r.supports n then r.early ++ [n] else r.early }

/-- Destroy what a field holds, if it holds something, and assign NULL to the field. -/
def release (r : Scaffold κ) (k : κ) : Scaffold κ := (r.dispose k).void k

def disposeAll (r : Scaffold κ) (ks : List κ) : Scaffold κ := ks.foldl dispose r

def releaseAll (r : Scaffold κ) (ks : List κ) : Scaffold κ := ks.foldl release r

theorem void_of_none (h : r.field k = none) : r.void k = r := by
  unfold void
  rw [← h, Function.update_eq_self]

theorem release_of_none (h : r.field k = none) : r.release k = r := by
  unfold release dispose
  rw [h]
  exact void_of_none h

omit [DecidableEq κ] in
@[simp]
theorem dispose_field (r : Scaffold κ) (k : κ) : (r.dispose k).field = r.field := by
  unfold dispose
  cases r.field k <;> rfl

omit [DecidableEq κ] in
@[simp]
theorem disposeAll_field (r : Scaffold κ) (ks : List κ) : (r.disposeAll ks).field = r.field := by
  induction ks generalizing r with
  | nil => rfl
  | cons k ks ih => exact (ih (r.dispose k)).trans (dispose_field r k)

@[simp]
theorem release_field (r : Scaffold κ) (k : κ) :
    (r.release k).field = Function.update r.field k none := by
  unfold release void
  rw [dispose_field]

theorem releaseAll_field (r : Scaffold κ) (ks : List κ) (j : κ) :
    (r.releaseAll ks).field j = if j ∈ ks then none else r.field j := by
  induction ks generalizing r with
  | nil => rfl
  | cons k ks ih =>
    refine (ih (r.release k)).trans ?_
    rw [release_field]
    by_cases hj : j = k
    · simp [hj]
    · simp [hj]

/-! ### What is disposed of once may stay in its field -/

/-- The two scaffolds have the same objects and the same mistakes. -/
def SameObjects (r s : Scaffold κ) : Prop := r.ledger = s.ledger ∧ r.early = s.early

omit [DecidableEq κ] in
theorem SameObjects.dispose (h : SameObjects r s) (hfield : r.field k = s.field k) :
    SameObjects (r.dispose k) (s.dispose k) := by
  obtain ⟨hledger, hearly⟩ := h
  unfold Scaffold.dispose
  rw [hfield]
  cases s.field k with
  | none => exact ⟨hledger, hearly⟩
  | some n =>
    have hsupports : r.supports n = s.supports n := by rw [supports, supports, hledger]
    refine ⟨congrArg (·.destroy n) hledger, ?_⟩
    dsimp only
    rw [hsupports, hearly]

theorem SameObjects.disposeAll {ks : List κ} (h : SameObjects r s) (hks : ks.Nodup)
    (hfield : ∀ k ∈ ks, r.field k = s.field k) :
    SameObjects (r.disposeAll ks) (s.releaseAll ks) := by
  induction ks generalizing r s with
  | nil => exact h
  | cons k ks ih =>
    obtain ⟨hk, hks⟩ := List.nodup_cons.mp hks
    refine @ih (r.dispose k) (s.release k) (h.dispose (hfield k List.mem_cons_self)) hks ?_
    intro j hj
    rw [dispose_field, release_field, Function.update_of_ne (ne_of_mem_of_not_mem hj hk)]
    exact hfield j (List.mem_cons_of_mem _ hj)

theorem SameObjects.release (h : SameObjects r s) (hfield : r.field k = s.field k) :
    SameObjects (r.release k) (s.dispose k) :=
  h.dispose hfield

/-- It makes no difference for the objects whether the fields are set to NULL. -/
theorem disposeAll_eq (r : Scaffold κ) {ks : List κ} (hks : ks.Nodup) :
    SameObjects (r.disposeAll ks) (r.releaseAll ks) :=
  SameObjects.disposeAll ⟨rfl, rfl⟩ hks fun _ _ => rfl

/-- Nothing is alive, and nothing went wrong. -/
structure Cleared (r : Scaffold κ) : Prop where
  live : r.ledger.live = []
  faults : r.ledger.faults = []
  early : r.early = []

omit [DecidableEq κ] in
theorem Cleared.empty : Cleared ({} : Scaffold κ) := ⟨rfl, rfl, rfl⟩

omit [DecidableEq κ] in
theorem Cleared.of_sameObjects (h : Cleared r) (hs : SameObjects s r) : Cleared s := by
  obtain ⟨hledger, hearly⟩ := hs
  exact ⟨hledger ▸ h.live, hledger ▸ h.faults, hearly ▸ h.early⟩

/-! ### Sound scaffolds -/

variable (parts : κ → List κ)

/-- The fields hold all that is alive, what an object is made from is there, and nothing was
destroyed that was not alive or that was still needed. -/
structure Sound (r : Scaffold κ) : Prop where
  held : ∀ p ∈ r.ledger.live, r.field p.2.1 = some p.1
  alive : ∀ k n, r.field k = some n → (n, k, (parts k).filterMap r.field) ∈ r.ledger.live
  whole : ∀ k, (r.field k).isSome → ∀ j ∈ parts k, (r.field j).isSome
  faults : r.ledger.faults = []
  early : r.early = []

variable {parts}

namespace Sound

omit [DecidableEq κ] in
theorem empty : Sound parts {} where
  held _ hp := absurd hp List.not_mem_nil
  alive _ _ h := nomatch h
  whole _ h := nomatch h
  faults := rfl
  early := rfl

omit [DecidableEq κ] in
/-- No two fields hold the same object. -/
theorem injective (h : Sound parts r) {j : κ} {n : ℕ} (hj : r.field j = some n)
    (hk : r.field k = some n) : j = k := by
  obtain ⟨before, after, hlive⟩ := List.append_of_mem (h.alive j n hj)
  obtain ⟨hbefore, hafter⟩ := Ledger.ne_of_live_eq hlive
  have hmem := h.alive k n hk
  rw [hlive] at hmem
  rcases List.mem_append.mp hmem with hmem | hmem
  · exact absurd rfl (hbefore _ hmem)
  · rcases List.mem_cons.mp hmem with heq | hmem
    · exact (congrArg (fun p => p.2.1) heq).symm
    · exact absurd rfl (hafter _ hmem)

omit [DecidableEq κ] in
/-- An object was made from what the fields hold now. -/
theorem made (h : Sound parts r) {p : ℕ × κ × List ℕ} (hp : p ∈ r.ledger.live) :
    p.2.2 = (parts p.2.1).filterMap r.field := by
  have hmem := h.alive p.2.1 p.1 (h.held p hp)
  obtain ⟨before, after, hlive⟩ := List.append_of_mem hmem
  obtain ⟨hbefore, hafter⟩ := Ledger.ne_of_live_eq hlive
  rw [hlive] at hp
  rcases List.mem_append.mp hp with hp | hp
  · exact absurd rfl (hbefore _ hp)
  · rcases List.mem_cons.mp hp with heq | hp
    · exact congrArg (fun q => q.2.2) heq
    · exact absurd rfl (hafter _ hp)

theorem filterMap_update {j : κ} (hj : k ∉ parts j) (o : Option ℕ) :
    (parts j).filterMap (Function.update r.field k o) = (parts j).filterMap r.field :=
  List.filterMap_congr fun _ hi => Function.update_of_ne (ne_of_mem_of_not_mem hi hj) _ _

/-- An object is made for a field that is NULL, from objects that are there. -/
theorem make (h : Sound parts r) (hk : r.field k = none)
    (hparts : ∀ j ∈ parts k, (r.field j).isSome) : Sound parts (r.make k (parts k)) := by
  have hself : k ∉ parts k := fun hmem => by simpa [hk] using hparts k hmem
  have hnone : ∀ j, (r.field j).isSome → k ∉ parts j := fun j hj hmem => by
    simpa [hk] using h.whole j hj k hmem
  refine ⟨fun p hp => ?_, fun j n hj => ?_, fun j hj i hi => ?_, h.faults, h.early⟩
  · rcases List.mem_append.mp hp with hp | hp
    · have hheld := h.held p hp
      have hne : p.2.1 ≠ k := fun heq => by simp [heq, hk] at hheld
      exact (Function.update_of_ne hne _ _).trans hheld
    · obtain rfl := List.mem_singleton.mp hp
      exact Function.update_self ..
  · simp only [Scaffold.make] at hj ⊢
    by_cases heq : j = k
    · subst heq
      rw [Function.update_self] at hj
      obtain rfl := Option.some.inj hj
      rw [filterMap_update hself]
      exact List.mem_append_right _ (List.mem_singleton.mpr rfl)
    · rw [Function.update_of_ne heq] at hj
      rw [filterMap_update (hnone j (hj ▸ rfl))]
      exact List.mem_append_left _ (h.alive j n hj)
  · simp only [Scaffold.make] at hj ⊢
    by_cases hi' : i = k
    · rw [hi', Function.update_self]
      rfl
    rw [Function.update_of_ne hi']
    by_cases heq : j = k
    · exact hparts i (heq ▸ hi)
    · rw [Function.update_of_ne heq] at hj
      exact h.whole j hj i hi

/-- An object is destroyed from which nothing is made that is there. -/
theorem release (h : Sound parts r) (hk : ∀ j, (r.field j).isSome → k ∉ parts j) :
    Sound parts (r.release k) := by
  cases hfield : r.field k with
  | none => rwa [release_of_none hfield]
  | some n =>
    obtain ⟨before, after, hlive⟩ := List.append_of_mem (h.alive k n hfield)
    obtain ⟨hbefore, hafter⟩ := Ledger.ne_of_live_eq hlive
    obtain ⟨hlive', -, hfaults, -⟩ := Ledger.destroy_spec hlive
    have hsub : ∀ p ∈ before ++ after, p ∈ r.ledger.live ∧ p.1 ≠ n := by
      intro p hp
      rw [hlive]
      rcases List.mem_append.mp hp with hp | hp
      · exact ⟨List.mem_append_left _ hp, hbefore p hp⟩
      · exact ⟨List.mem_append_right _ (List.mem_cons_of_mem _ hp), hafter p hp⟩
    have hfree : r.supports n = false := by
      rw [supports, List.any_eq_false]
      intro p hp hmem
      rw [h.made hp, decide_eq_true_iff] at hmem
      obtain ⟨i, hi, hin⟩ := List.mem_filterMap.mp hmem
      obtain rfl := h.injective hin hfield
      exact hk p.2.1 (h.held p hp ▸ rfl) hi
    have hrelease : r.release k =
        { ledger := r.ledger.destroy n
          field := Function.update r.field k none
          early := r.early } := by
      simp [Scaffold.release, dispose, void, hfield, hfree]
    rw [hrelease]
    refine ⟨fun p hp => ?_, fun j m hj => ?_, fun j hj i hi => ?_, hfaults.trans h.faults, h.early⟩
    · obtain ⟨hp, hne⟩ := hsub p (hlive' ▸ hp)
      have hheld := h.held p hp
      have hne' : p.2.1 ≠ k := fun heq => hne (Option.some.inj (hheld.symm.trans (heq ▸ hfield)))
      exact (Function.update_of_ne hne' _ _).trans hheld
    · dsimp only at hj ⊢
      have heq : j ≠ k := fun heq => by simp [heq] at hj
      rw [Function.update_of_ne heq] at hj
      rw [filterMap_update (hk j (hj ▸ rfl)), hlive']
      have hmem := h.alive j m hj
      rw [hlive] at hmem
      rcases List.mem_append.mp hmem with hmem | hmem
      · exact List.mem_append_left _ hmem
      · rcases List.mem_cons.mp hmem with hsame | hmem
        · exact absurd (congrArg (fun p => p.2.1) hsame) heq
        · exact List.mem_append_right _ hmem
    · dsimp only at hj ⊢
      have heq : j ≠ k := fun heq => by simp [heq] at hj
      rw [Function.update_of_ne heq] at hj
      have hik : i ≠ k := fun hik => hk j hj (hik ▸ hi)
      rw [Function.update_of_ne hik]
      exact h.whole j hj i hi

end Sound

variable (parts)

/-- What is made from a field of the list is in `done` or earlier in the list. -/
def Unwinds : List κ → List κ → Prop
  | _, [] => True
  | done, k :: ks => (∀ j, k ∈ parts j → j ∈ done) ∧ Unwinds (k :: done) ks

variable {parts}

namespace Sound

/-- Fields are released one after the other. -/
theorem releaseAll (h : Sound parts r) {done ks : List κ} (hks : Unwinds parts done ks)
    (hdone : ∀ j ∈ done, r.field j = none) : Sound parts (r.releaseAll ks) := by
  induction ks generalizing r done with
  | nil => exact h
  | cons k ks ih =>
    obtain ⟨hk, hks⟩ := hks
    have hfree : ∀ j, (r.field j).isSome → k ∉ parts j := fun j hj hmem => by
      simp [hdone j (hk j hmem)] at hj
    refine ih (h.release hfree) hks fun j hj => ?_
    rw [release_field]
    rcases List.mem_cons.mp hj with rfl | hj
    · exact Function.update_self ..
    · by_cases heq : j = k
      · rw [heq, Function.update_self]
      · rw [Function.update_of_ne heq]
        exact hdone j hj

omit [DecidableEq κ] in
/-- When one field at most is not NULL, its object is all that is alive. -/
theorem live_map_eq (h : Sound parts r) (hnone : ∀ j, j ≠ k → r.field j = none) :
    r.ledger.live.map (fun p => (p.1, p.2.1)) = ((r.field k).map (·, k)).toList := by
  have hall : ∀ p ∈ r.ledger.live, p.2.1 = k ∧ r.field k = some p.1 := fun p hp => by
    have hheld := h.held p hp
    by_cases heq : p.2.1 = k
    · exact ⟨heq, heq ▸ hheld⟩
    · simp [hnone _ heq] at hheld
  cases hfield : r.field k with
  | none =>
    have hnil : r.ledger.live = [] := List.eq_nil_iff_forall_not_mem.mpr fun p hp => by
      simpa [hfield] using (hall p hp).2
    rw [hnil]
    rfl
  | some n =>
    obtain ⟨before, after, hlive⟩ := List.append_of_mem (h.alive k n hfield)
    obtain ⟨hbefore, hafter⟩ := Ledger.ne_of_live_eq hlive
    have hsame : ∀ p ∈ r.ledger.live, p.1 = n := fun p hp =>
      (Option.some.inj (hfield.symm.trans (hall p hp).2)).symm
    have hbefore' : before = [] := List.eq_nil_iff_forall_not_mem.mpr fun p hp =>
      hbefore p hp (hsame p (hlive ▸ List.mem_append_left _ hp))
    have hafter' : after = [] := List.eq_nil_iff_forall_not_mem.mpr fun p hp =>
      hafter p hp (hsame p (hlive ▸ List.mem_append_right _ (List.mem_cons_of_mem _ hp)))
    rw [hlive, hbefore', hafter']
    rfl

end Sound

/-! ### Which fields hold something -/

variable (parts) in
/-- In a sound scaffold exactly these fields hold something. -/
structure Holds (w : κ → Bool) (r : Scaffold κ) : Prop extends Sound parts r where
  filled : ∀ k, (r.field k).isSome = w k

namespace Holds

variable {w : κ → Bool}

omit [DecidableEq κ] in
theorem empty : Holds parts (fun _ => false) {} := ⟨.empty, fun _ => rfl⟩

omit [DecidableEq κ] in
theorem field_eq_none (h : Holds parts w r) (hk : w k = false) : r.field k = none := by
  have hfilled := h.filled k
  rw [hk] at hfilled
  simpa using hfilled

theorem assign (h : Holds parts w r) (succeeds : Bool) (hk : w k = false)
    (hparts : ∀ j ∈ parts k, w j = true) :
    Holds parts (Function.update w k succeeds) (r.assign succeeds k (parts k)) := by
  have hnone := h.field_eq_none hk
  cases succeeds with
  | false =>
    rw [Scaffold.assign, if_neg (by simp), void_of_none hnone, ← hk, Function.update_eq_self]
    exact h
  | true =>
    rw [Scaffold.assign, if_pos rfl]
    refine ⟨h.toSound.make hnone fun j hj => (h.filled j).trans (hparts j hj), fun j => ?_⟩
    by_cases heq : j = k
    · simp [Scaffold.make, heq]
    · simp [Scaffold.make, heq, h.filled]

theorem release (h : Holds parts w r) (hk : ∀ j, w j = true → k ∉ parts j) :
    Holds parts (Function.update w k false) (r.release k) := by
  refine ⟨h.toSound.release fun j hj => hk j ((h.filled j).symm.trans hj), fun j => ?_⟩
  rw [release_field]
  by_cases heq : j = k
  · simp [heq]
  · simp [heq, h.filled]

theorem releaseAll (h : Holds parts w r) {done ks : List κ} (hks : Unwinds parts done ks)
    (hdone : ∀ j ∈ done, w j = false) : Holds parts (fun k => w k && k ∉ ks) (r.releaseAll ks) := by
  refine ⟨h.toSound.releaseAll hks fun j hj => h.field_eq_none (hdone j hj), fun k => ?_⟩
  rw [releaseAll_field]
  by_cases hk : k ∈ ks
  · simp [hk]
  · simp [hk, h.filled]

omit [DecidableEq κ] in
theorem cleared (h : Holds parts w r) (hw : ∀ k, w k = false) : Cleared r := by
  refine ⟨List.eq_nil_iff_forall_not_mem.mpr fun p hp => ?_, h.faults, h.early⟩
  simpa [h.field_eq_none (hw _)] using h.held p hp

/-- What is made from nothing may be released in any order. -/
theorem releaseLeaves (h : Holds parts w r) (hw : ∀ k, w k = true → parts k = []) (ks : List κ) :
    Holds parts (fun k => w k && k ∉ ks) (r.releaseAll ks) := by
  induction ks generalizing w r with
  | nil => simpa [Scaffold.releaseAll] using h
  | cons k ks ih =>
    have hk := h.release (k := k) fun j hj => by simp [hw j hj]
    have hfilled : ∀ j, Function.update w k false j = true → w j = true := fun j hj => by
      by_cases heq : j = k
      · simp [heq] at hj
      · rwa [Function.update_of_ne heq] at hj
    have hfields : (fun j => Function.update w k false j && decide (j ∉ ks)) =
        fun j => w j && decide (j ∉ k :: ks) := by
      funext j
      by_cases heq : j = k
      · simp [heq]
      · simp [heq]
    exact hfields ▸ ih hk fun j hj => hw j (hfilled j hj)

/-- When every object is disposed of and is made from nothing, nothing is left. -/
theorem disposeLeaves (h : Holds parts w r) (hw : ∀ k, w k = true → parts k = []) {ks : List κ}
    (hnodup : ks.Nodup) (hall : ∀ k, w k = true → k ∈ ks) : Cleared (r.disposeAll ks) := by
  refine ((h.releaseLeaves hw ks).cleared fun k => ?_).of_sameObjects (r.disposeAll_eq hnodup)
  cases hk : w k with
  | false => rfl
  | true => simp [hall k hk]

end Holds

/-! ### Tables of parts -/

variable {table : List (κ × κ)} {done ks : List κ}

/-- What the table lists beside `k`. -/
def partsOf (table : List (κ × κ)) (k : κ) : List κ := (table.filter (·.1 = k)).map Prod.snd

theorem mem_partsOf {j : κ} : j ∈ partsOf table k ↔ (k, j) ∈ table := by
  simp [partsOf, and_comm]

/-- Whether fields may be released in this order after those in `done`. -/
def unwinds (table : List (κ × κ)) : List κ → List κ → Bool
  | _, [] => true
  | done, k :: ks => table.all (fun e => e.2 ≠ k || e.1 ∈ done) && unwinds table (k :: done) ks

theorem Unwinds.of_table (h : unwinds table done ks = true) : Unwinds (partsOf table) done ks := by
  induction ks generalizing done with
  | nil => trivial
  | cons k ks ih =>
    obtain ⟨hall, hks⟩ := Bool.and_eq_true_iff.mp h
    refine ⟨fun j hj => ?_, ih hks⟩
    have hentry := List.all_eq_true.mp hall (j, k) (mem_partsOf.mp hj)
    simpa using hentry

end Scaffold

/-! ### Code on a state and a scaffold -/

namespace Attempt

variable {S R α β : Type}

theorem run_bind_none {m : Attempt S α} {f : α → Attempt S β} {s u : S} (hm : m s = (none, u)) :
    (m >>= f) s = (none, u) := by
  simp only [bind, hm]

/-- What holds in both cases holds. -/
theorem Spec.always {P I : S → Prop} {m : Attempt S α} {s : S} (h : Spec P m (fun _ => I) I)
    (hs : P s) : I (m s).2 := by
  have h := h s hs
  rcases hms : m s with ⟨_ | a, t⟩ <;> rwa [hms] at h

/-- Run code on the first component. -/
def onFst (m : Attempt S α) : Attempt (S × R) α := fun x => ((m x.1).1, (m x.1).2, x.2)

/-- Change the second component; never fails. -/
def updateSnd (f : R → R) : Attempt (S × R) Unit := update fun x => (x.1, f x.2)

/-- Run code, and whether it succeeds or not, change the second component. -/
def afterwards (m : Attempt (S × R) α) (f : R → R) : Attempt (S × R) α := fun x =>
  ((m x).1, (m x).2.1, f (m x).2.2)

theorem Spec.afterwards {m : Attempt (S × R) α} {f : R → R} {P : S × R → Prop}
    {Q Q' : α → S × R → Prop} {F F' : S × R → Prop} (h : Spec P m Q F)
    (hQ : ∀ a x, Q a x → Q' a (x.1, f x.2)) (hF : ∀ x, F x → F' (x.1, f x.2)) :
    Spec P (Attempt.afterwards m f) Q' F' := by
  intro x hx
  have h := h x hx
  have hrun : Attempt.afterwards m f x = ((m x).1, (m x).2.1, f (m x).2.2) := rfl
  rw [hrun]
  rcases hmx : m x with ⟨_ | a, t⟩ <;> rw [hmx] at h
  · exact hF t h
  · exact hQ a t h

/-- `m` ends as `m'` does, and does to the first component what `m'` does. -/
def Over (m : Attempt (S × R) α) (m' : Attempt S α) : Prop :=
  ∀ x, (m x).1 = (m' x.1).1 ∧ (m x).2.1 = (m' x.1).2

namespace Over

variable {m : Attempt (S × R) α} {m' : Attempt S α}

theorem bind {f : α → Attempt (S × R) β} {f' : α → Attempt S β} (hm : Over m m')
    (hf : ∀ a, Over (f a) (f' a)) : Over (m >>= f) (m' >>= f') := by
  intro x
  obtain ⟨hfst, hsnd⟩ := hm x
  rcases hmx : m x with ⟨_ | a, t⟩
  · have hm'x : m' x.1 = (none, t.1) := by
      rw [hmx] at hfst hsnd
      exact Prod.ext hfst.symm hsnd.symm
    rw [run_bind_none hmx, run_bind_none hm'x]
    exact ⟨rfl, rfl⟩
  · have hm'x : m' x.1 = (some a, t.1) := by
      rw [hmx] at hfst hsnd
      exact Prod.ext hfst.symm hsnd.symm
    rw [run_bind hmx, run_bind hm'x]
    exact hf a t

theorem onFst : Over (Attempt.onFst m' : Attempt (S × R) α) m' := fun _ => ⟨rfl, rfl⟩

theorem afterwards (h : Over m m') (f : R → R) : Over (m.afterwards f) m' := h

/-- What `m'` does and what `m` keeps of a pair. -/
theorem spec {P : S → Prop} {Q : α → S → Prop} {F : S → Prop} {I : S × R → Prop}
    (hover : Over m m') (hm : Spec P m' Q F) (hkeep : ∀ x, P x.1 → I x → I (m x).2) :
    Spec (fun x => P x.1 ∧ I x) m (fun a x => Q a x.1 ∧ I x) fun x => F x.1 ∧ I x := by
  rintro x ⟨hP, hI⟩
  have h := hm x.1 hP
  have hI' := hkeep x hP hI
  obtain ⟨hfst, hsnd⟩ := hover x
  rcases hmx : m x with ⟨_ | a, t⟩ <;> rcases hm'x : m' x.1 with ⟨_ | b, u⟩ <;>
    simp_all

/-- A change of the second component may be left out. -/
theorem updateSnd_bind {f : R → R} {g : Unit → Attempt (S × R) α} (h : Over (g ()) m') :
    Over (updateSnd f >>= g) m' := fun x => h (x.1, f x.2)

end Over

end Attempt
