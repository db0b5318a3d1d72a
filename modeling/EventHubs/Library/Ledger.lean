import Mathlib.Data.List.Perm.Basic
import Mathlib.Data.List.Range

/-!
# Ledgers of handles

Objects are created under fresh handles and destroyed by their handle. A ledger keeps what is alive,
what was destroyed and every attempt to destroy something that was not alive. A handle is always on
one side only: what is alive together with what was destroyed is what was created.

## Main definitions

* `Ledger`, `Ledger.create`, `Ledger.destroy`, `Ledger.read`.
* `Ledger.createAll`, `Ledger.destroyAll` — several objects, one after the other.
* `Ledger.Settles` — everything that was created on the way is destroyed again.
* `Ledger.Leaves` — of what was created on the way, this is still there.
* `Ledger.holding` — an object that is alive during a part of a program.

## Main results

* `Ledger.destroyed_nodup` — nothing is destroyed twice.
* `Ledger.destroyAll_made`, `Ledger.createAll_destroyAll` — what was created can be taken back.
* `Ledger.filterMap_read_createAll` — what was created can be read back.
* `Ledger.Settles.bracket`, `Ledger.Settles.destroyed`.
* `Ledger.Leaves.create`, `Ledger.Leaves.destroy`, `Ledger.Leaves.bracket`,
  `Ledger.Leaves.destroyAll`, `Ledger.Leaves.destroyAll_perm`.
-/

/-- The objects created so far under the handles `0, …, next - 1`: those alive, oldest first, those
destroyed, and the handles given to `destroy` when they were not alive. -/
structure Ledger (α : Type*) where
  live : List (ℕ × α) := []
  destroyed : List ℕ := []
  faults : List ℕ := []
  next : ℕ := 0
  balanced : (live.map Prod.fst ++ destroyed).Perm (List.range next) := by decide

namespace Ledger

variable {α : Type*} {l : Ledger α}

/-- The handles that are alive. -/
def handles (l : Ledger α) : List ℕ := l.live.map Prod.fst

theorem nodup (l : Ledger α) : (l.handles ++ l.destroyed).Nodup :=
  l.balanced.nodup_iff.mpr List.nodup_range

theorem handles_nodup (l : Ledger α) : l.handles.Nodup := (List.nodup_append.mp l.nodup).1

/-- Nothing is destroyed twice. -/
theorem destroyed_nodup (l : Ledger α) : l.destroyed.Nodup := (List.nodup_append.mp l.nodup).2.1

theorem lt_next_of_mem {n : ℕ} (h : n ∈ l.handles) : n < l.next :=
  List.mem_range.mp (l.balanced.mem_iff.mp (List.mem_append_left _ h))

/-- Create an object; its handle is `l.next`. -/
def create (l : Ledger α) (a : α) : Ledger α where
  live := l.live ++ [(l.next, a)]
  destroyed := l.destroyed
  faults := l.faults
  next := l.next + 1
  balanced := by
    rw [List.map_append, List.append_assoc, List.range_succ]
    refine (List.Perm.append_left _ List.perm_append_comm).trans ?_
    rw [← List.append_assoc]
    exact l.balanced.append_right _

/-- Destroy the object under a handle, if it is alive. -/
def destroy (l : Ledger α) (n : ℕ) : Ledger α :=
  if h : n ∈ l.handles then
    { live := l.live.filter (·.1 ≠ n)
      destroyed := l.destroyed ++ [n]
      faults := l.faults
      next := l.next
      balanced := by
        have hfilter : (l.live.filter (·.1 ≠ n)).map Prod.fst = l.handles.erase n := by
          rw [l.handles_nodup.erase_eq_filter, handles, List.filter_map]
          exact congrArg _ (List.filter_congr fun p _ => by simp [bne, beq_eq_decide])
        rw [hfilter, ← List.append_assoc]
        refine List.perm_append_comm.trans ?_
        refine List.Perm.trans ?_ l.balanced
        exact (List.perm_cons_erase h).symm.append_right l.destroyed }
  else { l with faults := l.faults ++ [n] }

/-- The object under a handle. -/
def read (l : Ledger α) (n : ℕ) : Option α := (l.live.find? (·.1 = n)).map Prod.snd

/-- Create some objects, one after the other. -/
def createAll (l : Ledger α) (as : List α) : Ledger α := as.foldl create l

/-- Destroy the objects under some handles, one after the other. -/
def destroyAll (l : Ledger α) (ns : List ℕ) : Ledger α := ns.foldl destroy l

@[simp]
theorem create_live (l : Ledger α) (a : α) : (l.create a).live = l.live ++ [(l.next, a)] := rfl

@[simp]
theorem create_destroyed (l : Ledger α) (a : α) : (l.create a).destroyed = l.destroyed := rfl

@[simp]
theorem create_faults (l : Ledger α) (a : α) : (l.create a).faults = l.faults := rfl

@[simp]
theorem create_next (l : Ledger α) (a : α) : (l.create a).next = l.next + 1 := rfl

/-- Every handle names one live object. -/
theorem ne_of_live_eq {n : ℕ} {before after : List (ℕ × α)} {a : α}
    (h : l.live = before ++ (n, a) :: after) :
    (∀ q ∈ before, q.1 ≠ n) ∧ ∀ q ∈ after, q.1 ≠ n := by
  have hnodup := l.handles_nodup
  rw [handles, h, List.map_append, List.map_cons, List.nodup_append, List.nodup_cons] at hnodup
  obtain ⟨-, ⟨hafter, -⟩, hbefore⟩ := hnodup
  refine ⟨fun q hq => hbefore q.1 (List.mem_map_of_mem hq) n List.mem_cons_self, ?_⟩
  intro q hq hqn
  exact hafter (List.mem_map.mpr ⟨q, hq, hqn⟩)

/-- Destroying a live object takes it off the live ones and nothing else. -/
theorem destroy_spec {n : ℕ} {before after : List (ℕ × α)} {a : α}
    (h : l.live = before ++ (n, a) :: after) :
    (l.destroy n).live = before ++ after ∧ (l.destroy n).destroyed = l.destroyed ++ [n] ∧
      (l.destroy n).faults = l.faults ∧ (l.destroy n).next = l.next := by
  have hmem : n ∈ l.handles := by simp [handles, h]
  obtain ⟨hbefore, hafter⟩ := ne_of_live_eq h
  rw [destroy, dif_pos hmem]
  refine ⟨?_, rfl, rfl, rfl⟩
  change l.live.filter (·.1 ≠ n) = before ++ after
  rw [h, List.filter_append, List.filter_cons_of_neg (by simp),
    List.filter_eq_self.mpr fun q hq => by simpa using hbefore q hq,
    List.filter_eq_self.mpr fun q hq => by simpa using hafter q hq]

/-- Objects that were added to a ledger can be taken back: each is destroyed once, and what was
alive before is alive again. -/
theorem destroyAll_made {kept made : List (ℕ × α)} (h : l.live = kept ++ made) :
    (l.destroyAll (made.map Prod.fst)).live = kept ∧
      (l.destroyAll (made.map Prod.fst)).destroyed = l.destroyed ++ made.map Prod.fst ∧
      (l.destroyAll (made.map Prod.fst)).faults = l.faults ∧
      (l.destroyAll (made.map Prod.fst)).next = l.next := by
  induction made generalizing l with
  | nil => exact ⟨by simpa [destroyAll] using h, by simp [destroyAll], rfl, rfl⟩
  | cons p made ih =>
    obtain ⟨hlive, hdestroyed, hfaults, hnext⟩ := destroy_spec h
    obtain ⟨hlive', hdestroyed', hfaults', hnext'⟩ := ih hlive
    refine ⟨hlive', ?_, hfaults'.trans hfaults, hnext'.trans hnext⟩
    rw [List.map_cons, List.append_cons, ← hdestroyed]
    exact hdestroyed'

theorem read_of_mem {n : ℕ} {a : α} (h : (n, a) ∈ l.live) : l.read n = some a := by
  obtain ⟨before, after, hlive⟩ := List.append_of_mem h
  obtain ⟨hbefore, -⟩ := ne_of_live_eq hlive
  have hskip : before.find? (·.1 = n) = none :=
    List.find?_eq_none.mpr fun q hq => by simpa using hbefore q hq
  rw [read, hlive, List.find?_append, hskip, Option.none_or, List.find?_cons_of_pos (by simp)]
  rfl

/-- Several objects get consecutive handles. -/
theorem createAll_spec (l : Ledger α) (as : List α) :
    (l.createAll as).live = l.live ++ (List.range' l.next as.length).zip as ∧
      (l.createAll as).destroyed = l.destroyed ∧ (l.createAll as).faults = l.faults ∧
      (l.createAll as).next = l.next + as.length := by
  induction as generalizing l with
  | nil => exact ⟨(List.append_nil _).symm, rfl, rfl, rfl⟩
  | cons a as ih =>
    obtain ⟨hlive, hdestroyed, hfaults, hnext⟩ := ih (l.create a)
    refine ⟨?_, hdestroyed, hfaults, hnext.trans ?_⟩
    · rw [List.length_cons, List.range'_succ, List.zip_cons_cons, List.append_cons]
      exact hlive
    · rw [create_next, List.length_cons]
      omega

theorem map_fst_zip_range' (n : ℕ) (as : List α) :
    ((List.range' n as.length).zip as).map Prod.fst = List.range' n as.length :=
  List.map_fst_zip (by simp)

/-- What was created can be taken back. -/
theorem createAll_destroyAll (l : Ledger α) (as : List α) :
    ((l.createAll as).destroyAll (List.range' l.next as.length)).live = l.live ∧
      ((l.createAll as).destroyAll (List.range' l.next as.length)).destroyed =
        l.destroyed ++ List.range' l.next as.length ∧
      ((l.createAll as).destroyAll (List.range' l.next as.length)).faults = l.faults ∧
      ((l.createAll as).destroyAll (List.range' l.next as.length)).next = l.next + as.length := by
  obtain ⟨hlive, hdestroyed, hfaults, hnext⟩ := l.createAll_spec as
  have hback := destroyAll_made hlive
  rwa [map_fst_zip_range', hdestroyed, hfaults, hnext] at hback

/-- From the first ledger to the second, whatever was created is destroyed again, and nothing
else. -/
structure Settles (l m : Ledger α) : Prop where
  live : m.live = l.live
  faults : m.faults = l.faults
  next : l.next ≤ m.next

theorem Settles.refl (l : Ledger α) : Settles l l := ⟨rfl, rfl, le_rfl⟩

theorem Settles.trans {m k : Ledger α} (h : Settles l m) (h' : Settles m k) : Settles l k :=
  ⟨h'.live.trans h.live, h'.faults.trans h.faults, h.next.trans h'.next⟩

theorem settles_createAll_destroyAll (l : Ledger α) (as : List α) :
    Settles l ((l.createAll as).destroyAll (List.range' l.next as.length)) := by
  obtain ⟨hlive, -, hfaults, hnext⟩ := l.createAll_destroyAll as
  exact ⟨hlive, hfaults, hnext ▸ Nat.le_add_right _ _⟩

/-- An object may be held while other things are settled. -/
theorem Settles.bracket {m : Ledger α} {a : α} (h : Settles (l.create a) m) :
    Settles l (m.destroy l.next) := by
  have hlast : m.live = l.live ++ (l.next, a) :: [] := h.live
  obtain ⟨hlive, -, hfaults, hnext⟩ := destroy_spec hlast
  refine ⟨hlive.trans (List.append_nil _), hfaults.trans h.faults, ?_⟩
  rw [hnext]
  exact (Nat.le_succ _).trans h.next

/-- Each handle that was given out on the way is destroyed exactly once. -/
theorem Settles.destroyed {m : Ledger α} (h : Settles l m) :
    m.destroyed.Perm (l.destroyed ++ List.range' l.next (m.next - l.next)) := by
  have hrange : List.range m.next = List.range l.next ++ List.range' l.next (m.next - l.next) := by
    have happend := @List.range'_append_1 0 l.next (m.next - l.next)
    rw [Nat.zero_add, Nat.add_sub_of_le h.next] at happend
    rw [List.range_eq_range', List.range_eq_range', happend]
  have hall : (l.live.map Prod.fst ++ m.destroyed).Perm
      (l.live.map Prod.fst ++ (l.destroyed ++ List.range' l.next (m.next - l.next))) := by
    rw [← List.append_assoc, ← h.live]
    refine m.balanced.trans ?_
    rw [hrange, h.live]
    exact l.balanced.symm.append_right _
  exact (List.perm_append_left_iff _).mp hall

/-- What was created can be read back. -/
theorem filterMap_read_createAll (l : Ledger α) (as : List α) :
    (List.range' l.next as.length).filterMap (l.createAll as).read = as := by
  obtain ⟨hlive, -⟩ := l.createAll_spec as
  have hread : ∀ p ∈ (List.range' l.next as.length).zip as,
      ((l.createAll as).read ∘ Prod.fst) p = some p.2 := fun p hp =>
    read_of_mem (hlive ▸ List.mem_append_right _ hp)
  rw [← map_fst_zip_range', List.filterMap_map, List.filterMap_congr hread,
    List.filterMap_eq_map', List.map_snd_zip (by simp)]

/-! ### What is left -/

/-- From the first ledger to the second nothing is destroyed that was not alive, and what is alive
is what was, with `made`. -/
structure Leaves (l : Ledger α) (made : List (ℕ × α)) (m : Ledger α) : Prop where
  live : m.live.Perm (l.live ++ made)
  faults : m.faults = l.faults

namespace Leaves

variable {m k : Ledger α} {made made' : List (ℕ × α)} {n : ℕ} {a : α}

theorem refl (l : Ledger α) : Leaves l [] l := ⟨by rw [List.append_nil], rfl⟩

theorem trans (h : Leaves l made m) (h' : Leaves m made' k) : Leaves l (made ++ made') k where
  live := by
    rw [← List.append_assoc]
    exact h'.live.trans (h.live.append_right made')
  faults := h'.faults.trans h.faults

theorem perm (h : Leaves l made m) (hperm : made.Perm made') : Leaves l made' m :=
  ⟨h.live.trans (hperm.append_left l.live), h.faults⟩

theorem create (h : Leaves l made m) (a : α) : Leaves l (made ++ [(m.next, a)]) (m.create a) where
  live := by
    rw [create_live, ← List.append_assoc]
    exact h.live.append_right _
  faults := h.faults

/-- What was left is destroyed. -/
theorem destroy (h : Leaves l ((n, a) :: made) m) : Leaves l made (m.destroy n) := by
  have hfront : m.live.Perm ((n, a) :: (l.live ++ made)) := h.live.trans List.perm_middle
  obtain ⟨before, after, hlive⟩ := List.append_of_mem (hfront.mem_iff.mpr List.mem_cons_self)
  obtain ⟨hlive', -, hfaults, -⟩ := destroy_spec hlive
  refine ⟨?_, hfaults.trans h.faults⟩
  rw [hlive']
  rw [hlive] at hfront
  exact (List.perm_cons _).mp (List.perm_middle.symm.trans hfront)

/-- An object that is created first is left with the rest. -/
theorem of_create (h : Leaves (l.create a) made m) : Leaves l ((l.next, a) :: made) m := by
  refine ⟨?_, h.faults⟩
  have hlive := h.live
  rwa [create_live, List.append_assoc, List.singleton_append] at hlive

/-- An object may be held while the rest goes on. -/
theorem bracket (h : Leaves (l.create a) made m) : Leaves l made (m.destroy l.next) :=
  h.of_create.destroy

/-- All that was left is destroyed. -/
theorem destroyAll (h : Leaves l (made ++ made') m) :
    Leaves l made' (m.destroyAll (made.map Prod.fst)) := by
  induction made generalizing m with
  | nil => exact h
  | cons p made ih => exact ih h.destroy

/-- All that was left is destroyed, in whatever order. -/
theorem destroyAll_perm {ns : List ℕ} (h : Leaves l made m) (hns : ns.Perm (made.map Prod.fst)) :
    Leaves l [] (m.destroyAll ns) := by
  induction ns generalizing m made with
  | nil =>
    obtain rfl : made = [] := List.map_eq_nil_iff.mp (List.nil_perm.mp hns)
    exact h
  | cons n ns ih =>
    obtain ⟨⟨n', a⟩, hmem, rfl⟩ := List.mem_map.mp (hns.mem_iff.mp List.mem_cons_self)
    obtain ⟨before, after, rfl⟩ := List.append_of_mem hmem
    refine ih (h.perm List.perm_middle).destroy ((List.perm_cons n').mp (hns.trans ?_))
    exact (List.perm_middle (a := (n', a))).map Prod.fst

/-- What is alive is what was, with the first part of what is left, exactly when there is no second
part. -/
theorem live_perm_iff (h : Leaves l (made ++ made') m) :
    m.live.Perm (l.live ++ made) ↔ made' = [] := by
  constructor
  · intro hlive
    have hlength := (hlive.symm.trans h.live).length_eq
    simp only [List.length_append] at hlength
    exact List.length_eq_zero_iff.mp (by omega)
  · rintro rfl
    simpa only [List.append_nil] using h.live

/-- The two ledgers have the same objects alive only when nothing is left. -/
theorem eq_nil (h : Leaves l made m) (hlive : m.live.Perm l.live) : made = [] := by
  have hnone : Leaves l ([] ++ made) m := h
  exact hnone.live_perm_iff.mp (by rwa [List.append_nil])

end Leaves

/-- Create an object, go on, and destroy it. -/
def holding {β : Type*} (a : α) (f : Ledger α → β × Ledger α) (l : Ledger α) : β × Ledger α :=
  let x := f (l.create a)
  (x.1, x.2.destroy l.next)

@[simp]
theorem holding_fst {β : Type*} (a : α) (f : Ledger α → β × Ledger α) (l : Ledger α) :
    (l.holding a f).1 = (f (l.create a)).1 := rfl

theorem Leaves.holding {β : Type*} {f : Ledger α → β × Ledger α} {a : α} {made : List (ℕ × α)}
    (h : Leaves (l.create a) made (f (l.create a)).2) : Leaves l made (l.holding a f).2 :=
  h.bracket

theorem mem_handles_create (l : Ledger α) (a : α) : l.next ∈ (l.create a).handles := by
  simp [handles]

/-- What has been destroyed is not alive. -/
theorem notMem_handles_destroy (l : Ledger α) (n : ℕ) : n ∉ (l.destroy n).handles := by
  by_cases h : n ∈ l.handles
  · rw [Ledger.destroy, dif_pos h]
    simp [handles]
  · rwa [Ledger.destroy, dif_neg h]

/-- What is not alive any more is destroyed a second time. -/
theorem faults_destroy_of_notMem {n : ℕ} (h : n ∉ l.handles) :
    (l.destroy n).faults = l.faults ++ [n] := by
  rw [Ledger.destroy, dif_neg h]

end Ledger
