import EventHubs.Library.Machine
import Mathlib.Algebra.Group.Nat.Defs
import Mathlib.Data.Int.Notation
import Mathlib.Data.List.Induction

/-!
# Runs against a clock

A clock is read now and then, and a reading may fail. What is assumed of it is that no reading is
before an earlier one. The rule below is the invariant rule for a machine whose inputs carry the
readings they make: the invariant may look at everything that was read so far.

## Main definitions

* `Clock.Forward` — the readings that succeed do not decrease.
* `Clock.latest` — the last one that succeeded.
* `Clock.Elapsed`, `Clock.Wraps`, `Clock.Seems` — a period has passed, the clock went back and it
  looks so, either.

## Main results

* `Clock.forward_append`.
* `Clock.period_le_sub_iff`, `Clock.period_le_sub_iff_seems` — readings that are unsigned integers.
* `Clock.run_invariant`.
-/

namespace Clock

variable {τ : Type*}

/-- The last reading that succeeded, `start` when there is none. -/
def latest (start : τ) (rs : List (Option τ)) : τ := rs.foldl (fun last r => r.getD last) start

@[simp]
theorem latest_nil (start : τ) : latest start [] = start := rfl

@[simp]
theorem latest_cons (start : τ) (r : Option τ) (rs : List (Option τ)) :
    latest start (r :: rs) = latest (r.getD start) rs := rfl

@[simp]
theorem latest_append (start : τ) (rs qs : List (Option τ)) :
    latest start (rs ++ qs) = latest (latest start rs) qs := List.foldl_append

variable [LE τ]

/-- From `start` on no reading is before an earlier one. -/
def Forward (start : τ) : List (Option τ) → Prop
  | [] => True
  | none :: rs => Forward start rs
  | some now :: rs => start ≤ now ∧ Forward now rs

@[simp]
theorem forward_nil (start : τ) : Forward start [] := trivial

@[simp]
theorem forward_none {start : τ} {rs : List (Option τ)} :
    Forward start (none :: rs) ↔ Forward start rs := Iff.rfl

@[simp]
theorem forward_some {start now : τ} {rs : List (Option τ)} :
    Forward start (some now :: rs) ↔ start ≤ now ∧ Forward now rs := Iff.rfl

theorem forward_append {start : τ} {rs qs : List (Option τ)} :
    Forward start (rs ++ qs) ↔ Forward start rs ∧ Forward (latest start rs) qs := by
  induction rs generalizing start with
  | nil => simp
  | cons r rs ih =>
    cases r with
    | none => exact ih
    | some now =>
      rw [List.cons_append, forward_some, forward_some, ih, and_assoc]
      rfl

section Machine

variable {σ ι : Type*} {M : Machine σ ι}

/-- The invariant rule for a machine against a clock: the invariant is about the inputs so far and
the state, each input meets `C`, and its readings follow those of the inputs before. -/
theorem run_invariant {readings : ι → List (Option τ)} {start : τ} {P : List ι → σ → Prop}
    {C : σ → ι → Prop}
    (hstep : ∀ is s i t, P is s → C s i →
      Forward (latest start (is.flatMap readings)) (readings i) → M.step s i = some t →
      P (is ++ [i]) t)
    {s t : σ} {is : List ι} (hs : P [] s) (hclock : Forward start (is.flatMap readings))
    (hC : M.Meets C s is) (hrun : M.run s is = some t) : P is t := by
  induction is using List.reverseRecOn generalizing t with
  | nil => exact Option.some.inj hrun ▸ hs
  | append_singleton is i ih =>
    obtain ⟨u, hpast, hlast⟩ := M.run_concat hrun
    rw [List.flatMap_append, forward_append] at hclock
    obtain ⟨hCpast, hClast⟩ := (M.meets_append hpast).mp hC
    refine hstep is u i t (ih hclock.1 hCpast hpast) hClast.1 ?_ hlast
    simpa using hclock.2

end Machine

/-- The unsigned difference of two readings in their order is the time that has passed. -/
theorem period_le_sub_iff {period : UInt32} {now issued : UInt64} (h : issued ≤ now) :
    period.toUInt64 ≤ now - issued ↔ period.toNat ≤ now.toNat - issued.toNat := by
  rw [UInt64.le_iff_toNat_le, UInt64.toNat_sub_of_le _ _ h, UInt32.toNat_toUInt64]

/-- The period has passed between the two readings; after the clock went back no time has. -/
def Elapsed (period : UInt32) (issued now : UInt64) : Prop :=
  (period.toNat : ℤ) ≤ (now.toNat : ℤ) - issued.toNat

/-- The clock went back, by so little that the unsigned difference reaches the period. -/
def Wraps (period : UInt32) (issued now : UInt64) : Prop :=
  now < issued ∧ issued.toNat + period.toNat ≤ now.toNat + 2 ^ 64

/-- The unsigned difference of the two readings reaches the period. -/
def Seems (period : UInt32) (issued now : UInt64) : Prop :=
  Elapsed period issued now ∨ Wraps period issued now

/-- When a longer period has passed, so has a shorter one. -/
theorem Elapsed.anti {period period' : UInt32} {issued now : UInt64}
    (h : Elapsed period issued now) (hle : period'.toNat ≤ period.toNat) :
    Elapsed period' issued now := by
  unfold Elapsed at h ⊢
  omega

/-- The unsigned difference of two readings in any order. -/
theorem period_le_sub_iff_seems {period : UInt32} {now issued : UInt64} :
    period.toUInt64 ≤ now - issued ↔ Seems period issued now := by
  unfold Seems
  by_cases h : issued ≤ now
  · have hle := UInt64.le_iff_toNat_le.mp h
    have hnot : ¬ now < issued := UInt64.not_lt.mpr h
    rw [period_le_sub_iff h, Elapsed, Wraps]
    simp only [hnot, false_and, or_false]
    omega
  · have hlt : now < issued := UInt64.not_le.mp h
    have hnat := UInt64.lt_iff_toNat_lt.mp hlt
    have hissued := issued.toNat_lt
    rw [UInt64.le_iff_toNat_le, UInt64.toNat_sub, UInt32.toNat_toUInt64, Elapsed, Wraps,
      Nat.mod_eq_of_lt (by omega)]
    simp only [hlt, true_and]
    omega

end Clock
