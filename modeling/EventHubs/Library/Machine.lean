import Mathlib.Data.List.Basic

/-!
# Machines given by partial step functions

A machine answers each input with the next state, or with `none` when the input is not
enabled. A run feeds a list of inputs. The rules below turn a fact about one step into a fact
about every run: `Machine.run_invariant` for an unconditional invariant,
`Machine.run_invariant_of_meets` for an invariant that holds along the runs all of whose steps
meet a condition on the state before the step and the input.

## Main definitions

* `Machine`, `Machine.run`, `Machine.Leads`.
* `Machine.Meets` — every step of a run meets a condition.

## Main results

* `Machine.run_append`, `Machine.meets_append`.
* `Machine.run_invariant`, `Machine.run_invariant_of_meets`.
* `Machine.meets_congr`, `Machine.forall_log_iff`, `Machine.forall_past_iff`.
* `Machine.run_project` — a machine inside another one.
-/

/-- A machine: `step s i = none` says that the input `i` is not enabled in the state `s`. -/
structure Machine (σ ι : Type*) where
  step : σ → ι → Option σ

namespace Machine

variable {σ ι : Type*} (M : Machine σ ι)

/-- Feed the inputs one after the other; `none` as soon as one of them is not enabled. -/
def run : σ → List ι → Option σ
  | s, [] => some s
  | s, i :: is => (M.step s i).bind fun t ↦ run t is

@[simp]
theorem run_nil (s : σ) : M.run s [] = some s := rfl

theorem run_cons (s : σ) (i : ι) (is : List ι) :
    M.run s (i :: is) = (M.step s i).bind fun t ↦ M.run t is := rfl

theorem run_append (s : σ) (is js : List ι) :
    M.run s (is ++ js) = (M.run s is).bind fun t ↦ M.run t js := by
  induction is generalizing s with
  | nil => rfl
  | cons i is ih =>
    simp only [List.cons_append, run_cons]
    cases M.step s i with
    | none => rfl
    | some t => exact ih t

/-- A run that ends can be cut at its last input. -/
theorem run_concat {s u : σ} {is : List ι} {i : ι} (h : M.run s (is ++ [i]) = some u) :
    ∃ t, M.run s is = some t ∧ M.step t i = some u := by
  rw [run_append] at h
  obtain ⟨t, ht, hu⟩ := Option.bind_eq_some_iff.mp h
  rw [run_cons] at hu
  obtain ⟨v, hv, hvu⟩ := Option.bind_eq_some_iff.mp hu
  exact ⟨t, ht, by simpa only [run_nil, Option.some.injEq, ← hv] using hvu ▸ hv⟩

theorem run_concat_of_step {s t u : σ} {is : List ι} {i : ι} (hrun : M.run s is = some t)
    (hstep : M.step t i = some u) : M.run s (is ++ [i]) = some u := by
  rw [run_append, hrun]
  simp only [Option.bind_some, run_cons, hstep, run_nil]

/-- Every step of the run on the given inputs meets the condition `C`, which may look at the
state before the step and at the input. -/
def Meets (C : σ → ι → Prop) : σ → List ι → Prop
  | _, [] => True
  | s, i :: is => C s i ∧ ∀ t, M.step s i = some t → Meets C t is

/-- Whether a given run meets a decidable condition can be computed. -/
instance decidableMeets (C : σ → ι → Prop) [∀ s i, Decidable (C s i)] :
    ∀ s is, Decidable (M.Meets C s is)
  | _, [] => isTrue trivial
  | s, i :: is =>
    have : Decidable (∀ t, M.step s i = some t → M.Meets C t is) :=
      match M.step s i with
      | none => isTrue fun _ ht ↦ nomatch ht
      | some u =>
        have := decidableMeets C u is
        decidable_of_iff (M.Meets C u is)
          ⟨fun hu _ ht ↦ Option.some.inj ht ▸ hu, fun hall ↦ hall u rfl⟩
    inferInstanceAs (Decidable (_ ∧ _))

theorem meets_append {C : σ → ι → Prop} {s t : σ} {is js : List ι}
    (hrun : M.run s is = some t) :
    M.Meets C s (is ++ js) ↔ M.Meets C s is ∧ M.Meets C t js := by
  induction is generalizing s with
  | nil =>
    obtain rfl : s = t := Option.some.inj hrun
    exact ⟨fun h ↦ ⟨trivial, h⟩, fun h ↦ h.2⟩
  | cons i is ih =>
    rw [run_cons] at hrun
    obtain ⟨u, hu, hut⟩ := Option.bind_eq_some_iff.mp hrun
    simp only [List.cons_append, Meets]
    constructor
    · rintro ⟨hC, hrest⟩
      exact ⟨⟨hC, fun v hv ↦ by
        obtain rfl : u = v := Option.some.inj (hu.symm.trans hv)
        exact ((ih hut).mp (hrest u hu)).1⟩, ((ih hut).mp (hrest u hu)).2⟩
    · rintro ⟨⟨hC, hrest⟩, hjs⟩
      refine ⟨hC, fun v hv ↦ ?_⟩
      obtain rfl : u = v := Option.some.inj (hu.symm.trans hv)
      exact (ih hut).mpr ⟨hrest u hu, hjs⟩

variable {M}

/-- The invariant rule: what every enabled step preserves, every run preserves. -/
theorem run_invariant {P : σ → Prop}
    (hstep : ∀ s i t, P s → M.step s i = some t → P t) {s t : σ} {is : List ι}
    (hs : P s) (hrun : M.run s is = some t) : P t := by
  induction is generalizing s with
  | nil => exact Option.some.inj hrun ▸ hs
  | cons i is ih =>
    rw [run_cons] at hrun
    obtain ⟨u, hu, hut⟩ := Option.bind_eq_some_iff.mp hrun
    exact ih (hstep s i u hs hu) hut

/-- The conditional invariant rule: what every step that meets `C` preserves, every run all of
whose steps meet `C` preserves. -/
theorem run_invariant_of_meets {P : σ → Prop} {C : σ → ι → Prop}
    (hstep : ∀ s i t, P s → C s i → M.step s i = some t → P t) {s t : σ} {is : List ι}
    (hs : P s) (hC : M.Meets C s is) (hrun : M.run s is = some t) : P t := by
  induction is generalizing s with
  | nil => exact Option.some.inj hrun ▸ hs
  | cons i is ih =>
    rw [run_cons] at hrun
    obtain ⟨u, hu, hut⟩ := Option.bind_eq_some_iff.mp hrun
    exact ih (hstep s i u hs hC.1 hu) (hC.2 u hu) hut

/-- Two conditions that agree wherever an invariant holds are met by the same runs. -/
theorem meets_congr {P : σ → Prop} {C D : σ → ι → Prop}
    (hstep : ∀ s i t, P s → M.step s i = some t → P t) (h : ∀ s i, P s → (C s i ↔ D s i))
    {s : σ} {is : List ι} (hs : P s) : M.Meets C s is ↔ M.Meets D s is := by
  induction is generalizing s with
  | nil => rfl
  | cons i is ih =>
    simp only [Meets, h s i hs]
    refine and_congr_right fun _ ↦ forall_congr' fun t ↦ forall_congr' fun ht ↦ ?_
    exact ih (hstep s i t hs ht)

theorem meets_and {C D : σ → ι → Prop} {s : σ} {is : List ι} :
    M.Meets (fun s i ↦ C s i ∧ D s i) s is ↔ M.Meets C s is ∧ M.Meets D s is := by
  induction is generalizing s with
  | nil => exact ⟨fun _ ↦ ⟨trivial, trivial⟩, fun _ ↦ trivial⟩
  | cons i is ih =>
    simp only [Meets, ih]
    constructor
    · rintro ⟨⟨hC, hD⟩, hrest⟩
      exact ⟨⟨hC, fun t ht ↦ (hrest t ht).1⟩, hD, fun t ht ↦ (hrest t ht).2⟩
    · rintro ⟨⟨hC, hCrest⟩, hD, hDrest⟩
      exact ⟨⟨hC, hD⟩, fun t ht ↦ ⟨hCrest t ht, hDrest t ht⟩⟩

/-- A condition on the inputs alone. -/
theorem meets_of_forall_mem {C : ι → Prop} {s : σ} {is : List ι} (h : ∀ i ∈ is, C i) :
    M.Meets (fun _ i ↦ C i) s is := by
  induction is generalizing s with
  | nil => exact trivial
  | cons i is ih =>
    exact ⟨h i List.mem_cons_self, fun _ _ ↦ ih fun j hj ↦ h j (List.mem_cons_of_mem _ hj)⟩

/-- When every step appends what it emits to a log, all of the final log is good exactly when
all of the first log is and every step emits good events only. -/
theorem forall_log_iff {ε : Type*} (log : σ → List ε) (emits : σ → ι → List ε) {G : ε → Prop}
    (hlog : ∀ s i t, M.step s i = some t → log t = log s ++ emits s i) {s t : σ} {is : List ι}
    (hrun : M.run s is = some t) :
    (∀ e ∈ log t, G e) ↔
      (∀ e ∈ log s, G e) ∧ M.Meets (fun s i ↦ ∀ e ∈ emits s i, G e) s is := by
  induction is generalizing s with
  | nil =>
    obtain rfl : s = t := Option.some.inj hrun
    exact ⟨fun h ↦ ⟨h, trivial⟩, fun h ↦ h.1⟩
  | cons i is ih =>
    rw [run_cons] at hrun
    obtain ⟨u, hu, hut⟩ := Option.bind_eq_some_iff.mp hrun
    have hnext : (∀ v, M.step s i = some v → M.Meets (fun s i ↦ ∀ e ∈ emits s i, G e) v is) ↔
        M.Meets (fun s i ↦ ∀ e ∈ emits s i, G e) u is :=
      ⟨fun h ↦ h u hu, fun h v hv ↦ Option.some.inj (hu.symm.trans hv) ▸ h⟩
    rw [ih hut, hlog s i u hu, Meets, hnext, ← and_assoc]
    refine and_congr_left fun _ ↦ ?_
    simp only [List.mem_append, or_imp, forall_and]

/-- When a step keeps the invariant `P` exactly as far as it meets `C`, and a step that does not
leads to a state without `Q`, then `Q` holds all along a run exactly when the run meets `C`. -/
theorem forall_past_iff {P Q : σ → Prop} {C : σ → ι → Prop}
    (hkeep : ∀ s i t, P s → C s i → M.step s i = some t → P t) (hgood : ∀ s, P s → Q s)
    (hbad : ∀ s i t, P s → ¬ C s i → M.step s i = some t → ¬ Q t) {s t : σ} {is : List ι}
    (hs : P s) (hrun : M.run s is = some t) :
    (∀ js u, js <+: is → M.run s js = some u → Q u) ↔ M.Meets C s is := by
  induction is generalizing s with
  | nil =>
    refine ⟨fun _ ↦ trivial, fun _ js u hjs hu ↦ ?_⟩
    obtain rfl := List.prefix_nil.mp hjs
    exact Option.some.inj hu ▸ hgood s hs
  | cons i is ih =>
    rw [run_cons] at hrun
    obtain ⟨v, hv, hvt⟩ := Option.bind_eq_some_iff.mp hrun
    have hnext : ∀ js, M.run s (i :: js) = M.run v js := fun js ↦ by
      rw [run_cons, hv, Option.bind_some]
    constructor
    · intro hall
      have hC : C s i := by
        by_contra hC
        exact hbad s i v hs hC hv (hall [i] v (List.prefix_append [i] is) (hnext []))
      refine ⟨hC, fun w hw ↦ ?_⟩
      obtain rfl : v = w := Option.some.inj (hv.symm.trans hw)
      exact (ih (hkeep s i v hs hC hv) hvt).mp fun js u hjs hu ↦
        hall (i :: js) u (List.prefix_cons_inj i |>.mpr hjs) ((hnext js).trans hu)
    · rintro ⟨hC, hrest⟩ js u hjs hu
      cases js with
      | nil => exact Option.some.inj hu ▸ hgood s hs
      | cons j js =>
        obtain ⟨rfl, htail⟩ := List.cons_prefix_cons.mp hjs
        exact (ih (hkeep s j v hs hC hv) hvt).mpr (hrest v hv) js u htail
          ((hnext js).symm.trans hu)

/-- Some run leads from `s` to `t`. -/
def Leads (M : Machine σ ι) (s t : σ) : Prop := ∃ is, M.run s is = some t

theorem Leads.refl (s : σ) : M.Leads s s := ⟨[], rfl⟩

theorem Leads.trans {s t u : σ} (h : M.Leads s t) (h' : M.Leads t u) : M.Leads s u := by
  obtain ⟨is, his⟩ := h
  obtain ⟨js, hjs⟩ := h'
  exact ⟨is ++ js, by rw [run_append, his, Option.bind_some, hjs]⟩

theorem Leads.head {s t u : σ} {i : ι} (h : M.step s i = some t) (h' : M.Leads t u) :
    M.Leads s u := by
  obtain ⟨is, his⟩ := h'
  exact ⟨i :: is, by rw [run_cons, h, Option.bind_some, his]⟩

/-- A machine that contains another one: when a step leaves the inner state alone or takes it
through one of the inner steps, the inner state of every run is where an inner run takes it. -/
theorem run_project {τ κ : Type*} {N : Machine τ κ} {f : τ → σ} {P : τ → Prop}
    (hkeep : ∀ s i t, P s → N.step s i = some t → P t)
    (hstep : ∀ s i t, P s → N.step s i = some t → f t = f s ∨ ∃ j, M.step (f s) j = some (f t))
    {s t : τ} {is : List κ} (hs : P s) (hrun : N.run s is = some t) : M.Leads (f s) (f t) := by
  induction is generalizing s with
  | nil => exact Option.some.inj hrun ▸ .refl (f s)
  | cons i is ih =>
    rw [run_cons] at hrun
    obtain ⟨u, hu, hut⟩ := Option.bind_eq_some_iff.mp hrun
    have hrest := ih (hkeep s i u hs hu) hut
    rcases hstep s i u hs hu with heq | ⟨j, hj⟩
    · exact heq ▸ hrest
    · exact .head hj hrest

end Machine
