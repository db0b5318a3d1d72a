import Mathlib.Tactic.Common

/-!
# Straight-line code that stops at its first failing call

`Attempt S α` is code over a state `S` that either ends with a value or stops at a failing
call. The state reached so far is kept in both cases, as in C code that fills the fields of a
structure one call at a time and leaves clean-up to its caller.

`Attempt.Spec P m Q R` is the triple with one postcondition for success and one for failure:
from a state satisfying `P`, success ends in `Q` and failure ends in `R`. `Attempt.Frame R m` says
that whether `m` succeeds or not, `R` relates its first to its last state. `Attempt.Commutes F m`
says that `m` does not see the part of the state that `F` changes.

## Main definitions

* `Attempt`, `Attempt.check`, `Attempt.update`, `Attempt.read`, `Attempt.require`.
* `Attempt.Spec`, `Attempt.Frame`.
* `Attempt.Succeeds` — no call fails.
* `Attempt.Commutes` — a part of the state is not looked at.
* `Watched`, `Attempt.operand` — a state together with the operands that calls were given.

## Main results

* `Attempt.Spec.bind`, `Attempt.Spec.check`, `Attempt.Spec.update`, `Attempt.Spec.read`.
* `Attempt.Spec.mono`, `Attempt.Spec.of_eq_some`, `Attempt.Spec.of_eq_none`.
* `Attempt.Frame.bind`, `Attempt.Frame.spec`.
* `Attempt.Succeeds.bind`, `Attempt.Succeeds.ne_none`.
* `Attempt.Commutes.bind`, `Attempt.Commutes.update`, `Attempt.Commutes.check`.
* `Attempt.run_bind_eq_some`, `Attempt.run_check_eq_some`, `Attempt.run_require_eq_some`,
  `Attempt.run_operand_eq_some` — when the code ends with a value, one step at a time.
-/

/-- Code over the state `S` that ends with a value or stops at a failing call. -/
def Attempt (S α : Type) := S → Option α × S

namespace Attempt

variable {S α β : Type}

instance : Monad (Attempt S) where
  pure a := fun s ↦ (some a, s)
  bind m f := fun s ↦
    match m s with
    | (some a, t) => f a t
    | (none, t) => (none, t)

/-- Stop here unless `b`. -/
def check (b : Bool) : Attempt S Unit := fun s ↦ (if b then some () else none, s)

/-- Change the state; never fails. -/
def update (f : S → S) : Attempt S Unit := fun s ↦ (some (), f s)

/-- Look at the state; never fails. -/
def read (f : S → α) : Attempt S α := fun s ↦ (some (f s), s)

/-- Stop here unless there is a value. -/
def require (o : Option α) : Attempt S α := fun s ↦ (o, s)

/-- From a state satisfying `P`, success of `m` ends in `Q` and failure in `R`. -/
def Spec (P : S → Prop) (m : Attempt S α) (Q : α → S → Prop) (R : S → Prop) : Prop :=
  ∀ s, P s → match m s with
    | (some a, t) => Q a t
    | (none, t) => R t

namespace Spec

variable {P P' : S → Prop} {m : Attempt S α} {Q Q' : α → S → Prop} {R R' : S → Prop}

theorem pure {a : α} (h : ∀ s, P s → Q a s) : Spec P (Pure.pure a) Q R := h

theorem bind {f : α → Attempt S β} {T : β → S → Prop} (hm : Spec P m Q R)
    (hf : ∀ a, Spec (Q a) (f a) T R) : Spec P (m >>= f) T R := by
  intro s hs
  have h := hm s hs
  change match (match m s with
    | (some a, t) => f a t
    | (none, t) => (none, t)) with
    | (some a, t) => T a t
    | (none, t) => R t
  rcases hms : m s with ⟨_ | a, t⟩
  · simpa only [hms] using h
  · rw [hms] at h
    exact hf a t h

theorem check {b : Bool} {Q : Unit → S → Prop} (hQ : ∀ s, P s → b = true → Q () s)
    (hR : ∀ s, P s → b = false → R s) : Spec P (Attempt.check b) Q R := by
  intro s hs
  cases b with
  | false => exact hR s hs rfl
  | true => exact hQ s hs rfl

theorem keep {b : Bool} (hR : ∀ s, P s → R s) :
    Spec P (Attempt.check b) (fun _ ↦ P) R :=
  check (fun _ h _ ↦ h) fun s h _ ↦ hR s h

theorem update {f : S → S} {Q : Unit → S → Prop} (h : ∀ s, P s → Q () (f s)) :
    Spec P (Attempt.update f) Q R := h

theorem read {f : S → α} (h : ∀ s, P s → Q (f s) s) : Spec P (Attempt.read f) Q R := h

theorem mono (h : Spec P m Q R) (hP : ∀ s, P' s → P s) (hQ : ∀ a s, Q a s → Q' a s)
    (hR : ∀ s, R s → R' s) : Spec P' m Q' R' := by
  intro s hs
  have := h s (hP s hs)
  rcases hms : m s with ⟨_ | a, t⟩
  · rw [hms] at this
    exact hR t this
  · rw [hms] at this
    exact hQ a t this

/-- What holds whatever the state is may be assumed. -/
theorem fact {c : Prop} (h : c → Spec P m Q R) : Spec (fun s ↦ P s ∧ c) m Q R :=
  fun s hs ↦ h hs.2 s hs.1

theorem trivial : Spec P m (fun _ _ ↦ True) (fun _ ↦ True) := by
  intro s _
  rcases m s with ⟨_ | a, t⟩ <;> exact True.intro

theorem of_eq_some (h : Spec P m Q R) {s t : S} {a : α} (hs : P s) (hm : m s = (some a, t)) :
    Q a t := by
  have := h s hs
  rwa [hm] at this

theorem of_eq_none (h : Spec P m Q R) {s t : S} (hs : P s) (hm : m s = (none, t)) : R t := by
  have := h s hs
  rwa [hm] at this

end Spec

/-- Whether `m` succeeds or stops, the relation `R` holds of its first and its last state. -/
def Frame (R : S → S → Prop) (m : Attempt S α) : Prop := ∀ s, R s (m s).2

namespace Frame

variable {R : S → S → Prop} {m : Attempt S α}

theorem bind (htrans : ∀ {a b c}, R a b → R b c → R a c) {f : α → Attempt S β} (hm : Frame R m)
    (hf : ∀ a, Frame R (f a)) : Frame R (m >>= f) := by
  intro s
  have h := hm s
  change R s (match m s with
    | (some a, t) => f a t
    | (none, t) => (none, t)).2
  rcases hms : m s with ⟨_ | a, t⟩
  · simpa only [hms] using h
  · rw [hms] at h
    exact htrans h (hf a t)

theorem check (hrefl : ∀ s, R s s) {b : Bool} : Frame R (Attempt.check b) := fun s ↦ hrefl s

theorem update {f : S → S} (h : ∀ s, R s (f s)) : Frame R (Attempt.update f) := h

theorem read (hrefl : ∀ s, R s s) {f : S → α} : Frame R (Attempt.read f) := fun s ↦ hrefl s

/-- What the frame relation preserves, the code keeps. -/
theorem spec {P : S → Prop} (h : Frame R m) (hP : ∀ s t, P s → R s t → P t) :
    Spec P m (fun _ ↦ P) P := by
  intro s hs
  have := hP s _ hs (h s)
  rcases hms : m s with ⟨_ | a, t⟩ <;> simpa only [hms] using this

end Frame

/-- From every state `m` ends with a value. -/
def Succeeds (m : Attempt S α) : Prop := ∀ s, ∃ a t, m s = (some a, t)

namespace Succeeds

variable {m : Attempt S α}

theorem bind {f : α → Attempt S β} (hm : Succeeds m) (hf : ∀ a, Succeeds (f a)) :
    Succeeds (m >>= f) := by
  intro s
  obtain ⟨a, t, hmt⟩ := hm s
  obtain ⟨b, u, hfu⟩ := hf a t
  refine ⟨b, u, ?_⟩
  change (match m s with
    | (some a, t) => f a t
    | (none, t) => (none, t)) = (some b, u)
  rw [hmt]
  exact hfu

theorem check {b : Bool} (hb : b = true) : Succeeds (S := S) (Attempt.check b) := by
  subst hb
  exact fun s ↦ ⟨(), s, rfl⟩

theorem update {f : S → S} : Succeeds (Attempt.update f) := fun s ↦ ⟨(), f s, rfl⟩

theorem ne_none (hm : Succeeds m) {s t : S} : m s ≠ (none, t) := by
  obtain ⟨a, u, hmu⟩ := hm s
  simp [hmu]

end Succeeds

/-- Changing the state by `F` first is the same as changing it by `F` afterwards. -/
def Commutes (F : S → S) (m : Attempt S α) : Prop := ∀ s, m (F s) = ((m s).1, F (m s).2)

namespace Commutes

variable {F : S → S} {m : Attempt S α}

theorem bind {f : α → Attempt S β} (hm : Commutes F m) (hf : ∀ a, Commutes F (f a)) :
    Commutes F (m >>= f) := by
  intro s
  change (match m (F s) with
    | (some a, t) => f a t
    | (none, t) => (none, t)) = _
  rw [hm s]
  change _ = ((match m s with
    | (some a, t) => f a t
    | (none, t) => (none, t)).1, F (match m s with
    | (some a, t) => f a t
    | (none, t) => (none, t)).2)
  rcases m s with ⟨_ | a, t⟩
  · rfl
  · exact hf a t

theorem check {b : Bool} : Commutes F (Attempt.check b) := fun _ ↦ rfl

theorem update {f : S → S} (h : ∀ s, f (F s) = F (f s)) : Commutes F (Attempt.update f) :=
  fun s ↦ congrArg (Prod.mk (some ())) (h s)

end Commutes

/-! ### Running the code -/

theorem run_bind_eq_some {m : Attempt S α} {f : α → Attempt S β} {s t : S} {b : β} :
    (m >>= f) s = (some b, t) ↔ ∃ a u, m s = (some a, u) ∧ f a u = (some b, t) := by
  change (match m s with
    | (some a, t) => f a t
    | (none, t) => (none, t)) = (some b, t) ↔ _
  rcases m s with ⟨_ | a, u⟩ <;> simp

theorem run_bind {m : Attempt S α} {f : α → Attempt S β} {s u : S} {a : α}
    (hm : m s = (some a, u)) : (m >>= f) s = f a u := by
  change (match m s with
    | (some a, t) => f a t
    | (none, t) => (none, t)) = f a u
  rw [hm]

theorem run_bind_assoc {γ : Type} {m : Attempt S α} {f : α → Attempt S β} {g : β → Attempt S γ}
    {s : S} : (m >>= f >>= g) s = (m >>= fun a ↦ f a >>= g) s := by
  change (match (match m s with
    | (some a, t) => f a t
    | (none, t) => (none, t)) with
    | (some b, t) => g b t
    | (none, t) => (none, t)) = (match m s with
    | (some a, t) => (f a >>= g) t
    | (none, t) => (none, t))
  rcases m s with ⟨_ | a, t⟩ <;> rfl

theorem run_check_eq_some {b : Bool} {f : Unit → Attempt S β} {s t : S} {c : β} :
    (check b >>= f) s = (some c, t) ↔ b = true ∧ f () s = (some c, t) := by
  cases b
  · exact iff_of_false (by rintro ⟨⟩) (by simp)
  · exact (and_iff_right rfl).symm

theorem run_require_eq_some {o : Option α} {f : α → Attempt S β} {s t : S} {b : β} :
    (require o >>= f) s = (some b, t) ↔ ∃ a, o = some a ∧ f a s = (some b, t) := by
  rw [run_bind_eq_some]
  simp [require]

theorem run_read {f : S → α} {g : α → Attempt S β} {s : S} : (read f >>= g) s = g (f s) s := rfl

end Attempt

/-! ### Operands -/

/-- A state together with the operands that calls were given. -/
structure Watched (S α : Type) where
  state : S
  operands : List (Option α) := []

namespace Watched

variable {S α : Type} {w : Watched S α}

/-- No call was given a missing operand. -/
def Present (w : Watched S α) : Prop := ∀ o ∈ w.operands, o.isSome = true

theorem Present.concat (h : w.Present) {o : Option α} (ho : o.isSome = true) :
    Present { w with operands := w.operands ++ [o] } := by
  intro o' ho'
  rcases List.mem_append.mp ho' with ho' | ho'
  · exact h o' ho'
  · rwa [List.mem_singleton.mp ho']

end Watched

namespace Attempt

variable {S α β : Type}

/-- A call on an operand that may be missing: it fails then, or unless `b`. -/
def operand (b : Bool) (o : Option α) : Attempt (Watched S α) α := fun w ↦
  (if b then o else none, { w with operands := w.operands ++ [o] })

/-- Change the state behind the operands. -/
def assign (f : S → S) : Attempt (Watched S α) Unit :=
  update fun w ↦ { w with state := f w.state }

theorem run_operand_eq_some {b : Bool} {o : Option α} {f : α → Attempt (Watched S α) β}
    {w t : Watched S α} {c : β} :
    (operand b o >>= f) w = (some c, t) ↔
      b = true ∧ ∃ a, o = some a ∧
        f a { w with operands := w.operands ++ [o] } = (some c, t) := by
  rw [run_bind_eq_some]
  cases b <;> simp [operand]

theorem run_assign {f : S → S} {g : Unit → Attempt (Watched S α) β} {w : Watched S α} :
    (assign f >>= g) w = g () { w with state := f w.state } := rfl

theorem Spec.assign {P : Watched S α → Prop} {Q : Unit → Watched S α → Prop}
    {R : Watched S α → Prop} {f : S → S} (h : ∀ w, P w → Q () { w with state := f w.state }) :
    Spec P (Attempt.assign f) Q R := h

/-- A call on an operand, whether it is there or not. -/
theorem Spec.operand {P : Watched S α → Prop} {Q : α → Watched S α → Prop}
    {R : Watched S α → Prop} {b : Bool} {o : Option α}
    (hQ : ∀ w a, P w → Q a { w with operands := w.operands ++ [o] })
    (hR : ∀ w, P w → R { w with operands := w.operands ++ [o] }) :
    Spec P (Attempt.operand b o) Q R := by
  intro w hw
  cases b with
  | false => exact hR w hw
  | true =>
    cases o with
    | none => exact hR w hw
    | some a => exact hQ w a hw

/-- A call on an operand that is there. -/
theorem Spec.present {b : Bool} {o : Option α} (ho : o.isSome = true) :
    Spec (Watched.Present (S := S)) (Attempt.operand b o) (fun _ ↦ Watched.Present)
      Watched.Present :=
  .operand (fun _ _ h ↦ h.concat ho) fun _ h ↦ h.concat ho

end Attempt
