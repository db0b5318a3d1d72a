import Mathlib.Data.List.Induction

/-!
# Chronicles

A chronicle is a finite list of events, oldest first. `Chronicle G l` says that every event of
`l` is good in view of the events before it, so a statement about every moment of a run becomes
one statement about the list of everything the run did. Extending the list by one event asks
for the goodness of that event only.

## Main definitions

* `Chronicle` — every event is good in view of its past.

## Main results

* `Chronicle.concat`, `Chronicle.append_of_forall`.
-/

/-- Every event `e` of the list satisfies `G past e`, where `past` is what precedes it. -/
def Chronicle {ε : Type*} (G : List ε → ε → Prop) (l : List ε) : Prop :=
  ∀ past e, past ++ [e] <+: l → G past e

namespace Chronicle

variable {ε : Type*} {G : List ε → ε → Prop} {l : List ε}

@[simp]
theorem nil : Chronicle G [] := by
  intro past e h
  simp at h

theorem concat_iff {e : ε} : Chronicle G (l ++ [e]) ↔ Chronicle G l ∧ G l e := by
  constructor
  · intro h
    exact ⟨fun past e' hp => h past e' (hp.trans (List.prefix_append l [e])),
      h l e List.prefix_rfl⟩
  · rintro ⟨hl, he⟩ past e' hp
    rcases List.prefix_concat_iff.mp hp with heq | hlt
    · obtain ⟨rfl, hee⟩ := List.append_inj' heq rfl
      obtain rfl : e' = e := by simpa using hee
      exact he
    · exact hl past e' hlt

theorem concat {e : ε} (hl : Chronicle G l) (he : G l e) : Chronicle G (l ++ [e]) :=
  concat_iff.mpr ⟨hl, he⟩

/-- Events that are good whatever came before can be added in any number. -/
theorem append_of_forall {evs : List ε} (hl : Chronicle G l)
    (hevs : ∀ e ∈ evs, ∀ past, G past e) : Chronicle G (l ++ evs) := by
  induction evs using List.reverseRecOn with
  | nil => simpa using hl
  | append_singleton evs e ih =>
    rw [← List.append_assoc]
    exact (ih fun e' he' => hevs e' (List.mem_append_left _ he')).concat
      (hevs e (by simp) _)

end Chronicle
