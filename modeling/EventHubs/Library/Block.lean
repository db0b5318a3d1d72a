import Mathlib.Data.List.Basic

/-!
# Blocks of memory that are filled in pieces

A block is allocated with a size and not initialised. Pieces are copied to its write offset, one
after the other, without a test for the space that is left. A block that is given no more than its
size holds the pieces in order and is not overrun.

## Main definitions

* `Block`, `Block.alloc`, `Block.append`, `Block.appendAll`, `Block.read`.
* `Block.Holds` — what the block holds and how much it can hold.

## Main results

* `Block.Holds.append`, `Block.Holds.appendAll`.
-/

/-- A block of memory: its cells, those that were not written being `none`, the write offset, and
whether something was written outside. -/
structure Block (α : Type*) where
  cells : List (Option α)
  length : ℕ := 0
  overrun : Bool := false
  deriving DecidableEq

namespace Block

variable {α : Type*}

/-- A new block. -/
def alloc (size : ℕ) : Block α := { cells := List.replicate size none }

/-- The cells after a piece was copied to a position. -/
def memcpy (cells : List (Option α)) (position : ℕ) : List α → List (Option α)
  | [] => cells
  | a :: piece => memcpy (cells.set position (some a)) (position + 1) piece

/-- Copy a piece to the write offset. -/
def append (b : Block α) (piece : List α) : Block α where
  cells := memcpy b.cells b.length piece
  length := b.length + piece.length
  overrun := b.overrun || decide (b.cells.length < b.length + piece.length)

/-- Copy some pieces, one after the other. -/
def appendAll (b : Block α) (pieces : List (List α)) : Block α := pieces.foldl append b

/-- Read the block up to the write offset, if all of that was written. -/
def read (b : Block α) : Option (List α) :=
  if b.length ≤ b.cells.length then (b.cells.take b.length).mapM id else none

/-- The block has room for `size`, and what was written so far is `as`, all of it inside. -/
structure Holds (b : Block α) (size : ℕ) (as : List α) : Prop where
  fits : as.length ≤ size
  cells : b.cells = as.map some ++ List.replicate (size - as.length) none
  length : b.length = as.length
  overrun : b.overrun = false

theorem holds_alloc (size : ℕ) : (alloc size : Block α).Holds size [] :=
  ⟨Nat.zero_le _, rfl, rfl, rfl⟩

theorem memcpy_fresh (as piece : List α) {room : ℕ} (hroom : piece.length ≤ room) :
    memcpy (as.map some ++ List.replicate room none) as.length piece =
      (as ++ piece).map some ++ List.replicate (room - piece.length) none := by
  induction piece generalizing as room with
  | nil => simp [memcpy]
  | cons a piece ih =>
    obtain ⟨room, rfl⟩ : ∃ k, room = k + 1 :=
      Nat.exists_eq_add_one_of_ne_zero (Nat.ne_of_gt (Nat.lt_of_lt_of_le (Nat.succ_pos _) hroom))
    have hset : (as.map some ++ List.replicate (room + 1) none).set as.length (some a) =
        (as ++ [a]).map some ++ List.replicate room none := by
      rw [List.set_append_right _ _ (Nat.le_of_eq (List.length_map _)), List.length_map,
        Nat.sub_self, List.replicate_succ, List.set_cons_zero, List.map_append, List.append_assoc]
      rfl
    have hrest := ih (as ++ [a]) (Nat.le_of_succ_le_succ hroom)
    rw [List.length_append, List.length_singleton] at hrest
    rw [memcpy, hset, hrest, List.append_assoc, List.singleton_append, List.length_cons,
      Nat.add_sub_add_right]

/-- A piece for which there is room is written behind what the block holds. -/
theorem Holds.append {b : Block α} {size : ℕ} {as piece : List α} (h : b.Holds size as)
    (hroom : as.length + piece.length ≤ size) : (b.append piece).Holds size (as ++ piece) := by
  have hcells : b.cells.length = size := by
    rw [h.cells, List.length_append, List.length_map, List.length_replicate,
      Nat.add_sub_of_le h.fits]
  refine ⟨by rwa [List.length_append], ?_, ?_, ?_⟩
  · change memcpy b.cells b.length piece = _
    rw [h.cells, h.length, memcpy_fresh as piece (by omega), List.length_append, Nat.sub_sub]
  · change b.length + piece.length = _
    rw [h.length, List.length_append]
  · change (b.overrun || decide (b.cells.length < b.length + piece.length)) = false
    rw [h.overrun, hcells, h.length, Bool.false_or, decide_eq_false_iff_not]
    omega

/-- So are several pieces. -/
theorem Holds.appendAll {b : Block α} {size : ℕ} {as : List α} {pieces : List (List α)}
    (h : b.Holds size as) (hroom : as.length + pieces.flatten.length ≤ size) :
    (b.appendAll pieces).Holds size (as ++ pieces.flatten) := by
  induction pieces generalizing b as with
  | nil => rwa [List.flatten_nil, List.append_nil]
  | cons piece pieces ih =>
    rw [List.flatten_cons, List.length_append, ← Nat.add_assoc] at hroom
    have hpiece := h.append (Nat.le_of_add_right_le hroom)
    rw [List.flatten_cons, ← List.append_assoc]
    exact ih hpiece (by rwa [List.length_append])

/-- What was written can be read back. -/
theorem Holds.read {b : Block α} {size : ℕ} {as : List α} (h : b.Holds size as) :
    b.read = some as := by
  have hcells : b.length ≤ b.cells.length := by
    rw [h.length, h.cells, List.length_append, List.length_map]
    exact Nat.le_add_right _ _
  have htake : b.cells.take b.length = as.map some := by
    rw [h.cells, h.length]
    exact List.take_left' (List.length_map _)
  have hpure : as.mapM (fun a => some (id a)) = some (as.map id) := List.mapM_pure
  rw [Block.read, if_pos hcells, htake, List.mapM_map]
  exact hpure.trans (congrArg some (List.map_id as))

/-- A block that was given its size is written everywhere. -/
theorem Holds.full {b : Block α} {size : ℕ} {as : List α} (h : b.Holds size as)
    (hsize : as.length = size) : b.cells = as.map some := by
  rw [h.cells, hsize, Nat.sub_self, List.replicate_zero, List.append_nil]

end Block
