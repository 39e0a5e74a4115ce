import Ps2Drivers.Lib.Bytes

/-!
# Aligned blocks one after another

Blocks of bytes laid out from a start address on, each padded with zeros to a multiple of the
alignment.  `place` gives every block its offset, `area` the bytes; a block is found again at its
offset, and no two blocks overlap.
-/

open Binary

namespace Layout

def padded (a : Nat) (block : Bytes) : Bytes :=
  block ++ List.replicate (roundUp a block.length - block.length) 0

def area (a : Nat) (blocks : List Bytes) : Bytes := blocks.flatMap (padded a)

/-- How many bytes the blocks take. -/
def size (a : Nat) (blocks : List Bytes) : Nat :=
  (blocks.map fun block => roundUp a block.length).sum

def place (a : Nat) : Nat → List Bytes → List (Nat × Bytes)
  | _, [] => []
  | start, block :: blocks => (start, block) :: place a (start + roundUp a block.length) blocks

variable {a : Nat}

theorem padded_length (block : Bytes) (ha : 0 < a) :
    (padded a block).length = roundUp a block.length := by
  have := le_roundUp block.length ha
  rw [padded, List.length_append, List.length_replicate]
  omega

theorem area_cons (block : Bytes) (blocks : List Bytes) :
    area a (block :: blocks) = padded a block ++ area a blocks := List.flatMap_cons

theorem size_cons (block : Bytes) (blocks : List Bytes) :
    size a (block :: blocks) = roundUp a block.length + size a blocks := by
  rw [size, List.map_cons, List.sum_cons, size]

theorem area_length (blocks : List Bytes) (ha : 0 < a) :
    (area a blocks).length = size a blocks := by
  induction blocks with
  | nil => rfl
  | cons block blocks ih =>
    rw [area_cons, List.length_append, padded_length block ha, size_cons, ih]

theorem size_dvd (blocks : List Bytes) : size a blocks % a = 0 := by
  induction blocks with
  | nil => exact Nat.zero_mod a
  | cons block blocks ih => rw [size_cons, Nat.add_mod, roundUp_dvd, ih, Nat.add_zero, Nat.zero_mod]

theorem place_blocks (start : Nat) (blocks : List Bytes) :
    (place a start blocks).map Prod.snd = blocks := by
  induction blocks generalizing start with
  | nil => rfl
  | cons block blocks ih => rw [place, List.map_cons, ih]

/-- A block starts behind the earlier ones. -/
theorem place_getElem? (start : Nat) (blocks : List Bytes) (k : Nat) :
    (place a start blocks)[k]? =
      blocks[k]?.map fun block => (start + size a (blocks.take k), block) := by
  induction blocks generalizing start k with
  | nil => rfl
  | cons block blocks ih =>
    cases k with
    | zero => rfl
    | succ k =>
      rw [place, List.getElem?_cons_succ, ih, List.getElem?_cons_succ, List.take_succ_cons,
        size_cons, Nat.add_assoc]

/-- Every block is aligned and lies inside the area. -/
theorem place_bounds {start : Nat} (hstart : start % a = 0) (blocks : List Bytes) :
    ∀ p ∈ place a start blocks, start ≤ p.1 ∧ p.1 % a = 0 ∧
      p.1 + roundUp a p.2.length ≤ start + size a blocks := by
  induction blocks generalizing start with
  | nil => simp [place]
  | cons block blocks ih =>
    have hnext : (start + roundUp a block.length) % a = 0 := by
      rw [Nat.add_mod, hstart, roundUp_dvd, Nat.add_zero, Nat.zero_mod]
    rw [place, List.forall_mem_cons, size_cons]
    refine ⟨⟨Nat.le_refl _, hstart, by dsimp only; omega⟩, fun p hp => ?_⟩
    obtain ⟨hle, haligned, hend⟩ := ih hnext p hp
    exact ⟨by omega, haligned, by omega⟩

/-- Each block ends, padding included, before the later ones start. -/
theorem place_pairwise {start : Nat} (hstart : start % a = 0) (blocks : List Bytes) :
    (place a start blocks).Pairwise fun p q => p.1 + roundUp a p.2.length ≤ q.1 := by
  induction blocks generalizing start with
  | nil => exact List.Pairwise.nil
  | cons block blocks ih =>
    have hnext : (start + roundUp a block.length) % a = 0 := by
      rw [Nat.add_mod, hstart, roundUp_dvd, Nat.add_zero, Nat.zero_mod]
    rw [place, List.pairwise_cons]
    exact ⟨fun p hp => (place_bounds hnext blocks p hp).1, ih hnext⟩

/-- A block is found at its offset, behind whatever comes before the area. -/
theorem slice_area (ha : 0 < a) (blocks : List Bytes) (front : Bytes) :
    ∀ p ∈ place a front.length blocks, slice (front ++ area a blocks) p.1 p.2.length = p.2 := by
  induction blocks generalizing front with
  | nil => simp [place]
  | cons block blocks ih =>
    have hsplit : front ++ area a (block :: blocks) =
        (front ++ padded a block) ++ area a blocks := by
      rw [area_cons, List.append_assoc]
    rw [place, List.forall_mem_cons]
    constructor
    · rw [area_cons, padded, List.append_assoc, ← List.append_assoc]
      exact slice_append_right front block _ rfl rfl
    · intro p hp
      rw [hsplit]
      apply ih (front ++ padded a block)
      rwa [List.length_append, padded_length block ha]

end Layout
