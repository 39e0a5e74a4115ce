import Mathlib.Data.Finset.Basic
import Mathlib.Data.List.Perm.Basic

/-!
# A heap of live blocks

A C heap seen through its set of live blocks: allocation hands out a block that is not live,
`free` makes one dead.  `Heap.Extends h₀ h bs` says that `h` is `h₀` plus the blocks `bs`, all of
them allocated since; it is the invariant that carries "everything allocated here was freed, and
nothing else was".
-/

/-- The live blocks, all of them below the next block to hand out. -/
structure Heap where
  live : Finset Nat
  next : Nat
  bounded : ∀ b ∈ live, b < next

namespace Heap

def empty : Heap := ⟨∅, 0, by simp⟩

def alloc (h : Heap) : Nat × Heap :=
  (h.next, ⟨insert h.next h.live, h.next + 1, by
    intro b hb
    rcases Finset.mem_insert.mp hb with rfl | hb
    · exact Nat.lt_succ_self _
    · exact Nat.lt_succ_of_lt (h.bounded b hb)⟩)

def free (h : Heap) (b : Nat) : Heap :=
  ⟨h.live.erase b, h.next, fun c hc => h.bounded c (Finset.mem_of_mem_erase hc)⟩

def freeAll (h : Heap) (bs : List Nat) : Heap := bs.foldl free h

theorem next_not_live (h : Heap) : h.next ∉ h.live := fun hm =>
  Nat.lt_irrefl _ (h.bounded _ hm)

/-- `h` is `h₀` plus the blocks `bs`, each allocated since and still live. -/
structure Extends (h₀ h : Heap) (bs : List Nat) : Prop where
  nodup : bs.Nodup
  fresh : ∀ b ∈ bs, b ∉ h₀.live
  live : ∀ b, b ∈ h.live ↔ b ∈ h₀.live ∨ b ∈ bs

theorem Extends.refl (h : Heap) : Extends h h [] :=
  ⟨List.nodup_nil, by simp, by simp⟩

theorem Extends.perm {h₀ h : Heap} {bs cs : List Nat} (he : Extends h₀ h bs) (hp : bs.Perm cs) :
    Extends h₀ h cs :=
  ⟨hp.nodup_iff.mp he.nodup, fun b hb => he.fresh b (hp.mem_iff.mpr hb),
    fun b => by rw [he.live b, hp.mem_iff]⟩

theorem Extends.alloc {h₀ h : Heap} {bs : List Nat} (he : Extends h₀ h bs) :
    Extends h₀ h.alloc.2 (h.alloc.1 :: bs) := by
  have hn : h.next ∉ h₀.live ∧ h.next ∉ bs := by
    have hl := (he.live h.next).not.mp h.next_not_live
    exact ⟨fun hm => hl (Or.inl hm), fun hm => hl (Or.inr hm)⟩
  refine ⟨List.nodup_cons.mpr ⟨hn.2, he.nodup⟩, ?_, ?_⟩
  · intro b hb
    rcases List.mem_cons.mp hb with rfl | hb
    · exact hn.1
    · exact he.fresh b hb
  · intro b
    change b ∈ insert h.next h.live ↔ _ ∨ b ∈ h.next :: bs
    rw [Finset.mem_insert, he.live b, List.mem_cons]
    tauto

theorem Extends.free {h₀ h : Heap} {b : Nat} {bs : List Nat} (he : Extends h₀ h (b :: bs)) :
    Extends h₀ (h.free b) bs := by
  have hb := List.nodup_cons.mp he.nodup
  refine ⟨hb.2, fun c hc => he.fresh c (List.mem_cons_of_mem b hc), ?_⟩
  intro c
  change c ∈ h.live.erase b ↔ _
  rw [Finset.mem_erase, he.live c, List.mem_cons]
  have hfresh := he.fresh b List.mem_cons_self
  constructor
  · rintro ⟨hne, hc | hc | hc⟩
    · exact Or.inl hc
    · exact (hne hc).elim
    · exact Or.inr hc
  · rintro (hc | hc)
    · exact ⟨fun h => hfresh (h ▸ hc), Or.inl hc⟩
    · exact ⟨fun h => hb.1 (h ▸ hc), Or.inr (Or.inr hc)⟩

theorem Extends.freeAll {h₀ h : Heap} {cs bs : List Nat} (he : Extends h₀ h (cs ++ bs)) :
    Extends h₀ (h.freeAll cs) bs := by
  induction cs generalizing h with
  | nil => exact he
  | cons c cs ih => exact ih he.free

/-- A heap that extends another by nothing has the same live blocks. -/
theorem Extends.live_eq {h₀ h : Heap} (he : Extends h₀ h []) : h.live = h₀.live := by
  ext b
  simpa using he.live b

theorem Extends.trans {h₀ h₁ h₂ : Heap} {bs cs : List Nat} (he : Extends h₀ h₁ bs)
    (hf : Extends h₁ h₂ cs) : Extends h₀ h₂ (cs ++ bs) := by
  refine ⟨List.nodup_append.mpr ⟨hf.nodup, he.nodup, ?_⟩, ?_, ?_⟩
  · rintro b hb c hc rfl
    exact hf.fresh b hb ((he.live b).mpr (Or.inr hc))
  · intro b hb hm
    rcases List.mem_append.mp hb with hb | hb
    · exact hf.fresh b hb ((he.live b).mpr (Or.inl hm))
    · exact he.fresh b hb hm
  · intro b
    rw [hf.live b, he.live b, List.mem_append]
    tauto

end Heap
