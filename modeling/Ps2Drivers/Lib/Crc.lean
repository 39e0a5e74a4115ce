import Mathlib.Logic.Function.Iterate
import Mathlib.Data.List.GetD

/-!
# Cyclic redundancy checks

A reflected CRC register of any width, fed one bit at a time.  A step is linear in exclusive or,
and injective when the polynomial has its top bit, so a message changed within a window as long as
the register never has the same checksum.
-/

namespace Crc

variable {w : Nat} (poly : BitVec w)

/-! ## 1. The register -/

/-- One step of the register: the bit that leaves it brings the polynomial in. -/
def shift (c : BitVec w) : BitVec w := (c >>> 1) ^^^ if c.getLsbD 0 then poly else 0#w

def bit (w : Nat) (b : Bool) : BitVec w := if b then 1#w else 0#w

def feed (c : BitVec w) : List Bool → BitVec w
  | [] => c
  | b :: bits => feed (shift poly (c ^^^ bit w b)) bits

def word (w : Nat) (bits : List Bool) : BitVec w := (BitVec.ofBoolListLE bits).setWidth w

theorem getLsbD_bit (b : Bool) (i : Nat) :
    (bit w b).getLsbD i = (decide (i < w) && (decide (i = 0) && b)) := by
  cases b with
  | false => simp [bit]
  | true =>
    rw [bit, if_pos rfl, BitVec.getLsbD_one, Bool.and_true, ← Bool.decide_and, ← Bool.decide_and,
      decide_eq_decide]
    omega

theorem getLsbD_word (bits : List Bool) (i : Nat) :
    (word w bits).getLsbD i = (decide (i < w) && bits.getD i false) := by
  rw [word, BitVec.getLsbD_setWidth, BitVec.getLsbD_ofBoolListLE]

theorem getLsbD_shift (c : BitVec w) (i : Nat) :
    (shift poly c).getLsbD i = (c.getLsbD (i + 1) ^^ (c.getLsbD 0 && poly.getLsbD i)) := by
  rw [shift, BitVec.getLsbD_xor, BitVec.getLsbD_ushiftRight, Nat.add_comm 1 i]
  cases c.getLsbD 0 <;> simp

theorem shift_xor (a b : BitVec w) : shift poly (a ^^^ b) = shift poly a ^^^ shift poly b := by
  apply BitVec.eq_of_getLsbD_eq
  intro i _
  simp only [getLsbD_shift, BitVec.getLsbD_xor]
  cases a.getLsbD 0 <;> cases b.getLsbD 0 <;> cases a.getLsbD (i + 1) <;>
    cases b.getLsbD (i + 1) <;> simp

variable {poly}

/-- The top bit of the step is the bit that left the register. -/
theorem shift_injective (hpoly : poly.msb = true) : Function.Injective (shift poly) := by
  intro a b h
  have hbits (i : Nat) := congrArg (BitVec.getLsbD · i) h
  simp only [getLsbD_shift] at hbits
  have hlow : a.getLsbD 0 = b.getLsbD 0 := by
    have hw : poly.getLsbD (w - 1) = true := by rw [← BitVec.msb_eq_getLsbD_last, hpoly]
    have hlt : w - 1 < w := BitVec.lt_of_getLsbD hw
    have htop := hbits (w - 1)
    -- nothing is shifted into the top place, so it holds the bit of the polynomial or none
    rw [hw, BitVec.getLsbD_of_ge a _ (by omega), BitVec.getLsbD_of_ge b _ (by omega)] at htop
    simpa using htop
  apply BitVec.eq_of_getLsbD_eq
  intro i _
  cases i with
  | zero => exact hlow
  | succ i =>
    have hi := hbits i
    rw [hlow] at hi
    exact Bool.xor_left_inj.mp hi

/-! ## 2. A message in a window -/

section

variable (poly)

/-- The bits of the word leave the register one after another. -/
theorem shift_word (b : Bool) (bits : List Bool) (h : bits.length < w) :
    shift poly (word w (b :: bits) ^^^ bit w b) = word w bits := by
  apply BitVec.eq_of_getLsbD_eq
  intro i hi
  have hlow : (word w (b :: bits) ^^^ bit w b).getLsbD 0 = false := by
    simp [getLsbD_word, getLsbD_bit]
  rw [getLsbD_shift, hlow, BitVec.getLsbD_xor, getLsbD_word, getLsbD_word, getLsbD_bit]
  by_cases hlast : i + 1 < w
  · simp [hi, hlast]
  · have hend : bits.getD i false = false := by
      rw [List.getD_eq_getElem?_getD, List.getElem?_eq_none (by omega)]
      rfl
    rw [hend]
    simp [hlast]

/-- Feeding a message not longer than the register: put it in the register and shift. -/
theorem feed_eq_iterate (c : BitVec w) (bits : List Bool) (h : bits.length ≤ w) :
    feed poly c bits = (shift poly)^[bits.length] (c ^^^ word w bits) := by
  induction bits generalizing c with
  | nil =>
    have hzero : word w [] = 0#w := BitVec.setWidth_zero w 0
    rw [hzero, BitVec.xor_zero]
    rfl
  | cons b bits ih =>
    rw [List.length_cons] at h
    have hstep : shift poly (c ^^^ word w (b :: bits)) =
        shift poly (c ^^^ bit w b) ^^^ word w bits := by
      rw [← shift_word poly b bits (by omega), ← shift_xor]
      congr 1
      rw [BitVec.xor_assoc, BitVec.xor_comm (bit w b), BitVec.xor_assoc, BitVec.xor_self,
        BitVec.xor_zero]
    rw [feed, ih _ (by omega), List.length_cons, Function.iterate_succ_apply, hstep]

theorem feed_append (c : BitVec w) (front back : List Bool) :
    feed poly c (front ++ back) = feed poly (feed poly c front) back := by
  induction front generalizing c with
  | nil => rfl
  | cons b front ih => exact ih _

end

theorem word_injective {bits bits' : List Bool} (hlength : bits.length = bits'.length)
    (h : bits.length ≤ w) (hword : word w bits = word w bits') : bits = bits' := by
  apply List.ext_getElem hlength
  intro i hi hi'
  have hbit := congrArg (BitVec.getLsbD · i) hword
  simp only [getLsbD_word, show i < w by omega, decide_true, Bool.true_and,
    List.getD_eq_getElem bits false hi, List.getD_eq_getElem bits' false hi'] at hbit
  exact hbit

theorem feed_injective (hpoly : poly.msb = true) (bits : List Bool) :
    Function.Injective (feed poly · bits) := by
  induction bits with
  | nil => exact Function.injective_id
  | cons b bits ih =>
    intro a c h
    exact (BitVec.xor_left_inj _).mp (shift_injective hpoly (ih h))

/-- Different messages of one length, not longer than the register, have different checksums. -/
theorem feed_window (hpoly : poly.msb = true) (c : BitVec w) {bits bits' : List Bool}
    (hlength : bits.length = bits'.length) (h : bits.length ≤ w)
    (hfeed : feed poly c bits = feed poly c bits') : bits = bits' := by
  rw [feed_eq_iterate poly c bits h, feed_eq_iterate poly c bits' (hlength ▸ h), hlength] at hfeed
  have hword := (shift_injective hpoly).iterate bits'.length hfeed
  exact word_injective hlength h ((BitVec.xor_right_inj _).mp hword)

/-! ## 3. Bursts -/

/-- The messages have one length and differ, and only within `width` consecutive places. -/
structure Burst {α : Type} (width : Nat) (p q : List α) : Prop where
  length_eq : q.length = p.length
  differs : q ≠ p
  inside : ∃ start, ∀ i, q[i]? ≠ p[i]? → start ≤ i ∧ i < start + width

/-- The messages are alike before and after the window. -/
theorem Burst.split {α : Type} {width : Nat} {p q : List α} (h : Burst width p q) :
    ∃ front back middle middle', p = front ++ middle ++ back ∧ q = front ++ middle' ++ back ∧
      middle'.length = middle.length ∧ middle.length ≤ width ∧ middle' ≠ middle := by
  obtain ⟨start, hinside⟩ := h.inside
  have hsplit (l : List α) : l = l.take start ++ (l.drop start).take width ++
      l.drop (start + width) := by
    rw [List.append_assoc, ← List.drop_drop, List.take_append_drop, List.take_append_drop]
  have hsame (i : Nat) (hi : ¬ (start ≤ i ∧ i < start + width)) : q[i]? = p[i]? := by
    by_contra hne
    exact hi (hinside i hne)
  -- so the parts in front of the window agree, and those behind it
  have hfront : q.take start = p.take start := by
    apply List.ext_getElem?
    intro i
    rw [List.getElem?_take, List.getElem?_take]
    split
    · exact hsame i (by omega)
    · rfl
  have hback : q.drop (start + width) = p.drop (start + width) := by
    apply List.ext_getElem?
    intro i
    rw [List.getElem?_drop, List.getElem?_drop]
    exact hsame _ (by omega)
  refine ⟨p.take start, p.drop (start + width), (p.drop start).take width,
    (q.drop start).take width, hsplit p, ?_, ?_, List.length_take_le .., fun heq => ?_⟩
  · rw [← hfront, ← hback]
    exact hsplit q
  · rw [List.length_take, List.length_take, List.length_drop, List.length_drop, h.length_eq]
  · apply h.differs
    rw [hsplit q, heq, hfront, hback, ← hsplit p]

/-- Text around the messages moves the burst. -/
theorem Burst.append {α : Type} {width : Nat} {p q : List α} (h : Burst width p q)
    (front back : List α) : Burst width (front ++ p ++ back) (front ++ q ++ back) := by
  obtain ⟨start, hinside⟩ := h.inside
  refine ⟨?_, fun heq => ?_, front.length + start, fun i hne => ?_⟩
  · simp only [List.length_append, h.length_eq]
  · exact h.differs (List.append_cancel_left (List.append_cancel_right heq))
  · by_cases hfront : i < front.length
    · simp [hfront, Nat.lt_add_right] at hne
    · have hright (l : List α) : (front ++ l ++ back)[i]? = (l ++ back)[i - front.length]? := by
        rw [List.append_assoc, List.getElem?_append_right (by omega)]
      rw [hright, hright] at hne
      by_cases hmiddle : i - front.length < p.length
      · -- a place of the messages themselves
        rw [List.getElem?_append_left hmiddle,
          List.getElem?_append_left (h.length_eq ▸ hmiddle)] at hne
        have := hinside _ hne
        omega
      · have hpast (l : List α) (hl : l.length = p.length) :
            (l ++ back)[i - front.length]? = back[i - front.length - p.length]? := by
          rw [List.getElem?_append_right (by omega), hl]
        rw [hpast q h.length_eq, hpast p rfl] at hne
        exact absurd rfl hne

/-- Corresponding windows of the messages are the same, or differ by a burst themselves. -/
theorem Burst.window {α : Type} {width : Nat} {p q : List α} (h : Burst width p q) (off n : Nat) :
    (q.drop off).take n = (p.drop off).take n ∨
      Burst width ((p.drop off).take n) ((q.drop off).take n) := by
  by_cases hsame : (q.drop off).take n = (p.drop off).take n
  · exact Or.inl hsame
  · obtain ⟨start, hinside⟩ := h.inside
    refine Or.inr ⟨?_, hsame, start - off, fun i hne => ?_⟩
    · simp only [List.length_take, List.length_drop, h.length_eq]
    · rw [List.getElem?_take, List.getElem?_take] at hne
      split at hne
      · rw [List.getElem?_drop, List.getElem?_drop] at hne
        have := hinside _ hne
        omega
      · exact absurd rfl hne

/-- A burst that fits the register changes the checksum. -/
theorem feed_burst (hpoly : poly.msb = true) (c : BitVec w) {bits bits' : List Bool}
    (h : Burst w bits bits') : feed poly c bits' ≠ feed poly c bits := by
  obtain ⟨front, back, middle, middle', rfl, rfl, hlength, hwidth, hne⟩ := h.split
  intro hfeed
  rw [feed_append, feed_append, feed_append, feed_append] at hfeed
  exact hne (feed_window hpoly _ hlength (hlength ▸ hwidth) (feed_injective hpoly back hfeed))

end Crc
