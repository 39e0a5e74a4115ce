import Ps2Drivers.Image.Format
import Ps2Drivers.Lib.Crc

/-!
# What the checksum detects

`crc32_bytes` feeds a reflected register of 32 bits with the bits of the data, so it tells any two
byte strings apart that differ within 32 consecutive bits.
-/

open Binary

namespace Ps2Drivers

/-! ## 1. The register of `crc32_bytes` -/

/-- The reflected polynomial. -/
def crcPoly : BitVec 32 := 0xedb88320#32

/-- The bits of a byte, least significant first. -/
def byteBits (b : UInt8) : List Bool := (List.range 8).map b.toBitVec.getLsbD

/-- The bits of a byte string, bytes in order. -/
def dataBits (data : Bytes) : List Bool := data.flatMap byteBits

@[simp] theorem byteBits_length (b : UInt8) : (byteBits b).length = 8 := rfl

theorem byteBits_injective : Function.Injective byteBits := by
  intro a b h
  apply UInt8.toBitVec_inj.mp
  apply BitVec.eq_of_getLsbD_eq
  intro i hi
  exact List.map_inj_left.mp h i (List.mem_range.mpr hi)

theorem dataBits_injective : Function.Injective dataBits := by
  intro p q h
  induction p generalizing q with
  | nil =>
    cases q with
    | nil => rfl
    | cons b q => cases h
  | cons a p ih =>
    cases q with
    | nil => cases h
    | cons b q =>
      obtain ⟨hbyte, hrest⟩ := List.append_inj h rfl
      rw [byteBits_injective hbyte, ih hrest]

theorem dataBits_length (data : Bytes) : (dataBits data).length = 8 * data.length := by
  induction data with
  | nil => rfl
  | cons b data ih =>
    rw [dataBits, List.flatMap_cons, List.length_append, byteBits_length, List.length_cons]
    change 8 + (dataBits data).length = _
    omega

theorem crcBit_toBitVec (crc : UInt32) :
    (crcBit crc).toBitVec = Crc.shift crcPoly crc.toBitVec := by
  have hlow : (crc &&& 1).toBitVec = if crc.toBitVec.getLsbD 0 then 1#32 else 0#32 := by
    rw [UInt32.toBitVec_and]
    refine BitVec.and_one_eq_setWidth_ofBool_getLsbD.trans ?_
    cases crc.toBitVec.getLsbD 0 <;> rfl
  unfold crcBit Crc.shift
  rw [UInt32.toBitVec_xor, UInt32.toBitVec_and, UInt32.toBitVec_sub, hlow]
  congr 1
  cases crc.toBitVec.getLsbD 0 <;> decide

theorem crcBits_toBitVec (n : Nat) (crc : UInt32) :
    (crcBits n crc).toBitVec = (Crc.shift crcPoly)^[n] crc.toBitVec := by
  induction n generalizing crc with
  | zero => rfl
  | succ n ih => rw [crcBits, ih, crcBit_toBitVec, Function.iterate_succ_apply]

theorem word_byteBits (b : UInt8) : Crc.word 32 (byteBits b) = b.toUInt32.toBitVec := by
  apply BitVec.eq_of_getLsbD_eq
  intro i hi
  rw [Crc.getLsbD_word, UInt8.toBitVec_toUInt32, BitVec.getLsbD_setWidth, byteBits]
  by_cases h : i < 8
  · simp [hi, h]
  · simp [hi, h, BitVec.getLsbD_of_ge b.toBitVec i (by omega)]

/-- The eight steps of a byte feed its bits. -/
theorem crcByte_toBitVec (crc : UInt32) (b : UInt8) :
    (crcByte crc b).toBitVec = Crc.feed crcPoly crc.toBitVec (byteBits b) := by
  rw [crcByte, crcBits_toBitVec, Crc.feed_eq_iterate crcPoly _ _ (by rw [byteBits_length]; decide),
    word_byteBits, UInt32.toBitVec_xor, byteBits_length]

theorem foldl_crcByte_toBitVec (data : Bytes) (crc : UInt32) :
    (data.foldl crcByte crc).toBitVec = Crc.feed crcPoly crc.toBitVec (dataBits data) := by
  induction data generalizing crc with
  | nil => rfl
  | cons b data ih =>
    rw [List.foldl_cons, ih, crcByte_toBitVec, ← Crc.feed_append]
    rfl

/-- The bits in which the byte strings differ lie within 32 consecutive ones. -/
structure BurstChange (p q : Bytes) : Prop where
  length_eq : q.length = p.length
  differs : q ≠ p
  inside : ∃ start, ∀ i, (dataBits q)[i]? ≠ (dataBits p)[i]? → start ≤ i ∧ i < start + 32

theorem burstChange_iff {p q : Bytes} :
    BurstChange p q ↔ Crc.Burst 32 (dataBits p) (dataBits q) := by
  constructor
  · intro h
    refine ⟨?_, fun heq => h.differs (dataBits_injective heq), h.inside⟩
    rw [dataBits_length, dataBits_length, h.length_eq]
  · intro h
    have hlength := h.length_eq
    rw [dataBits_length, dataBits_length] at hlength
    exact ⟨by omega, fun heq => h.differs (by rw [heq]), h.inside⟩

/-- Up to four bytes every change is a burst. -/
theorem BurstChange.of_short {p q : Bytes} (hlength : q.length = p.length) (hne : q ≠ p)
    (hshort : p.length ≤ 4) : BurstChange p q := by
  refine ⟨hlength, hne, 0, fun i hbit => ⟨Nat.zero_le i, ?_⟩⟩
  by_contra hge
  rw [List.getElem?_eq_none (by rw [dataBits_length]; omega),
    List.getElem?_eq_none (by rw [dataBits_length]; omega)] at hbit
  exact hbit rfl

theorem crc32Bytes_burst {p q : Bytes} (h : BurstChange p q) : crc32Bytes q ≠ crc32Bytes p := by
  intro heq
  have hfold : q.foldl crcByte (~~~ 0) = p.foldl crcByte (~~~ 0) := UInt32.not_inj.mp heq
  have hfeed := congrArg UInt32.toBitVec hfold
  rw [foldl_crcByte_toBitVec, foldl_crcByte_toBitVec] at hfeed
  exact Crc.feed_burst (by decide) _ (burstChange_iff.mp h) hfeed

/-! ## 2. A burst within an image -/

theorem dataBits_append (p q : Bytes) : dataBits (p ++ q) = dataBits p ++ dataBits q :=
  List.flatMap_append

theorem dataBits_slice (data : Bytes) {off n : Nat} (h : off + n ≤ data.length) :
    dataBits (slice data off n) = ((dataBits data).drop (8 * off)).take (8 * n) := by
  have hfront : (dataBits (data.take off)).length = 8 * off := by
    rw [dataBits_length, List.length_take, Nat.min_eq_left (by omega)]
  have hmiddle : (dataBits (slice data off n)).length = 8 * n := by
    rw [dataBits_length, slice_length h]
  conv => rhs; rw [slice_split data off n, dataBits_append, dataBits_append]
  rw [← hfront, ← hmiddle, List.append_assoc, List.drop_left, List.take_left]

/-- A window of the data is either untouched, or changed by a burst itself. -/
theorem BurstChange.slice {p q : Bytes} (h : BurstChange p q) {off n : Nat}
    (hbound : off + n ≤ p.length) :
    slice q off n = slice p off n ∨ BurstChange (slice p off n) (slice q off n) := by
  rw [burstChange_iff, dataBits_slice p hbound, dataBits_slice q (h.length_eq ▸ hbound)]
  refine ((burstChange_iff.mp h).window (8 * off) (8 * n)).imp_left fun heq => ?_
  rw [← dataBits_slice p hbound, ← dataBits_slice q (h.length_eq ▸ hbound)] at heq
  exact dataBits_injective heq

/-- The data with the bytes from `off` on replaced. -/
def splice (data : Bytes) (off : Nat) (new : Bytes) : Bytes :=
  data.take off ++ new ++ data.drop (off + new.length)

theorem BurstChange.splice {data new : Bytes} {off n : Nat} (hbound : off + n ≤ data.length)
    (h : BurstChange (Binary.slice data off n) new) :
    BurstChange data (splice data off new) := by
  have hlength : new.length = n := h.length_eq.trans (slice_length hbound)
  have hburst := (burstChange_iff.mp h).append (dataBits (data.take off))
    (dataBits (data.drop (off + n)))
  rw [← dataBits_append, ← dataBits_append, ← dataBits_append, ← dataBits_append,
    ← slice_split] at hburst
  rw [burstChange_iff, Ps2Drivers.splice, hlength]
  exact hburst

end Ps2Drivers
