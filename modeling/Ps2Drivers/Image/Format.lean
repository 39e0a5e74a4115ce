import Mathlib.Tactic.MkIffOfInductiveProp
import Ps2Drivers.Lib.CString

/-!
# The IRX image format

Constants of `ps2_irx_image_format.h`, the word and checksum helpers that the host tool and the
runtime share, the entry record, and `ImageFormat`: what a version-1 image is, over unbounded
integers.
-/

open Binary CString

namespace Ps2Drivers

/-! ## 1. Constants -/

def irximgMagic : Bytes := lit "PS2IRX01"
def irximgMagicSize : Nat := 8
def irximgVersion : UInt32 := 1
def irximgHeaderSize : UInt32 := 44
def irximgEntrySize : UInt32 := 20
def irximgAlignment : UInt32 := 16
def irximgMaxEntries : UInt32 := 128

/-! ## 2. Words in memory -/

/-- `read_u32_le(src)`, `src` being the bytes from the pointer on -/
def readU32Le (src : Bytes) : UInt32 :=
  (src.getD 0 0).toUInt32 |||
  ((src.getD 1 0).toUInt32 <<< 8) |||
  ((src.getD 2 0).toUInt32 <<< 16) |||
  ((src.getD 3 0).toUInt32 <<< 24)

/-- `write_u32_le(dst, value)`, the four bytes stored -/
def writeU32Le (value : UInt32) : Bytes :=
  [(value &&& 0xff).toUInt8, ((value >>> 8) &&& 0xff).toUInt8,
   ((value >>> 16) &&& 0xff).toUInt8, ((value >>> 24) &&& 0xff).toUInt8]

@[simp] theorem writeU32Le_length (value : UInt32) : (writeU32Le value).length = 4 := rfl

private theorem or_shifted (a b c d : Nat) (ha : a < 2 ^ 8) (hb : b < 2 ^ 8) (hc : c < 2 ^ 8) :
    a ||| b * 2 ^ 8 ||| c * 2 ^ 16 ||| d * 2 ^ 24 = a + 256 * (b + 256 * (c + 256 * d)) := by
  rw [Nat.mul_comm b, Nat.or_comm a, ← Nat.two_pow_add_eq_or_of_lt ha,
    Nat.mul_comm c, Nat.or_comm _ (2 ^ 16 * c), ← Nat.two_pow_add_eq_or_of_lt (by omega),
    Nat.mul_comm d, Nat.or_comm _ (2 ^ 24 * d), ← Nat.two_pow_add_eq_or_of_lt (by omega)]
  omega

theorem readU32Le_toNat_cons (a b c d : UInt8) (rest : Bytes) :
    (readU32Le (a :: b :: c :: d :: rest)).toNat = leNat [a, b, c, d] := by
  have ha := a.toNat_lt
  have hb := b.toNat_lt
  have hc := c.toNat_lt
  have hd := d.toNat_lt
  simp only [readU32Le, List.getD_cons_zero, List.getD_cons_succ, UInt32.toNat_or,
    UInt32.toNat_shiftLeft, UInt8.toNat_toUInt32, leNat, Nat.shiftLeft_eq]
  norm_num only [UInt32.toNat_ofNat, Nat.reduceMod, Nat.reducePow]
  rw [Nat.mod_eq_of_lt (by omega), Nat.mod_eq_of_lt (by omega), Nat.mod_eq_of_lt (by omega)]
  have h := or_shifted a.toNat b.toNat c.toNat d.toNat ha hb hc
  norm_num only at h
  rw [h]
  omega

/-- `read_u32_le` is the little-endian value of the four bytes it reads. -/
theorem readU32Le_toNat {src : Bytes} (h : 4 ≤ src.length) :
    (readU32Le src).toNat = leNat (src.take 4) := by
  match src, h with
  | a :: b :: c :: d :: rest, _ => exact readU32Le_toNat_cons a b c d rest

theorem writeU32Le_eq (value : UInt32) : writeU32Le value = leBytes 4 value.toNat := by
  have hv := value.toNat_lt
  simp only [writeU32Le, leBytes, List.cons.injEq, and_true]
  refine ⟨?_, ?_, ?_, ?_⟩ <;>
    · apply UInt8.toNat_inj.mp
      simp only [UInt32.toNat_toUInt8, UInt8.toNat_ofNat', UInt32.toNat_and,
        UInt32.toNat_shiftRight, Nat.shiftRight_eq_div_pow]
      norm_num only [UInt32.toNat_ofNat, Nat.reduceMod, Nat.reducePow]
      rw [show (255 : Nat) = 2 ^ 8 - 1 from rfl, Nat.and_two_pow_sub_one_eq_mod]
      omega

/-- Writing a word and reading it back. -/
theorem readU32Le_writeU32Le (value : UInt32) (rest : Bytes) :
    readU32Le (writeU32Le value ++ rest) = value := by
  apply UInt32.toNat_inj.mp
  rw [readU32Le_toNat (by rw [List.length_append, writeU32Le_length]; omega),
    List.take_append_of_le_length (by simp), writeU32Le_eq,
    List.take_of_length_le (by simp), leNat_leBytes]
  exact value.toNat_lt

/-- `read_u32_le` sees four bytes and nothing else. -/
theorem readU32Le_congr {src src' : Bytes} (h : src.take 4 = src'.take 4) :
    readU32Le src = readU32Le src' := by
  have hget (i : Nat) (hi : i < 4) : src.getD i 0 = src'.getD i 0 := by
    have := congrArg (fun bs : Bytes => bs.getD i 0) h
    simpa [List.getD_eq_getElem?_getD, List.getElem?_take, hi] using this
  simp only [readU32Le, hget 0 (by decide), hget 1 (by decide), hget 2 (by decide),
    hget 3 (by decide)]

/-- The little-endian word a byte string holds at an offset. -/
def wordAt (bs : Bytes) (off : Nat) : Nat := leNat (slice bs off 4)

theorem readU32Le_drop {bs : Bytes} {off : Nat} (h : off + 4 ≤ bs.length) :
    (readU32Le (bs.drop off)).toNat = wordAt bs off :=
  readU32Le_toNat (by rw [List.length_drop]; omega)

/-- The `k`-th of the words written one after another. -/
theorem wordAt_words (front : Bytes) (words : List UInt32) (rest : Bytes) {k : Nat}
    (hk : k < words.length) :
    wordAt (front ++ (words.flatMap writeU32Le ++ rest)) (front.length + 4 * k) =
      words[k].toNat := by
  induction words generalizing front k with
  | nil => exact absurd hk (Nat.not_lt_zero k)
  | cons word words ih =>
    rw [List.flatMap_cons, List.append_assoc]
    cases k with
    | zero =>
      rw [wordAt, Nat.mul_zero, Nat.add_zero, ← List.append_assoc,
        slice_append_right _ _ _ rfl (writeU32Le_length word).symm,
        writeU32Le_eq, leNat_leBytes _ _ word.toNat_lt]
      rfl
    | succ k =>
      have hrest := ih (front ++ writeU32Le word) (k := k) (Nat.lt_of_succ_lt_succ hk)
      rw [List.length_append, writeU32Le_length, List.append_assoc] at hrest
      rw [show front.length + 4 * (k + 1) = front.length + 4 + 4 * k by omega, hrest]
      rfl

/-! ## 3. The checksum -/

/-- One bit of the reflected CRC-32 register. -/
def crcBit (crc : UInt32) : UInt32 :=
  let mask := 0 - (crc &&& 1)
  (crc >>> 1) ^^^ (0xedb88320 &&& mask)

/-- `n` iterations of the inner loop -/
def crcBits : Nat → UInt32 → UInt32
  | 0, crc => crc
  | n + 1, crc => crcBits n (crcBit crc)

def crcByte (crc : UInt32) (byte : UInt8) : UInt32 := crcBits 8 (crc ^^^ byte.toUInt32)

/-- `crc32_update` of the host tool -/
def crc32Update (crc : UInt32) (data : Bytes) : UInt32 := ~~~ data.foldl crcByte (~~~ crc)

/-- `crc32_bytes` of the runtime, whose register starts at `~0u`; the host tool's `crc32_bytes` is
`crc32_update(0u, ..)`, see `crc32Update_zero`. -/
def crc32Bytes (data : Bytes) : UInt32 := ~~~ data.foldl crcByte (~~~ 0)

theorem crc32Update_zero (data : Bytes) : crc32Update 0 data = crc32Bytes data := rfl

example : crc32Bytes (lit "123456789") = 0xcbf43926 := by decide +kernel

/-! ## 4. Entries and header -/

structure ImageEntry where
  id : UInt32
  offset : UInt32
  size : UInt32
  crc32 : UInt32
  flags : UInt32
  deriving DecidableEq, Repr

/-- The entry stored at the bytes `raw` points to. -/
def decodeEntry (raw : Bytes) : ImageEntry where
  id := readU32Le raw
  offset := readU32Le (raw.drop 4)
  size := readU32Le (raw.drop 8)
  crc32 := readU32Le (raw.drop 12)
  flags := readU32Le (raw.drop 16)

def encodeEntry (e : ImageEntry) : Bytes :=
  writeU32Le e.id ++ writeU32Le e.offset ++ writeU32Le e.size ++ writeU32Le e.crc32 ++
    writeU32Le e.flags

@[simp] theorem encodeEntry_length (e : ImageEntry) : (encodeEntry e).length = 20 := rfl

theorem decodeEntry_congr {raw raw' : Bytes} (h : raw.take 20 = raw'.take 20) :
    decodeEntry raw = decodeEntry raw' := by
  have hword (i : Nat) (hi : i + 4 ≤ 20) : readU32Le (raw.drop i) = readU32Le (raw'.drop i) := by
    exact readU32Le_congr (slice_congr h hi)
  simp only [decodeEntry, hword 4 (by decide), hword 8 (by decide), hword 12 (by decide),
    hword 16 (by decide), show readU32Le raw = readU32Le raw' from hword 0 (by decide)]

theorem decodeEntry_encodeEntry (e : ImageEntry) (rest : Bytes) :
    decodeEntry (encodeEntry e ++ rest) = e := by
  have hw (a : Bytes) (v : UInt32) (b : Bytes) (n : Nat) (hn : n = a.length) :
      readU32Le ((a ++ (writeU32Le v ++ b)).drop n) = v := by
    rw [hn, List.drop_left, readU32Le_writeU32Le]
  simp only [encodeEntry, List.append_assoc, decodeEntry]
  rw [readU32Le_writeU32Le, hw _ _ _ 4 (by simp),
    ← List.append_assoc (writeU32Le e.id), hw _ _ _ 8 (by simp),
    ← List.append_assoc (_ ++ _), hw _ _ _ 12 (by simp),
    ← List.append_assoc (_ ++ _), hw _ _ _ 16 (by simp)]

structure Header where
  version : UInt32
  headerSize : UInt32
  entryCount : UInt32
  entrySize : UInt32
  entryTableOffset : UInt32
  payloadOffset : UInt32
  declaredFileSize : UInt32
  flags : UInt32
  deriving DecidableEq, Repr

/-- The header at the bytes `header` points to. -/
def decodeHeader (header : Bytes) : Header where
  version := readU32Le (header.drop 8)
  headerSize := readU32Le (header.drop 12)
  entryCount := readU32Le (header.drop 16)
  entrySize := readU32Le (header.drop 20)
  entryTableOffset := readU32Le (header.drop 24)
  payloadOffset := readU32Le (header.drop 28)
  declaredFileSize := readU32Le (header.drop 32)
  flags := readU32Le (header.drop 36)

/-- The entry table of an image with `count` entries. -/
def decodeTable (image : Bytes) (count : Nat) : List ImageEntry :=
  (List.range count).map fun i => decodeEntry (image.drop (44 + 20 * i))

/-- The `k`-th of the entries written one after another. -/
theorem decodeEntry_entries (front : Bytes) (entries : List ImageEntry) (rest : Bytes) {k : Nat}
    (hk : k < entries.length) :
    decodeEntry ((front ++ (entries.flatMap encodeEntry ++ rest)).drop (front.length + 20 * k)) =
      entries[k] := by
  induction entries generalizing front k with
  | nil => exact absurd hk (Nat.not_lt_zero k)
  | cons entry entries ih =>
    rw [List.flatMap_cons, List.append_assoc]
    cases k with
    | zero =>
      rw [Nat.mul_zero, Nat.add_zero, List.drop_left, decodeEntry_encodeEntry]
      rfl
    | succ k =>
      have hrest := ih (front ++ encodeEntry entry) (k := k) (Nat.lt_of_succ_lt_succ hk)
      rw [List.length_append, encodeEntry_length, List.append_assoc] at hrest
      rw [show front.length + 20 * (k + 1) = front.length + 20 + 20 * k by omega, hrest]
      rfl

/-- Behind a header, the written table is the decoded one. -/
theorem decodeTable_entries {header : Bytes} (hheader : header.length = 44)
    (entries : List ImageEntry) (rest : Bytes) :
    decodeTable (header ++ (entries.flatMap encodeEntry ++ rest)) entries.length = entries := by
  apply List.ext_getElem
  · rw [decodeTable, List.length_map, List.length_range]
  · intro k _ hk
    simp only [decodeTable, List.getElem_map, List.getElem_range]
    rw [← hheader]
    exact decodeEntry_entries header entries rest hk

/-! ## 5. The 32-bit checks over unbounded integers -/

theorem aligned_iff (v : UInt32) : v &&& (irximgAlignment - 1) = 0 ↔ v.toNat % 16 = 0 := by
  have h := toNat_and_lowMask v (k := 4) (by decide)
  rw [← UInt32.toNat_inj, show irximgAlignment - 1 = UInt32.ofNat (2 ^ 4 - 1) by decide, h]
  rfl

theorem toNat_ne_zero_iff (v : UInt32) : v.toNat ≠ 0 ↔ v ≠ 0 := by
  rw [ne_eq, ne_eq, ← UInt32.toNat_inj]
  rfl

/-- With the fixed fields checked, none of the 32-bit operations on the table wraps. -/
theorem Header.table_arith {h : Header} (hentry : h.entrySize.toNat = 20)
    (htable : h.entryTableOffset.toNat = 44) (hcount : h.entryCount.toNat ≤ 128) :
    ((0xffffffff - h.entryTableOffset) / h.entrySize).toNat = (2 ^ 32 - 1 - 44) / 20 ∧
      (h.entryTableOffset + h.entryCount * h.entrySize).toNat = 44 + 20 * h.entryCount.toNat := by
  have hmul : (h.entryCount * h.entrySize).toNat = 20 * h.entryCount.toNat := by
    rw [UInt32.toNat_mul, hentry, Nat.mod_eq_of_lt (by omega), Nat.mul_comm]
  constructor
  · rw [UInt32.toNat_div, hentry, UInt32.toNat_sub_of_le _ _
      (UInt32.le_iff_toNat_le.mpr (by rw [htable]; decide)), htable]
    rfl
  · rw [toNat_add_of_lt (by omega), hmul, htable]

/-! ## 6. What a version-1 image is -/

/-- One entry of an image of `n` bytes whose payload area starts at `payloadOffset`. -/
@[mk_iff]
structure EntryFormat (n payloadOffset : Nat) (e : ImageEntry) : Prop where
  id_ne_zero : e.id.toNat ≠ 0
  size_ne_zero : e.size.toNat ≠ 0
  flags_eq : e.flags.toNat = 0
  aligned : e.offset.toNat % 16 = 0
  offset_ge : payloadOffset ≤ e.offset.toNat
  bounded : e.offset.toNat + e.size.toNat ≤ n

instance (n payloadOffset : Nat) (e : ImageEntry) : Decidable (EntryFormat n payloadOffset e) :=
  decidable_of_iff _ (entryFormat_iff n payloadOffset e).symm

/-- A byte string that is a version-1 image: every field over unbounded integers. -/
@[mk_iff]
structure ImageFormat (image : Bytes) : Prop where
  magic : image.take 8 = irximgMagic
  version : wordAt image 8 = 1
  headerSize : wordAt image 12 = 44
  entrySize : wordAt image 20 = 20
  tableOffset : wordAt image 24 = 44
  flags : wordAt image 36 = 0
  fileSize : wordAt image 32 = image.length
  count_pos : 1 ≤ wordAt image 16
  count_le : wordAt image 16 ≤ 128
  table_le : 44 + 20 * wordAt image 16 ≤ wordAt image 28
  payload_le : wordAt image 28 ≤ image.length
  payload_aligned : wordAt image 28 % 16 = 0
  entries : ∀ e ∈ decodeTable image (wordAt image 16),
    EntryFormat image.length (wordAt image 28) e
  distinct : ((decodeTable image (wordAt image 16)).map (·.id)).Nodup

instance (image : Bytes) : Decidable (ImageFormat image) :=
  decidable_of_iff _ (imageFormat_iff image).symm

theorem wordAt_lt (bs : Bytes) (off : Nat) : wordAt bs off < 2 ^ 32 := by
  have h := leNat_lt (slice bs off 4)
  have hlen : (slice bs off 4).length ≤ 4 := by
    rw [slice_length_eq]
    exact Nat.min_le_left _ _
  exact Nat.lt_of_lt_of_le h (Nat.pow_le_pow_right (by decide) hlen)

theorem ImageFormat.length_ge {image : Bytes} (h : ImageFormat image) : 44 ≤ image.length := by
  have := h.table_le
  have := h.payload_le
  omega

theorem ImageFormat.length_lt {image : Bytes} (h : ImageFormat image) : image.length < 2 ^ 32 := by
  rw [← h.fileSize]
  exact wordAt_lt image 32

end Ps2Drivers
