import Ps2Drivers.Image.Pack

/-!
# The host validator

`validate_image_internal` of the host tool.  Every access to the image goes through `readAt`, which
fails with `readOutside` when the range is not inside the image; the C code would read on.
-/

open Binary CString Checked

namespace Ps2Drivers

/-! ## 1. The code -/

/-- The bytes at `[offset, offset + size)` of the image. -/
def readAt (image : Bytes) (offset size : Nat) : Except HostError Bytes :=
  if offset + size ≤ image.length then .ok (slice image offset size)
  else .error (.readOutside offset size)

/-- `read_u32_le(image + offset)` -/
def readWord (image : Bytes) (offset : Nat) : Except HostError UInt32 := do
  return readU32Le (← readAt image offset 4)

def readHeader (image : Bytes) : Except HostError (Header × UInt32) := do
  let version ← readWord image 8
  let headerSize ← readWord image 12
  let entryCount ← readWord image 16
  let entrySize ← readWord image 20
  let entryTableOffset ← readWord image 24
  let payloadOffset ← readWord image 28
  let declaredFileSize ← readWord image 32
  let flags ← readWord image 36
  let manifestCrc ← readWord image 40
  return (⟨version, headerSize, entryCount, entrySize, entryTableOffset, payloadOffset,
    declaredFileSize, flags⟩, manifestCrc)

def readEntry (image : Bytes) (offset : Nat) : Except HostError ImageEntry := do
  let id ← readWord image offset
  let payloadOffset ← readWord image (offset + 4)
  let size ← readWord image (offset + 8)
  let crc ← readWord image (offset + 12)
  let flags ← readWord image (offset + 16)
  return ⟨id, payloadOffset, size, crc, flags⟩

def unsupportedHeader (h : Header) : Bool :=
  h.version != irximgVersion || h.headerSize != irximgHeaderSize ||
  h.entrySize != irximgEntrySize || h.entryTableOffset != irximgHeaderSize || h.flags != 0

def invalidTable (h : Header) (imageSize : UInt32) : Bool :=
  h.entryCount > (0xffffffff - h.entryTableOffset) / h.entrySize ||
  h.entryTableOffset + h.entryCount * h.entrySize > imageSize ||
  h.payloadOffset < h.entryTableOffset + h.entryCount * h.entrySize ||
  (h.payloadOffset &&& (irximgAlignment - 1)) != 0

/-- The bounds check of the entry loop fails.  Unlike the runtime's it does not compare the offset
with the size of the image. -/
def invalidBounds (imageSize payloadOffset previousEnd : UInt32) (e : ImageEntry) : Bool :=
  e.size == 0 || e.flags != 0 || e.offset < payloadOffset ||
  (e.offset &&& (irximgAlignment - 1)) != 0 || e.offset < previousEnd ||
  e.size > imageSize - e.offset

/-- The entry loop from entry `i` on. -/
def validateEntries (image : Bytes) (imageSize : UInt32) (h : Header) :
    Nat → List ManifestEntry → UInt32 → Except HostError Unit
  | _, [], _ => .ok ()
  | i, entry :: entries, previousEnd => do
    let e ← readEntry image (h.entryTableOffset.toNat + (UInt32.ofNat i * h.entrySize).toNat)
    if e.id ≠ entry.id then .error (.entryId i)
    else if invalidBounds imageSize h.payloadOffset previousEnd e then .error (.entryBounds i)
    else do
      let payload ← readAt image e.offset.toNat e.size.toNat
      if crc32Update 0 payload ≠ e.crc32 then .error (.entryCrc entry.name)
      else validateEntries image imageSize h (i + 1) entries (e.offset + e.size)

/-- `validate_image_internal` once manifest and image are read. -/
def validateImage (manifest : Manifest) (image : Bytes) : Except HostError Unit :=
  let imageSize := UInt32.ofNat image.length
  if imageSize < irximgHeaderSize then .error .imageTooSmall
  else do
    let magic ← readAt image 0 irximgMagicSize
    if magic ≠ irximgMagic then .error .imageMagic
    else do
      let (h, manifestCrc) ← readHeader image
      if unsupportedHeader h then .error .imageHeader
      else if h.entryCount.toNat ≠ manifest.entries.length then .error .entryCount
      else if h.declaredFileSize ≠ imageSize then .error .declaredSize
      else if manifestCrc ≠ manifest.crc32 then .error .manifestCrc
      else if invalidTable h imageSize then .error .tableOrPayloadOffset
      else validateEntries image imageSize h 0 manifest.entries h.payloadOffset

/-- `validate_image_internal`; its `inspect` argument only prints. -/
def validateImageInternal (host : Host) (manifestPath imagePath : Bytes) :
    Except HostError Unit := do
  let manifest ← loadManifest host manifestPath
  let image ← readFile host 0 imagePath
  validateImage manifest image

/-! ## 2. Reads inside the image -/

theorem readAt_ok {image : Bytes} {offset size : Nat} (h : offset + size ≤ image.length) :
    readAt image offset size = .ok (slice image offset size) := if_pos h

theorem readWord_ok {image : Bytes} {offset : Nat} (h : offset + 4 ≤ image.length) :
    readWord image offset = .ok (readU32Le (image.drop offset)) := by
  rw [readWord, readAt_ok h, bind_of_ok rfl]
  have htake : (slice image offset 4).take 4 = (image.drop offset).take 4 := by
    rw [slice, List.take_take]
    rfl
  rw [readU32Le_congr htake]
  rfl

theorem readEntry_ok {image : Bytes} {offset : Nat} (h : offset + 20 ≤ image.length) :
    readEntry image offset = .ok (decodeEntry (image.drop offset)) := by
  rw [readEntry, readWord_ok (by omega), bind_of_ok rfl, readWord_ok (by omega), bind_of_ok rfl,
    readWord_ok (by omega), bind_of_ok rfl, readWord_ok (by omega), bind_of_ok rfl,
    readWord_ok (by omega), bind_of_ok rfl, decodeEntry]
  simp only [List.drop_drop]
  rfl

theorem readHeader_ok {image : Bytes} (h : 44 ≤ image.length) :
    readHeader image = .ok (decodeHeader image, readU32Le (image.drop 40)) := by
  rw [readHeader, readWord_ok (by omega), bind_of_ok rfl, readWord_ok (by omega), bind_of_ok rfl,
    readWord_ok (by omega), bind_of_ok rfl, readWord_ok (by omega), bind_of_ok rfl,
    readWord_ok (by omega), bind_of_ok rfl, readWord_ok (by omega), bind_of_ok rfl,
    readWord_ok (by omega), bind_of_ok rfl, readWord_ok (by omega), bind_of_ok rfl,
    readWord_ok (by omega), bind_of_ok rfl]
  rfl

/-! ## 3. One entry -/

structure EntryShape (payloadOffset previousEnd : Nat) (id : UInt32) (e : ImageEntry) : Prop where
  id_eq : e.id = id
  size_ne_zero : e.size.toNat ≠ 0
  flags_eq : e.flags.toNat = 0
  offset_ge : payloadOffset ≤ e.offset.toNat
  aligned : e.offset.toNat % 16 = 0
  ordered : previousEnd ≤ e.offset.toNat

structure EntryAccepted (image : Bytes) (payloadOffset previousEnd : Nat) (id : UInt32)
    (e : ImageEntry) : Prop where
  shape : EntryShape payloadOffset previousEnd id e
  bounded : e.offset.toNat + e.size.toNat ≤ image.length
  intact : crc32Update 0 (slice image e.offset.toNat e.size.toNat) = e.crc32

/-- The entry starts past the image, and the 32-bit difference of the bounds check wraps around to
something that is not less than its size. -/
structure EntryWraps (image : Bytes) (payloadOffset previousEnd : Nat) (id : UInt32)
    (e : ImageEntry) : Prop where
  shape : EntryShape payloadOffset previousEnd id e
  past : image.length < e.offset.toNat
  wraps : e.offset.toNat + e.size.toNat ≤ 2 ^ 32 + image.length

theorem invalidBounds_eq_false {imageSize payloadOffset previousEnd : UInt32} {e : ImageEntry} :
    invalidBounds imageSize payloadOffset previousEnd e = false ↔
      EntryShape payloadOffset.toNat previousEnd.toNat e.id e ∧
      (e.offset.toNat + e.size.toNat ≤ imageSize.toNat ∨
        (imageSize.toNat < e.offset.toNat ∧
          e.offset.toNat + e.size.toNat ≤ 2 ^ 32 + imageSize.toNat)) := by
  have hsize := imageSize.toNat_lt
  have hoffset := e.offset.toNat_lt
  -- the difference of the check, and what comparing the size with it amounts to
  have hdiff := UInt32.toNat_sub imageSize e.offset
  have hend : e.size.toNat ≤ (imageSize - e.offset).toNat ↔
      e.offset.toNat + e.size.toNat ≤ imageSize.toNat ∨
        (imageSize.toNat < e.offset.toNat ∧
          e.offset.toNat + e.size.toNat ≤ 2 ^ 32 + imageSize.toNat) := by
    omega
  simp only [invalidBounds, Bool.or_eq_false_iff, beq_eq_false_iff_ne, bne_eq_false_iff_eq,
    decide_eq_false_iff_not, gt_iff_lt, aligned_iff, UInt32.not_lt, UInt32.le_iff_toNat_le, hend]
  refine and_congr_left fun _ => ?_
  constructor
  · rintro ⟨⟨⟨⟨hsize, hflags⟩, hlow⟩, haligned⟩, hordered⟩
    exact ⟨rfl, (toNat_ne_zero_iff _).mpr hsize, by rw [hflags]; rfl, hlow, haligned, hordered⟩
  · intro hshape
    exact ⟨⟨⟨⟨(toNat_ne_zero_iff _).mp hshape.size_ne_zero, UInt32.toNat_inj.mp hshape.flags_eq⟩,
      hshape.offset_ge⟩, hshape.aligned⟩, hshape.ordered⟩

def entryAt (image : Bytes) (i : Nat) : ImageEntry := decodeEntry (image.drop (44 + 20 * i))

/-- One iteration of the entry loop: it goes on, it reads outside the image, or it stops with an
error of its own. -/
theorem validateEntries_cons {image : Bytes} {imageSize : UInt32} {h : Header} {i : Nat}
    (entry : ManifestEntry) (entries : List ManifestEntry) (previousEnd : UInt32)
    (hsize : imageSize.toNat = image.length) (htable : h.entryTableOffset.toNat = 44)
    (hentry : h.entrySize.toNat = 20) (hi : i < 128) (hinside : 44 + 20 * (i + 1) ≤ image.length) :
    let e := entryAt image i
    (EntryAccepted image h.payloadOffset.toNat previousEnd.toNat entry.id e ∧
      validateEntries image imageSize h i (entry :: entries) previousEnd =
        validateEntries image imageSize h (i + 1) entries (e.offset + e.size)) ∨
    (EntryWraps image h.payloadOffset.toNat previousEnd.toNat entry.id e ∧
      validateEntries image imageSize h i (entry :: entries) previousEnd =
        .error (.readOutside e.offset.toNat e.size.toNat)) ∨
    (¬ EntryAccepted image h.payloadOffset.toNat previousEnd.toNat entry.id e ∧
      ¬ EntryWraps image h.payloadOffset.toNat previousEnd.toNat entry.id e ∧
      ∃ error, validateEntries image imageSize h i (entry :: entries) previousEnd = .error error ∧
        ∀ offset size, error ≠ .readOutside offset size) := by
  intro e
  have hoffset : h.entryTableOffset.toNat + (UInt32.ofNat i * h.entrySize).toNat = 44 + 20 * i := by
    rw [htable, UInt32.toNat_mul, hentry, UInt32.toNat_ofNat', Nat.mod_eq_of_lt (a := i) (by omega)]
    omega
  have hread : readEntry image (h.entryTableOffset.toNat + (UInt32.ofNat i * h.entrySize).toNat) =
      .ok e := by
    rw [hoffset, readEntry_ok (by omega)]
    rfl
  rw [validateEntries, bind_of_ok hread]
  by_cases hid : e.id = entry.id
  · rw [if_neg (not_not.mpr hid)]
    cases hbounds : invalidBounds imageSize h.payloadOffset previousEnd e with
    | true =>
      right; right
      have hbad := invalidBounds_eq_false.not.mp (ne_of_eq_of_ne hbounds (by decide))
      rw [hsize] at hbad
      refine ⟨fun hacc => hbad ⟨hid ▸ hacc.shape, Or.inl hacc.bounded⟩,
        fun hwrap => hbad ⟨hid ▸ hwrap.shape, Or.inr ⟨hwrap.past, hwrap.wraps⟩⟩, ?_⟩
      exact ⟨.entryBounds i, rfl, fun _ _ h => by cases h⟩
    | false =>
      obtain ⟨hshape, hend⟩ := invalidBounds_eq_false.mp hbounds
      rw [hsize] at hend
      rw [hid] at hshape
      -- past the bounds check the payload is inside the image, or its end has wrapped
      rcases hend with hend | ⟨hpast, hwrap⟩
      · rw [if_neg Bool.false_ne_true, readAt_ok hend, bind_of_ok rfl]
        by_cases hcrc : crc32Update 0 (slice image e.offset.toNat e.size.toNat) = e.crc32
        · rw [if_neg (not_not.mpr hcrc)]
          exact Or.inl ⟨⟨hshape, hend, hcrc⟩, rfl⟩
        · right; right
          rw [if_pos hcrc]
          refine ⟨fun hacc => hcrc hacc.intact, fun hwrap => ?_, _, rfl, fun _ _ h => by cases h⟩
          have := hwrap.past
          omega
      · -- the checksum is taken over bytes that the image does not have
        right; left
        have houtside : ¬ e.offset.toNat + e.size.toNat ≤ image.length := by omega
        rw [if_neg Bool.false_ne_true, readAt, if_neg houtside]
        exact ⟨⟨hshape, hpast, hwrap⟩, rfl⟩
  · right; right
    rw [if_pos hid]
    exact ⟨fun hacc => hid hacc.shape.id_eq, fun hwrap => hid hwrap.shape.id_eq, _, rfl,
      fun _ _ h => by cases h⟩

/-! ## 4. The entry loop -/

/-- Every entry from index `i` on is accepted, in order. -/
inductive EntriesAccepted (image : Bytes) (payloadOffset : Nat) :
    Nat → List ManifestEntry → Nat → Prop
  | nil {i previousEnd : Nat} : EntriesAccepted image payloadOffset i [] previousEnd
  | cons {i previousEnd : Nat} {entry : ManifestEntry} {entries : List ManifestEntry}
      (head : EntryAccepted image payloadOffset previousEnd entry.id (entryAt image i))
      (tail : EntriesAccepted image payloadOffset (i + 1) entries
        ((entryAt image i).offset.toNat + (entryAt image i).size.toNat)) :
      EntriesAccepted image payloadOffset i (entry :: entries) previousEnd

/-- From index `i` on, some entries are accepted and the one after them wraps. -/
inductive WrapReached (image : Bytes) (payloadOffset : Nat) :
    Nat → List ManifestEntry → Nat → Prop
  | here {i previousEnd : Nat} {entry : ManifestEntry} {entries : List ManifestEntry}
      (head : EntryWraps image payloadOffset previousEnd entry.id (entryAt image i)) :
      WrapReached image payloadOffset i (entry :: entries) previousEnd
  | later {i previousEnd : Nat} {entry : ManifestEntry} {entries : List ManifestEntry}
      (head : EntryAccepted image payloadOffset previousEnd entry.id (entryAt image i))
      (tail : WrapReached image payloadOffset (i + 1) entries
        ((entryAt image i).offset.toNat + (entryAt image i).size.toNat)) :
      WrapReached image payloadOffset i (entry :: entries) previousEnd

section

variable {image : Bytes} {imageSize : UInt32} {h : Header}

/-- The end of an accepted entry does not wrap. -/
theorem EntryAccepted.end_toNat {payloadOffset previousEnd : Nat} {id : UInt32} {e : ImageEntry}
    (hacc : EntryAccepted image payloadOffset previousEnd id e) (hlen : image.length < 2 ^ 32) :
    (e.offset + e.size).toNat = e.offset.toNat + e.size.toNat := by
  have := hacc.bounded
  exact toNat_add_of_lt (by omega)

/-- The loop succeeds exactly when every entry is accepted, and reads outside the image exactly
when it reaches an entry that wraps. -/
theorem validateEntries_iff (hsize : imageSize.toNat = image.length)
    (htable : h.entryTableOffset.toNat = 44) (hentry : h.entrySize.toNat = 20)
    (entries : List ManifestEntry) (i : Nat) (previousEnd : UInt32)
    (hcount : i + entries.length ≤ 128) (hinside : 44 + 20 * (i + entries.length) ≤ image.length) :
    (validateEntries image imageSize h i entries previousEnd = .ok () ↔
      EntriesAccepted image h.payloadOffset.toNat i entries previousEnd.toNat) ∧
    ((∃ offset size, validateEntries image imageSize h i entries previousEnd =
        .error (.readOutside offset size)) ↔
      WrapReached image h.payloadOffset.toNat i entries previousEnd.toNat) := by
  induction entries generalizing i previousEnd with
  | nil =>
    refine ⟨iff_of_true rfl .nil, iff_of_false ?_ ?_⟩
    · rintro ⟨offset, size, h⟩
      cases h
    · intro h
      cases h
  | cons entry entries ih =>
    rw [List.length_cons] at hcount hinside
    rcases validateEntries_cons entry entries previousEnd hsize htable hentry
      (i := i) (by omega) (by omega) with ⟨hacc, heq⟩ | ⟨hwrap, heq⟩ | ⟨hacc, hwrap, error, heq, hne⟩
    · obtain ⟨ihok, ihout⟩ := ih (i + 1) ((entryAt image i).offset + (entryAt image i).size)
        (by omega) (by omega)
      -- the end of an accepted entry did not wrap, so it is the next `previous_end`
      have hend := hacc.end_toNat (by rw [← hsize]; exact imageSize.toNat_lt)
      rw [hend] at ihok ihout
      rw [heq, ihok, ihout]
      refine ⟨⟨.cons hacc, fun h => ?_⟩, ⟨.later hacc, fun h => ?_⟩⟩
      · cases h with
        | cons _ tail => exact tail
      · cases h with
        | here head =>
          have := hacc.bounded
          have := head.past
          omega
        | later _ tail => exact tail
    · rw [heq]
      refine ⟨iff_of_false (fun h => by cases h) fun h => ?_, iff_of_true ⟨_, _, rfl⟩ (.here hwrap)⟩
      cases h with
      | cons head _ =>
        have := head.bounded
        have := hwrap.past
        omega
    · rw [heq]
      refine ⟨iff_of_false (fun h => by cases h) fun h => ?_, iff_of_false ?_ fun h => ?_⟩
      · cases h with
        | cons head _ => exact hacc head
      · rintro ⟨offset, size, h⟩
        exact hne offset size (Except.error.inj h)
      · cases h with
        | here head => exact hwrap head
        | later head _ => exact hacc head

end

/-! ## 5. The validator -/

/-- What the validator asks of the header, over unbounded integers. -/
structure HeaderAccepted (image : Bytes) (m : Manifest) : Prop where
  length_ge : 44 ≤ image.length
  magic : image.take 8 = irximgMagic
  version : wordAt image 8 = 1
  headerSize : wordAt image 12 = 44
  entryCount : wordAt image 16 = m.entries.length
  entrySize : wordAt image 20 = 20
  tableOffset : wordAt image 24 = 44
  fileSize : wordAt image 32 = image.length
  flags : wordAt image 36 = 0
  manifestCrc : wordAt image 40 = m.crc32.toNat
  table_le : 44 + 20 * m.entries.length ≤ wordAt image 28
  table_inside : 44 + 20 * m.entries.length ≤ image.length
  payload_aligned : wordAt image 28 % 16 = 0

theorem unsupportedHeader_eq_false (h : Header) :
    unsupportedHeader h = false ↔ h.version.toNat = 1 ∧ h.headerSize.toNat = 44 ∧
      h.entrySize.toNat = 20 ∧ h.entryTableOffset.toNat = 44 ∧ h.flags.toNat = 0 := by
  simp only [unsupportedHeader, Bool.or_eq_false_iff, bne_eq_false_iff_eq, ← UInt32.toNat_inj,
    and_assoc]
  rfl

theorem invalidTable_eq_false {h : Header} (imageSize : UInt32) (hentry : h.entrySize.toNat = 20)
    (htable : h.entryTableOffset.toNat = 44) (hcount : h.entryCount.toNat ≤ 128) :
    invalidTable h imageSize = false ↔ 44 + 20 * h.entryCount.toNat ≤ imageSize.toNat ∧
      44 + 20 * h.entryCount.toNat ≤ h.payloadOffset.toNat ∧ h.payloadOffset.toNat % 16 = 0 := by
  obtain ⟨hquot, hend⟩ := h.table_arith hentry htable hcount
  simp only [invalidTable, Bool.or_eq_false_iff, bne_eq_false_iff_eq, decide_eq_false_iff_not,
    gt_iff_lt, UInt32.not_lt, UInt32.le_iff_toNat_le, hquot, hend, aligned_iff]
  omega

/-- Past the header the validator runs the entry loop; before it, it stops with an error that is
not a read outside the image. -/
theorem validateImage_cases {m : Manifest} {image : Bytes} (hm : m.WellFormed)
    (hlen : image.length < 2 ^ 32) :
    (HeaderAccepted image m ∧ validateImage m image =
      validateEntries image (UInt32.ofNat image.length) (decodeHeader image) 0 m.entries
        (decodeHeader image).payloadOffset) ∨
    (¬ HeaderAccepted image m ∧ ∃ error, validateImage m image = .error error ∧
      ∀ offset size, error ≠ .readOutside offset size) := by
  have hsize : (UInt32.ofNat image.length).toNat = image.length := by
    rw [UInt32.toNat_ofNat', Nat.mod_eq_of_lt hlen]
  -- one check after the other: the error of a failed one names no read
  unfold validateImage
  by_cases hshort : UInt32.ofNat image.length < irximgHeaderSize
  · right
    rw [if_pos hshort]
    rw [UInt32.lt_iff_toNat_lt, hsize] at hshort
    refine ⟨fun hacc => ?_, _, rfl, fun _ _ h => by cases h⟩
    exact absurd hacc.length_ge (Nat.not_le.mpr hshort)
  have hge : 44 ≤ image.length := by
    rw [UInt32.lt_iff_toNat_lt, hsize] at hshort
    exact Nat.not_lt.mp hshort
  have hword {k : Nat} (hk : k + 4 ≤ 44) : (readU32Le (image.drop k)).toNat = wordAt image k :=
    readU32Le_drop (by omega)
  have hmagicBytes : slice image 0 irximgMagicSize = image.take 8 := rfl
  rw [if_neg hshort, readAt_ok (by change 0 + 8 ≤ _; omega), bind_of_ok rfl, hmagicBytes]
  by_cases hmagic : image.take 8 = irximgMagic
  swap
  · right
    rw [if_pos hmagic]
    exact ⟨fun hacc => hmagic hacc.magic, _, rfl, fun _ _ h => by cases h⟩
  rw [if_neg (not_not.mpr hmagic), readHeader_ok hge, bind_of_ok rfl]
  have hversion : (decodeHeader image).version.toNat = wordAt image 8 := hword (by decide)
  have hheaderSize : (decodeHeader image).headerSize.toNat = wordAt image 12 := hword (by decide)
  have hentryCount : (decodeHeader image).entryCount.toNat = wordAt image 16 := hword (by decide)
  have hentrySize : (decodeHeader image).entrySize.toNat = wordAt image 20 := hword (by decide)
  have htable : (decodeHeader image).entryTableOffset.toNat = wordAt image 24 := hword (by decide)
  have hpayload : (decodeHeader image).payloadOffset.toNat = wordAt image 28 := hword (by decide)
  have hfileSize : (decodeHeader image).declaredFileSize.toNat = wordAt image 32 :=
    hword (by decide)
  have hflags : (decodeHeader image).flags.toNat = wordAt image 36 := hword (by decide)
  have hcrcWord : (readU32Le (image.drop 40)).toNat = wordAt image 40 := hword (by decide)
  dsimp only
  have hfields := unsupportedHeader_eq_false (decodeHeader image)
  rw [hversion, hheaderSize, hentrySize, htable, hflags] at hfields
  cases hunsupported : unsupportedHeader (decodeHeader image) with
  | true =>
    right
    refine ⟨fun hacc => ?_, _, rfl, fun _ _ h => by cases h⟩
    rw [hfields.mpr ⟨hacc.version, hacc.headerSize, hacc.entrySize, hacc.tableOffset, hacc.flags⟩]
      at hunsupported
    cases hunsupported
  | false =>
    obtain ⟨h8, h12, h20, h24, h36⟩ := hfields.mp hunsupported
    rw [if_neg Bool.false_ne_true, hentryCount]
    by_cases hcount : wordAt image 16 = m.entries.length
    swap
    · right
      rw [if_pos hcount]
      exact ⟨fun hacc => hcount hacc.entryCount, _, rfl, fun _ _ h => by cases h⟩
    rw [if_neg (not_not.mpr hcount)]
    by_cases hdeclared : (decodeHeader image).declaredFileSize = UInt32.ofNat image.length
    swap
    · right
      rw [if_pos hdeclared]
      refine ⟨fun hacc => hdeclared (UInt32.toNat_inj.mp ?_), _, rfl, fun _ _ h => by cases h⟩
      rw [hfileSize, hsize, hacc.fileSize]
    rw [if_neg (not_not.mpr hdeclared)]
    by_cases hcrc : readU32Le (image.drop 40) = m.crc32
    swap
    · right
      rw [if_pos hcrc]
      refine ⟨fun hacc => hcrc (UInt32.toNat_inj.mp ?_), _, rfl, fun _ _ h => by cases h⟩
      rw [hcrcWord, hacc.manifestCrc]
    rw [if_neg (not_not.mpr hcrc)]
    have hlayout := invalidTable_eq_false (h := decodeHeader image) (UInt32.ofNat image.length)
      (hentrySize.trans h20) (htable.trans h24)
      (by rw [hentryCount, hcount]; exact hm.entries.length_le)
    rw [hentryCount, hcount, hsize, hpayload] at hlayout
    cases hinvalid : invalidTable (decodeHeader image) (UInt32.ofNat image.length) with
    | true =>
      right
      refine ⟨fun hacc => ?_, _, rfl, fun _ _ h => by cases h⟩
      rw [hlayout.mpr ⟨hacc.table_inside, hacc.table_le, hacc.payload_aligned⟩] at hinvalid
      cases hinvalid
    | false =>
      left
      obtain ⟨hinside, htableLe, haligned⟩ := hlayout.mp hinvalid
      refine ⟨⟨hge, hmagic, h8, h12, hcount, h20, h24, ?_, h36, ?_, htableLe, hinside, haligned⟩,
        rfl⟩
      · rw [← hfileSize, hdeclared, hsize]
      · rw [← hcrcWord, hcrc]

/-- What the validator accepts, and when it reads outside the image. -/
theorem validateImage_iff {m : Manifest} {image : Bytes} (hm : m.WellFormed)
    (hlen : image.length < 2 ^ 32) :
    (validateImage m image = .ok () ↔ HeaderAccepted image m ∧
      EntriesAccepted image (wordAt image 28) 0 m.entries (wordAt image 28)) ∧
    ((∃ offset size, validateImage m image = .error (.readOutside offset size)) ↔
      HeaderAccepted image m ∧
      WrapReached image (wordAt image 28) 0 m.entries (wordAt image 28)) := by
  rcases validateImage_cases hm hlen with ⟨hacc, heq⟩ | ⟨hacc, error, heq, hne⟩
  · have hge := hacc.length_ge
    have hsize : (UInt32.ofNat image.length).toNat = image.length := by
      rw [UInt32.toNat_ofNat', Nat.mod_eq_of_lt hlen]
    have hpayload : (decodeHeader image).payloadOffset.toNat = wordAt image 28 :=
      readU32Le_drop (by omega)
    have htable : (decodeHeader image).entryTableOffset.toNat = 44 := by
      rw [← hacc.tableOffset]
      exact readU32Le_drop (by omega)
    have hentry : (decodeHeader image).entrySize.toNat = 20 := by
      rw [← hacc.entrySize]
      exact readU32Le_drop (by omega)
    have hinside := hacc.table_inside
    -- the loop starts at the payload area
    obtain ⟨hok, hout⟩ := validateEntries_iff hsize htable hentry m.entries 0
      (decodeHeader image).payloadOffset (by have := hm.entries.length_le; omega) (by omega)
    rw [hpayload] at hok hout
    rw [heq, hok, hout]
    exact ⟨(and_iff_right hacc).symm, (and_iff_right hacc).symm⟩
  · rw [heq]
    refine ⟨iff_of_false (fun h => by cases h) fun h => hacc h.1, iff_of_false ?_ fun h => hacc h.1⟩
    rintro ⟨offset, size, h⟩
    exact hne offset size (Except.error.inj h)

theorem readFile_notOutside (host : Host) (k : Nat) (path : Bytes) :
    NotOutside (readFile host k path) := by
  unfold readFile
  split
  · exact .error rfl
  · exact .branch (.error rfl) (.branch (.error rfl) (.branch (.error rfl) (.branch (.error rfl)
      (.branch (.error rfl) (.branch (.error rfl) (.ok _))))))

/-- The validator reads inside the image exactly when no entry that it reaches starts past the
image with a size that the wrapped difference lets through. -/
theorem validateImageInternal_inside_iff (host : Host) (manifestPath imagePath : Bytes) :
    (∀ offset size, validateImageInternal host manifestPath imagePath ≠
        .error (.readOutside offset size)) ↔
      ∀ m image, loadManifest host manifestPath = .ok m → readFile host 0 imagePath = .ok image →
        HeaderAccepted image m →
        ¬ WrapReached image (wordAt image 28) 0 m.entries (wordAt image 28) := by
  unfold validateImageInternal
  cases hload : loadManifest host manifestPath with
  | error e =>
    -- neither the manifest nor the file is read outside an image
    refine iff_of_true (fun offset size h => ?_) fun m image hm => by cases hm
    have hout := loadManifest_notOutside host manifestPath e hload
    cases h
    cases hout
  | ok m =>
    rw [bind_of_ok rfl]
    cases hread : readFile host 0 imagePath with
    | error e =>
      refine iff_of_true (fun offset size h => ?_) fun m image _ himage => by cases himage
      have hout := readFile_notOutside host 0 imagePath e hread
      cases h
      cases hout
    | ok image =>
      rw [bind_of_ok rfl]
      have hiff := (validateImage_iff (loadManifest_wellFormed hload) (readFile_eq_ok hread).2.2).2
      constructor
      · intro hinside m' image' hm himage hacc hwrap
        cases hm
        cases himage
        obtain ⟨offset, size, h⟩ := hiff.mpr ⟨hacc, hwrap⟩
        exact hinside offset size h
      · intro hnone offset size h
        obtain ⟨hacc, hwrap⟩ := hiff.mp ⟨offset, size, h⟩
        exact hnone m image rfl rfl hacc hwrap

/-- An image of 64 bytes whose only entry claims one byte at offset 80. -/
def wrappingImage : Bytes :=
  imageHeader 1 64 64 (manifestLogicalCrc [⟨1, lit "a", lit "b", lit "c"⟩]) ++
    encodeEntry ⟨1, 80, 1, 0, 0⟩

/-- The manifest `m` has one entry; every other file is the wrapping image. -/
def wrappingHost : Host :=
  .ofFiles fun path => some (if path = lit "m" then lit "1|a|b|c" else wrappingImage)

/-- The checksum of the entry is taken at offset 80 of an image of 64 bytes. -/
theorem validateImageInternal_reads_outside :
    ¬ ∀ (host : Host) (manifestPath imagePath : Bytes) (offset size : Nat),
      validateImageInternal host manifestPath imagePath ≠ .error (.readOutside offset size) := by
  intro h
  exact h wrappingHost (lit "m") (lit "i") 80 1 (by decide +kernel)

end Ps2Drivers
