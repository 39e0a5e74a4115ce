import Mathlib.Data.List.Forall2
import Ps2Drivers.Image.Manifest
import Ps2Drivers.Lib.Layout

/-!
# The packer

`pack_image` of the host tool: lay the payloads out, then write header, table, padding and
payloads.
-/

open Binary CString Checked Layout

namespace Ps2Drivers

/-! ## 1. The code -/

def irximgPathMax : Nat := 1024

/-- `read_file(path, ..)`, the `k`-th one of the run: the bytes of the file, whose size is never
zero and fits 32 bits. -/
def readFile (host : Host) (k : Nat) (path : Bytes) : Except HostError Bytes :=
  match host.file path with
  | none => .error .openFile
  | some data =>
    if host.readOk k .fopen = false then .error .openFile
    else if host.readOk k .seekEnd = false then .error .seekFile
    else
      let sizeLong : Int := if host.readOk k .ftell then data.length else -1
      if sizeLong ≤ 0 ∨ sizeLong > 0xffffffff then .error .invalidFileSize
      else if host.readOk k .rewind = false then .error .rewindFile
      else if host.readOk k .malloc = false then .error .outOfMemory
      else if host.readOk k .fread = false then .error .shortRead
      else .ok data

def alignUpU32 (value alignment : UInt32) : UInt32 := (value + alignment - 1) &&& ~~~ (alignment - 1)

def payloadPath (directory filename : Bytes) : Bytes :=
  let separator := if directory.getLast? = some 47 then [] else lit "/"
  directory ++ separator ++ filename

def buildPayloadPath (directory filename : Bytes) : Except HostError Bytes :=
  let written := payloadPath directory filename
  if written.length ≥ irximgPathMax then .error .pathTooLong else .ok written

structure Payload where
  data : Bytes
  size : UInt32
  crc32 : UInt32
  offset : UInt32
  deriving DecidableEq, Repr

/-- The layout loop from entry `i` on: the payloads and the final cursor. -/
def layoutPayloads (host : Host) (irxDirectory : Bytes) :
    Nat → List ManifestEntry → UInt32 → Except HostError (List Payload × UInt32)
  | _, [], cursor => .ok ([], cursor)
  | i, entry :: entries, cursor => do
    let path ← buildPayloadPath irxDirectory entry.filename
    let data ← readFile host i path
    let size := UInt32.ofNat data.length
    if size > 0xffffffff - cursor then .error .imageTooLarge
    else do
      let rest ← layoutPayloads host irxDirectory (i + 1) entries
        (alignUpU32 (cursor + size) irximgAlignment)
      return (⟨data, size, crc32Update 0 data, cursor⟩ :: rest.1, rest.2)

/-- The output file: what is written to it, by how many calls of `fwrite`. -/
structure Output where
  bytes : Bytes
  writes : Nat
  deriving DecidableEq, Repr

/-- `fwrite(data, 1, size, output)`; `none` is a short write. -/
def fwrite (host : Host) (data : Bytes) (output : Output) : Option Output :=
  if host.writeOk output.writes then some ⟨output.bytes ++ data, output.writes + 1⟩ else none

/-- The loop of `write_zeros`, at most `fuel` iterations of it. -/
def writeZerosLoop (host : Host) : Nat → UInt32 → Output → Option Output
  | 0, _, output => some output
  | fuel + 1, count, output =>
    if count > 0 then
      let chunk := if count > 64 then 64 else count
      match fwrite host (List.replicate chunk.toNat 0) output with
      | none => none
      | some output => writeZerosLoop host fuel (count - chunk) output
    else some output

/-- `write_zeros(file, count)`; every iteration but the last writes 64 bytes. -/
def writeZeros (host : Host) (count : UInt32) (output : Output) : Option Output :=
  writeZerosLoop host (count.toNat / 64 + 1) count output

def orFail (error : HostError) (written : Option Output) : Except HostError Output :=
  match written with
  | none => .error error
  | some output => .ok output

theorem orFail_some (error : HostError) (output : Output) :
    orFail error (some output) = .ok output := rfl

def imageHeader (count payloadOffset fileSize manifestCrc : UInt32) : Bytes :=
  irximgMagic ++ [irximgVersion, irximgHeaderSize, count, irximgEntrySize, irximgHeaderSize,
    payloadOffset, fileSize, 0, manifestCrc].flatMap writeU32Le

def tableEntry (entry : ManifestEntry) (payload : Payload) : ImageEntry :=
  ⟨entry.id, payload.offset, payload.size, payload.crc32, 0⟩

/-- The entry loop from index `i` on. -/
def writeEntries (host : Host) : Nat → List (ManifestEntry × Payload) → Output →
    Except HostError Output
  | _, [], output => .ok output
  | i, (entry, payload) :: rest, output => do
    let output ← orFail (.writeEntry i)
      (fwrite host (encodeEntry (tableEntry entry payload)) output)
    writeEntries host (i + 1) rest output

def writePayloads (host : Host) : List (ManifestEntry × Payload) → Output →
    Except HostError Output
  | [], output => .ok output
  | (entry, payload) :: rest, output => do
    let last := payload.offset + payload.size
    let alignedEnd := alignUpU32 last irximgAlignment
    let output ← orFail (.writePayload entry.filename) (fwrite host payload.data output)
    let output ← orFail (.writePayload entry.filename) (writeZeros host (alignedEnd - last) output)
    writePayloads host rest output

/-- The writing half of `pack_image`: the bytes of the finished output file. -/
def writeImage (host : Host) (manifest : Manifest) (payloads : List Payload)
    (payloadOffset fileSize : UInt32) : Except HostError Bytes := do
  let count := UInt32.ofNat manifest.entries.length
  let rows := manifest.entries.zip payloads
  let tableEnd := irximgHeaderSize + count * irximgEntrySize
  let output ← orFail .writeHeader
    (fwrite host (imageHeader count payloadOffset fileSize manifest.crc32) ⟨[], 0⟩)
  let output ← writeEntries host 0 rows output
  if payloadOffset < tableEnd then .error .writeTablePadding
  else do
    let output ← orFail .writeTablePadding (writeZeros host (payloadOffset - tableEnd) output)
    let output ← writePayloads host rows output
    if host.closeOk then return output.bytes else .error .finalizeOutput

/-- `pack_image`: the bytes of the output file when it returns zero. -/
def packImage (host : Host) (manifestPath irxDirectory : Bytes) : Except HostError Bytes := do
  let manifest ← loadManifest host manifestPath
  if manifest.entries.length >
      ((0xffffffff - irximgHeaderSize) / irximgEntrySize).toNat then .error .tableTooLarge
  else do
    let payloadOffset := alignUpU32
      (irximgHeaderSize + UInt32.ofNat manifest.entries.length * irximgEntrySize) irximgAlignment
    let (payloads, fileSize) ← layoutPayloads host irxDirectory 0 manifest.entries payloadOffset
    if host.createOk then writeImage host manifest payloads payloadOffset fileSize
    else .error .createOutput

/-! ## 2. Layout -/

theorem readFile_ok {host : Host} (hok : host.AllOk) (k : Nat) {path data : Bytes}
    (hfile : host.file path = some data) (hne : data ≠ []) (hlen : data.length < 2 ^ 32) :
    readFile host k path = .ok data := by
  have hpos := List.length_pos_iff.mpr hne
  rw [readFile, hfile]
  simp only [hok.read, if_true, Bool.true_eq_false, if_false]
  rw [if_neg (by omega)]

theorem readFile_eq_ok {host : Host} {k : Nat} {path data : Bytes}
    (h : readFile host k path = .ok data) :
    host.file path = some data ∧ 0 < data.length ∧ data.length < 2 ^ 32 := by
  unfold readFile at h
  cases hfile : host.file path with
  | none =>
    rw [hfile] at h
    cases h
  | some contents =>
    rw [hfile] at h
    dsimp only at h
    obtain ⟨-, h⟩ := guard_ok.mp h
    obtain ⟨-, h⟩ := guard_ok.mp h
    obtain ⟨hsize, h⟩ := guard_ok.mp h
    obtain ⟨-, h⟩ := guard_ok.mp h
    obtain ⟨-, h⟩ := guard_ok.mp h
    obtain ⟨-, h⟩ := guard_ok.mp h
    cases h
    refine ⟨rfl, ?_⟩
    split at hsize
    · omega
    · omega

/-- Rounding up and wrapping commute: the alignment divides the word size. -/
theorem alignUpU32_ofNat (n : Nat) :
    alignUpU32 (UInt32.ofNat n) irximgAlignment = UInt32.ofNat (roundUp 16 n) := by
  have hmask : irximgAlignment - 1 = UInt32.ofNat (2 ^ 4 - 1) := by decide
  have hfifteen : UInt32.ofNat n + irximgAlignment - 1 = UInt32.ofNat (n + 15) := by
    rw [UInt32.ofNat_add]
    unfold irximgAlignment
    grind
  apply UInt32.toNat_inj.mp
  rw [alignUpU32, hmask, toNat_and_not_lowMask _ (by decide), hfifteen, UInt32.toNat_ofNat',
    UInt32.toNat_ofNat', roundUp]
  omega

/-- Rounding up wraps only when the rounded value does not fit. -/
theorem roundUp_fits {n : Nat} (h : roundUp 16 n < 2 ^ 32) : n + 15 < 2 ^ 32 := by
  have hdvd := roundUp_dvd 16 n
  have hle := le_roundUp n (a := 16) (by decide)
  omega

/-- What the host has for a manifest entry: a non-empty file at a path that fits. -/
structure PayloadFile (host : Host) (irxDirectory : Bytes) (entry : ManifestEntry)
    (data : Bytes) : Prop where
  path_fits : (payloadPath irxDirectory entry.filename).length < irximgPathMax
  contents : host.file (payloadPath irxDirectory entry.filename) = some data
  nonempty : data ≠ []

def payloadAt (p : Nat × Bytes) : Payload :=
  ⟨p.2, UInt32.ofNat p.2.length, crc32Update 0 p.2, UInt32.ofNat p.1⟩

/-- What the check of the layout loop asks of a payload and its exact offset, which the cursor holds
only up to its wrap. -/
def HasRoom (p : Nat × Bytes) : Prop := p.1 % 2 ^ 32 + p.2.length < 2 ^ 32

theorem room_iff {start n : Nat} (hn : n < 2 ^ 32) :
    UInt32.ofNat n > 0xffffffff - UInt32.ofNat start ↔ ¬ start % 2 ^ 32 + n < 2 ^ 32 := by
  have hstart : (UInt32.ofNat start).toNat = start % 2 ^ 32 := UInt32.toNat_ofNat'
  have hle : UInt32.ofNat start ≤ 0xffffffff := by
    rw [UInt32.le_iff_toNat_le, hstart]
    change _ ≤ 4294967295
    omega
  rw [gt_iff_lt, UInt32.lt_iff_toNat_lt, UInt32.toNat_sub_of_le _ _ hle, hstart,
    UInt32.toNat_ofNat', Nat.mod_eq_of_lt hn]
  change 4294967295 - _ < n ↔ _
  omega

theorem next_cursor {start : Nat} (n : Nat) (haligned : start % 16 = 0) :
    alignUpU32 (UInt32.ofNat start + UInt32.ofNat n) irximgAlignment =
      UInt32.ofNat (start + roundUp 16 n) := by
  rw [← UInt32.ofNat_add, alignUpU32_ofNat, roundUp_add n (by decide) haligned]

/-- When every payload has room, the layout loop places the payloads as the layout says. -/
theorem layoutPayloads_ok {host : Host} (hok : host.AllOk) {irxDirectory : Bytes}
    {entries : List ManifestEntry} {datas : List Bytes}
    (hfiles : List.Forall₂ (PayloadFile host irxDirectory) entries datas) (i : Nat)
    {start : Nat} (haligned : start % 16 = 0) (hroom : ∀ p ∈ place 16 start datas, HasRoom p) :
    layoutPayloads host irxDirectory i entries (UInt32.ofNat start) =
      .ok ((place 16 start datas).map payloadAt, UInt32.ofNat (start + size 16 datas)) := by
  induction hfiles generalizing i start with
  | nil => rfl
  | @cons entry data entries datas hfile _ ih =>
    rw [place, List.forall_mem_cons] at hroom
    obtain ⟨hhead, hrest⟩ := hroom
    rw [HasRoom] at hhead
    dsimp only at hhead
    have hpath : buildPayloadPath irxDirectory entry.filename =
        .ok (payloadPath irxDirectory entry.filename) :=
      if_neg (by have := hfile.path_fits; omega)
    have hread := readFile_ok hok i hfile.contents hfile.nonempty (by omega)
    -- the cursor stays aligned, so it rounds to no more than the payload does
    have hnextAligned : (start + roundUp 16 data.length) % 16 = 0 := by
      rw [Nat.add_mod, haligned, roundUp_dvd]
    rw [layoutPayloads, hpath, bind_of_ok rfl, hread, bind_of_ok rfl]
    dsimp only
    rw [if_neg (by rw [room_iff (by omega)]; exact not_not.mpr hhead), next_cursor _ haligned,
      ih (i + 1) hnextAligned hrest, bind_of_ok rfl, place, List.map_cons, size_cons,
      ← Nat.add_assoc]
    rfl

/-! ## 3. Writing -/

def Output.Extended (output : Output) (data : Bytes) (output' : Output) : Prop :=
  output'.bytes = output.bytes ++ data

theorem fwrite_ok {host : Host} (hok : host.AllOk) (data : Bytes) (output : Output) :
    fwrite host data output = some ⟨output.bytes ++ data, output.writes + 1⟩ :=
  if_pos (hok.write output.writes)

theorem writeZerosLoop_ok {host : Host} (hok : host.AllOk) (fuel : Nat) (count : UInt32)
    (output : Output) (hfuel : count.toNat ≤ 64 * fuel) :
    ∃ output', writeZerosLoop host fuel count output = some output' ∧
      output.Extended (List.replicate count.toNat 0) output' := by
  induction fuel generalizing count output with
  | zero =>
    have hzero : count.toNat = 0 := by omega
    exact ⟨output, rfl, by rw [Output.Extended, hzero, List.replicate_zero, List.append_nil]⟩
  | succ fuel ih =>
    unfold writeZerosLoop
    by_cases hpos : count > 0
    · simp only [if_pos hpos, fwrite_ok hok]
      have hchunk : (if count > 64 then 64 else count).toNat = min 64 count.toNat := by
        split
        · rename_i h
          rw [gt_iff_lt, UInt32.lt_iff_toNat_lt] at h
          change 64 < count.toNat at h
          change 64 = _
          omega
        · rename_i h
          rw [gt_iff_lt, UInt32.lt_iff_toNat_lt] at h
          change ¬ 64 < count.toNat at h
          omega
      generalize (if count > 64 then 64 else count) = chunk at hchunk ⊢
      -- a chunk is never more than what is left
      have hleft : (count - chunk).toNat = count.toNat - chunk.toNat :=
        UInt32.toNat_sub_of_le _ _ (UInt32.le_iff_toNat_le.mpr (by omega))
      obtain ⟨output', hloop, hbytes⟩ := ih (count - chunk)
        ⟨output.bytes ++ List.replicate chunk.toNat 0, output.writes + 1⟩ (by omega)
      refine ⟨output', hloop, ?_⟩
      rw [Output.Extended] at hbytes ⊢
      rw [hbytes, List.append_assoc, List.replicate_append_replicate, hleft]
      congr 2
      omega
    · have hzero : count.toNat = 0 := by
        rw [gt_iff_lt, UInt32.lt_iff_toNat_lt] at hpos
        change ¬ 0 < count.toNat at hpos
        omega
      rw [if_neg hpos]
      exact ⟨output, rfl, by rw [Output.Extended, hzero, List.replicate_zero, List.append_nil]⟩

theorem writeZeros_ok {host : Host} (hok : host.AllOk) (count : UInt32) (output : Output) :
    ∃ output', writeZeros host count output = some output' ∧
      output.Extended (List.replicate count.toNat 0) output' :=
  writeZerosLoop_ok hok _ count output (by omega)

theorem writeEntries_ok {host : Host} (hok : host.AllOk) (rows : List (ManifestEntry × Payload))
    (i : Nat) (output : Output) :
    ∃ output', writeEntries host i rows output = .ok output' ∧
      output.Extended (rows.flatMap fun row => encodeEntry (tableEntry row.1 row.2)) output' := by
  induction rows generalizing i output with
  | nil => exact ⟨output, rfl, (List.append_nil _).symm⟩
  | cons row rows ih =>
    obtain ⟨entry, payload⟩ := row
    obtain ⟨output', hrest, hbytes⟩ := ih (i + 1)
      ⟨output.bytes ++ encodeEntry (tableEntry entry payload), output.writes + 1⟩
    refine ⟨output', ?_, ?_⟩
    · rw [writeEntries, fwrite_ok hok]
      exact hrest
    · rw [Output.Extended] at hbytes ⊢
      rw [hbytes, List.append_assoc, List.flatMap_cons]

/-- Where a payload has been placed: aligned, and with room for its padding. -/
def Placed (p : Nat × Bytes) : Prop := p.1 % 16 = 0 ∧ p.1 + roundUp 16 p.2.length < 2 ^ 32

theorem Placed.hasRoom {p : Nat × Bytes} (hp : Placed p) : HasRoom p := by
  have hle := le_roundUp p.2.length (a := 16) (by decide)
  have hfits := hp.2
  rw [HasRoom]
  omega

/-- The padding `pack_image` writes after a payload is the padding of the layout, also where the
rounded end has wrapped. -/
theorem payload_padding {p : Nat × Bytes} (haligned : p.1 % 16 = 0) :
    let last := (payloadAt p).offset + (payloadAt p).size
    (alignUpU32 last irximgAlignment - last).toNat = roundUp 16 p.2.length - p.2.length := by
  have hle := le_roundUp p.2.length (a := 16) (by decide)
  have hlt := roundUp_lt p.2.length (a := 16) (by decide)
  change (alignUpU32 (UInt32.ofNat p.1 + UInt32.ofNat p.2.length) irximgAlignment -
    (UInt32.ofNat p.1 + UInt32.ofNat p.2.length)).toNat = _
  rw [next_cursor _ haligned, ← UInt32.ofNat_add, ← UInt32.ofNat_sub (by omega),
    UInt32.toNat_ofNat']
  omega

theorem writePayloads_ok {host : Host} (hok : host.AllOk) (entries : List ManifestEntry)
    (placed : List (Nat × Bytes)) (hlength : entries.length = placed.length)
    (hplaced : ∀ p ∈ placed, p.1 % 16 = 0) (output : Output) :
    ∃ output', writePayloads host (entries.zip (placed.map payloadAt)) output = .ok output' ∧
      output.Extended (area 16 (placed.map Prod.snd)) output' := by
  induction placed generalizing entries output with
  | nil =>
    obtain rfl := List.length_eq_zero_iff.mp hlength
    exact ⟨output, rfl, (List.append_nil _).symm⟩
  | cons p placed ih =>
    obtain ⟨entry, entries, rfl⟩ := List.exists_of_length_succ entries hlength
    obtain ⟨hp, hplaced⟩ := List.forall_mem_cons.mp hplaced
    obtain ⟨padded', hzeros, hpad⟩ := writeZeros_ok hok
      (alignUpU32 ((payloadAt p).offset + (payloadAt p).size) irximgAlignment -
        ((payloadAt p).offset + (payloadAt p).size)) ⟨output.bytes ++ p.2, output.writes + 1⟩
    obtain ⟨output', hrest, hbytes⟩ := ih entries (Nat.succ.inj hlength) hplaced padded'
    refine ⟨output', ?_, ?_⟩
    · rw [List.map_cons, List.zip_cons_cons, writePayloads, fwrite_ok hok]
      dsimp only [orFail]
      rw [bind_of_ok rfl]
      change (orFail _ (writeZeros host _ ⟨output.bytes ++ p.2, _⟩) >>= _) = _
      rw [hzeros]
      exact hrest
    · rw [Output.Extended, payload_padding hp] at hpad
      rw [Output.Extended] at hbytes ⊢
      rw [hbytes, hpad, List.map_cons, area_cons, padded]
      simp only [List.append_assoc]

/-! ## 4. The packed image -/

/-- Where the payloads of `n` entries start, over unbounded integers. -/
def payloadStart (n : Nat) : Nat := roundUp 16 (44 + 20 * n)

/-- The exact size of the image of `n` entries with these payloads. -/
def layoutSize (n : Nat) (datas : List Bytes) : Nat := payloadStart n + size 16 datas

def packedEntries (m : Manifest) (datas : List Bytes) : List ImageEntry :=
  (m.entries.zip (place 16 (payloadStart m.entries.length) datas)).map
    fun row => tableEntry row.1 (payloadAt row.2)

def packedFront (m : Manifest) (datas : List Bytes) : Bytes :=
  imageHeader (UInt32.ofNat m.entries.length) (UInt32.ofNat (payloadStart m.entries.length))
    (UInt32.ofNat (layoutSize m.entries.length datas)) m.crc32 ++
  (packedEntries m datas).flatMap encodeEntry ++
  List.replicate (payloadStart m.entries.length - (44 + 20 * m.entries.length)) 0

def packedImage (m : Manifest) (datas : List Bytes) : Bytes := packedFront m datas ++ area 16 datas

/-- The inputs that fit: a payload file for each entry, and an image of less than 2^32 bytes. -/
structure Packable (host : Host) (irxDirectory : Bytes) (m : Manifest) (datas : List Bytes) :
    Prop where
  manifest : m.WellFormed
  files : List.Forall₂ (PayloadFile host irxDirectory) m.entries datas
  fits : layoutSize m.entries.length datas < 2 ^ 32

section

variable {host : Host} {irxDirectory : Bytes} {m : Manifest} {datas : List Bytes}

theorem payloadStart_dvd (n : Nat) : payloadStart n % 16 = 0 := roundUp_dvd 16 _

theorem le_payloadStart (n : Nat) : 44 + 20 * n ≤ payloadStart n := le_roundUp _ (by decide)

theorem Packable.placed (h : Packable host irxDirectory m datas) :
    ∀ p ∈ place 16 (payloadStart m.entries.length) datas, Placed p := by
  intro p hp
  have hfits := h.fits
  obtain ⟨-, haligned, hend⟩ := place_bounds (payloadStart_dvd m.entries.length) datas p hp
  rw [layoutSize] at hfits
  exact ⟨haligned, by omega⟩

theorem place_length (a start : Nat) (blocks : List Bytes) :
    (place a start blocks).length = blocks.length := by
  rw [← List.length_map (f := Prod.snd), place_blocks]

theorem tableEnd_toNat {n : Nat} (hn : n ≤ 128) :
    (irximgHeaderSize + UInt32.ofNat n * irximgEntrySize).toNat = 44 + 20 * n := by
  have hnat : (UInt32.ofNat n).toNat = n := by
    rw [UInt32.toNat_ofNat', Nat.mod_eq_of_lt (by omega)]
  have hmul : (UInt32.ofNat n * irximgEntrySize).toNat = 20 * n := by
    rw [UInt32.toNat_mul, hnat]
    change n * 20 % 2 ^ 32 = _
    omega
  rw [toNat_add_of_lt (by rw [hmul]; change 44 + _ < _; omega), hmul]
  rfl

theorem payloadStart_lt {n : Nat} (hn : n ≤ 128) : payloadStart n < 2 ^ 32 := by
  have := roundUp_lt (44 + 20 * n) (a := 16) (by decide)
  rw [payloadStart]
  omega

theorem payloadStart_toNat {n : Nat} (hn : n ≤ 128) :
    (UInt32.ofNat (payloadStart n)).toNat = payloadStart n := by
  rw [UInt32.toNat_ofNat', Nat.mod_eq_of_lt (payloadStart_lt hn)]

theorem payloadOffset_eq {n : Nat} (hn : n ≤ 128) :
    alignUpU32 (irximgHeaderSize + UInt32.ofNat n * irximgEntrySize) irximgAlignment =
      UInt32.ofNat (payloadStart n) := by
  rw [payloadStart, ← alignUpU32_ofNat, ← tableEnd_toNat hn, UInt32.ofNat_toNat]

theorem count_le_tableMax {n : Nat} (hn : n ≤ 128) :
    ¬ n > ((0xffffffff - irximgHeaderSize) / irximgEntrySize).toNat := by
  change ¬ n > 214748362
  omega

/-- What is written for placed payloads, whether or not their offsets have wrapped. -/
theorem writeImage_ok (hok : host.AllOk) (hcount : m.entries.length ≤ 128)
    (hdatas : m.entries.length = datas.length) :
    writeImage host m ((place 16 (payloadStart m.entries.length) datas).map payloadAt)
      (UInt32.ofNat (payloadStart m.entries.length))
      (UInt32.ofNat (layoutSize m.entries.length datas)) = .ok (packedImage m datas) := by
  have htableEnd := tableEnd_toNat hcount
  have hstart := le_payloadStart m.entries.length
  have hstartNat := payloadStart_toNat hcount
  have hpad : ¬ UInt32.ofNat (payloadStart m.entries.length) <
      irximgHeaderSize + UInt32.ofNat m.entries.length * irximgEntrySize := by
    rw [UInt32.lt_iff_toNat_lt, hstartNat, htableEnd]
    omega
  have hpadNat : (UInt32.ofNat (payloadStart m.entries.length) -
      (irximgHeaderSize + UInt32.ofNat m.entries.length * irximgEntrySize)).toNat =
      payloadStart m.entries.length - (44 + 20 * m.entries.length) := by
    rw [UInt32.toNat_sub_of_le _ _ (UInt32.not_lt.mp hpad), hstartNat, htableEnd]
  have hlength : m.entries.length = (place 16 (payloadStart m.entries.length) datas).length := by
    rw [place_length]
    exact hdatas
  have haligned : ∀ p ∈ place 16 (payloadStart m.entries.length) datas, p.1 % 16 = 0 :=
    fun p hp => (place_bounds (payloadStart_dvd m.entries.length) datas p hp).2.1
  dsimp only [writeImage]
  rw [fwrite_ok hok, orFail_some, bind_of_ok rfl]
  -- header, table, padding and payloads, each behind the one before
  obtain ⟨table, htable, htableBytes⟩ := writeEntries_ok hok
    (m.entries.zip ((place 16 (payloadStart m.entries.length) datas).map payloadAt)) 0
    ⟨[] ++ imageHeader (UInt32.ofNat m.entries.length) (UInt32.ofNat (payloadStart m.entries.length))
      (UInt32.ofNat (layoutSize m.entries.length datas)) m.crc32, 1⟩
  obtain ⟨front, hfront, hfrontBytes⟩ := writeZeros_ok hok
    (UInt32.ofNat (payloadStart m.entries.length) -
      (irximgHeaderSize + UInt32.ofNat m.entries.length * irximgEntrySize)) table
  obtain ⟨whole, hwhole, hwholeBytes⟩ := writePayloads_ok hok m.entries
    (place 16 (payloadStart m.entries.length) datas) hlength haligned front
  rw [bind_of_ok htable, if_neg hpad, hfront, orFail_some, bind_of_ok rfl,
    bind_of_ok hwhole, if_pos hok.close]
  rw [Output.Extended] at htableBytes hfrontBytes hwholeBytes
  rw [hwholeBytes, hfrontBytes, htableBytes, hpadNat, place_blocks, packedImage, packedFront,
    packedEntries, List.zip_map_right, List.flatMap_map, List.flatMap_map, List.nil_append]
  rfl

/-- When no call fails and every payload has room, the packer writes the packed image. -/
theorem packImage_of_room (hok : host.AllOk) {manifestPath : Bytes}
    (hload : loadManifest host manifestPath = .ok m) (hcount : m.entries.length ≤ 128)
    (hfiles : List.Forall₂ (PayloadFile host irxDirectory) m.entries datas)
    (hroom : ∀ p ∈ place 16 (payloadStart m.entries.length) datas, HasRoom p) :
    packImage host manifestPath irxDirectory = .ok (packedImage m datas) := by
  have hlayout := layoutPayloads_ok hok hfiles 0 (payloadStart_dvd m.entries.length) hroom
  rw [packImage, bind_of_ok hload, if_neg (count_le_tableMax hcount)]
  simp only [payloadOffset_eq hcount]
  rw [bind_of_ok hlayout, if_pos hok.create]
  exact writeImage_ok hok hcount hfiles.length_eq

/-- When no call fails and the layout fits, the packer writes the packed image. -/
theorem packImage_ok (hok : host.AllOk) {manifestPath : Bytes}
    (hload : loadManifest host manifestPath = .ok m)
    (h : Packable host irxDirectory m datas) :
    packImage host manifestPath irxDirectory = .ok (packedImage m datas) :=
  packImage_of_room hok hload h.manifest.entries.length_le h.files
    fun p hp => (h.placed p hp).hasRoom

end

/-! ## 5. A memory card image

Three modules out of the order of their ids, of lengths that leave padding between them. -/

def memcardManifest : Manifest :=
  let entries := [⟨5, lit "mcserv.irx", lit "mcserv_irx", lit "mcserv"⟩,
    ⟨1, lit "sio2man.irx", lit "sio2man_irx", lit "sio2man"⟩,
    ⟨4, lit "mcman.irx", lit "mcman_irx", lit "mcman"⟩]
  ⟨entries, manifestLogicalCrc entries⟩

def memcardPayloads : List Bytes := [List.replicate 17 5, [1], [4, 4, 4]]

def memcardImage : Bytes := packedImage memcardManifest memcardPayloads

/-- The manifest `m`, the image `i` that is packed from it, and the modules in `irx`. -/
def memcardHost : Host := .ofFiles fun path =>
  if path = lit "m" then
    some (lit "5|mcserv.irx|mcserv_irx|mcserv\n1|sio2man.irx|sio2man_irx|sio2man\n" ++
      lit "4|mcman.irx|mcman_irx|mcman\n")
  else if path = lit "i" then some memcardImage
  else ([lit "irx/mcserv.irx", lit "irx/sio2man.irx", lit "irx/mcman.irx"].zip
    memcardPayloads).lookup path

theorem memcardHost_loads : loadManifest memcardHost (lit "m") = .ok memcardManifest := by
  decide +kernel

theorem memcardHost_files :
    List.Forall₂ (PayloadFile memcardHost (lit "irx")) memcardManifest.entries memcardPayloads :=
  .cons ⟨by decide, by decide +kernel, by decide⟩ (.cons ⟨by decide, by decide +kernel, by decide⟩
    (.cons ⟨by decide, by decide +kernel, by decide⟩ .nil))

def memcardTable : List ImageEntry :=
  [⟨5, 112, 17, crc32Bytes (List.replicate 17 5), 0⟩, ⟨1, 144, 1, crc32Bytes [1], 0⟩,
    ⟨4, 160, 3, crc32Bytes [4, 4, 4], 0⟩]

theorem memcardImage_table :
    decodeTable memcardImage (wordAt memcardImage 16) = memcardTable := by
  decide +kernel

theorem memcardImage_format : ImageFormat memcardImage := by decide +kernel

theorem memcardHost_packs :
    packImage memcardHost (lit "m") (lit "irx") = .ok memcardImage :=
  packImage_ok (Host.ofFiles_allOk _) memcardHost_loads
    ⟨loadManifest_wellFormed memcardHost_loads, memcardHost_files, by decide⟩

end Ps2Drivers
