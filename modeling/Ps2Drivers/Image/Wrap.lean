import Ps2Drivers.Image.RoundTrip

/-!
# The 32-bit layout

The layout loop of `pack_image` checks the unrounded end of a payload and then rounds it up in 32
bits.  Every field it stores is the exact one modulo `2 ^ 32`, the bytes it writes are the exact
ones, and a rounded end wraps for payloads that end in the last fifteen bytes below `2 ^ 32`.
-/

open Binary CString Checked Layout

namespace Ps2Drivers

/-! ## 1. A host where no call fails -/

def Host.flawless (host : Host) : Host where
  file := host.file
  lineOk _ := true
  readOk _ _ := true
  createOk := true
  writeOk _ := true
  closeOk := true

theorem Host.flawless_allOk (host : Host) : host.flawless.AllOk :=
  ⟨fun _ => rfl, fun _ _ => rfl, rfl, fun _ => rfl, rfl⟩

section

variable {host : Host}

theorem fwrite_flawless {data : Bytes} {output output' : Output}
    (h : fwrite host data output = some output') :
    fwrite host.flawless data output = some output' := by
  rw [fwrite] at h
  split at h
  · rw [fwrite_ok host.flawless_allOk, h]
  · cases h

theorem writeZerosLoop_flawless (fuel : Nat) {count : UInt32} {output output' : Output}
    (h : writeZerosLoop host fuel count output = some output') :
    writeZerosLoop host.flawless fuel count output = some output' := by
  induction fuel generalizing count output with
  | zero => exact h
  | succ fuel ih =>
    unfold writeZerosLoop at h ⊢
    split at h
    · rename_i hpos
      rw [if_pos hpos]
      dsimp only at h ⊢
      generalize (if count > 64 then 64 else count) = chunk at h ⊢
      cases hwrite : fwrite host (List.replicate chunk.toNat 0) output with
      | none =>
        -- the loop stops with the first chunk that cannot be written
        rw [hwrite] at h
        cases h
      | some written =>
        rw [hwrite] at h
        rw [fwrite_flawless hwrite]
        exact ih h
    · rename_i hzero
      rw [if_neg hzero]
      exact h

theorem orFail_below (error : HostError) {written written' : Option Output}
    (h : ∀ output, written = some output → written' = some output) :
    Below (orFail error written) (orFail error written') := by
  cases written with
  | none => exact .error _ _
  | some output =>
    rw [h output rfl]
    exact .refl _

theorem orFail_fwrite_below (error : HostError) (data : Bytes) (output : Output) :
    Below (orFail error (fwrite host data output))
      (orFail error (fwrite host.flawless data output)) :=
  orFail_below error fun _ => fwrite_flawless

theorem orFail_writeZeros_below (error : HostError) (count : UInt32) (output : Output) :
    Below (orFail error (writeZeros host count output))
      (orFail error (writeZeros host.flawless count output)) :=
  orFail_below error fun _ => writeZerosLoop_flawless _

theorem writeEntries_below (i : Nat) (rows : List (ManifestEntry × Payload)) (output : Output) :
    Below (writeEntries host i rows output) (writeEntries host.flawless i rows output) := by
  induction rows generalizing i output with
  | nil => exact .refl _
  | cons row rows ih => exact (orFail_fwrite_below _ _ _).bind fun written => ih (i + 1) written

theorem writePayloads_below (rows : List (ManifestEntry × Payload)) (output : Output) :
    Below (writePayloads host rows output) (writePayloads host.flawless rows output) := by
  induction rows generalizing output with
  | nil => exact .refl _
  | cons row rows ih =>
    exact (orFail_fwrite_below _ _ _).bind fun _ => (orFail_writeZeros_below _ _ _).bind ih

/-- A run of the writing half that succeeds has written what it writes when no call can fail. -/
theorem writeImage_below (manifest : Manifest) (payloads : List Payload)
    (payloadOffset fileSize : UInt32) :
    Below (writeImage host manifest payloads payloadOffset fileSize)
      (writeImage host.flawless manifest payloads payloadOffset fileSize) := by
  refine (orFail_fwrite_below _ _ _).bind fun header => (writeEntries_below _ _ _).bind fun table => ?_
  split
  · exact .refl _
  · refine (orFail_writeZeros_below _ _ _).bind fun front =>
      (writePayloads_below _ _).bind fun output => ?_
    split
    · exact .refl _
    · exact .error _ _

/-! ## 2. What a successful run has done -/

variable {irxDirectory : Bytes} {entries : List ManifestEntry} {datas : List Bytes}

def PayloadContents (host : Host) (irxDirectory : Bytes) :
    List ManifestEntry → List Bytes → Prop :=
  List.Forall₂ fun entry data => host.file (payloadPath irxDirectory entry.filename) = some data

/-- A layout loop that succeeds has found room for every payload, and has placed it. -/
theorem layoutPayloads_eq_ok (hfiles : PayloadContents host irxDirectory entries datas) {i : Nat}
    {start : Nat} (haligned : start % 16 = 0) {laid : List Payload × UInt32}
    (h : layoutPayloads host irxDirectory i entries (UInt32.ofNat start) = .ok laid) :
    (∀ p ∈ place 16 start datas, HasRoom p) ∧
      laid = ((place 16 start datas).map payloadAt, UInt32.ofNat (start + size 16 datas)) := by
  rw [PayloadContents] at hfiles
  induction hfiles generalizing i start laid with
  | nil =>
    cases h
    exact ⟨by simp [place], rfl⟩
  | @cons entry data entries datas hfile _ ih =>
    rw [layoutPayloads] at h
    obtain ⟨path, hpath, h⟩ := bind_ok.mp h
    obtain ⟨-, hpath⟩ := guard_ok.mp hpath
    cases hpath
    obtain ⟨contents, hread, h⟩ := bind_ok.mp h
    obtain ⟨hcontents, -, hlt⟩ := readFile_eq_ok hread
    obtain rfl : data = contents := Option.some.inj (hfile.symm.trans hcontents)
    -- the check is on the end of the payload, the cursor moves to the rounded end
    obtain ⟨hroom, h⟩ := guard_ok.mp h
    rw [room_iff hlt, not_not] at hroom
    obtain ⟨rest, hrest, h⟩ := bind_ok.mp h
    rw [next_cursor _ haligned] at hrest
    obtain ⟨hrooms, rfl⟩ := ih (by rw [Nat.add_mod, haligned, roundUp_dvd]) hrest
    cases h
    rw [place, List.forall_mem_cons, size_cons, List.map_cons, ← Nat.add_assoc]
    exact ⟨⟨hroom, hrooms⟩, rfl⟩

variable {manifestPath image : Bytes} {m : Manifest}

/-- A packer that succeeds has written the packed image, whether or not its fields wrapped. -/
theorem packImage_eq_ok (hload : loadManifest host manifestPath = .ok m)
    (hfiles : PayloadContents host irxDirectory m.entries datas)
    (hpack : packImage host manifestPath irxDirectory = .ok image) :
    (∀ p ∈ place 16 (payloadStart datas.length) datas, HasRoom p) ∧
      image = packedImage m datas := by
  have hcount := (loadManifest_wellFormed hload).entries.length_le
  rw [packImage, bind_of_ok hload, if_neg (count_le_tableMax hcount)] at hpack
  simp only [payloadOffset_eq hcount] at hpack
  obtain ⟨laid, hlayout, hpack⟩ := bind_ok.mp hpack
  obtain ⟨hroom, rfl⟩ := layoutPayloads_eq_ok hfiles (payloadStart_dvd _) hlayout
  split at hpack
  · have hwritten := writeImage_below m _ _ _ image hpack
    have hpacked := writeImage_ok host.flawless_allOk hcount hfiles.length_eq
    rw [← hfiles.length_eq]
    exact ⟨hroom, Except.ok.inj (hwritten.symm.trans hpacked)⟩
  · cases hpack

/-! ## 3. The fields of the packed image -/

/-- Where the `k`-th payload belongs, over unbounded integers: behind the table and the earlier
payloads, each of them rounded up. -/
def exactOffset (datas : List Bytes) (k : Nat) : Nat :=
  payloadStart datas.length + size 16 (datas.take k)

theorem place_exact {k : Nat} (hk : k < datas.length) :
    (place 16 (payloadStart datas.length) datas)[k]? = some (exactOffset datas k, datas[k]) := by
  rw [place_getElem?, List.getElem?_eq_getElem hk]
  rfl

theorem place_exact_mem {k : Nat} (hk : k < datas.length) :
    (exactOffset datas k, datas[k]) ∈ place 16 (payloadStart datas.length) datas :=
  List.mem_of_getElem? (place_exact hk)

/-- The stored offsets and sizes are the exact ones, modulo the word size. -/
theorem packedImage_entry (hdatas : m.entries.length = datas.length) {k : Nat}
    (hk : k < datas.length) :
    (entryAt (packedImage m datas) k).offset = UInt32.ofNat (exactOffset datas k) ∧
      (entryAt (packedImage m datas) k).size = UInt32.ofNat datas[k].length := by
  have htable := packedImage_table hdatas
  have hentry : k < m.entries.length := by omega
  have hrow : (packedEntries m datas)[k]? =
      some (tableEntry m.entries[k] (payloadAt (exactOffset datas k, datas[k]))) := by
    have hplaced := place_exact hk
    rw [← hdatas] at hplaced
    rw [packedEntries, List.getElem?_map, List.getElem?_zip_eq_some
      (z := (m.entries[k], (exactOffset datas k, datas[k]))) |>.mpr
      ⟨List.getElem?_eq_getElem hentry, hplaced⟩]
    rfl
  rw [← htable, decodeTable, List.getElem?_map, List.getElem?_range hentry] at hrow
  have hdecoded : entryAt (packedImage m datas) k =
      tableEntry m.entries[k] (payloadAt (exactOffset datas k, datas[k])) := Option.some.inj hrow
  rw [hdecoded]
  exact ⟨rfl, rfl⟩

/-- The stored file size is the exact one, modulo the word size. -/
theorem packedImage_fileSize (m : Manifest) (datas : List Bytes) :
    wordAt (packedImage m datas) 32 = layoutSize m.entries.length datas % 2 ^ 32 :=
  (packedImage_word m datas (k := 6) (by decide)).trans UInt32.toNat_ofNat'

/-! ## 4. When the layout is exact -/

/-- What the image promises about its `datas`, over unbounded integers. -/
structure ExactLayout (image : Bytes) (datas : List Bytes) : Prop where
  offset : ∀ k < datas.length, (entryAt image k).offset.toNat = exactOffset datas k
  fileSize : wordAt image 32 = image.length
  inside : ∀ k < datas.length,
    (entryAt image k).offset.toNat + (entryAt image k).size.toNat ≤ wordAt image 32
  fits : layoutSize datas.length datas < 2 ^ 32

/-- The payload ends below `2 ^ 32`, and the end of its padding is `2 ^ 32`. -/
def RoundsToWrap (p : Nat × Bytes) : Prop :=
  2 ^ 32 - 15 ≤ p.1 + p.2.length ∧ p.1 + p.2.length ≤ 2 ^ 32 - 1

instance (p : Nat × Bytes) : Decidable (RoundsToWrap p) := inferInstanceAs (Decidable (_ ∧ _))

/-- The invariant of the layout loop: as long as no rounded end wraps, the cursor is exact. -/
theorem size_fits {start : Nat} (haligned : start % 16 = 0) (hstart : start < 2 ^ 32)
    (hroom : ∀ p ∈ place 16 start datas, HasRoom p)
    (hends : ∀ p ∈ place 16 start datas, ¬ RoundsToWrap p) :
    start + size 16 datas < 2 ^ 32 := by
  induction datas generalizing start with
  | nil => exact hstart
  | cons data datas ih =>
    rw [place, List.forall_mem_cons] at hroom hends
    obtain ⟨hhead, hroom⟩ := hroom
    obtain ⟨hend, hends⟩ := hends
    simp only [HasRoom, RoundsToWrap, Nat.mod_eq_of_lt hstart] at hhead hend
    have hround := roundUp_dvd 16 data.length
    have hlt := roundUp_lt data.length (a := 16) (by decide)
    rw [size_cons, ← Nat.add_assoc]
    -- the end is at most `2 ^ 32 - 16`, a multiple of the alignment, so it rounds to no more
    exact ih (by omega) (by omega) hroom hends

theorem not_roundsToWrap (hfits : layoutSize datas.length datas < 2 ^ 32) :
    ∀ p ∈ place 16 (payloadStart datas.length) datas, ¬ RoundsToWrap p := by
  rintro p hp ⟨hlow, -⟩
  obtain ⟨-, haligned, hend⟩ := place_bounds (payloadStart_dvd _) datas p hp
  rw [layoutSize] at hfits
  rw [← roundUp_add _ (by decide) haligned] at hend
  -- an end among the last fifteen bytes rounds to `2 ^ 32`
  have := roundUp_fits (n := p.1 + p.2.length) (by omega)
  omega

theorem packedImage_exact (hdatas : m.entries.length = datas.length)
    (hfits : layoutSize datas.length datas < 2 ^ 32) :
    ExactLayout (packedImage m datas) datas := by
  have hsize : wordAt (packedImage m datas) 32 = layoutSize datas.length datas := by
    rw [packedImage_fileSize, hdatas, Nat.mod_eq_of_lt hfits]
  have hentry (k : Nat) (hk : k < datas.length) :
      (entryAt (packedImage m datas) k).offset.toNat = exactOffset datas k ∧
        exactOffset datas k + (entryAt (packedImage m datas) k).size.toNat ≤
          layoutSize datas.length datas := by
    obtain ⟨hoffset, hlength⟩ := packedImage_entry hdatas hk
    obtain ⟨-, -, hend⟩ := place_bounds (payloadStart_dvd _) datas _ (place_exact_mem hk)
    have hle := le_roundUp datas[k].length (a := 16) (by decide)
    rw [layoutSize] at hfits ⊢
    rw [hoffset, hlength, UInt32.toNat_ofNat', UInt32.toNat_ofNat']
    dsimp only at hend
    omega
  refine ⟨fun k hk => (hentry k hk).1, ?_, fun k hk => ?_, hfits⟩
  · rw [hsize, packedImage_length hdatas, hdatas]
  · rw [hsize, (hentry k hk).1]
    exact (hentry k hk).2

/-- An image that was packed is laid out exactly when no payload ends in the last fifteen bytes
below `2 ^ 32`; there the rounded end wraps to zero and the check has passed already. -/
theorem packImage_exact_iff (hload : loadManifest host manifestPath = .ok m)
    (hfiles : PayloadContents host irxDirectory m.entries datas)
    (hpack : packImage host manifestPath irxDirectory = .ok image) :
    ExactLayout image datas ↔
      ∀ k (hk : k < datas.length), ¬ RoundsToWrap (exactOffset datas k, datas[k]) := by
  obtain ⟨hroom, rfl⟩ := packImage_eq_ok hload hfiles hpack
  have hdatas : m.entries.length = datas.length := hfiles.length_eq
  constructor
  · exact fun hexact k hk => not_roundsToWrap hexact.fits _ (place_exact_mem hk)
  · intro hends
    have hcount := (loadManifest_wellFormed hload).entries.length_le
    refine packedImage_exact hdatas (size_fits (payloadStart_dvd _)
      (payloadStart_lt (hdatas ▸ hcount)) hroom fun p hp => ?_)
    obtain ⟨k, hp⟩ := List.mem_iff_getElem?.mp hp
    have hk : k < datas.length := by
      have := (List.getElem?_eq_some_iff.mp hp).1
      rwa [place_length] at this
    obtain rfl := Option.some.inj ((place_exact hk).symm.trans hp)
    exact hends k hk

end

/-- Padding stands between the three payloads. -/
theorem packImage_exact_iff_memcard :
    packImage memcardHost (lit "m") (lit "irx") = .ok memcardImage ∧
      (List.range 3).map (exactOffset memcardPayloads) = [112, 144, 160] ∧
      ExactLayout memcardImage memcardPayloads := by
  have hcontents :
      PayloadContents memcardHost (lit "irx") memcardManifest.entries memcardPayloads :=
    .cons (by decide +kernel) (.cons (by decide +kernel) (.cons (by decide +kernel) .nil))
  have hends : ∀ k (hk : k < memcardPayloads.length),
      ¬ RoundsToWrap (exactOffset memcardPayloads k, memcardPayloads[k]) := by decide +kernel
  exact ⟨memcardHost_packs, by decide +kernel,
    (packImage_exact_iff memcardHost_loads hcontents memcardHost_packs).mpr hends⟩

/-- The manifest `m` lists the CD file system; every other file has these contents. -/
def payloadHost (data : Bytes) : Host := .ofFiles fun path =>
  some (if path = lit "m" then lit "11|cdfs.irx|cdfs_irx|cdfs" else data)

def payloadManifest : Manifest :=
  let entries := [⟨11, lit "cdfs.irx", lit "cdfs_irx", lit "cdfs"⟩]
  ⟨entries, manifestLogicalCrc entries⟩

theorem payloadHost_file {data path : Bytes} (h : path ≠ lit "m") :
    (payloadHost data).file path = some data := by
  change some (ite _ _ _) = _
  rw [if_neg h]

theorem payloadHost_loads (data : Bytes) :
    loadManifest (payloadHost data) (lit "m") = .ok payloadManifest := by
  have hload : loadManifest (payloadHost []) (lit "m") = .ok payloadManifest := by decide +kernel
  rw [← hload]
  exact loadManifest_congr rfl rfl

/-- Behind the 64 bytes in front of it, a payload of this length ends at `2 ^ 32 - 1`: the packer
returns zero for an image of `2 ^ 32` bytes, whose header says that it has none. -/
theorem payloadHost_wraps {data : Bytes} (hlength : data.length = 2 ^ 32 - 65) :
    ∃ image, packImage (payloadHost data) (lit "m") (lit "irx") = .ok image ∧
      image.length = 2 ^ 32 ∧ wordAt image 32 = 0 ∧ ¬ ExactLayout image [data] := by
  have hsize : layoutSize 1 [data] = 2 ^ 32 := by
    rw [layoutSize, size_cons, hlength]
    decide
  have hfiles : List.Forall₂ (PayloadFile (payloadHost data) (lit "irx"))
      payloadManifest.entries [data] :=
    .cons ⟨by decide, payloadHost_file (by decide),
      List.ne_nil_of_length_pos (by rw [hlength]; decide)⟩ .nil
  have hroom : ∀ p ∈ place 16 (payloadStart 1) [data], HasRoom p := by
    rw [place, place, List.forall_mem_singleton, HasRoom, hlength]
    change payloadStart 1 % 2 ^ 32 + (2 ^ 32 - 65) < 2 ^ 32
    decide
  refine ⟨packedImage payloadManifest [data], packImage_of_room
    (Host.ofFiles_allOk _) (payloadHost_loads data) (by decide) hfiles hroom, ?_, ?_,
    fun hexact => ?_⟩
  · exact (packedImage_length rfl).trans hsize
  · rw [packedImage_fileSize]
    change layoutSize 1 [data] % 2 ^ 32 = 0
    rw [hsize, Nat.mod_self]
  · have hfits := hexact.fits
    change layoutSize 1 [data] < 2 ^ 32 at hfits
    omega

/-- The payload is all zeros, and the packer succeeds. -/
theorem packImage_wraps :
    ∃ image,
      packImage (payloadHost (List.replicate (2 ^ 32 - 65) 0)) (lit "m") (lit "irx") = .ok image ∧
      image.length = 2 ^ 32 ∧ wordAt image 32 = 0 ∧
      ¬ ExactLayout image [List.replicate (2 ^ 32 - 65) 0] :=
  payloadHost_wraps List.length_replicate

end Ps2Drivers
