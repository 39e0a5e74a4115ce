import Ps2Drivers.Image.Validate
import Ps2Drivers.Provider.Run

/-!
# From the packer to the stage

The packed image is in the format, the validator accepts it for its manifest, the runtime parser
reads its table back, and staging from it hands out the payloads that were packed.
-/

open Binary CString Checked Layout

namespace Ps2Drivers

section

variable {host : Host} {irxDirectory : Bytes} {m : Manifest} {datas : List Bytes}

/-! ## 1. The bytes of the packed image -/

def packedRows (m : Manifest) (datas : List Bytes) : List (ManifestEntry × (Nat × Bytes)) :=
  m.entries.zip (place 16 (payloadStart m.entries.length) datas)

theorem packedEntries_eq (m : Manifest) (datas : List Bytes) :
    packedEntries m datas = (packedRows m datas).map fun row => tableEntry row.1 (payloadAt row.2) :=
  rfl

theorem Packable.place_length (h : Packable host irxDirectory m datas) :
    (place 16 (payloadStart m.entries.length) datas).length = m.entries.length := by
  rw [Ps2Drivers.place_length]
  exact h.files.length_eq.symm

theorem packedEntries_length (hdatas : m.entries.length = datas.length) :
    (packedEntries m datas).length = m.entries.length := by
  rw [packedEntries, List.length_map, List.length_zip, place_length, ← hdatas, Nat.min_self]

theorem imageHeader_length (count payloadOffset fileSize manifestCrc : UInt32) :
    (imageHeader count payloadOffset fileSize manifestCrc).length = 44 := rfl

theorem entries_length (entries : List ImageEntry) :
    (entries.flatMap encodeEntry).length = 20 * entries.length := by
  induction entries with
  | nil => rfl
  | cons entry entries ih =>
    rw [List.flatMap_cons, List.length_append, encodeEntry_length, ih, List.length_cons]
    omega

theorem packedFront_length (hdatas : m.entries.length = datas.length) :
    (packedFront m datas).length = payloadStart m.entries.length := by
  have hle := le_payloadStart m.entries.length
  rw [packedFront, List.length_append, List.length_append, imageHeader_length, entries_length,
    packedEntries_length hdatas, List.length_replicate]
  omega

/-- The image is exactly as long as the layout says. -/
theorem packedImage_length (hdatas : m.entries.length = datas.length) :
    (packedImage m datas).length = layoutSize m.entries.length datas := by
  rw [packedImage, List.length_append, packedFront_length hdatas, area_length datas (by decide),
    layoutSize]

theorem Packable.image_length (h : Packable host irxDirectory m datas) :
    (packedImage m datas).length = layoutSize m.entries.length datas :=
  packedImage_length h.files.length_eq

/-- The image as header, table and the rest. -/
theorem packedImage_split (m : Manifest) (datas : List Bytes) :
    ∃ rest, packedImage m datas =
      imageHeader (UInt32.ofNat m.entries.length) (UInt32.ofNat (payloadStart m.entries.length))
        (UInt32.ofNat (layoutSize m.entries.length datas)) m.crc32 ++
      ((packedEntries m datas).flatMap encodeEntry ++ rest) :=
  ⟨_, by rw [packedImage, packedFront, List.append_assoc, List.append_assoc]⟩

/-- The nine words of the header. -/
theorem packedImage_word (m : Manifest) (datas : List Bytes) {k : Nat} (hk : k < 9) :
    wordAt (packedImage m datas) (8 + 4 * k) =
      ([irximgVersion, irximgHeaderSize, UInt32.ofNat m.entries.length, irximgEntrySize,
        irximgHeaderSize, UInt32.ofNat (payloadStart m.entries.length),
        UInt32.ofNat (layoutSize m.entries.length datas), 0, m.crc32].get ⟨k, hk⟩).toNat := by
  obtain ⟨rest, hsplit⟩ := packedImage_split m datas
  rw [hsplit, imageHeader, List.append_assoc]
  exact wordAt_words irximgMagic _ _ hk

theorem packedImage_magic (m : Manifest) (datas : List Bytes) :
    (packedImage m datas).take 8 = irximgMagic := by
  obtain ⟨rest, hsplit⟩ := packedImage_split m datas
  rw [hsplit, imageHeader, List.append_assoc]
  exact List.take_left' rfl

/-- The table that was written is the table that is read. -/
theorem packedImage_table (hdatas : m.entries.length = datas.length) :
    decodeTable (packedImage m datas) m.entries.length = packedEntries m datas := by
  obtain ⟨rest, hsplit⟩ := packedImage_split m datas
  rw [hsplit, ← packedEntries_length hdatas]
  exact decodeTable_entries (imageHeader_length _ _ _ _) _ _

theorem Packable.decodeTable_eq (h : Packable host irxDirectory m datas) :
    decodeTable (packedImage m datas) m.entries.length = packedEntries m datas :=
  packedImage_table h.files.length_eq

/-- Every payload is found at its place. -/
theorem Packable.slice_eq (h : Packable host irxDirectory m datas) :
    ∀ p ∈ place 16 (payloadStart m.entries.length) datas,
      slice (packedImage m datas) p.1 p.2.length = p.2 := by
  intro p hp
  rw [← packedFront_length h.files.length_eq] at hp
  exact slice_area (by decide) datas (packedFront m datas) p hp

/-! ## 2. The packed image is in the format -/

structure PackedRow (image : Bytes) (start : Nat) (row : ManifestEntry × (Nat × Bytes)) : Prop where
  id_ne_zero : row.1.id ≠ 0
  nonempty : row.2.2.length ≠ 0
  start_le : start ≤ row.2.1
  aligned : row.2.1 % 16 = 0
  bounded : row.2.1 + row.2.2.length ≤ image.length
  slice_eq : slice image row.2.1 row.2.2.length = row.2.2

theorem datas_nonempty {entries : List ManifestEntry}
    (h : List.Forall₂ (PayloadFile host irxDirectory) entries datas) :
    ∀ data ∈ datas, data ≠ [] := by
  induction h with
  | nil => simp
  | cons hfile _ ih => exact List.forall_mem_cons.mpr ⟨hfile.nonempty, ih⟩

theorem Packable.row (h : Packable host irxDirectory m datas) :
    ∀ row ∈ packedRows m datas,
      PackedRow (packedImage m datas) (payloadStart m.entries.length) row := by
  rintro ⟨entry, p⟩ hrow
  obtain ⟨hentry, hp⟩ := List.of_mem_zip hrow
  obtain ⟨hstart, haligned, hend⟩ := place_bounds (payloadStart_dvd _) datas p hp
  have hle := le_roundUp p.2.length (a := 16) (by decide)
  have hdata : p.2 ∈ datas := by
    rw [← place_blocks (a := 16) (payloadStart m.entries.length) datas]
    exact List.mem_map_of_mem hp
  have hnonempty : p.2 ≠ [] := datas_nonempty h.files p.2 hdata
  refine ⟨(h.manifest.entries.each entry hentry).id_ne_zero, ?_, hstart, haligned, ?_,
    h.slice_eq p hp⟩
  · exact fun hzero => hnonempty (List.length_eq_zero_iff.mp hzero)
  · rw [h.image_length, layoutSize]
    change p.1 + p.2.length ≤ _
    omega

variable {image : Bytes} {start : Nat} {row : ManifestEntry × (Nat × Bytes)}

theorem PackedRow.offset_toNat (hrow : PackedRow image start row) (hlen : image.length < 2 ^ 32) :
    (payloadAt row.2).offset.toNat = row.2.1 := by
  have := hrow.bounded
  rw [payloadAt, UInt32.toNat_ofNat', Nat.mod_eq_of_lt (by omega)]

theorem PackedRow.size_toNat (hrow : PackedRow image start row) (hlen : image.length < 2 ^ 32) :
    (payloadAt row.2).size.toNat = row.2.2.length := by
  have := hrow.bounded
  rw [payloadAt, UInt32.toNat_ofNat', Nat.mod_eq_of_lt (by omega)]

theorem PackedRow.entryFormat (hrow : PackedRow image start row) (hlen : image.length < 2 ^ 32) :
    EntryFormat image.length start (tableEntry row.1 (payloadAt row.2)) := by
  have hoffset := hrow.offset_toNat hlen
  have hsize := hrow.size_toNat hlen
  refine ⟨(toNat_ne_zero_iff _).mpr hrow.id_ne_zero, ?_, rfl, ?_, ?_, ?_⟩
  · change (payloadAt row.2).size.toNat ≠ 0
    rw [hsize]
    exact hrow.nonempty
  · change (payloadAt row.2).offset.toNat % 16 = 0
    rw [hoffset]
    exact hrow.aligned
  · change _ ≤ (payloadAt row.2).offset.toNat
    rw [hoffset]
    exact hrow.start_le
  · change (payloadAt row.2).offset.toNat + (payloadAt row.2).size.toNat ≤ _
    rw [hoffset, hsize]
    exact hrow.bounded

theorem Packable.ids_eq (h : Packable host irxDirectory m datas) :
    (packedEntries m datas).map (·.id) = m.entries.map (·.id) := by
  rw [packedEntries_eq, List.map_map]
  have hfst : (packedRows m datas).map Prod.fst = m.entries :=
    List.map_fst_zip (Nat.le_of_eq h.place_length.symm)
  calc (packedRows m datas).map ((·.id) ∘ fun row => tableEntry row.1 (payloadAt row.2))
      = ((packedRows m datas).map Prod.fst).map (·.id) := by rw [List.map_map]; rfl
    _ = m.entries.map (·.id) := by rw [hfst]

theorem Packable.image_lt (h : Packable host irxDirectory m datas) :
    (packedImage m datas).length < 2 ^ 32 := by
  rw [h.image_length]
  exact h.fits

theorem Packable.word_count (h : Packable host irxDirectory m datas) :
    wordAt (packedImage m datas) 16 = m.entries.length := by
  have hle := h.manifest.entries.length_le
  refine (packedImage_word m datas (k := 2) (by decide)).trans ?_
  change (UInt32.ofNat m.entries.length).toNat = _
  rw [UInt32.toNat_ofNat', Nat.mod_eq_of_lt (by omega)]

theorem Packable.word_payload (h : Packable host irxDirectory m datas) :
    wordAt (packedImage m datas) 28 = payloadStart m.entries.length := by
  have hfits := h.fits
  rw [layoutSize] at hfits
  refine (packedImage_word m datas (k := 5) (by decide)).trans ?_
  change (UInt32.ofNat (payloadStart m.entries.length)).toNat = _
  rw [UInt32.toNat_ofNat', Nat.mod_eq_of_lt (by omega)]

/-- The stored file size is the length of the file. -/
theorem Packable.word_size (h : Packable host irxDirectory m datas) :
    wordAt (packedImage m datas) 32 = (packedImage m datas).length := by
  refine (packedImage_word m datas (k := 6) (by decide)).trans ?_
  change (UInt32.ofNat (layoutSize m.entries.length datas)).toNat = _
  rw [UInt32.toNat_ofNat', Nat.mod_eq_of_lt h.fits, h.image_length]

theorem Packable.imageFormat (h : Packable host irxDirectory m datas) :
    ImageFormat (packedImage m datas) := by
  have hcount := h.word_count
  have hpayload := h.word_payload
  have hstart := le_payloadStart m.entries.length
  refine ⟨packedImage_magic m datas, packedImage_word m datas (k := 0) (by decide),
    packedImage_word m datas (k := 1) (by decide), packedImage_word m datas (k := 3) (by decide),
    packedImage_word m datas (k := 4) (by decide), packedImage_word m datas (k := 7) (by decide),
    h.word_size, ?_, ?_, ?_, ?_, ?_, ?_, ?_⟩
  · rw [hcount]
    exact h.manifest.length_pos
  · rw [hcount]
    exact h.manifest.entries.length_le
  · rw [hcount, hpayload]
    exact hstart
  · rw [hpayload, h.image_length, layoutSize]
    omega
  · rw [hpayload]
    exact payloadStart_dvd _
  · rw [hcount, h.decodeTable_eq, hpayload, packedEntries_eq]
    intro e he
    obtain ⟨row, hrow, rfl⟩ := List.mem_map.mp he
    exact (h.row row hrow).entryFormat h.image_lt
  · rw [hcount, h.decodeTable_eq, h.ids_eq]
    exact h.manifest.entries.distinct

/-! ## 3. The validator accepts the packed image -/

theorem PackedRow.accepted (hrow : PackedRow image start row) (hlen : image.length < 2 ^ 32)
    {previousEnd : Nat} (hprevious : previousEnd ≤ row.2.1) :
    EntryAccepted image start previousEnd row.1.id (tableEntry row.1 (payloadAt row.2)) := by
  have hformat := hrow.entryFormat hlen
  have hoffset := hrow.offset_toNat hlen
  refine ⟨⟨rfl, hformat.size_ne_zero, hformat.flags_eq, hformat.offset_ge, hformat.aligned, ?_⟩,
    hformat.bounded, ?_⟩
  · change previousEnd ≤ (payloadAt row.2).offset.toNat
    rwa [hoffset]
  · change crc32Update 0 (slice image (payloadAt row.2).offset.toNat
      (payloadAt row.2).size.toNat) = crc32Update 0 row.2.2
    rw [hoffset, hrow.size_toNat hlen, hrow.slice_eq]

/-- Placed rows are accepted one after another: each ends before the place of the next. -/
theorem entriesAccepted_of_placed {payloadOffset : Nat} (hlen : image.length < 2 ^ 32)
    (entries : List ManifestEntry) (blocks : List Bytes) (start i previousEnd : Nat)
    (hlength : entries.length = blocks.length)
    (hrows : ∀ k row, (entries.zip (place 16 start blocks))[k]? = some row →
      entryAt image (i + k) = tableEntry row.1 (payloadAt row.2) ∧
        PackedRow image payloadOffset row)
    (hprevious : previousEnd ≤ start) :
    EntriesAccepted image payloadOffset i entries previousEnd := by
  induction entries generalizing blocks start i previousEnd with
  | nil => exact .nil
  | cons entry entries ih =>
    obtain ⟨block, blocks, rfl⟩ := List.exists_of_length_succ blocks hlength.symm
    obtain ⟨hentry, hrow⟩ := hrows 0 (entry, (start, block)) rfl
    rw [Nat.add_zero] at hentry
    have hend : (entryAt image i).offset.toNat + (entryAt image i).size.toNat =
        start + block.length := by
      rw [hentry]
      change (payloadAt _).offset.toNat + (payloadAt _).size.toNat = _
      rw [hrow.offset_toNat hlen, hrow.size_toNat hlen]
    refine .cons (hentry ▸ hrow.accepted hlen hprevious) ?_
    rw [hend]
    refine ih blocks (start + roundUp 16 block.length) (i + 1) _ (Nat.succ.inj hlength)
      (fun k row hk => ?_) (Nat.add_le_add_left (le_roundUp _ (by decide)) start)
    rw [Nat.add_assoc, Nat.add_comm 1 k]
    exact hrows (k + 1) row hk

theorem Packable.headerAccepted (h : Packable host irxDirectory m datas) :
    HeaderAccepted (packedImage m datas) m := by
  have hformat := h.imageFormat
  have htable := hformat.table_le
  have hinside := hformat.payload_le
  rw [h.word_count] at htable
  exact ⟨hformat.length_ge, hformat.magic, hformat.version, hformat.headerSize, h.word_count,
    hformat.entrySize, hformat.tableOffset, hformat.fileSize, hformat.flags,
    packedImage_word m datas (k := 8) (by decide), htable, by omega, hformat.payload_aligned⟩

/-- The validator accepts what the packer wrote. -/
theorem Packable.validateImage_ok (h : Packable host irxDirectory m datas) :
    validateImage m (packedImage m datas) = .ok () := by
  rw [(validateImage_iff h.manifest h.image_lt).1, h.word_payload]
  refine ⟨h.headerAccepted, ?_⟩
  refine entriesAccepted_of_placed h.image_lt m.entries datas _ 0 _ h.files.length_eq
    (fun k row hk => ?_) (Nat.le_refl _)
  have hrow : (packedRows m datas)[k]? = some row := hk
  refine ⟨?_, h.row row (List.mem_of_getElem? hrow)⟩
  have hentry : (packedEntries m datas)[k]? = some (tableEntry row.1 (payloadAt row.2)) := by
    rw [packedEntries_eq, List.getElem?_map, hrow, Option.map_some]
  obtain ⟨hlt, hget⟩ := List.getElem?_eq_some_iff.mp hentry
  rw [packedEntries_length h.files.length_eq] at hlt
  rw [← h.decodeTable_eq, decodeTable, List.getElem?_map, List.getElem?_range hlt,
    Option.map_some] at hentry
  rw [Nat.zero_add]
  exact Option.some.inj hentry

/-! ## 4. The table and the payloads behind it -/

structure PackedEntry (image : Bytes) (row : ManifestEntry × Bytes) (e : ImageEntry) : Prop where
  id_eq : e.id = row.1.id
  size_eq : e.size.toNat = row.2.length
  crc_eq : e.crc32 = crc32Bytes row.2
  aligned : e.offset.toNat % 16 = 0
  payload_eq : slice image e.offset.toNat e.size.toNat = row.2

/-- A table with one entry for each row, in order, at increasing offsets that do not overlap. -/
structure PackedTable (image : Bytes) (rows : List (ManifestEntry × Bytes))
    (entries : List ImageEntry) : Prop where
  each : List.Forall₂ (PackedEntry image) rows entries
  ordered : entries.Pairwise fun e f =>
    e.offset < f.offset ∧ e.offset.toNat + e.size.toNat ≤ f.offset.toNat

theorem PackedRow.packedEntry (hrow : PackedRow image start row) (hlen : image.length < 2 ^ 32) :
    PackedEntry image (row.1, row.2.2) (tableEntry row.1 (payloadAt row.2)) := by
  have hoffset := hrow.offset_toNat hlen
  have hsize := hrow.size_toNat hlen
  refine ⟨rfl, hsize, rfl, (hrow.entryFormat hlen).aligned, ?_⟩
  change slice image (payloadAt row.2).offset.toNat (payloadAt row.2).size.toNat = row.2.2
  rw [hoffset, hsize, hrow.slice_eq]

theorem Packable.packedTable (h : Packable host irxDirectory m datas) :
    PackedTable (packedImage m datas) (m.entries.zip datas) (packedEntries m datas) := by
  have hrows : m.entries.zip datas = (packedRows m datas).map fun row => (row.1, row.2.2) := by
    conv_lhs => rw [← place_blocks (a := 16) (payloadStart m.entries.length) datas,
      List.zip_map_right]
    rfl
  constructor
  · rw [hrows, packedEntries_eq, List.forall₂_map_left_iff, List.forall₂_map_right_iff,
      List.forall₂_same]
    exact fun row hrow => (h.row row hrow).packedEntry h.image_lt
  · have hplaces : (packedRows m datas).map Prod.snd =
        place 16 (payloadStart m.entries.length) datas :=
      List.map_snd_zip (Nat.le_of_eq h.place_length)
    have hordered := place_pairwise (payloadStart_dvd m.entries.length) datas
    rw [← hplaces, List.pairwise_map] at hordered
    rw [packedEntries_eq, List.pairwise_map]
    refine hordered.imp_of_mem fun {a b} ha hb hab => ?_
    have hle := le_roundUp a.2.2.length (a := 16) (by decide)
    have hpos := (h.row a ha).nonempty
    have hoffset := (h.row a ha).offset_toNat h.image_lt
    have hsize := (h.row a ha).size_toNat h.image_lt
    have hnext := (h.row b hb).offset_toNat h.image_lt
    change (payloadAt a.2).offset < (payloadAt b.2).offset ∧
      (payloadAt a.2).offset.toNat + (payloadAt a.2).size.toNat ≤ (payloadAt b.2).offset.toNat
    rw [UInt32.lt_iff_toNat_lt, hoffset, hsize, hnext]
    omega

theorem PackedTable.mem {rows : List (ManifestEntry × Bytes)} {entries : List ImageEntry}
    (h : List.Forall₂ (PackedEntry image) rows entries) :
    (∀ e ∈ entries, ∃ row ∈ rows, PackedEntry image row e) ∧
      ∀ row ∈ rows, ∃ e ∈ entries, PackedEntry image row e := by
  induction h with
  | nil => simp
  | @cons row e rows entries hhead _ ih =>
    constructor
    · refine List.forall_mem_cons.mpr ⟨⟨row, List.mem_cons_self, hhead⟩, fun e he => ?_⟩
      obtain ⟨row', hrow', hpacked⟩ := ih.1 e he
      exact ⟨row', List.mem_cons_of_mem row hrow', hpacked⟩
    · refine List.forall_mem_cons.mpr ⟨⟨e, List.mem_cons_self, hhead⟩, fun row' hrow' => ?_⟩
      obtain ⟨e', he', hpacked⟩ := ih.2 row' hrow'
      exact ⟨e', List.mem_cons_of_mem e he', hpacked⟩

/-- What the lookup of an id finds in the packed image. -/
theorem Packable.imageEntry_some (h : Packable host irxDirectory m datas) {id : UInt32}
    {e : ImageEntry} (he : imageEntry (packedImage m datas) id = some e) :
    ∃ row ∈ m.entries.zip datas, row.1.id = id ∧ PackedEntry (packedImage m datas) row e := by
  obtain ⟨hmem, hid⟩ := Ps2Drivers.imageEntry_some he
  rw [h.word_count, h.decodeTable_eq] at hmem
  obtain ⟨row, hrow, hpacked⟩ := (PackedTable.mem h.packedTable.each).1 e hmem
  exact ⟨row, hrow, hpacked.id_eq.symm.trans hid, hpacked⟩

/-- Every module of the manifest is intact in the packed image. -/
theorem Packable.intact (h : Packable host irxDirectory m datas) {entry : ManifestEntry}
    (hentry : entry ∈ m.entries) : ModuleIntact (packedImage m datas) entry.id := by
  obtain ⟨e, he⟩ : ∃ e, imageEntry (packedImage m datas) entry.id = some e := by
    apply imageEntry_of_mem
    rw [h.word_count, h.decodeTable_eq, h.ids_eq]
    exact List.mem_map_of_mem hentry
  obtain ⟨row, -, -, hpacked⟩ := h.imageEntry_some he
  exact ⟨e, he, by rw [entryPayload, hpacked.payload_eq, hpacked.crc_eq]⟩

end

/-! ## 5. The round trip -/

/-- Pack, validate, parse and stage. -/
theorem packImage_roundTrip {host : Host} (hok : host.AllOk) {manifestPath irxDirectory : Bytes}
    {m : Manifest} (hload : loadManifest host manifestPath = .ok m) {datas : List Bytes}
    (hfiles : List.Forall₂ (PayloadFile host irxDirectory) m.entries datas)
    (hfits : layoutSize m.entries.length datas ≤ 2 ^ 32 - 1) :
    ∃ image, packImage host manifestPath irxDirectory = .ok image ∧
      image.length = wordAt image 32 ∧
      (∀ (host' : Host) (manifestPath' imagePath : Bytes), host'.AllOk →
        loadManifest host' manifestPath' = .ok m → host'.file imagePath = some image →
        validateImageInternal host' manifestPath' imagePath = .ok ()) ∧
      (∀ (env : Env) (file : File) (out : EntriesOut) (w : World), env.allOk →
        file.contents = image → ∃ block entries,
          (parseImageEntries env file (UInt32.ofNat image.length) out w).1 =
            (.ok, ⟨some ⟨block, entries⟩, UInt32.ofNat m.entries.length⟩) ∧
          PackedTable image (m.entries.zip datas) entries) ∧
      (∀ (steps : List (Env × ProviderOp)) (env : Env) (path : Bytes) (driverRequirements : UInt32),
        env.allOk → env.file path = some image →
        (runProvider irxId steps World.initial).provider.idle →
        badRequirements driverRequirements = false →
        (∀ module ∈ requiredModules driverRequirements, irxId module ∈ m.entries.map (·.id)) →
        let r := ps2DriversImgStage irxId env (some path) driverRequirements
          (runProvider irxId steps World.initial)
        r.1 = .ok ∧
        (r.2.provider.slots.map (·.id)).Pairwise (· < ·) ∧
        (∀ id, id ∈ r.2.provider.slots.map (·.id) ↔ Requested driverRequirements id) ∧
        ∀ slot ∈ r.2.provider.slots, ∃ row ∈ m.entries.zip datas, row.1.id = slot.id ∧
          slot.data.map (·.bytes) = some row.2) := by
  have h : Packable host irxDirectory m datas :=
    ⟨loadManifest_wellFormed hload, hfiles, by omega⟩
  have hformat := h.imageFormat
  refine ⟨packedImage m datas, packImage_ok hok hload h, h.word_size.symm, ?_, ?_, ?_⟩
  · intro host' manifestPath' imagePath hok' hload' hfile'
    have hne : packedImage m datas ≠ [] := by
      intro hnil
      have := hformat.length_ge
      rw [hnil] at this
      exact absurd this (by decide)
    -- the validator reads back what was written
    have hread := readFile_ok hok' 0 hfile' hne h.image_lt
    rw [validateImageInternal, bind_of_ok hload', bind_of_ok hread]
    exact h.validateImage_ok
  · intro env file out w henv hcontents
    obtain ⟨block, hparsed⟩ := parseImageEntries_format henv file out w (hcontents ▸ hformat)
    rw [hcontents, h.word_count, h.decodeTable_eq] at hparsed
    exact ⟨block, packedEntries m datas, hparsed, h.packedTable⟩
  · intro steps env path driverRequirements henv hfile hidle hmask hall
    obtain ⟨hresult, hslots⟩ := stage_intact steps henv hfile hidle hmask hformat (by
      rintro id ⟨module, hmodule, rfl⟩
      obtain ⟨entry, hentry, hid⟩ := List.mem_map.mp (hall module hmodule)
      rw [← hid]
      exact h.intact hentry)
    refine ⟨hresult, ?_, fun id => ?_, fun slot hslot => ?_⟩
    · rw [slots_ids hslots]
      exact requestedIds_sorted irxId driverRequirements
    · rw [slots_ids hslots]
      exact mem_requestedIds_irxId driverRequirements id
    · obtain ⟨e, data, hentry, hdata, hbytes, -⟩ := slots_payload hslots slot hslot
      obtain ⟨row, hrow, hid, hpacked⟩ := h.imageEntry_some hentry
      refine ⟨row, hrow, hid, ?_⟩
      rw [hdata, Option.map_some, hbytes, hpacked.payload_eq]

theorem packImage_roundTrip_memcard :
    packImage memcardHost (lit "m") (lit "irx") = .ok memcardImage ∧
      memcardImage.length = wordAt memcardImage 32 ∧
      validateImageInternal memcardHost (lit "m") (lit "i") = .ok () ∧
      (∃ block entries,
        (parseImageEntries memcardEnv ⟨0, memcardImage⟩ (UInt32.ofNat memcardImage.length)
            ⟨none, 0⟩ World.initial).1 = (.ok, ⟨some ⟨block, entries⟩, 3⟩) ∧
          PackedTable memcardImage (memcardManifest.entries.zip memcardPayloads) entries) ∧
      let r := ps2DriversImgStage irxId memcardEnv (some (lit "b.irximg")) memcardRequirements
        (runProvider irxId memcardSteps World.initial)
      r.1 = .ok ∧
        (r.2.provider.slots.map (·.id)).Pairwise (· < ·) ∧
        (∀ id, id ∈ r.2.provider.slots.map (·.id) ↔ Requested memcardRequirements id) ∧
        ∀ slot ∈ r.2.provider.slots, ∃ row ∈ memcardManifest.entries.zip memcardPayloads,
          row.1.id = slot.id ∧ slot.data.map (·.bytes) = some row.2 := by
  obtain ⟨image, hpack, hlength, hvalid, hparse, hstage⟩ :=
    packImage_roundTrip (Host.ofFiles_allOk _) memcardHost_loads memcardHost_files (by decide)
  obtain rfl : memcardImage = image := Except.ok.inj (memcardHost_packs.symm.trans hpack)
  exact ⟨hpack, hlength,
    hvalid memcardHost (lit "m") (lit "i") (Host.ofFiles_allOk _) memcardHost_loads
      (by decide +kernel),
    hparse memcardEnv ⟨0, memcardImage⟩ ⟨none, 0⟩ World.initial (fun _ => rfl) rfl,
    hstage memcardSteps memcardEnv (lit "b.irximg") memcardRequirements (fun _ => rfl) rfl
      ⟨by decide +kernel, by decide +kernel⟩ (by decide)
      fun module hmodule => memcardRequirements_packed hmodule⟩

end Ps2Drivers
