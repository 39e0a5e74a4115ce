import Ps2Drivers.Image.Validate
import Ps2Drivers.Provider.Run
import Mathlib.Order.CompletePartialOrder
import Mathlib.Order.Interval.Set.Disjoint

/-!
# The validator and the runtime reader

The host tool and the console read the same format with different checks: the validator never
compares the payload offset or an entry's offset with the size of the image, nor the ids with each
other, and the runtime never looks at the manifest or at overlaps.  What the validator accepts is
in the format all the same, so the runtime accepts it too.
-/

open Binary CString Checked

namespace Ps2Drivers

/-! ## 1. The table of an accepted image -/

def ImageEntry.payloadRange (e : ImageEntry) : Set Nat :=
  Set.Ico e.offset.toNat (e.offset.toNat + e.size.toNat)

/-- What is known of the table once its entries are accepted one after another. -/
structure AcceptedTable (image : Bytes) (payloadOffset previousEnd : Nat)
    (entries : List ManifestEntry) (table : List ImageEntry) : Prop where
  ids : table.map (·.id) = entries.map (·.id)
  format : ∀ e ∈ table, EntryFormat image.length payloadOffset e
  intact : ∀ e ∈ table, crc32Bytes (entryPayload image e) = e.crc32
  after : ∀ e ∈ table, previousEnd ≤ e.offset.toNat
  ordered : table.Pairwise fun e f => e.offset.toNat + e.size.toNat ≤ f.offset.toNat

theorem decodeTable_eq_range' (image : Bytes) (n : Nat) :
    decodeTable image n = (List.range' 0 n).map (entryAt image) := by
  rw [decodeTable, List.range_eq_range']
  rfl

theorem EntryAccepted.format {image : Bytes} {payloadOffset previousEnd : Nat} {id : UInt32}
    {e : ImageEntry} (h : EntryAccepted image payloadOffset previousEnd id e) (hid : id ≠ 0) :
    EntryFormat image.length payloadOffset e := by
  have hne : e.id.toNat ≠ 0 := by
    rw [h.shape.id_eq]
    exact (toNat_ne_zero_iff id).mpr hid
  exact ⟨hne, h.shape.size_ne_zero, h.shape.flags_eq, h.shape.aligned, h.shape.offset_ge, h.bounded⟩

/-- The entry loop's invariant, from entry `i` on: `previousEnd` bounds every offset to come. -/
theorem EntriesAccepted.table {image : Bytes} {payloadOffset i previousEnd : Nat}
    {entries : List ManifestEntry}
    (h : EntriesAccepted image payloadOffset i entries previousEnd)
    (hids : ∀ entry ∈ entries, entry.id ≠ 0) :
    AcceptedTable image payloadOffset previousEnd entries
      ((List.range' i entries.length).map (entryAt image)) := by
  induction h with
  | nil => exact ⟨rfl, by simp, by simp, by simp, List.Pairwise.nil⟩
  | @cons i _ entry _ head _ ih =>
    have hrest := ih fun entry' hmem => hids entry' (List.mem_cons_of_mem entry hmem)
    have hformat := head.format (hids entry List.mem_cons_self)
    rw [List.length_cons, List.range'_succ, List.map_cons]
    constructor
    · rw [List.map_cons, List.map_cons, hrest.ids, head.shape.id_eq]
    · exact List.forall_mem_cons.mpr ⟨hformat, hrest.format⟩
    · exact List.forall_mem_cons.mpr ⟨head.intact, hrest.intact⟩
    · refine List.forall_mem_cons.mpr ⟨head.shape.ordered, fun e he => ?_⟩
      -- the end of the head lies between the two
      have hordered := head.shape.ordered
      have hafter := hrest.after e he
      omega
    · exact List.pairwise_cons.mpr ⟨hrest.after, hrest.ordered⟩

section

variable {m : Manifest} {image : Bytes}

/-- The table that the runtime decodes is the one that the validator walked. -/
theorem HeaderAccepted.table (h : HeaderAccepted image m) (hm : m.WellFormed)
    (hentries : EntriesAccepted image (wordAt image 28) 0 m.entries (wordAt image 28)) :
    AcceptedTable image (wordAt image 28) (wordAt image 28) m.entries
      (decodeTable image (wordAt image 16)) := by
  rw [h.entryCount, decodeTable_eq_range']
  exact hentries.table fun entry hentry => (hm.entries.each entry hentry).id_ne_zero

/-! ## 2. The conditions only the runtime checks -/

/-- The payload area starts inside the image: the first entry starts there or later, and ends
inside. -/
theorem EntriesAccepted.payload_le {payloadOffset i previousEnd : Nat}
    {entries : List ManifestEntry}
    (h : EntriesAccepted image payloadOffset i entries previousEnd)
    (hpos : 1 ≤ entries.length) : payloadOffset ≤ image.length := by
  cases h with
  | nil => exact absurd hpos (by decide)
  | cons head _ =>
    have hlow := head.shape.offset_ge
    have hhigh := head.bounded
    omega

theorem HeaderAccepted.imageFormat (h : HeaderAccepted image m) (hm : m.WellFormed)
    (hentries : EntriesAccepted image (wordAt image 28) 0 m.entries (wordAt image 28)) :
    ImageFormat image := by
  have htable := h.table hm hentries
  have hcount : 1 ≤ wordAt image 16 ∧ wordAt image 16 ≤ 128 := by
    rw [h.entryCount]
    exact ⟨hm.length_pos, hm.entries.length_le⟩
  have htableLe : 44 + 20 * wordAt image 16 ≤ wordAt image 28 := by
    rw [h.entryCount]
    exact h.table_le
  -- the validator compares every id with the manifest's, and those are distinct
  have hdistinct : ((decodeTable image (wordAt image 16)).map (·.id)).Nodup := by
    rw [htable.ids]
    exact hm.entries.distinct
  exact ⟨h.magic, h.version, h.headerSize, h.entrySize, h.tableOffset, h.flags, h.fileSize,
    hcount.1, hcount.2, htableLe, hentries.payload_le hm.length_pos, h.payload_aligned,
    htable.format, hdistinct⟩

theorem AcceptedTable.moduleIntact {payloadOffset previousEnd : Nat} {entries : List ManifestEntry}
    (h : AcceptedTable image payloadOffset previousEnd entries
      (decodeTable image (wordAt image 16))) {id : UInt32} (hid : id ∈ entries.map (·.id)) :
    ModuleIntact image id := by
  rw [← h.ids] at hid
  obtain ⟨found, hfound⟩ := imageEntry_of_mem hid
  exact ⟨found, hfound, h.intact found (imageEntry_some hfound).1⟩

/-- Ranges that follow one another have no byte in common. -/
theorem AcceptedTable.disjoint {payloadOffset previousEnd : Nat} {entries : List ManifestEntry}
    {table : List ImageEntry} (h : AcceptedTable image payloadOffset previousEnd entries table) :
    table.Pairwise fun e f => Disjoint e.payloadRange f.payloadRange := by
  refine h.ordered.imp fun {e f} hle => ?_
  rw [ImageEntry.payloadRange, ImageEntry.payloadRange, Set.Ico_disjoint_Ico]
  omega

end

/-! ## 3. Acceptance carries over -/

/-- What `validate_image_internal` reads when it returns 0. -/
theorem validateImageInternal_ok {host : Host} {manifestPath imagePath : Bytes}
    (h : validateImageInternal host manifestPath imagePath = .ok ()) :
    ∃ m image, loadManifest host manifestPath = .ok m ∧ readFile host 0 imagePath = .ok image ∧
      validateImage m image = .ok () := by
  obtain ⟨m, hload, h⟩ := bind_ok.mp h
  obtain ⟨image, hread, h⟩ := bind_ok.mp h
  exact ⟨m, image, hload, hread, h⟩

/-- An image that the host accepts, the console accepts: it parses, with the manifest's ids in
order and its payloads apart, and an idle provider stages from it whatever the manifest lists. -/
theorem validated_image_accepted {host : Host} {manifestPath imagePath : Bytes}
    (hvalid : validateImageInternal host manifestPath imagePath = .ok ()) :
    ∃ m image, loadManifest host manifestPath = .ok m ∧ host.file imagePath = some image ∧
      (∀ (env : Env) (file : File) (out : EntriesOut) (w : World), env.allOk →
        file.contents = image → ∃ block entries,
          (parseImageEntries env file (UInt32.ofNat image.length) out w).1 =
            (.ok, ⟨some ⟨block, entries⟩, UInt32.ofNat m.entries.length⟩) ∧
          entries.map (·.id) = m.entries.map (·.id) ∧
          (∀ e ∈ entries, e.offset.toNat + e.size.toNat ≤ image.length) ∧
          entries.Pairwise fun e f => Disjoint e.payloadRange f.payloadRange) ∧
      ∀ (steps : List (Env × ProviderOp)) (env : Env) (path : Bytes) (driverRequirements : UInt32),
        env.allOk → env.file path = some image →
        (runProvider irxId steps World.initial).provider.idle →
        badRequirements driverRequirements = false →
        (∀ module ∈ requiredModules driverRequirements, irxId module ∈ m.entries.map (·.id)) →
        (ps2DriversImgStage irxId env (some path) driverRequirements
          (runProvider irxId steps World.initial)).1 = .ok := by
  obtain ⟨m, image, hload, hread, hok⟩ := validateImageInternal_ok hvalid
  obtain ⟨hfile, -, hlen⟩ := readFile_eq_ok hread
  have hm := loadManifest_wellFormed hload
  obtain ⟨hheader, hentries⟩ := (validateImage_iff hm hlen).1.mp hok
  have htable := hheader.table hm hentries
  have hformat := hheader.imageFormat hm hentries
  refine ⟨m, image, hload, hfile, ?_, ?_⟩
  · intro env file out w henv hcontents
    obtain ⟨block, hparsed⟩ := parseImageEntries_format henv file out w (hcontents ▸ hformat)
    rw [hcontents, hheader.entryCount] at hparsed
    rw [hheader.entryCount] at htable
    exact ⟨block, _, hparsed, htable.ids, fun e he => (htable.format e he).bounded,
      htable.disjoint⟩
  · intro steps env path driverRequirements henv hpath hidle hmask hall
    refine (stage_intact steps henv hpath hidle hmask hformat ?_).1
    rintro id ⟨module, hmodule, rfl⟩
    exact htable.moduleIntact (hall module hmodule)

theorem validated_image_accepted_memcard :
    validateImageInternal memcardHost (lit "m") (lit "i") = .ok () ∧
      (∃ block entries,
        (parseImageEntries memcardEnv ⟨0, memcardImage⟩ (UInt32.ofNat memcardImage.length)
            ⟨none, 0⟩ World.initial).1 = (.ok, ⟨some ⟨block, entries⟩, 3⟩) ∧
          entries.map (·.id) = [5, 1, 4] ∧
          entries.Pairwise fun e f => Disjoint e.payloadRange f.payloadRange) ∧
      (ps2DriversImgStage irxId memcardEnv (some (lit "i")) memcardRequirements
        (runProvider irxId memcardSteps World.initial)).1 = .ok := by
  have hvalid : validateImageInternal memcardHost (lit "m") (lit "i") = .ok () := by
    decide +kernel
  obtain ⟨m, image, hload, hfile, hparse, hstage⟩ := validated_image_accepted hvalid
  obtain rfl : memcardManifest = m := Except.ok.inj (memcardHost_loads.symm.trans hload)
  obtain rfl : memcardImage = image := Option.some.inj hfile
  obtain ⟨block, entries, hparsed, hids, -, hdisjoint⟩ :=
    hparse memcardEnv ⟨0, memcardImage⟩ ⟨none, 0⟩ World.initial (fun _ => rfl) rfl
  exact ⟨hvalid, ⟨block, entries, hparsed, hids, hdisjoint⟩,
    hstage memcardSteps memcardEnv (lit "i") memcardRequirements (fun _ => rfl) rfl
      ⟨by decide +kernel, by decide +kernel⟩ (by decide)
      fun module hmodule => memcardRequirements_packed hmodule⟩

end Ps2Drivers
