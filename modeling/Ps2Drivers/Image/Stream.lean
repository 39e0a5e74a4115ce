import Ps2Drivers.Image.Manifest
import Ps2Drivers.Lib.Encoding

/-!
# What the manifest checksum covers

`manifest_logical_crc` updates the checksum piece by piece.  It is the checksum of one byte
stream, and a manifest can be read back from that stream: the ids have four bytes, the fields are
terminated.
-/

open Binary CString Encoding

namespace Ps2Drivers

/-! ## 1. Checksums of pieces -/

theorem crc32Update_append (crc : UInt32) (front back : Bytes) :
    crc32Update crc (front ++ back) = crc32Update (crc32Update crc front) back := by
  -- the complement that ends one call is undone where the next begins
  rw [crc32Update, crc32Update, crc32Update, UInt32.not_not, List.foldl_append]

/-- However a byte string is cut into consecutive pieces, the checksum is that of the whole. -/
theorem crc32Update_pieces (crc : UInt32) (pieces : List Bytes) :
    pieces.foldl crc32Update crc = crc32Update crc pieces.flatten := by
  induction pieces generalizing crc with
  | nil => exact UInt32.not_not.symm
  | cons piece pieces ih =>
    rw [List.foldl_cons, ih, List.flatten_cons, crc32Update_append]

/-! ## 2. The stream of a manifest -/

/-- The bytes an entry adds: the id and the three fields with their terminators. -/
def ManifestEntry.stream (e : ManifestEntry) : Bytes :=
  writeU32Le e.id ++ ((e.filename ++ [0]) ++ ((e.symbol ++ [0]) ++ (e.name ++ [0])))

def manifestStream (entries : List ManifestEntry) : Bytes := entries.flatMap ManifestEntry.stream

structure ManifestEntry.NulFree (e : ManifestEntry) : Prop where
  filename : 0 ∉ e.filename
  symbol : 0 ∉ e.symbol
  name : 0 ∉ e.name

theorem manifestLogicalCrc_eq (entries : List ManifestEntry) :
    manifestLogicalCrc entries = crc32Bytes (manifestStream entries) := by
  have hentry (crc : UInt32) (e : ManifestEntry) : crc32Update (crc32Update (crc32Update
      (crc32Update crc (writeU32Le e.id)) (e.filename ++ [0])) (e.symbol ++ [0])) (e.name ++ [0]) =
      crc32Update crc e.stream := by
    rw [← crc32Update_append, ← crc32Update_append, ← crc32Update_append, ManifestEntry.stream,
      List.append_assoc, List.append_assoc]
  rw [← crc32Update_zero, manifestStream, List.flatMap_def, ← crc32Update_pieces,
    List.foldl_map, manifestLogicalCrc]
  simp only [hentry]

theorem writeU32Le_prefixFree : PrefixFree (fun _ => True) writeU32Le :=
  .of_length (fun id _ => writeU32Le_length id) fun a b _ _ h => by
    rw [writeU32Le_eq, writeU32Le_eq] at h
    exact UInt32.toNat_inj.mp (leBytes_inj a.toNat_lt b.toNat_lt h)

theorem stream_prefixFree : PrefixFree ManifestEntry.NulFree ManifestEntry.stream := by
  have hfield := prefixFree_terminated (0 : UInt8)
  have hparts : Function.Injective fun e : ManifestEntry => (e.id, e.filename, e.symbol, e.name) := by
    rintro ⟨id, filename, symbol, name⟩ ⟨id', filename', symbol', name'⟩ h
    cases h
    rfl
  have hentry := (writeU32Le_prefixFree.append (hfield.append (hfield.append hfield))).comap hparts
  exact fun e e' he he' => hentry e e' ⟨trivial, he.filename, he.symbol, he.name⟩
    ⟨trivial, he'.filename, he'.symbol, he'.name⟩

/-- The manifest checksum is the checksum of one stream, cutting a byte string into pieces does
not change its checksum, and manifests with one stream are equal. -/
theorem manifestLogicalCrc_encodes {entries entries' : List ManifestEntry}
    (h : ∀ e ∈ entries, e.NulFree) (h' : ∀ e ∈ entries', e.NulFree) :
    manifestLogicalCrc entries = crc32Bytes (manifestStream entries) ∧
      (∀ (crc : UInt32) (pieces : List Bytes),
        pieces.foldl crc32Update crc = crc32Update crc pieces.flatten) ∧
      (∀ pieces : List Bytes, pieces.foldl crc32Update 0 = crc32Bytes pieces.flatten) ∧
      (manifestStream entries = manifestStream entries' → entries = entries') := by
  refine ⟨manifestLogicalCrc_eq entries, crc32Update_pieces, fun pieces => ?_, ?_⟩
  · rw [crc32Update_pieces, crc32Update_zero]
  · -- every entry has an id, so its part of the stream is not empty
    exact stream_prefixFree.flatMap_inj (fun e _ => List.cons_ne_nil _ _) h h'

/-- The bar between two fields moves: another stream. -/
theorem manifestLogicalCrc_encodes_shifted :
    ∃ e e' : ManifestEntry, e.filename ++ e.symbol = e'.filename ++ e'.symbol ∧
      manifestLogicalCrc [e] = crc32Bytes (manifestStream [e]) ∧
      manifestStream [e] ≠ manifestStream [e'] := by
  let e : ManifestEntry := ⟨7, lit "ab", lit "c", lit "d"⟩
  let e' : ManifestEntry := ⟨7, lit "a", lit "bc", lit "d"⟩
  have he : ∀ x ∈ [e], x.NulFree := List.forall_mem_singleton.mpr ⟨by decide, by decide, by decide⟩
  have he' : ∀ x ∈ [e'], x.NulFree :=
    List.forall_mem_singleton.mpr ⟨by decide, by decide, by decide⟩
  obtain ⟨hcrc, -, -, hinj⟩ := manifestLogicalCrc_encodes he he'
  exact ⟨e, e', rfl, hcrc, fun heq => absurd (hinj heq) (by decide)⟩

end Ps2Drivers
