import Mathlib.Data.List.DropRight
import Ps2Drivers.Image.Format
import Ps2Drivers.Lib.Checked

/-!
# The manifest

`load_manifest` of the host tool `ps2_irximg.c` and what it calls: reading lines, trimming,
splitting at bars, parsing the id, copying the fields, the manifest checksum.  A message on the
standard error stream is a `HostError`; every one of them is a failing exit.
-/

open Binary CString Checked

namespace Ps2Drivers

/-! ## 1. Errors and environment -/

/-- The failing exits of the host tool, one for each message.  `readOutside` is the one that the C
code does not have: a read outside the image, which has no defined result. -/
inductive HostError
  | openManifest
  | fieldCount (line : Nat)
  | tooManyEntries
  | invalidId (line : Nat)
  | duplicateId (line : Nat) (id : UInt32)
  | invalidField (line : Nat) (field : Bytes)
  | readManifest
  | noEntries
  | openFile
  | seekFile
  | invalidFileSize
  | rewindFile
  | outOfMemory
  | shortRead
  | pathTooLong
  | tableTooLarge
  | imageTooLarge
  | createOutput
  | writeHeader
  | writeEntry (index : Nat)
  | writeTablePadding
  | writePayload (filename : Bytes)
  | finalizeOutput
  | imageTooSmall
  | imageMagic
  | imageHeader
  | entryCount
  | declaredSize
  | manifestCrc
  | tableOrPayloadOffset
  | entryId (index : Nat)
  | entryBounds (index : Nat)
  | entryCrc (name : Bytes)
  | readOutside (offset size : Nat)
  deriving DecidableEq, Repr

/-- The steps of `read_file` that can fail. -/
inductive ReadStep
  | fopen
  | seekEnd
  | ftell
  | rewind
  | malloc
  | fread
  deriving DecidableEq, Repr

/-- What the host gives a run of the tool: the contents of files, and which of its calls succeed.
`readOk k` is about the `k`-th file `read_file` reads, `lineOk k` about the `k`-th `fgets`,
`writeOk k` about the `k`-th `fwrite`. -/
structure Host where
  file : Bytes → Option Bytes
  lineOk : Nat → Bool
  readOk : Nat → ReadStep → Bool
  createOk : Bool
  writeOk : Nat → Bool
  closeOk : Bool

structure Host.AllOk (host : Host) : Prop where
  line : ∀ k, host.lineOk k = true
  read : ∀ k step, host.readOk k step = true
  create : host.createOk = true
  write : ∀ k, host.writeOk k = true
  close : host.closeOk = true

def Host.ofFiles (file : Bytes → Option Bytes) : Host where
  file := file
  lineOk _ := true
  readOk _ _ := true
  createOk := true
  writeOk _ := true
  closeOk := true

theorem Host.ofFiles_allOk (file : Bytes → Option Bytes) : (Host.ofFiles file).AllOk :=
  ⟨fun _ => rfl, fun _ _ => rfl, rfl, fun _ => rfl, rfl⟩

/-! ## 2. The manifest -/

def irximgMaxField : Nat := 128

/-- `struct manifest_entry`, each field without its terminator -/
structure ManifestEntry where
  id : UInt32
  filename : Bytes
  symbol : Bytes
  name : Bytes
  deriving DecidableEq, Repr

/-- `struct manifest`; the count is the number of entries. -/
structure Manifest where
  entries : List ManifestEntry
  crc32 : UInt32
  deriving DecidableEq, Repr

def parseU32 (text : Bytes) : Option UInt32 :=
  let parsed := strtoul (2 ^ 64 - 1) text
  if parsed.rangeError || !parsed.converted || parsed.rest != [] || 0xffffffff < parsed.value then
    none
  else some (UInt32.ofNat parsed.value)

def isBlank (c : UInt8) : Bool := c == 32 || c == 9

def isLineEnd (c : UInt8) : Bool := c == 10 || c == 13 || isBlank c

def trimLine (line : Bytes) : Bytes := (line.dropWhile isBlank).rdropWhile isLineEnd

def copyField (src fieldName : Bytes) (lineNumber : Nat) : Except HostError Bytes :=
  if src.length = 0 ∨ src.length ≥ irximgMaxField then .error (.invalidField lineNumber fieldName)
  else .ok src

def manifestLogicalCrc (entries : List ManifestEntry) : UInt32 :=
  entries.foldl (fun crc entry =>
    let crc := crc32Update crc (writeU32Le entry.id)
    let crc := crc32Update crc (entry.filename ++ [0])
    let crc := crc32Update crc (entry.symbol ++ [0])
    crc32Update crc (entry.name ++ [0])) 0

/-- The `strtok` loop: at most `room` more fields, and whether a token is left after them. -/
def collectFields : Nat → Option (Bytes × Bytes) → List Bytes → List Bytes × Bool
  | 0, token, fields => (fields, token.isSome)
  | _ + 1, none, fields => (fields, false)
  | room + 1, some (token, rest), fields => collectFields room (strtok 124 rest) (fields ++ [token])

def loadEntry (lineNumber : Nat) (entries : List ManifestEntry) (f0 f1 f2 f3 : Bytes) :
    Except HostError (List ManifestEntry) :=
  if entries.length ≥ irximgMaxEntries.toNat then .error .tooManyEntries
  else
    match parseU32 f0 with
    | none => .error (.invalidId lineNumber)
    | some id =>
      if id = 0 then .error (.invalidId lineNumber)
      else if entries.any (·.id == id) then .error (.duplicateId lineNumber id)
      else do
        let filename ← copyField f1 (lit "filename") lineNumber
        let symbol ← copyField f2 (lit "symbol") lineNumber
        let name ← copyField f3 (lit "name") lineNumber
        return entries ++ [⟨id, filename, symbol, name⟩]

def loadLine (lineNumber : Nat) (line : Bytes) (entries : List ManifestEntry) :
    Except HostError (List ManifestEntry) :=
  let cursor := trimLine (ofBuffer line)
  if cursor.head? = none ∨ cursor.head? = some 35 then .ok entries
  else
    match collectFields 4 (strtok 124 cursor) [] with
    | ([f0, f1, f2, f3], false) => loadEntry lineNumber entries f0 f1 f2 f3
    | _ => .error (.fieldCount lineNumber)

/-- The line loop; a failing `fgets` ends it, and the check of `ferror` after it fails. -/
def loadLines (host : Host) : Nat → List Bytes → List ManifestEntry →
    Except HostError (List ManifestEntry)
  | k, [], entries => if host.lineOk k then .ok entries else .error .readManifest
  | k, line :: lines, entries =>
    if host.lineOk k then do
      loadLines host (k + 1) lines (← loadLine (k + 1) line entries)
    else .error .readManifest

def loadManifest (host : Host) (path : Bytes) : Except HostError Manifest :=
  match host.file path with
  | none => .error .openManifest
  | some text => do
    let entries ← loadLines host 0 (readLines 512 text.length text) []
    if entries.length = 0 then .error .noEntries
    else return ⟨entries, manifestLogicalCrc entries⟩

theorem loadLines_congr {host host' : Host} (hline : host.lineOk = host'.lineOk) (k : Nat)
    (lines : List Bytes) (entries : List ManifestEntry) :
    loadLines host k lines entries = loadLines host' k lines entries := by
  induction lines generalizing k entries with
  | nil => rw [loadLines, loadLines, hline]
  | cons line lines ih =>
    rw [loadLines, loadLines, hline]
    simp only [ih]

/-- The loader reads one file. -/
theorem loadManifest_congr {host host' : Host} {path : Bytes}
    (hfile : host.file path = host'.file path) (hline : host.lineOk = host'.lineOk) :
    loadManifest host path = loadManifest host' path := by
  rw [loadManifest, loadManifest, hfile]
  simp only [loadLines_congr hline]

/-! ## 3. What an accepted manifest satisfies -/

/-- A field as `copy_field` lets it through. -/
def FieldFits (field : Bytes) : Prop := 1 ≤ field.length ∧ field.length < irximgMaxField

instance (field : Bytes) : Decidable (FieldFits field) := inferInstanceAs (Decidable (_ ∧ _))

/-- A manifest entry as `load_manifest` stores it. -/
structure ManifestEntry.WellFormed (e : ManifestEntry) : Prop where
  id_ne_zero : e.id ≠ 0
  filename : FieldFits e.filename
  symbol : FieldFits e.symbol
  name : FieldFits e.name

/-- The entries loaded so far: the invariant of the line loop. -/
structure EntriesWellFormed (entries : List ManifestEntry) : Prop where
  length_le : entries.length ≤ 128
  each : ∀ e ∈ entries, e.WellFormed
  distinct : (entries.map (·.id)).Nodup

theorem EntriesWellFormed.nil : EntriesWellFormed [] :=
  ⟨Nat.zero_le _, by simp, List.nodup_nil⟩

/-- A manifest as `load_manifest` accepts it. -/
structure Manifest.WellFormed (m : Manifest) : Prop where
  length_pos : 1 ≤ m.entries.length
  entries : EntriesWellFormed m.entries
  crc : m.crc32 = manifestLogicalCrc m.entries

theorem copyField_ok {src fieldName field : Bytes} {lineNumber : Nat}
    (h : copyField src fieldName lineNumber = .ok field) : field = src ∧ FieldFits field := by
  unfold copyField at h
  split at h
  · cases h
  · rename_i hfits
    cases h
    rw [not_or] at hfits
    exact ⟨rfl, by omega, by omega⟩

theorem loadEntry_ok {lineNumber : Nat} {entries entries' : List ManifestEntry}
    {f0 f1 f2 f3 : Bytes} (hentries : EntriesWellFormed entries)
    (h : loadEntry lineNumber entries f0 f1 f2 f3 = .ok entries') : EntriesWellFormed entries' := by
  rw [loadEntry, guard_ok] at h
  obtain ⟨hroom, h⟩ := h
  cases hid : parseU32 f0 with
  | none =>
    rw [hid] at h
    cases h
  | some id =>
    rw [hid] at h
    dsimp only at h
    rw [guard_ok, guard_ok] at h
    obtain ⟨hzero, hnew, h⟩ := h
    obtain ⟨filename, hfilename, h⟩ := bind_ok.mp h
    obtain ⟨symbol, hsymbol, h⟩ := bind_ok.mp h
    obtain ⟨name, hname, h⟩ := bind_ok.mp h
    cases h
    have hentry : ManifestEntry.WellFormed ⟨id, filename, symbol, name⟩ :=
      ⟨hzero, (copyField_ok hfilename).2, (copyField_ok hsymbol).2, (copyField_ok hname).2⟩
    -- the loop's own checks are the three conditions
    refine ⟨?_, ?_, ?_⟩
    · rw [List.length_append, List.length_singleton]
      change ¬ 128 ≤ entries.length at hroom
      omega
    · exact List.forall_mem_append.mpr ⟨hentries.each, List.forall_mem_singleton.mpr hentry⟩
    · rw [List.map_append, List.nodup_append]
      refine ⟨hentries.distinct, List.pairwise_singleton _ _, ?_⟩
      rintro a ha b hb rfl
      obtain ⟨e, he, hea⟩ := List.mem_map.mp ha
      obtain rfl := List.mem_singleton.mp hb
      exact hnew (List.any_eq_true.mpr ⟨e, he, by simpa using hea⟩)

theorem loadLine_ok {lineNumber : Nat} {line : Bytes} {entries entries' : List ManifestEntry}
    (hentries : EntriesWellFormed entries) (h : loadLine lineNumber line entries = .ok entries') :
    EntriesWellFormed entries' := by
  dsimp only [loadLine] at h
  split at h
  · cases h
    exact hentries
  · split at h
    · exact loadEntry_ok hentries h
    · cases h

theorem loadLines_ok {host : Host} {k : Nat} {lines : List Bytes}
    {entries entries' : List ManifestEntry} (hentries : EntriesWellFormed entries)
    (h : loadLines host k lines entries = .ok entries') : EntriesWellFormed entries' := by
  induction lines generalizing k entries with
  | nil =>
    rw [loadLines] at h
    split at h
    · cases h
      exact hentries
    · cases h
  | cons line lines ih =>
    rw [loadLines] at h
    split at h
    · obtain ⟨next, hnext, h⟩ := bind_ok.mp h
      exact ih (loadLine_ok hentries hnext) h
    · cases h

/-- `load_manifest` accepts well-formed manifests only. -/
theorem loadManifest_wellFormed {host : Host} {path : Bytes} {m : Manifest}
    (h : loadManifest host path = .ok m) : m.WellFormed := by
  unfold loadManifest at h
  split at h
  · cases h
  · obtain ⟨entries, hentries, h⟩ := bind_ok.mp h
    obtain ⟨hne, h⟩ := guard_ok.mp h
    cases h
    exact ⟨Nat.one_le_iff_ne_zero.mpr hne,
      loadLines_ok .nil hentries, rfl⟩

/-! ## 4. Errors -/

def HostError.outside : HostError → Bool
  | .readOutside _ _ => true
  | _ => false

def NotOutside {α : Type} (x : Except HostError α) : Prop := ∀ e, x = .error e → e.outside = false

theorem NotOutside.ok {α : Type} (a : α) : NotOutside (.ok a) := fun _ h => by cases h

theorem NotOutside.error {α : Type} {e : HostError} (h : e.outside = false) :
    NotOutside (.error e : Except HostError α) := fun _ he => by cases he; exact h

theorem NotOutside.bind {α β : Type} {x : Except HostError α} {f : α → Except HostError β}
    (hx : NotOutside x) (hf : ∀ a, NotOutside (f a)) : NotOutside (x >>= f) := by
  cases x with
  | error e => exact fun e' he => by cases he; exact hx e rfl
  | ok a => exact hf a

theorem NotOutside.branch {α : Type} {c : Prop} [Decidable c] {x y : Except HostError α}
    (hx : NotOutside x) (hy : NotOutside y) : NotOutside (if c then x else y) := by
  split
  · exact hx
  · exact hy

theorem copyField_notOutside (src fieldName : Bytes) (lineNumber : Nat) :
    NotOutside (copyField src fieldName lineNumber) :=
  .branch (.error rfl) (.ok src)

theorem loadEntry_notOutside (lineNumber : Nat) (entries : List ManifestEntry)
    (f0 f1 f2 f3 : Bytes) : NotOutside (loadEntry lineNumber entries f0 f1 f2 f3) := by
  refine .branch (.error rfl) ?_
  cases parseU32 f0 with
  | none => exact .error rfl
  | some id =>
    refine .branch (.error rfl) (.branch (.error rfl) ?_)
    refine .bind (copyField_notOutside _ _ _) fun filename => ?_
    refine .bind (copyField_notOutside _ _ _) fun symbol => ?_
    exact .bind (copyField_notOutside _ _ _) fun name => .ok _

theorem loadLine_notOutside (lineNumber : Nat) (line : Bytes) (entries : List ManifestEntry) :
    NotOutside (loadLine lineNumber line entries) := by
  refine .branch (.ok entries) ?_
  split
  · exact loadEntry_notOutside lineNumber entries _ _ _ _
  · exact .error rfl

theorem loadLines_notOutside (host : Host) (k : Nat) (lines : List Bytes)
    (entries : List ManifestEntry) : NotOutside (loadLines host k lines entries) := by
  induction lines generalizing k entries with
  | nil => exact .branch (.ok entries) (.error rfl)
  | cons line lines ih =>
    exact .branch (.bind (loadLine_notOutside _ _ _) fun next => ih (k + 1) next) (.error rfl)

theorem loadManifest_notOutside (host : Host) (path : Bytes) :
    NotOutside (loadManifest host path) := by
  unfold loadManifest
  split
  · exact .error rfl
  · exact .bind (loadLines_notOutside host 0 _ []) fun entries => .branch (.error rfl) (.ok _)

end Ps2Drivers
