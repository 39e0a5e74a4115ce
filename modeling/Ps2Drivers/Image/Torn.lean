import Ps2Drivers.Lib.Appending
import Ps2Drivers.Image.Accept
import Ps2Drivers.Image.Wrap

/-!
# What an interrupted packer leaves

`pack_image` writes its output in pieces and stops at the first one that fails, or finds at the end
that the file cannot be closed.  What is in the file then is a prefix of the image, and no prefix but
the whole image is accepted.
-/

open Binary CString Checked Layout Stopping

namespace Ps2Drivers

/-! ## 1. The packer, with the file it leaves -/

/-- The writing half of the packer; the output holds what has been handed to `fwrite`, of which a
failing one may write any part. -/
abbrev WriteM := Stopping HostError Output

def fwriteTo (host : Host) (error : HostError) (data : Bytes) : WriteM Unit := do
  let output ← getThe Output
  set (⟨output.bytes ++ data, output.writes + 1⟩ : Output)
  if host.writeOk output.writes then
    pure ()
  else
    throw error

def writeZerosLoopTo (host : Host) (error : HostError) : Nat → UInt32 → WriteM Unit
  | 0, _ => pure ()
  | fuel + 1, count =>
    if count > 0 then do
      let chunk := if count > 64 then 64 else count
      fwriteTo host error (List.replicate chunk.toNat 0)
      writeZerosLoopTo host error fuel (count - chunk)
    else
      pure ()

def writeZerosTo (host : Host) (error : HostError) (count : UInt32) : WriteM Unit :=
  writeZerosLoopTo host error (count.toNat / 64 + 1) count

def writeEntriesTo (host : Host) : Nat → List (ManifestEntry × Payload) → WriteM Unit
  | _, [] => pure ()
  | i, (entry, payload) :: rest => do
    fwriteTo host (.writeEntry i) (encodeEntry (tableEntry entry payload))
    writeEntriesTo host (i + 1) rest

def writePayloadsTo (host : Host) : List (ManifestEntry × Payload) → WriteM Unit
  | [] => pure ()
  | (entry, payload) :: rest => do
    let last := payload.offset + payload.size
    let alignedEnd := alignUpU32 last irximgAlignment
    fwriteTo host (.writePayload entry.filename) payload.data
    writeZerosTo host (.writePayload entry.filename) (alignedEnd - last)
    writePayloadsTo host rest

def writeImageTo (host : Host) (manifest : Manifest) (payloads : List Payload)
    (payloadOffset fileSize : UInt32) : WriteM Unit := do
  let count := UInt32.ofNat manifest.entries.length
  let rows := manifest.entries.zip payloads
  let tableEnd := irximgHeaderSize + count * irximgEntrySize
  fwriteTo host .writeHeader (imageHeader count payloadOffset fileSize manifest.crc32)
  writeEntriesTo host 0 rows
  if payloadOffset < tableEnd then
    throw .writeTablePadding
  else
    writeZerosTo host .writeTablePadding (payloadOffset - tableEnd)
    writePayloadsTo host rows
    if host.closeOk then
      pure ()
    else
      throw .finalizeOutput

/-- `pack_image`: its result, and what it has handed to the output file, once that is created. -/
def packImageTo (host : Host) (manifestPath irxDirectory : Bytes) :
    Except HostError Unit × Option Bytes :=
  match loadManifest host manifestPath with
  | .error e => (.error e, none)
  | .ok manifest =>
    if manifest.entries.length > ((0xffffffff - irximgHeaderSize) / irximgEntrySize).toNat then
      (.error .tableTooLarge, none)
    else
      let payloadOffset := alignUpU32
        (irximgHeaderSize + UInt32.ofNat manifest.entries.length * irximgEntrySize)
        irximgAlignment
      match layoutPayloads host irxDirectory 0 manifest.entries payloadOffset with
      | .error e => (.error e, none)
      | .ok (payloads, fileSize) =>
        if host.createOk then
          let r := (writeImageTo host manifest payloads payloadOffset fileSize).run ⟨[], 0⟩
          (r.1, some r.2.bytes)
        else
          (.error .createOutput, none)

/-- What may be in the output file afterwards: all of what it was handed when the packer returns
zero, any first part of it otherwise. -/
structure PackLeaves (host : Host) (manifestPath irxDirectory left : Bytes) : Prop where
  handed : ∃ handed, (packImageTo host manifestPath irxDirectory).2 = some handed ∧
    left <+: handed ∧ ((packImageTo host manifestPath irxDirectory).1 = .ok () → left = handed)

/-! ## 2. The two packers agree -/

/-- The computation succeeds, with the same output, where the function on outputs does, and fails
with its error where it fails. -/
structure Agrees (m : WriteM Unit) (f : Output → Except HostError Output) : Prop where
  ok : ∀ output output', f output = .ok output' → m.run output = (.ok (), output')
  error : ∀ output e, f output = .error e → (m.run output).1 = .error e

section

variable {m n : WriteM Unit} {f g : Output → Except HostError Output} (host : Host)

theorem Agrees.bind (hm : Agrees m f) (hn : Agrees n g) :
    Agrees (m >>= fun _ => n) fun output => f output >>= g := by
  constructor
  · intro output output' h
    obtain ⟨between, hf, hg⟩ := bind_ok.mp h
    rw [run_bind_ok (hm.ok output between hf)]
    exact hn.ok between output' hg
  · intro output e h
    cases hf : f output with
    | ok between =>
      rw [bind_of_ok hf] at h
      rw [run_bind_ok (hm.ok output between hf)]
      exact hn.error between e h
    | error e' =>
      rw [hf] at h
      obtain rfl : e' = e := Except.error.inj h
      have hfirst := hm.error output e' hf
      rcases hrun : m.run output with ⟨r, t⟩
      rw [hrun] at hfirst
      change r = .error e' at hfirst
      subst hfirst
      rw [run_bind_error hrun]

theorem Agrees.branch {c : Prop} [Decidable c] (hm : Agrees m f) (hn : Agrees n g) :
    Agrees (if c then m else n) fun output => if c then f output else g output := by
  by_cases hc : c
  · simp only [if_pos hc]
    exact hm
  · simp only [if_neg hc]
    exact hn

theorem agrees_pure : Agrees (pure ()) .ok :=
  ⟨fun _ _ h => by cases h; rfl, nofun⟩

theorem agrees_throw (e : HostError) : Agrees (throw e) fun _ => .error e :=
  ⟨nofun, fun _ _ h => by cases h; rfl⟩

theorem fwriteTo_run (error : HostError) (data : Bytes) (output : Output) :
    (fwriteTo host error data).run output =
      (if host.writeOk output.writes then .ok () else .error error,
        ⟨output.bytes ++ data, output.writes + 1⟩) := by
  show (if host.writeOk output.writes then pure () else throw error : WriteM Unit).run
    (⟨output.bytes ++ data, output.writes + 1⟩ : Output) = _
  cases host.writeOk output.writes <;> rfl

theorem fwriteTo_agrees (error : HostError) (data : Bytes) :
    Agrees (fwriteTo host error data) fun output => orFail error (fwrite host data output) := by
  constructor
  · intro output output' h
    rw [fwriteTo_run]
    unfold fwrite at h
    cases hwrite : host.writeOk output.writes with
    | true =>
      rw [hwrite] at h
      cases h
      rfl
    | false =>
      rw [hwrite] at h
      cases h
  · intro output e h
    rw [fwriteTo_run]
    unfold fwrite at h
    cases hwrite : host.writeOk output.writes with
    | true =>
      rw [hwrite] at h
      cases h
    | false =>
      rw [hwrite] at h
      cases h
      rfl

theorem writeZerosLoopTo_agrees (error : HostError) (fuel : Nat) (count : UInt32) :
    Agrees (writeZerosLoopTo host error fuel count) fun output =>
      orFail error (writeZerosLoop host fuel count output) := by
  induction fuel generalizing count with
  | zero => exact agrees_pure
  | succ fuel ih =>
    have hround (chunk : UInt32) :=
      (fwriteTo_agrees host error (List.replicate chunk.toNat 0)).bind (ih (count - chunk))
    have hloop : (fun output => orFail error (writeZerosLoop host (fuel + 1) count output)) =
        fun output => if count > 0 then
            orFail error (fwrite host
              (List.replicate (if count > 64 then 64 else count).toNat 0) output) >>=
              fun output => orFail error (writeZerosLoop host fuel
                (count - if count > 64 then 64 else count) output)
          else .ok output := by
      funext output
      rw [writeZerosLoop]
      by_cases hpos : count > 0
      · rw [if_pos hpos, if_pos hpos]
        dsimp only
        cases fwrite host (List.replicate (if count > 64 then 64 else count).toNat 0) output <;> rfl
      · rw [if_neg hpos, if_neg hpos]
        rfl
    rw [hloop]
    exact (hround _).branch agrees_pure

theorem writeZerosTo_agrees (error : HostError) (count : UInt32) :
    Agrees (writeZerosTo host error count) fun output =>
      orFail error (writeZeros host count output) := writeZerosLoopTo_agrees host error _ count

theorem writeEntriesTo_agrees (rows : List (ManifestEntry × Payload)) (i : Nat) :
    Agrees (writeEntriesTo host i rows) (writeEntries host i rows) := by
  induction rows generalizing i with
  | nil => exact agrees_pure
  | cons row rows ih => exact (fwriteTo_agrees host _ _).bind (ih (i + 1))

theorem writePayloadsTo_agrees (rows : List (ManifestEntry × Payload)) :
    Agrees (writePayloadsTo host rows) (writePayloads host rows) := by
  induction rows with
  | nil => exact agrees_pure
  | cons row rows ih =>
    exact (fwriteTo_agrees host _ _).bind ((writeZerosTo_agrees host _ _).bind ih)

variable (manifest : Manifest) (payloads : List Payload) (payloadOffset fileSize : UInt32)

/-- `writeImage` up to its last step, which returns the bytes of the output. -/
def writeOutput (output : Output) : Except HostError Output := do
  let count := UInt32.ofNat manifest.entries.length
  let rows := manifest.entries.zip payloads
  let tableEnd := irximgHeaderSize + count * irximgEntrySize
  let output ← orFail .writeHeader
    (fwrite host (imageHeader count payloadOffset fileSize manifest.crc32) output)
  let output ← writeEntries host 0 rows output
  if payloadOffset < tableEnd then .error .writeTablePadding
  else do
    let output ← orFail .writeTablePadding (writeZeros host (payloadOffset - tableEnd) output)
    let output ← writePayloads host rows output
    if host.closeOk then .ok output else .error .finalizeOutput

theorem writeImage_eq : writeImage host manifest payloads payloadOffset fileSize =
    (writeOutput host manifest payloads payloadOffset fileSize ⟨[], 0⟩).map Output.bytes := by
  unfold writeImage writeOutput
  dsimp only
  cases orFail .writeHeader (fwrite host (imageHeader (UInt32.ofNat manifest.entries.length)
      payloadOffset fileSize manifest.crc32) ⟨[], 0⟩) with
  | error e => rfl
  | ok header =>
    rw [bind_of_ok rfl, bind_of_ok rfl]
    cases writeEntries host 0 (manifest.entries.zip payloads) header with
    | error e => rfl
    | ok table =>
      rw [bind_of_ok rfl, bind_of_ok rfl]
      split
      · rfl
      · cases orFail .writeTablePadding (writeZeros host (payloadOffset -
            (irximgHeaderSize + UInt32.ofNat manifest.entries.length * irximgEntrySize)) table) with
        | error e => rfl
        | ok front =>
          rw [bind_of_ok rfl, bind_of_ok rfl]
          cases writePayloads host (manifest.entries.zip payloads) front with
          | error e => rfl
          | ok whole =>
            rw [bind_of_ok rfl, bind_of_ok rfl]
            split <;> rfl

theorem writeImageTo_agrees : Agrees (writeImageTo host manifest payloads payloadOffset fileSize)
    (writeOutput host manifest payloads payloadOffset fileSize) := by
  have hclose : Agrees (if host.closeOk then pure () else throw .finalizeOutput) fun output =>
      if host.closeOk then .ok output else .error .finalizeOutput :=
    agrees_pure.branch (agrees_throw _)
  refine (fwriteTo_agrees host _ _).bind ((writeEntriesTo_agrees host _ 0).bind ?_)
  exact (agrees_throw _).branch <| (writeZerosTo_agrees host _ _).bind <|
    (writePayloadsTo_agrees host _).bind hclose

end

/-- The packer with its file returns what the packer returns, and hands over the image. -/
theorem packImageTo_refines (host : Host) (manifestPath irxDirectory : Bytes) :
    (∀ image, packImage host manifestPath irxDirectory = .ok image →
      packImageTo host manifestPath irxDirectory = (.ok (), some image)) ∧
    ∀ e, packImage host manifestPath irxDirectory = .error e →
      (packImageTo host manifestPath irxDirectory).1 = .error e := by
  unfold packImage packImageTo
  -- before the file is opened both do the same; after that they agree step by step
  cases loadManifest host manifestPath with
  | error e => exact ⟨nofun, fun _ h => by cases h; rfl⟩
  | ok manifest =>
    rw [bind_of_ok rfl]
    dsimp only
    split
    · exact ⟨nofun, fun _ h => by cases h; rfl⟩
    · cases layoutPayloads host irxDirectory 0 manifest.entries (alignUpU32
          (irximgHeaderSize + UInt32.ofNat manifest.entries.length * irximgEntrySize)
          irximgAlignment) with
      | error e => exact ⟨nofun, fun _ h => by cases h; rfl⟩
      | ok laid =>
        rw [bind_of_ok rfl]
        dsimp only
        split
        · rw [writeImage_eq]
          have hagrees := writeImageTo_agrees host manifest laid.1 (alignUpU32
            (irximgHeaderSize + UInt32.ofNat manifest.entries.length * irximgEntrySize)
            irximgAlignment) laid.2
          cases hwritten : writeOutput host manifest laid.1 (alignUpU32
              (irximgHeaderSize + UInt32.ofNat manifest.entries.length * irximgEntrySize)
              irximgAlignment) laid.2 ⟨[], 0⟩ with
          | ok output =>
            rw [hagrees.ok _ _ hwritten]
            exact ⟨fun _ h => by cases h; rfl, nofun⟩
          | error e =>
            rw [hagrees.error _ _ hwritten]
            exact ⟨nofun, fun _ h => by cases h; rfl⟩
        · exact ⟨nofun, fun _ h => by cases h; rfl⟩

/-! ## 3. What is handed over -/

section

theorem fwriteTo_appends (data : Bytes) (host : Host) (error : HostError) :
    Appends Output.bytes (fwriteTo host error data) data :=
  Appends.whole fun output => by rw [fwriteTo_run]

theorem writeZerosLoopTo_appends (fuel : Nat) (count : UInt32) :
    ∃ data, ∀ host error, Appends Output.bytes (writeZerosLoopTo host error fuel count) data := by
  induction fuel generalizing count with
  | zero => exact ⟨[], fun _ _ => .ret ()⟩
  | succ fuel ih =>
    by_cases hpos : count > 0
    · obtain ⟨data, hdata⟩ := ih (count - if count > 64 then 64 else count)
      refine ⟨List.replicate (if count > 64 then 64 else count).toNat 0 ++ data,
        fun host error => ?_⟩
      rw [writeZerosLoopTo, if_pos hpos]
      exact (fwriteTo_appends _ host error).bind fun _ => hdata host error
    · refine ⟨[], fun host error => ?_⟩
      rw [writeZerosLoopTo, if_neg hpos]
      exact .ret ()

theorem writeZerosTo_appends (count : UInt32) :
    ∃ data, ∀ host error, Appends Output.bytes (writeZerosTo host error count) data :=
  writeZerosLoopTo_appends _ count

theorem writeEntriesTo_appends (rows : List (ManifestEntry × Payload)) (i : Nat) :
    ∃ data, ∀ host, Appends Output.bytes (writeEntriesTo host i rows) data := by
  induction rows generalizing i with
  | nil => exact ⟨[], fun _ => .ret ()⟩
  | cons row rows ih =>
    obtain ⟨data, hdata⟩ := ih (i + 1)
    exact ⟨_, fun host => (fwriteTo_appends _ host _).bind fun _ => hdata host⟩

theorem writePayloadsTo_appends (rows : List (ManifestEntry × Payload)) :
    ∃ data, ∀ host, Appends Output.bytes (writePayloadsTo host rows) data := by
  induction rows with
  | nil => exact ⟨[], fun _ => .ret ()⟩
  | cons row rows ih =>
    obtain ⟨data, hdata⟩ := ih
    obtain ⟨zeros, hzeros⟩ := writeZerosTo_appends
      (alignUpU32 (row.2.offset + row.2.size) irximgAlignment - (row.2.offset + row.2.size))
    exact ⟨_, fun host => (fwriteTo_appends _ host _).bind fun _ =>
      (hzeros host _).bind fun _ => hdata host⟩

/-- What is handed over does not depend on what fails, only how much of it is. -/
theorem writeImageTo_appends (manifest : Manifest) (payloads : List Payload)
    (payloadOffset fileSize : UInt32) : ∃ data, ∀ host,
      Appends Output.bytes (writeImageTo host manifest payloads payloadOffset fileSize) data := by
  obtain ⟨table, htable⟩ := writeEntriesTo_appends (manifest.entries.zip payloads) 0
  obtain ⟨zeros, hzeros⟩ := writeZerosTo_appends (payloadOffset -
    (irximgHeaderSize + UInt32.ofNat manifest.entries.length * irximgEntrySize))
  obtain ⟨data, hdata⟩ := writePayloadsTo_appends (manifest.entries.zip payloads)
  refine ⟨_ ++ (table ++ (zeros ++ (data ++ []))), fun host =>
    (fwriteTo_appends _ host _).bind fun _ => (htable host).bind fun _ => ?_⟩
  refine Appends.branch (fun _ => .stop _ _) fun _ => ?_
  refine (hzeros host _).bind fun _ => (hdata host).bind fun _ => ?_
  exact Appends.branch (fun _ => .ret ()) fun _ => .stop _ _

/-- What is handed over is a prefix of what is written when nothing fails. -/
theorem writeImageTo_prefix (host : Host) {manifest : Manifest} {payloads : List Payload}
    {payloadOffset fileSize : UInt32} {whole : Bytes}
    (h : writeImage host.flawless manifest payloads payloadOffset fileSize = .ok whole) :
    ((writeImageTo host manifest payloads payloadOffset fileSize).run ⟨[], 0⟩).2.bytes <+:
      whole := by
  obtain ⟨data, happends⟩ := writeImageTo_appends manifest payloads payloadOffset fileSize
  obtain ⟨written, hbytes, -, hall⟩ := happends host.flawless ⟨[], 0⟩
  obtain ⟨part, hpart, hstart, -⟩ := happends host ⟨[], 0⟩
  rw [writeImage_eq] at h
  cases houtput : writeOutput host.flawless manifest payloads payloadOffset fileSize ⟨[], 0⟩ with
  | error e =>
    rw [houtput] at h
    cases h
  | ok output =>
    rw [houtput] at h
    obtain rfl : output.bytes = whole := Except.ok.inj h
    -- the run where nothing fails hands over all the data
    rw [(writeImageTo_agrees host.flawless manifest payloads payloadOffset fileSize).ok _ _
      houtput] at hbytes hall
    rw [hall () rfl, List.nil_append] at hbytes
    rw [hpart, List.nil_append, hbytes]
    exact hstart

end

/-- A layout that succeeds has read a file for every entry. -/
theorem layoutPayloads_contents {host : Host} {irxDirectory : Bytes} {i : Nat}
    {entries : List ManifestEntry} {cursor : UInt32} {laid : List Payload × UInt32}
    (h : layoutPayloads host irxDirectory i entries cursor = .ok laid) :
    ∃ datas, PayloadContents host irxDirectory entries datas := by
  induction entries generalizing i cursor laid with
  | nil => exact ⟨[], .nil⟩
  | cons entry entries ih =>
    rw [layoutPayloads] at h
    obtain ⟨path, hpath, h⟩ := bind_ok.mp h
    obtain ⟨-, hpath⟩ := guard_ok.mp hpath
    cases hpath
    obtain ⟨data, hread, h⟩ := bind_ok.mp h
    obtain ⟨-, h⟩ := guard_ok.mp h
    obtain ⟨rest, hrest, -⟩ := bind_ok.mp h
    obtain ⟨datas, hdatas⟩ := ih hrest
    exact ⟨data :: datas, .cons (readFile_eq_ok hread).1 hdatas⟩

structure Handing (host : Host) (manifestPath irxDirectory handed : Bytes) (m : Manifest)
    (datas : List Bytes) : Prop where
  loaded : loadManifest host manifestPath = .ok m
  files : PayloadContents host irxDirectory m.entries datas
  room : ∀ p ∈ place 16 (payloadStart datas.length) datas, HasRoom p
  starts : handed <+: packedImage m datas

theorem packImageTo_handed {host : Host} {manifestPath irxDirectory handed : Bytes}
    (h : (packImageTo host manifestPath irxDirectory).2 = some handed) :
    ∃ m datas, Handing host manifestPath irxDirectory handed m datas := by
  unfold packImageTo at h
  cases hload : loadManifest host manifestPath with
  | error e =>
    rw [hload] at h
    cases h
  | ok m =>
    have hcount := (loadManifest_wellFormed hload).entries.length_le
    rw [hload] at h
    simp only [if_neg (count_le_tableMax hcount), payloadOffset_eq hcount] at h
    cases hlaid : layoutPayloads host irxDirectory 0 m.entries
        (UInt32.ofNat (payloadStart m.entries.length)) with
    | error e =>
      rw [hlaid] at h
      cases h
    | ok laid =>
      rw [hlaid] at h
      obtain ⟨datas, hfiles⟩ := layoutPayloads_contents hlaid
      obtain ⟨hroom, rfl⟩ := layoutPayloads_eq_ok hfiles (payloadStart_dvd _) hlaid
      dsimp only at h
      split at h
      · obtain rfl := Option.some.inj h
        refine ⟨m, datas, hload, hfiles, hfiles.length_eq ▸ hroom, ?_⟩
        exact writeImageTo_prefix host
          (writeImage_ok host.flawless_allOk hcount hfiles.length_eq)
      · cases h

/-! ## 4. No other prefix is accepted -/

section

variable {m : Manifest} {datas : List Bytes} {left image : Bytes}

theorem slice_of_start (h : left <+: image) {off n : Nat} (hin : off + n ≤ left.length) :
    slice left off n = slice image off n := by
  apply slice_congr (n := left.length) _ hin
  rw [List.take_length, ← List.prefix_iff_eq_take.mp h]

theorem wordAt_of_start (h : left <+: image) {off : Nat} (hin : off + 4 ≤ left.length) :
    wordAt left off = wordAt image off := by
  rw [wordAt, wordAt, slice_of_start h hin]

theorem decodeTable_of_start (h : left <+: image) {n : Nat} (hin : 44 + 20 * n ≤ left.length) :
    decodeTable left n = decodeTable image n := by
  apply List.map_congr_left
  intro i hi
  have hlt := List.mem_range.mp hi
  exact decodeEntry_congr (slice_of_start h (by omega))

/-- The table of a prefix in the format is the whole table: every payload ends inside the prefix. -/
theorem ImageFormat.bounded_of_start (hformat : ImageFormat left)
    (hstart : left <+: packedImage m datas) (hcount : m.entries.length ≤ 128)
    (hdatas : m.entries.length = datas.length) {k : Nat} (hk : k < datas.length) :
    (UInt32.ofNat (exactOffset datas k)).toNat + (UInt32.ofNat datas[k].length).toNat ≤
      left.length := by
  have hlow := hformat.length_ge
  have hword : wordAt left 16 = m.entries.length := by
    rw [wordAt_of_start hstart (by omega)]
    refine (packedImage_word m datas (k := 2) (by decide)).trans ?_
    change (UInt32.ofNat m.entries.length).toNat = _
    rw [UInt32.toNat_ofNat', Nat.mod_eq_of_lt (by omega)]
  have htable := hformat.table_le
  have hpayload := hformat.payload_le
  obtain ⟨hoffset, hsize⟩ := packedImage_entry hdatas hk
  have hmem : entryAt (packedImage m datas) k ∈ decodeTable left (wordAt left 16) := by
    rw [decodeTable_of_start hstart (by omega), hword]
    exact List.mem_map_of_mem (List.mem_range.mpr (hdatas ▸ hk))
  rw [← hoffset, ← hsize]
  exact (hformat.entries _ hmem).bounded

theorem ImageFormat.prefix_whole (hformat : ImageFormat left)
    (hstart : left <+: packedImage m datas) (hcount : m.entries.length ≤ 128)
    (hdatas : m.entries.length = datas.length)
    (hroom : ∀ p ∈ place 16 (payloadStart datas.length) datas, HasRoom p) :
    left = packedImage m datas ∧ ExactLayout left datas := by
  have hlow := hformat.length_ge
  -- the header says how long the whole is, modulo the word size
  have hlength : left.length = layoutSize datas.length datas % 2 ^ 32 := by
    rw [← hformat.fileSize, wordAt_of_start hstart (by omega), packedImage_fileSize, hdatas]
  have haligned : layoutSize datas.length datas % 16 = 0 := by
    rw [layoutSize, Nat.add_mod, payloadStart_dvd, size_dvd]
  -- a payload whose end wraps would end in the last bytes below the word size
  have hends (p : Nat × Bytes) (hp : p ∈ place 16 (payloadStart datas.length) datas) :
      ¬ RoundsToWrap p := by
    intro hwraps
    obtain ⟨k, hget⟩ := List.mem_iff_getElem?.mp hp
    have hk : k < datas.length := by
      have := (List.getElem?_eq_some_iff.mp hget).1
      rwa [place_length] at this
    obtain rfl := Option.some.inj ((place_exact hk).symm.trans hget)
    have hbounded := hformat.bounded_of_start hstart hcount hdatas hk
    rw [UInt32.toNat_ofNat', UInt32.toNat_ofNat'] at hbounded
    rw [RoundsToWrap] at hwraps
    dsimp only at hwraps
    omega
  have hfits : layoutSize datas.length datas < 2 ^ 32 :=
    size_fits (payloadStart_dvd _) (payloadStart_lt (hdatas ▸ hcount)) hroom hends
  have heq : left = packedImage m datas := by
    apply hstart.eq_of_length
    rw [packedImage_length hdatas, hdatas, hlength, Nat.mod_eq_of_lt hfits]
  rw [heq]
  exact ⟨rfl, packedImage_exact hdatas hfits⟩

end

/-- Somebody takes the bytes for an image: the validator of the tool, for whatever manifest, or the
provider on the console, whatever it has done before. -/
inductive Taken (image : Bytes) : Prop
  | validated {host : Host} {manifestPath imagePath : Bytes} (hfile : host.file imagePath = some image)
      (h : validateImageInternal host manifestPath imagePath = .ok ()) : Taken image
  | staged {steps : List (Env × ProviderOp)} {env : Env} {path : Bytes}
      {driverRequirements : UInt32} (hfile : env.file path = some image)
      (h : (ps2DriversImgStage irxId env (some path) driverRequirements
        (runProvider irxId steps World.initial)).1 = .ok) : Taken image

theorem Taken.imageFormat {image : Bytes} (h : Taken image) : ImageFormat image := by
  cases h with
  | validated hfile h =>
    obtain ⟨m, image', hload, hread, hok⟩ := validateImageInternal_ok h
    obtain ⟨hcontents, -, hlen⟩ := readFile_eq_ok hread
    obtain rfl := Option.some.inj (hfile.symm.trans hcontents)
    have hm := loadManifest_wellFormed hload
    obtain ⟨hheader, hentries⟩ := (validateImage_iff hm hlen).1.mp hok
    exact hheader.imageFormat hm hentries
  | @staged steps env path driverRequirements hfile h =>
    have hw := runProvider_valid irxId steps World.initial_valid
    have houtcome := ps2DriversImgStage_outcome irxId env (some path) driverRequirements _ hw.holds
    generalize ps2DriversImgStage irxId env (some path) driverRequirements
      (runProvider irxId steps World.initial) = r at h houtcome
    obtain ⟨e, w'⟩ := r
    cases houtcome with
    | refused hne => exact absurd h hne
    | @staged image' array source _ facts =>
      obtain ⟨path', hpath, himage⟩ := facts.opened
      obtain rfl := Option.some.inj hpath
      obtain rfl := Option.some.inj (hfile.symm.trans himage)
      exact facts.format

/-- The bytes a packer has left are taken for an image only when they are the whole image, at its
exact layout, whether the packer was interrupted or could not close the file. -/
theorem packImage_torn {host : Host} {manifestPath irxDirectory left : Bytes}
    (hleft : PackLeaves host manifestPath irxDirectory left) (htaken : Taken left) :
    ∃ m datas, loadManifest host manifestPath = .ok m ∧
      PayloadContents host irxDirectory m.entries datas ∧
      left = packedImage m datas ∧ ExactLayout left datas := by
  obtain ⟨handed, hhanded, hpart, -⟩ := hleft.handed
  obtain ⟨m, datas, hpacking⟩ := packImageTo_handed hhanded
  have hcount := (loadManifest_wellFormed hpacking.loaded).entries.length_le
  obtain ⟨hwhole, hexact⟩ := htaken.imageFormat.prefix_whole (hpart.trans hpacking.starts) hcount
    hpacking.files.length_eq hpacking.room
  exact ⟨m, datas, hpacking.loaded, hpacking.files, hwhole, hexact⟩

/-- The files of `memcardHost` on a host that cannot close the output. -/
def noCloseHost : Host := { memcardHost with closeOk := false }

/-- All of the image is left although the packer fails, and it can be staged from. -/
theorem packImage_torn_noClose :
    (packImageTo noCloseHost (lit "m") (lit "irx")).1 = .error .finalizeOutput ∧
      ∃ datas, ExactLayout memcardImage datas := by
  have hleft : PackLeaves noCloseHost (lit "m") (lit "irx") memcardImage :=
    ⟨_, by decide +kernel, List.prefix_rfl, fun _ => rfl⟩
  have htaken : Taken memcardImage :=
    @Taken.staged _ [] memcardEnv (lit "i") memcardRequirements rfl (by decide +kernel)
  obtain ⟨m, datas, -, -, -, hexact⟩ := packImage_torn hleft htaken
  exact ⟨by decide +kernel, datas, hexact⟩

end Ps2Drivers
