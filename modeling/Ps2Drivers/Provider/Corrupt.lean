import Ps2Drivers.Image.Checksum
import Ps2Drivers.Provider.Run

/-!
# Staging a corrupted payload

The image is read back with the payload of one requested module changed by a burst, and every other
byte and the outcome of every call as before.  The run goes the same way up to the first payload
that the burst reaches, and stops there with `ERR_CRC`.
-/

open Binary CString

namespace Ps2Drivers

/-! ## 1. Calls that do not see the difference -/

/-- The same calls fail; the file has another content of the same length. -/
structure SameCalls (env env' : Env) (file file' : File) : Prop where
  ok : env'.ok = env.ok
  block : file'.block = file.block
  length_eq : file'.contents.length = file.contents.length

/-- Whether `fseek` and `fread` succeed, for a window that is there or not. -/
def readOk (env : Env) (full : Bool) : ProviderM Bool := do
  if !(← succeeds env) then
    return false
  if !(← succeeds env) then
    return false
  return full

theorem seekRead_readOk (env : Env) (file : File) (offset size : Nat) :
    seekRead env file offset size =
      readOk env (decide ((slice file.contents offset size).length = size)) >>= fun ok =>
        pure (if ok then some (slice file.contents offset size) else none) := by
  unfold seekRead readOk
  rw [bind_assoc]
  refine congrArg (succeeds env >>= ·) (funext fun seek => ?_)
  cases seek with
  | false => rfl
  | true =>
    refine Eq.trans ?_ (bind_assoc (succeeds env) _ _).symm
    refine congrArg (succeeds env >>= ·) (funext fun read => ?_)
    cases read with
    | false => rfl
    | true =>
      by_cases hfull : (slice file.contents offset size).length = size
      · simp [hfull]
      · simp [hfull]

section

variable {env env' : Env} {file file' : File}

theorem SameCalls.malloc_eq (h : SameCalls env env' file file') : malloc env' = malloc env := by
  unfold malloc succeeds
  rw [h.ok]

theorem SameCalls.readOk_eq (h : SameCalls env env' file file') :
    readOk env' = readOk env := by
  unfold readOk succeeds
  rw [h.ok]

theorem SameCalls.ftell_eq (h : SameCalls env env' file file') : ftell env' file' = ftell env file := by
  unfold ftell succeeds
  rw [h.ok, h.length_eq]

theorem SameCalls.seekRead_eq (h : SameCalls env env' file file') {offset size : Nat}
    (hslice : slice file'.contents offset size = slice file.contents offset size) :
    seekRead env' file' offset size = seekRead env file offset size := by
  rw [seekRead_readOk, seekRead_readOk, h.readOk_eq, hslice]

/-- The parser reads no further than the table. -/
theorem SameCalls.parseImageEntries_eq (h : SameCalls env env' file file')
    (hformat : ImageFormat file.contents)
    (hfront : file'.contents.take (wordAt file.contents 28) =
      file.contents.take (wordAt file.contents 28)) (fileSize : UInt32) (out : EntriesOut) :
    parseImageEntries env' file' fileSize out = parseImageEntries env file fileSize out := by
  have htable := hformat.table_le
  have hlen := hformat.length_ge
  have hwindow {off n : Nat} (hend : off + n ≤ 44 + 20 * wordAt file.contents 16) :
      seekRead env' file' off n = seekRead env file off n :=
    h.seekRead_eq (slice_congr hfront (by omega))
  have hoffset : (decodeHeader (slice file.contents 0 44)).entryTableOffset.toNat = 44 :=
    (readU32Le_header hlen (by decide)).trans hformat.tableOffset
  have hcount : (decodeHeader (slice file.contents 0 44)).entryCount.toNat =
      wordAt file.contents 16 := readU32Le_header hlen (by decide)
  unfold parseImageEntries
  rw [show irximgHeaderSize.toNat = 44 from rfl, hwindow (by omega), seekRead_readOk, bind_assoc,
    bind_assoc]
  refine congrArg (readOk env _ >>= ·) (funext fun ok => ?_)
  cases ok with
  | false => rw [pure_bind, pure_bind, if_neg Bool.false_ne_true]
  | true =>
    -- the header is the one of the image in both runs
    have hentries : parseTable env' file' fileSize out (decodeHeader (slice file.contents 0 44)) =
        parseTable env file fileSize out (decodeHeader (slice file.contents 0 44)) := by
      unfold parseTable
      rw [hoffset, hcount, show irximgEntrySize.toNat = 20 from rfl, h.malloc_eq,
        hwindow (by omega)]
    rw [pure_bind, pure_bind, if_pos rfl]
    dsimp only
    rw [hentries]

end

/-! ## 2. The loop -/

section

variable {env env' : Env} {file file' : File}

def BurstWindows (file file' : File) : Prop :=
  ∀ off n, off + n ≤ file.contents.length →
    slice file'.contents off n = slice file.contents off n ∨
      BurstChange (slice file.contents off n) (slice file'.contents off n)

theorem stageModules_turns (h : SameCalls env env' file file') (hburst : BurstWindows file file')
    {entries : List ImageEntry} {entryCount : UInt32} {requested : UInt32 → Bool}
    (hbound : ∀ id e, findEntry entries entryCount id = some e →
      e.offset.toNat + e.size.toNat ≤ file.contents.length) {target : UInt32} {e : ImageEntry}
    (hrequested : requested target = true) (htarget : findEntry entries entryCount target = some e)
    (hchanged : entryPayload file'.contents e ≠ entryPayload file.contents e) (ids : List UInt32)
    (hmem : target ∈ ids) (staged : List StagedModule) (stagedIndex stagedBytes : Nat) :
    Turns (fun r => r.1 = .ok)
      (stageModules env file entries entryCount requested ids staged stagedIndex stagedBytes)
      (fun r => r.1 = .errCrc)
      (stageModules env' file' entries entryCount requested ids staged stagedIndex
        stagedBytes) := by
  induction ids generalizing staged stagedIndex stagedBytes with
  | nil => cases hmem
  | cons id ids ih =>
    unfold stageModules
    refine Turns.branch (fun hskip => ih ?_ staged stagedIndex stagedBytes) fun _ => ?_
    · -- an id that is skipped is not the one looked for
      rcases List.mem_cons.mp hmem with rfl | hrest
      · rw [hrequested] at hskip
        cases hskip
      · exact hrest
    · cases hentry : findEntry entries entryCount id with
      | none =>
        refine Turns.of_never fun s h => ?_
        cases h
      | some entry =>
        dsimp only
        rw [h.malloc_eq]
        refine Turns.bind_same fun block => ?_
        cases block with
        | none =>
          refine Turns.of_never fun s h => ?_
          cases h
        | some block =>
          have hlength : (slice file'.contents entry.offset.toNat entry.size.toNat).length =
              (slice file.contents entry.offset.toNat entry.size.toNat).length := by
            rw [slice_length_eq, slice_length_eq, h.length_eq]
          dsimp only
          rw [seekRead_readOk, seekRead_readOk, h.readOk_eq, hlength, bind_assoc, bind_assoc]
          refine Turns.bind_same fun read => ?_
          cases read with
          | false =>
            refine Turns.of_never fun s h => ?_
            cases h
          | true =>
            rw [pure_bind, pure_bind, if_pos rfl, if_pos rfl]
            dsimp only
            by_cases hcrc :
                crc32Bytes (slice file.contents entry.offset.toNat entry.size.toNat) = entry.crc32
            · rw [if_neg (not_not.mpr hcrc)]
              rcases hburst _ _ (hbound id entry hentry) with hsame | hchange
              · -- the burst is elsewhere, so the module looked for is a later one
                rw [hsame, if_neg (not_not.mpr hcrc)]
                refine ih ?_ _ _ _
                rcases List.mem_cons.mp hmem with rfl | hrest
                · rw [htarget] at hentry
                  obtain rfl := Option.some.inj hentry
                  exact absurd hsame hchanged
                · exact hrest
              · -- the burst is in this payload, and its checksum no longer matches
                rw [if_pos (hcrc ▸ crc32Bytes_burst hchange)]
                exact fun s _ => rfl
            · -- the checksum did not match before either
              rw [if_pos hcrc]
              refine Turns.of_never fun s h => ?_
              cases h

end

/-! ## 3. From the table to the entry point -/

section

variable {env env' : Env} {file file' : File} {requested : UInt32 → Bool} {target : UInt32}
  {e : ImageEntry}

def ParsedTable (image : Bytes) (r : ImgError × EntriesOut) : Prop :=
  r.1 = .ok → ∃ block, r.2 =
    ⟨some ⟨block, decodeTable image (wordAt image 16)⟩, readU32Le (image.drop 16)⟩

theorem parseImageEntries_table (hlen : 44 ≤ file.contents.length) {fileSize : UInt32}
    (hsize : fileSize.toNat = file.contents.length) (out : EntriesOut) (w : World) :
    ParsedTable file.contents (parseImageEntries env file fileSize out w).1 := by
  intro hok
  have hparsed := parseImageEntries_ensures env file out hlen hsize w
    ⟨rfl, Heap.Extends.refl w.heap⟩
  generalize parseImageEntries env file fileSize out w = r at hok hparsed
  obtain ⟨⟨result, out'⟩, w'⟩ := r
  cases hparsed with
  | @ok block _ _ _ => exact ⟨block, rfl⟩
  | format => cases hok
  | fault kind => rcases kind with rfl | rfl <;> cases hok

/-- The error is passed on, and success stays success. -/
theorem result_passed (result : ImgError) (undo commit : ProviderM Unit) (w : World) :
    ((if result ≠ .ok then undo >>= fun _ => pure result
      else commit >>= fun _ => pure .ok : ProviderM ImgError) w).1 = result := by
  by_cases hok : result = .ok
  · rw [if_neg (not_not.mpr hok)]
    exact hok.symm
  · rw [if_pos hok]
    rfl

theorem stageEntries_turns (h : SameCalls env env' file file') (hburst : BurstWindows file file')
    (hformat : ImageFormat file.contents) (hrequested : requested target = true)
    (hmem : target ∈ moduleIds) (htarget : imageEntry file.contents target = some e)
    (hchanged : entryPayload file'.contents e ≠ entryPayload file.contents e) (block n : Nat) :
    Turns (· = .ok)
      (stageEntries env file ⟨some ⟨block, decodeTable file.contents (wordAt file.contents 16)⟩,
        readU32Le (file.contents.drop 16)⟩ requested n)
      (· = .errCrc)
      (stageEntries env' file' ⟨some ⟨block, decodeTable file.contents (wordAt file.contents 16)⟩,
        readU32Le (file.contents.drop 16)⟩ requested n) := by
  have hfind (id : UInt32) : findEntry (decodeTable file.contents (wordAt file.contents 16))
      (readU32Le (file.contents.drop 16)) id = imageEntry file.contents id :=
    findEntry_decodeTable hformat.length_ge id
  unfold stageEntries
  rw [h.malloc_eq]
  refine Turns.bind_same fun array => ?_
  cases array with
  | none => exact Turns.of_never fun w => nofun
  | some array =>
    refine Turns.bind (stageModules_turns h hburst (fun id entry hentry => ?_) hrequested
      ((hfind target).trans htarget) hchanged moduleIds hmem _ _ _) (fun r w hok => ?_)
      fun r w hcrc => ?_
    · rw [hfind] at hentry
      exact (hformat.entries entry (imageEntry_some hentry).1).bounded
    · exact (result_passed r.1 _ _ _).symm.trans hok
    · exact (result_passed r.1 _ _ _).trans hcrc

theorem stageFile_turns (h : SameCalls env env' file file') (hburst : BurstWindows file file')
    (hformat : ImageFormat file.contents)
    (hfront : file'.contents.take (wordAt file.contents 28) =
      file.contents.take (wordAt file.contents 28)) (hrequested : requested target = true)
    (hmem : target ∈ moduleIds) (htarget : imageEntry file.contents target = some e)
    (hchanged : entryPayload file'.contents e ≠ entryPayload file.contents e) (n : Nat) :
    Turns (· = .ok) (stageFile env file requested n) (· = .errCrc)
      (stageFile env' file' requested n) := by
  have hsucceeds : succeeds env' = succeeds env := by
    unfold succeeds
    rw [h.ok]
  unfold stageFile fclose
  rw [hsucceeds, h.ftell_eq, h.block]
  refine Turns.bind_same fun seek => ?_
  cases seek with
  | false => exact Turns.of_never fun w => nofun
  | true =>
    refine Turns.bind_known (R := fun size : Int => size = file.contents.length ∨ size = -1)
      (fun w => ?_) fun size hsize => ?_
    · exact (ftell_ensures env file w ⟨rfl, .refl _⟩).1.imp_right And.left
    refine Turns.branch (fun _ => Turns.of_never fun w => nofun) fun hrange => ?_
    -- the size is in range, so it is the length and not `-1`
    obtain rfl : size = file.contents.length := by
      rcases hsize with hsize | rfl
      · exact hsize
      · exact absurd (Or.inl (by decide)) hrange
    have hlt := hformat.length_lt
    have hnat : (UInt32.ofNat (file.contents.length : Int).toNat).toNat =
        file.contents.length := by
      rw [Int.toNat_natCast, UInt32.toNat_ofNat', Nat.mod_eq_of_lt hlt]
    dsimp only
    rw [h.parseImageEntries_eq hformat hfront]
    refine Turns.bind_known (R := ParsedTable file.contents)
      (parseImageEntries_table hformat.length_ge hnat ⟨none, 0⟩) fun r htable => ?_
    obtain ⟨result, out⟩ := r
    refine Turns.branch (fun hne => ?_) fun hok => ?_
    · exact Turns.of_never fun w => hne
    · obtain ⟨block, rfl⟩ := htable (not_not.mp hok)
      exact stageEntries_turns h hburst hformat hrequested hmem htarget hchanged block n

theorem stageFromPath_turns {ids : Irx → UInt32} {path image image' : Bytes}
    {driverRequirements : UInt32} (hok : env'.ok = env.ok) (hfile : env.file path = some image)
    (hfile' : env'.file path = some image') (hlength : image'.length = image.length)
    (hburst : ∀ block, BurstWindows ⟨block, image⟩ ⟨block, image'⟩) (hformat : ImageFormat image)
    (hfront : image'.take (wordAt image 28) = image.take (wordAt image 28))
    (hmem : target ∈ requestedIds ids driverRequirements)
    (htarget : imageEntry image target = some e)
    (hchanged : entryPayload image' e ≠ entryPayload image e) :
    Turns (· = .ok) (stageFromPath ids env (some path) driverRequirements)
      (· = .errCrc) (stageFromPath ids env' (some path) driverRequirements) := by
  have hopen {env : Env} {contents : Bytes} (hfile : env.file path = some contents) :
      fopen env path = succeeds env >>= fun ok =>
        if ok then allocBlock >>= fun block => pure (some ⟨block, contents⟩) else pure none := by
    unfold fopen
    rw [hfile]
  have hsucceeds : succeeds env' = succeeds env := by
    unfold succeeds
    rw [hok]
  unfold stageFromPath
  -- the checks in front of the file refuse in both runs
  refine Turns.branch (fun _ => Turns.of_never fun w => nofun) fun _ => ?_
  refine Turns.bind_same fun p => ?_
  refine Turns.branch (fun _ => Turns.of_never fun w => nofun) fun _ => ?_
  refine Turns.branch (fun _ => Turns.of_never fun w => nofun) fun _ => ?_
  rw [hopen hfile, hopen hfile', hsucceeds, bind_assoc, bind_assoc]
  refine Turns.bind_same fun opened => ?_
  cases opened with
  | false => exact Turns.of_never fun w => nofun
  | true =>
    rw [if_pos rfl, if_pos rfl, bind_assoc, bind_assoc]
    refine Turns.bind_same fun block => ?_
    rw [pure_bind, pure_bind]
    have hfiles : SameCalls env env' ⟨block, image⟩ ⟨block, image'⟩ := ⟨hok, rfl, hlength⟩
    obtain ⟨hmem, hrequested⟩ := List.mem_filter.mp hmem
    exact stageFile_turns hfiles (hburst block) hformat hfront hrequested hmem htarget hchanged _

theorem ps2DriversImgStage_turns {ids : Irx → UInt32} {path : Bytes} {driverRequirements : UInt32}
    (hok : env'.ok = env.ok)
    (h : Turns (· = .ok) (stageFromPath ids env (some path) driverRequirements)
      (· = .errCrc) (stageFromPath ids env' (some path) driverRequirements)) :
    Turns (· = .ok) (ps2DriversImgStage ids env (some path) driverRequirements)
      (· = .errCrc) (ps2DriversImgStage ids env' (some path) driverRequirements) := by
  have hmalloc : malloc env' = malloc env := by
    unfold malloc succeeds
    rw [hok]
  unfold ps2DriversImgStage
  refine Turns.branch (fun _ => Turns.of_never fun w => nofun) fun _ => ?_
  refine Turns.bind_same fun p => ?_
  refine Turns.branch (fun _ => Turns.of_never fun w => nofun) fun _ => ?_
  rw [hmalloc]
  refine Turns.bind_same fun copy => ?_
  cases copy with
  | none => exact Turns.of_never fun w => nofun
  | some copy =>
    refine Turns.bind h (fun r w hr => ?_) fun r w hr => ?_
    · by_contra hne
      rw [if_pos hne] at hr
      exact hne hr
    · rw [hr]
      rfl

end

/-! ## 4. The main result -/

/-- The image is the other one with the payload of an entry changed by a burst. -/
structure PayloadBurst (image image' : Bytes) (e : ImageEntry) : Prop where
  burst : ∃ payload, BurstChange (entryPayload image e) payload ∧
    image' = splice image e.offset.toNat payload

theorem PayloadBurst.change {image image' : Bytes} {e : ImageEntry} (h : PayloadBurst image image' e)
    (hbound : e.offset.toNat + e.size.toNat ≤ image.length) :
    BurstChange image image' ∧ entryPayload image' e ≠ entryPayload image e ∧
      image'.take e.offset.toNat = image.take e.offset.toNat := by
  obtain ⟨payload, hburst, rfl⟩ := h.burst
  have hlength : payload.length = e.size.toNat := hburst.length_eq.trans (slice_length hbound)
  have hfront : (image.take e.offset.toNat).length = e.offset.toNat := by
    rw [List.length_take, Nat.min_eq_left (by omega)]
  refine ⟨hburst.splice hbound, fun heq => hburst.differs ?_, ?_⟩
  · rw [← heq, entryPayload, splice, slice_append_right _ _ _ hfront.symm hlength.symm]
  · rw [splice, List.append_assoc, List.take_left' hfront]

/-- The checksum tells byte strings apart that differ by a burst.  So when one payload of an image
that can be staged is changed by one, staging it instead, all calls succeeding as before, returns
`ERR_CRC` and leaves the idle provider as it was. -/
theorem burst_detected :
    (∀ p q, BurstChange p q → crc32Bytes q ≠ crc32Bytes p) ∧
      ∀ (ids : Irx → UInt32) (steps : List (Env × ProviderOp)) (env env' : Env)
        (path image image' : Bytes) (driverRequirements id : UInt32) (e : ImageEntry),
        let w := runProvider ids steps World.initial
        let staged := ps2DriversImgStage ids env' (some path) driverRequirements w
        env.file path = some image →
        (ps2DriversImgStage ids env (some path) driverRequirements w).1 = .ok →
        id ∈ requestedIds ids driverRequirements → imageEntry image id = some e →
        PayloadBurst image image' e → env'.ok = env.ok → env'.file path = some image' →
        staged.1 = .errCrc ∧ staged.2.provider = w.provider ∧ staged.2.provider.idle := by
  refine ⟨fun p q => crc32Bytes_burst, ?_⟩
  intro ids steps env env' path image image' driverRequirements id e w staged hfile hstage hmem
    hentry hburst hok hfile'
  have hw : w.Valid := runProvider_valid ids steps World.initial_valid
  have houtcome := ps2DriversImgStage_outcome ids env (some path) driverRequirements w hw.holds
  rw [hstage] at houtcome
  -- the image that can be staged is well formed, and the provider was idle
  obtain ⟨hformat, hidle⟩ : ImageFormat image ∧ w.provider.idle := by
    cases houtcome with
    | refused hne => exact absurd rfl hne
    | staged array source facts =>
      obtain ⟨path', hpath, himage⟩ := facts.opened
      obtain rfl := Option.some.inj hpath
      obtain rfl := Option.some.inj (hfile.symm.trans himage)
      exact ⟨facts.format, facts.idle⟩
  have hin := hformat.entries e (imageEntry_some hentry).1
  obtain ⟨hchange, hchanged, hfront⟩ := hburst.change hin.bounded
  have htable : image'.take (wordAt image 28) = image.take (wordAt image 28) :=
    slice_congr (i := 0) hfront (by rw [Nat.zero_add]; exact hin.offset_ge)
  have hturns := ps2DriversImgStage_turns hok
    (stageFromPath_turns hok hfile hfile' hchange.length_eq
      (fun block off n hbound => hchange.slice hbound) hformat htable hmem hentry hchanged)
  have hcrc : staged.1 = .errCrc := hturns w hstage
  have hafter := ps2DriversImgStage_outcome ids env' (some path) driverRequirements w hw.holds
  change ImgStageOutcome ids env' (some path) driverRequirements w.provider Heap.empty [] staged.1
    staged.2 at hafter
  rw [hcrc] at hafter
  -- an error undoes what the call has done
  cases hafter with
  | refused _ _ holds =>
    have hsame : staged.2.provider = w.provider := holds.1
    exact ⟨hcrc, hsame, hsame ▸ hidle⟩

/-- The payload of `mcserv` with other bytes in its middle. -/
def burstPayload : Bytes := splice (List.replicate 17 5) 6 [250, 0, 1, 2]

def burstEnv : Env :=
  { memcardEnv with file := fun _ => some (splice memcardImage 112 burstPayload) }

theorem burst_detected_memcard :
    let w := runProvider irxId memcardSteps World.initial
    let staged := ps2DriversImgStage irxId burstEnv (some (lit "a.irximg")) memcardRequirements w
    staged.1 = .errCrc ∧ staged.2.provider = w.provider ∧ staged.2.provider.idle := by
  have hpayload : entryPayload memcardImage ⟨5, 112, 17, crc32Bytes (List.replicate 17 5), 0⟩ =
      List.replicate 17 5 := by decide +kernel
  have hburst : BurstChange (List.replicate 17 5) burstPayload :=
    BurstChange.splice (n := 4) (by decide) (BurstChange.of_short rfl (by decide) (by decide))
  exact burst_detected.2 irxId memcardSteps memcardEnv burstEnv (lit "a.irximg") memcardImage
    (splice memcardImage 112 burstPayload) memcardRequirements 5
    ⟨5, 112, 17, crc32Bytes (List.replicate 17 5), 0⟩ rfl (by decide +kernel) (by decide +kernel)
    (by decide +kernel) ⟨burstPayload, hpayload ▸ hburst, rfl⟩ rfl rfl

end Ps2Drivers
