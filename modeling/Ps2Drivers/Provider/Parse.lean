import Ps2Drivers.Image.Pack
import Ps2Drivers.Lib.Ensures
import Ps2Drivers.Provider.World

/-!
# The runtime parser

`parse_image_entries` and `find_entry` of `ps2_drivers_img.c`.
-/

open Binary

namespace Ps2Drivers

/-! ## 1. The code -/

/-- The allocation `*entries_out` points to. -/
structure EntryArray where
  block : Nat
  entries : List ImageEntry

/-- The two output parameters of `parse_image_entries`. -/
structure EntriesOut where
  entries : Option EntryArray
  count : UInt32

def entryBoundsOk (payloadOffset fileSize : UInt32) (e : ImageEntry) : Bool :=
  !(e.id == 0 || e.size == 0 || e.flags != 0 || e.offset < payloadOffset || e.offset > fileSize ||
    (e.offset &&& (irximgAlignment - 1)) != 0 || e.size > fileSize - e.offset)

/-- The entry loop: `n` entries still to decode from index `i` on, `done` the earlier ones.
`none` is the format error. -/
def parseEntries (table : Bytes) (payloadOffset fileSize : UInt32) :
    Nat → Nat → List ImageEntry → Option (List ImageEntry)
  | 0, _, done => some done
  | n + 1, i, done =>
    let e := decodeEntry (table.drop (i * 20))
    if !entryBoundsOk payloadOffset fileSize e then none
    else if done.any (·.id == e.id) then none
    else parseEntries table payloadOffset fileSize n (i + 1) (done ++ [e])

def headerFieldsBad (h : Header) (fileSize : UInt32) : Bool :=
  h.version != irximgVersion || h.headerSize != irximgHeaderSize ||
  h.entrySize != irximgEntrySize || h.entryTableOffset != irximgHeaderSize ||
  h.entryCount == 0 || h.entryCount > irximgMaxEntries || h.flags != 0 ||
  h.declaredFileSize != fileSize

def headerLayoutBad (h : Header) (fileSize : UInt32) : Bool :=
  h.entryCount > (0xffffffff - h.entryTableOffset) / h.entrySize ||
  h.entryTableOffset + h.entryCount * h.entrySize > fileSize ||
  h.payloadOffset < h.entryTableOffset + h.entryCount * h.entrySize ||
  h.payloadOffset > fileSize ||
  (h.payloadOffset &&& (irximgAlignment - 1)) != 0

/-- `parse_image_entries` once the magic is known to be there. -/
def parseTable (env : Env) (file : File) (fileSize : UInt32) (out : EntriesOut) (h : Header) :
    ProviderM (ImgError × EntriesOut) := do
  if headerFieldsBad h fileSize then
    return (.errFormat, out)
  if headerLayoutBad h fileSize then
    return (.errFormat, out)
  let table ← malloc env
  let entries ← malloc env
  match table, entries with
  | some table, some entries =>
    match ← seekRead env file h.entryTableOffset.toNat
        (h.entryCount.toNat * irximgEntrySize.toNat) with
    | none =>
      free table
      free entries
      return (.errIo, out)
    | some raw =>
      match parseEntries raw h.payloadOffset fileSize h.entryCount.toNat 0 [] with
      | none =>
        free table
        free entries
        return (.errFormat, out)
      | some parsed =>
        free table
        return (.ok, ⟨some ⟨entries, parsed⟩, h.entryCount⟩)
  | table, entries =>
    freePtr table
    freePtr entries
    return (.errMemory, out)

def parseImageEntries (env : Env) (file : File) (fileSize : UInt32) (out : EntriesOut) :
    ProviderM (ImgError × EntriesOut) := do
  match ← seekRead env file 0 irximgHeaderSize.toNat with
  | none => return (.errIo, out)
  | some header =>
    if header.take irximgMagicSize ≠ irximgMagic then
      return (.errFormat, out)
    parseTable env file fileSize out (decodeHeader header)

/-! ## 2. The checks over unbounded integers -/

/-- The guard on the offset is what keeps the subtraction from wrapping. -/
theorem entryBoundsOk_iff (payloadOffset fileSize : UInt32) (e : ImageEntry) :
    entryBoundsOk payloadOffset fileSize e = true ↔
      EntryFormat fileSize.toNat payloadOffset.toNat e := by
  simp only [entryBoundsOk, Bool.not_eq_true', Bool.or_eq_false_iff, beq_eq_false_iff_ne,
    bne_eq_false_iff_eq, decide_eq_false_iff_not, gt_iff_lt, aligned_iff, UInt32.not_lt]
  constructor
  · rintro ⟨⟨⟨⟨⟨⟨hid, hsize⟩, hflags⟩, hlow⟩, hhigh⟩, halign⟩, hend⟩
    rw [UInt32.le_iff_toNat_le, UInt32.toNat_sub_of_le _ _ hhigh] at hend
    rw [UInt32.le_iff_toNat_le] at hlow hhigh
    exact ⟨(toNat_ne_zero_iff _).mpr hid, (toNat_ne_zero_iff _).mpr hsize, by rw [hflags]; rfl,
      halign, hlow, by omega⟩
  · intro h
    have hbound := h.bounded
    have hle : e.offset ≤ fileSize := UInt32.le_iff_toNat_le.mpr (by omega)
    refine ⟨⟨⟨⟨⟨⟨(toNat_ne_zero_iff _).mp h.id_ne_zero, (toNat_ne_zero_iff _).mp h.size_ne_zero⟩,
      UInt32.toNat_inj.mp h.flags_eq⟩, UInt32.le_iff_toNat_le.mpr h.offset_ge⟩, hle⟩, h.aligned⟩, ?_⟩
    rw [UInt32.le_iff_toNat_le, UInt32.toNat_sub_of_le _ _ hle]
    omega

theorem headerFieldsBad_eq_false (h : Header) (fileSize : UInt32) :
    headerFieldsBad h fileSize = false ↔ h.version.toNat = 1 ∧ h.headerSize.toNat = 44 ∧
      h.entrySize.toNat = 20 ∧ h.entryTableOffset.toNat = 44 ∧ 1 ≤ h.entryCount.toNat ∧
      h.entryCount.toNat ≤ 128 ∧ h.flags.toNat = 0 ∧
      h.declaredFileSize.toNat = fileSize.toNat := by
  have hpos : h.entryCount ≠ 0 ↔ 1 ≤ h.entryCount.toNat := by
    rw [← toNat_ne_zero_iff]
    omega
  simp only [headerFieldsBad, Bool.or_eq_false_iff, bne_eq_false_iff_eq, beq_eq_false_iff_ne,
    decide_eq_false_iff_not, gt_iff_lt, UInt32.not_lt, hpos, UInt32.le_iff_toNat_le,
    ← UInt32.toNat_inj, and_assoc]
  rfl

/-- With the fixed fields checked, none of the 32-bit operations of the layout checks wraps. -/
theorem headerLayoutBad_eq_false {h : Header} (fileSize : UInt32)
    (hentry : h.entrySize.toNat = 20) (htable : h.entryTableOffset.toNat = 44)
    (hcount : h.entryCount.toNat ≤ 128) :
    headerLayoutBad h fileSize = false ↔
      44 + 20 * h.entryCount.toNat ≤ h.payloadOffset.toNat ∧
      h.payloadOffset.toNat ≤ fileSize.toNat ∧ h.payloadOffset.toNat % 16 = 0 := by
  obtain ⟨hquot, hend⟩ := h.table_arith hentry htable hcount
  simp only [headerLayoutBad, Bool.or_eq_false_iff, bne_eq_false_iff_eq, decide_eq_false_iff_not,
    gt_iff_lt, UInt32.not_lt, UInt32.le_iff_toNat_le, hquot, hend, aligned_iff]
  omega

/-! ## 3. The entry loop -/

/-- The entries of the table from index `i` on. -/
def tableEntries (table : Bytes) (i n : Nat) : List ImageEntry :=
  (List.range' i n).map fun k => decodeEntry (table.drop (k * 20))

theorem tableEntries_succ (table : Bytes) (i n : Nat) :
    tableEntries table i (n + 1) =
      decodeEntry (table.drop (i * 20)) :: tableEntries table (i + 1) n := rfl

/-- The loop returns the decoded entries when each is in bounds and no id comes twice, and the
format error otherwise. -/
theorem parseEntries_eq_some (table : Bytes) (payloadOffset fileSize : UInt32) (n i : Nat)
    (done parsed : List ImageEntry) (hdone : (done.map (·.id)).Nodup) :
    parseEntries table payloadOffset fileSize n i done = some parsed ↔
      parsed = done ++ tableEntries table i n ∧
      (∀ e ∈ tableEntries table i n, entryBoundsOk payloadOffset fileSize e = true) ∧
      (parsed.map (·.id)).Nodup := by
  induction n generalizing i done with
  | zero =>
    rw [parseEntries, tableEntries, List.range'_zero, List.map_nil, List.append_nil]
    constructor
    · intro h
      obtain rfl := Option.some.inj h
      exact ⟨rfl, by simp, hdone⟩
    · rintro ⟨rfl, -, -⟩
      rfl
  | succ n ih =>
    rw [tableEntries_succ]
    simp only [parseEntries]
    generalize decodeEntry (table.drop (i * 20)) = e
    by_cases hok : entryBoundsOk payloadOffset fileSize e = true
    · simp only [hok, Bool.not_true, Bool.false_eq_true, if_false]
      by_cases hdup : done.any (·.id == e.id) = true
      · rw [if_pos hdup]
        refine iff_of_false (by simp) ?_
        rintro ⟨rfl, -, hnodup⟩
        -- an id that was seen before is in the table twice
        obtain ⟨d, hd, hid⟩ := List.any_eq_true.mp hdup
        rw [List.map_append, List.nodup_append] at hnodup
        exact hnodup.2.2 d.id (List.mem_map_of_mem hd) e.id (by simp) (by simpa using hid)
      · have hnew : ((done ++ [e]).map (·.id)).Nodup := by
          rw [List.map_append, List.nodup_append]
          refine ⟨hdone, by simp, ?_⟩
          rintro x hx y hy rfl
          obtain ⟨d, hd, rfl⟩ := List.mem_map.mp hx
          apply hdup
          exact List.any_eq_true.mpr ⟨d, hd, by simpa using hy⟩
        rw [if_neg hdup, ih (i + 1) (done ++ [e]) hnew, List.append_assoc, List.singleton_append,
          List.forall_mem_cons]
        simp only [hok, true_and]
    · -- an entry out of bounds ends the loop
      have hbad : entryBoundsOk payloadOffset fileSize e = false := by simpa using hok
      simp only [hbad, Bool.not_false, if_true]
      refine iff_of_false (by simp) ?_
      rintro ⟨-, hall, -⟩
      exact hok (hall e List.mem_cons_self)

/-- The table read from the file decodes as the file itself does. -/
theorem tableEntries_slice (image : Bytes) (count : Nat) :
    tableEntries (slice image 44 (count * 20)) 0 count = decodeTable image count := by
  rw [tableEntries, decodeTable, List.range_eq_range']
  apply List.map_congr_left
  intro k hk
  have hlt : k < count := by simpa using hk
  apply decodeEntry_congr
  have h : slice (slice image 44 (count * 20)) (k * 20) 20 = slice image (44 + k * 20) 20 :=
    slice_slice (by omega)
  rwa [Nat.mul_comm 20 k]

/-! ## 4. The header -/

theorem readU32Le_header {image : Bytes} (hlen : 44 ≤ image.length) {k : Nat} (hk : k + 4 ≤ 44) :
    (readU32Le ((slice image 0 44).drop k)).toNat = wordAt image k := by
  have hsize : (slice image 0 44).length = 44 := slice_length (by omega)
  rw [readU32Le_drop (by omega), wordAt, slice_slice hk, Nat.zero_add]
  rfl

def headerOk (image : Bytes) (fileSize : UInt32) : Prop :=
  (slice image 0 44).take irximgMagicSize = irximgMagic ∧
    headerFieldsBad (decodeHeader (slice image 0 44)) fileSize = false ∧
    headerLayoutBad (decodeHeader (slice image 0 44)) fileSize = false

/-- The header checks hold exactly for the header of an image. -/
theorem headerOk_iff {image : Bytes} {fileSize : UInt32} (hlen : 44 ≤ image.length)
    (hsize : fileSize.toNat = image.length) :
    headerOk image fileSize ↔
      image.take 8 = irximgMagic ∧ wordAt image 8 = 1 ∧ wordAt image 12 = 44 ∧
      wordAt image 20 = 20 ∧ wordAt image 24 = 44 ∧ wordAt image 36 = 0 ∧
      wordAt image 32 = image.length ∧ 1 ≤ wordAt image 16 ∧ wordAt image 16 ≤ 128 ∧
      44 + 20 * wordAt image 16 ≤ wordAt image 28 ∧ wordAt image 28 ≤ image.length ∧
      wordAt image 28 % 16 = 0 := by
  have hmagic : (slice image 0 44).take irximgMagicSize = image.take 8 := by
    rw [slice_zero, List.take_take]
    rfl
  set h := decodeHeader (slice image 0 44) with hh
  have hcount : h.entryCount.toNat = wordAt image 16 := readU32Le_header hlen (by decide)
  have hentry : h.entrySize.toNat = wordAt image 20 := readU32Le_header hlen (by decide)
  have htable : h.entryTableOffset.toNat = wordAt image 24 := readU32Le_header hlen (by decide)
  have hpayload : h.payloadOffset.toNat = wordAt image 28 := readU32Le_header hlen (by decide)
  rw [headerOk, ← hh, hmagic, headerFieldsBad_eq_false,
    show h.version.toNat = wordAt image 8 from readU32Le_header hlen (by decide),
    show h.headerSize.toNat = wordAt image 12 from readU32Le_header hlen (by decide),
    show h.declaredFileSize.toNat = wordAt image 32 from readU32Le_header hlen (by decide),
    show h.flags.toNat = wordAt image 36 from readU32Le_header hlen (by decide),
    hcount, hentry, htable, hsize]
  -- the layout is checked in 32 bits, which cannot wrap once the fields are right
  constructor
  · rintro ⟨hm, ⟨h1, h2, h3, h4, h5, h6, h7, h8⟩, hlayout⟩
    rw [headerLayoutBad_eq_false fileSize (by omega) (by omega) (by omega), hcount, hpayload,
      hsize] at hlayout
    exact ⟨hm, h1, h2, h3, h4, h7, h8, h5, h6, hlayout⟩
  · rintro ⟨hm, h1, h2, h3, h4, h7, h8, h5, h6, hlayout⟩
    refine ⟨hm, ⟨h1, h2, h3, h4, h5, h6, h7, h8⟩, ?_⟩
    rw [headerLayoutBad_eq_false fileSize (by omega) (by omega) (by omega), hcount, hpayload, hsize]
    exact hlayout

/-! ## 5. What the parser does -/

theorem imageFormat_iff_parsed {image : Bytes} {fileSize : UInt32} (hlen : 44 ≤ image.length)
    (hsize : fileSize.toNat = image.length) :
    ImageFormat image ↔ headerOk image fileSize ∧
      parseEntries (slice image 44 (wordAt image 16 * 20))
        (decodeHeader (slice image 0 44)).payloadOffset fileSize (wordAt image 16) 0 [] =
        some (decodeTable image (wordAt image 16)) := by
  have hpayload : (decodeHeader (slice image 0 44)).payloadOffset.toNat = wordAt image 28 :=
    readU32Le_header hlen (by decide)
  rw [headerOk_iff hlen hsize, parseEntries_eq_some _ _ _ _ _ [] _ List.nodup_nil,
    tableEntries_slice, List.nil_append]
  simp only [entryBoundsOk_iff, hpayload, hsize, true_and]
  constructor
  · intro h
    exact ⟨⟨h.magic, h.version, h.headerSize, h.entrySize, h.tableOffset, h.flags, h.fileSize,
      h.count_pos, h.count_le, h.table_le, h.payload_le, h.payload_aligned⟩, h.entries, h.distinct⟩
  · rintro ⟨⟨h1, h2, h3, h4, h5, h6, h7, h8, h9, h10, h11, h12⟩, hentries, hdistinct⟩
    exact ⟨h1, h2, h3, h4, h5, h6, h7, h8, h9, h10, h11, h12, hentries, hdistinct⟩

/-- The three ways `parse_image_entries` returns: the image is in the format, it is not, or a read
or an allocation failed. -/
inductive Parsed (env : Env) (image : Bytes) (out : EntriesOut) (p : Provider) (h₀ : Heap)
    (bs : List Nat) : ImgError × EntriesOut → World → Prop
  | ok {block : Nat} {w : World} (format : ImageFormat image) (holds : Holds p h₀ (block :: bs) w) :
      Parsed env image out p h₀ bs
        (.ok, ⟨some ⟨block, decodeTable image (wordAt image 16)⟩, readU32Le (image.drop 16)⟩) w
  | format {w : World} (bad : ¬ ImageFormat image) (holds : Holds p h₀ bs w) :
      Parsed env image out p h₀ bs (.errFormat, out) w
  | fault {e : ImgError} {w : World} (kind : e = .errIo ∨ e = .errMemory) (fails : ¬ env.allOk)
      (holds : Holds p h₀ bs w) : Parsed env image out p h₀ bs (e, out) w

section

variable {p : Provider} {h₀ : Heap} {bs : List Nat}

private theorem header_count {image : Bytes} (hlen : 44 ≤ image.length) :
    (decodeHeader (slice image 0 44)).entryCount = readU32Le (image.drop 16) := by
  apply UInt32.toNat_inj.mp
  rw [readU32Le_drop (by omega)]
  exact readU32Le_header hlen (by decide)

theorem parseTable_ensures (env : Env) (file : File) {fileSize : UInt32} (out : EntriesOut)
    (hlen : 44 ≤ file.contents.length) (hsize : fileSize.toNat = file.contents.length)
    (hmagic : (slice file.contents 0 44).take irximgMagicSize = irximgMagic) :
    Ensures (Holds p h₀ bs)
      (parseTable env file fileSize out (decodeHeader (slice file.contents 0 44)))
      (Parsed env file.contents out p h₀ bs) := by
  have hformat := imageFormat_iff_parsed hlen hsize
  have hcount := header_count hlen
  have hcountNat : (decodeHeader (slice file.contents 0 44)).entryCount.toNat =
      wordAt file.contents 16 := readU32Le_header hlen (by decide)
  unfold parseTable
  refine Ensures.branch (fun hfields => ?_) fun hfields => ?_
  · refine Ensures.ret fun w hw => .format (fun hf => ?_) hw
    rw [(hformat.mp hf).1.2.1] at hfields
    cases hfields
  refine Ensures.branch (fun hlayout => ?_) fun hlayout => ?_
  · refine Ensures.ret fun w hw => .format (fun hf => ?_) hw
    rw [(hformat.mp hf).1.2.2] at hlayout
    cases hlayout
  have hheader : headerOk file.contents fileSize :=
    ⟨hmagic, Bool.eq_false_of_not_eq_true hfields, Bool.eq_false_of_not_eq_true hlayout⟩
  have hchecked := (headerOk_iff hlen hsize).mp hheader
  have htable : (decodeHeader (slice file.contents 0 44)).entryTableOffset.toNat = 44 :=
    ((headerFieldsBad_eq_false _ _).mp hheader.2.1).2.2.2.1
  -- the table is inside the file, so the read can only fail when the device does
  have hread : (slice file.contents 44 (wordAt file.contents 16 * 20)).length =
      wordAt file.contents 16 * 20 := slice_length (by omega)
  rw [htable, hcountNat, show irximgEntrySize.toNat = 20 from rfl]
  refine Ensures.bind (malloc_ensures env) fun table => ?_
  refine Ensures.of_pure fun htableFails => ?_
  refine Ensures.bind (malloc_ensures env) fun entries => ?_
  refine Ensures.of_pure fun hentriesFails => ?_
  match table, entries with
  | none, entries =>
    refine Ensures.bind (freePtr_ensures none) fun _ => ?_
    refine Ensures.bind (freePtr_ensures entries) fun _ => ?_
    exact Ensures.ret fun w hw => .fault (Or.inr rfl) (htableFails rfl) hw
  | some table, none =>
    refine Ensures.bind (free_ensures table) fun _ => ?_
    refine Ensures.bind (freePtr_ensures none) fun _ => ?_
    exact Ensures.ret fun w hw => .fault (Or.inr rfl) (hentriesFails rfl) hw
  | some table, some entries =>
    have hfreeTable : Ensures (Holds p h₀ (entries :: table :: bs)) (free table) fun _ w =>
        Holds p h₀ (entries :: bs) w :=
      (free_ensures table).imp (fun w hw => hw.perm (.swap table entries bs)) fun _ _ h => h
    refine Ensures.bind (seekRead_ensures env file 44 _) fun raw => ?_
    cases raw with
    | none =>
      refine Ensures.of_pure fun hfails => ?_
      refine Ensures.bind hfreeTable fun _ => ?_
      refine Ensures.bind (free_ensures entries) fun _ => ?_
      exact Ensures.ret fun w hw => .fault (Or.inl rfl) (fun hok => hfails hok hread) hw
    | some raw =>
      refine Ensures.of_pure fun hraw => ?_
      obtain ⟨rfl, -⟩ := hraw
      dsimp only
      cases hparse : parseEntries (slice file.contents 44 (wordAt file.contents 16 * 20))
          (decodeHeader (slice file.contents 0 44)).payloadOffset fileSize
          (wordAt file.contents 16) 0 [] with
      | none =>
        refine Ensures.bind hfreeTable fun _ => ?_
        refine Ensures.bind (free_ensures entries) fun _ => ?_
        refine Ensures.ret fun w hw => .format (fun hf => ?_) hw
        rw [(hformat.mp hf).2] at hparse
        cases hparse
      | some parsed =>
        have hparsed : parsed = decodeTable file.contents (wordAt file.contents 16) := by
          have h := ((parseEntries_eq_some _ _ _ _ _ [] _ List.nodup_nil).mp hparse).1
          rwa [List.nil_append, tableEntries_slice] at h
        subst hparsed
        refine Ensures.bind hfreeTable fun _ => ?_
        rw [hcount]
        exact Ensures.ret fun w hw => .ok (hformat.mpr ⟨hheader, hparse⟩) hw

theorem parseImageEntries_ensures (env : Env) (file : File) {fileSize : UInt32} (out : EntriesOut)
    (hlen : 44 ≤ file.contents.length) (hsize : fileSize.toNat = file.contents.length) :
    Ensures (Holds p h₀ bs) (parseImageEntries env file fileSize out)
      (Parsed env file.contents out p h₀ bs) := by
  refine Ensures.bind (seekRead_ensures env file 0 44) fun r => ?_
  cases r with
  | none =>
    refine Ensures.ret fun w hw => .fault (Or.inl rfl) (fun hok => ?_) hw.2
    exact hw.1 hok (slice_length (by omega))
  | some header =>
    refine Ensures.imp (P := fun w => header = slice file.contents 0 44 ∧ Holds p h₀ bs w) ?_
      (fun w hw => ⟨hw.1.1, hw.2⟩) fun _ _ h => h
    refine Ensures.of_pure fun hheader => ?_
    subst hheader
    refine Ensures.branch (fun hmagic => ?_) fun hmagic => ?_
    · refine Ensures.ret fun w hw => .format (fun hf => ?_) hw
      exact hmagic ((imageFormat_iff_parsed hlen hsize).mp hf).1.1
    · exact parseTable_ensures env file out hlen hsize (not_not.mp hmagic)

end

/-- With every read and allocation succeeding, the parser hands out the table of an image in the
format. -/
theorem parseImageEntries_format {env : Env} (henv : env.allOk) (file : File) (out : EntriesOut)
    (w : World) (hformat : ImageFormat file.contents) :
    ∃ block, (parseImageEntries env file (UInt32.ofNat file.contents.length) out w).1 =
      (.ok, ⟨some ⟨block, decodeTable file.contents (wordAt file.contents 16)⟩,
        UInt32.ofNat (wordAt file.contents 16)⟩) := by
  have hlen := hformat.length_ge
  have hsize : (UInt32.ofNat file.contents.length).toNat = file.contents.length := by
    rw [UInt32.toNat_ofNat', Nat.mod_eq_of_lt hformat.length_lt]
  have hcount : readU32Le (file.contents.drop 16) = UInt32.ofNat (wordAt file.contents 16) := by
    apply UInt32.toNat_inj.mp
    rw [readU32Le_drop (by omega), UInt32.toNat_ofNat', Nat.mod_eq_of_lt (wordAt_lt _ 16)]
  have hparsed := parseImageEntries_ensures env file out hlen hsize w ⟨rfl, .refl w.heap⟩
  generalize parseImageEntries env file _ out w = r at hparsed ⊢
  obtain ⟨result, w'⟩ := r
  cases hparsed with
  | @ok block _ _ _ => exact ⟨block, by rw [hcount]⟩
  | format hbad => exact absurd hformat hbad
  | fault _ hfails => exact absurd henv hfails

/-! ## 6. Exactness -/

/-- Two images that differ at most in the manifest checksum, bytes 40 to 43. -/
structure SameButManifestCrc (image image' : Bytes) : Prop where
  length_eq : image'.length = image.length
  agree : ∀ i, i < 40 ∨ 44 ≤ i → image'[i]? = image[i]?

namespace SameButManifestCrc

variable {image image' : Bytes}

theorem take_eq (h : SameButManifestCrc image image') : image'.take 40 = image.take 40 := by
  apply List.ext_getElem?
  intro i
  rw [List.getElem?_take, List.getElem?_take]
  split
  · exact h.agree i (Or.inl ‹_›)
  · rfl

theorem slice_eq (h : SameButManifestCrc image image') (n : Nat) :
    slice image' 44 n = slice image 44 n := by
  have hdrop : image'.drop 44 = image.drop 44 := by
    apply List.ext_getElem?
    intro i
    rw [List.getElem?_drop, List.getElem?_drop]
    exact h.agree (44 + i) (Or.inr (Nat.le_add_right 44 i))
  rw [slice, slice, hdrop]

theorem decodeHeader_eq (h : SameButManifestCrc image image') :
    decodeHeader (slice image' 0 44) = decodeHeader (slice image 0 44) := by
  have hword (k : Nat) (hk : k + 4 ≤ 40) :
      readU32Le ((slice image' 0 44).drop k) = readU32Le ((slice image 0 44).drop k) := by
    apply readU32Le_congr
    change slice (slice image' 0 44) k 4 = slice (slice image 0 44) k 4
    rw [slice_slice (by omega), slice_slice (by omega), Nat.zero_add]
    exact slice_congr h.take_eq hk
  simp only [decodeHeader, hword 8 (by decide), hword 12 (by decide), hword 16 (by decide),
    hword 20 (by decide), hword 24 (by decide), hword 28 (by decide), hword 32 (by decide),
    hword 36 (by decide)]

end SameButManifestCrc

/-- Code that starts with a read behaves the same on two files when the reads are equally long and
what follows treats their bytes alike. -/
theorem seekRead_bind_congr {α : Type} (env : Env) {file file' : File} {offset size : Nat}
    {f f' : Option Bytes → ProviderM α}
    (hlen : (slice file'.contents offset size).length = (slice file.contents offset size).length)
    (hnone : f' none = f none)
    (hsome : f' (some (slice file'.contents offset size)) =
      f (some (slice file.contents offset size))) :
    seekRead env file' offset size >>= f' = seekRead env file offset size >>= f := by
  simp only [seekRead, bind_assoc, hlen]
  refine bind_congr fun seek => ?_
  cases seek with
  | false => exact hnone
  | true =>
    simp only [Bool.not_true, Bool.false_eq_true, if_false, bind_assoc]
    refine bind_congr fun read => ?_
    cases read with
    | false => exact hnone
    | true =>
      simp only [Bool.not_true, Bool.false_eq_true, if_false]
      split
      · exact hnone
      · exact hsome

/-- The stored manifest checksum has no influence on the parser, faults included. -/
theorem parseImageEntries_manifestCrc (env : Env) {file file' : File} (fileSize : UInt32)
    (out : EntriesOut) (h : SameButManifestCrc file.contents file'.contents) :
    parseImageEntries env file' fileSize out = parseImageEntries env file fileSize out := by
  have hsize : irximgHeaderSize.toNat = 44 := rfl
  have hmagic : (slice file'.contents 0 44).take 8 = (slice file.contents 0 44).take 8 := by
    rw [slice_zero, slice_zero, List.take_take, List.take_take]
    exact slice_congr (i := 0) (k := 8) h.take_eq (by decide)
  refine seekRead_bind_congr env ?_ rfl ?_
  · rw [slice, slice, List.length_take, List.length_take, List.drop_zero, List.drop_zero,
      h.length_eq]
  -- the two headers differ in a field that nothing reads
  simp only [hsize, irximgMagicSize, hmagic, h.decodeHeader_eq]
  split
  · rfl
  simp only [parseTable]
  split
  · rfl
  rename_i hfields
  have htable := ((headerFieldsBad_eq_false _ _).mp (Bool.eq_false_of_not_eq_true hfields)).2.2.2.1
  split
  · rfl
  -- the table lies behind the header, where the files are the same
  refine bind_congr fun table => bind_congr fun entries => ?_
  cases table <;> cases entries <;> try rfl
  refine seekRead_bind_congr env ?_ rfl ?_
  · rw [htable, h.slice_eq]
  · rw [htable, h.slice_eq]

/-- With every read and allocation succeeding, `parse_image_entries` accepts exactly the format,
returns the decoded table, and otherwise reports the format error and stores nothing. -/
theorem parseImageEntries_exact {env : Env} (henv : env.allOk) (file : File) (fileSize : UInt32)
    (out : EntriesOut) (w : World) (hlow : 44 ≤ file.contents.length)
    (hsize : fileSize.toNat = file.contents.length) :
    let r := (parseImageEntries env file fileSize out w).1
    (r.1 = .ok ↔ ImageFormat file.contents) ∧
    (r.1 = .ok → r.2.count.toNat = wordAt file.contents 16 ∧
      ∃ block, r.2.entries = some ⟨block, decodeTable file.contents (wordAt file.contents 16)⟩) ∧
    (r.1 ≠ .ok → r = (.errFormat, out)) ∧
    ∀ file' : File, SameButManifestCrc file.contents file'.contents →
      parseImageEntries env file' fileSize out w = parseImageEntries env file fileSize out w := by
  intro r
  have hcrc (file' : File) (h : SameButManifestCrc file.contents file'.contents) :
      parseImageEntries env file' fileSize out w = parseImageEntries env file fileSize out w :=
    congrFun (parseImageEntries_manifestCrc env fileSize out h) w
  have hparsed : Parsed env file.contents out w.provider w.heap [] r _ :=
    parseImageEntries_ensures env file out hlow hsize w ⟨rfl, .refl w.heap⟩
  generalize r = r at hparsed ⊢
  cases hparsed with
  | ok hformat =>
    refine ⟨iff_of_true rfl hformat, fun _ => ⟨readU32Le_drop (by omega), _, rfl⟩, ?_, hcrc⟩
    exact fun h => absurd rfl h
  | format hbad =>
    exact ⟨iff_of_false (fun h => ImgError.noConfusion h) hbad, fun h => ImgError.noConfusion h,
      fun _ => rfl, hcrc⟩
  | fault _ hfails => exact absurd henv hfails

theorem parseImageEntries_exact_memcard :
    let r := (parseImageEntries ⟨fun _ => none, fun _ => true, none⟩ ⟨0, memcardImage⟩ 176
      ⟨none, 0⟩ World.initial).1
    r.1 = .ok ∧ r.2.count.toNat = 3 ∧ ∃ block, r.2.entries = some ⟨block, memcardTable⟩ := by
  intro r
  obtain ⟨hok, hout, -⟩ := @parseImageEntries_exact ⟨fun _ => none, fun _ => true, none⟩
    (fun _ => rfl) ⟨0, memcardImage⟩ 176 ⟨none, 0⟩ World.initial (by decide +kernel)
    (by decide +kernel)
  have hr : r.1 = .ok := hok.mpr memcardImage_format
  obtain ⟨hcount, hentries⟩ := hout hr
  have hthree : wordAt memcardImage 16 = 3 := by decide +kernel
  rw [memcardImage_table] at hentries
  exact ⟨hr, hcount.trans hthree, hentries⟩

/-! ## 7. Looking an entry up -/

def findEntry (entries : List ImageEntry) (entryCount id : UInt32) : Option ImageEntry :=
  (entries.take entryCount.toNat).find? (·.id == id)

def imageEntry (image : Bytes) (id : UInt32) : Option ImageEntry :=
  (decodeTable image (wordAt image 16)).find? (·.id == id)

theorem findEntry_decodeTable {image : Bytes} (hlen : 44 ≤ image.length) (id : UInt32) :
    findEntry (decodeTable image (wordAt image 16)) (readU32Le (image.drop 16)) id =
      imageEntry image id := by
  rw [findEntry, readU32Le_drop (by omega), List.take_of_length_le (by simp [decodeTable])]
  rfl

theorem imageEntry_some {image : Bytes} {id : UInt32} {e : ImageEntry}
    (h : imageEntry image id = some e) :
    e ∈ decodeTable image (wordAt image 16) ∧ e.id = id :=
  ⟨List.mem_of_find?_eq_some h, by simpa using List.find?_some h⟩

/-- Every id of the table is found. -/
theorem imageEntry_of_mem {image : Bytes} {id : UInt32}
    (h : id ∈ (decodeTable image (wordAt image 16)).map (·.id)) :
    ∃ e, imageEntry image id = some e := by
  obtain ⟨e, he, heid⟩ := List.mem_map.mp h
  apply Option.isSome_iff_exists.mp
  rw [imageEntry, List.find?_isSome]
  exact ⟨e, he, beq_iff_eq.mpr heid⟩

end Ps2Drivers
