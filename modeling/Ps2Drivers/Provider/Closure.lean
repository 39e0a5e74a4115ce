import Ps2Drivers.Image.LongLines
import Ps2Drivers.Image.Pack
import Ps2Drivers.Provider.Source
import Ps2Drivers.Provider.Payload

/-!
# Ids of the manifest and the bitmap of the runtime

The build takes the ids of the modules from the manifest, where any non-zero 32-bit number will do.
It pastes their texts into the C source, where a number with a 0 in front is octal.  The runtime
marks the requested ids in an array with as many places as an image has entries, and passes over an
id that is greater.
-/

open Binary CString

namespace Ps2Drivers

/-! ## 1. The generated ids -/

/-- The part of the macro's name that follows `PS2_IRX_ID_` in the runtime. -/
def irxIdMacro : Irx → Bytes
  | .sio2man => lit "SIO2MAN"
  | .iomanX => lit "IOMANX"
  | .fileXio => lit "FILEXIO"
  | .mcman => lit "MCMAN"
  | .mcserv => lit "MCSERV"
  | .bdm => lit "BDM"
  | .bdmfsFatfs => lit "BDMFS_FATFS"
  | .usbd => lit "USBD"
  | .usbmassBd => lit "USBMASS_BD"
  | .mx4sioBd => lit "MX4SIO_BD"
  | .cdfs => lit "CDFS"
  | .ps2dev9 => lit "PS2DEV9"
  | .ps2atad => lit "PS2ATAD"
  | .ps2hdd => lit "PS2HDD"
  | .ps2fs => lit "PS2FS"
  | .mtapman => lit "MTAPMAN"
  | .padman => lit "PADMAN"
  | .libsd => lit "LIBSD"
  | .audsrv => lit "AUDSRV"
  | .poweroff => lit "POWEROFF"
  | .ps2mouse => lit "PS2MOUSE"
  | .ps2kbd => lit "PS2KBD"
  | .ps2cam => lit "PS2CAM"
  | .netman => lit "NETMAN"
  | .smap => lit "SMAP"
  | .ps2ipNm => lit "PS2IP_NM"
  | .ps2ips => lit "PS2IPS"

def manifestModules : List Irx :=
  [.sio2man, .iomanX, .fileXio, .mcman, .mcserv, .bdm, .bdmfsFatfs, .usbd, .usbmassBd, .mx4sioBd,
    .cdfs, .ps2dev9, .ps2atad, .ps2hdd, .ps2fs, .mtapman, .padman, .libsd, .audsrv, .poweroff,
    .ps2mouse, .ps2kbd, .ps2cam, .netman, .smap, .ps2ipNm, .ps2ips]

theorem mem_manifestModules (module : Irx) : module ∈ manifestModules := by
  cases module <;> decide

/-- `string(TOUPPER ..)`, then `string(REPLACE "-" "_" ..)`, on the name of an entry. -/
def idMacro (name : Bytes) : Bytes :=
  name.map fun c => if 97 ≤ c ∧ c ≤ 122 then c - 32 else if c = 45 then 95 else c

/-- The lines of a manifest for CMake, which reads them whole (`file(STRINGS ..)`, of a text that is
printable) and strips them (`string(STRIP ..)`). -/
def manifestLines (text : Bytes) : List Bytes := (physicalLines text).map trimLine

/-- The items of a list of CMake after `string(REPLACE "|" ";" ..)`, in a line without brackets and
backslashes. -/
def manifestFields (line : Bytes) : List Bytes :=
  (line.map fun c => if c = 124 then 59 else c).splitOn 59

/-- The loop of `CMakeLists.txt` that makes `ps2_irx_ids.h`: for each entry the macro, without
`PS2_IRX_ID_`, and the text of the id, which it defines the macro with and compiles the descriptor
of the module with.  `none` is the fatal error. -/
def irxIdsHeader : List Bytes → Option (List (Bytes × Bytes))
  | [] => some []
  | line :: lines =>
    if line.head? = none ∨ line.head? = some 35 then irxIdsHeader lines
    else
      match manifestFields line with
      | [irxId, _, _, irxName] => (irxIdsHeader lines).map ((idMacro irxName, irxId) :: ·)
      | _ => none

/-- The ids of the runtime are those of the header that is generated from the manifest, as the
compiler reads them.  To define a macro a second time, as something else, is an error (`-Werror`). -/
def GeneratedFrom (text : Bytes) (ids : Irx → UInt32) : Prop :=
  ∃ header, irxIdsHeader (manifestLines text) = some header ∧
    ∀ module, ∃ irxId, (∀ other, (irxIdMacro module, other) ∈ header ↔ other = irxId) ∧
      constantU32 irxId = some (ids module)

/-- The ids under which the packer packs the module: those of the entries whose names make its
macro.  (There can be more than one, as the end of a long comment is an entry for the packer.) -/
def Manifest.idsOf (m : Manifest) (module : Irx) : List UInt32 :=
  (m.entries.filter fun e => irxIdMacro module == idMacro e.name).map (·.id)

/-- For the compiler the ids of the modules that the drivers of the mask need are those of the
manifest, and they all have a place in the bitmap. -/
def NeededFit (m : Manifest) (ids : Irx → UInt32) (driverRequirements : UInt32) : Prop :=
  ∀ module ∈ requiredModules driverRequirements, ∀ id ∈ m.idsOf module,
    ids module = id ∧ id ≤ irximgMaxEntries

/-! ## 2. Two readers of one line -/

section

variable {line irxId filename symbol irxName : Bytes} {es : List ManifestEntry}

theorem mem_irxIdsHeader {lines : List Bytes} {header : List (Bytes × Bytes)}
    (h : irxIdsHeader lines = some header) {key : Bytes} (hrow : (key, irxId) ∈ header) :
    ∃ line ∈ lines, line ≠ [] ∧ ∃ filename symbol irxName,
      manifestFields line = [irxId, filename, symbol, irxName] ∧ key = idMacro irxName := by
  induction lines generalizing header with
  | nil =>
    obtain rfl := Option.some.inj h
    cases hrow
  | cons line lines ih =>
    rw [irxIdsHeader] at h
    split at h
    · exact (ih h hrow).imp fun _ h => ⟨List.mem_cons_of_mem _ h.1, h.2⟩
    · rename_i htext
      split at h
      · rename_i irxId' filename symbol irxName hfields
        obtain ⟨rest, hrest, rfl⟩ := Option.map_eq_some_iff.mp h
        rcases List.mem_cons.mp hrow with hrow | hrow
        · obtain ⟨rfl, rfl⟩ := Prod.mk.inj hrow
          refine ⟨line, List.mem_cons_self, ?_, filename, symbol, irxName, hfields, rfl⟩
          rintro rfl
          exact htext (Or.inl rfl)
        · exact (ih hrest hrow).imp fun _ h => ⟨List.mem_cons_of_mem _ h.1, h.2⟩
      · cases h

/-- Four tokens of `strtok` inside four items of the list use up the bars, and leave no
semicolon. -/
theorem manifestFields_around {w s z : Bytes} {tokens : List Bytes}
    (hfields : (manifestFields (w ++ s ++ z)).length = 4) (htokens : tokensOf 124 s = tokens)
    (hlength : tokens.length = 4) : s.splitOn 124 = tokens ∧ 124 ∉ w ∧ 124 ∉ z ∧
      manifestFields (w ++ s ++ z) = (w ++ s ++ z).splitOn 124 := by
  have hparts := tokensOf_length_le 124 s
  rw [manifestFields, length_splitOn, count_replace _ _ (by decide), List.count_append,
    List.count_append] at hfields
  rw [htokens, length_splitOn] at hparts
  have hw : 124 ∉ w := List.count_eq_zero.mp (by omega)
  have hz : 124 ∉ z := List.count_eq_zero.mp (by omega)
  have hsemicolon : 59 ∉ w ++ s ++ z := List.count_eq_zero.mp (by omega)
  refine ⟨?_, hw, hz, splitOn_replace hsemicolon⟩
  rw [← htokens, eq_comm, tokensOf, List.filter_eq_self, ← List.length_filter_eq_length_iff]
  rw [length_splitOn, ← tokensOf, htokens]
  omega

/-- The characters that hide a line from the loop of `load_manifest` would be in the id. -/
theorem mem_manifestFields {w more : Bytes} {c : UInt8}
    (hfields : manifestFields (w ++ c :: more) = [irxId, filename, symbol, irxName])
    (hw : ∀ c ∈ w, isLineEnd c = true) (hc : c = 0 ∨ c = 35) : c ∈ irxId := by
  have hplain : ∀ d ∈ w ++ [c], d ≠ 124 ∧ d ≠ 59 := by
    rw [List.forall_mem_append, List.forall_mem_singleton]
    constructor
    · intro d hd
      constructor <;> rintro rfl <;> exact absurd (hw _ hd) (by decide)
    · rcases hc with rfl | rfl <;> decide
  have hkept : ((w ++ [c]).map fun c => if c = 124 then 59 else c) = w ++ [c] :=
    (List.map_congr_left fun d hd => if_neg (hplain d hd).1).trans (List.map_id' _)
  have hsemicolon : 59 ∉ w ++ [c] := fun h => (hplain 59 h).2 rfl
  rw [manifestFields, List.append_cons, List.map_append, hkept] at hfields
  obtain ⟨t, ts, hmore⟩ := List.exists_cons_of_ne_nil (List.splitOn_ne_nil (59 : UInt8)
    (more.map fun c => if c = 124 then 59 else c))
  rw [splitOn_front hsemicolon hmore, List.cons.injEq] at hfields
  rw [← hfields.1]
  simp

/-- What CMake and the loop of `load_manifest` make of one line. -/
theorem header_entry (h : ContributeAll (pieces 512 line) es) (hne : trimLine line ≠ [])
    (hfields : manifestFields (trimLine line) = [irxId, filename, symbol, irxName])
    (hid : 0 ∉ irxId ∧ 35 ∉ irxId) (hname : 0 ∉ irxName ∧ 35 ∉ irxName) :
    ∃ e ∈ es, e.name = irxName ∧ parseU32 irxId = some e.id := by
  rcases text_of_line h hne with ⟨w, c, more, htrim, hw, hc⟩ |
    ⟨e, he, w, s, z, id, htrim, hw, htokens, hparse, hz⟩
  · rw [htrim] at hfields
    have hmem := mem_manifestFields hfields hw hc
    rcases hc with rfl | rfl
    · exact absurd hmem hid.1
    · exact absurd hmem hid.2
  · rw [htrim] at hfields
    obtain ⟨hsplit, hwbar, hzbar, hsame⟩ :=
      manifestFields_around (congrArg List.length hfields) htokens rfl
    have hfront : (w ++ s).splitOn 124 = [w ++ id, e.filename, e.symbol] ++ [e.name] :=
      splitOn_front hwbar hsplit
    rw [hsame, splitOn_behind hzbar hfront] at hfields
    simp only [List.cons_append, List.nil_append, List.cons.injEq] at hfields
    obtain ⟨rfl, -, -, rfl, -⟩ := hfields
    -- a hidden character behind the record would be in the name
    obtain rfl := hz hzbar (fun h => hname.1 (List.mem_append_right _ h))
      fun h => hname.2 (List.mem_append_right _ h)
    refine ⟨e, he, (List.append_nil _).symm, ?_⟩
    rw [parseU32_space fun c hc => isSpace_of_isLineEnd (hw c hc), hparse]

end

/-- The compiler never makes more of an id than `parse_u32` does. -/
theorem constantU32_le_parseU32 {text : Bytes} {id c : UInt32} (hid : parseU32 text = some id)
    (hconst : constantU32 text = some c) : c.toNat ≤ id.toNat := by
  dsimp only [parseU32] at hid
  split at hid
  · cases hid
  · rename_i hread
    simp only [Bool.or_eq_true, not_or, Bool.not_eq_true, Bool.not_eq_false', bne_eq_false_iff_eq,
      decide_eq_true_iff, not_lt] at hread
    obtain ⟨⟨⟨hrange, hconverted⟩, hrest⟩, hvalue⟩ := hread
    obtain rfl := Option.some.inj hid
    rw [UInt32.toNat_ofNat', Nat.mod_eq_of_lt (by omega)]
    exact constantU32_le hconst hconverted hrest hrange (by omega)

/-! ## 3. What is requested and staged -/

/-- Values that cover larger ones which are all different are equal to them. -/
theorem eq_of_covers {ι : Type} {s : Set ι} {f g : ι → Nat} {bound : Nat}
    (hbound : ∀ i ∈ s, f i ≤ bound) (hinj : Set.InjOn f s) (hle : ∀ i ∈ s, g i ≤ f i)
    (hcover : ∀ i ∈ s, ∃ j ∈ s, g j = f i) : ∀ i ∈ s, g i = f i := by
  -- where they differ, they differ at a still larger value
  have hrest (n : Nat) : ∀ i ∈ s, bound < f i + n → g i = f i := by
    induction n with
    | zero => exact fun i hi hlt => absurd (hbound i hi) (Nat.not_le_of_lt hlt)
    | succ n ih =>
      intro i hi hlt
      obtain ⟨j, hj, hcovers⟩ := hcover i hi
      by_cases hsame : g j = f j
      · rw [hinj hj hi (hsame.symm.trans hcovers)] at hcovers
        exact hcovers
      · have hless := hle j hj
        exact absurd (ih j hj (by omega)) hsame
  exact fun i hi => hrest (bound + 1) i hi (by omega)

theorem nodup_irxIdMacro : (manifestModules.map irxIdMacro).Nodup := by decide +kernel

theorem irxIdMacro_injective : Function.Injective irxIdMacro := by
  intro module other h
  exact List.inj_on_of_nodup_map nodup_irxIdMacro (mem_manifestModules module)
    (mem_manifestModules other) h

section

variable {host : Host} {manifestPath text : Bytes} {m : Manifest} {ids : Irx → UInt32}

theorem mem_idsOf {module : Irx} {id : UInt32} :
    id ∈ m.idsOf module ↔ ∃ e ∈ m.entries, irxIdMacro module = idMacro e.name ∧ e.id = id := by
  simp only [Manifest.idsOf, List.mem_map, List.mem_filter, beq_iff_eq, and_assoc]

/-- A constant of the runtime is taken from an entry, and is at most the id of it. -/
theorem GeneratedFrom.entry (hfile : host.file manifestPath = some text)
    (hload : loadManifest host manifestPath = .ok m) (h : GeneratedFrom text ids) (module : Irx) :
    ∃ id ∈ m.idsOf module, (ids module).toNat ≤ id.toNat := by
  obtain ⟨-, -, hlines⟩ := (loadManifest_iff hfile).mp hload
  rw [readLines_eq (by decide)] at hlines
  obtain ⟨header, hheader, hdefined⟩ := h
  obtain ⟨irxId, hrow, hconst⟩ := hdefined module
  obtain ⟨_, hmem, hne, filename, symbol, irxName, hfields, hkey⟩ :=
    mem_irxIdsHeader hheader ((hrow irxId).mpr rfl)
  obtain ⟨line, hline, rfl⟩ := List.mem_map.mp hmem
  obtain ⟨es, hes, hsub⟩ := hlines.pieces_of hline
  have hname (c : UInt8) (hc : c ∉ irxIdMacro module) (hkept : idMacro [c] = [c]) : c ∉ irxName := by
    intro hmem
    rw [hkey] at hc
    exact hc (List.mem_map.mpr ⟨c, hmem, List.singleton_inj.mp hkept⟩)
  obtain ⟨e, he, rfl, hid⟩ := header_entry hes hne hfields
    ⟨not_mem_of_constantU32 (by decide) (by decide) (by decide) hconst,
      not_mem_of_constantU32 (by decide) (by decide) (by decide) hconst⟩
    ⟨hname 0 (by cases module <;> decide) rfl, hname 35 (by cases module <;> decide) rfl⟩
  exact ⟨e.id, mem_idsOf.mpr ⟨e, hsub he, hkey, rfl⟩, constantU32_le_parseU32 hid hconst⟩

theorem Manifest.WellFormed.idsOf_pos (hm : m.WellFormed) {module : Irx} {id : UInt32}
    (h : id ∈ m.idsOf module) : 1 ≤ id := by
  obtain ⟨e, he, -, rfl⟩ := mem_idsOf.mp h
  have hne : e.id.toNat ≠ 0 := (toNat_ne_zero_iff _).mpr (hm.entries.each e he).id_ne_zero
  rw [UInt32.le_iff_toNat_le]
  exact Nat.one_le_iff_ne_zero.mpr hne

/-- An id is the id of one module at most. -/
theorem Manifest.WellFormed.idsOf_disjoint (hm : m.WellFormed) {module other : Irx} {id : UInt32}
    (h : id ∈ m.idsOf module) (h' : id ∈ m.idsOf other) : module = other := by
  obtain ⟨e, he, hkey, rfl⟩ := mem_idsOf.mp h
  obtain ⟨e', he', hkey', hid⟩ := mem_idsOf.mp h'
  obtain rfl : e' = e := List.inj_on_of_nodup_map hm.entries.distinct he' he hid
  exact irxIdMacro_injective (hkey.trans hkey'.symm)

/-- A mask requests the modules that its drivers need, under their ids of the manifest, exactly when
these are the ids the compiler has read and they fit. -/
theorem needed_requested_iff (hfile : host.file manifestPath = some text)
    (hload : loadManifest host manifestPath = .ok m) (hids : GeneratedFrom text ids)
    (driverRequirements : UInt32) :
    (∀ module ∈ requiredModules driverRequirements, ∀ id ∈ m.idsOf module,
      expandRequirements ids driverRequirements id = true) ↔
      NeededFit m ids driverRequirements := by
  have hm := loadManifest_wellFormed hload
  simp only [expandRequirements_eq_true]
  constructor
  · intro hrequested
    choose id hid hle using hids.entry hfile hload
    have hinj : Set.InjOn (fun module => (id module).toNat)
        (requiredModules driverRequirements) := by
      intro module _ other _ hsame
      exact hm.idsOf_disjoint (hid module) (UInt32.toNat_inj.mp hsame ▸ hid other)
    have hsame := eq_of_covers (fun module _ => (id module).toNat_lt.le) hinj
      (fun module _ => hle module) fun module hneeded =>
        (hrequested module hneeded _ (hid module)).imp fun _ h =>
          ⟨h.1, congrArg UInt32.toNat h.2.1⟩
    intro module hneeded id' hid'
    obtain ⟨other, hother, rfl, hfits⟩ := hrequested module hneeded id' hid'
    -- the id of the manifest that the other module has is the same one
    have heq : ids other = id other := UInt32.toNat_inj.mp (hsame other hother)
    rw [hm.idsOf_disjoint hid' (heq ▸ hid other)]
    exact ⟨rfl, hfits⟩
  · intro hfit module hneeded id hid
    obtain ⟨rfl, hfits⟩ := hfit module hneeded id hid
    exact ⟨module, hneeded, rfl, hfits⟩

/-- With the ids that are generated from a manifest the packer accepts, which has every module of the
runtime, the drivers of a mask get every module they need exactly when the compiler reads the ids of
these modules as the packer does and they are at most 128.  An id above is not requested, and
neither is one that is read differently: a staging that returns `OK` has left the module out. -/
theorem staging_complete_iff (hfile : host.file manifestPath = some text)
    (hload : loadManifest host manifestPath = .ok m) (hids : GeneratedFrom text ids) :
    (∀ module, m.idsOf module ≠ []) ∧
    (∀ driverRequirements,
      (∀ module ∈ requiredModules driverRequirements, ∀ id ∈ m.idsOf module,
        expandRequirements ids driverRequirements id = true) ↔
      NeededFit m ids driverRequirements) ∧
    ∀ (steps : List (Env × ProviderOp)) (env : Env) (call : StageCall),
      let w := runProvider ids steps World.initial
      let staged := call.run ids env w
      let driverRequirements := ((call.event env).after w.provider.remembered).2
      staged.1 = .ok →
        ((∀ module ∈ requiredModules driverRequirements, ∀ id ∈ m.idsOf module,
          staged.2.provider.payload id ≠ none) ↔ NeededFit m ids driverRequirements) := by
  refine ⟨fun module => ?_, needed_requested_iff hfile hload hids, ?_⟩
  · obtain ⟨id, hid, -⟩ := hids.entry hfile hload module
    exact List.ne_nil_of_mem hid
  intro steps env call w staged driverRequirements hok
  have hw : w.Valid := runProvider_valid ids steps World.initial_valid
  -- what is staged are the requested ids, each with the payload found in the image
  obtain ⟨hvalid, hstaged, path, image, -, -, hfound⟩ :=
    (call.run_outcome hw hok).payload hw.invariant rfl
  rw [← needed_requested_iff hfile hload hids]
  refine forall₂_congr fun module hneeded => forall₂_congr fun id hid => ?_
  have hrequested : id ∈ requestedIds ids driverRequirements ↔
      expandRequirements ids driverRequirements id = true := by
    rw [requestedIds, List.mem_filter, mem_moduleIds, and_iff_right_iff_imp]
    intro hexpand
    obtain ⟨other, -, rfl, hle⟩ := (expandRequirements_eq_true _ _ _).mp hexpand
    exact ⟨(loadManifest_wellFormed hload).idsOf_pos hid, hle⟩
  rw [← hrequested]
  constructor
  · intro hpayload
    have hmem := Provider.mem_ids_of_payload hvalid.invariant hpayload
    rwa [hstaged] at hmem
  · intro hmem
    obtain ⟨e, data, -, -, hpayload, -⟩ := hfound id hmem
    rw [hpayload]
    exact Option.some_ne_none _

end

/-! ## 4. The manifest of the repository, and two others -/

/-- The lines of `irx/manifest.txt`: the id, in binary and as text, the name, and the name as it
stands in the symbol.  The id of `cdfs` is a parameter. -/
def irxManifestLines (cdfsId : UInt32) (cdfsText : Bytes) : List (UInt32 × Bytes × Bytes × Bytes) :=
  [(1, lit "1", lit "sio2man", lit "sio2man"), (2, lit "2", lit "iomanX", lit "iomanX"),
    (3, lit "3", lit "fileXio", lit "fileXio"), (4, lit "4", lit "mcman", lit "mcman"),
    (5, lit "5", lit "mcserv", lit "mcserv"), (6, lit "6", lit "bdm", lit "bdm"),
    (7, lit "7", lit "bdmfs_fatfs", lit "bdmfs_fatfs"), (8, lit "8", lit "usbd", lit "usbd"),
    (9, lit "9", lit "usbmass_bd", lit "usbmass_bd"),
    (10, lit "10", lit "mx4sio_bd", lit "mx4sio_bd"), (cdfsId, cdfsText, lit "cdfs", lit "cdfs"),
    (12, lit "12", lit "ps2dev9", lit "ps2dev9"), (13, lit "13", lit "ps2atad", lit "ps2atad"),
    (14, lit "14", lit "ps2hdd", lit "ps2hdd"), (15, lit "15", lit "ps2fs", lit "ps2fs"),
    (16, lit "16", lit "mtapman", lit "mtapman"), (17, lit "17", lit "padman", lit "padman"),
    (18, lit "18", lit "libsd", lit "libsd"), (19, lit "19", lit "audsrv", lit "audsrv"),
    (20, lit "20", lit "poweroff", lit "poweroff"), (21, lit "21", lit "ps2mouse", lit "ps2mouse"),
    (22, lit "22", lit "ps2kbd", lit "ps2kbd"), (23, lit "23", lit "ps2cam", lit "ps2cam"),
    (24, lit "24", lit "netman", lit "netman"), (25, lit "25", lit "smap", lit "smap"),
    (26, lit "26", lit "ps2ip-nm", lit "ps2ip_nm"), (27, lit "27", lit "ps2ips", lit "ps2ips")]

def irxManifestText (lines : List (UInt32 × Bytes × Bytes × Bytes)) : Bytes :=
  lit "# id|filename|embedded_symbol|name" ++ 10 :: lines.flatMap fun line =>
    line.2.1 ++ lit "|" ++ line.2.2.1 ++ lit ".irx|" ++ line.2.2.2 ++ lit "_irx|" ++
      line.2.2.1 ++ [10]

def irxManifestOf (lines : List (UInt32 × Bytes × Bytes × Bytes)) : Manifest :=
  let entries := lines.map fun line =>
    ⟨line.1, line.2.2.1 ++ lit ".irx", line.2.2.2 ++ lit "_irx", line.2.2.1⟩
  ⟨entries, manifestLogicalCrc entries⟩

/-- The manifest as it is, and the id of `cdfs` too large, and with a 0 in front. -/
def repositoryLines : List (UInt32 × Bytes × Bytes × Bytes) := irxManifestLines 11 (lit "11")

def largeIdLines : List (UInt32 × Bytes × Bytes × Bytes) := irxManifestLines 200 (lit "200")

def octalIdLines : List (UInt32 × Bytes × Bytes × Bytes) := irxManifestLines 11 (lit "011")

/-- What the compiler makes of the id of `cdfs` in each of them. -/
def largeIds (module : Irx) : UInt32 := if module = .cdfs then 200 else irxId module

def octalIds (module : Irx) : UInt32 := if module = .cdfs then 9 else irxId module

theorem loadManifest_of_lines {host : Host} {path text : Bytes} {entries : List ManifestEntry}
    (hfile : host.file path = some text)
    (hlines : loadLines host 0 (readLines 512 text.length text) [] = .ok entries)
    (hne : entries.length ≠ 0) :
    loadManifest host path = .ok ⟨entries, manifestLogicalCrc entries⟩ := by
  unfold loadManifest
  rw [hfile]
  dsimp only
  rw [hlines]
  exact if_neg hne

def headerOf (lines : List (UInt32 × Bytes × Bytes × Bytes)) : List (Bytes × Bytes) :=
  lines.map fun line => (idMacro line.2.2.1, line.2.1)

theorem generatedFrom_of_lookup {text : Bytes} {ids : Irx → UInt32} (cdfsId : UInt32)
    (cdfsText : Bytes)
    (hheader : irxIdsHeader (manifestLines text) = some (headerOf (irxManifestLines cdfsId cdfsText)))
    (hids : ∀ module ∈ manifestModules,
      ((headerOf (irxManifestLines cdfsId cdfsText)).lookup (irxIdMacro module)).bind constantU32 =
        some (ids module)) :
    GeneratedFrom text ids := by
  have hkeys : (headerOf (irxManifestLines cdfsId cdfsText)).map Prod.fst =
      manifestModules.map irxIdMacro := rfl
  have hnodup := nodup_irxIdMacro
  rw [← hkeys] at hnodup
  refine ⟨_, hheader, fun module => ?_⟩
  obtain ⟨irxId, hlookup, hconst⟩ :=
    Option.bind_eq_some_iff.mp (hids module (mem_manifestModules module))
  obtain ⟨front, back, hsplit, -⟩ := List.lookup_eq_some_iff.mp hlookup
  have hmem : (irxIdMacro module, irxId) ∈ headerOf (irxManifestLines cdfsId cdfsText) := by
    rw [hsplit]
    exact List.mem_append_right _ List.mem_cons_self
  refine ⟨irxId, fun other => ⟨fun hother => ?_, ?_⟩, hconst⟩
  · exact congrArg Prod.snd (List.inj_on_of_nodup_map hnodup hother hmem rfl)
  · rintro rfl
    exact hmem

/-- The constants of the model are the generated ones. -/
theorem generatedFrom_irxId : GeneratedFrom (irxManifestText repositoryLines) irxId :=
  generatedFrom_of_lookup 11 (lit "11") (by decide +kernel) (by decide +kernel)

/-- With them every driver gets what it needs. -/
theorem neededFit_irxId (driverRequirements : UInt32) :
    NeededFit (irxManifestOf repositoryLines) irxId driverRequirements := by
  have hall : ∀ module ∈ manifestModules,
      (irxManifestOf repositoryLines).idsOf module = [irxId module] := by decide +kernel
  intro module _ id hid
  rw [hall module (mem_manifestModules module), List.mem_singleton] at hid
  rw [hid]
  exact ⟨rfl, (irxId_range module).2⟩

/-- An image with the modules 1 and 9 only, each of one byte. -/
def withoutCdfsEnv : Env where
  file _ := some (packedImage
    ⟨[⟨1, lit "i", lit "s", lit "sio2man"⟩, ⟨9, lit "i", lit "s", lit "usbmass_bd"⟩], 0⟩ [[1], [9]])
  ok _ := true
  getcwd := none

/-- Stage what `sio2man` and `cdfs` need. -/
def cdfsCall : StageCall := .stageDefault (Driver.sio2man.req ||| Driver.cdfs.req)

theorem cdfs_needed (env : Env) (w : World) :
    Irx.cdfs ∈ requiredModules ((cdfsCall.event env).after w.provider.remembered).2 := by
  refine ⟨.cdfs, ?_, by decide⟩
  show requires (Driver.sio2man.req ||| Driver.cdfs.req) .cdfs = true
  decide

/-- The id of `cdfs`, the packer's 11, is octal to the compiler, the 9 of another module. -/
theorem staging_complete_iff_octalId :
    let w := runProvider octalIds [] World.initial
    let staged := cdfsCall.run octalIds withoutCdfsEnv w
    let driverRequirements := ((cdfsCall.event withoutCdfsEnv).after w.provider.remembered).2
    ((∀ module ∈ requiredModules driverRequirements,
      ∀ id ∈ (irxManifestOf octalIdLines).idsOf module, staged.2.provider.payload id ≠ none) ↔
      NeededFit (irxManifestOf octalIdLines) octalIds driverRequirements) ∧
    ¬ NeededFit (irxManifestOf octalIdLines) octalIds driverRequirements := by
  have hload : loadManifest (textHost (irxManifestText octalIdLines)) (lit "m") =
      .ok (irxManifestOf octalIdLines) :=
    loadManifest_of_lines rfl (by decide +kernel) (by decide)
  have hgenerated : GeneratedFrom (irxManifestText octalIdLines) octalIds :=
    generatedFrom_of_lookup 11 (lit "011") (by decide +kernel) (by decide +kernel)
  have hstaged : (cdfsCall.run octalIds withoutCdfsEnv
      (runProvider octalIds [] World.initial)).1 = .ok := by decide +kernel
  have hid : 11 ∈ (irxManifestOf octalIdLines).idsOf .cdfs := by decide +kernel
  exact ⟨(staging_complete_iff rfl hload hgenerated).2.2 [] withoutCdfsEnv cdfsCall hstaged,
    fun h => absurd (h .cdfs (cdfs_needed _ _) 11 hid).1 (by decide)⟩

/-- Staging succeeds without the module whose id is 200. -/
theorem staging_omits_module :
    ¬ ∀ (host : Host) (manifestPath text : Bytes) (m : Manifest) (ids : Irx → UInt32)
        (steps : List (Env × ProviderOp)) (env : Env) (call : StageCall) (module : Irx) (id : UInt32),
      let w := runProvider ids steps World.initial
      let staged := call.run ids env w
      host.file manifestPath = some text → loadManifest host manifestPath = .ok m →
      GeneratedFrom text ids → staged.1 = .ok →
      module ∈ requiredModules ((call.event env).after w.provider.remembered).2 →
      id ∈ m.idsOf module → staged.2.provider.payload id ≠ none := by
  intro h
  have hload : loadManifest (textHost (irxManifestText largeIdLines)) (lit "m") =
      .ok (irxManifestOf largeIdLines) :=
    loadManifest_of_lines rfl (by decide +kernel) (by decide)
  have hgenerated : GeneratedFrom (irxManifestText largeIdLines) largeIds :=
    generatedFrom_of_lookup 200 (lit "200") (by decide +kernel) (by decide +kernel)
  have hstaged : (cdfsCall.run largeIds withoutCdfsEnv
      (runProvider largeIds [] World.initial)).1 = .ok := by decide +kernel
  have habsent : (cdfsCall.run largeIds withoutCdfsEnv
      (runProvider largeIds [] World.initial)).2.provider.payload 200 = none := by decide +kernel
  exact h (textHost (irxManifestText largeIdLines)) (lit "m") _ (irxManifestOf largeIdLines)
    largeIds [] withoutCdfsEnv cdfsCall .cdfs 200 rfl hload hgenerated hstaged (cdfs_needed _ _)
    (by decide +kernel) habsent

end Ps2Drivers
