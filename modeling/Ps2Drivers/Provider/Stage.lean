import Ps2Drivers.Provider.Parse

/-!
# Staging

`stage_from_path` of `ps2_drivers_img.c`: open the image, parse it, copy the requested modules out
one by one, and only then replace the globals.
-/

open Binary

namespace Ps2Drivers

/-! ## 1. The code -/

/-- The module ids in the order of the loops over `requested`. -/
def moduleIds : List UInt32 := (List.range' 1 irximgMaxEntries.toNat).map UInt32.ofNat

def badRequirements (driverRequirements : UInt32) : Bool :=
  driverRequirements == 0 || (driverRequirements &&& ~~~ reqKnownMask) != 0

def freeStagedArray (modules : Option StagedArray) (capacity : Nat) : ProviderM Unit := do
  match modules with
  | none => return ()
  | some array =>
    (array.slots.take capacity).forM fun slot => freePtr (slot.data.map (·.block))
    free array.block

/-- The assignments to the four `g_staged_*` globals. -/
def Provider.setStaged (p : Provider) (modules : Option StagedArray)
    (capacity count bytes : Nat) : Provider :=
  { p with
    stagedModules := modules
    stagedCapacity := capacity
    stagedCount := count
    stagedBytes := bytes }

/-- The staging loop over `ids`: the error, the slot array and the byte total it leaves.  Each
iteration fills `staged[stagedIndex]`. -/
def stageModules (env : Env) (file : File) (entries : List ImageEntry) (entryCount : UInt32)
    (requested : UInt32 → Bool) :
    List UInt32 → List StagedModule → Nat → Nat → ProviderM (ImgError × List StagedModule × Nat)
  | [], staged, _, stagedBytes => return (.ok, staged, stagedBytes)
  | id :: ids, staged, stagedIndex, stagedBytes => do
    if !requested id then
      stageModules env file entries entryCount requested ids staged stagedIndex stagedBytes
    else
      match findEntry entries entryCount id with
      | none => return (.errMissingModule, staged, stagedBytes)
      | some entry =>
        match ← malloc env with
        | none => return (.errMemory, staged, stagedBytes)
        | some block =>
          match ← seekRead env file entry.offset.toNat entry.size.toNat with
          | none =>
            free block
            return (.errIo, staged, stagedBytes)
          | some data =>
            if crc32Bytes data ≠ entry.crc32 then
              free block
              return (.errCrc, staged, stagedBytes)
            else
              stageModules env file entries entryCount requested ids
                (staged.set stagedIndex ⟨id, some ⟨block, data⟩, entry.size⟩) (stagedIndex + 1)
                (stagedBytes + entry.size.toNat)

/-- `stage_from_path` once the entry table is parsed. -/
def stageEntries (env : Env) (file : File) (out : EntriesOut) (requested : UInt32 → Bool)
    (requestedCount : Nat) : ProviderM ImgError := do
  let entriesBlock := out.entries.map (·.block)
  let entries := out.entries.elim [] (·.entries)
  match ← malloc env with
  | none =>
    freePtr entriesBlock
    fclose file
    return .errMemory
  | some array =>
    let (result, staged, stagedBytes) ← stageModules env file entries out.count requested moduleIds
      (List.replicate requestedCount StagedModule.zero) 0 0
    freePtr entriesBlock
    fclose file
    if result ≠ .ok then
      freeStagedArray (some ⟨array, staged⟩) requestedCount
      return result
    assign (·.setStaged (some ⟨array, staged⟩) requestedCount requestedCount stagedBytes)
    return .ok

/-- `stage_from_path` once the image is open. -/
def stageFile (env : Env) (file : File) (requested : UInt32 → Bool) (requestedCount : Nat) :
    ProviderM ImgError := do
  if !(← succeeds env) then
    fclose file
    return .errIo
  let fileSizeLong ← ftell env file
  if fileSizeLong < irximgHeaderSize.toNat ∨ fileSizeLong > 0xffffffff then
    fclose file
    return .errFormat
  let fileSize := UInt32.ofNat fileSizeLong.toNat
  let (result, out) ← parseImageEntries env file fileSize ⟨none, 0⟩
  if result ≠ .ok then
    fclose file
    return result
  stageEntries env file out requested requestedCount

/-- `stage_from_path`; `ids` are the generated `PS2_IRX_ID_*` constants. -/
def stageFromPath (ids : Irx → UInt32) (env : Env) (imagePath : Option Bytes)
    (driverRequirements : UInt32) : ProviderM ImgError := do
  match imagePath with
  | none => return .errArgument
  | some path =>
    if badRequirements driverRequirements then
      return .errArgument
    let p ← globals
    if ¬ p.idle then
      return .errAlreadyStaged
    let requested := expandRequirements ids driverRequirements
    let requestedCount := moduleIds.countP requested
    if requestedCount = 0 then
      return .errArgument
    match ← fopen env path with
    | none => return .errOpen
    | some file => stageFile env file requested requestedCount

/-! ## 2. What staging is for -/

def entryPayload (image : Bytes) (e : ImageEntry) : Bytes :=
  slice image e.offset.toNat e.size.toNat

/-- The image has the module, and its bytes have the stored checksum. -/
def ModuleIntact (image : Bytes) (id : UInt32) : Prop :=
  ∃ e, imageEntry image id = some e ∧ crc32Bytes (entryPayload image e) = e.crc32

/-- The error the first missing or corrupt module of a list gives. -/
def stageVerdict (image : Bytes) : List UInt32 → ImgError
  | [] => .ok
  | id :: ids =>
    match imageEntry image id with
    | none => .errMissingModule
    | some e =>
      if crc32Bytes (entryPayload image e) ≠ e.crc32 then .errCrc else stageVerdict image ids

/-- The slot holds the module's bytes, in a block of its own. -/
def SlotHolds (image : Bytes) (id : UInt32) (slot : StagedModule) : Prop :=
  ∃ e block, imageEntry image id = some e ∧ crc32Bytes (entryPayload image e) = e.crc32 ∧
    (entryPayload image e).length = e.size.toNat ∧
    slot = ⟨id, some ⟨block, entryPayload image e⟩, e.size⟩

/-- The ids a mask asks for, in increasing order. -/
def requestedIds (ids : Irx → UInt32) (driverRequirements : UInt32) : List UInt32 :=
  moduleIds.filter (expandRequirements ids driverRequirements)

def slotBlocks (slots : List StagedModule) : List Nat :=
  slots.filterMap fun slot => slot.data.map (·.block)

def slotBytes (slots : List StagedModule) : Nat :=
  ((slots.filter (·.data.isSome)).map (·.size.toNat)).sum

@[simp] theorem slotBlocks_nil : slotBlocks [] = [] := rfl

@[simp] theorem slotBlocks_append (slots slots' : List StagedModule) :
    slotBlocks (slots ++ slots') = slotBlocks slots ++ slotBlocks slots' :=
  List.filterMap_append

@[simp] theorem slotBlocks_zeros (n : Nat) :
    slotBlocks (List.replicate n StagedModule.zero) = [] := by
  induction n with
  | zero => rfl
  | succ n ih => exact ih

@[simp] theorem slotBytes_append (slots slots' : List StagedModule) :
    slotBytes (slots ++ slots') = slotBytes slots + slotBytes slots' := by
  simp only [slotBytes, List.filter_append, List.map_append, List.sum_append]

theorem slotBlocks_length (slots : List StagedModule) :
    (slotBlocks slots).length = (slots.filter (·.data.isSome)).length := by
  induction slots with
  | nil => rfl
  | cons slot slots ih =>
    obtain ⟨id, data, size⟩ := slot
    cases data with
    | none => exact ih
    | some data => exact congrArg (· + 1) ih

/-! ## 3. Modules and ids -/

theorem moduleIds_sorted : moduleIds.Pairwise (· < ·) := by decide +kernel

theorem mem_moduleIds (id : UInt32) : id ∈ moduleIds ↔ 1 ≤ id ∧ id ≤ irximgMaxEntries := by
  rw [moduleIds, List.mem_map]
  constructor
  · rintro ⟨k, hk, rfl⟩
    have hk := List.mem_range'_1.mp hk
    have hlt : k < 129 := hk.2
    rw [UInt32.le_iff_toNat_le, UInt32.le_iff_toNat_le, UInt32.toNat_ofNat',
      Nat.mod_eq_of_lt (by omega)]
    exact ⟨hk.1, by change k ≤ 128; omega⟩
  · rintro ⟨hlow, hhigh⟩
    rw [UInt32.le_iff_toNat_le] at hlow hhigh
    change 1 ≤ id.toNat at hlow
    change id.toNat ≤ 128 at hhigh
    exact ⟨id.toNat, List.mem_range'_1.mpr ⟨hlow, by change id.toNat < 129; omega⟩,
      UInt32.ofNat_toNat⟩

/-- The requested ids are the ids, within the bitmap, of the modules the drivers of the mask
need. -/
theorem mem_requestedIds (ids : Irx → UInt32) (driverRequirements id : UInt32) :
    id ∈ requestedIds ids driverRequirements ↔
      ∃ m ∈ requiredModules driverRequirements, ids m = id ∧ 1 ≤ ids m ∧
        ids m ≤ irximgMaxEntries := by
  rw [requestedIds, List.mem_filter, expandRequirements_eq_true, mem_moduleIds]
  constructor
  · rintro ⟨⟨hlow, -⟩, m, hm, rfl, hhigh⟩
    exact ⟨m, hm, rfl, hlow, hhigh⟩
  · rintro ⟨m, hm, rfl, hlow, hhigh⟩
    exact ⟨⟨hlow, hhigh⟩, m, hm, rfl, hhigh⟩

/-- The ids of the repository all fit the bitmap. -/
theorem mem_requestedIds_irxId (driverRequirements id : UInt32) :
    id ∈ requestedIds irxId driverRequirements ↔
      ∃ m ∈ requiredModules driverRequirements, irxId m = id := by
  rw [mem_requestedIds]
  exact exists_congr fun m => and_congr_right fun _ => and_iff_left (irxId_range m)

theorem requestedIds_sorted (ids : Irx → UInt32) (driverRequirements : UInt32) :
    (requestedIds ids driverRequirements).Pairwise (· < ·) :=
  moduleIds_sorted.filter _

theorem requestedIds_range (ids : Irx → UInt32) (driverRequirements : UInt32) {id : UInt32}
    (h : id ∈ requestedIds ids driverRequirements) : 1 ≤ id ∧ id ≤ irximgMaxEntries :=
  (mem_moduleIds id).mp (List.mem_of_mem_filter h)

theorem Driver.modules_ne_nil (d : Driver) : d.modules ≠ [] := by
  cases d <;> decide

/-- A valid mask asks for at least one module. -/
theorem requestedIds_ne_nil {driverRequirements : UInt32}
    (h : badRequirements driverRequirements = false) :
    requestedIds irxId driverRequirements ≠ [] := by
  simp only [badRequirements, Bool.or_eq_false_iff, beq_eq_false_iff_ne,
    bne_eq_false_iff_eq] at h
  obtain ⟨d, hd⟩ := exists_requires h.1 h.2
  obtain ⟨m, hm⟩ := List.exists_mem_of_ne_nil _ d.modules_ne_nil
  exact List.ne_nil_of_mem ((mem_requestedIds_irxId _ _).mpr ⟨m, ⟨d, hd, hm⟩, rfl⟩)

/-- The verdict is success exactly when every module is intact. -/
theorem stageVerdict_eq_ok (image : Bytes) (ids : List UInt32) :
    stageVerdict image ids = .ok ↔ ∀ id ∈ ids, ModuleIntact image id := by
  induction ids with
  | nil => exact iff_of_true rfl (by simp)
  | cons id ids ih =>
    rw [stageVerdict, List.forall_mem_cons]
    cases hentry : imageEntry image id with
    | none =>
      refine iff_of_false (by simp) ?_
      rintro ⟨⟨e, he, -⟩, -⟩
      rw [hentry] at he
      cases he
    | some e =>
      dsimp only
      split
      · rename_i hcrc
        refine iff_of_false (by simp) ?_
        rintro ⟨⟨e', he', hcrc'⟩, -⟩
        rw [hentry] at he'
        obtain rfl := Option.some.inj he'
        exact hcrc hcrc'
      · rename_i hcrc
        rw [ih]
        exact (and_iff_right ⟨e, hentry, not_not.mp hcrc⟩).symm

/-- The verdict of a failure is about the first module of the list that is absent or corrupt. -/
theorem stageVerdict_failure {image : Bytes} {ids : List UInt32}
    (h : stageVerdict image ids ≠ .ok) :
    ∃ earlier id later, ids = earlier ++ id :: later ∧ (∀ i ∈ earlier, ModuleIntact image i) ∧
      ¬ ModuleIntact image id ∧
      stageVerdict image ids = if imageEntry image id = none then .errMissingModule else .errCrc := by
  induction ids with
  | nil => exact absurd rfl h
  | cons id ids ih =>
    rw [stageVerdict] at h ⊢
    cases hentry : imageEntry image id with
    | none =>
      refine ⟨[], id, ids, rfl, by simp, ?_, by simp [hentry]⟩
      rintro ⟨e, he, -⟩
      rw [hentry] at he
      cases he
    | some e =>
      rw [hentry] at h
      dsimp only at h ⊢
      split
      · rename_i hcrc
        refine ⟨[], id, ids, rfl, by simp, ?_, by simp [hentry]⟩
        rintro ⟨e', he', hcrc'⟩
        rw [hentry] at he'
        obtain rfl := Option.some.inj he'
        exact hcrc hcrc'
      · rename_i hcrc
        -- this module is intact, so the failure is a later one
        rw [if_neg hcrc] at h
        obtain ⟨earlier, bad, later, rfl, hearlier, hbad, hverdict⟩ := ih h
        refine ⟨id :: earlier, bad, later, rfl, ?_, hbad, hverdict⟩
        exact List.forall_mem_cons.mpr ⟨⟨e, hentry, not_not.mp hcrc⟩, hearlier⟩

/-! ## 4. The staging loop -/

section

variable {p : Provider} {h₀ : Heap} {bs : List Nat}

/-- What the loop returns when it has filled the slots `new`: the slots before it, the new ones,
and the rest of the array still zero. -/
structure StageLoop (env : Env) (image : Bytes) (ids : List UInt32) (done : List StagedModule)
    (room : Nat) (new : List StagedModule) (r : ImgError × List StagedModule × Nat) : Prop where
  slots : r.2.1 = done ++ (new ++ List.replicate (room - new.length) StagedModule.zero)
  length_le : new.length ≤ room
  verdict : env.allOk → r.1 = stageVerdict image ids
  full : r.1 = .ok → List.Forall₂ (SlotHolds image) ids new
  bytes : r.1 = .ok → r.2.2 = slotBytes (done ++ new)

/-- An early exit of the loop: nothing more was filled in. -/
private theorem StageLoop.exit {env : Env} {image : Bytes} {ids : List UInt32}
    {done : List StagedModule} {room stagedBytes : Nat} {e : ImgError} {w : World} (he : e ≠ .ok)
    (hverdict : env.allOk → e = stageVerdict image ids)
    (hw : Holds p h₀ (slotBlocks done ++ bs) w) :
    ∃ new, StageLoop env image ids done room new
      (e, done ++ List.replicate room StagedModule.zero, stagedBytes) ∧
      Holds p h₀ (slotBlocks (done ++ new) ++ bs) w :=
  ⟨[], ⟨rfl, Nat.zero_le _, hverdict, fun h => absurd h he, fun h => absurd h he⟩,
    by rwa [List.append_nil]⟩

/-- One more slot in front of what the rest of the loop leaves. -/
private theorem StageLoop.cons {env : Env} {image : Bytes} {id : UInt32} {ids : List UInt32}
    {done new : List StagedModule} {slot : StagedModule} {room : Nat}
    {r : ImgError × List StagedModule × Nat} (hslot : SlotHolds image id slot)
    (h : StageLoop env image ids (done ++ [slot]) room new r) :
    StageLoop env image (id :: ids) done (room + 1) (slot :: new) r := by
  have happ : done ++ slot :: new = (done ++ [slot]) ++ new := by
    rw [List.append_assoc, List.singleton_append]
  refine ⟨?_, Nat.succ_le_succ h.length_le, fun henv => ?_, fun hr => .cons hslot (h.full hr), ?_⟩
  · rw [h.slots, List.append_assoc, List.length_cons, Nat.add_sub_add_right]
    rfl
  · obtain ⟨e, block, hentry, hcrc, -, -⟩ := hslot
    rw [h.verdict henv, stageVerdict, hentry]
    exact (if_neg (not_not.mpr hcrc)).symm
  · rw [happ]
    exact h.bytes

private theorem set_first_zero (done : List StagedModule) (room : Nat) (slot : StagedModule) :
    (done ++ List.replicate (room + 1) StagedModule.zero).set done.length slot =
      (done ++ [slot]) ++ List.replicate room StagedModule.zero := by
  rw [List.set_append_right _ _ (Nat.le_refl _), Nat.sub_self, List.replicate_succ,
    List.set_cons_zero, List.append_assoc]
  rfl

theorem stageModules_ensures (env : Env) (file : File) (requested : UInt32 → Bool)
    (himage : ImageFormat file.contents) (ids : List UInt32)
    (done : List StagedModule) :
    Ensures (Holds p h₀ (slotBlocks done ++ bs))
      (stageModules env file (decodeTable file.contents (wordAt file.contents 16))
        (readU32Le (file.contents.drop 16)) requested ids
        (done ++ List.replicate (ids.countP requested) StagedModule.zero) done.length
        (slotBytes done))
      fun r w => ∃ new,
        StageLoop env file.contents (ids.filter requested) done (ids.countP requested) new r ∧
        Holds p h₀ (slotBlocks (done ++ new) ++ bs) w := by
  induction ids generalizing done with
  | nil =>
    refine Ensures.ret fun w hw => ⟨[], ⟨rfl, Nat.le_refl _, fun _ => rfl, fun _ => .nil, ?_⟩, ?_⟩
    · exact fun _ => by rw [List.append_nil]
    · rwa [List.append_nil]
  | cons id ids ih =>
    unfold stageModules
    by_cases hreq : requested id = true
    · simp only [hreq, Bool.not_true, Bool.false_eq_true, if_false, List.countP_cons_of_pos,
        List.filter_cons_of_pos, findEntry_decodeTable himage.length_ge]
      -- each early exit gives back the blocks of this round, and its error is the verdict's
      cases hentry : imageEntry file.contents id with
      | none =>
        exact Ensures.ret fun w hw =>
          StageLoop.exit (by decide) (fun _ => by rw [stageVerdict, hentry]) hw
      | some e =>
        have hbounds := (himage.entries e (imageEntry_some hentry).1).bounded
        refine Ensures.bind (malloc_ensures env) fun block => Ensures.of_pure fun hfails => ?_
        cases block with
        | none =>
          exact Ensures.ret fun w hw => StageLoop.exit (by decide) (fun h => (hfails rfl h).elim) hw
        | some block =>
          refine Ensures.bind (seekRead_ensures env file _ _) fun data => ?_
          refine Ensures.of_pure fun hdata => ?_
          cases data with
          | none =>
            refine Ensures.bind (free_ensures block) fun _ => ?_
            refine Ensures.ret fun w hw => StageLoop.exit (by decide) (fun h => ?_) hw
            exact (hdata h (slice_length hbounds)).elim
          | some data =>
            obtain ⟨rfl, hfull⟩ := hdata
            refine Ensures.branch (fun hcrc => ?_) fun hcrc => ?_
            · refine Ensures.bind (free_ensures block) fun _ => ?_
              refine Ensures.ret fun w hw => StageLoop.exit (by decide) (fun _ => ?_) hw
              rw [stageVerdict, hentry]
              exact (if_pos hcrc).symm
            · -- the slot is filled in, and the loop goes on behind it
              let slot : StagedModule :=
                ⟨id, some ⟨block, entryPayload file.contents e⟩, e.size⟩
              have hslot : SlotHolds file.contents id slot :=
                ⟨e, block, hentry, not_not.mp hcrc, hfull, rfl⟩
              have hrest := ih (done ++ [slot])
              rw [List.length_append, List.length_singleton, slotBytes_append] at hrest
              rw [set_first_zero]
              refine hrest.imp (fun w hw => hw.perm ?_) fun r w h => ?_
              · rw [slotBlocks_append, List.append_assoc]
                change (block :: (slotBlocks done ++ bs)).Perm (slotBlocks done ++ block :: bs)
                exact List.perm_middle.symm
              · obtain ⟨new, hloop, hholds⟩ := h
                rw [List.append_assoc] at hholds
                exact ⟨slot :: new, hloop.cons hslot, hholds⟩
    · -- an id that is not requested takes no slot
      have hreq : requested id = false := Bool.eq_false_of_not_eq_true hreq
      simp only [hreq, Bool.not_false, if_true, List.countP_cons_of_neg, List.filter_cons_of_neg,
        Bool.false_eq_true, not_false_eq_true]
      exact ih done

/-! ## 5. `stage_from_path` -/

private theorem freeSlots_ensures (slots : List StagedModule) :
    Ensures (Holds p h₀ (slotBlocks slots ++ bs))
      (slots.forM fun slot => freePtr (slot.data.map (·.block))) fun _ w => Holds p h₀ bs w := by
  induction slots with
  | nil => exact Ensures.ret fun w hw => hw
  | cons slot slots ih =>
    refine Ensures.bind (R := fun _ w => Holds p h₀ (slotBlocks slots ++ bs) w) ?_ fun _ => ih
    refine (freePtr_ensures (slot.data.map (·.block))).imp (fun w hw => ?_) fun _ _ h => h
    obtain ⟨id, data, size⟩ := slot
    cases data <;> exact hw

/-- Every payload and the array itself are freed. -/
theorem freeStagedArray_ensures (array : StagedArray) {capacity : Nat}
    (hcapacity : array.slots.length ≤ capacity) :
    Ensures (Holds p h₀ (slotBlocks array.slots ++ array.block :: bs))
      (freeStagedArray (some array) capacity) fun _ w => Holds p h₀ bs w := by
  have htake := List.take_of_length_le hcapacity
  simp only [freeStagedArray, htake]
  exact Ensures.bind (freeSlots_ensures array.slots) fun _ => free_ensures array.block

/-- The provider with a full array: every slot counts. -/
def Provider.stagedAs (p : Provider) (array : StagedArray) : Provider :=
  p.setStaged (some array) array.slots.length array.slots.length (slotBytes array.slots)

inductive StageRefusal (ids : Irx → UInt32) (file : Bytes → Option Bytes) (p : Provider)
    (imagePath : Option Bytes) (driverRequirements : UInt32) : ImgError → Prop
  | argument (h : imagePath = none ∨ badRequirements driverRequirements = true ∨
      requestedIds ids driverRequirements = []) :
      StageRefusal ids file p imagePath driverRequirements .errArgument
  | alreadyStaged (h : ¬ p.idle) :
      StageRefusal ids file p imagePath driverRequirements .errAlreadyStaged
  | noFile {path : Bytes} (hpath : imagePath = some path) (h : file path = none) :
      StageRefusal ids file p imagePath driverRequirements .errOpen
  | badFormat {path image : Bytes} (hpath : imagePath = some path)
      (hfile : file path = some image) (h : ¬ ImageFormat image) :
      StageRefusal ids file p imagePath driverRequirements .errFormat
  | badModule {path image : Bytes} {e : ImgError} (hpath : imagePath = some path)
      (hfile : file path = some image) (hformat : ImageFormat image) (hne : e ≠ .ok)
      (h : e = stageVerdict image (requestedIds ids driverRequirements)) :
      StageRefusal ids file p imagePath driverRequirements e

structure StageSuccess (ids : Irx → UInt32) (file : Bytes → Option Bytes) (p : Provider)
    (imagePath : Option Bytes) (driverRequirements : UInt32) (image : Bytes)
    (slots : List StagedModule) : Prop where
  opened : ∃ path, imagePath = some path ∧ file path = some image
  mask : badRequirements driverRequirements = false
  idle : p.idle
  nonempty : requestedIds ids driverRequirements ≠ []
  format : ImageFormat image
  slots : List.Forall₂ (SlotHolds image) (requestedIds ids driverRequirements) slots

/-- The two ways `stage_from_path` returns: with an error and nothing changed, or with the
requested modules staged. -/
inductive StageOutcome (ids : Irx → UInt32) (env : Env) (imagePath : Option Bytes)
    (driverRequirements : UInt32) (p : Provider) (h₀ : Heap) (bs : List Nat) :
    ImgError → World → Prop
  | refused {e : ImgError} {w : World} (hne : e ≠ .ok)
      (why : env.allOk → StageRefusal ids env.file p imagePath driverRequirements e)
      (holds : Holds p h₀ bs w) : StageOutcome ids env imagePath driverRequirements p h₀ bs e w
  | staged {image : Bytes} (array : StagedArray) {w : World}
      (facts : StageSuccess ids env.file p imagePath driverRequirements image array.slots)
      (holds : Holds (p.stagedAs array) h₀ (slotBlocks array.slots ++ array.block :: bs) w) :
      StageOutcome ids env imagePath driverRequirements p h₀ bs .ok w

section

variable {ids : Irx → UInt32} {env : Env} {path : Bytes} {driverRequirements : UInt32} {file : File}

theorem stageEntries_ensures (hopen : env.file path = some file.contents)
    (hmask : badRequirements driverRequirements = false) (hidle : p.idle)
    (hids : requestedIds ids driverRequirements ≠ []) (hformat : ImageFormat file.contents)
    (block : Nat) :
    Ensures (Holds p h₀ (block :: file.block :: bs))
      (stageEntries env file
        ⟨some ⟨block, decodeTable file.contents (wordAt file.contents 16)⟩,
          readU32Le (file.contents.drop 16)⟩
        (expandRequirements ids driverRequirements)
        (moduleIds.countP (expandRequirements ids driverRequirements)))
      (StageOutcome ids env (some path) driverRequirements p h₀ bs) := by
  unfold stageEntries
  refine Ensures.bind (malloc_ensures env) fun array => Ensures.of_pure fun hfails => ?_
  cases array with
  | none =>
    refine Ensures.bind (freePtr_ensures (some block)) fun _ => ?_
    refine Ensures.bind (free_ensures file.block) fun _ => ?_
    exact Ensures.ret fun w hw => .refused (by decide) (fun h => (hfails rfl h).elim) hw
  | some array =>
    refine Ensures.bind ((stageModules_ensures env file _ hformat moduleIds []).imp
      (fun w hw => hw) fun _ _ h => h) fun r => ?_
    obtain ⟨result, staged, stagedBytes⟩ := r
    refine Ensures.of_exists fun new => Ensures.of_pure fun hloop => ?_
    have hstaged := hloop.slots
    have hlength := hloop.length_le
    dsimp only at hstaged ⊢
    simp only [List.nil_append] at hstaged ⊢
    -- the table and the file are freed first, whatever the loop returned
    have hperm : (slotBlocks new ++ array :: block :: file.block :: bs).Perm
        (block :: file.block :: (slotBlocks new ++ array :: bs)) := by
      rw [List.append_cons, List.append_cons _ _ bs]
      exact List.perm_middle.trans (List.perm_middle.cons block)
    refine ensures_of_perm hperm ?_
    refine Ensures.bind (freePtr_ensures (some block)) fun _ => ?_
    refine Ensures.bind (free_ensures file.block) fun _ => ?_
    refine Ensures.branch (fun hne => ?_) fun heq => ?_
    · -- an error: what the loop had staged is freed slot by slot
      have hblocks : slotBlocks new = slotBlocks staged := by
        rw [hstaged, slotBlocks_append, slotBlocks_zeros, List.append_nil]
      have hlen : staged.length ≤ moduleIds.countP (expandRequirements ids driverRequirements) := by
        rw [hstaged, List.length_append, List.length_replicate]
        omega
      rw [hblocks]
      refine Ensures.bind (freeStagedArray_ensures ⟨array, staged⟩ hlen) fun _ => ?_
      exact Ensures.ret fun w hw => .refused hne
        (fun h => .badModule rfl hopen hformat hne (hloop.verdict h)) hw
    · have hok : result = .ok := not_not.mp heq
      -- success: every slot is filled, and the globals take the array over
      have hslots := hloop.full hok
      have hcount : moduleIds.countP (expandRequirements ids driverRequirements) = new.length := by
        rw [List.countP_eq_length_filter]
        exact hslots.length_eq
      have hnew : staged = new := by
        rw [hstaged, hcount, Nat.sub_self, List.replicate_zero, List.append_nil]
      have hbytes : stagedBytes = slotBytes new := hloop.bytes hok
      rw [hcount, hnew, hbytes]
      refine Ensures.bind (assign_ensures _) fun _ => ?_
      exact Ensures.ret fun w hw => StageOutcome.staged ⟨array, new⟩
        ⟨⟨path, rfl, hopen⟩, hmask, hidle, hids, hformat, hslots⟩ hw

theorem stageFile_ensures (hopen : env.file path = some file.contents)
    (hmask : badRequirements driverRequirements = false) (hidle : p.idle)
    (hids : requestedIds ids driverRequirements ≠ []) :
    Ensures (Holds p h₀ (file.block :: bs))
      (stageFile env file (expandRequirements ids driverRequirements)
        (moduleIds.countP (expandRequirements ids driverRequirements)))
      (StageOutcome ids env (some path) driverRequirements p h₀ bs) := by
  have hclose {e : ImgError} (hne : e ≠ .ok)
      (why : env.allOk → StageRefusal ids env.file p (some path) driverRequirements e) :
      Ensures (Holds p h₀ (file.block :: bs)) (do fclose file; return e)
        (StageOutcome ids env (some path) driverRequirements p h₀ bs) :=
    Ensures.bind (free_ensures file.block) fun _ => Ensures.ret fun w hw => .refused hne why hw
  unfold stageFile
  refine Ensures.bind (succeeds_ensures env) fun seek => Ensures.of_pure fun hseek => ?_
  cases seek with
  | false => exact hclose (by decide) fun h => (hseek rfl h).elim
  | true =>
    simp only [Bool.not_true, Bool.false_eq_true, if_false]
    refine Ensures.bind (ftell_ensures env file) fun size => Ensures.of_pure fun hsize => ?_
    refine Ensures.branch (fun hrange => ?_) fun hrange => ?_
    · -- a size out of range is no image, and a failed `ftell` is none either
      refine hclose (by decide) fun h => .badFormat rfl hopen fun hformat => ?_
      have hlow := hformat.length_ge
      have hhigh := hformat.length_lt
      rcases hsize with rfl | ⟨-, hfails⟩
      · change _ < (44 : Int) ∨ _ at hrange
        omega
      · exact hfails h
    · have hin : 44 ≤ size ∧ size ≤ 0xffffffff := by
        rw [not_or] at hrange
        change ¬ size < (44 : Int) ∧ _ at hrange
        omega
      obtain rfl : size = file.contents.length := by
        rcases hsize with hsize | ⟨rfl, -⟩
        · exact hsize
        · exact absurd hin.1 (by decide)
      have hnat : (UInt32.ofNat (file.contents.length : Int).toNat).toNat =
          file.contents.length := by
        rw [Int.toNat_natCast, UInt32.toNat_ofNat', Nat.mod_eq_of_lt (by omega)]
      -- the size is exact as a word, so the parser sees the whole file
      refine Ensures.bind (parseImageEntries_ensures env file ⟨none, 0⟩ (by omega) hnat)
        fun r w hw => ?_
      cases hw with
      | @ok block _ hformat hholds =>
        exact stageEntries_ensures hopen hmask hidle hids hformat block w hholds
      | format hbad hholds =>
        exact hclose (by decide) (fun _ => .badFormat rfl hopen hbad) w hholds
      | @fault e _ hkind hfails hholds =>
        have hne : e ≠ .ok := by
          rintro rfl
          rcases hkind with h | h <;> cases h
        simp only [ne_eq, hne, not_false_eq_true, if_true]
        exact hclose hne (fun h => (hfails h).elim) w hholds

/-- `stage_from_path` either changes nothing or stages the requested modules. -/
theorem stageFromPath_ensures (ids : Irx → UInt32) (env : Env) (imagePath : Option Bytes)
    (driverRequirements : UInt32) :
    Ensures (Holds p h₀ bs) (stageFromPath ids env imagePath driverRequirements)
      (StageOutcome ids env imagePath driverRequirements p h₀ bs) := by
  unfold stageFromPath
  cases imagePath with
  | none => exact Ensures.ret fun w hw => .refused (by decide) (fun _ => .argument (Or.inl rfl)) hw
  | some path =>
    refine Ensures.branch (fun hmask => ?_) fun hmask => ?_
    · exact Ensures.ret fun w hw =>
        .refused (by decide) (fun _ => .argument (Or.inr (Or.inl hmask))) hw
    have hmask : badRequirements driverRequirements = false := Bool.eq_false_of_not_eq_true hmask
    refine Ensures.bind globals_ensures fun q => Ensures.of_pure fun hq => ?_
    subst hq
    -- the checks in the order of the source: mask, idle, something requested, file
    refine Ensures.branch (fun hidle => ?_) fun hidle => ?_
    · exact Ensures.ret fun w hw => .refused (by decide) (fun _ => .alreadyStaged hidle) hw
    have hcount : moduleIds.countP (expandRequirements ids driverRequirements) = 0 ↔
        requestedIds ids driverRequirements = [] := by
      rw [List.countP_eq_length_filter, List.length_eq_zero_iff, requestedIds]
    refine Ensures.branch (fun hzero => ?_) fun hnonzero => ?_
    · exact Ensures.ret fun w hw =>
        .refused (by decide) (fun _ => .argument (Or.inr (Or.inr (hcount.mp hzero)))) hw
    refine Ensures.bind (fopen_ensures env path) fun file => ?_
    cases file with
    | none => exact Ensures.ret fun w hw => .refused (by decide) (fun h => .noFile rfl (hw.1 h)) hw.2
    | some file =>
      exact Ensures.of_pure fun hopen => stageFile_ensures hopen hmask (not_not.mp hidle)
        (hcount.not.mp hnonzero)

end

end

end Ps2Drivers
