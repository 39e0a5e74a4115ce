import Ps2Drivers.Provider.Run

/-!
# The staged payloads by module id

Seen from `ps2_irx_exec` the provider is a finite map from module ids to payloads: staging fills
it, and an execution takes one entry out.
-/

open Binary CString

namespace Ps2Drivers

/-! ## 1. Finding a payload -/

section

variable {p : Provider} (hp : p.Invariant)

include hp

theorem Provider.slots_ids_nodup : (p.slots.map (·.id)).Nodup := by
  apply hp.sorted.imp
  intro a b hlt heq
  exact absurd (heq ▸ hlt) (UInt32.lt_irrefl _)

theorem Provider.slot_unique {slot slot' : StagedModule} (hslot : slot ∈ p.slots)
    (hslot' : slot' ∈ p.slots) (hid : slot.id = slot'.id) : slot = slot' :=
  List.inj_on_of_nodup_map (Provider.slots_ids_nodup hp) hslot hslot' hid

theorem Provider.payload_eq_some (id : UInt32) (data : Buffer) (size : UInt32) :
    p.payload id = some (data, size) ↔
      ∃ slot ∈ p.slots, slot.id = id ∧ slot.data = some data ∧ slot.size = size := by
  unfold Provider.payload
  cases hindex : p.stagedIndex id with
  | none =>
    -- no slot of the array holds the module
    rw [Provider.stagedIndex, hp.capacity, List.take_length, List.findIdx?_eq_none_iff] at hindex
    apply iff_of_false (by simp)
    rintro ⟨slot, hslot, hid, hdata, -⟩
    have hholds := hindex slot hslot
    simp [StagedModule.holds, hid, hdata] at hholds
  | some i =>
    obtain ⟨array, before, slot, after, found, hnull, hslots, rfl, hid, hdata⟩ :=
      Provider.stagedIndex_some hp hindex
    have hps : p.slots = before ++ slot :: after := by rw [Provider.slots, hnull, ← hslots]
    have hmem : slot ∈ p.slots := by simp [hps]
    have hget : p.slots.getD before.length StagedModule.zero = slot := by
      simp [hps, List.getD_eq_getElem?_getD]
    dsimp only
    rw [hget, hdata, Option.map_some]
    constructor
    · intro h
      obtain ⟨rfl, rfl⟩ := Prod.mk.inj (Option.some.inj h)
      exact ⟨slot, hmem, hid, hdata, rfl⟩
    · rintro ⟨slot', hslot', hid', hdata', rfl⟩
      obtain rfl := Provider.slot_unique hp hmem hslot' (hid.trans hid'.symm)
      rw [hdata] at hdata'
      rw [Option.some.inj hdata']

/-- Nothing to find means nothing staged. -/
theorem Provider.nothing_staged (h : ∀ id, p.payload id = none) :
    p.stagedCount = 0 ∧ p.stagedBytes = 0 := by
  have hempty : p.slots.filter (·.data.isSome) = [] := by
    rw [List.filter_eq_nil_iff]
    intro slot hslot hdata
    obtain ⟨data, hdata⟩ := Option.isSome_iff_exists.mp hdata
    have hsome := (Provider.payload_eq_some hp slot.id data slot.size).mpr
      ⟨slot, hslot, rfl, hdata, rfl⟩
    rw [h slot.id] at hsome
    cases hsome
  rw [hp.count, hp.bytes, slotBytes, hempty]
  exact ⟨rfl, rfl⟩

theorem Provider.idle_iff_payload : p.idle ↔ ∀ id, p.payload id = none := by
  constructor
  · intro hidle id
    by_contra hne
    obtain ⟨⟨data, size⟩, hfound⟩ := Option.ne_none_iff_exists'.mp hne
    obtain ⟨slot, hslot, -⟩ := (Provider.payload_eq_some hp _ _ _).mp hfound
    rw [Provider.slots, hidle.1] at hslot
    cases hslot
  · intro h
    have hcount := (Provider.nothing_staged hp h).1
    exact ⟨hp.null_iff_count.mpr hcount, hcount⟩

/-! ## 2. Taking a payload out -/

theorem Provider.slots_released (id : UInt32) (slot : StagedModule) {data : Buffer}
    (hdata : slot.data = some data) :
    slot ∈ (p.released id).slots ↔ slot ∈ p.slots ∧ slot.id ≠ id := by
  unfold Provider.released
  cases hindex : p.stagedIndex id with
  | none =>
    -- nothing is released: no slot with data has the id
    rw [Provider.stagedIndex, hp.capacity, List.take_length, List.findIdx?_eq_none_iff] at hindex
    apply Iff.symm
    apply and_iff_left_of_imp
    intro hslot hid
    have hholds := hindex slot hslot
    simp [StagedModule.holds, hid, hdata] at hholds
  | some i =>
    obtain ⟨array, before, taken, after, found, hnull, hslots, rfl, hid, hfound⟩ :=
      Provider.stagedIndex_some hp hindex
    have hps : p.slots = before ++ taken :: after := by rw [Provider.slots, hnull, ← hslots]
    have hmem : taken ∈ p.slots := by simp [hps]
    have hother : slot ∈ p.slots ∧ slot.id ≠ id ↔ slot ∈ before ∨ slot ∈ after := by
      constructor
      · rintro ⟨hslot, hne⟩
        rw [hps, List.mem_append, List.mem_cons] at hslot
        rcases hslot with h | rfl | h
        · exact Or.inl h
        · exact absurd hid hne
        · exact Or.inr h
      · intro h
        have hslot : slot ∈ p.slots := by
          rw [hps, List.mem_append, List.mem_cons]
          exact h.imp_right Or.inr
        refine ⟨hslot, fun heq => ?_⟩
        -- the ids are distinct, so the slot would occur twice
        obtain rfl := Provider.slot_unique hp hslot hmem (heq.trans hid.symm)
        have hnodup : p.slots.Nodup := List.Nodup.of_map _ (Provider.slots_ids_nodup hp)
        rw [hps, List.nodup_append, List.nodup_cons] at hnodup
        rcases h with h | h
        · exact hnodup.2.2 slot h slot List.mem_cons_self rfl
        · exact hnodup.2.1.1 h
    rw [hother]
    dsimp only
    split
    · rename_i hlast
      obtain ⟨hbefore, hafter⟩ := Provider.releaseSlot_last hp hnull hslots hfound hlast
      rw [slotBlocks, List.filterMap_eq_nil_iff] at hbefore hafter
      apply iff_of_false
      · exact List.not_mem_nil
      · rintro (h | h)
        · simpa [hdata] using hbefore slot h
        · simpa [hdata] using hafter slot h
    · rw [Provider.releaseSlot_eq hp hnull hslots hfound]
      show slot ∈ before ++ taken.consumed :: after ↔ _
      rw [List.mem_append, List.mem_cons]
      have hconsumed : slot ≠ taken.consumed := fun h => by
        rw [h] at hdata
        cases hdata
      tauto

/-- Releasing a module takes its payload out and leaves the others. -/
theorem Provider.payload_released (id i : UInt32) :
    (p.released id).payload i = if i = id then none else p.payload i := by
  have hmem (data : Buffer) (size : UInt32) : (p.released id).payload i = some (data, size) ↔
      i ≠ id ∧ p.payload i = some (data, size) := by
    rw [Provider.payload_eq_some (hp.released id), Provider.payload_eq_some hp]
    constructor
    · rintro ⟨slot, hslot, rfl, hdata, hsize⟩
      obtain ⟨hslot, hne⟩ := (Provider.slots_released hp id slot hdata).mp hslot
      exact ⟨hne, slot, hslot, rfl, hdata, hsize⟩
    · rintro ⟨hne, slot, hslot, rfl, hdata, hsize⟩
      exact ⟨slot, (Provider.slots_released hp id slot hdata).mpr ⟨hslot, hne⟩, rfl, hdata, hsize⟩
  apply Option.ext
  intro found
  rw [hmem found.1 found.2]
  by_cases hi : i = id
  · simp [hi]
  · simp [hi]

end

/-! ## 3. `ps2_irx_exec` -/

theorem ps2DriversImgGetStaged_eq (moduleId : UInt32) (w : World) :
    ps2DriversImgGetStaged moduleId true w = (w.provider.payload moduleId, w) := by
  unfold ps2DriversImgGetStaged Provider.payload
  rw [if_neg (by decide), globals_bind]
  cases w.provider.stagedIndex moduleId <;> rfl

theorem ps2IrxExecImage_eq (answer : Int × Int) (moduleId : UInt32) (argLen : Nat)
    (args : Option Bytes) (w : World) :
    ps2IrxExecImage answer (some moduleId) argLen args w =
      match w.provider.payload moduleId with
      | none => (.failed, w)
      | some (data, size) =>
        (⟨answer.1, some answer.2, some ⟨data.bytes.take size.toNat, argLen, args⟩⟩,
          (ps2DriversImgReleaseStaged moduleId w).2) := by
  show (match (ps2DriversImgGetStaged moduleId true w).1 with
    | none => (pure .failed : ProviderM IrxExec)
    | some (data, size) => ps2DriversImgReleaseStaged moduleId >>= fun _ =>
        pure ⟨answer.1, some answer.2, some ⟨data.bytes.take size.toNat, argLen, args⟩⟩)
    (ps2DriversImgGetStaged moduleId true w).2 = _
  rw [ps2DriversImgGetStaged_eq]
  cases w.provider.payload moduleId <;> rfl

theorem World.Valid.release {w : World} (hw : w.Valid) (moduleId : UInt32) :
    (ps2DriversImgReleaseStaged moduleId w).2.Valid ∧
      (ps2DriversImgReleaseStaged moduleId w).2.provider = w.provider.released moduleId := by
  have h := ps2DriversImgReleaseStaged_ensures hw.invariant moduleId w hw.holds
  exact ⟨World.valid_of_holds (hw.invariant.released moduleId) h, h.1⟩

/-! ## 4. After a successful staging -/

theorem slots_hold {image : Bytes} {ids : List UInt32} {slots : List StagedModule}
    (h : List.Forall₂ (SlotHolds image) ids slots) :
    ∀ slot ∈ slots, SlotHolds image slot.id slot := by
  induction h with
  | nil => simp
  | cons hslot _ ih =>
    obtain ⟨e, block, hentry, hcrc, hlength, rfl⟩ := hslot
    exact List.forall_mem_cons.mpr ⟨⟨e, block, hentry, hcrc, hlength, rfl⟩, ih⟩

/-- The ids that can be found are the requested ones, with the bytes of the image. -/
theorem ImgStageOutcome.payload {ids : Irx → UInt32} {env : Env} {imagePath : Option Bytes}
    {driverRequirements : UInt32} {p : Provider} {e : ImgError} {w : World} (hp : p.Invariant)
    (h : ImgStageOutcome ids env imagePath driverRequirements p Heap.empty [] e w)
    (hok : e = .ok) :
    w.Valid ∧ w.provider.slots.map (·.id) = requestedIds ids driverRequirements ∧
      ∃ path image, imagePath = some path ∧ env.file path = some image ∧
      ∀ id ∈ requestedIds ids driverRequirements, ∃ e data, imageEntry image id = some e ∧
        crc32Bytes (entryPayload image e) = e.crc32 ∧
        w.provider.payload id = some (data, e.size) ∧ data.bytes = entryPayload image e ∧
        data.bytes.length = e.size.toNat := by
  cases h with
  | refused hne _ _ => exact absurd hok hne
  | @staged image array source _ facts hsource holds =>
    have hinv := (facts.invariant hp).remembered source (badRequirements_ne_zero facts.mask)
    have hvalid : w.Valid := World.valid_of_holds hinv holds
    have hslots : w.provider.slots = array.slots := by
      rw [holds.1]
      rfl
    obtain ⟨path, hpath, himage⟩ := facts.opened
    rw [hslots, slots_ids facts.slots]
    refine ⟨hvalid, rfl, path, image, hpath, himage, fun id hid => ?_⟩
    -- a requested id has a slot, and the slot holds the entry's payload
    rw [← slots_ids facts.slots] at hid
    obtain ⟨slot, hslot, rfl⟩ := List.mem_map.mp hid
    obtain ⟨e, block, hentry, hcrc, hlength, heq⟩ := slots_hold facts.slots slot hslot
    refine ⟨e, ⟨block, entryPayload image e⟩, hentry, hcrc, ?_, rfl, hlength⟩
    rw [Provider.payload_eq_some hvalid.invariant, hslots]
    exact ⟨slot, hslot, rfl, by rw [heq], by rw [heq]⟩

/-- Only the slots' ids can be found. -/
theorem Provider.mem_ids_of_payload {p : Provider} (hp : p.Invariant) {id : UInt32}
    (h : p.payload id ≠ none) : id ∈ p.slots.map (·.id) := by
  obtain ⟨⟨data, size⟩, hfound⟩ := Option.ne_none_iff_exists'.mp h
  obtain ⟨slot, hslot, rfl, -, -⟩ := (Provider.payload_eq_some hp _ _ _).mp hfound
  exact List.mem_map_of_mem hslot

theorem ps2DriversImgStage_payload {ids : Irx → UInt32} {env : Env} {imagePath : Option Bytes}
    {driverRequirements : UInt32} {w : World} (hw : w.Valid)
    (hok : (ps2DriversImgStage ids env imagePath driverRequirements w).1 = .ok) :
    let w' := (ps2DriversImgStage ids env imagePath driverRequirements w).2
    w'.Valid ∧ ∃ path image, imagePath = some path ∧ env.file path = some image ∧
      (∀ id ∈ requestedIds ids driverRequirements, ∃ e data, imageEntry image id = some e ∧
        w'.provider.payload id = some (data, e.size) ∧ data.bytes = entryPayload image e ∧
        data.bytes.length = e.size.toNat) ∧
      ∀ id, w'.provider.payload id ≠ none → id ∈ requestedIds ids driverRequirements := by
  intro w'
  have h : ImgStageOutcome ids env imagePath driverRequirements w.provider Heap.empty []
      (ps2DriversImgStage ids env imagePath driverRequirements w).1 w' :=
    ps2DriversImgStage_outcome ids env imagePath driverRequirements w hw.holds
  obtain ⟨hvalid, hids, path, image, hpath, himage, hfound⟩ := h.payload hw.invariant hok
  refine ⟨hvalid, path, image, hpath, himage, fun id hid => ?_, fun id hne => ?_⟩
  · obtain ⟨e, data, hentry, -, hdata⟩ := hfound id hid
    exact ⟨e, data, hentry, hdata⟩
  · rw [← hids]
    exact Provider.mem_ids_of_payload hvalid.invariant hne

end Ps2Drivers
