import Ps2Drivers.Provider.Payload
import Ps2Drivers.Provider.Source

/-!
# Consuming the staged modules

Between two stagings the provider only loses payloads: `ps2_irx_exec` and `release_staged` take them
out one by one.  What is left after a sequence of such calls depends on which modules were named,
and on nothing else.
-/

open Binary CString

namespace Ps2Drivers

/-! ## 1. What is left -/

def StagedModule.without (taken : UInt32 → Bool) (slot : StagedModule) : StagedModule :=
  if taken slot.id && slot.data.isSome then slot.consumed else slot

def filled (slots : List StagedModule) : List StagedModule := slots.filter (·.data.isSome)

/-- The provider once the modules in `taken` have been taken, all at once. -/
def Provider.without (taken : UInt32 → Bool) (p : Provider) : Provider :=
  let slots := p.slots.map (StagedModule.without taken)
  if filled slots = [] then p.setStaged none 0 0 0
  else
    p.setStaged (p.stagedModules.map fun array => { array with slots := slots }) p.stagedCapacity
      (filled slots).length (slotBytes slots)

theorem StagedModule.without_without (t u : UInt32 → Bool) (slot : StagedModule) :
    (slot.without t).without u = slot.without fun id => t id || u id := by
  unfold StagedModule.without
  cases hdata : slot.data with
  | none => simp [hdata]
  | some data =>
    cases ht : t slot.id with
    | false => simp [hdata, ht]
    | true => simp [ht]

theorem StagedModule.without_of_none {slot : StagedModule} (h : slot.data = none)
    (taken : UInt32 → Bool) : slot.without taken = slot := by
  simp [StagedModule.without, h]

theorem filled_eq_nil {slots : List StagedModule} :
    filled slots = [] ↔ ∀ slot ∈ slots, slot.data = none := by
  simp [filled, List.filter_eq_nil_iff]

@[simp] theorem Provider.setStaged_stagedCount (p : Provider) (modules : Option StagedArray)
    (capacity count bytes : Nat) :
    (p.setStaged modules capacity count bytes).stagedCount = count := rfl

section

variable {p : Provider}

theorem Provider.slots_without {taken : UInt32 → Bool}
    (h : filled (p.slots.map (StagedModule.without taken)) ≠ []) :
    (p.without taken).slots = p.slots.map (StagedModule.without taken) := by
  unfold Provider.without
  dsimp only
  rw [if_neg h]
  cases hnull : p.stagedModules with
  | none =>
    rw [Provider.slots, hnull] at h
    exact absurd rfl h
  | some array => rfl

/-- Taking some modules and then others is taking both. -/
theorem Provider.without_without (t u : UInt32 → Bool) (p : Provider) :
    (p.without t).without u = p.without fun id => t id || u id := by
  have hslots : (p.slots.map (StagedModule.without t)).map (StagedModule.without u) =
      p.slots.map (StagedModule.without fun id => t id || u id) := by
    rw [List.map_map]
    exact List.map_congr_left fun slot _ => StagedModule.without_without t u slot
  by_cases hleft : filled (p.slots.map (StagedModule.without t)) = []
  · -- nothing was left to take
    have hboth : filled (p.slots.map (StagedModule.without fun id => t id || u id)) = [] := by
      rw [← hslots, filled_eq_nil]
      intro slot hslot
      obtain ⟨before, hbefore, rfl⟩ := List.mem_map.mp hslot
      have hnone := filled_eq_nil.mp hleft before hbefore
      rw [StagedModule.without_of_none hnone]
      exact hnone
    unfold Provider.without
    dsimp only
    rw [if_pos hleft, if_pos hboth]
    rfl
  · have hthen := Provider.slots_without hleft
    have hfirst : p.without t = p.setStaged
        (p.stagedModules.map fun array =>
          { array with slots := p.slots.map (StagedModule.without t) })
        p.stagedCapacity (filled (p.slots.map (StagedModule.without t))).length
        (slotBytes (p.slots.map (StagedModule.without t))) := by
      unfold Provider.without
      dsimp only
      rw [if_neg hleft]
    rw [Provider.without, hthen, hslots, hfirst, Provider.without]
    by_cases hboth : filled (p.slots.map (StagedModule.without fun id => t id || u id)) = []
    · rw [if_pos hboth, if_pos hboth]
      rfl
    · rw [if_neg hboth, if_neg hboth]
      cases hnull : p.stagedModules <;> rfl

/-- Taking modules that are not there changes nothing. -/
theorem Provider.without_of_absent (hp : p.Invariant) {taken : UInt32 → Bool}
    (h : ∀ slot ∈ p.slots, taken slot.id = true → slot.data = none) : p.without taken = p := by
  have hslots : p.slots.map (StagedModule.without taken) = p.slots := by
    refine (List.map_congr_left fun slot hslot => ?_).trans (List.map_id _)
    cases hdata : slot.data with
    | none => exact StagedModule.without_of_none hdata taken
    | some data =>
      have hnot : taken slot.id = false := by
        by_contra htaken
        rw [Bool.not_eq_false] at htaken
        rw [h slot hslot htaken] at hdata
        cases hdata
      simp [StagedModule.without, hnot]
  have hcount : p.stagedCount = (filled p.slots).length := hp.count
  rw [Provider.without, hslots]
  -- with nothing staged the globals are zero, as the invariant says
  by_cases hleft : filled p.slots = []
  · have hzero : p.stagedCount = 0 := by rw [hcount, hleft]; rfl
    have hnull := hp.null_iff_count.mpr hzero
    have hbytes : p.stagedBytes = 0 := by
      rw [hp.bytes]
      show ((filled p.slots).map (·.size.toNat)).sum = 0
      rw [hleft]
      rfl
    rw [if_pos hleft]
    obtain ⟨modules, capacity, count, bytes, path, mask⟩ := p
    have hcapacity := hp.null_iff_capacity.mp hnull
    dsimp only at hnull hcapacity hzero hbytes
    rw [hnull, hcapacity, hzero, hbytes]
    rfl
  · rw [if_neg hleft, ← hcount, ← hp.bytes]
    obtain ⟨modules, capacity, count, bytes, path, mask⟩ := p
    cases modules <;> rfl

/-- `release_staged` takes one module. -/
theorem Provider.released_eq (hp : p.Invariant) (moduleId : UInt32) :
    p.released moduleId = p.without (· == moduleId) := by
  unfold Provider.released
  cases hindex : p.stagedIndex moduleId with
  | none =>
    rw [Provider.stagedIndex, hp.capacity, List.take_length, List.findIdx?_eq_none_iff] at hindex
    refine (Provider.without_of_absent hp fun slot hslot hid => ?_).symm
    have hholds := hindex slot hslot
    rw [StagedModule.holds, hid, Bool.true_and] at hholds
    exact Option.isNone_iff_eq_none.mp (Option.isSome_eq_false_iff.mp hholds)
  | some i =>
    obtain ⟨array, before, slot, after, data, hnull, hslots, rfl, hid, hdata⟩ :=
      Provider.stagedIndex_some hp hindex
    have hps : p.slots = before ++ slot :: after := by rw [Provider.slots, hnull, ← hslots]
    have hfilled : slot.data.isSome = true := by rw [hdata]; rfl
    -- the other slots have other ids
    have hother (other : StagedModule) (h : other ∈ before ∨ other ∈ after) :
        other.without (· == moduleId) = other := by
      have hne : other.id ≠ moduleId := by
        have hnodup := Provider.slots_ids_nodup hp
        rw [hps, List.map_append, List.map_cons, List.nodup_append, List.nodup_cons] at hnodup
        intro heq
        rcases h with h | h
        · exact hnodup.2.2 _ (List.mem_map_of_mem h) _ List.mem_cons_self (heq.trans hid.symm)
        · exact hnodup.2.1.1 ((heq.trans hid.symm) ▸ List.mem_map_of_mem h)
      simp [StagedModule.without, hne]
    have htaken : p.slots.map (StagedModule.without (· == moduleId)) =
        before ++ slot.consumed :: after := by
      have hthis : slot.without (· == moduleId) = slot.consumed := by
        simp [StagedModule.without, hid, hfilled]
      rw [hps, List.map_append, List.map_cons, hthis,
        List.map_congr_left fun other h => hother other (Or.inl h),
        List.map_congr_left fun other h => hother other (Or.inr h)]
      simp
    have hcount : p.stagedCount - 1 = (filled (before ++ slot.consumed :: after)).length := by
      rw [hp.count, hps, filled, List.filter_append, List.length_append,
        filter_cons_filled _ hfilled, List.length_cons, List.filter_append, List.length_append,
        filter_cons_consumed]
      omega
    have hbytes : p.stagedBytes - slot.size.toNat =
        slotBytes (before ++ slot.consumed :: after) := by
      rw [hp.bytes, hps, slotBytes_append, slotBytes_cons_filled _ hfilled, slotBytes_append,
        slotBytes_cons_consumed]
      omega
    dsimp only
    rw [Provider.releaseSlot_eq hp hnull hslots hdata, Provider.without, htaken, hcount, hbytes,
      hnull, Provider.setStaged_stagedCount]
    by_cases hleft : filled (before ++ slot.consumed :: after) = []
    · rw [if_pos hleft, if_pos (List.length_eq_zero_iff.mpr hleft)]
    · rw [if_neg hleft, if_neg (mt List.length_eq_zero_iff.mp hleft)]
      rfl

end

/-! ## 2. Calls -/

/-- The calls that take payloads out; a module is the id in its descriptor, `none` for a `NULL`
pointer. -/
inductive ConsumeCall
  | exec (answer : Int × Int) (module : Option UInt32) (argLen : Nat) (args : Option Bytes)
  | release (moduleId : UInt32)

namespace ConsumeCall

def module : ConsumeCall → Option UInt32
  | .exec _ module _ _ => module
  | .release moduleId => some moduleId

/-- The call, with what it hands to `SifExecModuleBuffer`. -/
def run : ConsumeCall → ProviderM (Option (UInt32 × SifExec))
  | .exec answer module argLen args => do
    let r ← ps2IrxExecImage answer module argLen args
    return module.bind fun id => r.call.map fun call => (id, call)
  | .release moduleId => do
    ps2DriversImgReleaseStaged moduleId
    return none

end ConsumeCall

def runConsume : List ConsumeCall → ProviderM (List (UInt32 × SifExec))
  | [] => return []
  | call :: calls => do
    let handed ← call.run
    let more ← runConsume calls
    return handed.toList ++ more

def named (calls : List ConsumeCall) (id : UInt32) : Bool :=
  calls.any fun call => call.module == some id

section

variable {w : World}

/-- An id that is not staged changes nothing, not even the heap. -/
theorem ps2DriversImgReleaseStaged_absent (hw : w.Valid) {moduleId : UInt32}
    (h : w.provider.payload moduleId = none) :
    ps2DriversImgReleaseStaged moduleId w = ((), w) := by
  have hindex : w.provider.stagedIndex moduleId = none := by
    cases hindex : w.provider.stagedIndex moduleId with
    | none => rfl
    | some i =>
      obtain ⟨array, before, slot, after, data, hnull, hslots, rfl, -, hdata⟩ :=
        Provider.stagedIndex_some hw.invariant hindex
      rw [Provider.payload, hindex] at h
      simp [Provider.slots, hnull, hslots, List.getD_eq_getElem?_getD, hdata] at h
  unfold ps2DriversImgReleaseStaged
  rw [globals_bind, hindex]
  dsimp only
  rw [globals_bind]
  -- the array stays: there is none, or the count is not zero
  cases hnull : w.provider.stagedModules with
  | none => rfl
  | some array =>
    have hcount : w.provider.stagedCount ≠ 0 := fun hzero => by
      rw [hw.invariant.null_iff_count.mpr hzero] at hnull
      cases hnull
    dsimp only
    rw [if_neg hcount]
    rfl

/-- What one call does: it takes the module it names, and hands over what was staged for it. -/
structure ConsumeCall.Effect (call : ConsumeCall) (w : World)
    (handed : Option (UInt32 × SifExec)) (w' : World) : Prop where
  valid : w'.Valid
  provider : w'.provider = w.provider.without fun id => call.module == some id
  handed : ∀ id c, handed = some (id, c) → call.module = some id ∧ ∃ data size,
    w.provider.payload id = some (data, size) ∧ c.payload = data.bytes.take size.toNat

theorem ConsumeCall.run_effect (hw : w.Valid) (call : ConsumeCall) :
    call.Effect w (call.run w).1 (call.run w).2 := by
  have hreleased (moduleId : UInt32) : (ps2DriversImgReleaseStaged moduleId w).2.provider =
      w.provider.without fun id => some moduleId == some id := by
    have hsame : (fun id => some moduleId == some id) = (· == moduleId) := by
      funext id
      rw [Option.some_beq_some, BEq.comm]
    rw [(hw.release moduleId).2, Provider.released_eq hw.invariant, hsame]
  cases call with
  | release moduleId => exact ⟨(hw.release moduleId).1, hreleased moduleId, nofun⟩
  | exec answer module argLen args =>
    cases module with
    | none =>
      refine ⟨hw, ?_, nofun⟩
      exact (Provider.without_of_absent hw.invariant fun _ _ h => by cases h).symm
    | some moduleId =>
      have hrun : (ConsumeCall.exec answer (some moduleId) argLen args).run w =
          let r := ps2IrxExecImage answer (some moduleId) argLen args w
          (r.1.call.map fun call => (moduleId, call), r.2) := rfl
      rw [hrun, ps2IrxExecImage_eq]
      cases hpayload : w.provider.payload moduleId with
      | none =>
        -- nothing is under the id, so taking it out changes nothing
        refine ⟨hw, ?_, nofun⟩
        have hdone := hreleased moduleId
        rw [ps2DriversImgReleaseStaged_absent hw hpayload] at hdone
        exact hdone
      | some found =>
        refine ⟨(hw.release moduleId).1, hreleased moduleId, fun id c hc => ?_⟩
        obtain ⟨rfl, rfl⟩ := Prod.mk.inj (Option.some.inj hc)
        exact ⟨rfl, found.1, found.2, hpayload, rfl⟩

structure ConsumeEffect (calls : List ConsumeCall) (w : World)
    (handed : List (UInt32 × SifExec)) (w' : World) : Prop where
  valid : w'.Valid
  provider : w'.provider = w.provider.without (named calls)
  nodup : (handed.map Prod.fst).Nodup
  handed : ∀ h ∈ handed, ∃ data size, w.provider.payload h.1 = some (data, size) ∧
    h.2.payload = data.bytes.take size.toNat

/-- The slots that still hold a payload are the ones that were not taken. -/
theorem Provider.mem_slots_without {p : Provider} {taken : UInt32 → Bool} {slot : StagedModule}
    (hdata : slot.data ≠ none) :
    slot ∈ (p.without taken).slots ↔ slot ∈ p.slots ∧ taken slot.id = false := by
  have hkept : slot ∈ p.slots.map (StagedModule.without taken) ↔
      slot ∈ p.slots ∧ taken slot.id = false := by
    rw [List.mem_map]
    constructor
    · rintro ⟨before, hbefore, rfl⟩
      by_cases htaken : (taken before.id && before.data.isSome) = true
      · rw [StagedModule.without, if_pos htaken] at hdata
        exact absurd rfl hdata
      · rw [StagedModule.without, if_neg htaken] at hdata ⊢
        refine ⟨hbefore, ?_⟩
        rw [Bool.and_eq_true, not_and, Option.isSome_iff_ne_none] at htaken
        by_contra h
        exact htaken (Bool.not_eq_false _ ▸ h) hdata
    · rintro ⟨hslot, hnot⟩
      exact ⟨slot, hslot, by simp [StagedModule.without, hnot]⟩
  by_cases hleft : filled (p.slots.map (StagedModule.without taken)) = []
  · rw [Provider.without, if_pos hleft, ← hkept]
    refine iff_of_false List.not_mem_nil fun hslot => hdata (filled_eq_nil.mp hleft slot hslot)
  · rw [Provider.slots_without hleft, hkept]

theorem Provider.payload_without {p : Provider} (hp : p.Invariant) {taken : UInt32 → Bool}
    (hp' : (p.without taken).Invariant) (id : UInt32) :
    (p.without taken).payload id = if taken id then none else p.payload id := by
  apply Option.ext
  rintro ⟨data, size⟩
  rw [Provider.payload_eq_some hp']
  constructor
  · rintro ⟨slot, hslot, rfl, hdata, hsize⟩
    obtain ⟨hslot, hnot⟩ := (Provider.mem_slots_without (by rw [hdata]; nofun)).mp hslot
    rw [hnot, if_neg Bool.false_ne_true]
    exact (Provider.payload_eq_some hp _ _ _).mpr ⟨slot, hslot, rfl, hdata, hsize⟩
  · intro h
    cases htaken : taken id with
    | true =>
      rw [htaken, if_pos rfl] at h
      cases h
    | false =>
      rw [htaken, if_neg Bool.false_ne_true] at h
      obtain ⟨slot, hslot, rfl, hdata, hsize⟩ := (Provider.payload_eq_some hp _ _ _).mp h
      exact ⟨slot, (Provider.mem_slots_without (by rw [hdata]; nofun)).mpr ⟨hslot, htaken⟩, rfl,
        hdata, hsize⟩

theorem runConsume_effect (hw : w.Valid) (calls : List ConsumeCall) :
    ConsumeEffect calls w (runConsume calls w).1 (runConsume calls w).2 := by
  induction calls generalizing w with
  | nil =>
    refine ⟨hw, ?_, List.nodup_nil, nofun⟩
    exact (Provider.without_of_absent hw.invariant fun _ _ h => by cases h).symm
  | cons call calls ih =>
    have hcall := call.run_effect hw
    have hrest := ih hcall.valid
    have hrun : runConsume (call :: calls) w =
        ((call.run w).1.toList ++ (runConsume calls (call.run w).2).1,
          (runConsume calls (call.run w).2).2) := rfl
    rw [hrun]
    generalize call.run w = r at hcall hrest
    obtain ⟨handed, w'⟩ := r
    -- what the first call took is not found again
    have hinv := hcall.valid.invariant
    have hpayload (id : UInt32) : w'.provider.payload id =
        if call.module == some id then none else w.provider.payload id := by
      rw [hcall.provider] at hinv ⊢
      exact Provider.payload_without hw.invariant hinv id
    have hlater (h : UInt32 × SifExec) (hh : h ∈ (runConsume calls w').1) :
        call.module ≠ some h.1 ∧ ∃ data size, w.provider.payload h.1 = some (data, size) ∧
          h.2.payload = data.bytes.take size.toNat := by
      obtain ⟨data, size, hfound, hbytes⟩ := hrest.handed h hh
      rw [hpayload] at hfound
      by_cases hsame : (call.module == some h.1) = true
      · rw [if_pos hsame] at hfound
        cases hfound
      · rw [if_neg hsame] at hfound
        exact ⟨fun heq => hsame (beq_iff_eq.mpr heq), data, size, hfound, hbytes⟩
    constructor
    · exact hrest.valid
    · rw [hrest.provider, hcall.provider, Provider.without_without]
      rfl
    · cases hhanded : handed with
      | none => exact hrest.nodup
      | some found =>
        obtain ⟨hmodule, -⟩ := hcall.handed found.1 found.2 hhanded
        show (found.1 :: (runConsume calls w').1.map Prod.fst).Nodup
        refine List.nodup_cons.mpr ⟨fun hmem => ?_, hrest.nodup⟩
        obtain ⟨h, hh, heq⟩ := List.mem_map.mp hmem
        exact (hlater h hh).1 (hmodule.trans (congrArg some heq.symm))
    · intro h hh
      rcases List.mem_append.mp hh with hfirst | hrest
      · obtain ⟨-, hfound⟩ := hcall.handed h.1 h.2 (Option.mem_toList.mp hfirst)
        exact hfound
      · exact (hlater h hrest).2

end

/-! ## 3. The main result -/

theorem Provider.without_congr {p : Provider} {t u : UInt32 → Bool}
    (h : ∀ slot ∈ p.slots, t slot.id = u slot.id) : p.without t = p.without u := by
  have hslots : p.slots.map (StagedModule.without t) = p.slots.map (StagedModule.without u) := by
    apply List.map_congr_left
    intro slot hslot
    unfold StagedModule.without
    rw [h slot hslot]
  unfold Provider.without
  rw [hslots]

/-- The provider points to all live blocks. -/
theorem World.Valid.live_eq {w w' : World} (hw : w.Valid) (hw' : w'.Valid)
    (h : w.provider = w'.provider) : w.heap.live = w'.heap.live := by
  ext b
  rw [hw.owned.live b, hw'.owned.live b, h]

/-- After a successful staging each payload is handed over at most once and intact, a module that is
not there any more is refused without a trace, and what is left depends only on the modules that
were named. -/
theorem staged_consumed_once (ids : Irx → UInt32) (steps : List (Env × ProviderOp)) (env : Env)
    (call : StageCall) :
    let w := runProvider ids steps World.initial
    let staged := call.run ids env w
    staged.1 = .ok → ∀ calls : List ConsumeCall,
      let stagedIds := staged.2.provider.slots.map (·.id)
      let r := runConsume calls staged.2
      (∀ h ∈ r.1, h.1 ∈ stagedIds ∧ ∃ path image e,
        ((call.event env).after w.provider.remembered).1 = some path ∧
        env.file path = some image ∧ imageEntry image h.1 = some e ∧
        crc32Bytes (entryPayload image e) = e.crc32 ∧ h.2.payload = entryPayload image e ∧
        h.2.payload.length = e.size.toNat) ∧
      (r.1.map Prod.fst).Nodup ∧
      (∀ id, id ∉ stagedIds ∨ named calls id = true →
        (∀ answer argLen args,
          ps2IrxExecImage answer (some id) argLen args r.2 = (.failed, r.2)) ∧
        ps2DriversImgReleaseStaged id r.2 = ((), r.2)) ∧
      (∀ calls', (∀ id ∈ stagedIds, named calls' id = named calls id) →
        (runConsume calls' staged.2).2.provider = r.2.provider ∧
          (runConsume calls' staged.2).2.heap.live = r.2.heap.live) ∧
      (r.2.provider.idle ↔ ∀ id ∈ stagedIds, named calls id = true) := by
  intro w staged hok calls stagedIds r
  have hw : w.Valid := runProvider_valid ids steps World.initial_valid
  obtain ⟨hvalid, hids, path, image, hpath, himage, hfound⟩ :=
    (call.run_outcome hw hok).payload hw.invariant rfl
  have hr := runConsume_effect hvalid calls
  have hinv := hr.valid.invariant
  have hpayload (id : UInt32) : r.2.provider.payload id =
      if named calls id then none else staged.2.provider.payload id := by
    rw [hr.provider] at hinv ⊢
    exact Provider.payload_without hvalid.invariant hinv id
  refine ⟨fun h hh => ?_, hr.nodup, fun id habsent => ?_, fun calls' hsame => ?_, ?_⟩
  · obtain ⟨data, size, hdata, hbytes⟩ := hr.handed h hh
    have hmem : h.1 ∈ stagedIds :=
      Provider.mem_ids_of_payload hvalid.invariant (by rw [hdata]; nofun)
    obtain ⟨e, data', hentry, hcrc, hdata', hpayload, hlength⟩ := hfound h.1 (hids ▸ hmem)
    obtain ⟨rfl, rfl⟩ := Prod.mk.inj (Option.some.inj (hdata.symm.trans hdata'))
    -- the size covers the whole buffer
    rw [List.take_of_length_le (Nat.le_of_eq hlength)] at hbytes
    refine ⟨hmem, path, image, e, hpath, himage, hentry, hcrc, hbytes.trans hpayload, ?_⟩
    rw [hbytes, hlength]
  · have hnone : r.2.provider.payload id = none := by
      rw [hpayload]
      rcases habsent with hout | hnamed
      · have hgone : staged.2.provider.payload id = none := by
          by_contra hne
          exact hout (Provider.mem_ids_of_payload hvalid.invariant hne)
        rw [hgone, ite_self]
      · rw [if_pos hnamed]
    refine ⟨fun answer argLen args => ?_, ps2DriversImgReleaseStaged_absent hr.valid hnone⟩
    rw [ps2IrxExecImage_eq, hnone]
  · have hr' := runConsume_effect hvalid calls'
    have hprovider : (runConsume calls' staged.2).2.provider = r.2.provider := by
      rw [hr'.provider, hr.provider]
      exact Provider.without_congr fun slot hslot => hsame _ (List.mem_map_of_mem hslot)
    exact ⟨hprovider, hr'.valid.live_eq hr.valid hprovider⟩
  · rw [Provider.idle_iff_payload hinv]
    constructor
    · intro hidle id hid
      by_contra hnot
      have hgone := hidle id
      rw [hpayload, if_neg hnot] at hgone
      obtain ⟨e, data, -, -, hdata, -⟩ := hfound id (hids ▸ hid)
      rw [hgone] at hdata
      cases hdata
    · intro hall id
      rw [hpayload]
      by_cases hnamed : named calls id = true
      · rw [if_pos hnamed]
      · rw [if_neg hnamed]
        by_contra hne
        exact hnamed (hall id (Provider.mem_ids_of_payload hvalid.invariant hne))

/-- A module that is not staged, one that fails to start, the same one again, and another one. -/
def memcardCalls : List ConsumeCall :=
  [.exec (7, 0) (some 2) 0 none, .exec (-1, 1) (some 4) 0 none, .exec (7, 0) (some 4) 0 none,
    .exec (7, 0) (some 5) 0 none]

theorem staged_consumed_once_memcard : ∃ w,
    StageCall.run irxId memcardEnv (.stageDefault memcardRequirements)
        (runProvider irxId memcardSteps World.initial) = (.ok, w) ∧
      let r := runConsume memcardCalls w
      r.1.map Prod.fst = [4, 5] ∧ (r.1.map Prod.fst).Nodup ∧
        (∀ h ∈ r.1, ∃ e, imageEntry memcardImage h.1 = some e ∧
          h.2.payload = entryPayload memcardImage e ∧ h.2.payload.length = e.size.toNat) ∧
        ps2DriversImgReleaseStaged 4 r.2 = ((), r.2) ∧
        ((runConsume [.release 5, .release 4] w).2.provider = r.2.provider ∧
          (runConsume [.release 5, .release 4] w).2.heap.live = r.2.heap.live) ∧
        ¬ r.2.provider.idle := by
  have hcalls := staged_consumed_once irxId memcardSteps memcardEnv
    (.stageDefault memcardRequirements)
  dsimp only at hcalls
  have hok : (StageCall.run irxId memcardEnv (.stageDefault memcardRequirements)
      (runProvider irxId memcardSteps World.initial)).1 = .ok := by decide +kernel
  have hids : (StageCall.run irxId memcardEnv (.stageDefault memcardRequirements)
      (runProvider irxId memcardSteps World.initial)).2.provider.slots.map (·.id) = [1, 4, 5] := by
    decide +kernel
  generalize hstaged : StageCall.run irxId memcardEnv (.stageDefault memcardRequirements)
    (runProvider irxId memcardSteps World.initial) = staged at hcalls hok hids ⊢
  have hhanded : (runConsume memcardCalls staged.2).1.map Prod.fst = [4, 5] := by
    rw [← hstaged]
    decide +kernel
  obtain ⟨hpayload, hnodup, hgone, hsame, hidle⟩ := hcalls hok memcardCalls
  refine ⟨staged.2, Prod.ext hok rfl, ?_⟩
  generalize runConsume memcardCalls staged.2 = r at hhanded hpayload hnodup hgone hsame hidle ⊢
  refine ⟨hhanded, hnodup, fun h hh => ?_, ?_, ?_, ?_⟩
  · obtain ⟨-, path, image, e, -, himage, hentry, -, hbytes, hlength⟩ := hpayload h hh
    obtain rfl : memcardImage = image := Option.some.inj himage
    exact ⟨e, hentry, hbytes, hlength⟩
  · exact (hgone 4 (.inr (by decide))).2
  · refine hsame _ ?_
    rw [hids]
    simp only [List.forall_mem_cons]
    exact ⟨by decide, by decide, by decide, List.forall_mem_nil _⟩
  · intro hempty
    exact absurd (hidle.mp hempty 1 (by rw [hids]; decide)) (by decide)

end Ps2Drivers
