import Ps2Drivers.Provider.Invariant

/-!
# Runs of the provider

The operations of the provider, run one after another, each over a file system and with failures
of its own.  One step keeps the invariant and the ownership of the heap, hence so does a run.
-/

open Binary CString

namespace Ps2Drivers

/-! ## 1. Operations -/

inductive StageCall
  | stage (imagePath : Option Bytes) (driverRequirements : UInt32)
  | stageDefault (driverRequirements : UInt32)
  | stageForBootDevice (imagePath : Option Bytes) (bootDevice : BootDevice)
      (additionalRequirements : UInt32)
  | stageForPath (imagePath path : Option Bytes) (additionalRequirements : UInt32)
  | stageForCurrentBoot (imagePath : Option Bytes) (additionalRequirements : UInt32)
  | stageForAllFilesystems (imagePath : Option Bytes) (additionalRequirements : UInt32)
  | stageDefaultForBootDevice (bootDevice : BootDevice) (additionalRequirements : UInt32)
  | stageDefaultForPath (path : Option Bytes) (additionalRequirements : UInt32)
  | stageDefaultForCurrentBoot (additionalRequirements : UInt32)
  | stageDefaultForAllFilesystems (additionalRequirements : UInt32)
  | restage (driverRequirements : UInt32)
  | restageLast

def StageCall.run (ids : Irx → UInt32) (env : Env) : StageCall → ProviderM ImgError
  | .stage imagePath req => ps2DriversImgStage ids env imagePath req
  | .stageDefault req => ps2DriversImgStageDefault ids env req
  | .stageForBootDevice imagePath bootDevice add =>
    ps2DriversImgStageForBootDevice ids env imagePath bootDevice add
  | .stageForPath imagePath path add => ps2DriversImgStageForPath ids env imagePath path add
  | .stageForCurrentBoot imagePath add => ps2DriversImgStageForCurrentBoot ids env imagePath add
  | .stageForAllFilesystems imagePath add =>
    ps2DriversImgStageForAllFilesystems ids env imagePath add
  | .stageDefaultForBootDevice bootDevice add =>
    ps2DriversImgStageDefaultForBootDevice ids env bootDevice add
  | .stageDefaultForPath path add => ps2DriversImgStageDefaultForPath ids env path add
  | .stageDefaultForCurrentBoot add => ps2DriversImgStageDefaultForCurrentBoot ids env add
  | .stageDefaultForAllFilesystems add => ps2DriversImgStageDefaultForAllFilesystems ids env add
  | .restage req => ps2DriversImgRestage ids env req
  | .restageLast => ps2DriversImgRestageLast ids env

inductive ProviderOp
  | stage (call : StageCall)
  | discardStaged
  | forgetSource
  | getStaged (moduleId : UInt32) (outputs : Bool)
  | releaseStaged (moduleId : UInt32)
  | exec (answer : Int × Int) (module : Option UInt32) (argLen : Nat) (args : Option Bytes)

def ProviderOp.run (ids : Irx → UInt32) (env : Env) : ProviderOp → ProviderM Unit
  | .stage call => do let _ ← call.run ids env
  | .discardStaged => ps2DriversImgDiscardStaged
  | .forgetSource => ps2DriversImgForgetSource
  | .getStaged moduleId outputs => do let _ ← ps2DriversImgGetStaged moduleId outputs
  | .releaseStaged moduleId => ps2DriversImgReleaseStaged moduleId
  | .exec answer module argLen args => do let _ ← ps2IrxExecImage answer module argLen args

/-- A run: each step has its own environment. -/
def runProvider (ids : Irx → UInt32) (steps : List (Env × ProviderOp)) (w : World) : World :=
  steps.foldl (fun w step => (step.2.run ids step.1 w).2) w

/-! ## 2. What a run preserves -/

/-- The invariant holds and the live blocks are exactly those the provider owns, each owned
once. -/
structure World.Valid (w : World) : Prop where
  invariant : w.provider.Invariant
  owned : Heap.Extends Heap.empty w.heap w.provider.owned

theorem World.initial_valid : World.initial.Valid := ⟨Provider.initial_invariant, .refl _⟩

theorem World.Valid.holds {w : World} (h : w.Valid) :
    Holds w.provider Heap.empty (w.provider.owned ++ []) w :=
  ⟨rfl, by rw [List.append_nil]; exact h.owned⟩

theorem World.valid_of_holds {q : Provider} {w : World} (hq : q.Invariant)
    (hw : Holds q Heap.empty (q.owned ++ []) w) : w.Valid := by
  obtain ⟨rfl, hextends⟩ := hw
  rw [List.append_nil] at hextends
  exact ⟨hq, hextends⟩

section

variable (ids : Irx → UInt32) (env : Env) {w : World}

theorem StageCall.run_effect {p : Provider} {h₀ : Heap} {bs : List Nat} (hp : p.Invariant)
    (call : StageCall) :
    Ensures (Holds p h₀ (p.owned ++ bs)) (call.run ids env) (CallEffect p h₀ bs) := by
  cases call with
  | stage imagePath req => exact ps2DriversImgStage_effect ids env hp _ _
  | stageDefault req => exact ps2DriversImgStage_effect ids env hp _ _
  | stageForBootDevice imagePath bootDevice add =>
    exact ps2DriversImgStageForBootDevice_effect ids env hp _ _ _
  | stageForPath imagePath path add => exact stageComputed_effect ids env hp _ _
  | stageForCurrentBoot imagePath add => exact stageComputed_effect ids env hp _ _
  | stageForAllFilesystems imagePath add =>
    exact ps2DriversImgStageForAllFilesystems_effect ids env hp _ _
  | stageDefaultForBootDevice bootDevice add =>
    exact ps2DriversImgStageForBootDevice_effect ids env hp _ _ _
  | stageDefaultForPath path add => exact stageComputed_effect ids env hp _ _
  | stageDefaultForCurrentBoot add => exact stageComputed_effect ids env hp _ _
  | stageDefaultForAllFilesystems add =>
    exact ps2DriversImgStageForAllFilesystems_effect ids env hp _ _
  | restage req => exact ps2DriversImgRestage_effect ids env hp _
  | restageLast => exact ps2DriversImgRestageLast_effect ids env hp

theorem StageCall.run_valid (hw : w.Valid) (call : StageCall) : (call.run ids env w).2.Valid := by
  have h := call.run_effect ids env hw.invariant w hw.holds
  generalize call.run ids env w = r at h
  obtain ⟨e, w'⟩ := r
  cases h with
  | unchanged _ holds => exact World.valid_of_holds hw.invariant holds
  | replaced hinv holds => exact World.valid_of_holds hinv holds

/-- One step keeps the state valid. -/
theorem ProviderOp.run_valid (hw : w.Valid) (op : ProviderOp) : (op.run ids env w).2.Valid := by
  have hp := hw.invariant
  cases op with
  | stage call => exact call.run_valid ids env hw
  | discardStaged =>
    exact World.valid_of_holds (Provider.Invariant.unstaged hp.source)
      (ps2DriversImgDiscardStaged_ensures hp w hw.holds)
  | forgetSource =>
    exact World.valid_of_holds hp.forgotten (ps2DriversImgForgetSource_ensures w hw.holds)
  | getStaged moduleId outputs =>
    exact World.valid_of_holds hp (ps2DriversImgGetStaged_ensures moduleId outputs w hw.holds).2
  | releaseStaged moduleId =>
    exact World.valid_of_holds (hp.released moduleId)
      (ps2DriversImgReleaseStaged_ensures hp moduleId w hw.holds)
  | exec answer module argLen args =>
    cases module with
    | none => exact hw
    | some moduleId =>
      exact World.valid_of_holds (hp.released moduleId)
        (ps2IrxExecImage_ensures hp answer moduleId argLen args w hw.holds).2

/-- A run keeps the state valid. -/
theorem runProvider_valid (steps : List (Env × ProviderOp)) (hw : w.Valid) :
    (runProvider ids steps w).Valid := by
  induction steps generalizing w with
  | nil => exact hw
  | cons step steps ih => exact ih (step.2.run_valid ids step.1 hw)

end

/-! ## 3. The main results -/

/-- In every state a run reaches the globals agree with the slots, and whatever slot
`release_staged` finds is counted and part of the byte total. -/
theorem runProvider_invariant (ids : Irx → UInt32) (steps : List (Env × ProviderOp)) :
    let p := (runProvider ids steps World.initial).provider
    p.Invariant ∧ ∀ moduleId i, p.stagedIndex moduleId = some i →
      0 < p.stagedCount ∧ (p.slots.getD i StagedModule.zero).size.toNat ≤ p.stagedBytes := by
  intro p
  have hp : p.Invariant := (runProvider_valid ids steps World.initial_valid).invariant
  refine ⟨hp, fun moduleId i hindex => ?_⟩
  obtain ⟨array, before, slot, after, data, hnull, hslots, rfl, -, hdata⟩ :=
    Provider.stagedIndex_some hp hindex
  have hget : p.slots.getD before.length StagedModule.zero = slot := by
    simp [Provider.slots, hnull, hslots, List.getD_eq_getElem?_getD]
  rw [hget]
  exact hp.no_clamp hnull hslots hdata

/-- A staging call that fails leaves the globals and the live blocks as they were. -/
theorem failed_staging_changes_nothing (ids : Irx → UInt32) (steps : List (Env × ProviderOp))
    (env : Env) (call : StageCall) :
    let w := runProvider ids steps World.initial
    let r := call.run ids env w
    r.1 ≠ .ok → r.2.provider = w.provider ∧ r.2.heap.live = w.heap.live := by
  intro w r hne
  have hw : w.Valid := runProvider_valid ids steps World.initial_valid
  have h : CallEffect w.provider Heap.empty [] r.1 r.2 :=
    call.run_effect ids env hw.invariant w hw.holds
  clear_value r
  obtain ⟨e, w'⟩ := r
  cases h with
  | unchanged _ holds =>
    refine ⟨holds.1, ?_⟩
    ext b
    rw [holds.2.live b, hw.holds.2.live b]
  | replaced _ _ => exact absurd rfl hne

def memcardEnv : Env := ⟨fun _ => some memcardImage, fun _ => true, some (lit "mc0:/")⟩

/-- The same with a damaged byte in the payload of `mcserv`, the last module to be staged. -/
def damagedEnv : Env := { memcardEnv with file := fun _ => some (memcardImage.set 112 6) }

/-- Both drivers need `sio2man`. -/
def memcardRequirements : UInt32 := Driver.sio2man.req ||| Driver.memcard.req

theorem memcardRequirements_packed {module : Irx}
    (h : module ∈ requiredModules memcardRequirements) :
    irxId module ∈ memcardManifest.entries.map (·.id) := by
  have hmem : irxId module ∈ requestedIds irxId memcardRequirements :=
    (mem_requestedIds_irxId _ _).mpr ⟨module, h, rfl⟩
  have hids : requestedIds irxId memcardRequirements = [1, 4, 5] := by decide +kernel
  rw [hids, List.mem_cons, List.mem_cons, List.mem_singleton] at hmem
  rcases hmem with hid | hid | hid <;> rw [hid] <;> decide

/-- The provider is idle again and remembers the image. -/
def memcardSteps : List (Env × ProviderOp) :=
  [(memcardEnv, .stage (.stage (some (lit "a.irximg")) Driver.sio2man.req)),
    (memcardEnv, .discardStaged)]

/-- The payloads of two modules are buffered already when the third one fails. -/
theorem failed_staging_changes_nothing_damaged :
    let w := runProvider irxId memcardSteps World.initial
    let r := StageCall.run irxId damagedEnv (.stageDefault memcardRequirements) w
    r.1 = .errCrc ∧ r.2.heap.next = w.heap.next + 8 ∧ w.heap.live ≠ ∅ ∧
      r.2.provider = w.provider ∧ r.2.heap.live = w.heap.live :=
  ⟨by decide +kernel, by decide +kernel, by decide +kernel,
    failed_staging_changes_nothing irxId memcardSteps damagedEnv (.stageDefault memcardRequirements)
      (by decide +kernel)⟩

/-! ## 4. Staging is exact -/

/-- The module is one that some driver of the mask needs. -/
def Requested (driverRequirements id : UInt32) : Prop :=
  ∃ m ∈ requiredModules driverRequirements, irxId m = id

theorem stageVerdict_eq_ok_iff (image : Bytes) (driverRequirements : UInt32) :
    stageVerdict image (requestedIds irxId driverRequirements) = .ok ↔
      ∀ id, Requested driverRequirements id → ModuleIntact image id := by
  rw [stageVerdict_eq_ok]
  exact forall_congr' fun id => by rw [mem_requestedIds_irxId, Requested]

/-- A failing verdict names the defect of the smallest requested module that has one. -/
theorem stageVerdict_smallest {image : Bytes} {driverRequirements : UInt32}
    (h : stageVerdict image (requestedIds irxId driverRequirements) ≠ .ok) :
    ∃ id, Requested driverRequirements id ∧ ¬ ModuleIntact image id ∧
      (∀ i, Requested driverRequirements i → i < id → ModuleIntact image i) ∧
      stageVerdict image (requestedIds irxId driverRequirements) =
        if imageEntry image id = none then .errMissingModule else .errCrc := by
  obtain ⟨earlier, id, later, hids, hearlier, hbad, hverdict⟩ := stageVerdict_failure h
  have hsorted := requestedIds_sorted irxId driverRequirements
  rw [hids, List.pairwise_append, List.pairwise_cons] at hsorted
  refine ⟨id, (mem_requestedIds_irxId _ _).mp (by rw [hids]; simp), hbad, fun i hi hlt => ?_,
    hverdict⟩
  have hmem := (mem_requestedIds_irxId _ _).mpr hi
  rw [hids] at hmem
  rcases List.mem_append.mp hmem with hin | hin
  · exact hearlier i hin
  · rcases List.mem_cons.mp hin with rfl | hin
    · exact absurd hlt (UInt32.lt_irrefl i)
    · exact absurd (UInt32.lt_trans hlt (hsorted.2.1.1 i hin)) (UInt32.lt_irrefl i)

/-- Each staged slot is a filled copy of its module. -/
theorem slots_payload {image : Bytes} {ids : List UInt32} {slots : List StagedModule}
    (h : List.Forall₂ (SlotHolds image) ids slots) : ∀ slot ∈ slots,
    ∃ e data, imageEntry image slot.id = some e ∧ slot.data = some data ∧
      data.bytes = slice image e.offset.toNat e.size.toNat ∧ slot.size = e.size := by
  induction h with
  | nil => simp
  | cons hslot _ ih =>
    obtain ⟨e, block, hentry, -, -, rfl⟩ := hslot
    exact List.forall_mem_cons.mpr ⟨⟨e, _, hentry, rfl, rfl, rfl⟩, ih⟩

theorem slots_intact {image : Bytes} {ids : List UInt32} {slots : List StagedModule}
    (h : List.Forall₂ (SlotHolds image) ids slots) : ∀ id ∈ ids, ModuleIntact image id := by
  induction h with
  | nil => simp
  | cons hslot _ ih =>
    obtain ⟨e, block, hentry, hcrc, -, -⟩ := hslot
    exact List.forall_mem_cons.mpr ⟨⟨e, hentry, hcrc⟩, ih⟩

/-- An idle provider refuses an existing file for one of three reasons. -/
theorem StageRefusal.reason {file : Bytes → Option Bytes} {p : Provider} {path image : Bytes}
    {driverRequirements : UInt32} {e : ImgError}
    (h : StageRefusal irxId file p (some path) driverRequirements e) (hidle : p.idle)
    (hfile : file path = some image) :
    badRequirements driverRequirements = true ∨ ¬ ImageFormat image ∨
      e = stageVerdict image (requestedIds irxId driverRequirements) := by
  cases h with
  | argument hbad =>
    rcases hbad with h | h | h
    · cases h
    · exact Or.inl h
    · exact Or.inl (Bool.eq_true_of_not_eq_false fun hmask => requestedIds_ne_nil hmask h)
  | alreadyStaged hbusy => exact absurd hidle hbusy
  | noFile hpath hnone =>
    obtain rfl := Option.some.inj hpath
    rw [hfile] at hnone
    cases hnone
  | badFormat hpath himage hbad =>
    obtain rfl := Option.some.inj hpath
    obtain rfl := Option.some.inj (hfile.symm.trans himage)
    exact Or.inr (Or.inl hbad)
  | badModule hpath himage _ _ hverdict =>
    obtain rfl := Option.some.inj hpath
    obtain rfl := Option.some.inj (hfile.symm.trans himage)
    exact Or.inr (Or.inr hverdict)

/-- With the mask valid and every requested module intact, an idle provider stages them all. -/
theorem stage_intact (steps : List (Env × ProviderOp)) {env : Env} (henv : env.allOk)
    {path image : Bytes} (hfile : env.file path = some image) {driverRequirements : UInt32}
    (hidle : (runProvider irxId steps World.initial).provider.idle)
    (hmask : badRequirements driverRequirements = false) (hformat : ImageFormat image)
    (hintact : ∀ id, Requested driverRequirements id → ModuleIntact image id) :
    let r := ps2DriversImgStage irxId env (some path) driverRequirements
      (runProvider irxId steps World.initial)
    r.1 = .ok ∧
      List.Forall₂ (SlotHolds image) (requestedIds irxId driverRequirements) r.2.provider.slots := by
  intro r
  have hw : (runProvider irxId steps World.initial).Valid :=
    runProvider_valid irxId steps World.initial_valid
  have h : ImgStageOutcome irxId env (some path) driverRequirements _ Heap.empty [] r.1 r.2 :=
    ps2DriversImgStage_outcome irxId env (some path) driverRequirements _ hw.holds
  clear_value r
  obtain ⟨e, w'⟩ := r
  cases h with
  | refused hne why holds =>
    -- no reason is left to refuse
    rcases (why henv).reason hidle hfile with h | h | h
    · rw [hmask] at h
      cases h
    · exact absurd hformat h
    · exact absurd (h.trans ((stageVerdict_eq_ok_iff image driverRequirements).mpr hintact)) hne
  | @staged image' array source _ facts hsource holds =>
    obtain ⟨path', hpath, himage⟩ := facts.opened
    obtain rfl := Option.some.inj hpath
    obtain rfl := Option.some.inj (hfile.symm.trans himage)
    refine ⟨rfl, ?_⟩
    rw [show w'.provider.slots = array.slots by rw [holds.1]; rfl]
    exact facts.slots

/-- What an idle provider stages, and when. -/
theorem ps2DriversImgStage_exact (steps : List (Env × ProviderOp)) {env : Env} (henv : env.allOk)
    {path image : Bytes} (hfile : env.file path = some image) (driverRequirements : UInt32)
    (hidle : (runProvider irxId steps World.initial).provider.idle) :
    let r := ps2DriversImgStage irxId env (some path) driverRequirements
      (runProvider irxId steps World.initial)
    (r.1 = .ok ↔ badRequirements driverRequirements = false ∧
      (44 ≤ image.length ∧ image.length < 2 ^ 32 ∧ ImageFormat image) ∧
      ∀ id, Requested driverRequirements id → ModuleIntact image id) ∧
    (r.1 = .ok →
      (r.2.provider.slots.map (·.id)).Pairwise (· < ·) ∧
      (∀ id, id ∈ r.2.provider.slots.map (·.id) ↔ Requested driverRequirements id) ∧
      (∀ slot ∈ r.2.provider.slots, ∃ e data, imageEntry image slot.id = some e ∧
        slot.data = some data ∧ data.bytes = slice image e.offset.toNat e.size.toNat ∧
        slot.size = e.size) ∧
      (ps2DriversImgStagedModules r.2).1 = r.2.provider.slots.length ∧
      (ps2DriversImgStagedBytes r.2).1 = (r.2.provider.slots.map (·.size.toNat)).sum) ∧
    (r.1 ≠ .ok → badRequirements driverRequirements = false → ImageFormat image →
      ∃ id, Requested driverRequirements id ∧ ¬ ModuleIntact image id ∧
        (∀ i, Requested driverRequirements i → i < id → ModuleIntact image i) ∧
        r.1 = if imageEntry image id = none then .errMissingModule else .errCrc) := by
  intro r
  have hw : (runProvider irxId steps World.initial).Valid :=
    runProvider_valid irxId steps World.initial_valid
  have h : ImgStageOutcome irxId env (some path) driverRequirements _ Heap.empty [] r.1 r.2 :=
    ps2DriversImgStage_outcome irxId env (some path) driverRequirements _ hw.holds
  clear_value r
  obtain ⟨e, w'⟩ := r
  cases h with
  | refused hne why holds =>
    -- no call fails, so the reason is the mask, the format or a module
    have hreason := (why henv).reason hidle hfile
    refine ⟨iff_of_false hne ?_, fun h => absurd h hne, fun _ hmask hformat => ?_⟩
    · rintro ⟨hmask, ⟨-, -, hformat⟩, hintact⟩
      rcases hreason with h | h | h
      · rw [hmask] at h
        cases h
      · exact h hformat
      · exact hne (h.trans ((stageVerdict_eq_ok_iff image driverRequirements).mpr hintact))
    · rcases hreason with h | h | rfl
      · rw [hmask] at h
        cases h
      · exact absurd hformat h
      · exact stageVerdict_smallest hne
  | @staged image' array source _ facts hsource holds =>
    obtain ⟨path', hpath, himage⟩ := facts.opened
    obtain rfl := Option.some.inj hpath
    obtain rfl := Option.some.inj (hfile.symm.trans himage)
    have hids := slots_ids facts.slots
    have hslots : w'.provider.slots = array.slots := by
      rw [holds.1]
      rfl
    refine ⟨iff_of_true rfl ⟨facts.mask, ⟨facts.format.length_ge, facts.format.length_lt,
      facts.format⟩, ?_⟩, fun _ => ⟨?_, ?_, ?_, ?_, ?_⟩, fun h => absurd rfl h⟩
    · exact (stageVerdict_eq_ok_iff _ _).mp ((stageVerdict_eq_ok _ _).mpr (slots_intact facts.slots))
    · rw [hslots, hids]
      exact requestedIds_sorted irxId driverRequirements
    · rw [hslots, hids]
      exact fun id => mem_requestedIds_irxId driverRequirements id
    · rw [hslots]
      exact slots_payload facts.slots
    · change w'.provider.stagedCount = _
      rw [hslots, holds.1]
      rfl
    · change w'.provider.stagedBytes = _
      rw [hslots, holds.1]
      change slotBytes array.slots = _
      rw [slotBytes, List.filter_eq_self.mpr (slots_filled facts.slots)]

/-- Three modules are staged in the order of their ids, the one that both drivers need once. -/
theorem ps2DriversImgStage_exact_memcard : ∃ w,
    ps2DriversImgStage irxId memcardEnv (some (lit "b.irximg")) memcardRequirements
        (runProvider irxId memcardSteps World.initial) = (.ok, w) ∧
      w.provider.slots.map (·.id) = [1, 4, 5] ∧
      (w.provider.slots.map (·.id)).Pairwise (· < ·) ∧
      (∀ slot ∈ w.provider.slots, ∃ e data, imageEntry memcardImage slot.id = some e ∧
        slot.data = some data ∧ data.bytes = slice memcardImage e.offset.toNat e.size.toNat ∧
        slot.size = e.size) ∧
      (ps2DriversImgStagedModules w).1 = 3 ∧ (ps2DriversImgStagedBytes w).1 = 21 := by
  have h := @ps2DriversImgStage_exact memcardSteps memcardEnv (fun _ => rfl) (lit "b.irximg")
    memcardImage rfl memcardRequirements ⟨by decide +kernel, by decide +kernel⟩
  generalize hr : ps2DriversImgStage irxId memcardEnv (some (lit "b.irximg")) memcardRequirements
    (runProvider irxId memcardSteps World.initial) = r at h ⊢
  obtain ⟨hverdict, hexact, -⟩ := h
  have hok : r.1 = .ok := hverdict.mpr
    ⟨by decide, ⟨memcardImage_format.length_ge, memcardImage_format.length_lt,
      memcardImage_format⟩, (stageVerdict_eq_ok_iff _ _).mp (by decide +kernel)⟩
  obtain ⟨hsorted, -, hdata, hcount, hbytes⟩ := hexact hok
  have hids : r.2.provider.slots.map (·.id) = [1, 4, 5] := by
    rw [← hr]
    decide +kernel
  have hsizes : (r.2.provider.slots.map (·.size.toNat)).sum = 21 := by
    rw [← hr]
    decide +kernel
  have hlength : r.2.provider.slots.length = 3 := by
    rw [← List.length_map (f := (·.id)), hids]
    rfl
  exact ⟨r.2, Prod.ext hok rfl, hids, hsorted, hdata, hcount.trans hlength, hbytes.trans hsizes⟩

end Ps2Drivers
