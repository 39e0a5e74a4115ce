import Ps2Drivers.Provider.Consume

/-!
# Staging from an image

An application that knows the file knows what a staging call makes of a provider that holds
nothing: either the image has the modules of the mask and they are all there afterwards, or nothing
changes.
-/

open Binary CString

namespace Ps2Drivers

/-! ## 1. What the counters say -/

section

variable {p : Provider} (hp : p.Invariant) {image : Bytes} {ids : List UInt32}
  (hslots : List.Forall₂ (SlotHolds image) ids p.slots)

def suppliedBytes (image : Bytes) (ids : List UInt32) : Nat :=
  (ids.map fun id => ((imageEntry image id).map (·.size.toNat)).getD 0).sum

/-- The image determines how many bytes are staged. -/
theorem slots_bytes {slots : List StagedModule} (h : List.Forall₂ (SlotHolds image) ids slots) :
    slotBytes slots = suppliedBytes image ids := by
  have hfilled := slots_filled h
  rw [slotBytes, List.filter_eq_self.mpr hfilled, suppliedBytes]
  congr 1
  induction h with
  | nil => rfl
  | cons hslot _ ih =>
    obtain ⟨e, block, hentry, -, -, rfl⟩ := hslot
    rw [List.forall_mem_cons] at hfilled
    rw [List.map_cons, List.map_cons, ih hfilled.2, hentry]
    rfl

/-- A module of an image is not empty. -/
theorem suppliedBytes_ne_zero (hformat : ImageFormat image) {slots : List StagedModule}
    (h : List.Forall₂ (SlotHolds image) ids slots) (hids : ids ≠ []) :
    suppliedBytes image ids ≠ 0 := by
  cases h with
  | nil => exact absurd rfl hids
  | cons hslot _ =>
    obtain ⟨e, block, hentry, -, -, -⟩ := hslot
    have hsize := (hformat.entries e (imageEntry_some hentry).1).size_ne_zero
    rw [suppliedBytes, List.map_cons, List.sum_cons, hentry, Option.map_some, Option.getD_some]
    omega

include hp hslots

/-- Every module of the request is counted. -/
theorem stagedCount_eq : p.stagedCount = ids.length := by
  have hfilled : p.slots.filter (·.data.isSome) = p.slots :=
    List.filter_eq_self.mpr (slots_filled hslots)
  rw [hp.count, hfilled, hslots.length_eq]

theorem stagedBytes_eq : p.stagedBytes = suppliedBytes image ids := by
  rw [hp.bytes, slots_bytes hslots]

/-- Slots that hold the modules of an image are found, and nothing else is. -/
theorem Provider.payload_of_slots (id : UInt32) : p.payload id ≠ none ↔ id ∈ ids := by
  rw [← slots_ids hslots]
  constructor
  · exact Provider.mem_ids_of_payload hp
  · intro hid
    obtain ⟨slot, hslot, rfl⟩ := List.mem_map.mp hid
    obtain ⟨data, hdata⟩ := Option.isSome_iff_exists.mp (slots_filled hslots slot hslot)
    rw [(Provider.payload_eq_some hp slot.id data slot.size).mpr ⟨slot, hslot, rfl, hdata, rfl⟩]
    exact Option.some_ne_none _

end

/-- A provider that holds nothing and remembers nothing owns no block. -/
theorem World.Valid.live_eq_empty {w : World} (hw : w.Valid) (hidle : w.provider.idle)
    (hpath : w.provider.imagePath = none) : w.heap.live = ∅ := by
  have howned : w.provider.owned = [] := by
    rw [Provider.owned_of_idle hidle.1, Provider.sourceBlocks, hpath]
    rfl
  ext b
  have hlive := hw.holds.2.live b
  rw [howned] at hlive
  simpa [Heap.empty] using hlive

/-! ## 2. Vacant and stocked -/

/-- The image has the modules of the mask, with their stored checksums. -/
structure Supplies (image : Bytes) (driverRequirements : UInt32) : Prop where
  format : ImageFormat image
  intact : ∀ id, Requested driverRequirements id → ModuleIntact image id

def Env.supplies (env : Env) (path : Bytes) (driverRequirements : UInt32) : Prop :=
  ∃ image, env.file path = some image ∧ Supplies image driverRequirements

/-- The provider holds nothing, and remembers `source`. -/
structure World.Vacant (source : Option Bytes × UInt32) (w : World) : Prop where
  valid : w.Valid
  idle : w.provider.idle
  source : w.provider.remembered = source

structure World.StagedFrom (path image : Bytes) (driverRequirements : UInt32) (w : World) :
    Prop where
  valid : w.Valid
  mask : badRequirements driverRequirements = false
  format : ImageFormat image
  source : w.provider.remembered = (some path, driverRequirements)
  slots : List.Forall₂ (SlotHolds image) (requestedIds irxId driverRequirements) w.provider.slots

theorem World.initial_vacant : World.initial.Vacant (none, 0) :=
  ⟨World.initial_valid, ⟨rfl, rfl⟩, rfl⟩

inductive Staging (env : Env) (path : Bytes) (driverRequirements : UInt32) (w : World) :
    ImgError → World → Prop
  | staged {image : Bytes} {w' : World} (hfile : env.file path = some image)
      (hsupplies : Supplies image driverRequirements)
      (h : w'.StagedFrom path image driverRequirements) :
      Staging env path driverRequirements w .ok w'
  | refused {e : ImgError} {w' : World} (hne : e ≠ .ok)
      (hopen : e = .errOpen ↔ env.file path = none)
      (hnot : ¬ env.supplies path driverRequirements) (valid : w'.Valid)
      (same : w'.provider = w.provider) : Staging env path driverRequirements w e w'

section

variable {env : Env} {path : Bytes} {driverRequirements : UInt32} {w : World}

/-- No verdict on a module says that the file cannot be opened. -/
theorem stageVerdict_ne_errOpen (image : Bytes) (ids : List UInt32) :
    stageVerdict image ids ≠ .errOpen := by
  by_cases hok : stageVerdict image ids = .ok
  · rw [hok]
    decide
  · -- a failing verdict names a module that is missing or corrupt
    obtain ⟨_, id, _, -, -, -, hverdict⟩ := stageVerdict_failure hok
    rw [hverdict]
    by_cases hentry : imageEntry image id = none
    · rw [if_pos hentry]
      decide
    · rw [if_neg hentry]
      decide

/-- When no call fails, only a missing file cannot be opened. -/
theorem StageRefusal.errOpen_iff {file : Bytes → Option Bytes} {p : Provider} {e : ImgError}
    (h : StageRefusal irxId file p (some path) driverRequirements e) (hidle : p.idle)
    (hmask : badRequirements driverRequirements = false) : e = .errOpen ↔ file path = none := by
  cases h with
  | argument hbad =>
    rcases hbad with h | h | h
    · cases h
    · rw [hmask] at h
      cases h
    · exact absurd h (requestedIds_ne_nil hmask)
  | alreadyStaged hbusy => exact absurd hidle hbusy
  | noFile hpath hnone =>
    obtain rfl := Option.some.inj hpath
    exact iff_of_true rfl hnone
  | badFormat hpath himage =>
    obtain rfl := Option.some.inj hpath
    rw [himage]
    exact iff_of_false (by decide) (Option.some_ne_none _)
  | badModule hpath himage _ _ hverdict =>
    obtain rfl := Option.some.inj hpath
    rw [himage, hverdict]
    exact iff_of_false (stageVerdict_ne_errOpen _ _) (Option.some_ne_none _)

/-- A file with what is needed is refused for nothing. -/
theorem StageRefusal.not_supplies {p : Provider} {e : ImgError}
    (h : StageRefusal irxId env.file p (some path) driverRequirements e) (hidle : p.idle)
    (hmask : badRequirements driverRequirements = false) (hne : e ≠ .ok) :
    ¬ env.supplies path driverRequirements := by
  intro hsupplies
  obtain ⟨image, hfile, hsupplies⟩ := hsupplies
  rcases h.reason hidle hfile with h | h | h
  · rw [hmask] at h
    cases h
  · exact h hsupplies.format
  · exact hne (h.trans ((stageVerdict_eq_ok_iff _ _).mpr hsupplies.intact))

variable {source : Option Bytes × UInt32}

theorem ImgStageOutcome.staging {e : ImgError} {w' : World}
    (h : ImgStageOutcome irxId env (some path) driverRequirements w.provider Heap.empty [] e w')
    (henv : env.allOk) (hmask : badRequirements driverRequirements = false)
    (hw : w.Vacant source) : Staging env path driverRequirements w e w' := by
  cases h with
  | refused hne why holds =>
    have hvalid : w'.Valid := World.valid_of_holds hw.valid.invariant holds
    exact .refused hne ((why henv).errOpen_iff hw.idle hmask)
      ((why henv).not_supplies hw.idle hmask hne) hvalid holds.1
  | staged array buffer facts hsource holds =>
    obtain ⟨path', hpath, himage⟩ := facts.opened
    obtain rfl := Option.some.inj hpath
    have hinv := (facts.invariant hw.valid.invariant).remembered buffer
      (badRequirements_ne_zero facts.mask)
    have hslots : w'.provider.slots = array.slots := by
      rw [holds.1]
      rfl
    have hremembered : w'.provider.remembered = (some path, driverRequirements) := by
      rw [holds.1, hsource]
      rfl
    refine .staged himage ⟨facts.format, ?_⟩ ⟨World.valid_of_holds hinv holds, facts.mask,
      facts.format, hremembered, hslots ▸ facts.slots⟩
    exact (stageVerdict_eq_ok_iff _ _).mp ((stageVerdict_eq_ok _ _).mpr (slots_intact facts.slots))

/-! ## 3. The calls -/

theorem World.Vacant.stage (hw : w.Vacant source) (henv : env.allOk)
    (hmask : badRequirements driverRequirements = false) :
    Staging env path driverRequirements w
      (ps2DriversImgStage irxId env (some path) driverRequirements w).1
      (ps2DriversImgStage irxId env (some path) driverRequirements w).2 :=
  (ps2DriversImgStage_outcome irxId env (some path) driverRequirements w hw.valid.holds).staging
    henv hmask hw

theorem World.Vacant.restage {last : UInt32} (hw : w.Vacant (some path, last)) (henv : env.allOk)
    (hmask : badRequirements driverRequirements = false) :
    Staging env path driverRequirements w (ps2DriversImgRestage irxId env driverRequirements w).1
      (ps2DriversImgRestage irxId env driverRequirements w).2 := by
  have hpath : w.provider.imagePath.map (·.bytes) = some path := congrArg Prod.fst hw.source
  obtain ⟨buffer, hbuffer, rfl⟩ := Option.map_eq_some_iff.mp hpath
  exact (ps2DriversImgRestage_outcome irxId env hbuffer driverRequirements w
    hw.valid.holds).staging henv hmask hw

theorem World.Vacant.restageLast (hw : w.Vacant (some path, driverRequirements))
    (henv : env.allOk) (hmask : badRequirements driverRequirements = false) :
    Staging env path driverRequirements w (ps2DriversImgRestageLast irxId env w).1
      (ps2DriversImgRestageLast irxId env w).2 := by
  have hlast : w.provider.lastRequirements = driverRequirements := congrArg Prod.snd hw.source
  have hsame : ps2DriversImgRestageLast irxId env w =
      ps2DriversImgRestage irxId env driverRequirements w := by
    have hpath : w.provider.imagePath.map (·.bytes) = some path := congrArg Prod.fst hw.source
    -- a valid provider remembers a mask whenever it remembers a path
    have hne : ¬ (w.provider.imagePath = none ∨ w.provider.lastRequirements = 0) := by
      rw [← hw.valid.invariant.source, or_self]
      intro hnone
      rw [hnone] at hpath
      cases hpath
    show (if w.provider.imagePath = none ∨ w.provider.lastRequirements = 0 then
      (pure .errNoSource : ProviderM ImgError)
      else ps2DriversImgRestage irxId env w.provider.lastRequirements) w = _
    rw [if_neg hne, hlast]
  rw [hsame]
  exact hw.restage henv hmask

/-- A call that stages succeeds when the file has what is needed. -/
theorem Staging.succeeds {m : ProviderM ImgError}
    (h : Staging env path driverRequirements w (m w).1 (m w).2)
    (hsupplies : env.supplies path driverRequirements) :
    ∃ image w', env.file path = some image ∧ m w = (.ok, w') ∧
      w'.StagedFrom path image driverRequirements := by
  generalize m w = r at h
  obtain ⟨e, w'⟩ := r
  cases h with
  | staged hfile _ hstaged => exact ⟨_, w', hfile, rfl, hstaged⟩
  | refused _ _ hnot => exact absurd hsupplies hnot

/-- Otherwise it fails and changes nothing. -/
theorem Staging.fails {m : ProviderM ImgError}
    (h : Staging env path driverRequirements w (m w).1 (m w).2) (hw : w.Vacant source)
    (hnot : ¬ env.supplies path driverRequirements) :
    ∃ e w', m w = (e, w') ∧ e ≠ .ok ∧ (e = .errOpen ↔ env.file path = none) ∧
      w'.Vacant source := by
  generalize m w = r at h
  obtain ⟨e, w'⟩ := r
  cases h with
  | staged hfile hsupplies => exact absurd ⟨_, hfile, hsupplies⟩ hnot
  | refused hne hopen _ hvalid hsame =>
    exact ⟨e, w', rfl, hne, hopen, hvalid, hsame ▸ hw.idle, hsame ▸ hw.source⟩

/-- Without a source nothing can be staged again. -/
theorem World.Vacant.noSource (hw : w.Vacant (none, 0))
    (hmask : badRequirements driverRequirements = false) :
    ps2DriversImgRestage irxId env driverRequirements w = (.errNoSource, w) ∧
      ps2DriversImgRestageLast irxId env w = (.errNoSource, w) := by
  have hpath : w.provider.imagePath = none := Option.map_eq_none_iff.mp (congrArg Prod.fst hw.source)
  constructor
  · unfold ps2DriversImgRestage
    rw [hmask, if_neg Bool.false_ne_true, globals_bind, hpath]
    rfl
  · unfold ps2DriversImgRestageLast
    rw [globals_bind, if_pos (Or.inl hpath)]
    rfl

theorem World.Vacant.counters (hw : w.Vacant source) :
    w.provider.stagedCount = 0 ∧ w.provider.stagedBytes = 0 := by
  have hnull : w.provider.stagedModules = none := hw.idle.1
  have hslots : w.provider.slots = [] := by
    rw [Provider.slots, hnull]
  refine ⟨hw.idle.2, ?_⟩
  rw [hw.valid.invariant.bytes, hslots]
  rfl

theorem World.Vacant.forget (hw : w.Vacant source) :
    ∃ w', ps2DriversImgForgetSource w = ((), w') ∧ w'.Vacant (none, 0) := by
  have hdone := ps2DriversImgForgetSource_ensures w hw.valid.holds
  generalize ps2DriversImgForgetSource w = r at hdone
  obtain ⟨u, w'⟩ := r
  have hprovider : w'.provider = { w.provider with imagePath := none, lastRequirements := 0 } :=
    hdone.1
  refine ⟨w', rfl, World.valid_of_holds hw.valid.invariant.forgotten hdone, ?_, ?_⟩
  · rw [hprovider]
    exact hw.idle
  · rw [hprovider]
    rfl

section

variable {image : Bytes} (hw : w.StagedFrom path image driverRequirements)

include hw

theorem World.StagedFrom.modules :
    w.provider.stagedCount = (requestedIds irxId driverRequirements).length :=
  stagedCount_eq hw.valid.invariant hw.slots

theorem World.StagedFrom.bytes :
    w.provider.stagedBytes = suppliedBytes image (requestedIds irxId driverRequirements) :=
  stagedBytes_eq hw.valid.invariant hw.slots

theorem World.StagedFrom.bytes_ne_zero : w.provider.stagedBytes ≠ 0 := by
  rw [hw.bytes]
  exact suppliedBytes_ne_zero hw.format hw.slots (requestedIds_ne_nil hw.mask)

theorem World.StagedFrom.busy : ¬ w.provider.idle := by
  intro hidle
  have hcount : w.provider.stagedCount = 0 := hidle.2
  rw [hw.modules, List.length_eq_zero_iff] at hcount
  exact requestedIds_ne_nil hw.mask hcount

/-- What is staged must be used up before anything else is staged. -/
theorem World.StagedFrom.rejects {requirements : UInt32}
    (hmask : badRequirements requirements = false) (path' : Bytes) :
    ps2DriversImgStage irxId env (some path') requirements w = (.errAlreadyStaged, w) ∧
      ps2DriversImgRestage irxId env requirements w = (.errAlreadyStaged, w) ∧
      ps2DriversImgRestageLast irxId env w = (.errAlreadyStaged, w) := by
  have hfrom {requirements : UInt32} (hmask : badRequirements requirements = false)
      (path' : Bytes) :
      stageFromPath irxId env (some path') requirements w = (.errAlreadyStaged, w) := by
    -- the mask is checked first, then whether anything is staged; the file is not opened
    unfold stageFromPath
    dsimp only
    rw [hmask, if_neg Bool.false_ne_true, globals_bind, if_pos hw.busy]
    rfl
  have hpath : w.provider.imagePath.map (·.bytes) = some path := congrArg Prod.fst hw.source
  obtain ⟨buffer, hbuffer, -⟩ := Option.map_eq_some_iff.mp hpath
  have hrestage {requirements : UInt32} (hmask : badRequirements requirements = false) :
      ps2DriversImgRestage irxId env requirements w = (.errAlreadyStaged, w) := by
    unfold ps2DriversImgRestage
    rw [hmask, if_neg Bool.false_ne_true, globals_bind, hbuffer]
    dsimp only
    show (let r := stageFromPath irxId env (some buffer.bytes) requirements w
      (if r.1 = ImgError.ok then _ else (pure r.1 : ProviderM ImgError)) r.2) = _
    rw [hfrom hmask]
    rfl
  refine ⟨?_, hrestage hmask, ?_⟩
  · unfold ps2DriversImgStage
    dsimp only
    rw [hmask, if_neg Bool.false_ne_true, globals_bind, if_pos hw.busy]
    rfl
  · rw [ps2DriversImgRestageLast_eq hw.valid hw.source]
    exact hfrom hw.mask path

theorem World.StagedFrom.discard : ∃ w', ps2DriversImgDiscardStaged w = ((), w') ∧
    w'.Vacant (some path, driverRequirements) := by
  have hdone := ps2DriversImgDiscardStaged_ensures hw.valid.invariant w hw.valid.holds
  generalize ps2DriversImgDiscardStaged w = r at hdone
  obtain ⟨u, w'⟩ := r
  have hprovider : w'.provider = w.provider.setStaged none 0 0 0 := hdone.1
  refine ⟨w', rfl,
    World.valid_of_holds (Provider.Invariant.unstaged hw.valid.invariant.source) hdone, ?_, ?_⟩
  · rw [hprovider]
    exact ⟨rfl, rfl⟩
  · rw [hprovider]
    exact hw.source

end

end

/-! ## 4. Releasing one module after another -/

theorem releaseAll_run {w : World} (hw : w.Valid) (ids : List UInt32) :
    ∃ w', ids.forM ps2DriversImgReleaseStaged w = ((), w') ∧ w'.Valid ∧
      w'.provider.remembered = w.provider.remembered ∧
      ∀ id, w'.provider.payload id = if id ∈ ids then none else w.provider.payload id := by
  induction ids generalizing w with
  | nil => exact ⟨w, rfl, hw, rfl, fun id => (if_neg List.not_mem_nil).symm⟩
  | cons id ids ih =>
    obtain ⟨hvalid, hprovider⟩ := hw.release id
    obtain ⟨w', hrun, hvalid', hsource, hpayload⟩ := ih hvalid
    refine ⟨w', hrun, hvalid', hsource.trans ?_, fun i => (hpayload i).trans ?_⟩
    · rw [hprovider]
      exact Provider.released_remembered _ _
    · -- an id is released here, later, or never
      rw [hprovider, Provider.payload_released hw.invariant]
      by_cases hrest : i ∈ ids
      · simp [hrest]
      · by_cases hid : i = id
        · simp [hid]
        · simp [hrest, hid]

end Ps2Drivers
