import Ps2Drivers.Provider.Api

/-!
# The invariant of the provider

What the five globals say about each other, and that the blocks the provider owns are the ones it
points to.  Each operation is specified once: a staging call either changes nothing or leaves a
provider that satisfies the invariant again, and the other operations keep it.
-/

open Binary

namespace Ps2Drivers

/-! ## 1. The invariant -/

/-- The five globals agree with the slots, and the slots are sorted by id. -/
structure Provider.Invariant (p : Provider) : Prop where
  sorted : (p.slots.map (·.id)).Pairwise (· < ·)
  range : ∀ slot ∈ p.slots, 1 ≤ slot.id ∧ slot.id ≤ irximgMaxEntries
  count : p.stagedCount = (p.slots.filter (·.data.isSome)).length
  bytes : p.stagedBytes = slotBytes p.slots
  capacity : p.stagedCapacity = p.slots.length
  null_iff_count : p.stagedModules = none ↔ p.stagedCount = 0
  null_iff_capacity : p.stagedModules = none ↔ p.stagedCapacity = 0
  source : p.imagePath = none ↔ p.lastRequirements = 0

theorem Provider.initial_invariant : Provider.initial.Invariant :=
  ⟨List.Pairwise.nil, by simp [Provider.initial, Provider.slots], rfl, rfl, rfl,
    by simp [Provider.initial], by simp [Provider.initial], by simp [Provider.initial]⟩

def Provider.sourceBlocks (p : Provider) : List Nat := (p.imagePath.map (·.block)).toList

def Provider.stagedBlocks (p : Provider) : List Nat :=
  match p.stagedModules with
  | none => []
  | some array => slotBlocks array.slots ++ [array.block]

def Provider.owned (p : Provider) : List Nat := p.sourceBlocks ++ p.stagedBlocks

section

variable {p : Provider}

theorem Provider.owned_of_idle (h : p.stagedModules = none) : p.owned = p.sourceBlocks := by
  rw [Provider.owned, Provider.stagedBlocks, h, List.append_nil]

/-- Forgetting what is staged keeps the invariant. -/
theorem Provider.Invariant.unstaged (h : p.imagePath = none ↔ p.lastRequirements = 0) :
    (p.setStaged none 0 0 0).Invariant :=
  ⟨List.Pairwise.nil, by simp [Provider.setStaged, Provider.slots], rfl, rfl, rfl,
    by simp [Provider.setStaged], by simp [Provider.setStaged], h⟩

/-- Forgetting the source keeps the invariant. -/
theorem Provider.Invariant.forgotten (h : p.Invariant) :
    ({ p with imagePath := none, lastRequirements := 0 } : Provider).Invariant :=
  ⟨h.sorted, h.range, h.count, h.bytes, h.capacity, h.null_iff_count, h.null_iff_capacity,
    iff_of_true rfl rfl⟩

/-- Remembering a source with a non-zero mask keeps the invariant. -/
theorem Provider.Invariant.remembered (h : p.Invariant) (source : Buffer) {requirements : UInt32}
    (hne : requirements ≠ 0) :
    ({ p with imagePath := some source, lastRequirements := requirements } : Provider).Invariant :=
  ⟨h.sorted, h.range, h.count, h.bytes, h.capacity, h.null_iff_count, h.null_iff_capacity,
    iff_of_false (by simp) hne⟩

theorem badRequirements_ne_zero {requirements : UInt32} (h : badRequirements requirements = false) :
    requirements ≠ 0 := by
  simp only [badRequirements, Bool.or_eq_false_iff, beq_eq_false_iff_ne] at h
  exact h.1

/-! ## 2. A full array -/

private theorem SlotHolds.id_eq {image : Bytes} {id : UInt32} {slot : StagedModule}
    (h : SlotHolds image id slot) : slot.id = id ∧ slot.data.isSome = true := by
  obtain ⟨e, block, -, -, -, rfl⟩ := h
  exact ⟨rfl, rfl⟩

theorem slots_ids {image : Bytes} {ids : List UInt32} {slots : List StagedModule}
    (h : List.Forall₂ (SlotHolds image) ids slots) : slots.map (·.id) = ids := by
  induction h with
  | nil => rfl
  | cons hslot _ ih => rw [List.map_cons, ih, hslot.id_eq.1]

theorem slots_filled {image : Bytes} {ids : List UInt32} {slots : List StagedModule}
    (h : List.Forall₂ (SlotHolds image) ids slots) : ∀ slot ∈ slots, slot.data.isSome = true := by
  induction h with
  | nil => simp
  | cons hslot _ ih => exact List.forall_mem_cons.mpr ⟨hslot.id_eq.2, ih⟩

/-- A successful staging establishes the invariant. -/
theorem StageSuccess.invariant {ids : Irx → UInt32} {file : Bytes → Option Bytes}
    {imagePath : Option Bytes} {driverRequirements : UInt32} {image : Bytes}
    {array : StagedArray} (hp : p.Invariant)
    (h : StageSuccess ids file p imagePath driverRequirements image array.slots) :
    (p.stagedAs array).Invariant := by
  have hids := slots_ids h.slots
  have hlength : array.slots.length ≠ 0 := by
    have hlen := congrArg List.length hids
    rw [List.length_map] at hlen
    rw [hlen]
    exact fun hnil => h.nonempty (List.length_eq_zero_iff.mp hnil)
  refine ⟨?_, ?_, ?_, rfl, rfl, ?_, ?_, hp.source⟩
  · change (array.slots.map (·.id)).Pairwise (· < ·)
    rw [hids]
    exact requestedIds_sorted ids driverRequirements
  · intro slot hslot
    have hmem : slot.id ∈ requestedIds ids driverRequirements := by
      rw [← hids]
      exact List.mem_map_of_mem hslot
    exact requestedIds_range ids driverRequirements hmem
  · change array.slots.length = (array.slots.filter _).length
    rw [List.filter_eq_self.mpr (slots_filled h.slots)]
  · exact iff_of_false (by simp [Provider.stagedAs, Provider.setStaged]) hlength
  · exact iff_of_false (by simp [Provider.stagedAs, Provider.setStaged]) hlength

/-! ## 3. Staging calls -/

/-- The provider once `ps2_drivers_img_stage` has stored the path and the mask. -/
def Provider.stagedFrom (p : Provider) (array : StagedArray) (source : Buffer)
    (driverRequirements : UInt32) : Provider :=
  { p.stagedAs array with imagePath := some source, lastRequirements := driverRequirements }

/-- The two ways `ps2_drivers_img_stage` returns. -/
inductive ImgStageOutcome (ids : Irx → UInt32) (env : Env) (imagePath : Option Bytes)
    (driverRequirements : UInt32) (p : Provider) (h₀ : Heap) (bs : List Nat) :
    ImgError → World → Prop
  | refused {e : ImgError} {w : World} (hne : e ≠ .ok)
      (why : env.allOk → StageRefusal ids env.file p imagePath driverRequirements e)
      (holds : Holds p h₀ (p.owned ++ bs) w) :
      ImgStageOutcome ids env imagePath driverRequirements p h₀ bs e w
  | staged {image : Bytes} (array : StagedArray) (source : Buffer) {w : World}
      (facts : StageSuccess ids env.file p imagePath driverRequirements image array.slots)
      (hsource : imagePath = some source.bytes)
      (holds : Holds (p.stagedFrom array source driverRequirements) h₀
        ((p.stagedFrom array source driverRequirements).owned ++ bs) w) :
      ImgStageOutcome ids env imagePath driverRequirements p h₀ bs .ok w

/-- What a staging call does: it fails and changes nothing, or it succeeds and leaves a provider
that satisfies the invariant. -/
inductive CallEffect (p : Provider) (h₀ : Heap) (bs : List Nat) : ImgError → World → Prop
  | unchanged {e : ImgError} {w : World} (hne : e ≠ .ok) (holds : Holds p h₀ (p.owned ++ bs) w) :
      CallEffect p h₀ bs e w
  | replaced {q : Provider} {w : World} (hinv : q.Invariant) (holds : Holds q h₀ (q.owned ++ bs) w) :
      CallEffect p h₀ bs .ok w

variable {h₀ : Heap} {bs : List Nat} (ids : Irx → UInt32) (env : Env)

theorem ps2DriversImgStage_outcome (imagePath : Option Bytes) (driverRequirements : UInt32) :
    Ensures (Holds p h₀ (p.owned ++ bs)) (ps2DriversImgStage ids env imagePath driverRequirements)
      (ImgStageOutcome ids env imagePath driverRequirements p h₀ bs) := by
  unfold ps2DriversImgStage
  cases imagePath with
  | none => exact Ensures.ret fun w hw => .refused (by decide) (fun _ => .argument (Or.inl rfl)) hw
  | some path =>
    refine Ensures.branch (fun hmask => ?_) fun _ => ?_
    · exact Ensures.ret fun w hw =>
        .refused (by decide) (fun _ => .argument (Or.inr (Or.inl hmask))) hw
    refine Ensures.bind globals_ensures fun q => Ensures.of_pure fun hq => ?_
    subst hq
    refine Ensures.branch (fun hidle => ?_) fun hidle => ?_
    · exact Ensures.ret fun w hw => .refused (by decide) (fun _ => .alreadyStaged hidle) hw
    refine Ensures.bind (malloc_ensures env) fun block => Ensures.of_pure fun hfails => ?_
    cases block with
    | none =>
      exact Ensures.ret fun w hw => .refused (by decide) (fun h => (hfails rfl h).elim) hw
    | some block =>
      refine Ensures.bind (stageFromPath_ensures ids env (some path) driverRequirements)
        fun result w hw => ?_
      cases hw with
      | @refused e _ hne why holds =>
        -- the copy of the path is freed again
        simp only [ne_eq, hne, not_false_eq_true, if_true]
        exact (Ensures.bind (free_ensures block) fun _ =>
          Ensures.ret fun w hw => .refused hne why hw) w holds
      | @staged image array _ facts holds =>
        refine (Ensures.bind globals_ensures fun p => Ensures.of_pure fun hp => ?_) w holds
        subst hp
        have howned : q.owned = q.sourceBlocks := Provider.owned_of_idle facts.idle.1
        -- the provider was idle, so it owned no more than the old path, which is freed
        have hperm : (slotBlocks array.slots ++ array.block :: block :: (q.owned ++ bs)).Perm
            (q.sourceBlocks ++ (block :: (slotBlocks array.slots ++ [array.block]) ++ bs)) := by
          rw [howned, List.perm_iff_count]
          intro a
          simp only [List.count_append, List.count_cons, List.count_nil]
          omega
        refine ensures_of_perm hperm ?_
        refine Ensures.bind (freePtr_ensures (q.imagePath.map (·.block))) fun _ => ?_
        refine Ensures.bind (assign_ensures _) fun _ => ?_
        exact Ensures.ret fun w hw => .staged array ⟨block, path⟩ facts rfl hw

theorem ImgStageOutcome.effect {ids : Irx → UInt32} {env : Env} {imagePath : Option Bytes}
    {driverRequirements : UInt32} {e : ImgError} {w : World}
    (h : ImgStageOutcome ids env imagePath driverRequirements p h₀ bs e w) (hp : p.Invariant) :
    CallEffect p h₀ bs e w := by
  cases h with
  | refused hne _ holds => exact .unchanged hne holds
  | staged array source facts _ holds =>
    exact .replaced ((facts.invariant hp).remembered source (badRequirements_ne_zero facts.mask))
      holds

theorem ps2DriversImgStage_effect (hp : p.Invariant) (imagePath : Option Bytes)
    (driverRequirements : UInt32) :
    Ensures (Holds p h₀ (p.owned ++ bs)) (ps2DriversImgStage ids env imagePath driverRequirements)
      (CallEffect p h₀ bs) :=
  (ps2DriversImgStage_outcome ids env imagePath driverRequirements).weaken fun _ _ hw =>
    hw.effect hp

/-- A call that returns an error before it touches anything. -/
private theorem refuse_effect {e : ImgError} (hne : e ≠ .ok) :
    Ensures (Holds p h₀ (p.owned ++ bs)) (pure e) (CallEffect p h₀ bs) :=
  Ensures.ret fun _ hw => .unchanged hne hw

theorem stageComputed_effect (hp : p.Invariant) (imagePath : Option Bytes)
    (computed : ImgError × Option UInt32) :
    Ensures (Holds p h₀ (p.owned ++ bs)) (stageComputed ids env imagePath computed)
      (CallEffect p h₀ bs) :=
  Ensures.branch refuse_effect fun _ => ps2DriversImgStage_effect ids env hp _ _

theorem ps2DriversImgStageForBootDevice_effect (hp : p.Invariant) (imagePath : Option Bytes)
    (bootDevice : BootDevice) (additionalRequirements : UInt32) :
    Ensures (Holds p h₀ (p.owned ++ bs))
      (ps2DriversImgStageForBootDevice ids env imagePath bootDevice additionalRequirements)
      (CallEffect p h₀ bs) :=
  Ensures.branch (fun _ => refuse_effect (by decide)) fun _ =>
    ps2DriversImgStage_effect ids env hp _ _

theorem ps2DriversImgStageForAllFilesystems_effect (hp : p.Invariant) (imagePath : Option Bytes)
    (additionalRequirements : UInt32) :
    Ensures (Holds p h₀ (p.owned ++ bs))
      (ps2DriversImgStageForAllFilesystems ids env imagePath additionalRequirements)
      (CallEffect p h₀ bs) :=
  Ensures.branch (fun _ => refuse_effect (by decide)) fun _ =>
    ps2DriversImgStage_effect ids env hp _ _

/-- Staging again from the remembered path, with a new mask. -/
theorem ps2DriversImgRestage_outcome {source : Buffer} (hsource : p.imagePath = some source)
    (driverRequirements : UInt32) :
    Ensures (Holds p h₀ (p.owned ++ bs)) (ps2DriversImgRestage ids env driverRequirements)
      (ImgStageOutcome ids env (some source.bytes) driverRequirements p h₀ bs) := by
  refine Ensures.branch (fun hmask => ?_) fun hmask => ?_
  · exact Ensures.ret fun w hw =>
      .refused (by decide) (fun _ => .argument (Or.inr (Or.inl hmask))) hw
  refine Ensures.bind globals_ensures fun q => Ensures.of_pure fun hq => ?_
  subst hq
  rw [hsource]
  refine Ensures.bind (stageFromPath_ensures ids env _ driverRequirements) fun result w hw => ?_
  cases hw with
  | @refused e _ hne why holds =>
    simp only [hne, if_false]
    exact .refused hne why holds
  | @staged image array _ facts holds =>
    -- the path stays, only the mask is written
    have hsame : { q.stagedAs array with lastRequirements := driverRequirements } =
        q.stagedFrom array source driverRequirements := by
      rw [Provider.stagedFrom, ← hsource]
      rfl
    have hperm : (slotBlocks array.slots ++ array.block :: (q.owned ++ bs)).Perm
        ((q.stagedFrom array source driverRequirements).owned ++ bs) := by
      rw [Provider.owned_of_idle facts.idle.1, Provider.sourceBlocks, hsource, List.perm_iff_count]
      intro a
      simp only [Provider.owned, Provider.sourceBlocks, Provider.stagedBlocks,
        Provider.stagedFrom, Provider.stagedAs, Provider.setStaged, Option.map_some,
        Option.toList_some, List.count_append, List.count_cons, List.count_nil]
      omega
    refine (Ensures.bind (assign_ensures _) fun _ => Ensures.ret fun w hw => ?_) w holds
    rw [hsame] at hw
    exact .staged array source facts rfl (hw.perm hperm)

/-- Without a remembered path nothing is staged again. -/
theorem ps2DriversImgRestage_noSource (hsource : p.imagePath = none)
    (driverRequirements : UInt32) :
    Ensures (Holds p h₀ (p.owned ++ bs)) (ps2DriversImgRestage ids env driverRequirements)
      fun e w => e ≠ .ok ∧ Holds p h₀ (p.owned ++ bs) w := by
  refine Ensures.branch (fun _ => ?_) fun _ => ?_
  · exact Ensures.ret fun w hw => ⟨by decide, hw⟩
  refine Ensures.bind globals_ensures fun q => Ensures.of_pure fun hq => ?_
  subst hq
  rw [hsource]
  exact Ensures.ret fun w hw => ⟨by decide, hw⟩

theorem ps2DriversImgRestage_effect (hp : p.Invariant) (driverRequirements : UInt32) :
    Ensures (Holds p h₀ (p.owned ++ bs)) (ps2DriversImgRestage ids env driverRequirements)
      (CallEffect p h₀ bs) := by
  cases hsource : p.imagePath with
  | none =>
    exact (ps2DriversImgRestage_noSource ids env hsource driverRequirements).weaken fun _ _ hw =>
      .unchanged hw.1 hw.2
  | some source =>
    exact (ps2DriversImgRestage_outcome ids env hsource driverRequirements).weaken fun _ _ hw =>
      hw.effect hp

theorem ps2DriversImgRestageLast_effect (hp : p.Invariant) :
    Ensures (Holds p h₀ (p.owned ++ bs)) (ps2DriversImgRestageLast ids env)
      (CallEffect p h₀ bs) := by
  refine Ensures.bind globals_ensures fun q => Ensures.of_pure fun hq => ?_
  subst hq
  exact Ensures.branch (fun _ => refuse_effect (by decide)) fun _ =>
    ps2DriversImgRestage_effect ids env hp _

/-! ## 4. Discarding and consuming -/

theorem ps2DriversImgDiscardStaged_ensures (hp : p.Invariant) :
    Ensures (Holds p h₀ (p.owned ++ bs)) ps2DriversImgDiscardStaged fun _ w =>
      Holds (p.setStaged none 0 0 0) h₀ ((p.setStaged none 0 0 0).owned ++ bs) w := by
  refine Ensures.bind globals_ensures fun q => Ensures.of_pure fun hq => ?_
  subst hq
  have howned : (q.setStaged none 0 0 0).owned = q.sourceBlocks := Provider.owned_of_idle rfl
  rw [howned]
  cases hnull : q.stagedModules with
  | none =>
    rw [Provider.owned_of_idle hnull]
    exact assign_ensures _
  | some array =>
    have hcapacity : array.slots.length ≤ q.stagedCapacity := by
      rw [hp.capacity, Provider.slots, hnull]
    have hperm : (q.owned ++ bs).Perm
        (slotBlocks array.slots ++ array.block :: (q.sourceBlocks ++ bs)) := by
      rw [Provider.owned, Provider.stagedBlocks, hnull, List.perm_iff_count]
      intro a
      simp only [List.count_append, List.count_cons, List.count_nil]
      omega
    refine ensures_of_perm hperm ?_
    exact Ensures.bind (freeStagedArray_ensures array hcapacity) fun _ => assign_ensures _

theorem ps2DriversImgForgetSource_ensures :
    Ensures (Holds p h₀ (p.owned ++ bs)) ps2DriversImgForgetSource fun _ w =>
      Holds { p with imagePath := none, lastRequirements := 0 } h₀
        (({ p with imagePath := none, lastRequirements := 0 } : Provider).owned ++ bs) w := by
  refine Ensures.bind globals_ensures fun q => Ensures.of_pure fun hq => ?_
  subst hq
  rw [Provider.owned, List.append_assoc]
  exact Ensures.bind (freePtr_ensures (q.imagePath.map (·.block))) fun _ => assign_ensures _

/-- The slot without its payload. -/
def StagedModule.consumed (slot : StagedModule) : StagedModule :=
  { slot with data := none, size := 0 }

@[simp] theorem StagedModule.consumed_id (slot : StagedModule) : slot.consumed.id = slot.id := rfl

@[simp] theorem StagedModule.consumed_data (slot : StagedModule) : slot.consumed.data = none := rfl

theorem filter_cons_filled {slot : StagedModule} (slots : List StagedModule)
    (h : slot.data.isSome = true) :
    (slot :: slots).filter (·.data.isSome) = slot :: slots.filter (·.data.isSome) :=
  List.filter_cons_of_pos (p := fun slot : StagedModule => slot.data.isSome) h

theorem filter_cons_consumed (slot : StagedModule) (slots : List StagedModule) :
    (slot.consumed :: slots).filter (·.data.isSome) = slots.filter (·.data.isSome) := rfl

theorem slotBytes_cons_filled {slot : StagedModule} (slots : List StagedModule)
    (h : slot.data.isSome = true) :
    slotBytes (slot :: slots) = slot.size.toNat + slotBytes slots := by
  rw [slotBytes, filter_cons_filled slots h, List.map_cons, List.sum_cons, slotBytes]

theorem slotBytes_cons_consumed (slot : StagedModule) (slots : List StagedModule) :
    slotBytes (slot.consumed :: slots) = slotBytes slots := rfl

/-- The provider after `release_staged`. -/
def Provider.released (p : Provider) (moduleId : UInt32) : Provider :=
  match p.stagedIndex moduleId with
  | none => p
  | some i =>
    if (p.releaseSlot i).stagedCount = 0 then p.setStaged none 0 0 0 else p.releaseSlot i

/-- The slot that the search stops at. -/
theorem Provider.stagedIndex_some {moduleId : UInt32} {i : Nat} (hp : p.Invariant)
    (h : p.stagedIndex moduleId = some i) :
    ∃ array before slot after data, p.stagedModules = some array ∧
      array.slots = before ++ slot :: after ∧ before.length = i ∧ slot.id = moduleId ∧
      slot.data = some data := by
  rw [Provider.stagedIndex, hp.capacity, List.take_length] at h
  obtain ⟨hi, hholds, -⟩ := List.findIdx?_eq_some_iff_getElem.mp h
  rw [StagedModule.holds, Bool.and_eq_true, beq_iff_eq] at hholds
  obtain ⟨data, hdata⟩ := Option.isSome_iff_exists.mp hholds.2
  cases hnull : p.stagedModules with
  | none =>
    rw [Provider.slots, hnull] at hi
    exact absurd hi (Nat.not_lt_zero i)
  | some array =>
    have hslots : p.slots = array.slots := by rw [Provider.slots, hnull]
    refine ⟨array, p.slots.take i, p.slots[i], p.slots.drop (i + 1), data, rfl, ?_, ?_, hholds.1,
      hdata⟩
    · rw [← hslots, List.getElem_cons_drop, List.take_append_drop]
    · rw [List.length_take]
      omega

section

variable {array : StagedArray} {before after : List StagedModule} {slot : StagedModule}
  {data : Buffer}

/-- A filled slot is counted, and its size is part of the byte total: `release_staged` never has to
clamp. -/
theorem Provider.Invariant.no_clamp (hp : p.Invariant) (hnull : p.stagedModules = some array)
    (hslots : array.slots = before ++ slot :: after) (hdata : slot.data = some data) :
    0 < p.stagedCount ∧ slot.size.toNat ≤ p.stagedBytes := by
  rw [hp.count, hp.bytes, Provider.slots, hnull]
  dsimp only
  have hfilled : slot.data.isSome = true := by rw [hdata]; rfl
  rw [hslots, slotBytes_append, slotBytes_cons_filled _ hfilled, List.filter_append,
    List.length_append, filter_cons_filled _ hfilled, List.length_cons]
  omega

theorem Provider.releaseSlot_eq (hp : p.Invariant) (hnull : p.stagedModules = some array)
    (hslots : array.slots = before ++ slot :: after) (hdata : slot.data = some data) :
    p.releaseSlot before.length =
      p.setStaged (some ⟨array.block, before ++ slot.consumed :: after⟩) p.stagedCapacity
        (p.stagedCount - 1) (p.stagedBytes - slot.size.toNat) := by
  obtain ⟨hcount, hbytes⟩ := hp.no_clamp hnull hslots hdata
  have hget : p.slots.getD before.length StagedModule.zero = slot := by
    simp [Provider.slots, hnull, hslots, List.getD_eq_getElem?_getD]
  rw [Provider.releaseSlot, hget, if_pos hcount, if_pos hbytes, hnull, Option.map_some, hslots,
    List.set_append_right _ _ (Nat.le_refl _), Nat.sub_self, List.set_cons_zero]
  rfl

/-- Releasing a slot keeps the invariant as long as another slot is filled. -/
theorem Provider.releaseSlot_invariant (hp : p.Invariant) (hnull : p.stagedModules = some array)
    (hslots : array.slots = before ++ slot :: after) (hdata : slot.data = some data)
    (hleft : (p.releaseSlot before.length).stagedCount ≠ 0) :
    (p.releaseSlot before.length).Invariant := by
  obtain ⟨hcount_pos, -⟩ := hp.no_clamp hnull hslots hdata
  rw [Provider.releaseSlot_eq hp hnull hslots hdata] at hleft ⊢
  have hfilled : slot.data.isSome = true := by rw [hdata]; rfl
  obtain ⟨hsorted, hrange, hcount, hbytes, hcapacity, -, -, hsource⟩ := hp
  have hps : p.slots = before ++ slot :: after := by rw [Provider.slots, hnull, ← hslots]
  rw [hps] at hsorted hrange hcount hbytes hcapacity
  -- one slot keeps its id and loses its payload; the counters follow it
  refine ⟨?_, ?_, ?_, ?_, ?_, iff_of_false (by simp [Provider.setStaged]) hleft, ?_, hsource⟩
  · simpa [Provider.setStaged, Provider.slots] using hsorted
  · intro other hother
    rcases List.mem_append.mp hother with h | h
    · exact hrange other (List.mem_append_left _ h)
    · rcases List.mem_cons.mp h with rfl | h
      · exact hrange slot (by simp)
      · exact hrange other (by simp [h])
  · rw [List.filter_append, List.length_append, filter_cons_filled _ hfilled,
      List.length_cons] at hcount
    change p.stagedCount - 1 = ((before ++ slot.consumed :: after).filter _).length
    rw [List.filter_append, List.length_append, filter_cons_consumed]
    omega
  · rw [slotBytes_append, slotBytes_cons_filled _ hfilled] at hbytes
    change p.stagedBytes - slot.size.toNat = slotBytes (before ++ slot.consumed :: after)
    rw [slotBytes_append, slotBytes_cons_consumed]
    omega
  · change p.stagedCapacity = (before ++ slot.consumed :: after).length
    rw [hcapacity, List.length_append, List.length_append, List.length_cons, List.length_cons]
  · refine iff_of_false (by simp [Provider.setStaged]) ?_
    change p.stagedCapacity ≠ 0
    rw [hcapacity, List.length_append, List.length_cons]
    omega

/-- Releasing the only filled slot leaves no payload. -/
theorem Provider.releaseSlot_last (hp : p.Invariant) (hnull : p.stagedModules = some array)
    (hslots : array.slots = before ++ slot :: after) (hdata : slot.data = some data)
    (hleft : (p.releaseSlot before.length).stagedCount = 0) :
    slotBlocks before = [] ∧ slotBlocks after = [] := by
  rw [Provider.releaseSlot_eq hp hnull hslots hdata] at hleft
  have hfilled : slot.data.isSome = true := by rw [hdata]; rfl
  have hcount := hp.count
  rw [Provider.slots, hnull] at hcount
  dsimp only at hcount
  rw [hslots, List.filter_append, List.length_append, filter_cons_filled _ hfilled,
    List.length_cons, ← slotBlocks_length, ← slotBlocks_length] at hcount
  change p.stagedCount - 1 = 0 at hleft
  exact ⟨List.length_eq_zero_iff.mp (by omega), List.length_eq_zero_iff.mp (by omega)⟩

end

theorem Provider.Invariant.released (hp : p.Invariant) (moduleId : UInt32) :
    (p.released moduleId).Invariant := by
  unfold Provider.released
  cases hindex : p.stagedIndex moduleId with
  | none => exact hp
  | some i =>
    obtain ⟨array, before, slot, after, data, hnull, hslots, rfl, -, hdata⟩ :=
      Provider.stagedIndex_some hp hindex
    dsimp only
    split
    · exact Provider.Invariant.unstaged hp.source
    · rename_i hleft
      exact Provider.releaseSlot_invariant hp hnull hslots hdata hleft

theorem ps2DriversImgReleaseStaged_ensures (hp : p.Invariant) (moduleId : UInt32) :
    Ensures (Holds p h₀ (p.owned ++ bs)) (ps2DriversImgReleaseStaged moduleId) fun _ w =>
      Holds (p.released moduleId) h₀ ((p.released moduleId).owned ++ bs) w := by
  refine Ensures.bind globals_ensures fun q => Ensures.of_pure fun hq => ?_
  subst hq
  unfold Provider.released
  cases hindex : q.stagedIndex moduleId with
  | none =>
    refine Ensures.bind globals_ensures fun r => Ensures.of_pure fun hr => ?_
    subst hr
    cases hnull : r.stagedModules with
    | none => exact Ensures.ret fun w hw => hw
    | some array =>
      -- an array is there as long as a module is staged, so nothing is freed
      have hcount : r.stagedCount ≠ 0 := fun hzero => by
        rw [hp.null_iff_count.mpr hzero] at hnull
        cases hnull
      simp only [hcount, if_false]
      exact Ensures.ret fun w hw => hw
  | some i =>
    obtain ⟨array, before, slot, after, data, hnull, hslots, rfl, -, hdata⟩ :=
      Provider.stagedIndex_some hp hindex
    have heq := Provider.releaseSlot_eq hp hnull hslots hdata
    have hget : q.slots.getD before.length StagedModule.zero = slot := by
      simp [Provider.slots, hnull, hslots, List.getD_eq_getElem?_getD]
    have hblocks : slotBlocks array.slots = slotBlocks before ++ data.block :: slotBlocks after := by
      rw [hslots, slotBlocks_append, slotBlocks, slotBlocks, slotBlocks,
        List.filterMap_cons_some (by rw [hdata]; rfl)]
    have howned : (q.releaseSlot before.length).owned =
        q.sourceBlocks ++ (slotBlocks before ++ slotBlocks after ++ [array.block]) := by
      rw [heq]
      change q.sourceBlocks ++ (slotBlocks (before ++ slot.consumed :: after) ++ [_]) = _
      rw [slotBlocks_append]
      rfl
    -- the provider gives up one block
    have hperm : (q.owned ++ bs).Perm
        (data.block :: ((q.releaseSlot before.length).owned ++ bs)) := by
      rw [howned, Provider.owned, Provider.stagedBlocks, hnull, List.perm_iff_count]
      intro a
      dsimp only
      rw [hblocks]
      simp only [List.count_append, List.count_cons, List.count_nil]
      omega
    dsimp only
    rw [hget, hdata]
    refine Ensures.bind (ensures_of_perm hperm (free_ensures data.block)) fun _ => ?_
    refine Ensures.bind (assign_ensures (·.releaseSlot before.length)) fun _ => ?_
    refine Ensures.bind globals_ensures fun r => Ensures.of_pure fun hr => ?_
    subst hr
    have hmodules : (q.releaseSlot before.length).stagedModules =
        some ⟨array.block, before ++ slot.consumed :: after⟩ := by
      rw [heq]
      rfl
    rw [hmodules]
    refine Ensures.branch (fun hzero => ?_) fun hleft => ?_
    · -- it was the last module, so the array goes too
      obtain ⟨hbefore, hafter⟩ := Provider.releaseSlot_last hp hnull hslots hdata hzero
      have hlast : (q.setStaged none 0 0 0).owned = q.sourceBlocks := Provider.owned_of_idle rfl
      have hpermLast : ((q.releaseSlot before.length).owned ++ bs).Perm
          (array.block :: (q.sourceBlocks ++ bs)) := by
        rw [howned, hbefore, hafter, List.append_assoc]
        exact List.perm_middle
      have hfinal : (q.releaseSlot before.length).setStaged none 0 0 0 = q.setStaged none 0 0 0 := by
        rw [heq]
        rfl
      rw [if_pos hzero, hlast, ← hfinal]
      exact Ensures.bind (ensures_of_perm hpermLast (free_ensures array.block)) fun _ =>
        assign_ensures _
    · rw [if_neg hleft]
      exact Ensures.ret fun w hw => hw

/-- What `get_staged` finds. -/
def Provider.payload (p : Provider) (moduleId : UInt32) : Option (Buffer × UInt32) :=
  match p.stagedIndex moduleId with
  | none => none
  | some i =>
    let slot := p.slots.getD i StagedModule.zero
    slot.data.map fun data => (data, slot.size)

theorem ps2DriversImgGetStaged_ensures (moduleId : UInt32) (outputs : Bool) :
    Ensures (Holds p h₀ bs) (ps2DriversImgGetStaged moduleId outputs) fun r w =>
      r = (if outputs then p.payload moduleId else none) ∧ Holds p h₀ bs w := by
  cases outputs with
  | false => exact Ensures.ret fun w hw => ⟨rfl, hw⟩
  | true =>
    refine Ensures.bind globals_ensures fun q => Ensures.of_pure fun hq => ?_
    subst hq
    unfold Provider.payload
    cases q.stagedIndex moduleId <;> exact Ensures.ret fun w hw => ⟨rfl, hw⟩

/-- Nothing is found exactly when there is nothing to release. -/
theorem Provider.released_of_payload_none (hp : p.Invariant) {moduleId : UInt32}
    (h : p.payload moduleId = none) : p.released moduleId = p := by
  unfold Provider.payload at h
  unfold Provider.released
  cases hindex : p.stagedIndex moduleId with
  | none => rfl
  | some i =>
    obtain ⟨array, before, slot, after, data, hnull, hslots, rfl, -, hdata⟩ :=
      Provider.stagedIndex_some hp hindex
    rw [hindex] at h
    simp [Provider.slots, hnull, hslots, List.getD_eq_getElem?_getD, hdata] at h

/-- The result of `ps2_irx_exec`: a staged payload is handed over, anything else fails first. -/
def Provider.exec (p : Provider) (answer : Int × Int) (moduleId : UInt32) (argLen : Nat)
    (args : Option Bytes) : IrxExec :=
  match p.payload moduleId with
  | none => .failed
  | some (data, size) =>
    ⟨answer.1, some answer.2, some ⟨data.bytes.take size.toNat, argLen, args⟩⟩

/-- `ps2_irx_exec` hands over the staged payload and releases it. -/
theorem ps2IrxExecImage_ensures (hp : p.Invariant) (answer : Int × Int) (moduleId : UInt32)
    (argLen : Nat) (args : Option Bytes) :
    Ensures (Holds p h₀ (p.owned ++ bs)) (ps2IrxExecImage answer (some moduleId) argLen args)
      fun r w => r = p.exec answer moduleId argLen args ∧
        Holds (p.released moduleId) h₀ ((p.released moduleId).owned ++ bs) w := by
  refine Ensures.bind (ps2DriversImgGetStaged_ensures moduleId true) fun found => ?_
  refine Ensures.of_pure fun hfound => ?_
  have hfound : found = p.payload moduleId := hfound
  subst hfound
  unfold Provider.exec
  cases hpayload : p.payload moduleId with
  | none =>
    rw [Provider.released_of_payload_none hp hpayload]
    exact Ensures.ret fun w hw => ⟨rfl, hw⟩
  | some found =>
    refine Ensures.bind (ps2DriversImgReleaseStaged_ensures hp moduleId) fun _ => ?_
    exact Ensures.ret fun w hw => ⟨rfl, hw⟩

end

end Ps2Drivers
