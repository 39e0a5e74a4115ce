import Ps2Drivers.Drivers.Stacking
import Ps2Drivers.Drivers.Recover
import Ps2Drivers.Provider.Staged

/-!
# Staging again and again

An application of the image flavor stages what a driver needs, initialises the driver, takes it
down, and has the last request staged again for the next time.  Every initialisation uses up what
was staged for it, so the cycle can be repeated; `irximg_sample.c` goes through it once.
-/

open Binary CString

namespace Ps2Drivers

/-! ## 1. Applications -/

abbrev AppM := StateT Machine Option

def drive {α : Type} (console : Console) (p : DriverM α) : AppM α := p.run console.step

def provide {α : Type} (m : ProviderM α) : AppM α := fun s =>
  some ((m s.world).1, { s with world := (m s.world).2 })

theorem AppM.bind_run {α β : Type} {p : AppM α} {k : α → AppM β} {s s' : Machine} {a : α}
    (h : p s = some (a, s')) : (p >>= k) s = k a s' := by
  show (p s).bind _ = _
  rw [h]
  rfl

/-! ## 2. What is requested for one driver -/

theorem requires_req {d d' : Driver} : requires d.req d' = true ↔ d' = d := by
  cases d <;> cases d' <;> decide

/-- The ids requested for a driver are those of the modules it may load. -/
theorem mem_requestedIds_req (d : Driver) (id : UInt32) :
    id ∈ requestedIds irxId d.req ↔ ∃ m ∈ d.responsible true, irxId m = id := by
  rw [mem_requestedIds_irxId]
  refine exists_congr fun m => and_congr_left fun _ => ?_
  rw [Driver.mem_responsible]
  constructor
  · rintro ⟨d', hd', hm⟩
    rwa [← requires_req.mp hd']
  · exact fun hm => ⟨d, requires_req.mpr rfl, hm⟩

/-! ## 3. An initialisation uses up what is staged -/

/-- Whatever is staged belongs to a module of `ms` that is still to be executed. -/
structure Pending (ms : List Irx) (s : Machine) : Prop where
  valid : s.world.Valid
  staged : ∀ id, s.world.provider.payload id ≠ none → ∃ m ∈ ms, irxId m = id ∧ s.irx m = .reset

section

variable {console : Console} {op : DriverOp} {ms ms' : List Irx} {s s' : Machine}

theorem ModuleEffect.pending (h : ModuleEffect console s op s') (hgood : console.LoadsStaged)
    (hop : op.bringsUp ms') (hs : Pending ms s) : Pending ms s' := by
  refine ⟨h.valid hs.valid, fun id hne => ?_⟩
  cases h with
  | quiet _ _ _ hirx hworld =>
    rw [hworld] at hne
    rw [hirx]
    exact hs.staged id hne
  | executed m args =>
    have hworld : (Machine.consume console m s.world).provider =
        s.world.provider.released (irxId m) := by
      rw [Machine.consume, hgood.flavor]
      exact (hs.valid.release (irxId m)).2
    rw [Machine.executed_world, hworld, Provider.payload_released hs.valid.invariant] at hne
    by_cases hid : id = irxId m
    · exact absurd (if_pos hid) hne
    · rw [if_neg hid] at hne
      obtain ⟨m', hm', rfl, hreset⟩ := hs.staged id hne
      have hother : m' ≠ m := fun heq => hid (by rw [heq])
      exact ⟨m', hm', rfl, by rw [Machine.executed_irx, Function.update_of_ne hother, hreset]⟩
  | unloaded => exact hop.elim

/-- The drivers do not touch the remembered source. -/
theorem ModuleEffect.remembered (h : ModuleEffect console s op s') (hs : s.world.Valid) :
    s'.world.provider.remembered = s.world.provider.remembered := by
  cases h with
  | quiet _ _ _ _ hworld => rw [hworld]
  | executed m args =>
    rw [Machine.executed_world, Machine.consume]
    cases console.flavor with
    | embedded data => rfl
    | image =>
      rw [(hs.release (irxId m)).2]
      exact Provider.released_remembered _ _
  | unloaded => rfl

theorem run_remembered {α : Type} {p : DriverM α} {r : α × Machine} (hs : s.world.Valid)
    (hr : p.run console.step s = some r) :
    r.2.world.provider.remembered = s.world.provider.remembered := by
  have hkeeps : Program.Triple console.step
      (fun t => t.world.Valid ∧ t.world.provider.remembered = s.world.provider.remembered) p
      fun _ t => t.world.Valid ∧ t.world.provider.remembered = s.world.provider.remembered :=
    Program.Triple.keeps (Program.within_true p) fun _ _ _ _ ht hstep =>
      ⟨(step_effect hstep).valid ht.1, ((step_effect hstep).remembered ht.1).trans ht.2⟩
  exact (hkeeps.holds s ⟨hs, rfl⟩ r hr).2

end

/-- The image at `path` was staged for the driver and can be staged again; none of the driver's
modules is loaded. -/
structure Cycling (d : Driver) (path : Bytes) (s : Machine) : Prop where
  accounted : s.Accounted
  valid : s.world.Valid
  source : s.world.provider.remembered = (some path, d.req)
  down : ∀ m ∈ d.responsible true, s.irx m = .reset

def StagedFully (d : Driver) (s : Machine) : Prop :=
  ∀ id, s.world.provider.payload id ≠ none ↔ ∃ m ∈ d.responsible true, irxId m = id

structure UsedUp (d : Driver) (path : Bytes) (s : Machine) : Prop where
  accounted : s.Accounted
  valid : s.world.Valid
  source : s.world.provider.remembered = (some path, d.req)
  started : s.Started (d.responsible true)
  idle : s.world.provider.idle
  modules : s.world.provider.stagedCount = 0
  bytes : s.world.provider.stagedBytes = 0

section

variable {console : Console} {d : Driver} {path : Bytes} {s : Machine}

theorem Console.Loads.loadsStaged (hloads : console.Loads) (hflavor : console.flavor = .image) :
    console.LoadsStaged := by
  refine ⟨hflavor, fun m k => ⟨(hloads m k).1, fun hone => ?_⟩⟩
  have hret := (hloads m k).2
  omega

theorem initDriver_usesUp (hloads : console.Loads) (hflavor : console.flavor = .image)
    (hserves : console.Serves d) (hs : Cycling d path s) (hstaged : StagedFully d s) :
    ∃ s', drive console (initDriver d true false) s = some (d.okStatus, s') ∧
      UsedUp d path s' := by
  have hgood := hloads.loadsStaged hflavor
  have hstocked : s.Stocked console (d.responsible true) := by
    refine ⟨hs.valid, fun m hm _ => ?_⟩
    have hne := (hstaged (irxId m)).mpr ⟨m, hm, rfl⟩
    obtain ⟨found, hfound⟩ := Option.ne_none_iff_exists'.mp hne
    refine ⟨found.1.bytes.take found.2.toNat, ?_⟩
    rw [hgood.irxPayload, stagedPayload, hfound]
    rfl
  obtain ⟨s', hrun, hcompletes⟩ :=
    initDriver_completes hgood hserves hstocked fun m hm => Or.inl (hs.down m hm)
  have hpending : Pending (d.responsible true) s' := by
    have hkeeps : Program.Triple console.step (Pending (d.responsible true))
        (initDriver d true false) fun _ => Pending (d.responsible true) :=
      Program.Triple.keeps (initDriver_reports d true false).within fun _ hop _ _ ht hstep =>
        (step_effect hstep).pending hgood hop ht
    refine hkeeps.holds s ⟨hs.valid, fun id hne => ?_⟩ _ hrun
    obtain ⟨m, hm, hid⟩ := (hstaged id).mp hne
    exact ⟨m, hm, hid, hs.down m hm⟩
  -- every module of the driver is started, so none is pending
  have hnone : ∀ id, s'.world.provider.payload id = none := by
    intro id
    by_contra hne
    obtain ⟨m, hm, -, hreset⟩ := hpending.staged id hne
    exact IrxVars.ne_reset (hcompletes.started m hm) hreset
  have hcounts := Provider.nothing_staged hpending.valid.invariant hnone
  exact ⟨s', hrun, {
    accounted := run_accounted hloads hs.accounted hrun
    valid := hpending.valid
    source := (run_remembered hs.valid hrun).trans hs.source
    started := hcompletes.started
    idle := (Provider.idle_iff_payload hpending.valid.invariant).mpr hnone
    modules := hcounts.1
    bytes := hcounts.2 }⟩

/-- Taking the driver down makes its modules ready to be loaded again. -/
theorem deinitDriver_readies (hloads : console.Loads) (hdoc : console.Documented)
    (hs : UsedUp d path s) :
    ∃ s', drive console (deinitDriver d true) s = some ((), s') ∧ Cycling d path s' ∧
      s'.world = s.world := by
  have hreturns := (deinitDriver_deinit true d).within.mono DriverOp.tearsDown.returns
  obtain ⟨⟨u, s'⟩, hrun⟩ := Program.run_returns hreturns
    (fun op hop s => DriverOp.returns.step hdoc.dev9Off hdoc.patient op hop s) s
  have hdown := run_takenDown hloads (deinitDriver_emits d true) (deinitDriver_loadsIn d true)
    hs.accounted hrun
  refine ⟨s', hrun, ⟨hdown.accounted, ?_, ?_, fun m hm => ?_⟩, hdown.world⟩
  · rw [hdown.world]
    exact hs.valid
  · rw [hdown.world]
    exact hs.source
  · have hsub : d.responsible true ⊆ d.unloadOrder true := by
      cases d <;> decide
    exact hdown.accounted.loaded_eq_false.mp (hdown.loaded_of_mem (hsub hm))

/-! ## 4. Staging -/

/-- The image has every module the driver needs, with its stored checksum. -/
structure Suits (d : Driver) (image : Bytes) : Prop where
  format : ImageFormat image
  intact : ∀ id, Requested d.req id → ModuleIntact image id

theorem Driver.goodMask (d : Driver) : badRequirements d.req = false := by
  cases d <;> decide

/-- What a staging of the image establishes, from the initial state. -/
theorem Suits.success {env : Env} (henv : env.allOk) {image : Bytes}
    (hfile : env.file path = some image) (hsuits : Suits d image) :
    ∃ slots, StageSuccess irxId env.file Provider.initial (some path) d.req image slots := by
  have hids : requestedIds irxId d.req ≠ [] := by
    intro hnil
    obtain ⟨m, hm⟩ := List.exists_mem_of_ne_nil _ d.modules_ne_nil
    have hmem := (mem_requestedIds_req d (irxId m)).mpr
      ⟨m, (d.mem_responsible m).mpr hm, rfl⟩
    rw [hnil] at hmem
    cases hmem
  obtain ⟨-, hslots⟩ := stage_intact [] henv hfile ⟨rfl, rfl⟩ d.goodMask hsuits.format hsuits.intact
  exact ⟨_, ⟨path, rfl, hfile⟩, d.goodMask, ⟨rfl, rfl⟩, hids, hsuits.format, hslots⟩

/-- Whichever call stages for the driver takes its modules from an image that has them, and the
driver can be initialised. -/
theorem StageCall.run_cycling (env : Env) (call : StageCall) (hs : s.Accounted)
    (hw : s.world.Valid) (hdown : ∀ m ∈ d.responsible true, s.irx m = .reset)
    (hevent : (call.event env).after s.world.provider.remembered = (some path, d.req))
    (hok : (call.run irxId env s.world).1 = .ok) :
    let w := (call.run irxId env s.world).2
    Cycling d path { s with world := w } ∧ StagedFully d { s with world := w } ∧
      ∃ image, env.file path = some image ∧ Suits d image ∧
        List.Forall₂ (SlotHolds image) (requestedIds irxId d.req) w.provider.slots := by
  intro w
  have hvalid : w.Valid := call.run_valid irxId env hw
  have hsource : w.provider.remembered = (some path, d.req) := by
    have h := call.run_remembers irxId env hw
    rw [if_pos hok, hevent] at h
    exact h
  have houtcome : ImgStageOutcome irxId env (some path) d.req s.world.provider Heap.empty [] .ok w := by
    have h := call.run_outcome hw hok
    rw [hevent] at h
    exact h
  clear_value w
  cases houtcome with
  | refused hne => exact absurd rfl hne
  | @staged image array source _ facts _ holds =>
    obtain ⟨path', hpath, himage⟩ := facts.opened
    obtain rfl := Option.some.inj hpath
    have hslots : List.Forall₂ (SlotHolds image) (requestedIds irxId d.req) w.provider.slots := by
      rw [holds.1]
      exact facts.slots
    -- staging leaves the modules of the console alone
    refine ⟨⟨⟨hs.tracked, hs.reset_or⟩, hvalid, hsource, hdown⟩, fun id => ?_, image, himage,
      ⟨facts.format, ?_⟩, hslots⟩
    · rw [← mem_requestedIds_req]
      exact Provider.payload_of_slots hvalid.invariant hslots id
    · exact (stageVerdict_eq_ok_iff _ _).mp
        ((stageVerdict_eq_ok _ _).mpr (slots_intact facts.slots))

section

variable {env : Env} (henv : env.allOk) {image : Bytes} (hfile : env.file path = some image)
  (hsuits : Suits d image)

include henv hfile hsuits

theorem ps2DriversImgStage_ok (hw : s.world.Valid) (hidle : s.world.provider.idle) :
    (ps2DriversImgStage irxId env (some path) d.req s.world).1 = .ok := by
  have h : ImgStageOutcome irxId env (some path) d.req s.world.provider Heap.empty []
      (ps2DriversImgStage irxId env (some path) d.req s.world).1
      (ps2DriversImgStage irxId env (some path) d.req s.world).2 :=
    ps2DriversImgStage_outcome irxId env (some path) d.req _ hw.holds
  generalize ps2DriversImgStage irxId env (some path) d.req s.world = r at h
  obtain ⟨e, w'⟩ := r
  cases h with
  | refused hne why =>
    -- no reason is left to refuse
    exfalso
    rcases (why henv).reason hidle hfile with h | h | h
    · rw [d.goodMask] at h
      cases h
    · exact h hsuits.format
    · exact hne (h.trans ((stageVerdict_eq_ok_iff image d.req).mpr hsuits.intact))
  | staged => rfl

/-- With nothing staged, the last request is staged again. -/
theorem ps2DriversImgRestageLast_ok (hs : Cycling d path s) (hidle : s.world.provider.idle) :
    (ps2DriversImgRestageLast irxId env s.world).1 = .ok := by
  obtain ⟨slots, hsuccess⟩ := hsuits.success henv hfile
  rw [ps2DriversImgRestageLast_eq hs.valid hs.source]
  exact (stageFromPath_again hs.valid hidle henv hsuccess rfl).1

end

end

/-! ## 5. Cycles -/

/-- What an application sees of one cycle: the result of the staging, the status of the driver, and
how many modules and bytes are still staged then. -/
structure CycleReport where
  result : ImgError
  status : Int
  modules : Nat
  bytes : Nat
  deriving DecidableEq, Repr

def CycleReport.good (d : Driver) : CycleReport := ⟨.ok, d.okStatus, 0, 0⟩

/-- No call fails, and the file is an image with what the driver needs. -/
def Env.offers (env : Env) (d : Driver) (path : Bytes) : Prop :=
  env.allOk ∧ ∃ image, env.file path = some image ∧ Suits d image

section

variable {console : Console} (hloads : console.Loads) (hflavor : console.flavor = .image)
  {d : Driver} (hserves : console.Serves d) (hdoc : console.Documented) {path : Bytes} {s : Machine}

theorem Console.Reachable.accounted (hloads : console.Loads) (h : console.Reachable s) :
    s.Accounted := by
  induction h with
  | initial cwd => exact Machine.initial_accounted cwd World.initial
  | drivers _ hr ih => exact run_accounted hloads ih hr
  | provider _ env op ih => exact ⟨ih.tracked, ih.reset_or⟩

include hloads hflavor hserves hdoc

end

/-! ## 6. The joystick driver, three times -/

theorem Console.image_documented : (Console.ready.withFlavor .image).Documented :=
  ⟨Console.ready_documented.result, Console.ready_documented.dev9Off,
    Console.ready_documented.patient⟩

end Ps2Drivers
