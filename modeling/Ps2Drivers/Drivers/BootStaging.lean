import Ps2Drivers.Drivers.BootUndo
import Ps2Drivers.Drivers.Simulation
import Ps2Drivers.Provider.Source

/-!
# Staging for a boot path

Three switches over the boot device have to agree: the requirements `ps2_drivers_img.c` derives
from a path, the modules it stages for a requirement, and the drivers the filesystem driver
initialises.  What initialisation executes is among what was staged.
-/

open Binary CString

namespace Ps2Drivers

/-! ## 1. Requirement masks -/

theorem requires_or (a b : UInt32) (d : Driver) :
    requires (a ||| b) d = (requires a d || requires b d) := by
  have hor : (a ||| b) &&& d.req = (a &&& d.req) ||| (b &&& d.req) := by
    rw [UInt32.and_comm, uint32_and_or, UInt32.and_comm d.req a, UInt32.and_comm d.req b]
  unfold requires
  rw [hor, Bool.eq_iff_iff]
  simp only [bne_iff_ne, Bool.or_eq_true, ne_eq]
  rw [UInt32.or_eq_zero_iff]
  tauto

theorem requiredModules_or (a b : UInt32) (m : Irx) :
    m ∈ requiredModules (a ||| b) ↔ m ∈ requiredModules a ∨ m ∈ requiredModules b := by
  simp only [requiredModules, Set.mem_ofPred_eq, requires_or, Bool.or_eq_true, or_and_right,
    exists_or]

theorem mem_requiredModules (requirements : UInt32) (m : Irx) :
    m ∈ requiredModules requirements ↔
      Driver.all.any (fun d => requires requirements d && d.modules.contains m) = true := by
  rw [List.any_eq_true]
  constructor
  · rintro ⟨d, hd, hm⟩
    exact ⟨d, Driver.mem_all d, by simp [hd, hm]⟩
  · rintro ⟨d, -, h⟩
    rw [Bool.and_eq_true, List.contains_iff_mem] at h
    exact ⟨d, h.1, h.2⟩

instance (requirements : UInt32) (m : Irx) : Decidable (m ∈ requiredModules requirements) :=
  decidable_of_iff _ (mem_requiredModules requirements m).symm

def BootGroup.modules : BootGroup → List Irx
  | .memcard => [.iomanX, .fileXio, .sio2man, .mcman, .mcserv]
  | .cdfs => [.iomanX, .fileXio, .cdfs]
  | .mass => [.iomanX, .fileXio, .bdm, .bdmfsFatfs, .usbd, .usbmassBd, .sio2man, .mx4sioBd]
  | .hdd => [.iomanX, .fileXio, .poweroff, .ps2dev9, .ps2atad, .ps2hdd, .ps2fs]
  | .none => [.iomanX, .fileXio]

theorem BootGroup.fileXio_subset (group : BootGroup) :
    [Irx.iomanX, .fileXio] ⊆ group.modules := by
  cases group <;> decide

/-- The switch over requirements covers the switch over drivers. -/
theorem BootGroup.modules_required (bootDevice : BootDevice) :
    ∀ m ∈ bootDevice.group.modules,
      m ∈ requiredModules (ps2DriversImgRequirementsForBootDevice bootDevice) := by
  cases bootDevice <;> decide

theorem filesystemModules_required :
    ∀ m ∈ filesystemModules, m ∈ requiredModules reqFilesystemAll := by
  decide

/-! ## 2. What initialisation executes -/

/-- The operation unloads nothing, and what it executes is one of `ms`. -/
def DriverOp.loadsOf (ms : Set Irx) : DriverOp → Prop
  | .loadIrx m _ => m ∈ ms
  | .unloadIrx _ => False
  | _ => True

section

variable {ms : Set Irx} {ms' : List Irx}

theorem DriverOp.bringsUp.loadsOf (hsub : ∀ m ∈ ms', m ∈ ms) (op : DriverOp)
    (h : op.bringsUp ms') : op.loadsOf ms := by
  cases op with
  | loadIrx m args => exact hsub m h
  | unloadIrx m => exact h
  | _ => trivial

theorem DriverOp.loadsOf.leaves (ms' : List Irx) (op : DriverOp) (h : op.loadsOf ms) :
    op.leaves ms' := by
  cases op with
  | unloadIrx m => exact h.elim
  | _ => trivial

theorem DriverOp.handlesFiles.loadsOf (op : DriverOp) (h : op.handlesFiles) : op.loadsOf ms := by
  cases op <;> first | exact h.elim | trivial

theorem initDriver_loadsOf (d : Driver) (initDependencies onlyIfBootedFromHdd : Bool)
    (hsub : ∀ m ∈ d.responsible initDependencies, m ∈ ms) :
    (initDriver d initDependencies onlyIfBootedFromHdd).Within (DriverOp.loadsOf ms) :=
  (initDriver_reports d initDependencies onlyIfBootedFromHdd).within.mono
    (DriverOp.bringsUp.loadsOf hsub)

theorem initBootGroup_loadsOf (cwd : Bytes) (group : BootGroup)
    (hsub : ∀ m ∈ group.modules, m ∈ ms) :
    (initBootGroup cwd group).Within (DriverOp.loadsOf ms) := by
  have hinit (d : Driver) (deps only : Bool) (hd : d.responsible deps ⊆ group.modules) :
      (initDriver d deps only).Within (DriverOp.loadsOf ms) :=
    initDriver_loadsOf d deps only fun m hm => hsub m (hd hm)
  cases group with
  | memcard =>
    refine Program.Within.bind (hinit .memcard true false ?_) fun _ => Program.within_pure _
    decide
  | cdfs =>
    refine Program.Within.bind (hinit .cdfs false false ?_) fun _ => Program.within_pure _
    decide
  | mass =>
    refine Program.Within.bind (hinit .usb true false (by decide)) fun _ => ?_
    refine Program.Within.bind (hinit .mx4sio true false (by decide)) fun _ => ?_
    exact Program.within_pure _
  | hdd =>
    -- no dependency of the HDD driver is initialised here, bdm in particular
    refine Program.Within.bind (hinit .poweroff false false (by decide)) fun _ => ?_
    refine Program.Within.bind (hinit .dev9 false false (by decide)) fun _ => ?_
    refine Program.Within.bind (hinit .hdd false false (by decide)) fun _ => ?_
    refine Program.Within.bind (lib_within.mpr trivial) fun _ => ?_
    refine Program.Within.bind
      (mountCurrentHddPartition_within.mono DriverOp.handlesFiles.loadsOf) fun _ => ?_
    exact getcwd_within.mpr trivial
  | none => exact Program.within_pure _

theorem initFileXioDriver_loadsOf (hsub : ∀ m ∈ [Irx.iomanX, .fileXio], m ∈ ms) :
    initFileXioDriver.Within (DriverOp.loadsOf ms) :=
  initDriver_loadsOf .fileXio false false hsub

theorem initPs2FilesystemDriver_loadsOf (hsub : ∀ m ∈ filesystemModules, m ∈ ms) :
    initPs2FilesystemDriver.Within (DriverOp.loadsOf ms) := by
  refine Program.Within.bind
    (initFilesystemDrivers_within.mono (DriverOp.bringsUp.loadsOf hsub)) fun _ => ?_
  refine Program.Within.bind (lib_within.mpr trivial) fun _ => ?_
  exact mountAndWait_within.mono DriverOp.handlesFiles.loadsOf

theorem runCalls_loadsOf {requirements : UInt32} {calls : List PublicCall}
    (hcalls : ∀ call ∈ calls, call.initialises requirements)
    (hsub : ∀ m ∈ requiredModules requirements, m ∈ ms) :
    (runCalls calls).Within (DriverOp.loadsOf ms) :=
  (runCalls_within hcalls).mono fun op ⟨_, hms, hop⟩ =>
    DriverOp.bringsUp.loadsOf (fun m hm => hsub m (hms m hm)) op hop

end

/-- The boot initialisation, as the part that follows the reading of the working directory. -/
theorem initOnlyBootPs2FilesystemDriver_safe {console : Console} {cwd : Bytes}
    {P : Machine → Prop} {G : DriverOp → Machine → Prop}
    (hget : Program.Safe console.step P getcwd G)
    (hrest : Program.Safe console.step P (do
      let _ ← initFileXioDriver
      let cwd ← initBootGroup cwd (getBootDeviceID (some cwd)).group
      let _ ← waitUntilDeviceIsReady cwd
      pure ()) G) :
    Program.Safe console.step (fun s => s.cwd = cwd ∧ P s) initOnlyBootPs2FilesystemDriver G := by
  have hcwd : Program.Triple console.step (fun s => s.cwd = cwd ∧ P s) getcwd fun cwd' s =>
      cwd' = cwd ∧ P s :=
    Program.Triple.of_run (getcwd_run console) fun s hs => hs
  refine Program.Safe.bind (hget.imp (fun _ hs => hs.2) fun _ _ hG => hG) hcwd fun cwd' => ?_
  apply Program.Safe.of_pure
  intro heq
  rw [heq]
  exact hrest

/-! ## 3. What stays staged -/

/-- The block of a module calls `ps2_irx_exec`, which finds nothing staged. -/
def lacksModule (console : Console) (op : DriverOp) (s : Machine) : Prop :=
  match op with
  | .loadIrx m args =>
    (s.irx m).checkLoad = true ∧ (s.ps2IrxExec console m args).1.call = none
  | _ => False

/-- Executed modules stay: the image flavor with every `SifExecModuleBuffer` successful. -/
structure Console.LoadsStaged (console : Console) : Prop where
  flavor : console.flavor = .image
  exec : ∀ m k, 0 ≤ (console.exec m k).1 ∧ (console.exec m k).2 ≠ 1

/-- What is required and still to be executed is staged. -/
def Supplied (requirements : UInt32) (data : Irx → Bytes) (s : Machine) : Prop :=
  StagedFor requirements data s.irx s.world

section

variable {console : Console} {requirements : UInt32} {data : Irx → Bytes} {op : DriverOp}
  {s s' : Machine}

theorem Console.LoadsStaged.answer (h : console.LoadsStaged) (m : Irx) (s : Machine) :
    0 ≤ (s.answer console m).1 ∧ (s.answer console m).2 ≠ 1 := h.exec m _

theorem Console.LoadsStaged.starts (h : console.LoadsStaged) (m : Irx) (s : Machine) :
    (IrxVars.mk (s.answer console m).1 (s.answer console m).2).checkErr = false := by
  have hanswer := h.answer m s
  unfold IrxVars.checkErr
  simp only [Bool.or_eq_false_iff, decide_eq_false_iff_not, beq_eq_false_iff_ne]
  omega

theorem Console.LoadsStaged.irxPayload (h : console.LoadsStaged) (m : Irx) (s : Machine) :
    s.irxPayload console m = stagedPayload s.world (irxId m) := by
  rw [Machine.irxPayload, h.flavor]
  rfl

theorem ModuleEffect.supplied (h : ModuleEffect console s op s') (hgood : console.LoadsStaged)
    (hop : op.loadsOf (requiredModules requirements)) (hs : Supplied requirements data s) :
    Supplied requirements data s' := by
  cases h with
  | quiet _ _ _ hirx hworld =>
    unfold Supplied
    rw [hirx, hworld]
    exact hs
  | @executed m args payload =>
    have hworld : (s.executed console m args payload).world =
        (ps2DriversImgReleaseStaged (irxId m) s.world).2 := by
      rw [Machine.executed_world, Machine.consume, hgood.flavor]
    unfold Supplied
    rw [hworld, Machine.executed_irx]
    apply StagedFor.execute hs m
    intro hreset
    -- a module that loads leaves an id
    have hpos := (hgood.answer m s).1
    rw [show (s.answer console m).1 = -1 from congrArg IrxVars.id hreset] at hpos
    exact absurd hpos (by decide)
  | unloaded => exact hop.elim

/-- A required module is staged whenever its block executes it. -/
theorem Supplied.not_lacksModule (hs : Supplied requirements data s)
    (hgood : console.LoadsStaged) (hop : op.loadsOf (requiredModules requirements)) :
    ¬ lacksModule console op s := by
  cases op with
  | loadIrx m args =>
    rintro ⟨hload, hcall⟩
    have hstaged := hs.waiting m hop (IrxVars.checkLoad_iff.mp hload)
    rw [Machine.ps2IrxExec_eq, hgood.irxPayload, hstaged] at hcall
    cases hcall
  | _ => exact fun h => h

theorem Program.Triple.keepsSupplied (hgood : console.LoadsStaged) {α : Type} {p : DriverM α}
    (hp : p.Within (DriverOp.loadsOf (requiredModules requirements))) :
    Program.Triple console.step (Supplied requirements data) p fun _ =>
      Supplied requirements data :=
  Program.Triple.keeps hp fun _ hop _ _ hs hstep => (step_effect hstep).supplied hgood hop hs

theorem supplied_safe (hgood : console.LoadsStaged) {α : Type} {p : DriverM α}
    (hp : p.Within (DriverOp.loadsOf (requiredModules requirements))) :
    Program.Safe console.step (Supplied requirements data) p fun op s =>
      ¬ lacksModule console op s :=
  (Program.Safe.of_keeps hp fun _ hop _ _ hs hstep =>
    (step_effect hstep).supplied hgood hop hs).imp (fun _ hs => hs) fun _ _ h =>
      h.2.not_lacksModule hgood h.1

/-- Every staging that succeeds leaves the modules of the mask it computed staged. -/
theorem StageCall.run_stagedFor {call : StageCall} {env : Env} {imagePath : Option Bytes}
    {w : World} {irx : Irx → IrxVars} (hevent : call.event env = .staged imagePath requirements)
    (hw : w.Valid) (hok : (call.run irxId env w).1 = .ok) (hirx : ∀ m, irx m = .reset) :
    ∃ data, StagedFor requirements data irx (call.run irxId env w).2 := by
  have hrun := StageCall.run_explicit hevent hok
  rw [hrun] at hok ⊢
  obtain ⟨-, path, image, hpath, himage, -, -⟩ := ps2DriversImgStage_payload hw hok
  subst hpath
  refine ⟨fun m => ((imageEntry image (irxId m)).map (entryPayload image)).getD [],
    stage_stagedFor hw himage hok (fun m _ e he => ?_) hirx⟩
  rw [he]
  rfl

end

/-! ## 4. The two profiles -/

/-- After staging for a boot path, or for all file systems, no initialisation executes a module that
is not staged. -/
theorem boot_never_lacks_module {console : Console} (hgood : console.LoadsStaged)
    (steps : List (Env × ProviderOp)) (env : Env) (imagePath : Option Bytes) (cwd : Bytes)
    (additional : UInt32) {calls : List PublicCall}
    (hcalls : ∀ call ∈ calls, call.initialises additional) {s : Machine} (hcwd : s.cwd = cwd)
    (hreset : ∀ m, s.irx m = .reset) :
    let w := runProvider irxId steps World.initial
    let boot := ps2DriversImgStageForPath irxId env imagePath (some cwd) additional w
    let all := ps2DriversImgStageForAllFilesystems irxId env imagePath additional w
    (boot.1 = .ok → ∀ op t, Program.Reaches console.step op t
        (do
          initOnlyBootPs2FilesystemDriver
          runCalls calls)
        { s with world := boot.2 } → ¬ lacksModule console op t) ∧
      (all.1 = .ok → ∀ op t, Program.Reaches console.step op t
        (do
          initPs2FilesystemDriver
          runCalls calls)
        { s with world := all.2 } → ¬ lacksModule console op t) := by
  intro w boot all
  have hw : w.Valid := runProvider_valid irxId steps World.initial_valid
  have hwait (path : Bytes) {ms : Set Irx} :
      (waitUntilDeviceIsReady path).Within (DriverOp.loadsOf ms) :=
    waitUntilDeviceIsReady_within (fun _ => trivial) path
  constructor
  · intro hok op t ht
    have hevent : (StageCall.stageForPath imagePath (some cwd) additional).event env = _ := rfl
    obtain ⟨data, hdata⟩ := StageCall.run_stagedFor hevent hw hok hreset
    have hboot (m : Irx) (hm : m ∈ (getBootDeviceID (some cwd)).group.modules) :=
      (requiredModules_or _ additional m).mpr (Or.inl (BootGroup.modules_required _ m hm))
    have hmore (m : Irx) (hm : m ∈ requiredModules additional) :=
      (requiredModules_or (ps2DriversImgRequirementsForBootDevice (getBootDeviceID (some cwd)))
        _ m).mpr (Or.inr hm)
    have hfileXio (m : Irx) (hm : m ∈ [Irx.iomanX, .fileXio]) :=
      hboot m (BootGroup.fileXio_subset _ hm)
    have hgroup := initBootGroup_loadsOf cwd _ hboot
    have hrest := Program.Within.bind (initFileXioDriver_loadsOf hfileXio) fun _ =>
      Program.Within.bind hgroup fun path =>
        Program.Within.bind (hwait path) fun _ => Program.within_pure ()
    -- the boot group is read from the working directory, so its value is kept up to there
    have hinit : Program.Safe console.step (fun s => s.cwd = cwd ∧ Supplied _ data s)
        initOnlyBootPs2FilesystemDriver fun op s => ¬ lacksModule console op s :=
      initOnlyBootPs2FilesystemDriver_safe (supplied_safe hgood (getcwd_within.mpr trivial))
        (supplied_safe hgood hrest)
    have hpost : Program.Triple console.step (fun s => s.cwd = cwd ∧ Supplied _ data s)
        initOnlyBootPs2FilesystemDriver fun _ => Supplied _ data :=
      initOnlyBootPs2FilesystemDriver_triple
        (Program.Triple.keepsSupplied hgood (initFileXioDriver_loadsOf hfileXio))
        (Program.Triple.keepsSupplied hgood hgroup)
        fun path => Program.Triple.keepsSupplied hgood (hwait path)
    exact (Program.Safe.bind hinit hpost fun _ => supplied_safe hgood
      (runCalls_loadsOf hcalls hmore)).holds { s with world := boot.2 } ⟨hcwd, hdata⟩ op t ht
  · intro hok op t ht
    have hevent : (StageCall.stageForAllFilesystems imagePath additional).event env = _ := rfl
    obtain ⟨data, hdata⟩ := StageCall.run_stagedFor hevent hw hok hreset
    have hall (m : Irx) (hm : m ∈ filesystemModules) :=
      (requiredModules_or _ additional m).mpr (Or.inl (filesystemModules_required m hm))
    have hmore (m : Irx) (hm : m ∈ requiredModules additional) :=
      (requiredModules_or reqFilesystemAll _ m).mpr (Or.inr hm)
    have hwithin := Program.Within.bind (initPs2FilesystemDriver_loadsOf hall) fun _ =>
      runCalls_loadsOf hcalls hmore
    exact (supplied_safe hgood hwithin).holds { s with world := all.2 } hdata op t ht

def everyModuleImage : Bytes :=
  irximgMagic ++ [1, 44, 27, 20, 44, 592, 1024, 0, 0].flatMap writeU32Le ++
    (List.range 27).flatMap (fun k => encodeEntry
      ⟨UInt32.ofNat (k + 1), UInt32.ofNat (592 + 16 * k), 1, crc32Bytes [1], 0⟩) ++
    List.replicate 8 0 ++ (List.range 27).flatMap fun _ => 1 :: List.replicate 15 0

def everyModuleEnv : Env :=
  ⟨fun _ => some everyModuleImage, fun _ => true, some (lit "mc0:/APP")⟩

theorem Console.ready_loadsStaged : (Console.ready.withFlavor .image).LoadsStaged :=
  ⟨rfl, fun _ _ => ⟨show (0 : Int) ≤ 7 by decide, show (0 : Int) ≠ 1 by decide⟩⟩

theorem boot_never_lacks_module_memcard :
    let console := Console.ready.withFlavor .image
    let s := Machine.initial (lit "mc0:/APP") World.initial
    let boot := ps2DriversImgStageForPath irxId everyModuleEnv (some (lit "a.irximg"))
      (some (lit "mc0:/APP")) Driver.usb.req World.initial
    let all := ps2DriversImgStageForAllFilesystems irxId everyModuleEnv (some (lit "a.irximg"))
      Driver.usb.req World.initial
    (boot.1 = .ok ∧ ∀ op t, Program.Reaches console.step op t
        (do
          initOnlyBootPs2FilesystemDriver
          runCalls [.init .usb true false])
        { s with world := boot.2 } → ¬ lacksModule console op t) ∧
      (all.1 = .ok ∧ ∀ op t, Program.Reaches console.step op t
        (do
          initPs2FilesystemDriver
          runCalls [.init .usb true false])
        { s with world := all.2 } → ¬ lacksModule console op t) := by
  intro console s boot all
  have hcalls : ∀ call ∈ [PublicCall.init .usb true false],
      call.initialises Driver.usb.req := by
    intro call hcall
    rw [List.mem_singleton.mp hcall]
    show requires Driver.usb.req .usb = true
    decide
  have hboot : boot.1 = .ok := by decide +kernel
  have hall : all.1 = .ok := by decide +kernel
  have h := boot_never_lacks_module Console.ready_loadsStaged [] everyModuleEnv
    (some (lit "a.irximg")) (lit "mc0:/APP") Driver.usb.req hcalls (s := s) rfl fun _ => rfl
  exact ⟨⟨hboot, h.1 hboot⟩, hall, h.2 hall⟩

end Ps2Drivers
