import Mathlib.Data.Finset.Dedup
import Ps2Drivers.Lib.Abstract
import Ps2Drivers.Drivers.BootResidue
import Ps2Drivers.Drivers.Again
import Ps2Drivers.Drivers.Shutdown

/-!
# What is loaded after a run

Seen from outside, a driver call adds the modules a driver is responsible for to a set, or takes
them out of it.  Whatever fails, no more is loaded than this set says; when nothing fails, exactly
this set is.
-/

open Binary CString

namespace Ps2Drivers

/-! ## 1. Sets of modules -/

def Irx.all : List Irx :=
  [.sio2man, .iomanX, .fileXio, .mcman, .mcserv, .bdm, .bdmfsFatfs, .usbd, .usbmassBd, .mx4sioBd,
    .cdfs, .ps2dev9, .ps2atad, .ps2hdd, .ps2fs, .mtapman, .padman, .libsd, .audsrv, .poweroff,
    .ps2mouse, .ps2kbd, .ps2cam, .netman, .smap, .ps2ipNm, .ps2ips]

theorem Irx.mem_all (m : Irx) : m ∈ Irx.all := by
  cases m <;> decide

def modulesLoaded (s : Machine) : Finset Irx :=
  (Irx.all.filter fun m => loaded m s.trace).toFinset

@[simp] theorem mem_modulesLoaded {m : Irx} {s : Machine} :
    m ∈ modulesLoaded s ↔ loaded m s.trace = true := by
  simp [modulesLoaded, Irx.mem_all]

def Driver.moduleSet (d : Driver) (dependencies : Bool) : Finset Irx :=
  (d.responsible dependencies).toFinset

/-- A driver comes up or goes down, with its dependencies or without. -/
inductive Change
  | up (d : Driver) (dependencies : Bool)
  | down (d : Driver) (dependencies : Bool)
  deriving DecidableEq, Repr

def Change.apply : Change → Finset Irx → Finset Irx
  | .up d dependencies, before => before ∪ d.moduleSet dependencies
  | .down d dependencies, before => before \ d.moduleSet dependencies

def applyAll (changes : List Change) (before : Finset Irx) : Finset Irx :=
  changes.foldl (fun modules change => change.apply modules) before

/-- The functions of the drivers' headers, and the two callbacks the filesystem driver registers
for the power button. -/
inductive AppCall
  | driver (call : PublicCall)
  | mountHddPartition (mountpoint blockdev : Bytes)
  | mountCurrentHddPartition
  | umountHddPartition (mountpoint : Bytes)
  | umountCurrentHddPartition
  | waitUntilDeviceIsReady (path : Bytes)
  | poweroff (handler : PoweroffHandler)
  deriving DecidableEq, Repr

def AppCall.run : AppCall → DriverM Int
  | .driver call => call.run
  | .mountHddPartition mountpoint blockdev => Ps2Drivers.mountHddPartition mountpoint blockdev
  | .mountCurrentHddPartition => Ps2Drivers.mountCurrentHddPartition
  | .umountHddPartition mountpoint => do
    Ps2Drivers.umountHddPartition mountpoint
    pure 0
  | .umountCurrentHddPartition => do
    Ps2Drivers.umountCurrentHddPartition
    pure 0
  | .waitUntilDeviceIsReady path => do
    let ready ← Ps2Drivers.waitUntilDeviceIsReady path
    pure (if ready then 1 else 0)
  | .poweroff handler => do
    poweroffHandler handler
    pure 0

def BootGroup.changes : BootGroup → List Change
  | .memcard => [.up .memcard true]
  | .cdfs => [.up .cdfs false]
  | .mass => [.up .usb true, .up .mx4sio true]
  | .hdd => [.up .poweroff false, .up .dev9 false, .up .hdd false]
  | .none => []

/-- What `__internal_deinit_ps2_filesystem_driver(false)` does; mx4sio comes up. -/
def filesystemTeardown : List Change :=
  [.down .hdd false, .down .cdfs false, .up .mx4sio false, .down .usb true, .down .memcard true,
    .down .fileXio false, .down .dev9 false]

/-- What a call does, made in the working directory `cwd`. -/
def PublicCall.changes (cwd : Bytes) : PublicCall → List Change
  | .init d dependencies onlyIfBootedFromHdd =>
    if d = .hdd ∧ onlyIfBootedFromHdd = true ∧ hddPath cwd = false then []
    else [.up d dependencies]
  | .deinit d dependencies => [.down d dependencies]
  | .initNetwork .iop dependencies => [.up .iopip dependencies]
  | .initNetwork _ dependencies => [.up .eeip dependencies]
  | .deinitNetwork .iop dependencies => [.up .iopip dependencies]
  | .deinitNetwork _ dependencies => [.down .eeip dependencies]
  | .initFilesystem =>
    [.up .poweroff false, .up .fileXio false, .up .memcard true, .up .usb true, .up .mx4sio false,
      .up .cdfs false, .up .dev9 false] ++ if hddPath cwd then [.up .hdd false] else []
  | .deinitFilesystem => filesystemTeardown ++ [.down .poweroff false]
  | .initOnlyBootFilesystem =>
    .up .fileXio false :: (getBootDeviceID (some cwd)).group.changes
  -- the boot device is never recorded
  | .deinitOnlyBootFilesystem => [.down .fileXio false]

def AppCall.changes (cwd : Bytes) : AppCall → List Change
  | .driver call => call.changes cwd
  | .poweroff .filesystem => filesystemTeardown
  | .poweroff .onlyBootFilesystem => [.down .fileXio false]
  | _ => []

/-- What a call does to the set of loaded modules, made in the state `s`. -/
def AppCall.effect (s : Machine) (call : AppCall) : Finset Irx → Finset Irx :=
  applyAll (call.changes s.cwd)

def leftLoaded (steps : List (Machine × AppCall)) : Finset Irx :=
  Program.effectOf AppCall.effect steps ∅

/-! ## 3. Relations a call follows -/

/-- A relation between sets and machines that drivers coming up and going down follow, and that
everything which executes and unloads nothing keeps. -/
structure FollowsDrivers (console : Console) (R : Finset Irx → Machine → Prop) : Prop where
  up : ∀ d deps, Program.Follows console.step (fun _ => True) R (Change.up d deps).apply
    (initDriver d deps false)
  down : ∀ d deps, Program.Follows console.step (fun _ => True) R (Change.down d deps).apply
    (deinitDriver d deps)
  idle : ∀ {α : Type} {p : DriverM α}, p.Within (fun op : DriverOp => ∀ m, op.spares m) →
    Program.Follows console.step (fun _ => True) R id p

/-- Called in the directory `cwd`, the boot device never recorded. -/
def CalledIn (cwd : Bytes) (s : Machine) : Prop := s.cwd = cwd ∧ s.bootDeviceId = .unknown

section

variable {console : Console} {R : Finset Irx → Machine → Prop} {cwd : Bytes}

theorem initDriver_run_only (d : Driver) (deps only : Bool) (s : Machine) :
    (initDriver d deps only).run console.step s =
      if d = .hdd ∧ only = true ∧ hddPath s.cwd = false then
        (returnStatus .hdd (pure HddInitStatus.wrongCwd)).run console.step s
      else (initDriver d deps false).run console.step s := by
  cases d
  case hdd =>
    show (initHddDriver deps only).run console.step s = _
    rw [initHddDriver_run]
    by_cases hskip : only = true ∧ hddPath s.cwd = false
    · rw [if_pos hskip, if_pos ⟨rfl, hskip⟩]
    · rw [if_neg hskip, if_neg fun h => hskip h.2]
      rfl
  -- the other drivers ignore the flag
  all_goals rw [if_neg fun h => Driver.noConfusion h.1]; rfl

theorem returnStatus_spares (d : Driver) {p : DriverM Int}
    (hp : p.Within fun op : DriverOp => ∀ m, op.spares m) :
    (returnStatus d p).Within fun op : DriverOp => ∀ m, op.spares m := by
  refine Program.Within.bind hp fun status => ?_
  exact Program.Within.bind (setStatus_within.mpr fun _ => trivial) fun _ =>
    Program.within_pure status

namespace FollowsDrivers

variable (hR : FollowsDrivers console R)

include hR

/-- Everything about files is idle. -/
theorem handles {α : Type} {p : DriverM α} (hp : p.Within DriverOp.handlesFiles) :
    Program.Follows console.step (fun _ => True) R id p :=
  hR.idle (hp.mono fun op hop m => DriverOp.handlesFiles.spares m op hop)

theorem init (d : Driver) (deps only : Bool) :
    Program.Follows console.step (fun s => s.cwd = cwd) R
      (applyAll ((PublicCall.init d deps only).changes cwd)) (initDriver d deps only) := by
  rw [PublicCall.changes]
  by_cases hskip : d = .hdd ∧ only = true ∧ hddPath cwd = false
  · -- the working directory keeps the driver from doing anything
    rw [if_pos hskip]
    have hidle : Program.Follows console.step (fun _ => True) R id
        (returnStatus .hdd (pure HddInitStatus.wrongCwd)) :=
      hR.idle (returnStatus_spares .hdd (Program.within_pure _))
    refine (hidle.imp fun _ _ => trivial).congr fun s hs => ?_
    rw [initDriver_run_only, hs, if_pos hskip]
  · rw [if_neg hskip]
    refine ((hR.up d deps).imp fun _ _ => trivial).congr fun s hs => ?_
    rw [initDriver_run_only, hs, if_neg hskip]

theorem upThen (d : Driver) (deps : Bool) {β : Type} {k : Int → DriverM β} {changes : List Change}
    (hk : ∀ a, Program.Follows console.step (fun _ => True) R (applyAll changes) (k a)) :
    Program.Follows console.step (fun _ => True) R (applyAll (.up d deps :: changes))
      (initDriver d deps false >>= k) := (hR.up d deps).seq hk

theorem downThen (d : Driver) (deps : Bool) {β : Type} {k : Unit → DriverM β}
    {changes : List Change}
    (hk : ∀ a, Program.Follows console.step (fun _ => True) R (applyAll changes) (k a)) :
    Program.Follows console.step (fun _ => True) R (applyAll (.down d deps :: changes))
      (deinitDriver d deps >>= k) := (hR.down d deps).seq hk

theorem initBootGroup (group : BootGroup) (path : Bytes) :
    Program.Follows console.step (fun _ => True) R (applyAll group.changes)
      (initBootGroup path group) := by
  cases group with
  | memcard => exact hR.upThen .memcard true fun _ => .ret path
  | cdfs => exact hR.upThen .cdfs false fun _ => .ret path
  | mass => exact hR.upThen .usb true fun _ => hR.upThen .mx4sio true fun _ => .ret path
  | hdd =>
    have hmount : Program.Follows console.step (fun _ => True) R id (do
        let _ ← lib (.poweroffSetCallback .onlyBootFilesystem)
        let _ ← mountCurrentHddPartition
        getcwd) := by
      apply hR.handles
      refine Program.Within.bind (lib_within.mpr trivial) fun _ => ?_
      exact Program.Within.bind mountCurrentHddPartition_within fun _ => getcwd_within.mpr trivial
    exact hR.upThen .poweroff false fun _ => hR.upThen .dev9 false fun _ =>
      hR.upThen .hdd false fun _ => hmount
  | none => exact .ret path

theorem initFilesystemDrivers :
    Program.Follows console.step (fun s => s.cwd = cwd) R
      (applyAll (PublicCall.changes cwd .initFilesystem)) initFilesystemDrivers := by
  -- up to the HDD's, every driver leaves the working directory alone
  have hnext {β : Type} {k : Int → DriverM β} {changes : List Change} (d : Driver) (deps : Bool)
      (hk : ∀ a, Program.Follows console.step (fun s => s.cwd = cwd) R (applyAll changes) (k a)) :
      Program.Follows console.step (fun s => s.cwd = cwd) R (applyAll (.up d deps :: changes))
        (initDriver d deps false >>= k) :=
    ((hR.up d deps).imp fun _ _ => trivial).bind
      (Program.Triple.keepsCwd (initDriver_keepsFiles d deps false) cwd) hk
  refine hnext .poweroff false fun _ => hnext .fileXio false fun _ => hnext .memcard true fun _ =>
    hnext .usb true fun _ => hnext .mx4sio false fun _ => hnext .cdfs false fun _ =>
    hnext .dev9 false fun _ => ?_
  have hhdd : (PublicCall.init .hdd false true).changes cwd =
      if hddPath cwd then [.up .hdd false] else [] := by
    cases h : hddPath cwd <;> simp [PublicCall.changes, h]
  rw [← hhdd]
  exact (hR.init .hdd false true).seq fun _ => .ret ()

theorem filesystemTeardown (deinitPowerOff : Bool) :
    Program.Follows console.step (fun _ => True) R
      (applyAll (filesystemTeardown ++ if deinitPowerOff then [.down .poweroff false] else []))
      (internalDeinitPs2FilesystemDriver deinitPowerOff) := by
  have hfirst {changes : List Change} {k : Unit → DriverM Unit}
      (hk : ∀ a, Program.Follows console.step (fun _ => True) R (applyAll changes) (k a)) :=
    hR.downThen .hdd false fun _ => hR.downThen .cdfs false fun _ => hR.upThen .mx4sio false fun _ =>
      hR.downThen .usb true fun _ => hR.downThen .memcard true fun _ =>
      hR.downThen .fileXio false fun _ => hR.downThen .dev9 false hk
  cases deinitPowerOff with
  | false => exact hfirst fun _ => .ret ()
  | true => exact hfirst fun _ => hR.down .poweroff false

theorem initNetwork (stack : NetworkStack) (deps : Bool) :
    Program.Follows console.step (fun _ => True) R
      (applyAll ((PublicCall.initNetwork stack deps).changes cwd))
      (initNetworkDriver stack deps) := by
  cases stack with
  | default | ee => exact hR.up .eeip deps
  | iop => exact hR.up .iopip deps

theorem deinitNetwork (stack : NetworkStack) (deps : Bool) :
    Program.Follows console.step (fun _ => True) R
      (applyAll ((PublicCall.deinitNetwork stack deps).changes cwd))
      (deinitNetworkDriver stack deps) := by
  cases stack with
  | default | ee => exact hR.down .eeip deps
  | iop => exact (hR.up .iopip deps).seq fun _ => .ret ()

theorem deinitOnlyBoot :
    Program.Follows console.step (CalledIn cwd) R (applyAll [.down .fileXio false])
      deinitOnlyBootPs2FilesystemDriver :=
  ((hR.down .fileXio false).imp fun _ _ => trivial).congr fun _ hs =>
    deinitOnlyBootPs2FilesystemDriver_run console hs.2

theorem publicCall (call : PublicCall) :
    Program.Follows console.step (CalledIn cwd) R (applyAll (call.changes cwd)) call.run := by
  have hcwd (s : Machine) (hs : CalledIn cwd s) : s.cwd = cwd := hs.1
  -- a function without a result counts as one that returns 0
  cases call with
  | init d deps only => exact (hR.init d deps only).imp hcwd
  | deinit d deps =>
    exact ((hR.down d deps).seq fun _ => .ret 0).imp fun _ _ => trivial
  | initNetwork stack deps => exact (hR.initNetwork stack deps).imp fun _ _ => trivial
  | deinitNetwork stack deps =>
    exact ((hR.deinitNetwork stack deps).seq fun _ => .ret 0).imp fun _ _ => trivial
  | initFilesystem =>
    have hafter : (lib (.poweroffSetCallback .filesystem) >>= fun _ => mountAndWait).Within
        DriverOp.handlesFiles :=
      Program.Within.bind (lib_within.mpr trivial) fun _ => mountAndWait_within
    have hrun : Program.Follows console.step (fun s => s.cwd = cwd) R
        (applyAll (PublicCall.changes cwd .initFilesystem)) initPs2FilesystemDriver :=
      hR.initFilesystemDrivers.seq fun _ => hR.handles hafter
    exact (hrun.imp hcwd).seq fun _ => .ret 0
  | deinitFilesystem =>
    have humount : Program.Follows console.step (fun _ => True) R id umountCurrentHddPartition :=
      hR.handles (umountCurrentHddPartition_within fun _ hop _ => hop)
    have hrun : Program.Follows console.step (fun _ => True) R
        (applyAll (PublicCall.changes cwd .deinitFilesystem)) deinitPs2FilesystemDriver :=
      humount.seq fun _ => hR.filesystemTeardown true
    exact (hrun.seq fun _ => .ret 0).imp fun _ _ => trivial
  | initOnlyBootFilesystem =>
    have hwait (path : Bytes) : Program.Follows console.step (fun _ => True) R id (do
        let _ ← waitUntilDeviceIsReady path
        pure ()) :=
      hR.handles <| Program.Within.bind (waitUntilDeviceIsReady_within (fun _ => trivial) path)
        fun _ => Program.within_pure ()
    have hboot : Program.Follows console.step (CalledIn cwd) R
        (applyAll (PublicCall.changes cwd .initOnlyBootFilesystem))
        initOnlyBootPs2FilesystemDriver := by
      have hrun : Program.Follows console.step (fun _ => True) R
          (applyAll (PublicCall.changes cwd .initOnlyBootFilesystem)) (bootFrom cwd) :=
        (hR.up .fileXio false).seq fun _ =>
          (hR.initBootGroup (getBootDeviceID (some cwd)).group cwd).seq hwait
      refine (hrun.imp fun _ _ => trivial).congr fun s hs => ?_
      rw [initOnlyBootPs2FilesystemDriver_run, hs.1]
    exact hboot.seq fun _ => .ret 0
  | deinitOnlyBootFilesystem => exact hR.deinitOnlyBoot.seq fun _ => .ret 0

theorem poweroff (handler : PoweroffHandler) :
    Program.Follows console.step (CalledIn cwd) R
      (applyAll ((AppCall.poweroff handler).changes cwd)) (poweroffHandler handler) := by
  have hshutdown : Program.Follows console.step (fun _ => True) R id (do
      let _ ← lib .poweroffShutdown
      pure ()) :=
    hR.handles (Program.Within.bind (lib_within.mpr trivial) fun _ => Program.within_pure ())
  cases handler with
  | filesystem =>
    exact ((hR.filesystemTeardown false).seq fun _ => hshutdown).imp fun _ _ => trivial
  | onlyBootFilesystem =>
    have hteardown : Program.Follows console.step (CalledIn cwd) R
        (applyAll [.down .fileXio false]) (internalDeinitOnlyBootPs2FilesystemDriver false) := by
      refine ((hR.down .fileXio false).imp fun _ _ => trivial).congr fun s hs => ?_
      rw [internalDeinitOnlyBootPs2FilesystemDriver, Program.run_bind, getBootDeviceId_run,
        Option.bind_some, hs.2]
      rfl
    exact hteardown.seq fun _ => hshutdown

theorem appCall (call : AppCall) :
    Program.Follows console.step (CalledIn cwd) R (applyAll (call.changes cwd)) call.run := by
  have hidle {p : DriverM Int} (hp : p.Within DriverOp.handlesFiles) :
      Program.Follows console.step (CalledIn cwd) R id p :=
    (hR.handles hp).imp fun _ _ => trivial
  -- a call that only mounts, unmounts or waits leaves the modules alone
  cases call with
  | driver call => exact hR.publicCall call
  | mountHddPartition mountpoint blockdev =>
    apply hidle
    refine Program.Within.bind (getStatus_within.mpr trivial) fun status => ?_
    apply Program.within_ite (Program.within_pure _)
    refine Program.Within.bind (lib_within.mpr trivial) fun result => ?_
    exact Program.within_ite (Program.within_pure _) (Program.within_pure _)
  | mountCurrentHddPartition => exact hidle mountCurrentHddPartition_within
  | umountHddPartition mountpoint =>
    have humount : (Ps2Drivers.umountHddPartition mountpoint).Within DriverOp.handlesFiles := by
      refine Program.Within.bind (getMountStatus_within.mpr trivial) fun status => ?_
      apply Program.within_ite _ (Program.within_pure _)
      refine Program.Within.bind (lib_within.mpr trivial) fun _ => ?_
      refine Program.Within.bind (lib_within.mpr trivial) fun _ => ?_
      refine Program.Within.bind (lib_within.mpr trivial) fun _ => ?_
      refine Program.Within.bind (setMountStatus_within.mpr trivial) fun _ => ?_
      exact setMountString_within.mpr trivial
    exact hidle (Program.Within.bind humount fun _ => Program.within_pure 0)
  | umountCurrentHddPartition =>
    exact hidle (Program.Within.bind (umountCurrentHddPartition_within fun _ hop _ => hop)
      fun _ => Program.within_pure 0)
  | waitUntilDeviceIsReady path =>
    exact hidle (Program.Within.bind (waitUntilDeviceIsReady_within (fun _ => trivial) path)
      fun ready => Program.within_pure _)
  | poweroff handler => exact (hR.poweroff handler).seq fun _ => .ret 0

end FollowsDrivers

/-! ## 4. Bounds from above and from below -/

def AtMost (modules : Finset Irx) (s : Machine) : Prop :=
  s.Unloadable ∧ s.LoadedIn modules.toList

/-- At least these modules are loaded, and no execution has failed halfway. -/
def AtLeast (modules : Finset Irx) (s : Machine) : Prop :=
  s.Steady ∧ s.Started modules.toList

theorem AtMost.loaded_subset {modules : Finset Irx} {s : Machine} (h : AtMost modules s)
    (hs : s.Tracked) : modulesLoaded s ⊆ modules := by
  intro m hm
  rw [mem_modulesLoaded, hs m, Bool.not_eq_true'] at hm
  exact Finset.mem_toList.mp (h.2 m hm)

theorem AtLeast.subset_loaded {modules : Finset Irx} {s : Machine} (h : AtLeast modules s)
    (hs : s.Tracked) : modules ⊆ modulesLoaded s := by
  intro m hm
  rw [mem_modulesLoaded, hs m, h.2 m (Finset.mem_toList.mpr hm)]
  rfl

theorem atMost_initial (cwd : Bytes) (w : World) : AtMost ∅ (Machine.initial cwd w) :=
  ⟨Machine.initial_unloadable cwd w, Machine.initial_loadedIn _ cwd w⟩

theorem atLeast_initial (cwd : Bytes) (w : World) : AtLeast ∅ (Machine.initial cwd w) :=
  ⟨fun _ => Or.inl rfl, fun m hm => absurd hm (by simp)⟩

theorem atMost_follows (hdoc : console.Documented) : FollowsDrivers console AtMost where
  up d deps := by
    constructor
    intro before
    have hwithin : (initDriver d deps false).Within
        (DriverOp.loadsIn ((Change.up d deps).apply before).toList) := by
      refine (initDriver_within d deps false (List.Subset.refl _)).mono fun op hop =>
        DriverOp.bringsUp.loadsIn op (DriverOp.bringsUp.mono (fun m hm => ?_) op hop)
      simp [Change.apply, Driver.moduleSet, hm]
    refine ((Program.Triple.keepsUnloadable hdoc _).and
      (Program.Triple.keepsLoadedIn hwithin)).imp ?_ fun _ _ hs => hs
    intro s hs
    refine ⟨hs.2.1, hs.2.2.mono fun m hm => ?_⟩
    simp [Change.apply, Finset.mem_toList.mp hm]
  down d deps := by
    constructor
    intro before
    refine ((deinitDriver_deinit deps d).unloads console hdoc before.toList).imp
      (fun s hs => hs.2) fun _ s hs => ⟨hs.1, hs.2.mono fun m hm => ?_⟩
    simpa [Change.apply, Driver.moduleSet] using hm
  idle hp := by
    apply Program.Follows.keeps hp
    intro before op hop s r hs hstep
    have hloads : op.loadsIn before.toList := by
      cases op with
      | loadIrx m args => exact absurd rfl (hop m)
      | _ => trivial
    exact ⟨(step_effect hstep).unloadable hdoc hs.1, (step_effect hstep).loadedIn hloads hs.2⟩

theorem atLeast_follows (hgood : console.AllSucceed)
    (hflavor : ∃ data, console.flavor = .embedded data) : FollowsDrivers console AtLeast where
  up d deps := by
    constructor
    intro before
    have hspec := initDriver_spec d deps
    refine (((Program.Triple.keepsSteady hgood _).and
      (hspec.succeeds console hgood hflavor)).and
      (Program.Triple.keepsStarted before.toList hspec.within)).imp
      (fun s hs => ⟨⟨hs.2.1, hs.2.1⟩, hs.2.2⟩) fun _ s hs => ⟨hs.1.1, fun m hm => ?_⟩
    -- a module was loaded before, or the driver has just loaded it
    rw [Finset.mem_toList] at hm
    rcases Finset.mem_union.mp hm with hm | hm
    · exact hs.2 m (Finset.mem_toList.mpr hm)
    · exact hs.1.2.2 m (List.mem_toFinset.mp hm)
  down d deps := by
    constructor
    intro before
    have hleaves : (deinitDriver d deps).Within
        (DriverOp.leaves ((Change.down d deps).apply before).toList) := by
      refine (deinitDriver_deinit deps d).within.mono fun op hop => ?_
      cases op with
      | unloadIrx m =>
        have hm : m ∈ d.responsible deps := hop
        simp [DriverOp.leaves, Change.apply, Driver.moduleSet, hm]
      | _ => trivial
    refine ((Program.Triple.keepsSteady hgood _).and
      (Program.Triple.staysStarted _ hleaves)).imp ?_ fun _ _ hs => hs
    refine fun s hs => ⟨hs.2.1, fun m hm => hs.2.2 m ?_⟩
    have hmem : m ∈ before ∧ m ∉ d.moduleSet deps := by simpa [Change.apply] using hm
    exact Finset.mem_toList.mpr hmem.1
  idle hp := by
    apply Program.Follows.keeps hp
    intro before op hop s r hs hstep
    have hleaves : op.leaves before.toList := by
      cases op with
      | unloadIrx m => exact absurd rfl (hop m)
      | _ => trivial
    exact ⟨(step_effect hstep).steady hgood.starts hs.1, (step_effect hstep).started hleaves hs.2⟩

/-! ## 5. Runs -/

variable {w : World} {steps : List (Machine × AppCall)} {s : Machine}

theorem history_follows {R : Finset Irx → Machine → Prop} (hR : FollowsDrivers console R)
    (hinitial : R ∅ (Machine.initial cwd w))
    (hh : Program.History console.step AppCall.run (Machine.initial cwd w) steps s) :
    R (leftLoaded steps) s := by
  refine hh.follows (P := fun s => s.bootDeviceId = .unknown) rfl hinitial ?_ ?_
  · exact fun call => ⟨fun s hs r hr => (run_bootDeviceId hr).trans hs⟩
  · intro call t
    refine (hR.appCall call).imp fun s hs => ?_
    obtain ⟨rfl, hboot⟩ := hs
    exact ⟨rfl, hboot⟩

theorem history_tracked
    (hh : Program.History console.step AppCall.run (Machine.initial cwd w) steps s) : s.Tracked :=
  hh.keeps (Machine.initial_tracked cwd w) fun _ _ _ hs hr => run_tracked console hs hr

/-- Whatever fails in a run of calls, no module is loaded that the calls do not account for. -/
theorem modulesLoaded_subset (hdoc : console.Documented)
    (hh : Program.History console.step AppCall.run (Machine.initial cwd w) steps s) :
    modulesLoaded s ⊆ leftLoaded steps :=
  (history_follows (atMost_follows hdoc) (atMost_initial cwd w) hh).loaded_subset
    (history_tracked hh)

/-- When nothing fails, exactly the modules that the calls account for are loaded. -/
theorem modulesLoaded_eq (hdoc : console.Documented) (hgood : console.AllSucceed)
    (hflavor : ∃ data, console.flavor = .embedded data)
    (hh : Program.History console.step AppCall.run (Machine.initial cwd w) steps s) :
    modulesLoaded s = leftLoaded steps := by
  have hmost := history_follows (atMost_follows hdoc) (atMost_initial cwd w) hh
  have hleast := history_follows (atLeast_follows hgood hflavor) (atLeast_initial cwd w) hh
  apply Finset.Subset.antisymm
  · exact hmost.loaded_subset (history_tracked hh)
  · exact hleast.subset_loaded (history_tracked hh)

end

def mouseUpAndDown : List AppCall :=
  [.driver (.init .mouse true false), .driver (.deinit .mouse false)]

theorem mouseUpAndDown_history : ∃ steps s,
    Program.History Console.ready.step AppCall.run (Machine.initial [] World.initial) steps s ∧
      steps.map (·.2) = mouseUpAndDown.reverse ∧ leftLoaded steps = {.usbd} := by
  have hsome : (((AppCall.driver (.init .mouse true false)).run.run Console.ready.step
      (Machine.initial [] World.initial)).bind fun r =>
        (AppCall.driver (.deinit .mouse false)).run.run Console.ready.step r.2).isSome = true := by
    decide +kernel
  obtain ⟨r₂, hruns⟩ := Option.isSome_iff_exists.mp hsome
  obtain ⟨r₁, hinit, hdeinit⟩ := Option.bind_eq_some_iff.mp hruns
  exact ⟨_, _, .next (.next .start hinit) hdeinit, rfl, rfl⟩

theorem modulesLoaded_subset_mouse : ∃ steps s,
    Program.History Console.ready.step AppCall.run (Machine.initial [] World.initial) steps s ∧
      modulesLoaded s ⊆ leftLoaded steps := by
  obtain ⟨steps, s, hh, -, -⟩ := mouseUpAndDown_history
  exact ⟨steps, s, hh, modulesLoaded_subset Console.ready_documented hh⟩

theorem modulesLoaded_eq_mouse : ∃ steps s,
    Program.History Console.ready.step AppCall.run (Machine.initial [] World.initial) steps s ∧
      leftLoaded steps = {.usbd} ∧ modulesLoaded s = leftLoaded steps := by
  obtain ⟨steps, s, hh, -, hleft⟩ := mouseUpAndDown_history
  exact ⟨steps, s, hh, hleft,
    modulesLoaded_eq Console.ready_documented Console.ready_succeeds ⟨_, rfl⟩ hh⟩

end Ps2Drivers
