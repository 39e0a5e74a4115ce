import Ps2Drivers.Drivers.Undo

/-!
# Undoing the boot filesystem driver

`init_only_boot_ps2_filesystem_driver` dispatches on the working directory, and
`deinit_only_boot_ps2_filesystem_driver` on `__boot_device_id`, which nothing assigns.
-/

open Binary CString

namespace Ps2Drivers

/-! ## 1. First modules -/

/-- Where a function only executes modules, the first one decides. -/
theorem onlyIRXs_first {m : Irx} {args : Option Bytes} {e : Int} {blocks : List IrxBlock}
    (ok : Int) (herror : ∀ block ∈ ⟨m, args, e⟩ :: blocks, block.error < 0) :
    FirstSpec m (loadIRXs (⟨m, args, e⟩ :: blocks) (pure ok)) :=
  loadIRXs_first (loadIRXs_spec (pure_spec Console.LibrariesSucceed ok) herror rfl).toTakeSpec
    (herror _ List.mem_cons_self)

theorem initSio2manDriver_first : FirstSpec .sio2man initSio2manDriver :=
  returnStatus_first _ (onlyIRXs_first _ (by decide))

theorem initMemcardDriver_first : FirstSpec .sio2man (initMemcardDriver true) :=
  withDependency_first initSio2manDriver_first (fun _ h => decide_eq_true h) (by decide)
    (initMemcardDriver_spec Console.LibrariesSucceed false).within

theorem initCdfsDriver_first : FirstSpec .cdfs initCdfsDriver :=
  returnStatus_first _ (onlyIRXs_first _ (by decide))

theorem initBdmDriver_first : FirstSpec .bdm initBdmDriver :=
  returnStatus_first _ (onlyIRXs_first _ (by decide))

theorem initUsbDriver_first : FirstSpec .bdm (initUsbDriver true) :=
  withDependency_first initBdmDriver_first (fun _ h => decide_eq_true h) (by decide)
    (withDependency_spec true (initUsbdDriver_spec Console.LibrariesSucceed) isNegative_eq_false rfl
      (pure_fails (by decide)) (initUsbDriver_spec Console.LibrariesSucceed false)).within

theorem initMx4sioDriver_first : FirstSpec .sio2man (initMx4sioDriver true) :=
  withDependency_first initSio2manDriver_first (fun _ h => decide_eq_true h) (by decide)
    (withDependency_spec true (initBdmDriver_spec _) isNegative_eq_false rfl
      (pure_fails (by decide)) (initMx4sioDriver_spec false)).within

theorem initPoweroffDriver_first : FirstSpec .poweroff initPoweroffDriver :=
  withLibraries_first _ (onlyIRXs_first _ (by decide))
    (returnStatus_spec _ (libCheck_spec .poweroffInit rfl
      (fun _ h past => not_not.mpr (h.poweroffInit past)) (by decide)
      (pure_spec Console.LibrariesSucceed PoweroffInitStatus.ok))).within

theorem initDev9Driver_first : FirstSpec .ps2dev9 initDev9Driver :=
  returnStatus_first _ (onlyIRXs_first _ (by decide))

theorem loadHddIRXs_first : FirstSpec .ps2atad loadHddIRXs :=
  loadIRXs_first loadHddIRXs_spec.toTakeSpec (by decide)

theorem initHddDriver_first : FirstSpec .ps2atad (initHddDriver false false) :=
  returnStatus_first _ loadHddIRXs_first

section

variable {console : Console} {s₀ : Machine}

/-- A first module that fails also leaves its error as the status of the HDD driver. -/
theorem initHddDriver_stops (hstop : s₀.wouldStart console .ps2atad = false) (ms : List Irx) :
    Program.Triple console.step (fun s => Fresh console .ps2atad s₀ s ∧ s.LoadedIn ms)
      (initHddDriver false false) fun _ s => s.LoadedIn ms ∧ s.status .hdd < 0 := by
  refine Program.Triple.bind (loadHddIRXs_first.stops console s₀ hstop ms) fun status => ?_
  apply Program.Triple.of_pure
  intro hneg
  refine Program.Triple.bind (R := fun _ s => s.LoadedIn ms ∧ s.status .hdd < 0) ?_ fun _ =>
    Program.Triple.ret fun _ hs => hs
  refine Program.Triple.of_run (fun s => setStatus_run console s .hdd status) fun s hs => ⟨hs, ?_⟩
  show Function.update s.status .hdd status .hdd < 0
  rwa [Function.update_self]

/-- Without the HDD driver nothing is mounted. -/
theorem mountCurrentHddPartition_notReady (P : Machine → Prop) :
    Program.Triple console.step (fun s => s.status .hdd < 0 ∧ P s) mountCurrentHddPartition
      fun _ => P := by
  constructor
  intro s hs r hr
  have hne : (s.status .hdd, s).1 ≠ HddInitStatus.irxOk := Int.ne_of_lt hs.1
  rw [mountCurrentHddPartition, Program.run_bind, getStatus_run, Option.bind_some, if_pos hne] at hr
  rw [← Option.some.inj hr]
  exact hs.2

end

/-! ## 2. The boot group -/

def BootGroup.firstModules : BootGroup → List Irx
  | .memcard => [.sio2man]
  | .cdfs => [.cdfs]
  | .mass => [.bdm, .sio2man]
  | .hdd => [.poweroff, .ps2dev9, .ps2atad]
  | .none => []

theorem BootGroup.firstModules_spared (group : BootGroup) :
    ∀ m ∈ group.firstModules, m ∉ [Irx.iomanX, .fileXio] := by
  cases group <;> decide

def NothingMounted (s : Machine) : Prop := ∀ mountpoint, mounted mountpoint s.trace = false

section

variable {console : Console} {s₀ : Machine}

theorem Program.Triple.keepsNothingMounted {α : Type} {p : DriverM α}
    (hp : p.Within DriverOp.keepsFiles) :
    Program.Triple console.step NothingMounted p fun _ => NothingMounted :=
  Program.Triple.keepsFiles hp fun _ _ h hs mountpoint =>
    (h.mounted mountpoint).trans (hs mountpoint)

/-- A driver whose first module fails loads nothing, and keeps what it does not touch. -/
theorem FirstSpec.stops_frame {m : Irx} {p : DriverM Int} (hp : FirstSpec m p)
    (hstop : s₀.wouldStart console m = false) (ms : List Irx) {P : Machine → Prop}
    (hP : Program.Triple console.step P p fun _ => P) :
    Program.Triple console.step (fun s => Fresh console m s₀ s ∧ s.LoadedIn ms ∧ P s) p
      fun _ s => s.LoadedIn ms ∧ P s :=
  ((hp.stops console s₀ hstop ms).and hP).imp (fun _ hs => ⟨⟨hs.1, hs.2.1⟩, hs.2.2⟩)
    fun _ _ hs => ⟨hs.1.2, hs.2⟩

theorem initBootGroup_stops (cwd : Bytes) (group : BootGroup) (ms : List Irx)
    (hstop : ∀ m ∈ group.firstModules, s₀.wouldStart console m = false) :
    Program.Triple console.step
      (fun s => (∀ m ∈ group.firstModules, Fresh console m s₀ s) ∧ s.LoadedIn ms ∧
        NothingMounted s)
      (initBootGroup cwd group) fun _ s => s.LoadedIn ms ∧ NothingMounted s := by
  have hfiles (d : Driver) (deps only : Bool) : Program.Triple console.step NothingMounted
      (initDriver d deps only) fun _ => NothingMounted :=
    Program.Triple.keepsNothingMounted (initDriver_keepsFiles d deps only)
  -- the first modules of the later drivers wait while the earlier ones are tried
  have hfresh (d : Driver) (deps only : Bool) (m : Irx) (hm : m ∉ d.responsible deps) :
      Program.Triple console.step (Fresh console m s₀) (initDriver d deps only) fun _ =>
        Fresh console m s₀ :=
    Program.Triple.keepsFresh (initDriver_spares hm only)
  cases group with
  | memcard =>
    have hfirst := hstop .sio2man (by decide)
    refine Program.Triple.bind ((initMemcardDriver_first.stops_frame hfirst ms
      (hfiles .memcard true false)).imp (fun _ hs => ⟨hs.1 _ (by decide), hs.2⟩)
      fun _ _ hs => hs) fun _ => ?_
    exact Program.Triple.ret fun _ hs => hs
  | cdfs =>
    have hfirst := hstop .cdfs (by decide)
    refine Program.Triple.bind ((initCdfsDriver_first.stops_frame hfirst ms
      (hfiles .cdfs false false)).imp (fun _ hs => ⟨hs.1 _ (by decide), hs.2⟩)
      fun _ _ hs => hs) fun _ => ?_
    exact Program.Triple.ret fun _ hs => hs
  | mass =>
    have husb := initUsbDriver_first.stops_frame (hstop .bdm (by decide)) ms
      (P := fun s => Fresh console .sio2man s₀ s ∧ NothingMounted s)
      ((hfresh .usb true false .sio2man (by decide)).and (hfiles .usb true false))
    have hmx4sio := initMx4sioDriver_first.stops_frame (hstop .sio2man (by decide)) ms
      (hfiles .mx4sio true false)
    refine Program.Triple.bind (husb.imp (fun _ hs =>
      ⟨hs.1 _ (by decide), hs.2.1, hs.1 .sio2man (by decide), hs.2.2⟩) fun _ _ hs => hs)
      fun _ => ?_
    refine Program.Triple.bind (hmx4sio.imp (fun _ hs => ⟨hs.2.1, hs.1, hs.2.2⟩) fun _ _ hs => hs)
      fun _ => ?_
    exact Program.Triple.ret fun _ hs => hs
  | hdd =>
    have hpoweroff := initPoweroffDriver_first.stops_frame (hstop .poweroff (by decide)) ms
      (P := fun s => Fresh console .ps2dev9 s₀ s ∧ Fresh console .ps2atad s₀ s ∧ NothingMounted s)
      ((hfresh .poweroff false false .ps2dev9 (by decide)).and
        ((hfresh .poweroff false false .ps2atad (by decide)).and (hfiles .poweroff false false)))
    have hdev9 := initDev9Driver_first.stops_frame (hstop .ps2dev9 (by decide)) ms
      (P := fun s => Fresh console .ps2atad s₀ s ∧ NothingMounted s)
      ((hfresh .dev9 false false .ps2atad (by decide)).and (hfiles .dev9 false false))
    have hhdd := (initHddDriver_stops (hstop .ps2atad (by decide)) ms).and
      (hfiles .hdd false false)
    refine Program.Triple.bind (hpoweroff.imp (fun _ hs => ⟨hs.1 _ (by decide), hs.2.1,
      hs.1 .ps2dev9 (by decide), hs.1 .ps2atad (by decide), hs.2.2⟩) fun _ _ hs => hs)
      fun _ => ?_
    refine Program.Triple.bind (hdev9.imp (fun _ hs =>
      ⟨hs.2.1, hs.1, hs.2.2⟩) fun _ _ hs => hs) fun _ => ?_
    refine Program.Triple.bind (hhdd.imp (fun _ hs => ⟨⟨hs.2.1, hs.1⟩, hs.2.2⟩)
      fun _ _ hs => hs) fun _ => ?_
    -- the callback changes no status, so mounting gives up at once
    refine Program.Triple.bind (R := fun _ s => s.status .hdd < 0 ∧ s.LoadedIn ms ∧
      NothingMounted s) ?_ fun _ => ?_
    · exact Program.Triple.of_run (fun s => lib_run console s _) fun s hs =>
        ⟨hs.1.2, hs.1.1, hs.2⟩
    · refine Program.Triple.bind (mountCurrentHddPartition_notReady _) fun _ => ?_
      exact Program.Triple.of_run (getcwd_run console) fun s hs => hs
  | none => exact Program.Triple.ret fun _ hs => hs.2

theorem initBootGroup_starts (cwd : Bytes) (group : BootGroup) {m : Irx}
    (hm : m ∈ group.firstModules) (hstart : s₀.wouldStart console m = true) :
    Program.Triple console.step (Fresh console m s₀) (initBootGroup cwd group) fun _ s =>
      s.Started [m] := by
  have hkeep (d : Driver) (deps only : Bool) : Program.Triple console.step (Machine.Started [m])
      (initDriver d deps only) fun _ => Machine.Started [m] :=
    Program.Triple.keepsStarted [m] (initDriver_within d deps only (List.Subset.refl _))
  have hfresh (d : Driver) (deps only : Bool) (hm : m ∉ d.responsible deps) :
      Program.Triple console.step (Fresh console m s₀) (initDriver d deps only) fun _ =>
        Fresh console m s₀ :=
    Program.Triple.keepsFresh (initDriver_spares hm only)
  cases group with
  | memcard =>
    obtain rfl := List.mem_singleton.mp hm
    refine Program.Triple.bind (initMemcardDriver_first.starts console s₀ hstart) fun _ => ?_
    exact Program.Triple.ret fun _ hs => hs
  | cdfs =>
    obtain rfl := List.mem_singleton.mp hm
    refine Program.Triple.bind (initCdfsDriver_first.starts console s₀ hstart) fun _ => ?_
    exact Program.Triple.ret fun _ hs => hs
  | mass =>
    have hlist : m = .bdm ∨ m = .sio2man := by simpa [BootGroup.firstModules] using hm
    rcases hlist with rfl | rfl
    · refine Program.Triple.bind (initUsbDriver_first.starts console s₀ hstart) fun _ => ?_
      refine Program.Triple.bind (hkeep .mx4sio true false) fun _ => ?_
      exact Program.Triple.ret fun _ hs => hs
    · refine Program.Triple.bind (hfresh .usb true false (by decide)) fun _ => ?_
      refine Program.Triple.bind (initMx4sioDriver_first.starts console s₀ hstart) fun _ => ?_
      exact Program.Triple.ret fun _ hs => hs
  | hdd =>
    have hrest : Program.Triple console.step (Machine.Started [m]) (do
        let _ ← lib (.poweroffSetCallback .onlyBootFilesystem)
        let _ ← mountCurrentHddPartition
        getcwd) fun _ => Machine.Started [m] := by
      apply Program.Triple.staysStarted
      refine Program.Within.bind (lib_within.mpr trivial) fun _ => ?_
      refine Program.Within.bind
        (mountCurrentHddPartition_within.mono (DriverOp.handlesFiles.leaves _)) fun _ => ?_
      exact getcwd_within.mpr trivial
    have hlist : m = .poweroff ∨ m = .ps2dev9 ∨ m = .ps2atad := by
      simpa [BootGroup.firstModules] using hm
    -- up to its own driver the module is fresh, and from there on it stays started
    rcases hlist with rfl | rfl | rfl
    · refine Program.Triple.bind (initPoweroffDriver_first.starts console s₀ hstart) fun _ => ?_
      refine Program.Triple.bind (hkeep .dev9 false false) fun _ => ?_
      exact Program.Triple.bind (hkeep .hdd false false) fun _ => hrest
    · refine Program.Triple.bind (hfresh .poweroff false false (by decide)) fun _ => ?_
      refine Program.Triple.bind (initDev9Driver_first.starts console s₀ hstart) fun _ => ?_
      exact Program.Triple.bind (hkeep .hdd false false) fun _ => hrest
    · refine Program.Triple.bind (hfresh .poweroff false false (by decide)) fun _ => ?_
      refine Program.Triple.bind (hfresh .dev9 false false (by decide)) fun _ => ?_
      exact Program.Triple.bind (initHddDriver_first.starts console s₀ hstart) fun _ => hrest
  | none => cases hm

end

/-! ## 3. The boot device -/

theorem step_bootDeviceId {console : Console} {op : DriverOp} {s : Machine}
    {r : op.Answer × Machine} (h : console.step op s = some r) :
    r.2.bootDeviceId = s.bootDeviceId := by
  by_cases hop : op.assigns = false
  · exact (step_globals hop h).bootDeviceId
  · cases op with
    | setStatus | setMountStatus | setMountString => rw [← Option.some.inj h]
    | _ => exact absurd rfl hop

/-- Nothing assigns `__boot_device_id`. -/
theorem run_bootDeviceId {α : Type} {console : Console} {p : DriverM α} {s : Machine}
    {r : α × Machine} (hr : p.run console.step s = some r) :
    r.2.bootDeviceId = s.bootDeviceId :=
  Program.run_keeps_eq Machine.bootDeviceId (fun _ _ _ _ => step_bootDeviceId)
    (Program.within_true p) hr

/-- The boot device is never set, so the teardown is that of fileXio alone. -/
theorem deinitOnlyBootPs2FilesystemDriver_run (console : Console) {s : Machine}
    (h : s.bootDeviceId = .unknown) :
    deinitOnlyBootPs2FilesystemDriver.run console.step s =
      deinitFileXioDriver.run console.step s := by
  have hne : ¬ (BootDevice.unknown = .hdd ∨ BootDevice.unknown = .hdd0) := by decide
  rw [deinitOnlyBootPs2FilesystemDriver, Program.run_bind, getBootDeviceId_run, Option.bind_some,
    h, if_neg hne, internalDeinitOnlyBootPs2FilesystemDriver, Program.run_bind, getBootDeviceId_run,
    Option.bind_some, h]
  rfl

theorem initFileXioDriver_within : initFileXioDriver.Within (DriverOp.bringsUp [.iomanX, .fileXio]) :=
  (initFileXioDriver_spec Console.LibrariesSucceed).within

theorem initOnlyBootPs2FilesystemDriver_triple {console : Console} {cwd : Bytes}
    {P Q : Machine → Prop} (hfileXio : Program.Triple console.step P initFileXioDriver fun _ => P)
    (hgroup : Program.Triple console.step P
      (initBootGroup cwd (getBootDeviceID (some cwd)).group) fun _ => Q)
    (hwait : ∀ path, Program.Triple console.step Q (waitUntilDeviceIsReady path) fun _ => Q) :
    Program.Triple console.step (fun s => s.cwd = cwd ∧ P s) initOnlyBootPs2FilesystemDriver
      fun _ => Q := by
  have hget : Program.Triple console.step (fun s => s.cwd = cwd ∧ P s) getcwd fun cwd' s =>
      cwd' = cwd ∧ P s :=
    Program.Triple.of_run (getcwd_run console) fun s hs => hs
  refine Program.Triple.bind hget fun cwd' => ?_
  apply Program.Triple.of_pure
  intro hcwd
  rw [hcwd]
  refine Program.Triple.bind hfileXio fun _ => ?_
  refine Program.Triple.bind hgroup fun cwd' => ?_
  exact Program.Triple.bind (hwait cwd') fun _ => Program.Triple.ret fun _ hs => hs

theorem initBootGroup_returns {console : Console} (cwd : Bytes) (group : BootGroup) :
    Program.Safe console.step (fun s => mountable s.cwd) (initBootGroup cwd group) fun op _ =>
      op.comesBack := by
  have hkeep (d : Driver) (deps only : Bool) : Program.Triple console.step
      (fun s => mountable s.cwd) (initDriver d deps only) fun _ s => mountable s.cwd :=
    Program.Triple.keepsFiles (initDriver_keepsFiles d deps only) fun s s' h hs => h.cwd ▸ hs
  cases group with
  | memcard =>
    exact .of_within (Program.Within.bind (initDriver_comesBack .memcard true false) fun _ =>
      Program.within_pure _)
  | cdfs =>
    exact .of_within (Program.Within.bind (initDriver_comesBack .cdfs false false) fun _ =>
      Program.within_pure _)
  | mass =>
    exact .of_within (Program.Within.bind (initDriver_comesBack .usb true false) fun _ =>
      Program.Within.bind (initDriver_comesBack .mx4sio true false) fun _ =>
        Program.within_pure _)
  | hdd =>
    -- only the mount depends on the working directory, so that has to be kept up to it
    refine Program.Safe.bind (.of_within (initDriver_comesBack .poweroff false false))
      (hkeep .poweroff false false) fun _ => ?_
    refine Program.Safe.bind (.of_within (initDriver_comesBack .dev9 false false))
      (hkeep .dev9 false false) fun _ => ?_
    refine Program.Safe.bind (.of_within (initDriver_comesBack .hdd false false))
      (hkeep .hdd false false) fun _ => ?_
    refine Program.Safe.bind (.of_within (lib_within.mpr trivial))
      (Program.Triple.keepsFiles (lib_within.mpr rfl) fun s s' h hs => h.cwd ▸ hs) fun _ => ?_
    refine Program.Safe.bind (Q := fun _ _ => True) (mountCurrentHddPartition_returns console)
      ⟨fun _ _ _ _ => trivial⟩ fun _ => ?_
    exact .of_within (getcwd_within.mpr trivial)
  | none => exact .ret _

/-- The initialisation comes back when the working directory can be split. -/
theorem initOnlyBootPs2FilesystemDriver_returns (console : Console) {s : Machine}
    (h : mountable s.cwd) :
    ∃ r, initOnlyBootPs2FilesystemDriver.run console.step s = some r := by
  have hsafe : Program.Safe console.step (fun s => mountable s.cwd)
      initOnlyBootPs2FilesystemDriver fun op _ => op.comesBack := by
    have hkeep {α : Type} {p : DriverM α} (hp : p.Within DriverOp.keepsFiles) :
        Program.Triple console.step (fun s => mountable s.cwd) p fun _ s => mountable s.cwd :=
      Program.Triple.keepsFiles hp fun s s' h hs => h.cwd ▸ hs
    refine Program.Safe.bind (.of_within (getcwd_within.mpr trivial))
      (hkeep (getcwd_within.mpr trivial)) fun cwd => ?_
    refine Program.Safe.bind
      (.of_within (initFileXioDriver_within.mono DriverOp.bringsUp.comesBack))
      (hkeep (initFileXioDriver_within.mono DriverOp.bringsUp.keepsFiles)) fun _ => ?_
    refine Program.Safe.bind (Q := fun _ _ => True) (initBootGroup_returns cwd _)
      ⟨fun _ _ _ _ => trivial⟩ fun cwd' => .of_within ?_
    exact Program.Within.bind (waitUntilDeviceIsReady_within (fun _ => trivial) cwd') fun _ =>
      Program.within_pure _
  exact hsafe.returns (fun op s hop => DriverOp.comesBack.step console op hop s) s h

/-! ## 4. What is left -/

section

variable {console : Console} {cwd : Bytes} {w : World} {s₁ s₂ : Machine}

theorem Machine.initial_fresh (hw : w.Valid) (m : Irx) :
    Fresh console m (Machine.initial cwd w) (Machine.initial cwd w) :=
  ⟨hw, rfl, rfl, rfl⟩

/-- Where every first module fails, only the modules of fileXio may be loaded. -/
theorem initOnlyBootPs2FilesystemDriver_stops (hw : w.Valid)
    (hstop : ∀ m ∈ (getBootDeviceID (some cwd)).group.firstModules,
      (Machine.initial cwd w).wouldStart console m = false)
    (hinit : initOnlyBootPs2FilesystemDriver.run console.step (Machine.initial cwd w) =
      some ((), s₁)) : s₁.LoadedIn [.iomanX, .fileXio] ∧ NothingMounted s₁ := by
  have hkeep {α : Type} {p : DriverM α}
      (hloads : p.Within (DriverOp.loadsIn [.iomanX, .fileXio]))
      (hfiles : p.Within DriverOp.keepsFiles) : Program.Triple console.step
        (fun s => s.LoadedIn [.iomanX, .fileXio] ∧ NothingMounted s) p
        fun _ s => s.LoadedIn [.iomanX, .fileXio] ∧ NothingMounted s :=
    (Program.Triple.keepsLoadedIn hloads).and (Program.Triple.keepsNothingMounted hfiles)
  -- fileXio is initialised before the boot group, whose first modules it leaves alone
  have hfresh : Program.Triple console.step
      (fun s => ∀ m ∈ (getBootDeviceID (some cwd)).group.firstModules,
        Fresh console m (Machine.initial cwd w) s) initFileXioDriver
      fun _ s => ∀ m ∈ (getBootDeviceID (some cwd)).group.firstModules,
        Fresh console m (Machine.initial cwd w) s := by
    constructor
    intro s hs r hr m hm
    have hspares := DriverOp.bringsUp.spares (BootGroup.firstModules_spared _ m hm)
    exact (Program.Triple.keepsFresh (initFileXioDriver_within.mono hspares)).holds s (hs m hm) r hr
  have hfileXio := hfresh.and (hkeep (initFileXioDriver_within.mono DriverOp.bringsUp.loadsIn)
    (initFileXioDriver_within.mono DriverOp.bringsUp.keepsFiles))
  have hwait (path : Bytes) := hkeep
    (waitUntilDeviceIsReady_within (fun _ => trivial) path)
    (waitUntilDeviceIsReady_within (fun _ => rfl) path)
  exact (initOnlyBootPs2FilesystemDriver_triple hfileXio (initBootGroup_stops cwd _ _ hstop)
    hwait).holds _ ⟨rfl, fun m _ => Machine.initial_fresh hw m, Machine.initial_loadedIn _ cwd w,
      fun _ => rfl⟩ _ hinit

/-- A first module that can be executed is started. -/
theorem initOnlyBootPs2FilesystemDriver_starts (hw : w.Valid) {m : Irx}
    (hm : m ∈ (getBootDeviceID (some cwd)).group.firstModules)
    (hstart : (Machine.initial cwd w).wouldStart console m = true)
    (hinit : initOnlyBootPs2FilesystemDriver.run console.step (Machine.initial cwd w) =
      some ((), s₁)) : s₁.Started [m] := by
  have hspares := DriverOp.bringsUp.spares (BootGroup.firstModules_spared _ m hm)
  have hwait (path : Bytes) : Program.Triple console.step (Machine.Started [m])
      (waitUntilDeviceIsReady path) fun _ => Machine.Started [m] :=
    Program.Triple.staysStarted [m] (waitUntilDeviceIsReady_within (fun _ => trivial) path)
  exact (initOnlyBootPs2FilesystemDriver_triple
    (Program.Triple.keepsFresh (initFileXioDriver_within.mono hspares))
    (initBootGroup_starts cwd _ hm hstart) hwait).holds _ ⟨rfl, Machine.initial_fresh hw m⟩ _ hinit

/-- The teardown of fileXio unloads its own modules, and no other ones. -/
theorem deinitFileXioDriver_clears (hdoc : console.Documented) (hunload : s₁.Unloadable)
    (hleft : s₁.LoadedIn [.iomanX, .fileXio] ∧ NothingMounted s₁)
    (hdeinit : deinitFileXioDriver.run console.step s₁ = some ((), s₂)) :
    s₂.LoadedIn [] ∧ NothingMounted s₂ := by
  have hout := (deinitFileXioDriver_deinit.unloads console hdoc _).holds _
    ⟨hunload, hleft.1⟩ _ hdeinit
  refine ⟨hout.2.mono (by decide), ?_⟩
  exact (Program.Triple.keepsNothingMounted (deinitFileXioDriver_deinit.within.mono
    DriverOp.tearsDown.keepsFiles)).holds _ hleft.2 _ hdeinit

theorem deinitFileXioDriver_leaves {m : Irx} (hm : m ∉ [Irx.iomanX, .fileXio])
    (hup : s₁.Started [m]) (hdeinit : deinitFileXioDriver.run console.step s₁ = some ((), s₂)) :
    s₂.Started [m] := by
  have hleaves : deinitFileXioDriver.Within (DriverOp.leaves [m]) :=
    deinitFileXioDriver_deinit.within.mono fun op hop =>
      DriverOp.spares.leaves op (DriverOp.tearsDown.spares
        (fun hin => hm (by simpa [or_comm] using hin)) op hop)
  exact (Program.Triple.staysStarted [m] hleaves).holds _ hup _ hdeinit

end

/-- After initialisation and teardown nothing is loaded and nothing mounted, exactly when every
driver of the boot group failed with its first module. -/
theorem deinitOnlyBootPs2FilesystemDriver_undoes {console : Console} (hdoc : console.Documented)
    (cwd : Bytes) (steps : List (Env × ProviderOp)) {s₁ : Machine}
    (hinit : initOnlyBootPs2FilesystemDriver.run console.step
      (Machine.initial cwd (runProvider irxId steps World.initial)) = some ((), s₁)) :
    ∃ s₂, deinitOnlyBootPs2FilesystemDriver.run console.step s₁ = some ((), s₂) ∧
      (((∀ m, loaded m s₂.trace = false) ∧ ∀ mountpoint, mounted mountpoint s₂.trace = false) ↔
        ∀ m ∈ (getBootDeviceID (some cwd)).group.firstModules,
          (Machine.initial cwd (runProvider irxId steps World.initial)).wouldStart console m =
            false) := by
  have hworld := runProvider_valid irxId steps World.initial_valid
  generalize runProvider irxId steps World.initial = w at hinit hworld
  have hboot : s₁.bootDeviceId = .unknown := run_bootDeviceId hinit
  rw [deinitOnlyBootPs2FilesystemDriver_run console hboot]
  obtain ⟨⟨u, s₂⟩, hdeinit⟩ := Program.run_returns
    (deinitFileXioDriver_deinit.within.mono DriverOp.tearsDown.returns)
    (fun op hop s => DriverOp.returns.step hdoc.dev9Off hdoc.patient op hop s) s₁
  have htracked : s₂.Tracked :=
    run_tracked console (run_tracked console (Machine.initial_tracked cwd w) hinit) hdeinit
  refine ⟨s₂, hdeinit, ?_⟩
  by_cases hstop : ∀ m ∈ (getBootDeviceID (some cwd)).group.firstModules,
      (Machine.initial cwd w).wouldStart console m = false
  · -- only fileXio may be loaded, and it is unloaded
    have hunload : s₁.Unloadable := (Program.Triple.keepsUnloadable hdoc _).holds _
      (Machine.initial_unloadable cwd w) _ hinit
    have hleft := initOnlyBootPs2FilesystemDriver_stops hworld hstop hinit
    obtain ⟨hout, hnone⟩ := deinitFileXioDriver_clears hdoc hunload hleft hdeinit
    refine iff_of_true ⟨fun m => ?_, hnone⟩ hstop
    rw [htracked m, Bool.not_eq_false']
    by_contra herr
    exact absurd (hout m (Bool.eq_false_of_not_eq_true herr)) List.not_mem_nil
  · -- a first module that is loaded stays loaded
    refine iff_of_false (fun hundone => ?_) hstop
    simp only [not_forall, Bool.not_eq_false] at hstop
    obtain ⟨m, hm, hstart⟩ := hstop
    have hup : s₁.Started [m] := initOnlyBootPs2FilesystemDriver_starts hworld hm hstart hinit
    have hstill : s₂.Started [m] :=
      deinitFileXioDriver_leaves (BootGroup.firstModules_spared _ m hm) hup hdeinit
    have hdown := hundone.1 m
    rw [htracked, hstill m (List.mem_singleton_self m)] at hdown
    cases hdown

/-- `sio2man` returns an error when it is started. -/
def noSio2Console : Console :=
  { Console.ready with exec := fun m _ => if m = .sio2man then (-1, 1) else (7, 0) }

theorem noSio2Console_documented : noSio2Console.Documented where
  result m _ := by
    by_cases hm : m = .sio2man
    · exact .inr (.inl (by simp [noSio2Console, hm]))
    · exact .inl (by simp [noSio2Console, hm])
  dev9Off := Console.ready_documented.dev9Off
  patient := Console.ready_documented.patient

/-- Nothing is left where the only first module fails; where one of two starts, it stays. -/
theorem deinitOnlyBootPs2FilesystemDriver_undoes_noSio2 :
    (∃ s₁, initOnlyBootPs2FilesystemDriver.run noSio2Console.step
        (Machine.initial (lit "mc0:/APP") World.initial) = some ((), s₁) ∧
      ∃ s₂, deinitOnlyBootPs2FilesystemDriver.run noSio2Console.step s₁ = some ((), s₂) ∧
        (∀ m, loaded m s₂.trace = false) ∧ ∀ mountpoint, mounted mountpoint s₂.trace = false) ∧
    ∃ s₁, initOnlyBootPs2FilesystemDriver.run noSio2Console.step
        (Machine.initial (lit "mass:/APP") World.initial) = some ((), s₁) ∧
      ∃ s₂, deinitOnlyBootPs2FilesystemDriver.run noSio2Console.step s₁ = some ((), s₂) ∧
        ¬ ((∀ m, loaded m s₂.trace = false) ∧
          ∀ mountpoint, mounted mountpoint s₂.trace = false) := by
  constructor
  · obtain ⟨⟨u, s₁⟩, hinit⟩ := initOnlyBootPs2FilesystemDriver_returns noSio2Console
      (s := Machine.initial (lit "mc0:/APP") World.initial) (by decide)
    obtain ⟨s₂, hdeinit, hundone⟩ :=
      deinitOnlyBootPs2FilesystemDriver_undoes noSio2Console_documented _ [] hinit
    exact ⟨s₁, hinit, s₂, hdeinit, hundone.mpr (by decide)⟩
  · obtain ⟨⟨u, s₁⟩, hinit⟩ := initOnlyBootPs2FilesystemDriver_returns noSio2Console
      (s := Machine.initial (lit "mass:/APP") World.initial) (by decide)
    obtain ⟨s₂, hdeinit, hundone⟩ :=
      deinitOnlyBootPs2FilesystemDriver_undoes noSio2Console_documented _ [] hinit
    exact ⟨s₁, hinit, s₂, hdeinit, hundone.not.mpr (by decide)⟩

/-- Booted from a memory card, the teardown leaves the modules of the memory card loaded. -/
theorem deinitOnlyBootPs2FilesystemDriver_leaves_sio2man :
    ¬ ∀ (console : Console), console.Documented → ∀ (cwd : Bytes) (steps : List (Env × ProviderOp))
        (s₁ s₂ : Machine),
      initOnlyBootPs2FilesystemDriver.run console.step
        (Machine.initial cwd (runProvider irxId steps World.initial)) = some ((), s₁) →
      deinitOnlyBootPs2FilesystemDriver.run console.step s₁ = some ((), s₂) →
      (∀ m, loaded m s₂.trace = false) ∧ ∀ mountpoint, mounted mountpoint s₂.trace = false := by
  intro h
  have hrun : ((initOnlyBootPs2FilesystemDriver.run Console.ready.step
      (Machine.initial (lit "mc0:/APP") World.initial)).bind fun r =>
        deinitOnlyBootPs2FilesystemDriver.run Console.ready.step r.2).map
          (fun r => loaded .sio2man r.2.trace) = some true := by
    decide +kernel
  obtain ⟨r₂, hruns, hloaded⟩ := Option.map_eq_some_iff.mp hrun
  obtain ⟨r₁, hinit, hdeinit⟩ := Option.bind_eq_some_iff.mp hruns
  have hundone := h Console.ready Console.ready_documented _ [] r₁.2 r₂.2 hinit hdeinit
  rw [hundone.1] at hloaded
  cases hloaded

end Ps2Drivers
