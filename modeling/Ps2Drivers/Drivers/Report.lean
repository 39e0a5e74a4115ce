import Ps2Drivers.Drivers.Init

/-!
# What a status reports

The specification of each `init_x_driver`: the modules it is responsible for, and that a
non-negative status takes all of them over.
-/

open Binary CString

namespace Ps2Drivers

/-! ## 1. The drivers -/

structure Console.LibrariesSucceed (console : Console) : Prop where
  poweroffInit : ∀ past, console.lib .poweroffInit past = 0
  mtapInit : ∀ past, console.lib .mtapInit past = 1
  padInit : ∀ past, console.lib .padInit past = 1
  audsrvInit : ∀ past, console.lib .audsrvInit past = 0
  ps2MouseInit : ∀ past, 0 ≤ console.lib .ps2MouseInit past
  ps2KbdInit : ∀ past, 0 ≤ console.lib .ps2KbdInit past
  ps2CamInit : ∀ past, 0 ≤ console.lib .ps2CamInit past
  netManInit : ∀ past, console.lib .netManInit past = 0
  ps2ipInit : ∀ past, console.lib .ps2ipInit past = 0

def Console.Serves (d : Driver) (console : Console) : Prop :=
  match d with
  | .mx4sio => console.cop2Pipelined = true
  | .hdd => ∀ past, 0 ≤ console.lib hddStatus past ∧ console.lib hddStatus past < 3
  | _ => console.LibrariesSucceed

section

variable (G : Console → Prop) (deps : Bool)

theorem initSio2manDriver_spec :
    DriverSpec G [.sio2man] Sio2manInitStatus.ok initSio2manDriver :=
  returnStatus_spec _ (loadIRXs_spec (pure_spec _ _) (by decide) rfl)

theorem initBdmDriver_spec : DriverSpec G [.bdm, .bdmfsFatfs] BdmInitStatus.ok initBdmDriver :=
  returnStatus_spec _ (loadIRXs_spec (pure_spec _ _) (by decide) rfl)

theorem initUsbdDriver_spec : DriverSpec G [.usbd] UsbdInitStatus.ok initUsbdDriver :=
  returnStatus_spec _ (loadIRXs_spec (pure_spec _ _) (by decide) rfl)

theorem initDev9Driver_spec : DriverSpec G [.ps2dev9] Dev9InitStatus.ok initDev9Driver :=
  returnStatus_spec _ (loadIRXs_spec (pure_spec _ _) (by decide) rfl)

theorem initSmapDriver_spec : DriverSpec G [.smap] SmapInitStatus.ok initSmapDriver :=
  returnStatus_spec _ (loadIRXs_spec (pure_spec _ _) (by decide) rfl)

theorem initCdfsDriver_spec : DriverSpec G [.cdfs] CdfsInitStatus.irxOk initCdfsDriver :=
  returnStatus_spec _ (loadIRXs_spec (pure_spec _ _) (by decide) rfl)

theorem initFileXioDriver_spec :
    DriverSpec G [.iomanX, .fileXio] FileXioInitStatus.ok initFileXioDriver :=
  withLibraries_spec _ (loadIRXs_spec (pure_spec _ _) (by decide) rfl) (by decide)
    (lib_spec _ (by rfl) (pure_spec _ _))

theorem initNetmanDriver_spec :
    DriverSpec Console.LibrariesSucceed [.netman] NetmanInitStatus.ok initNetmanDriver :=
  withLibraries_spec _ (loadIRXs_spec (pure_spec _ _) (by decide) rfl) (by decide)
    (libCheck_spec _ (by rfl) (fun _ h past => not_not.mpr (h.netManInit past)) (by decide)
      (pure_spec _ _))

theorem initPoweroffDriver_spec :
    DriverSpec Console.LibrariesSucceed [.poweroff] PoweroffInitStatus.ok initPoweroffDriver :=
  withLibraries_spec _ (loadIRXs_spec (pure_spec _ _) (by decide) rfl) (by decide)
    (libCheck_spec _ (by rfl) (fun _ h past => not_not.mpr (h.poweroffInit past)) (by decide)
      (pure_spec _ _))

theorem initAudioDriver_spec :
    DriverSpec Console.LibrariesSucceed [.libsd, .audsrv] AudioInitStatus.ok initAudioDriver :=
  withLibraries_spec _ (loadIRXs_spec (pure_spec _ _) (by decide) rfl) (by decide)
    (libCheck_spec _ (by rfl) (fun _ h past => not_not.mpr (h.audsrvInit past)) (by decide)
      (pure_spec _ _))

theorem initMemcardDriver_spec :
    DriverSpec G ((if deps then [.sio2man] else []) ++ [.mcman, .mcserv]) MemcardInitStatus.irxOk
      (initMemcardDriver deps) :=
  withDependency_spec _ (initSio2manDriver_spec G) isNegative_eq_false rfl
    (pure_fails (by decide)) <|
  returnStatus_spec _ (loadIRXs_spec (pure_spec _ _) (by decide) rfl)

theorem initUsbDriver_spec :
    DriverSpec G ((if deps then [.bdm, .bdmfsFatfs] else []) ++
        ((if deps then [.usbd] else []) ++ [.usbmassBd])) UsbInitStatus.irxOk
      (initUsbDriver deps) :=
  withDependency_spec _ (initBdmDriver_spec G) isNegative_eq_false rfl
    (pure_fails (by decide)) <|
  withDependency_spec _ (initUsbdDriver_spec G) isNegative_eq_false rfl
    (pure_fails (by decide)) <|
  returnStatus_spec _ (loadIRXs_spec (pure_spec _ _) (by decide) rfl)

theorem isCOP2Pipelined_result {console : Console} (h : console.cop2Pipelined = true) :
    Program.Triple console.step (fun _ => True) isCOP2Pipelined fun result _ =>
      ¬ (!result) = true := by
  refine Program.Triple.of_run (isCOP2Pipelined_run console) fun s _ => ?_
  rw [h]
  exact Bool.false_ne_true

theorem initMx4sioDriver_spec :
    DriverSpec (Console.Serves .mx4sio) ((if deps then [.sio2man] else []) ++
        ((if deps then [.bdm, .bdmfsFatfs] else []) ++ [.mx4sioBd])) Mx4sioInitStatus.ok
      (initMx4sioDriver deps) :=
  withDependency_spec _ (initSio2manDriver_spec _) isNegative_eq_false rfl
    (pure_fails (by decide)) <|
  withDependency_spec _ (initBdmDriver_spec _) isNegative_eq_false rfl
    (pure_fails (by decide)) <|
  returnStatus_spec _ <|
  check_spec (isCOP2Pipelined_within.mpr trivial) (fun _ h => isCOP2Pipelined_result h)
    (pure_fails (by decide)) (loadIRXs_spec (pure_spec _ _) (by decide) rfl)

theorem bne_zero_eq_false (status : Int) (h : (status != 0) = false) : 0 ≤ status :=
  (bne_eq_false_iff_eq.mp h).ge

theorem initJoystickDriver_spec :
    DriverSpec Console.LibrariesSucceed ((if deps then [.sio2man] else []) ++ [.mtapman, .padman])
      JoystickInitStatus.ok (initJoystickDriver deps) :=
  withDependency_spec _ (initSio2manDriver_spec _) bne_zero_eq_false rfl
    (pure_fails (by decide)) <|
  withLibraries_spec _ (loadIRXs_spec (pure_spec _ _) (by decide) rfl) (by decide) <|
  libCheck_spec _ (by rfl) (fun _ h past => not_not.mpr (h.mtapInit past)) (by decide) <|
  libCheck_spec _ (by rfl) (fun _ h past => not_not.mpr (h.padInit past)) (by decide)
    (pure_spec _ _)

theorem initMouseDriver_spec :
    DriverSpec Console.LibrariesSucceed ((if deps then [.usbd] else []) ++ [.ps2mouse])
      MouseInitStatus.ok (initMouseDriver deps) :=
  withLibraries_spec _ (withDependency_spec _ (initUsbdDriver_spec _) isNegative_eq_false rfl
    (pure_fails (by decide)) (loadIRXs_spec (pure_spec _ _) (by decide) rfl)) (by decide) <|
  libCheck_spec _ (by rfl) (fun _ h past hneg => (h.ps2MouseInit past).not_gt hneg)
    (by decide) <|
  lib_spec _ (by rfl) (pure_spec _ _)

theorem initKeyboardDriver_spec :
    DriverSpec Console.LibrariesSucceed ((if deps then [.usbd] else []) ++ [.ps2kbd])
      KeyboardInitStatus.ok (initKeyboardDriver deps) :=
  withLibraries_spec _ (withDependency_spec _ (initUsbdDriver_spec _) isNegative_eq_false rfl
    (pure_fails (by decide)) (loadIRXs_spec (pure_spec _ _) (by decide) rfl)) (by decide) <|
  libCheck_spec _ (by rfl) (fun _ h past hneg => (h.ps2KbdInit past).not_gt hneg) (by decide)
    (pure_spec _ _)

theorem initCameraDriver_spec :
    DriverSpec Console.LibrariesSucceed ((if deps then [.usbd] else []) ++ [.ps2cam])
      CameraInitStatus.ok (initCameraDriver deps) :=
  withLibraries_spec _ (withDependency_spec _ (initUsbdDriver_spec _) isNegative_eq_false rfl
    (pure_fails (by decide)) (loadIRXs_spec (pure_spec _ _) (by decide) rfl)) (by decide) <|
  libCheck_spec _ (by rfl) (fun _ h past hneg => (h.ps2CamInit past).not_gt hneg) (by decide)
    (pure_spec _ _)

theorem withNetwork_spec {e : Int} (he : e < 0) {ms : List Irx} {ok : Int} {p : DriverM Int}
    (hp : DriverSpec Console.LibrariesSucceed ms ok p) :
    DriverSpec Console.LibrariesSucceed ((if deps then [.ps2dev9] else []) ++
        ((if deps then [.netman] else []) ++ ((if deps then [.smap] else []) ++ ms)))
      ok (withNetwork deps e p) :=
  withDependency_spec _ (initDev9Driver_spec _) bne_zero_eq_false rfl (pure_fails he) <|
  withDependency_spec _ initNetmanDriver_spec bne_zero_eq_false rfl (pure_fails he) <|
  withDependency_spec _ (initSmapDriver_spec _) bne_zero_eq_false rfl (pure_fails he) hp

theorem initEeipDriver_spec :
    DriverSpec Console.LibrariesSucceed ((if deps then [.ps2dev9] else []) ++
        ((if deps then [.netman] else []) ++ ((if deps then [.smap] else []) ++ [])))
      EeipInitStatus.ok (initEeipDriver deps) :=
  withNetwork_spec _ (by decide) <|
  returnStatus_spec _ (loadIRXs_spec (pure_spec _ _) (by decide) rfl)

theorem initIopipDriver_spec :
    DriverSpec Console.LibrariesSucceed ((if deps then [.ps2dev9] else []) ++
        ((if deps then [.netman] else []) ++
          ((if deps then [.smap] else []) ++ [.ps2ipNm, .ps2ips])))
      IopipInitStatus.ok (initIopipDriver deps) :=
  withNetwork_spec _ (by decide) <|
  withLibraries_spec _ (loadIRXs_spec (pure_spec _ _) (by decide) rfl) (by decide) <|
  libCheck_spec _ (by rfl) (fun _ h past => not_not.mpr (h.ps2ipInit past)) (by decide)
    (pure_spec _ _)

theorem hddCheck_within : hddCheck.Within (DriverOp.bringsUp []) :=
  Program.Within.bind (lib_within.mpr rfl) fun _ =>
    Program.within_ite (Program.within_pure _) (Program.within_pure _)

theorem hddCheck_ready {console : Console}
    (hready : ∀ past, 0 ≤ console.lib hddStatus past ∧ console.lib hddStatus past < 3) :
    Program.Triple console.step (fun _ => True) hddCheck fun ret _ => ¬ ret < 0 := by
  refine Program.Triple.bind (R := fun ret _ => 0 ≤ ret ∧ ret < 3) (lib_result hddStatus hready)
    fun ret => ?_
  apply Program.Triple.of_fact
  intro hret
  rw [if_neg (by omega)]
  exact Program.Triple.ret fun _ _ => Int.not_lt.mpr hret.1

theorem hddDependencyError_fails : FailSpec hddDependencyError :=
  returnStatus_fails _ (by decide)

theorem loadHddIRXs_spec :
    DriverSpec (Console.Serves .hdd) [.ps2atad, .ps2hdd, .ps2fs] HddInitStatus.irxOk loadHddIRXs :=
  loadIRXs_spec (check_spec hddCheck_within (fun _ h => hddCheck_ready h)
    (pure_fails (by decide)) (loadIRXs_spec (pure_spec _ _) (by decide) rfl)) (by decide) rfl

theorem initHdd_spec :
    DriverSpec (Console.Serves .hdd) ((if deps then [.iomanX, .fileXio] else []) ++
        ((if deps then [.ps2dev9] else []) ++
          ((if deps then [.bdm, .bdmfsFatfs] else []) ++ [.ps2atad, .ps2hdd, .ps2fs])))
      HddInitStatus.irxOk (initHdd deps) :=
  withDependency_spec _ (initFileXioDriver_spec _) bne_zero_eq_false rfl
    hddDependencyError_fails <|
  withDependency_spec _ (initDev9Driver_spec _) bne_zero_eq_false rfl hddDependencyError_fails <|
  withDependency_spec _ (initBdmDriver_spec _) bne_zero_eq_false rfl hddDependencyError_fails <|
  returnStatus_spec _ loadHddIRXs_spec

end

/-! ## 2. What a driver is responsible for -/

def Driver.ownModules : Driver → List Irx
  | .sio2man => [.sio2man]
  | .fileXio => [.iomanX, .fileXio]
  | .memcard => [.mcman, .mcserv]
  | .bdm => [.bdm, .bdmfsFatfs]
  | .usbd => [.usbd]
  | .usb => [.usbmassBd]
  | .mx4sio => [.mx4sioBd]
  | .cdfs => [.cdfs]
  | .dev9 => [.ps2dev9]
  | .hdd => [.ps2atad, .ps2hdd, .ps2fs]
  | .joystick => [.mtapman, .padman]
  | .audio => [.libsd, .audsrv]
  | .poweroff => [.poweroff]
  | .mouse => [.ps2mouse]
  | .keyboard => [.ps2kbd]
  | .camera => [.ps2cam]
  | .netman => [.netman]
  | .smap => [.smap]
  | .eeip => []
  | .iopip => [.ps2ipNm, .ps2ips]

def Driver.dependencies : Driver → List Driver
  | .memcard | .joystick => [.sio2man]
  | .usb => [.bdm, .usbd]
  | .mx4sio => [.sio2man, .bdm]
  | .hdd => [.fileXio, .dev9, .bdm]
  | .mouse | .keyboard | .camera => [.usbd]
  | .eeip | .iopip => [.dev9, .netman, .smap]
  | _ => []

def Driver.responsible (d : Driver) (initDependencies : Bool) : List Irx :=
  (if initDependencies then d.dependencies.flatMap Driver.ownModules else []) ++ d.ownModules

/-- The modules a requirement stages are the ones the driver may load. -/
theorem Driver.mem_responsible (d : Driver) (m : Irx) :
    m ∈ d.responsible true ↔ m ∈ d.modules := by
  have hsub : d.responsible true ⊆ d.modules := by cases d <;> decide
  have hsup : d.modules ⊆ d.responsible true := by cases d <;> decide
  exact ⟨fun hm => hsub hm, fun hm => hsup hm⟩

theorem Driver.responsible_subset (d : Driver) (initDependencies : Bool) :
    d.responsible initDependencies ⊆ d.responsible true := by
  cases initDependencies with
  | false => exact List.subset_append_right _ _
  | true => exact List.Subset.refl _

def Driver.okStatus : Driver → Int
  | .memcard => MemcardInitStatus.irxOk
  | .usb => UsbInitStatus.irxOk
  | _ => 0

theorem initDriver_passes (d : Driver) (deps : Bool) :
    DriverSpec (Console.Serves d) (d.responsible deps) d.okStatus (initDriver d deps false) := by
  cases d with
  | sio2man => cases deps <;> exact initSio2manDriver_spec _
  | fileXio => cases deps <;> exact initFileXioDriver_spec _
  -- where a driver has dependencies, the flag decides about their modules
  | memcard =>
    have hspec := initMemcardDriver_spec (Console.Serves .memcard) deps
    cases deps <;> exact hspec
  | bdm => cases deps <;> exact initBdmDriver_spec _
  | usbd => cases deps <;> exact initUsbdDriver_spec _
  | usb =>
    have hspec := initUsbDriver_spec (Console.Serves .usb) deps
    cases deps <;> exact hspec
  | mx4sio =>
    have hspec := initMx4sioDriver_spec deps
    cases deps <;> exact hspec
  | cdfs => cases deps <;> exact initCdfsDriver_spec _
  | dev9 => cases deps <;> exact initDev9Driver_spec _
  | hdd =>
    have hspec := initHdd_spec deps
    cases deps <;> exact hspec
  | joystick =>
    have hspec := initJoystickDriver_spec deps
    cases deps <;> exact hspec
  | audio => cases deps <;> exact initAudioDriver_spec
  | poweroff => cases deps <;> exact initPoweroffDriver_spec
  | mouse =>
    have hspec := initMouseDriver_spec deps
    cases deps <;> exact hspec
  | keyboard =>
    have hspec := initKeyboardDriver_spec deps
    cases deps <;> exact hspec
  | camera =>
    have hspec := initCameraDriver_spec deps
    cases deps <;> exact hspec
  | netman => cases deps <;> exact initNetmanDriver_spec
  | smap => cases deps <;> exact initSmapDriver_spec _
  | eeip =>
    have hspec := initEeipDriver_spec deps
    cases deps <;> exact hspec
  | iopip =>
    have hspec := initIopipDriver_spec deps
    cases deps <;> exact hspec

theorem Driver.okStatus_nonneg (d : Driver) : 0 ≤ d.okStatus := by
  cases d <;> decide

theorem Console.AllSucceed.libraries {console : Console} (h : console.AllSucceed) :
    console.LibrariesSucceed where
  poweroffInit := h.poweroffInit
  mtapInit := h.mtapInit
  padInit := h.padInit
  audsrvInit := h.audsrvInit
  ps2MouseInit := h.ps2MouseInit
  ps2KbdInit := h.ps2KbdInit
  ps2CamInit := h.ps2CamInit
  netManInit := h.netManInit
  ps2ipInit := h.ps2ipInit

theorem Console.AllSucceed.serves {console : Console} (h : console.AllSucceed) (d : Driver) :
    console.Serves d := by
  cases d with
  | mx4sio => exact h.pipelined
  | hdd => exact h.hddStatus
  | _ => exact h.libraries

theorem initDriver_spec (d : Driver) (initDependencies : Bool) :
    InitSpec (d.responsible initDependencies) d.okStatus (initDriver d initDependencies false) :=
  (initDriver_passes d initDependencies).initSpec d.okStatus_nonneg fun _ h => h.serves d

theorem cwdIsHdd_within : cwdIsHdd.Within (DriverOp.bringsUp []) :=
  Program.Within.bind (getcwd_within.mpr trivial) fun _ => Program.within_pure _

/-- Success takes over every module the driver is responsible for. -/
theorem initDriver_takes (d : Driver) (initDependencies onlyIfBootedFromHdd : Bool) :
    TakeSpec (d.responsible initDependencies)
      (initDriver d initDependencies onlyIfBootedFromHdd) := by
  have hspec := (initDriver_passes d initDependencies).toTakeSpec
  cases d
  case hdd =>
    cases onlyIfBootedFromHdd with
    | false => exact hspec
    | true => exact check_takes cwdIsHdd_within (returnStatus_fails _ (by decide)) hspec
  -- the other drivers ignore the flag
  all_goals exact hspec

theorem initDriver_reports (d : Driver) (initDependencies onlyIfBootedFromHdd : Bool) :
    ReportSpec (d.responsible initDependencies)
      (initDriver d initDependencies onlyIfBootedFromHdd) :=
  (initDriver_takes d initDependencies onlyIfBootedFromHdd).reportSpec

end Ps2Drivers
