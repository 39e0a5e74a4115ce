import Ps2Drivers.Drivers.Contents

/-!
# What the sample programs leave behind

The programs under `samples/` that bring drivers up and take them down again, as the calls they
make, and the modules that are still loaded when they end.
-/

open Binary CString

namespace Ps2Drivers

/-! ## 1. A list of calls -/

namespace AppCall

def asksCwd : AppCall → Bool
  | .driver (.init .hdd _ onlyIfBootedFromHdd) => onlyIfBootedFromHdd
  | .driver .initFilesystem | .driver .initOnlyBootFilesystem => true
  | _ => false

def staysPut : AppCall → Bool
  | .driver (.init _ _ _) | .driver (.deinit _ _) => true
  | _ => false

theorem staysPut.keepsFiles {call : AppCall} (h : call.staysPut = true) :
    call.run.Within DriverOp.keepsFiles := by
  cases call with
  | driver call =>
    cases call with
    | init d deps only => exact initDriver_keepsFiles d deps only
    | deinit d deps =>
      have hdeinit := (deinitDriver_deinit deps d).within.mono DriverOp.tearsDown.keepsFiles
      exact Program.Within.bind hdeinit fun _ => Program.within_pure 0
    | _ => cases h
  | _ => cases h

end AppCall

/-- No call asks for the working directory after one that may have changed it. -/
def asksBeforeMoving : List AppCall → Bool
  | [] => true
  | call :: calls => if call.staysPut then asksBeforeMoving calls else calls.all (!·.asksCwd)

section

variable {console : Console} {R : Finset Irx → Machine → Prop} (hR : FollowsDrivers console R)
  {calls : List AppCall}

include hR

end

/-! ## 2. The samples -/

/-- The samples that take down what they have brought up; a path is one the program works out when
it runs. -/
inductive Sample
  | alldrivers
  | alldriversVerbose
  | basicElfLoader (elfPath : Bytes)
  | filesystem
  | hdd
  | listdir (cwd : Bytes)
  | poweroff
  | showiopinfo
  deriving DecidableEq, Repr

def alldriversCalls : List AppCall :=
  [.driver (.init .fileXio false false), .driver (.init .memcard true false),
    .driver (.init .usb true false), .driver (.init .cdfs false false),
    .driver (.init .joystick true false), .driver (.init .audio false false),
    .driver (.init .poweroff false false), .driver (.init .hdd true true),
    .driver (.deinit .poweroff false), .driver (.deinit .audio false),
    .driver (.deinit .joystick false), .driver (.deinit .usb false), .driver (.deinit .cdfs false),
    .driver (.deinit .memcard true), .driver (.deinit .hdd false), .driver (.deinit .fileXio false)]

/-- The driver calls of `main`, in order. -/
def Sample.calls : Sample → List AppCall
  | .alldrivers | .alldriversVerbose => alldriversCalls
  | .basicElfLoader elfPath =>
    [.driver .initFilesystem, .waitUntilDeviceIsReady elfPath, .driver .deinitFilesystem]
  | .filesystem => [.driver .initOnlyBootFilesystem, .driver .deinitOnlyBootFilesystem]
  | .hdd =>
    [.driver (.init .hdd true true), .mountCurrentHddPartition, .umountCurrentHddPartition,
      .driver (.deinit .hdd true)]
  | .listdir cwd =>
    [.driver (.init .poweroff false false), .driver (.init .fileXio false false),
      .driver (.init .memcard true false), .driver (.init .usb true false),
      .driver (.init .hdd false false), .mountCurrentHddPartition, .waitUntilDeviceIsReady cwd,
      .umountCurrentHddPartition, .driver (.deinit .hdd false), .driver (.deinit .usb true),
      .driver (.deinit .memcard true), .driver (.deinit .fileXio false),
      .driver (.deinit .poweroff false)]
  | .poweroff => [.driver (.init .poweroff false false), .driver (.deinit .poweroff false)]
  | .showiopinfo =>
    [.driver .initFilesystem, .driver (.init .audio false false), .driver (.deinit .audio false),
      .driver .deinitFilesystem]

/-- The modules no call of the sample has unloaded when it ends, started in `cwd`. -/
def Sample.leaves (cwd : Bytes) : Sample → Finset Irx
  | .alldrivers | .alldriversVerbose =>
    {.usbd, .bdm, .bdmfsFatfs} ∪ if hddPath cwd then {.ps2dev9} else ∅
  | .basicElfLoader _ | .showiopinfo => {.mx4sioBd}
  | .filesystem =>
    match (getBootDeviceID (some cwd)).group with
    | .memcard => {.sio2man, .mcman, .mcserv}
    | .cdfs => {.cdfs}
    | .mass => {.bdm, .bdmfsFatfs, .usbd, .usbmassBd, .sio2man, .mx4sioBd}
    | .hdd => {.poweroff, .ps2dev9, .ps2atad, .ps2hdd, .ps2fs}
    | .none => ∅
  | .hdd | .listdir _ | .poweroff => ∅

theorem Sample.asksBeforeMoving (sample : Sample) : asksBeforeMoving sample.calls = true := by
  cases sample <;> rfl

end Ps2Drivers
