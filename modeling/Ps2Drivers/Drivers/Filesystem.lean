import Ps2Drivers.Drivers.Hdd

/-!
# The filesystem driver and the public calls

`ps2_filesystem_driver.c` brings up the drivers of every file system, or of the one the program
was booted from, and takes them down again.  `PublicCall` collects what an application can call.
-/

open Binary CString

namespace Ps2Drivers

/-! ## 1. Every file system -/

/-- The loop of `waitUntilDeviceIsReady` with `retries` turns left. -/
def statUntilReady (path : Bytes) : Nat → DriverM Bool
  | 0 => pure false
  | retries + 1 => do
    if (← lib (.stat path)) = 0 then
      pure true
    else
      statUntilReady path retries

def waitUntilDeviceIsReady (path : Bytes) : DriverM Bool := statUntilReady path 500

/-- `init_ps2_filesystem_driver` up to the callback: the drivers it brings up -/
def initFilesystemDrivers : DriverM Unit := do
  let _ ← initPoweroffDriver
  let _ ← initFileXioDriver
  let _ ← initMemcardDriver true
  let _ ← initUsbDriver true
  let _ ← initMx4sioDriver false
  let _ ← initCdfsDriver
  let _ ← initDev9Driver
  let _ ← initHddDriver false true
  pure ()

/-- Mounting, and waiting for the working directory the mount may have changed. -/
def mountAndWait : DriverM Unit := do
  let _ ← mountCurrentHddPartition
  let _ ← waitUntilDeviceIsReady (← getcwd)
  pure ()

def initPs2FilesystemDriver : DriverM Unit := do
  initFilesystemDrivers
  let _ ← lib (.poweroffSetCallback .filesystem)
  mountAndWait

def internalDeinitPs2FilesystemDriver (deinitPowerOff : Bool) : DriverM Unit := do
  deinitHddDriver false
  deinitCdfsDriver
  -- the source initialises mx4sio here
  let _ ← initMx4sioDriver false
  deinitUsbDriver true
  deinitMemcardDriver true
  deinitFileXioDriver
  deinitDev9Driver
  whenEnabled deinitPowerOff deinitPoweroffDriver

def deinitPs2FilesystemDriver : DriverM Unit := do
  umountCurrentHddPartition
  internalDeinitPs2FilesystemDriver true

/-! ## 2. Only the boot device -/

/-- The groups of cases that the three `switch` statements over the boot device share. -/
inductive BootGroup
  | memcard
  | cdfs
  | mass
  | hdd
  | none
  deriving DecidableEq, Repr

def BootDevice.group : BootDevice → BootGroup
  | .mc0 | .mc1 => .memcard
  | .cdrom | .cdfs => .cdfs
  | .mass | .mass0 | .mass1 | .mx4sio | .mx4sio0 | .mx4sio1 => .mass
  | .hdd | .hdd0 => .hdd
  | .host | .host0 | .host1 | .unknown => .none

/-- The `switch` of `init_only_boot_ps2_filesystem_driver`, with the working directory it leaves
in `cwd`. -/
def initBootGroup (cwd : Bytes) : BootGroup → DriverM Bytes
  | .memcard => do
    let _ ← initMemcardDriver true
    pure cwd
  | .cdfs => do
    let _ ← initCdfsDriver
    pure cwd
  | .mass => do
    let _ ← initUsbDriver true
    let _ ← initMx4sioDriver true
    pure cwd
  | .hdd => do
    let _ ← initPoweroffDriver
    let _ ← initDev9Driver
    let _ ← initHddDriver false false
    let _ ← lib (.poweroffSetCallback .onlyBootFilesystem)
    let _ ← mountCurrentHddPartition
    getcwd
  | .none => pure cwd

def initOnlyBootPs2FilesystemDriver : DriverM Unit := do
  let cwd ← getcwd
  let _ ← initFileXioDriver
  let cwd ← initBootGroup cwd (getBootDeviceID (some cwd)).group
  let _ ← waitUntilDeviceIsReady cwd
  pure ()

/-- The `switch` of `__internal_deinit_only_boot_ps2_filesystem_driver`. -/
def deinitBootGroup (deinitPowerOff : Bool) : BootGroup → DriverM Unit
  | .memcard => deinitMemcardDriver true
  | .cdfs => deinitCdfsDriver
  | .mass => do
    deinitUsbDriver true
    deinitMx4sioDriver true
  | .hdd => do
    deinitHddDriver false
    deinitDev9Driver
    whenEnabled deinitPowerOff deinitPoweroffDriver
  | .none => pure ()

/-- `__internal_deinit_only_boot_ps2_filesystem_driver`: `__boot_device_id` is read here and
nowhere assigned -/
def internalDeinitOnlyBootPs2FilesystemDriver (deinitPowerOff : Bool) : DriverM Unit := do
  deinitBootGroup deinitPowerOff (← getBootDeviceId).group
  deinitFileXioDriver

def deinitOnlyBootPs2FilesystemDriver : DriverM Unit := do
  let bootDeviceId ← getBootDeviceId
  if bootDeviceId = .hdd ∨ bootDeviceId = .hdd0 then
    umountCurrentHddPartition
    internalDeinitOnlyBootPs2FilesystemDriver true
  else
    internalDeinitOnlyBootPs2FilesystemDriver true

/-- The two `poweroffHandler` functions. -/
def poweroffHandler : PoweroffHandler → DriverM Unit
  | .filesystem => do
    internalDeinitPs2FilesystemDriver false
    let _ ← lib .poweroffShutdown
    pure ()
  | .onlyBootFilesystem => do
    internalDeinitOnlyBootPs2FilesystemDriver false
    let _ ← lib .poweroffShutdown
    pure ()

/-! ## 3. Public calls -/

/-- `init_x_driver`; a flag the function does not take is ignored. -/
def initDriver (d : Driver) (initDependencies onlyIfBootedFromHdd : Bool) : DriverM Int :=
  match d with
  | .sio2man => initSio2manDriver
  | .fileXio => initFileXioDriver
  | .memcard => initMemcardDriver initDependencies
  | .bdm => initBdmDriver
  | .usbd => initUsbdDriver
  | .usb => initUsbDriver initDependencies
  | .mx4sio => initMx4sioDriver initDependencies
  | .cdfs => initCdfsDriver
  | .dev9 => initDev9Driver
  | .hdd => initHddDriver initDependencies onlyIfBootedFromHdd
  | .joystick => initJoystickDriver initDependencies
  | .audio => initAudioDriver
  | .poweroff => initPoweroffDriver
  | .mouse => initMouseDriver initDependencies
  | .keyboard => initKeyboardDriver initDependencies
  | .camera => initCameraDriver initDependencies
  | .netman => initNetmanDriver
  | .smap => initSmapDriver
  | .eeip => initEeipDriver initDependencies
  | .iopip => initIopipDriver initDependencies

/-- `deinit_x_driver` -/
def deinitDriver (d : Driver) (deinitDependencies : Bool) : DriverM Unit :=
  match d with
  | .sio2man => deinitSio2manDriver
  | .fileXio => deinitFileXioDriver
  | .memcard => deinitMemcardDriver deinitDependencies
  | .bdm => deinitBdmDriver
  | .usbd => deinitUsbdDriver
  | .usb => deinitUsbDriver deinitDependencies
  | .mx4sio => deinitMx4sioDriver deinitDependencies
  | .cdfs => deinitCdfsDriver
  | .dev9 => deinitDev9Driver
  | .hdd => deinitHddDriver deinitDependencies
  | .joystick => deinitJoystickDriver deinitDependencies
  | .audio => deinitAudioDriver
  | .poweroff => deinitPoweroffDriver
  | .mouse => deinitMouseDriver deinitDependencies
  | .keyboard => deinitKeyboardDriver deinitDependencies
  | .camera => deinitCameraDriver deinitDependencies
  | .netman => deinitNetmanDriver
  | .smap => deinitSmapDriver
  | .eeip => deinitEeipDriver deinitDependencies
  | .iopip => deinitIopipDriver deinitDependencies

/-- The wrappers of `ps2_network_driver.h`. -/
inductive NetworkStack
  | default
  | ee
  | iop
  deriving DecidableEq, Repr

/-- `init_network_driver`, `init_network_EE_driver` and `init_network_IOP_driver` -/
def initNetworkDriver (stack : NetworkStack) (initDependencies : Bool) : DriverM Int :=
  match stack with
  | .default | .ee => initEeipDriver initDependencies
  | .iop => initIopipDriver initDependencies

/-- `deinit_network_driver`, `deinit_network_EE_driver` and `deinit_network_IOP_driver`; the last
one calls the initialisation. -/
def deinitNetworkDriver (stack : NetworkStack) (deinitDependencies : Bool) : DriverM Unit :=
  match stack with
  | .default | .ee => deinitEeipDriver deinitDependencies
  | .iop => do
    let _ ← initIopipDriver deinitDependencies
    pure ()

inductive PublicCall
  | init (d : Driver) (initDependencies onlyIfBootedFromHdd : Bool)
  | deinit (d : Driver) (deinitDependencies : Bool)
  | initNetwork (stack : NetworkStack) (initDependencies : Bool)
  | deinitNetwork (stack : NetworkStack) (deinitDependencies : Bool)
  | initFilesystem
  | deinitFilesystem
  | initOnlyBootFilesystem
  | deinitOnlyBootFilesystem
  deriving DecidableEq, Repr

/-- The call and the status it returns; `0` for a function without a result. -/
def PublicCall.run : PublicCall → DriverM Int
  | .init d initDependencies onlyIfBootedFromHdd =>
    initDriver d initDependencies onlyIfBootedFromHdd
  | .deinit d deinitDependencies => do
    deinitDriver d deinitDependencies
    pure 0
  | .initNetwork stack initDependencies => initNetworkDriver stack initDependencies
  | .deinitNetwork stack deinitDependencies => do
    deinitNetworkDriver stack deinitDependencies
    pure 0
  | .initFilesystem => do
    initPs2FilesystemDriver
    pure 0
  | .deinitFilesystem => do
    deinitPs2FilesystemDriver
    pure 0
  | .initOnlyBootFilesystem => do
    initOnlyBootPs2FilesystemDriver
    pure 0
  | .deinitOnlyBootFilesystem => do
    deinitOnlyBootPs2FilesystemDriver
    pure 0

def runCalls : List PublicCall → DriverM (List Int)
  | [] => pure []
  | call :: rest => do
    let status ← call.run
    let more ← runCalls rest
    pure (status :: more)

end Ps2Drivers
