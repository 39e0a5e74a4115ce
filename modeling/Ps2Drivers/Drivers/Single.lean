import Ps2Drivers.Drivers.Machine

/-!
# The single drivers

`init_x_driver` and `deinit_x_driver` of every driver but the HDD's.  A driver keeps its own
definition, written with the few shapes the source repeats: `loadIRXs`, `unloadIRXs`, a dependency
that is initialised first, a status that is stored and returned.
-/

open Binary CString

namespace Ps2Drivers

/-! ## 1. The shapes -/

/-- The block of one module, with its arguments and the status returned when it does not load. -/
structure IrxBlock where
  irx : Irx
  args : Option Bytes
  error : Int

/-- `loadIRXs`: the blocks one after another, then the rest of the function -/
def loadIRXs (blocks : List IrxBlock) (rest : DriverM Int) : DriverM Int :=
  match blocks with
  | [] => rest
  | block :: blocks => do
    if ← loadIrx block.irx block.args then
      loadIRXs blocks rest
    else
      pure block.error

def unloadIRXs : List Irx → DriverM Unit
  | [] => pure ()
  | m :: rest => do
    unloadIrx m
    unloadIRXs rest

/-- `if (enabled) { if (refused(init())) return error; }` before the rest of the function -/
def withDependency (enabled : Bool) (init : DriverM Int) (refused : Int → Bool)
    (error rest : DriverM Int) : DriverM Int :=
  if enabled then do
    let result ← init
    if refused result then error else rest
  else rest

/-- `if (deinit_dependencies) deinit();` -/
def whenEnabled (enabled : Bool) (deinit : DriverM Unit) : DriverM Unit :=
  if enabled then deinit else pure ()

/-- `__x_init_status = load; return __x_init_status;` -/
def returnStatus (d : Driver) (load : DriverM Int) : DriverM Int := do
  let status ← load
  setStatus d status
  pure status

/-- `__x_init_status = loadIRXs(); if (__x_init_status < 0) return __x_init_status;` and then the
same with `initLibraries` -/
def withLibraries (d : Driver) (load libraries : DriverM Int) : DriverM Int := do
  let status ← load
  setStatus d status
  if status < 0 then
    pure status
  else
    returnStatus d libraries

def isNegative (status : Int) : Bool := decide (status < 0)

/-! ## 2. sio2man and memcard -/

namespace Sio2manInitStatus

def irxError : Int := -2
def ok : Int := 0

end Sio2manInitStatus

def initSio2manDriver : DriverM Int :=
  returnStatus .sio2man
    (loadIRXs [⟨.sio2man, none, Sio2manInitStatus.irxError⟩] (pure Sio2manInitStatus.ok))

def deinitSio2manDriver : DriverM Unit := unloadIRXs [.sio2man]

namespace MemcardInitStatus

def dependencyIrxError : Int := -4
def mcservIrxError : Int := -3
def mcmanIrxError : Int := -2
def irxOk : Int := 1

end MemcardInitStatus

def initMemcardDriver (initDependencies : Bool) : DriverM Int :=
  withDependency initDependencies initSio2manDriver isNegative
    (pure MemcardInitStatus.dependencyIrxError) <|
  returnStatus .memcard
    (loadIRXs [⟨.mcman, none, MemcardInitStatus.mcmanIrxError⟩,
      ⟨.mcserv, none, MemcardInitStatus.mcservIrxError⟩] (pure MemcardInitStatus.irxOk))

def deinitMemcardDriver (deinitDependencies : Bool) : DriverM Unit := do
  unloadIRXs [.mcman, .mcserv]
  whenEnabled deinitDependencies deinitSio2manDriver

/-! ## 3. fileXio -/

namespace FileXioInitStatus

def fileXioIrxError : Int := -3
def iomanXIrxError : Int := -2
def ok : Int := 0
def irxOk : Int := 1

end FileXioInitStatus

def initFileXioDriver : DriverM Int :=
  withLibraries .fileXio
    (loadIRXs [⟨.iomanX, none, FileXioInitStatus.iomanXIrxError⟩,
      ⟨.fileXio, none, FileXioInitStatus.fileXioIrxError⟩] (pure FileXioInitStatus.irxOk))
    (do
      let _ ← lib .fileXioInit
      pure FileXioInitStatus.ok)

def deinitFileXioDriver : DriverM Unit := do
  let _ ← lib .fileXioExit
  unloadIRXs [.fileXio, .iomanX]

/-! ## 4. Block devices: bdm, usbd, usb, mx4sio, cdfs -/

namespace BdmInitStatus

def irxFatfsError : Int := -3
def irxError : Int := -2
def ok : Int := 0

end BdmInitStatus

def initBdmDriver : DriverM Int :=
  returnStatus .bdm
    (loadIRXs [⟨.bdm, none, BdmInitStatus.irxError⟩,
      ⟨.bdmfsFatfs, none, BdmInitStatus.irxFatfsError⟩] (pure BdmInitStatus.ok))

def deinitBdmDriver : DriverM Unit := unloadIRXs [.bdmfsFatfs, .bdm]

namespace UsbdInitStatus

def irxError : Int := -2
def ok : Int := 0

end UsbdInitStatus

def initUsbdDriver : DriverM Int :=
  returnStatus .usbd (loadIRXs [⟨.usbd, none, UsbdInitStatus.irxError⟩] (pure UsbdInitStatus.ok))

def deinitUsbdDriver : DriverM Unit := unloadIRXs [.usbd]

namespace UsbInitStatus

def dependencyUsbdError : Int := -5
def dependencyBdmError : Int := -4
def usbmassBdIrxError : Int := -3
def irxOk : Int := 1

end UsbInitStatus

def initUsbDriver (initDependencies : Bool) : DriverM Int :=
  withDependency initDependencies initBdmDriver isNegative
    (pure UsbInitStatus.dependencyBdmError) <|
  withDependency initDependencies initUsbdDriver isNegative
    (pure UsbInitStatus.dependencyUsbdError) <|
  returnStatus .usb
    (loadIRXs [⟨.usbmassBd, none, UsbInitStatus.usbmassBdIrxError⟩] (pure UsbInitStatus.irxOk))

def deinitUsbDriver (deinitDependencies : Bool) : DriverM Unit := do
  unloadIRXs [.usbmassBd]
  whenEnabled deinitDependencies do
    deinitUsbdDriver
    deinitBdmDriver

namespace Mx4sioInitStatus

def irxNotSupported : Int := -5
def dependencyBdmError : Int := -4
def dependencySio2manError : Int := -3
def irxError : Int := -2
def ok : Int := 0

end Mx4sioInitStatus

def initMx4sioDriver (initDependencies : Bool) : DriverM Int :=
  withDependency initDependencies initSio2manDriver isNegative
    (pure Mx4sioInitStatus.dependencySio2manError) <|
  withDependency initDependencies initBdmDriver isNegative
    (pure Mx4sioInitStatus.dependencyBdmError) <|
  returnStatus .mx4sio do
    -- PCSX2 does not pipeline COP2, and does not support the module
    if !(← isCOP2Pipelined) then
      pure Mx4sioInitStatus.irxNotSupported
    else
      loadIRXs [⟨.mx4sioBd, none, Mx4sioInitStatus.irxError⟩] (pure Mx4sioInitStatus.ok)

def deinitMx4sioDriver (deinitDependencies : Bool) : DriverM Unit := do
  unloadIRXs [.mx4sioBd]
  whenEnabled deinitDependencies do
    deinitBdmDriver
    deinitSio2manDriver

namespace CdfsInitStatus

def irxError : Int := -2
def irxOk : Int := 0

end CdfsInitStatus

def initCdfsDriver : DriverM Int :=
  returnStatus .cdfs (loadIRXs [⟨.cdfs, none, CdfsInitStatus.irxError⟩] (pure CdfsInitStatus.irxOk))

def deinitCdfsDriver : DriverM Unit := unloadIRXs [.cdfs]

/-! ## 5. dev9 and poweroff -/

namespace Dev9InitStatus

def irxError : Int := -2
def ok : Int := 0

end Dev9InitStatus

def initDev9Driver : DriverM Int :=
  returnStatus .dev9 (loadIRXs [⟨.ps2dev9, none, Dev9InitStatus.irxError⟩] (pure Dev9InitStatus.ok))

/-- `fileXioDevctl("dev9x:", DDIOC_OFF, ..)` -/
def dev9Off : LibCall := .fileXioDevctl (lit "dev9x:") .ddiocOff

def deinitDev9Driver : DriverM Unit := do
  -- the status is not reset, so a second deinit asks the device again
  if (← getStatus .dev9) = Dev9InitStatus.ok then
    untilOk dev9Off
    unloadIRXs [.ps2dev9]
  else
    unloadIRXs [.ps2dev9]

namespace PoweroffInitStatus

def irxError : Int := -3
def eerpcError : Int := -2
def ok : Int := 0
def irxOk : Int := 1

end PoweroffInitStatus

def initPoweroffDriver : DriverM Int :=
  withLibraries .poweroff
    (loadIRXs [⟨.poweroff, none, PoweroffInitStatus.irxError⟩] (pure PoweroffInitStatus.irxOk))
    (do
      if (← lib .poweroffInit) ≠ 0 then
        pure PoweroffInitStatus.eerpcError
      else
        pure PoweroffInitStatus.ok)

def deinitPoweroffDriver : DriverM Unit := unloadIRXs [.poweroff]

/-! ## 6. joystick and audio -/

namespace JoystickInitStatus

def dependencyIrxError : Int := -6
def padIrxError : Int := -5
def mtapIrxError : Int := -4
def padError : Int := -3
def mtapError : Int := -2
def ok : Int := 0
def irxOk : Int := 1

end JoystickInitStatus

def initJoystickDriver (initDependencies : Bool) : DriverM Int :=
  withDependency initDependencies initSio2manDriver (· != Sio2manInitStatus.ok)
    (pure JoystickInitStatus.dependencyIrxError) <|
  withLibraries .joystick
    (loadIRXs [⟨.mtapman, none, JoystickInitStatus.mtapIrxError⟩,
      ⟨.padman, none, JoystickInitStatus.padIrxError⟩] (pure JoystickInitStatus.irxOk))
    (do
      if (← lib .mtapInit) ≠ 1 then
        pure JoystickInitStatus.mtapError
      else if (← lib .padInit) ≠ 1 then
        pure JoystickInitStatus.padError
      else
        pure JoystickInitStatus.ok)

def deinitJoystickDriver (deinitDependencies : Bool) : DriverM Unit := do
  let _ ← lib .padEnd
  unloadIRXs [.mtapman, .padman]
  whenEnabled deinitDependencies deinitSio2manDriver

namespace AudioInitStatus

def audsrvIrxError : Int := -4
def libsdIrxError : Int := -3
def eeaudsrvError : Int := -2
def ok : Int := 0
def irxOk : Int := 1

end AudioInitStatus

def initAudioDriver : DriverM Int :=
  withLibraries .audio
    (loadIRXs [⟨.libsd, none, AudioInitStatus.libsdIrxError⟩,
      ⟨.audsrv, none, AudioInitStatus.audsrvIrxError⟩] (pure AudioInitStatus.irxOk))
    (do
      if (← lib .audsrvInit) ≠ 0 then
        pure AudioInitStatus.eeaudsrvError
      else
        pure AudioInitStatus.ok)

def deinitAudioDriver : DriverM Unit := do
  let _ ← lib .audsrvQuit
  unloadIRXs [.audsrv, .libsd]

/-! ## 7. USB peripherals: mouse, keyboard, camera -/

namespace MouseInitStatus

def dependencyError : Int := -4
def irxError : Int := -3
def eerpcError : Int := -2
def ok : Int := 0
def irxOk : Int := 1

end MouseInitStatus

def initMouseDriver (initDependencies : Bool) : DriverM Int :=
  withLibraries .mouse
    (withDependency initDependencies initUsbdDriver isNegative
      (pure MouseInitStatus.dependencyError) <|
    loadIRXs [⟨.ps2mouse, none, MouseInitStatus.irxError⟩] (pure MouseInitStatus.irxOk))
    (do
      if (← lib .ps2MouseInit) < 0 then
        pure MouseInitStatus.eerpcError
      else
        let _ ← lib .ps2MouseReset
        pure MouseInitStatus.ok)

def deinitMouseDriver (deinitDependencies : Bool) : DriverM Unit := do
  unloadIRXs [.ps2mouse]
  whenEnabled deinitDependencies deinitUsbdDriver

namespace KeyboardInitStatus

def dependencyError : Int := -4
def irxError : Int := -3
def eerpcError : Int := -2
def ok : Int := 0
def irxOk : Int := 1

end KeyboardInitStatus

def initKeyboardDriver (initDependencies : Bool) : DriverM Int :=
  withLibraries .keyboard
    (withDependency initDependencies initUsbdDriver isNegative
      (pure KeyboardInitStatus.dependencyError) <|
    loadIRXs [⟨.ps2kbd, none, KeyboardInitStatus.irxError⟩] (pure KeyboardInitStatus.irxOk))
    (do
      if (← lib .ps2KbdInit) < 0 then
        pure KeyboardInitStatus.eerpcError
      else
        pure KeyboardInitStatus.ok)

def deinitKeyboardDriver (deinitDependencies : Bool) : DriverM Unit := do
  let _ ← lib .ps2KbdClose
  unloadIRXs [.ps2kbd]
  whenEnabled deinitDependencies deinitUsbdDriver

namespace CameraInitStatus

def dependencyError : Int := -4
def irxError : Int := -3
def eerpcError : Int := -2
def ok : Int := 0
def irxOk : Int := 1

end CameraInitStatus

def initCameraDriver (initDependencies : Bool) : DriverM Int :=
  withLibraries .camera
    (withDependency initDependencies initUsbdDriver isNegative
      (pure CameraInitStatus.dependencyError) <|
    loadIRXs [⟨.ps2cam, none, CameraInitStatus.irxError⟩] (pure CameraInitStatus.irxOk))
    (do
      if (← lib .ps2CamInit) < 0 then
        pure CameraInitStatus.eerpcError
      else
        pure CameraInitStatus.ok)

def deinitCameraDriver (deinitDependencies : Bool) : DriverM Unit := do
  unloadIRXs [.ps2cam]
  whenEnabled deinitDependencies deinitUsbdDriver

/-! ## 8. Network: netman, smap, eeip, iopip -/

namespace NetmanInitStatus

def eeError : Int := -3
def irxError : Int := -2
def ok : Int := 0
def irxOk : Int := 1

end NetmanInitStatus

def initNetmanDriver : DriverM Int :=
  withLibraries .netman
    (loadIRXs [⟨.netman, none, NetmanInitStatus.irxError⟩] (pure NetmanInitStatus.irxOk))
    (do
      if (← lib .netManInit) ≠ 0 then
        pure NetmanInitStatus.eeError
      else
        pure NetmanInitStatus.ok)

def deinitNetmanDriver : DriverM Unit := do
  let _ ← lib .netManDeinit
  unloadIRXs [.netman]

namespace SmapInitStatus

def irxError : Int := -2
def ok : Int := 0

end SmapInitStatus

def initSmapDriver : DriverM Int :=
  returnStatus .smap (loadIRXs [⟨.smap, none, SmapInitStatus.irxError⟩] (pure SmapInitStatus.ok))

def deinitSmapDriver : DriverM Unit := unloadIRXs [.smap]

/-- The dependencies of both IP stacks: dev9, netman and smap, in this order. -/
def withNetwork (initDependencies : Bool) (error : Int) (rest : DriverM Int) : DriverM Int :=
  withDependency initDependencies initDev9Driver (· != Dev9InitStatus.ok) (pure error) <|
  withDependency initDependencies initNetmanDriver (· != NetmanInitStatus.ok) (pure error) <|
  withDependency initDependencies initSmapDriver (· != SmapInitStatus.ok) (pure error) rest

def deinitNetwork (deinitDependencies : Bool) : DriverM Unit :=
  whenEnabled deinitDependencies do
    deinitSmapDriver
    deinitNetmanDriver
    deinitDev9Driver

namespace EeipInitStatus

def dependencyIrxError : Int := -2
def ok : Int := 0

end EeipInitStatus

/-- The driver has no module of its own. -/
def initEeipDriver (initDependencies : Bool) : DriverM Int :=
  withNetwork initDependencies EeipInitStatus.dependencyIrxError <|
  returnStatus .eeip (loadIRXs [] (pure EeipInitStatus.ok))

def deinitEeipDriver (deinitDependencies : Bool) : DriverM Unit :=
  deinitNetwork deinitDependencies

namespace IopipInitStatus

def dependencyIrxError : Int := -5
def ps2ipNmIrxError : Int := -4
def ps2ipsIrxError : Int := -3
def ps2ipsError : Int := -2
def ok : Int := 0

end IopipInitStatus

def initIopipDriver (initDependencies : Bool) : DriverM Int :=
  withNetwork initDependencies IopipInitStatus.dependencyIrxError <|
  withLibraries .iopip
    (loadIRXs [⟨.ps2ipNm, none, IopipInitStatus.ps2ipNmIrxError⟩,
      ⟨.ps2ips, none, IopipInitStatus.ps2ipsIrxError⟩] (pure IopipInitStatus.ok))
    (do
      if (← lib .ps2ipInit) ≠ 0 then
        pure IopipInitStatus.ps2ipsError
      else
        pure IopipInitStatus.ok)

def deinitIopipDriver (deinitDependencies : Bool) : DriverM Unit := do
  let _ ← lib .ps2ipDeinit
  unloadIRXs [.ps2ips, .ps2ipNm]
  deinitNetwork deinitDependencies

end Ps2Drivers
