import Ps2Drivers.Lib.Program
import Ps2Drivers.Provider.Api

/-!
# The machine the drivers run on

The globals of the drivers and the calls they make.  Every call is recorded in a trace, newest
first, with the result the console gave it.
-/

open Binary CString

namespace Ps2Drivers

/-! ## 1. The variables of a module -/

/-- `__<irx>_id` and `__<irx>_ret` -/
structure IrxVars where
  id : Int
  ret : Int
  deriving DecidableEq, Repr

namespace IrxVars

/-- `DECL_IRX_VARS` and `RESET_IRX_VARS` -/
def reset : IrxVars := ⟨-1, -1⟩

/-- `CHECK_IRX_LOAD` -/
def checkLoad (v : IrxVars) : Bool := v.id == -1 && v.ret == -1

/-- `CHECK_IRX_ERR` -/
def checkErr (v : IrxVars) : Bool := decide (v.id < 0) || v.ret == 1

/-- `CHECK_IRX_UNLOAD` -/
def checkUnload (v : IrxVars) : Bool := decide (0 ≤ v.id) && (v.ret == 0 || v.ret == 2)

end IrxVars

/-! ## 2. Calls outside the repository -/

inductive DevctlCommand
  | ddiocOff
  | hdiocStatus
  | pdiocCloseall
  | hdiocIdleimm
  deriving DecidableEq, Repr

/-- The two `poweroffHandler` functions of `ps2_filesystem_driver.c`. -/
inductive PoweroffHandler
  | filesystem
  | onlyBootFilesystem
  deriving DecidableEq, Repr

inductive LibCall
  | fileXioInit
  | fileXioExit
  | mtapInit
  | padInit
  | padEnd
  | audsrvInit
  | audsrvQuit
  | poweroffInit
  | poweroffSetCallback (handler : PoweroffHandler)
  | poweroffShutdown
  | ps2MouseInit
  | ps2MouseReset
  | ps2KbdInit
  | ps2KbdClose
  | ps2CamInit
  | netManInit
  | netManDeinit
  | ps2ipInit
  | ps2ipDeinit
  | fileXioDevctl (path : Bytes) (command : DevctlCommand)
  | fileXioMount (mountpoint blockdev : Bytes)
  | fileXioUmount (mountpoint : Bytes)
  | chdir (path : Bytes)
  | stat (path : Bytes)
  | malloc (size : Nat)
  | strdup (s : Bytes)
  deriving DecidableEq, Repr

inductive Event
  | exec (m : Irx) (call : SifExec) (result : Int × Int)
  | unload (m : Irx) (id result : Int)
  | lib (call : LibCall) (result : Int)
  deriving DecidableEq, Repr

def Event.isExec (m : Irx) : Event → Bool
  | .exec m' _ _ => m' == m
  | _ => false

def Event.isUnload (m : Irx) : Event → Bool
  | .unload m' _ _ => m' == m
  | _ => false

/-- The two ways the modules are delivered: linked into the program, or staged from an image. -/
inductive Flavor
  | embedded (data : Irx → Bytes)
  | image

/-- What the console answers: the results of the `k`-th `SifExecModuleBuffer` and the `k`-th
`SifUnloadModule` of each module, and of a library function called after the events so far.  A
module result of `-1` stands also for a loader call that does not write `*module_result`.
`patience` bounds how many turns of an endless loop a run follows. -/
structure Console where
  flavor : Flavor
  exec : Irx → Nat → Int × Int
  unload : Irx → Nat → Int
  lib : LibCall → List Event → Int
  cop2Pipelined : Bool
  patience : Nat

/-- The globals of the drivers, the working directory, the image provider and the trace. -/
structure Machine where
  irx : Irx → IrxVars
  status : Driver → Int
  mountString : Bytes
  mountStatus : Int
  bootDeviceId : BootDevice
  cwd : Bytes
  world : World
  trace : List Event

namespace HddMountStatus

def error : Int := -5
def infoError : Int := -4
def wrongCwd : Int := -3
def unknown : Int := -2
def notReady : Int := -1
def ok : Int := 0

end HddMountStatus

/-- The globals before the first call; every `__x_init_status` starts as `UNKNOWN`. -/
def Machine.initial (cwd : Bytes) (world : World) : Machine where
  irx _ := .reset
  status _ := -1
  mountString := []
  mountStatus := HddMountStatus.unknown
  bootDeviceId := .unknown
  cwd := cwd
  world := world
  trace := []

/-! ## 3. Loading and unloading a module -/

structure IrxModule where
  id : UInt32
  embeddedData : Option Bytes
  embeddedSize : Option UInt32

/-- The descriptor of `ps2_irx_module_descriptor.c`. -/
def Flavor.descriptor (m : Irx) : Flavor → IrxModule
  | .embedded data => ⟨irxId m, some (data m), some (UInt32.ofNat (data m).length)⟩
  | .image => ⟨irxId m, none, none⟩

/-- `ps2_irx_exec` of the embedded flavor -/
def ps2IrxExecEmbedded (answer : Int × Int) (module : Option IrxModule) (argLen : Nat)
    (args : Option Bytes) : IrxExec :=
  match module with
  | some ⟨_, some data, some size⟩ =>
    ⟨answer.1, some answer.2, some ⟨data.take size.toNat, argLen, args⟩⟩
  | _ => .failed

namespace Machine

def record (e : Event) (s : Machine) : Machine := { s with trace := e :: s.trace }

def setIrx (m : Irx) (v : IrxVars) (s : Machine) : Machine :=
  { s with irx := Function.update s.irx m v }

def ps2IrxExec (console : Console) (m : Irx) (args : Option Bytes) (s : Machine) :
    IrxExec × Machine :=
  let answer := console.exec m (s.trace.countP (·.isExec m))
  let descriptor := console.flavor.descriptor m
  let argLen := (args.map List.length).getD 0
  let r := match console.flavor with
    | .embedded _ => (ps2IrxExecEmbedded answer (some descriptor) argLen args, s.world)
    | .image => ps2IrxExecImage answer (some descriptor.id) argLen args s.world
  let s := { s with world := r.2 }
  match r.1.call with
  | none => (r.1, s)
  | some call => (r.1, s.record (.exec m call answer))

/-- The block of one module in `loadIRXs`:
`if (CHECK_IRX_LOAD(m)) { id = ps2_irx_exec(..); if (CHECK_IRX_ERR(m)) .. }`.  The answer is
whether the function goes on. -/
def loadIrx (console : Console) (m : Irx) (args : Option Bytes) (s : Machine) : Bool × Machine :=
  if (s.irx m).checkLoad then
    let (r, s) := s.ps2IrxExec console m args
    let v : IrxVars := ⟨r.moduleId, r.moduleResult.getD (s.irx m).ret⟩
    (!v.checkErr, s.setIrx m v)
  else (true, s)

/-- The block of one module in `unloadIRXs`:
`if (CHECK_IRX_UNLOAD(m)) { SifUnloadModule(id); RESET_IRX_VARS(m); }` -/
def unloadIrx (console : Console) (m : Irx) (s : Machine) : Machine :=
  if (s.irx m).checkUnload then
    let result := console.unload m (s.trace.countP (·.isUnload m))
    (s.record (.unload m (s.irx m).id result)).setIrx m .reset
  else s

/-! ## 4. Library calls -/

/-- Only a successful `chdir` changes what the drivers can see. -/
def lib (console : Console) (call : LibCall) (s : Machine) : Int × Machine :=
  let result := console.lib call s.trace
  let s := s.record (.lib call result)
  match call with
  | .chdir path => (result, if result = 0 then { s with cwd := path } else s)
  | _ => (result, s)

/-- `while (call() < 0) {};`, followed for at most `n` calls -/
def untilOk (console : Console) (call : LibCall) : Nat → Machine → Option Machine
  | 0, _ => none
  | n + 1, s =>
    let (result, s) := s.lib console call
    if result < 0 then untilOk console call n s else some s

theorem untilOk_succ (console : Console) (call : LibCall) (n : Nat) (s : Machine) :
    s.untilOk console call (n + 1) =
      if (s.lib console call).1 < 0 then (s.lib console call).2.untilOk console call n
      else some (s.lib console call).2 := rfl

end Machine

/-! ## 5. Driver programs -/

/-- What the functions of a driver do, one at a time; `abort` is an assertion that fails. -/
inductive DriverOp
  | loadIrx (m : Irx) (args : Option Bytes)
  | unloadIrx (m : Irx)
  | lib (call : LibCall)
  | untilOk (call : LibCall)
  | isCOP2Pipelined
  | getcwd
  | getStatus (d : Driver)
  | setStatus (d : Driver) (status : Int)
  | getMountStatus
  | setMountStatus (status : Int)
  | getMountString
  | setMountString (mountString : Bytes)
  | getBootDeviceId
  | abort
  deriving DecidableEq, Repr

def DriverOp.Answer : DriverOp → Type
  | .loadIrx _ _ => Bool
  | .unloadIrx _ => Unit
  | .lib _ => Int
  | .untilOk _ => Unit
  | .isCOP2Pipelined => Bool
  | .getcwd => Bytes
  | .getStatus _ => Int
  | .setStatus _ _ => Unit
  | .getMountStatus => Int
  | .setMountStatus _ => Unit
  | .getMountString => Bytes
  | .setMountString _ => Unit
  | .getBootDeviceId => BootDevice
  | .abort => Empty

abbrev driverInterface : Interface := ⟨DriverOp, DriverOp.Answer⟩

abbrev DriverM := Program driverInterface

def Console.step (console : Console) : Handler driverInterface Machine
  | .loadIrx m args, s => some (s.loadIrx console m args)
  | .unloadIrx m, s => some ((), s.unloadIrx console m)
  | .lib call, s => some (s.lib console call)
  | .untilOk call, s => (s.untilOk console call console.patience).map fun s => ((), s)
  | .isCOP2Pipelined, s => some (console.cop2Pipelined, s)
  | .getcwd, s => some (s.cwd, s)
  | .getStatus d, s => some (s.status d, s)
  | .setStatus d status, s => some ((), { s with status := Function.update s.status d status })
  | .getMountStatus, s => some (s.mountStatus, s)
  | .setMountStatus status, s => some ((), { s with mountStatus := status })
  | .getMountString, s => some (s.mountString, s)
  | .setMountString mountString, s => some ((), { s with mountString := mountString })
  | .getBootDeviceId, s => some (s.bootDeviceId, s)
  | .abort, _ => none

def perform (op : DriverOp) : DriverM op.Answer := Program.request (I := driverInterface) op

def loadIrx (m : Irx) (args : Option Bytes) : DriverM Bool := perform (.loadIrx m args)
def unloadIrx (m : Irx) : DriverM Unit := perform (.unloadIrx m)
def lib (call : LibCall) : DriverM Int := perform (.lib call)
def untilOk (call : LibCall) : DriverM Unit := perform (.untilOk call)
def isCOP2Pipelined : DriverM Bool := perform .isCOP2Pipelined
def getcwd : DriverM Bytes := perform .getcwd
def getStatus (d : Driver) : DriverM Int := perform (.getStatus d)
def setStatus (d : Driver) (status : Int) : DriverM Unit := perform (.setStatus d status)
def getMountStatus : DriverM Int := perform .getMountStatus
def setMountStatus (status : Int) : DriverM Unit := perform (.setMountStatus status)
def getMountString : DriverM Bytes := perform .getMountString
def setMountString (s : Bytes) : DriverM Unit := perform (.setMountString s)
def getBootDeviceId : DriverM BootDevice := perform .getBootDeviceId

section

variable {A : DriverOp → Prop}

@[simp] theorem loadIrx_within {m : Irx} {args : Option Bytes} :
    (loadIrx m args).Within A ↔ A (.loadIrx m args) := Program.within_request

@[simp] theorem unloadIrx_within {m : Irx} : (unloadIrx m).Within A ↔ A (.unloadIrx m) :=
  Program.within_request

@[simp] theorem lib_within {call : LibCall} : (lib call).Within A ↔ A (.lib call) :=
  Program.within_request

@[simp] theorem untilOk_within {call : LibCall} : (untilOk call).Within A ↔ A (.untilOk call) :=
  Program.within_request

@[simp] theorem isCOP2Pipelined_within : isCOP2Pipelined.Within A ↔ A .isCOP2Pipelined :=
  Program.within_request

@[simp] theorem getcwd_within : getcwd.Within A ↔ A .getcwd := Program.within_request

@[simp] theorem getStatus_within {d : Driver} : (getStatus d).Within A ↔ A (.getStatus d) :=
  Program.within_request

@[simp] theorem setStatus_within {d : Driver} {status : Int} :
    (setStatus d status).Within A ↔ A (.setStatus d status) := Program.within_request

@[simp] theorem getMountStatus_within : getMountStatus.Within A ↔ A .getMountStatus :=
  Program.within_request

@[simp] theorem setMountStatus_within {status : Int} :
    (setMountStatus status).Within A ↔ A (.setMountStatus status) := Program.within_request

@[simp] theorem getMountString_within : getMountString.Within A ↔ A .getMountString :=
  Program.within_request

@[simp] theorem setMountString_within {s : Bytes} :
    (setMountString s).Within A ↔ A (.setMountString s) := Program.within_request

@[simp] theorem getBootDeviceId_within : getBootDeviceId.Within A ↔ A .getBootDeviceId :=
  Program.within_request

end

section

variable (console : Console) (s : Machine)

@[simp] theorem loadIrx_run (m : Irx) (args : Option Bytes) :
    (loadIrx m args).run console.step s = some (s.loadIrx console m args) := rfl

@[simp] theorem unloadIrx_run (m : Irx) :
    (unloadIrx m).run console.step s = some ((), s.unloadIrx console m) := rfl

@[simp] theorem lib_run (call : LibCall) :
    (lib call).run console.step s = some (s.lib console call) := rfl

@[simp] theorem isCOP2Pipelined_run :
    isCOP2Pipelined.run console.step s = some (console.cop2Pipelined, s) := rfl

@[simp] theorem getcwd_run : getcwd.run console.step s = some (s.cwd, s) := rfl

@[simp] theorem getStatus_run (d : Driver) :
    (getStatus d).run console.step s = some (s.status d, s) := rfl

@[simp] theorem setStatus_run (d : Driver) (status : Int) :
    (setStatus d status).run console.step s =
      some ((), { s with status := Function.update s.status d status }) := rfl

@[simp] theorem getMountStatus_run :
    getMountStatus.run console.step s = some (s.mountStatus, s) := rfl

@[simp] theorem setMountStatus_run (status : Int) :
    (setMountStatus status).run console.step s = some ((), { s with mountStatus := status }) := rfl

@[simp] theorem setMountString_run (string : Bytes) :
    (setMountString string).run console.step s = some ((), { s with mountString := string }) := rfl

@[simp] theorem getBootDeviceId_run :
    getBootDeviceId.run console.step s = some (s.bootDeviceId, s) := rfl

end

/-- `assert(condition)` -/
def assertThat (condition : Bool) : DriverM Unit :=
  if condition then pure () else Program.call (I := driverInterface) DriverOp.abort nofun

end Ps2Drivers
