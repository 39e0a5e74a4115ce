import Ps2Drivers.Provider.Stage

/-!
# The provider's entry points

Every public function of `ps2_drivers_img.h`, the two internal ones the image flavor of
`ps2_irx_exec` uses, and that function itself.
-/

open Binary CString

namespace Ps2Drivers

/-! ## 1. Requirement helpers -/

def ps2DriversImgRequirementsForBootDevice (bootDevice : BootDevice) : UInt32 :=
  let requirements := Driver.fileXio.req
  match bootDevice with
  | .mc0 | .mc1 => requirements ||| Driver.memcard.req
  | .cdrom | .cdfs => requirements ||| Driver.cdfs.req
  | .mass | .mass0 | .mass1 | .mx4sio | .mx4sio0 | .mx4sio1 =>
    requirements ||| (Driver.usb.req ||| Driver.mx4sio.req)
  | .hdd | .hdd0 => requirements ||| (Driver.poweroff.req ||| Driver.hdd.req)
  | .host | .host0 | .host1 | .unknown => requirements

/-- The mask has a bit that no driver owns. -/
def unknownRequirements (requirements : UInt32) : Bool := (requirements &&& ~~~ reqKnownMask) != 0

/-- The output parameter is the value `*requirements` has before and after; `none` is a `NULL`
pointer. -/
def ps2DriversImgRequirementsForPath (path : Option Bytes) (additionalRequirements : UInt32)
    (requirements : Option UInt32) : ImgError × Option UInt32 :=
  if path = none ∨ requirements = none ∨ unknownRequirements additionalRequirements then
    (.errArgument, requirements)
  else
    (.ok, some (ps2DriversImgRequirementsForBootDevice (getBootDeviceID path) |||
      additionalRequirements))

def ps2DriversImgRequirementsForCurrentBoot (env : Env) (additionalRequirements : UInt32)
    (requirements : Option UInt32) : ImgError × Option UInt32 :=
  if requirements = none ∨ unknownRequirements additionalRequirements then
    (.errArgument, requirements)
  else
    match env.getcwd with
    | none => (.errCwd, requirements)
    | some cwd => ps2DriversImgRequirementsForPath (some cwd) additionalRequirements requirements

/-! ## 2. Staging -/

def ps2DriversImgDefaultPath : Bytes := lit "ps2_drivers.irximg"

section

variable (ids : Irx → UInt32) (env : Env)

def ps2DriversImgStage (imagePath : Option Bytes) (driverRequirements : UInt32) :
    ProviderM ImgError := do
  match imagePath with
  | none => return .errArgument
  | some path =>
    if badRequirements driverRequirements then
      return .errArgument
    let p ← globals
    if ¬ p.idle then
      return .errAlreadyStaged
    match ← malloc env with
    | none => return .errMemory
    | some imagePathCopy =>
      let result ← stageFromPath ids env (some path) driverRequirements
      if result ≠ .ok then
        free imagePathCopy
        return result
      let p ← globals
      freePtr (p.imagePath.map (·.block))
      assign fun p => { p with
        imagePath := some ⟨imagePathCopy, path⟩, lastRequirements := driverRequirements }
      return .ok

def ps2DriversImgStageDefault (driverRequirements : UInt32) : ProviderM ImgError :=
  ps2DriversImgStage ids env (some ps2DriversImgDefaultPath) driverRequirements

def ps2DriversImgStageForBootDevice (imagePath : Option Bytes) (bootDevice : BootDevice)
    (additionalRequirements : UInt32) : ProviderM ImgError := do
  if unknownRequirements additionalRequirements then
    return .errArgument
  ps2DriversImgStage ids env imagePath
    (ps2DriversImgRequirementsForBootDevice bootDevice ||| additionalRequirements)

/-- The wrappers that ask a requirement helper for the mask first: its error is the result, its
output the mask to stage. -/
def stageComputed (imagePath : Option Bytes) (computed : ImgError × Option UInt32) :
    ProviderM ImgError := do
  if computed.1 ≠ .ok then
    return computed.1
  ps2DriversImgStage ids env imagePath (computed.2.getD 0)

def ps2DriversImgStageForPath (imagePath path : Option Bytes) (additionalRequirements : UInt32) :
    ProviderM ImgError :=
  stageComputed ids env imagePath
    (ps2DriversImgRequirementsForPath path additionalRequirements (some 0))

def ps2DriversImgStageForCurrentBoot (imagePath : Option Bytes)
    (additionalRequirements : UInt32) : ProviderM ImgError :=
  stageComputed ids env imagePath
    (ps2DriversImgRequirementsForCurrentBoot env additionalRequirements (some 0))

def ps2DriversImgStageForAllFilesystems (imagePath : Option Bytes)
    (additionalRequirements : UInt32) : ProviderM ImgError := do
  if unknownRequirements additionalRequirements then
    return .errArgument
  ps2DriversImgStage ids env imagePath (reqFilesystemAll ||| additionalRequirements)

def ps2DriversImgStageDefaultForBootDevice (bootDevice : BootDevice)
    (additionalRequirements : UInt32) : ProviderM ImgError :=
  ps2DriversImgStageForBootDevice ids env (some ps2DriversImgDefaultPath) bootDevice
    additionalRequirements

def ps2DriversImgStageDefaultForPath (path : Option Bytes) (additionalRequirements : UInt32) :
    ProviderM ImgError :=
  ps2DriversImgStageForPath ids env (some ps2DriversImgDefaultPath) path additionalRequirements

def ps2DriversImgStageDefaultForCurrentBoot (additionalRequirements : UInt32) :
    ProviderM ImgError :=
  ps2DriversImgStageForCurrentBoot ids env (some ps2DriversImgDefaultPath) additionalRequirements

def ps2DriversImgStageDefaultForAllFilesystems (additionalRequirements : UInt32) :
    ProviderM ImgError :=
  ps2DriversImgStageForAllFilesystems ids env (some ps2DriversImgDefaultPath)
    additionalRequirements

def ps2DriversImgRestage (driverRequirements : UInt32) : ProviderM ImgError := do
  if badRequirements driverRequirements then
    return .errArgument
  match (← globals).imagePath with
  | none => return .errNoSource
  | some source =>
    let result ← stageFromPath ids env (some source.bytes) driverRequirements
    if result = .ok then
      assign fun p => { p with lastRequirements := driverRequirements }
    return result

def ps2DriversImgRestageLast : ProviderM ImgError := do
  let p ← globals
  if p.imagePath = none ∨ p.lastRequirements = 0 then
    return .errNoSource
  ps2DriversImgRestage ids env p.lastRequirements

end

/-! ## 3. Discarding and consuming -/

def ps2DriversImgDiscardStaged : ProviderM Unit := do
  let p ← globals
  freeStagedArray p.stagedModules p.stagedCapacity
  assign (·.setStaged none 0 0 0)

def ps2DriversImgForgetSource : ProviderM Unit := do
  let p ← globals
  freePtr (p.imagePath.map (·.block))
  assign fun p => { p with imagePath := none, lastRequirements := 0 }

def ps2DriversImgStagedBytes : ProviderM Nat := return (← globals).stagedBytes

def ps2DriversImgStagedModules : ProviderM Nat := return (← globals).stagedCount

/-- The slot is the module's and still holds its payload. -/
def StagedModule.holds (moduleId : UInt32) (slot : StagedModule) : Bool :=
  slot.id == moduleId && slot.data.isSome

/-- The index the loops of `get_staged` and `release_staged` stop at. -/
def Provider.stagedIndex (p : Provider) (moduleId : UInt32) : Option Nat :=
  (p.slots.take p.stagedCapacity).findIdx? (·.holds moduleId)

/-- The payload and its size, or `none` for the result `-1`; `outputs` says that both output
pointers are given. -/
def ps2DriversImgGetStaged (moduleId : UInt32) (outputs : Bool) :
    ProviderM (Option (Buffer × UInt32)) := do
  if !outputs then
    return none
  let p ← globals
  match p.stagedIndex moduleId with
  | none => return none
  | some i =>
    let slot := p.slots.getD i StagedModule.zero
    return slot.data.map fun data => (data, slot.size)

/-- The assignments of `release_staged` to the slot it found. -/
def Provider.releaseSlot (p : Provider) (i : Nat) : Provider :=
  let slot := p.slots.getD i StagedModule.zero
  p.setStaged (p.stagedModules.map fun array =>
      { array with slots := array.slots.set i { slot with data := none, size := 0 } })
    p.stagedCapacity
    (if p.stagedCount > 0 then p.stagedCount - 1 else p.stagedCount)
    (if p.stagedBytes ≥ slot.size.toNat then p.stagedBytes - slot.size.toNat else 0)

def ps2DriversImgReleaseStaged (moduleId : UInt32) : ProviderM Unit := do
  let p ← globals
  match p.stagedIndex moduleId with
  | none => pure ()
  | some i =>
    freePtr ((p.slots.getD i StagedModule.zero).data.map (·.block))
    assign (·.releaseSlot i)
  let p ← globals
  match p.stagedModules with
  | none => return ()
  | some array =>
    if p.stagedCount = 0 then
      free array.block
      assign (·.setStaged none 0 0 0)

/-! ## 4. `ps2_irx_exec` of the image flavor -/

/-- A call of `SifExecModuleBuffer`: the payload handed over and the arguments. -/
structure SifExec where
  payload : Bytes
  argLen : Nat
  args : Option Bytes
  deriving DecidableEq, Repr

/-- What `ps2_irx_exec` gives back: its return value, the value `*module_result` is set to if it is
set at all, and the call it made if it made one. -/
structure IrxExec where
  moduleId : Int
  moduleResult : Option Int
  call : Option SifExec
  deriving DecidableEq, Repr

/-- A call that fails before `SifExecModuleBuffer`. -/
def IrxExec.failed : IrxExec := ⟨-1, none, none⟩

/-- `answer` is what `SifExecModuleBuffer` returns and stores in `*module_result`; `module` is the
id of the module, `none` for a `NULL` pointer. -/
def ps2IrxExecImage (answer : Int × Int) (module : Option UInt32) (argLen : Nat)
    (args : Option Bytes) : ProviderM IrxExec := do
  match module with
  | none => return .failed
  | some id =>
    match ← ps2DriversImgGetStaged id true with
    | none => return .failed
    | some (data, size) =>
      let call : SifExec := ⟨data.bytes.take size.toNat, argLen, args⟩
      ps2DriversImgReleaseStaged id
      return ⟨answer.1, some answer.2, some call⟩

end Ps2Drivers
