import Ps2Drivers.Drivers.Single

/-!
# The HDD driver

Its modules, the check of the device between two of them, and mounting: the partition of the
current working directory and partitions named by the caller.
-/

open Binary CString

namespace Ps2Drivers

/-! ## 1. Initialisation -/

namespace HddInitStatus

def dependencyIrxError : Int := -7
def hddNotReadyError : Int := -6
def ps2fsIrxError : Int := -5
def ps2hddIrxError : Int := -4
def ps2atadIrxError : Int := -3
def wrongCwd : Int := -2
def irxOk : Int := 0

end HddInitStatus

def cwdIsHdd : DriverM Bool := do
  let cwd ← getcwd
  pure (hasPrefix (lit "hdd:") cwd || hasPrefix (lit "hdd0:") cwd)

/-- `fileXioDevctl("hdd0:", HDIOC_STATUS, ..)` -/
def hddStatus : LibCall := .fileXioDevctl (lit "hdd0:") .hdiocStatus

def hddCheck : DriverM Int := do
  let ret ← lib hddStatus
  if ret ≥ 3 ∨ ret < 0 then
    pure (-1)
  else
    pure ret

/-- `"-o\0" "4\0" "-n\0" "20"` with its terminator: `sizeof(hddarg)` bytes. -/
def hddArg : Bytes := lit "-o" ++ [0] ++ lit "4" ++ [0] ++ lit "-n" ++ [0] ++ lit "20" ++ [0]

/-- `loadIRXs` of the HDD driver: the device is checked before the file system is loaded -/
def loadHddIRXs : DriverM Int :=
  loadIRXs [⟨.ps2atad, none, HddInitStatus.ps2atadIrxError⟩,
    ⟨.ps2hdd, some hddArg, HddInitStatus.ps2hddIrxError⟩] do
  if (← hddCheck) < 0 then
    pure HddInitStatus.hddNotReadyError
  else
    loadIRXs [⟨.ps2fs, some hddArg, HddInitStatus.ps2fsIrxError⟩] (pure HddInitStatus.irxOk)

/-- The error of a dependency is stored as the driver's status. -/
def hddDependencyError : DriverM Int :=
  returnStatus .hdd (pure HddInitStatus.dependencyIrxError)

/-- `init_hdd_driver` once the working directory does not matter any more -/
def initHdd (initDependencies : Bool) : DriverM Int :=
  withDependency initDependencies initFileXioDriver (· != FileXioInitStatus.ok)
    hddDependencyError <|
  withDependency initDependencies initDev9Driver (· != Dev9InitStatus.ok) hddDependencyError <|
  withDependency initDependencies initBdmDriver (· != BdmInitStatus.ok) hddDependencyError <|
  returnStatus .hdd loadHddIRXs

def initHddDriver (initDependencies onlyIfBootedFromHdd : Bool) : DriverM Int :=
  if onlyIfBootedFromHdd then do
    if !(← cwdIsHdd) then
      returnStatus .hdd (pure HddInitStatus.wrongCwd)
    else
      initHdd initDependencies
  else initHdd initDependencies

def deinitHddDriver (deinitDependencies : Bool) : DriverM Unit := do
  unloadIRXs [.ps2fs, .ps2hdd, .ps2atad]
  whenEnabled deinitDependencies do
    deinitBdmDriver
    deinitDev9Driver
    deinitFileXioDriver

/-! ## 2. Splitting a path -/

/-- The count `str_split` allocates slots for: the delimiters, a trailing token, and the
terminating `NULL`. -/
def splitCount (delim : UInt8) (s : Bytes) : Nat :=
  s.count delim + (if s.getLast? = some delim then 0 else 1) + 1

/-- What the successive calls of `strtok` return; `fuel` is at least the number of tokens. -/
def tokens (delim : UInt8) : Nat → Bytes → List Bytes
  | 0, _ => []
  | fuel + 1, s =>
    match strtok delim s with
    | none => []
    | some (token, rest) => token :: tokens delim fuel rest

/-- The `while (token)` loop of `str_split` from index `idx` on; `none` is a failed `strdup`. -/
def storeTokens (count : Nat) : Nat → List Bytes → DriverM (List (Option Bytes))
  | idx, [] => do
    assertThat (idx == count - 1)
    pure []
  | idx, token :: rest => do
    assertThat (decide (idx < count))
    let copy ← lib (.strdup token)
    let more ← storeTokens count (idx + 1) rest
    pure ((if copy ≠ 0 then some token else none) :: more)

/-- `str_split(a_str, a_delim)`; `none` is the `NULL` of a failed `malloc` -/
def strSplit (s : Bytes) (delim : UInt8) : DriverM (Option (List (Option Bytes))) := do
  let count := splitCount delim s
  if (← lib (.malloc (4 * count))) ≠ 0 then
    let items ← storeTokens count 0 (tokens delim s.length s)
    pure (some items)
  else
    pure none

/-- What `getMountInfo` writes when it returns true. -/
structure MountInfo where
  mountString : Bytes
  mountPoint : Bytes
  newCwd : Bytes
  deriving DecidableEq, Repr

def colon : UInt8 := 58

/-- The strings `getMountInfo` formats from the items, which end at the first `NULL`. -/
def mountInfo (items : List (Option Bytes)) : Option MountInfo :=
  match (items.takeWhile Option.isSome).map (Option.getD · []) with
  | first :: second :: third :: more =>
    let mountString := third ++ [colon]
    some ⟨mountString, first ++ [colon] ++ second, mountString ++ more.head?.getD []⟩
  | _ => none

def getMountInfo (path : Bytes) : DriverM (Option MountInfo) := do
  let split ← strSplit path colon
  pure (split.bind mountInfo)

/-! ## 3. Mounting -/

def mountHddPartition (mountpoint blockdev : Bytes) : DriverM Int := do
  if (← getStatus .hdd) ≠ HddInitStatus.irxOk then
    pure HddMountStatus.notReady
  else if (← lib (.fileXioMount mountpoint blockdev)) < 0 then
    pure HddMountStatus.error
  else
    pure HddMountStatus.ok

/-- `mount_current_hdd_partition` from `getMountInfo` on -/
def mountPartitionOf (cwd : Bytes) : DriverM Int := do
  match ← getMountInfo cwd with
  | none => pure HddMountStatus.infoError
  | some info => do
    -- the global string changes even when the mount fails
    setMountString info.mountString
    if (← lib (.fileXioMount info.mountString info.mountPoint)) < 0 then
      pure HddMountStatus.error
    else
      let _ ← lib (.chdir info.newCwd)
      setMountStatus HddMountStatus.ok
      pure HddMountStatus.ok

def mountCurrentHddPartition : DriverM Int := do
  if (← getStatus .hdd) ≠ HddInitStatus.irxOk then
    pure HddMountStatus.notReady
  else if ← cwdIsHdd then
    mountPartitionOf (← getcwd)
  else
    pure HddMountStatus.wrongCwd

/-- `fileXioDevctl("hdd0:", HDIOC_IDLEIMM, ..)` -/
def hddIdle : LibCall := .fileXioDevctl (lit "hdd0:") .hdiocIdleimm

def umountHddPartition (mountpoint : Bytes) : DriverM Unit := do
  if (← getMountStatus) = HddMountStatus.ok then
    let _ ← lib (.fileXioUmount mountpoint)
    let _ ← lib (.fileXioDevctl mountpoint .pdiocCloseall)
    let _ ← lib hddIdle
    setMountStatus HddMountStatus.unknown
    setMountString []
  else
    pure ()

def umountCurrentHddPartition : DriverM Unit := do
  umountHddPartition (← getMountString)

end Ps2Drivers
