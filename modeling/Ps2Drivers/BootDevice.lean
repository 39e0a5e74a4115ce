import Ps2Drivers.Lib.CString

/-!
# Boot devices

`ps2_boot_device.c`: the fifteen device prefixes, the root path of a device, and the
classification of a path by its prefix.
-/

open Binary CString

namespace Ps2Drivers

/-- `enum BootDeviceIDs`, without the `BOOT_DEVICE_COUNT` that only counts them -/
inductive BootDevice
  | unknown
  | mc0
  | mc1
  | cdrom
  | cdfs
  | mass
  | mass0
  | mass1
  | mx4sio
  | mx4sio0
  | mx4sio1
  | hdd
  | hdd0
  | host
  | host0
  | host1
  deriving DecidableEq, Repr

/-- `DEVICE_MC0` to `DEVICE_HOST1`; the unknown device has no prefix. -/
def BootDevice.devicePrefix : BootDevice → Bytes
  | .unknown => []
  | .mc0 => lit "mc0:"
  | .mc1 => lit "mc1:"
  | .cdrom => lit "cdrom0:"
  | .cdfs => lit "cdfs:"
  | .mass => lit "mass:"
  | .mass0 => lit "mass0:"
  | .mass1 => lit "mass1:"
  | .mx4sio => lit "mx4sio:"
  | .mx4sio0 => lit "mx4sio0:"
  | .mx4sio1 => lit "mx4sio1:"
  | .hdd => lit "hdd:"
  | .hdd0 => lit "hdd0:"
  | .host => lit "host:"
  | .host0 => lit "host0:"
  | .host1 => lit "host1:"

/-- The devices in the order `getBootDeviceID` tests them. -/
def bootDevices : List BootDevice :=
  [.mc0, .mc1, .cdrom, .cdfs, .mass, .mass0, .mass1, .mx4sio, .mx4sio0, .mx4sio1, .hdd, .hdd0,
    .host, .host0, .host1]

def hasDevicePrefix (path : Option Bytes) (device : Bytes) : Bool :=
  match path with
  | none => false
  | some path => hasPrefix device path

def rootDevicePath (deviceId : BootDevice) : Bytes :=
  match deviceId with
  | .unknown => []
  | device => device.devicePrefix ++ lit "/"

/-- `getBootDeviceID(path)`: the first device whose prefix the path has -/
def getBootDeviceID (path : Option Bytes) : BootDevice :=
  match bootDevices.find? fun device => hasDevicePrefix path device.devicePrefix with
  | some device => device
  | none => .unknown

example : getBootDeviceID (some (lit "mx4sio0:/apps/test.elf")) = .mx4sio0 := by decide

/-! ## Exactness -/

theorem mem_bootDevices (d : BootDevice) : d ∈ bootDevices ↔ d ≠ .unknown := by
  cases d <;> decide

/-- No device prefix starts another one: `mass:` and `mass0:` differ at the colon. -/
theorem devicePrefix_prefixFree : ∀ d ∈ bootDevices, ∀ e ∈ bootDevices,
    d.devicePrefix <+: e.devicePrefix → d = e := by
  decide

/-- So a path has the prefix of one device at most. -/
theorem devicePrefix_unique {path : Bytes} {d e : BootDevice} (hd : d ∈ bootDevices)
    (he : e ∈ bootDevices) (hdp : d.devicePrefix <+: path) (hep : e.devicePrefix <+: path) :
    d = e := by
  rcases List.prefix_or_prefix_of_prefix hdp hep with h | h
  · exact devicePrefix_prefixFree d hd e he h
  · exact (devicePrefix_prefixFree e he d hd h).symm

theorem hasDevicePrefix_some (path device : Bytes) :
    hasDevicePrefix (some path) device = true ↔ device <+: path :=
  List.isPrefixOf_iff_prefix

/-- The tests of `getBootDeviceID`, made in the order of `devices`. -/
def firstDevice (devices : List BootDevice) (path : Option Bytes) : BootDevice :=
  match devices.find? fun device => hasDevicePrefix path device.devicePrefix with
  | some device => device
  | none => .unknown

section

variable {devices : List BootDevice} {path : Bytes}

/-- Whatever the order, the device found is the one whose prefix the path has. -/
theorem firstDevice_eq_iff (hperm : devices.Perm bootDevices) {d : BootDevice}
    (hd : d ∈ bootDevices) : firstDevice devices (some path) = d ↔ d.devicePrefix <+: path := by
  unfold firstDevice
  split
  · rename_i e hfind
    have he : e ∈ bootDevices := hperm.subset (List.mem_of_find?_eq_some hfind)
    have htest := List.find?_some hfind
    have hprefix : e.devicePrefix <+: path := (hasDevicePrefix_some _ _).mp htest
    constructor
    · rintro rfl
      exact hprefix
    · exact fun hdp => devicePrefix_unique he hd hprefix hdp
  · rename_i hfind
    have hnone := List.find?_eq_none.mp hfind d (hperm.symm.subset hd)
    refine iff_of_false ?_ fun h => hnone ((hasDevicePrefix_some _ _).mpr h)
    rintro rfl
    exact (mem_bootDevices _).mp hd rfl

theorem firstDevice_unknown_iff (hperm : devices.Perm bootDevices) :
    firstDevice devices (some path) = .unknown ↔
      ∀ d ∈ bootDevices, ¬ d.devicePrefix <+: path := by
  constructor
  · intro h d hd hdp
    rw [(firstDevice_eq_iff hperm hd).mpr hdp] at h
    exact (mem_bootDevices d).mp hd h
  · intro h
    by_contra hne
    have hmem := (mem_bootDevices _).mpr hne
    exact h _ hmem ((firstDevice_eq_iff hperm hmem).mp rfl)

/-- The order of the tests does not matter. -/
theorem firstDevice_perm (hperm : devices.Perm bootDevices) (path : Option Bytes) :
    firstDevice devices path = getBootDeviceID path := by
  cases path with
  | none =>
    -- `NULL` fails every test
    have hnull (ds : List BootDevice) : firstDevice ds none = .unknown := by
      have hfind : ds.find? (fun device => hasDevicePrefix none device.devicePrefix) = none :=
        List.find?_eq_none.mpr fun _ _ => Bool.false_ne_true
      rw [firstDevice, hfind]
    rw [hnull]
    exact (hnull bootDevices).symm
  | some path =>
    change _ = firstDevice bootDevices (some path)
    by_cases hunknown : firstDevice bootDevices (some path) = .unknown
    · rw [hunknown, firstDevice_unknown_iff hperm]
      exact (firstDevice_unknown_iff (List.Perm.refl _)).mp hunknown
    · have hmem := (mem_bootDevices _).mpr hunknown
      rw [firstDevice_eq_iff hperm hmem]
      exact (firstDevice_eq_iff (List.Perm.refl _) hmem).mp rfl

theorem getBootDeviceID_eq_iff {d : BootDevice} (hd : d ∈ bootDevices) :
    getBootDeviceID (some path) = d ↔ d.devicePrefix <+: path :=
  firstDevice_eq_iff (List.Perm.refl _) hd

theorem getBootDeviceID_unknown_iff :
    getBootDeviceID (some path) = .unknown ↔ ∀ d ∈ bootDevices, ¬ d.devicePrefix <+: path :=
  firstDevice_unknown_iff (List.Perm.refl _)

end

/-- The root path of a device, and whatever is below it, is classified as the device. -/
theorem getBootDeviceID_rootDevicePath {d : BootDevice} (hd : d ∈ bootDevices) (suffix : Bytes) :
    getBootDeviceID (some (rootDevicePath d ++ suffix)) = d := by
  rw [getBootDeviceID_eq_iff hd]
  have hroot : rootDevicePath d = d.devicePrefix ++ lit "/" := by
    cases d with
    | unknown => exact absurd rfl ((mem_bootDevices _).mp hd)
    | _ => rfl
  rw [hroot, List.append_assoc]
  exact List.prefix_append _ _

end Ps2Drivers
