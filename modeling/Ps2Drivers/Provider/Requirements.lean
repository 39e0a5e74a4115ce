import Ps2Drivers.Image.Format
import Ps2Drivers.BootDevice

/-!
# Requirements and modules

The IRX modules of the manifest, the drivers an application can require, the requirement masks of
`ps2_drivers_img.h`, and `expand_requirements`, the table from a mask to the set of module ids to
stage.
-/

open Binary

namespace Ps2Drivers

/-! ## 1. Modules -/

inductive Irx
  | sio2man
  | iomanX
  | fileXio
  | mcman
  | mcserv
  | bdm
  | bdmfsFatfs
  | usbd
  | usbmassBd
  | mx4sioBd
  | cdfs
  | ps2dev9
  | ps2atad
  | ps2hdd
  | ps2fs
  | mtapman
  | padman
  | libsd
  | audsrv
  | poweroff
  | ps2mouse
  | ps2kbd
  | ps2cam
  | netman
  | smap
  | ps2ipNm
  | ps2ips
  deriving DecidableEq, Repr

/-- The `PS2_IRX_ID_*` constants that the build generates from `irx/manifest.txt`. -/
def irxId : Irx → UInt32
  | .sio2man => 1
  | .iomanX => 2
  | .fileXio => 3
  | .mcman => 4
  | .mcserv => 5
  | .bdm => 6
  | .bdmfsFatfs => 7
  | .usbd => 8
  | .usbmassBd => 9
  | .mx4sioBd => 10
  | .cdfs => 11
  | .ps2dev9 => 12
  | .ps2atad => 13
  | .ps2hdd => 14
  | .ps2fs => 15
  | .mtapman => 16
  | .padman => 17
  | .libsd => 18
  | .audsrv => 19
  | .poweroff => 20
  | .ps2mouse => 21
  | .ps2kbd => 22
  | .ps2cam => 23
  | .netman => 24
  | .smap => 25
  | .ps2ipNm => 26
  | .ps2ips => 27

theorem irxId_injective : Function.Injective irxId := by
  intro m n h
  cases m <;> cases n <;> first | rfl | exact absurd h (by decide)

theorem irxId_range (m : Irx) : 1 ≤ irxId m ∧ irxId m ≤ irximgMaxEntries := by
  cases m <;> decide

/-! ## 2. Driver requirements -/

/-- The drivers of `enum ps2_driver_requirement`. -/
inductive Driver
  | sio2man
  | fileXio
  | memcard
  | bdm
  | usbd
  | usb
  | mx4sio
  | cdfs
  | dev9
  | hdd
  | joystick
  | audio
  | poweroff
  | mouse
  | keyboard
  | camera
  | netman
  | smap
  | eeip
  | iopip
  deriving DecidableEq, Repr

def Driver.bit : Driver → UInt32
  | .sio2man => 0
  | .fileXio => 1
  | .memcard => 2
  | .bdm => 3
  | .usbd => 4
  | .usb => 5
  | .mx4sio => 6
  | .cdfs => 7
  | .dev9 => 8
  | .hdd => 9
  | .joystick => 10
  | .audio => 11
  | .poweroff => 12
  | .mouse => 13
  | .keyboard => 14
  | .camera => 15
  | .netman => 16
  | .smap => 17
  | .eeip => 18
  | .iopip => 19

def Driver.req (d : Driver) : UInt32 := 1 <<< d.bit

def reqKnownMask : UInt32 := ((1 : UInt32) <<< 20) - 1

def reqFilesystemAll : UInt32 :=
  Driver.poweroff.req ||| Driver.fileXio.req ||| Driver.memcard.req ||| Driver.usb.req |||
    Driver.mx4sio.req ||| Driver.cdfs.req ||| Driver.dev9.req ||| Driver.hdd.req

/-- The mask asks for the driver: `requirements & PS2_DRIVER_REQ_X` is not zero. -/
def requires (requirements : UInt32) (d : Driver) : Bool := requirements &&& d.req != 0

/-- The modules `expand_requirements` marks for a driver, in its order. -/
def Driver.modules : Driver → List Irx
  | .sio2man => [.sio2man]
  | .fileXio => [.iomanX, .fileXio]
  | .memcard => [.sio2man, .mcman, .mcserv]
  | .bdm => [.bdm, .bdmfsFatfs]
  | .usbd => [.usbd]
  | .usb => [.bdm, .bdmfsFatfs, .usbd, .usbmassBd]
  | .mx4sio => [.sio2man, .bdm, .bdmfsFatfs, .mx4sioBd]
  | .cdfs => [.cdfs]
  | .dev9 => [.ps2dev9]
  | .hdd => [.iomanX, .fileXio, .bdm, .bdmfsFatfs, .ps2dev9, .ps2atad, .ps2hdd, .ps2fs]
  | .joystick => [.sio2man, .mtapman, .padman]
  | .audio => [.libsd, .audsrv]
  | .poweroff => [.poweroff]
  | .mouse => [.usbd, .ps2mouse]
  | .keyboard => [.usbd, .ps2kbd]
  | .camera => [.usbd, .ps2cam]
  | .netman => [.netman]
  | .smap => [.smap]
  | .eeip => [.ps2dev9, .netman, .smap]
  | .iopip => [.ps2dev9, .netman, .smap, .ps2ipNm, .ps2ips]

/-- The drivers in the order `expand_requirements` tests them. -/
def Driver.all : List Driver :=
  [.sio2man, .fileXio, .memcard, .bdm, .usbd, .usb, .mx4sio, .cdfs, .dev9, .hdd, .joystick, .audio,
    .poweroff, .mouse, .keyboard, .camera, .netman, .smap, .eeip, .iopip]

theorem Driver.mem_all (d : Driver) : d ∈ Driver.all := by
  cases d <;> decide

/-! ## 3. `expand_requirements` -/

/-- `requested[id] = 1u`, when the array has that index -/
def markModule (requested : UInt32 → Bool) (id : UInt32) : UInt32 → Bool :=
  if id ≤ irximgMaxEntries then Function.update requested id true else requested

def markDriver (ids : Irx → UInt32) (requirements : UInt32) (requested : UInt32 → Bool)
    (d : Driver) : UInt32 → Bool :=
  if requires requirements d then
    d.modules.foldl (fun requested m => markModule requested (ids m)) requested
  else requested

/-- `expand_requirements(requirements, requested)` on the zeroed array; `ids` are the generated
`PS2_IRX_ID_*` constants. -/
def expandRequirements (ids : Irx → UInt32) (requirements : UInt32) : UInt32 → Bool :=
  Driver.all.foldl (markDriver ids requirements) fun _ => false

/-- The modules the drivers of a mask need: what the expansion is for. -/
def requiredModules (requirements : UInt32) : Set Irx :=
  {m | ∃ d : Driver, requires requirements d = true ∧ m ∈ d.modules}

theorem markModule_eq_true (requested : UInt32 → Bool) (id i : UInt32) :
    markModule requested id i = true ↔
      requested i = true ∨ (i = id ∧ id ≤ irximgMaxEntries) := by
  unfold markModule
  split
  · rename_i hle
    by_cases hi : i = id
    · simp [hi, hle]
    · simp [hi]
  · rename_i hle
    simp [hle]

theorem markModules_eq_true (ids : Irx → UInt32) (ms : List Irx) (requested : UInt32 → Bool)
    (i : UInt32) :
    ms.foldl (fun requested m => markModule requested (ids m)) requested i = true ↔
      requested i = true ∨ ∃ m ∈ ms, i = ids m ∧ ids m ≤ irximgMaxEntries := by
  induction ms generalizing requested with
  | nil => simp
  | cons m ms ih =>
    rw [List.foldl_cons, ih, markModule_eq_true]
    simp only [List.exists_mem_cons_iff, or_assoc]

theorem markDrivers_eq_true (ids : Irx → UInt32) (requirements : UInt32) (ds : List Driver)
    (requested : UInt32 → Bool) (i : UInt32) :
    ds.foldl (markDriver ids requirements) requested i = true ↔
      requested i = true ∨ ∃ d ∈ ds, requires requirements d = true ∧
        ∃ m ∈ d.modules, i = ids m ∧ ids m ≤ irximgMaxEntries := by
  induction ds generalizing requested with
  | nil => simp
  | cons d ds ih =>
    have hone : markDriver ids requirements requested d i = true ↔ requested i = true ∨
        (requires requirements d = true ∧
          ∃ m ∈ d.modules, i = ids m ∧ ids m ≤ irximgMaxEntries) := by
      unfold markDriver
      split
      · rename_i hreq
        rw [markModules_eq_true]
        simp only [hreq, true_and]
      · rename_i hreq
        simp only [hreq, false_and, or_false, Bool.false_eq_true]
    rw [List.foldl_cons, ih, hone]
    simp only [List.exists_mem_cons_iff, or_assoc]

/-- An id is requested exactly when it is the id, within the bitmap, of a module that some driver
of the mask needs. -/
theorem expandRequirements_eq_true (ids : Irx → UInt32) (requirements i : UInt32) :
    expandRequirements ids requirements i = true ↔
      ∃ m ∈ requiredModules requirements, ids m = i ∧ ids m ≤ irximgMaxEntries := by
  rw [expandRequirements, markDrivers_eq_true]
  constructor
  · rintro (h | ⟨d, -, hreq, m, hm, rfl, hle⟩)
    · exact absurd h (by decide)
    · exact ⟨m, ⟨d, hreq, hm⟩, rfl, hle⟩
  · rintro ⟨m, ⟨d, hreq, hm⟩, rfl, hle⟩
    exact Or.inr ⟨d, Driver.mem_all d, hreq, m, hm, rfl, hle⟩

/-- The known bits are the drivers' bits. -/
theorem reqKnownMask_eq : reqKnownMask = Driver.all.foldl (fun mask d => mask ||| d.req) 0 := by
  decide

/-- A non-zero mask of known bits asks for some driver. -/
theorem exists_requires {requirements : UInt32} (hne : requirements ≠ 0)
    (hknown : requirements &&& ~~~ reqKnownMask = 0) :
    ∃ d, requires requirements d = true := by
  by_contra hnone
  have hzero (d : Driver) : requirements &&& d.req = 0 := by
    by_contra hd
    exact hnone ⟨d, by simpa [requires] using hd⟩
  have hfold (ds : List Driver) (mask : UInt32) (hmask : requirements &&& mask = 0) :
      requirements &&& ds.foldl (fun mask d => mask ||| d.req) mask = 0 := by
    induction ds generalizing mask with
    | nil => exact hmask
    | cons d ds ih =>
      rw [List.foldl_cons]
      apply ih
      rw [uint32_and_or, hmask, hzero, UInt32.or_self]
  apply hne
  have hsplit : requirements &&& (reqKnownMask ||| ~~~ reqKnownMask) = 0 := by
    rw [uint32_and_or, hknown, reqKnownMask_eq, hfold _ _ (UInt32.and_zero), UInt32.or_self]
  rwa [show reqKnownMask ||| ~~~ reqKnownMask = -1 by decide, UInt32.and_neg_one] at hsplit

end Ps2Drivers
