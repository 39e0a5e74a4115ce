import Ps2Drivers.Drivers.BootStaging
import Ps2Drivers.Image.RoundTrip
import Ps2Drivers.Provider.Closure
import Ps2Drivers.Provider.Staged

/-!
# The staging test

`ps2_irximg_stage_test.c`, the host program that tries the provider on an image.  It asks for the
modules of every driver in turn, checks the counters and the errors on the way, and ends with a code
that names the first check that fails.
-/

open Binary CString

namespace Ps2Drivers

/-! ## 1. The tables -/

/-- `struct stage_case`, without the name that is only printed -/
structure StageCase where
  requirements : UInt32
  expectedModules : Nat

structure BootCase where
  path : Bytes
  device : BootDevice
  expectedRequirements : UInt32

def stageCases : List StageCase :=
  [⟨Driver.sio2man.req, 1⟩, ⟨Driver.fileXio.req, 2⟩, ⟨Driver.memcard.req, 3⟩, ⟨Driver.bdm.req, 2⟩,
    ⟨Driver.usbd.req, 1⟩, ⟨Driver.usb.req, 4⟩, ⟨Driver.mx4sio.req, 4⟩, ⟨Driver.cdfs.req, 1⟩,
    ⟨Driver.dev9.req, 1⟩, ⟨Driver.hdd.req, 8⟩, ⟨Driver.joystick.req, 3⟩, ⟨Driver.audio.req, 2⟩,
    ⟨Driver.poweroff.req, 1⟩, ⟨Driver.mouse.req, 2⟩, ⟨Driver.keyboard.req, 2⟩,
    ⟨Driver.camera.req, 2⟩, ⟨Driver.netman.req, 1⟩, ⟨Driver.smap.req, 1⟩, ⟨Driver.eeip.req, 3⟩,
    ⟨Driver.iopip.req, 5⟩, ⟨reqFilesystemAll, 16⟩]

def bootCases : List BootCase :=
  let memcard := Driver.fileXio.req ||| Driver.memcard.req
  let cdfs := Driver.fileXio.req ||| Driver.cdfs.req
  let mass := Driver.fileXio.req ||| Driver.usb.req ||| Driver.mx4sio.req
  let hdd := Driver.fileXio.req ||| Driver.poweroff.req ||| Driver.hdd.req
  [⟨lit "mc0:/apps/test.elf", .mc0, memcard⟩, ⟨lit "mc1:/apps/test.elf", .mc1, memcard⟩,
    ⟨lit "cdrom0:/TEST.ELF;1", .cdrom, cdfs⟩, ⟨lit "cdfs:/TEST.ELF", .cdfs, cdfs⟩,
    ⟨lit "mass:/apps/test.elf", .mass, mass⟩, ⟨lit "mass0:/apps/test.elf", .mass0, mass⟩,
    ⟨lit "mass1:/apps/test.elf", .mass1, mass⟩, ⟨lit "mx4sio:/apps/test.elf", .mx4sio, mass⟩,
    ⟨lit "mx4sio0:/apps/test.elf", .mx4sio0, mass⟩,
    ⟨lit "mx4sio1:/apps/test.elf", .mx4sio1, mass⟩, ⟨lit "hdd:/apps/test.elf", .hdd, hdd⟩,
    ⟨lit "hdd0:/apps/test.elf", .hdd0, hdd⟩,
    ⟨lit "host:/apps/test.elf", .host, Driver.fileXio.req⟩,
    ⟨lit "host0:/apps/test.elf", .host0, Driver.fileXio.req⟩,
    ⟨lit "host1:/apps/test.elf", .host1, Driver.fileXio.req⟩,
    ⟨lit "/native/host/path/test.elf", .unknown, Driver.fileXio.req⟩]

/-! ## 2. The program -/

def ps2DriversImgErrorString (error : Int) : Bytes :=
  if error = ImgError.ok.code then lit "success"
  else if error = ImgError.errArgument.code then
    lit "invalid argument or driver requirement mask"
  else if error = ImgError.errAlreadyStaged.code then lit "IRX modules are already staged"
  else if error = ImgError.errOpen.code then lit "failed to open IRX image"
  else if error = ImgError.errIo.code then lit "IRX image I/O error"
  else if error = ImgError.errFormat.code then lit "invalid IRX image format"
  else if error = ImgError.errMissingModule.code then
    lit "required IRX module is missing from the image"
  else if error = ImgError.errCrc.code then lit "IRX payload CRC mismatch"
  else if error = ImgError.errMemory.code then lit "not enough memory to stage IRX modules"
  else if error = ImgError.errNoSource.code then lit "no remembered IRX image source"
  else if error = ImgError.errCwd.code then
    lit "failed to determine the current working directory"
  else lit "unknown ps2_drivers image error"

/-- The body of the loop of `check_boot_helpers`. -/
def checkBootCase (c : BootCase) : Int :=
  let device := getBootDeviceID (some c.path)
  let (result, requirements) :=
    ps2DriversImgRequirementsForPath (some c.path) Driver.audio.req (some 0)
  let root := rootDevicePath device
  if device ≠ c.device then 1
  else if ps2DriversImgRequirementsForBootDevice device ≠ c.expectedRequirements then 2
  else if result ≠ .ok ∨ requirements ≠ some (c.expectedRequirements ||| Driver.audio.req) then 3
  else if device ≠ .unknown ∧ (root = [] ∨ getBootDeviceID (some root) ≠ device) then 4
  else 0

/-- `check_boot_helpers()`: the first case that fails returns. -/
def checkBootHelpers : Int := ((bootCases.map checkBootCase).find? (· ≠ 0)).getD 0

def consumeAllStagedModules : ProviderM Unit := moduleIds.forM ps2DriversImgReleaseStaged

/-- The result is `OK` and as many modules are staged. -/
def stagedExactly (result : ImgError) (expectedModules : Nat) : ProviderM Bool := do
  let modules ← ps2DriversImgStagedModules
  return result = .ok && modules = expectedModules

def nothingStaged : ProviderM Bool := do
  let modules ← ps2DriversImgStagedModules
  let bytes ← ps2DriversImgStagedBytes
  return modules = 0 && bytes = 0

def missingImagePath : Bytes := lit "__ps2_drivers_missing_image__.irximg"

section

variable (env : Env)

/-- The body of the loop of `main` for the `i`-th case: the code it returns, if it does. -/
def runStageCase (imagePath : Bytes) (i : Nat) (c : StageCase) : ProviderM (Option Int) := do
  let result ← ps2DriversImgStage irxId env (some imagePath) c.requirements
  if result ≠ .ok then
    return some (10 + i)
  let stagedBytes ← ps2DriversImgStagedBytes
  let modules ← ps2DriversImgStagedModules
  if modules ≠ c.expectedModules ∨ stagedBytes = 0 then
    return some (40 + i)
  let result ← ps2DriversImgStage irxId env (some imagePath) c.requirements
  if result ≠ .errAlreadyStaged then
    return some (70 + i)
  let result ← ps2DriversImgRestage irxId env c.requirements
  if result ≠ .errAlreadyStaged then
    return some (70 + i)
  let result ← ps2DriversImgRestageLast irxId env
  if result ≠ .errAlreadyStaged then
    return some (70 + i)
  consumeAllStagedModules
  let empty ← nothingStaged
  if !empty then
    return some (100 + i)
  let result ← ps2DriversImgRestage irxId env c.requirements
  let good ← stagedExactly result c.expectedModules
  let bytes ← ps2DriversImgStagedBytes
  if !good || bytes ≠ stagedBytes then
    return some (130 + i)
  ps2DriversImgDiscardStaged
  return none

def runStageCases (imagePath : Bytes) : Nat → List StageCase → ProviderM (Option Int)
  | _, [] => return none
  | i, c :: cases => do
    match ← runStageCase env imagePath i c with
    | some code => return some code
    | none => runStageCases imagePath (i + 1) cases

def sourceForgotten : ProviderM Bool := do
  let result ← ps2DriversImgRestage irxId env Driver.joystick.req
  if result ≠ .errNoSource then
    return false
  let result ← ps2DriversImgRestageLast irxId env
  return result = .errNoSource

def checkConvenienceStaging : ProviderM Int := do
  let result ← ps2DriversImgStageDefaultForBootDevice irxId env .host
    (Driver.audio.req ||| Driver.joystick.req)
  let good ← stagedExactly result 7
  if !good then
    return 1
  consumeAllStagedModules
  let empty ← nothingStaged
  if !empty then
    return 2
  let result ← ps2DriversImgRestageLast irxId env
  let good ← stagedExactly result 7
  if !good then
    return 3
  ps2DriversImgDiscardStaged
  let result ← ps2DriversImgStageDefaultForPath irxId env (some (lit "mc0:/apps/test.elf"))
    Driver.joystick.req
  let good ← stagedExactly result 7
  if !good then
    return 4
  ps2DriversImgDiscardStaged
  let result ← ps2DriversImgStageDefaultForCurrentBoot irxId env Driver.joystick.req
  let good ← stagedExactly result 5
  if !good then
    return 5
  ps2DriversImgDiscardStaged
  let result ← ps2DriversImgStageDefaultForAllFilesystems irxId env Driver.audio.req
  let good ← stagedExactly result 18
  if !good then
    return 6
  ps2DriversImgDiscardStaged
  ps2DriversImgForgetSource
  let result ← ps2DriversImgRestageLast irxId env
  if result ≠ .errNoSource then
    return 7
  return 0

/-- `main`, every environment being the one of the whole run.  An error has always a text, so the
check for `NULL` is left out. -/
def stageTestMain (argv : List Bytes) : ProviderM Int := do
  match argv with
  | [_, imagePath] =>
    if ps2DriversImgErrorString ImgError.errOpen.code ≠ lit "failed to open IRX image" then
      return 3
    if checkBootHelpers ≠ 0 then
      return 4
    let forgotten ← sourceForgotten env
    if !forgotten then
      return 5
    match ← runStageCases env imagePath 0 stageCases with
    | some code => return code
    | none =>
      let result ← ps2DriversImgStage irxId env (some missingImagePath) Driver.joystick.req
      if result ≠ .errOpen then
        return 190
      let result ← ps2DriversImgRestage irxId env Driver.joystick.req
      let good ← stagedExactly result 3
      if !good then
        return 191
      ps2DriversImgDiscardStaged
      ps2DriversImgForgetSource
      let forgotten ← sourceForgotten env
      if !forgotten then
        return 200
      let result ← checkConvenienceStaging env
      if result ≠ 0 then
        return 201
      return 0
  | _ => return 2

end

example : checkBootHelpers = 0 := by decide +kernel

/-! ## 3. The pieces -/

theorem ProviderM.bind_run {α β : Type} {m : ProviderM α} {k : α → ProviderM β} {w w' : World}
    {a : α} (h : m w = (a, w')) : (m >>= k) w = k a w' := by
  show k (m w).1 (m w).2 = _
  rw [h]

structure StageCase.Sound (c : StageCase) : Prop where
  mask : badRequirements c.requirements = false
  modules : (requestedIds irxId c.requirements).length = c.expectedModules

theorem stageCases_sound : ∀ c ∈ stageCases, c.Sound := by
  have h : ∀ c ∈ stageCases, badRequirements c.requirements = false ∧
      (requestedIds irxId c.requirements).length = c.expectedModules := by decide +kernel
  exact fun c hc => ⟨(h c hc).1, (h c hc).2⟩

section

variable {w : World} {source : Option Bytes × UInt32} {path image : Bytes}
  {driverRequirements : UInt32}

theorem stagedModules_run (w : World) :
    ps2DriversImgStagedModules w = (w.provider.stagedCount, w) := rfl

theorem stagedBytes_run (w : World) :
    ps2DriversImgStagedBytes w = (w.provider.stagedBytes, w) := rfl

theorem World.StagedFrom.consume (hw : w.StagedFrom path image driverRequirements) :
    ∃ w', consumeAllStagedModules w = ((), w') ∧ w'.Vacant (some path, driverRequirements) := by
  obtain ⟨w', hrun, hvalid, hsource, hpayload⟩ := releaseAll_run hw.valid moduleIds
  refine ⟨w', hrun, hvalid, ?_, hsource.trans hw.source⟩
  refine (Provider.idle_iff_payload hvalid.invariant).mpr fun id => (hpayload id).trans ?_
  by_cases hid : id ∈ moduleIds
  · exact if_pos hid
  · -- only ids that are released can be staged
    rw [if_neg hid]
    by_contra hne
    have hmem := (Provider.payload_of_slots hw.valid.invariant hw.slots id).mp hne
    exact hid (List.mem_filter.mp hmem).1

theorem World.Vacant.nothingStaged (hw : w.Vacant source) : nothingStaged w = (true, w) := by
  show (decide (w.provider.stagedCount = 0) && decide (w.provider.stagedBytes = 0), w) = _
  rw [hw.counters.1, hw.counters.2]
  rfl

theorem World.StagedFrom.exactly (hw : w.StagedFrom path image driverRequirements) {n : Nat}
    (hn : (requestedIds irxId driverRequirements).length = n) :
    stagedExactly .ok n w = (true, w) := by
  show (decide (ImgError.ok = .ok) && decide (w.provider.stagedCount = n), w) = _
  rw [hw.modules, hn, decide_eq_true rfl, decide_eq_true rfl]
  rfl

theorem stagedExactly_of_ne {result : ImgError} (hne : result ≠ .ok) (n : Nat) (w : World) :
    stagedExactly result n w = (false, w) := by
  show (decide (result = .ok) && decide (w.provider.stagedCount = n), w) = _
  rw [decide_eq_false hne]
  rfl

end

/-! ## 4. The loop -/

section

variable {env : Env} (henv : env.allOk) {path : Bytes}

include henv

/-- A case whose modules the image has passes all its checks, and leaves nothing staged. -/
theorem runStageCase_supplied {c : StageCase} (hc : c.Sound)
    (hsupplies : env.supplies path c.requirements) (i : Nat) {w : World}
    {source : Option Bytes × UInt32} (hw : w.Vacant source) :
    ∃ w', runStageCase env path i c w = (none, w') ∧ w'.Vacant (some path, c.requirements) := by
  obtain ⟨image, w₁, hfile, hstage, hstaged⟩ := (hw.stage henv hc.mask).succeeds hsupplies
  obtain ⟨hagain, hrestage, hlast⟩ :
      ps2DriversImgStage irxId env (some path) c.requirements w₁ = (.errAlreadyStaged, w₁) ∧
        ps2DriversImgRestage irxId env c.requirements w₁ = (.errAlreadyStaged, w₁) ∧
        ps2DriversImgRestageLast irxId env w₁ = (.errAlreadyStaged, w₁) :=
    hstaged.rejects hc.mask path
  obtain ⟨w₂, hconsume, hvacant⟩ := hstaged.consume
  obtain ⟨image', w₃, hfile', hsecond, hstaged'⟩ := (hvacant.restage henv hc.mask).succeeds hsupplies
  -- the file has not changed, so the second staging makes as many bytes as the first
  obtain rfl := Option.some.inj (hfile.symm.trans hfile')
  have hcounts : ¬ (w₁.provider.stagedCount ≠ c.expectedModules ∨ w₁.provider.stagedBytes = 0) := by
    rw [hstaged.modules, hc.modules, not_or, not_not]
    exact ⟨rfl, hstaged.bytes_ne_zero⟩
  have hsame : w₃.provider.stagedBytes = w₁.provider.stagedBytes :=
    hstaged'.bytes.trans hstaged.bytes.symm
  obtain ⟨w', hdiscard, hvacant'⟩ := hstaged'.discard
  -- none of the early returns is taken
  unfold runStageCase
  rw [ProviderM.bind_run hstage, if_neg (not_not.mpr rfl), ProviderM.bind_run (stagedBytes_run w₁),
    ProviderM.bind_run (stagedModules_run w₁), if_neg hcounts, ProviderM.bind_run hagain,
    if_neg (not_not.mpr rfl), ProviderM.bind_run hrestage, if_neg (not_not.mpr rfl),
    ProviderM.bind_run hlast, if_neg (not_not.mpr rfl), ProviderM.bind_run hconsume,
    ProviderM.bind_run hvacant.nothingStaged, if_neg (by decide), ProviderM.bind_run hsecond,
    ProviderM.bind_run (hstaged'.exactly hc.modules), ProviderM.bind_run (stagedBytes_run w₃),
    hsame, if_neg (by simp), ProviderM.bind_run hdiscard]
  exact ⟨w', rfl, hvacant'⟩

/-- Any other case ends the test where it stages. -/
theorem runStageCase_unsupplied {c : StageCase} (hc : c.Sound)
    (hnot : ¬ env.supplies path c.requirements) (i : Nat) {w : World}
    {source : Option Bytes × UInt32} (hw : w.Vacant source) :
    ∃ w', runStageCase env path i c w = (some (10 + (i : Int)), w') ∧ w'.Vacant source := by
  obtain ⟨e, w', hstage, hne, -, hvacant⟩ := (hw.stage henv hc.mask).fails hw hnot
  unfold runStageCase
  rw [ProviderM.bind_run hstage, if_pos hne]
  exact ⟨w', rfl, hvacant⟩

/-- How the loop ends: at the first case whose modules the image has not, or behind the last one. -/
inductive CasesOutcome (env : Env) (path : Bytes) (cases : List StageCase) (i : Nat) :
    Option Int → Prop
  | stopped {before after : List StageCase} {c : StageCase} (hsplit : cases = before ++ c :: after)
      (hbefore : ∀ b ∈ before, env.supplies path b.requirements)
      (hnot : ¬ env.supplies path c.requirements) :
      CasesOutcome env path cases i (some (10 + ((i + before.length : Nat) : Int)))
  | through (hall : ∀ c ∈ cases, env.supplies path c.requirements) :
      CasesOutcome env path cases i none

theorem runStageCases_run {cases : List StageCase} (hsound : ∀ c ∈ cases, c.Sound) (i : Nat)
    {w : World} {source : Option Bytes × UInt32} (hw : w.Vacant source) :
    ∃ r w' source', runStageCases env path i cases w = (r, w') ∧ w'.Vacant source' ∧
      CasesOutcome env path cases i r ∧
      (r = none → source'.1 = if cases = [] then source.1 else some path) := by
  -- by induction on the cases, `i` being the index of the first of them
  induction cases generalizing i w source with
  | nil => exact ⟨none, w, source, rfl, hw, .through (by simp), fun _ => rfl⟩
  | cons c cases ih =>
    rw [List.forall_mem_cons] at hsound
    by_cases hc : env.supplies path c.requirements
    · obtain ⟨w₁, hcase, hvacant⟩ := runStageCase_supplied henv hsound.1 hc i hw
      obtain ⟨r, w', source', hrest, hvacant', houtcome, hsource⟩ := ih hsound.2 (i + 1) hvacant
      refine ⟨r, w', source', ?_, hvacant', ?_, fun hr => ?_⟩
      · rw [runStageCases, ProviderM.bind_run hcase]
        exact hrest
      · cases houtcome with
        | @stopped before after c' hsplit hbefore hnot =>
          have hlength : i + 1 + before.length = i + (c :: before).length := by
            rw [List.length_cons]
            omega
          rw [hlength]
          exact .stopped (congrArg (c :: ·) hsplit) (List.forall_mem_cons.mpr ⟨hc, hbefore⟩) hnot
        | through hall => exact .through (List.forall_mem_cons.mpr ⟨hc, hall⟩)
      · rw [hsource hr, if_neg (List.cons_ne_nil c cases)]
        split <;> rfl
    · obtain ⟨w', hcase, hvacant⟩ := runStageCase_unsupplied henv hsound.1 hc i hw
      have hfirst : CasesOutcome env path (c :: cases) i (some (10 + (i : Int))) :=
        @CasesOutcome.stopped env path (c :: cases) i [] cases c rfl (by simp) hc
      refine ⟨_, w', source, ?_, hvacant, hfirst, fun hr => absurd hr (Option.some_ne_none _)⟩
      rw [runStageCases, ProviderM.bind_run hcase]
      rfl

/-! ## 5. The convenience calls -/

def Env.yields (env : Env) (path : Bytes) (driverRequirements : UInt32) (n : Nat) : Prop :=
  env.supplies path driverRequirements ∧ (requestedIds irxId driverRequirements).length = n

omit henv in
theorem Staging.passes {m : ProviderM ImgError} {driverRequirements : UInt32} {w : World} {n : Nat}
    (h : Staging env path driverRequirements w (m w).1 (m w).2)
    (hyields : env.yields path driverRequirements n) :
    ∃ image w', m w = (.ok, w') ∧ stagedExactly .ok n w' = (true, w') ∧
      w'.StagedFrom path image driverRequirements := by
  obtain ⟨image, w', -, hrun, hstaged⟩ := h.succeeds hyields.1
  exact ⟨image, w', hrun, hstaged.exactly hyields.2, hstaged⟩

omit henv in
theorem Staging.notExactly {m : ProviderM ImgError} {driverRequirements : UInt32} {w : World}
    {n : Nat} {source : Option Bytes × UInt32}
    (h : Staging env path driverRequirements w (m w).1 (m w).2) (hw : w.Vacant source)
    (hnot : ¬ env.yields path driverRequirements n) :
    ∃ e w', m w = (e, w') ∧ stagedExactly e n w' = (false, w') := by
  by_cases hsupplies : env.supplies path driverRequirements
  · -- another number of modules is staged
    obtain ⟨image, w', -, hrun, hstaged⟩ := h.succeeds hsupplies
    refine ⟨.ok, w', hrun, ?_⟩
    have hcount : w'.provider.stagedCount ≠ n := by
      rw [hstaged.modules]
      exact fun hn => hnot ⟨hsupplies, hn⟩
    show (decide (ImgError.ok = .ok) && decide (w'.provider.stagedCount = n), w') = _
    rw [decide_eq_false hcount, Bool.and_false]
  · obtain ⟨e, w', hrun, hne, -⟩ := h.fails hw hsupplies
    exact ⟨e, w', hrun, stagedExactly_of_ne hne n w'⟩

/-- The mask for a program that was started from the device and needs the joystick. -/
def joystickRequirements (device : BootDevice) : UInt32 :=
  ps2DriversImgRequirementsForBootDevice device ||| Driver.joystick.req

def hostRequirements : UInt32 :=
  ps2DriversImgRequirementsForBootDevice .host ||| (Driver.audio.req ||| Driver.joystick.req)

/-- What the convenience calls ask of the default image and of the working directory. -/
structure Env.Convenient (env : Env) : Prop where
  host : env.yields ps2DriversImgDefaultPath hostRequirements 7
  memcard : env.yields ps2DriversImgDefaultPath (joystickRequirements .mc0) 7
  currentBoot : ∃ cwd, env.getcwd = some cwd ∧ env.yields ps2DriversImgDefaultPath
    (joystickRequirements (getBootDeviceID (some cwd))) 5
  filesystems : env.yields ps2DriversImgDefaultPath (reqFilesystemAll ||| Driver.audio.req) 18

omit henv in
theorem stageDefaultForBootDevice_eq :
    ps2DriversImgStageDefaultForBootDevice irxId env .host
        (Driver.audio.req ||| Driver.joystick.req) =
      ps2DriversImgStage irxId env (some ps2DriversImgDefaultPath) hostRequirements := by
  unfold ps2DriversImgStageDefaultForBootDevice ps2DriversImgStageForBootDevice
  rw [if_neg (by decide)]
  rfl

omit henv in
theorem stageDefaultForPath_eq :
    ps2DriversImgStageDefaultForPath irxId env (some (lit "mc0:/apps/test.elf"))
        Driver.joystick.req =
      ps2DriversImgStage irxId env (some ps2DriversImgDefaultPath) (joystickRequirements .mc0) := by
  have hcomputed : ps2DriversImgRequirementsForPath (some (lit "mc0:/apps/test.elf"))
      Driver.joystick.req (some 0) = (.ok, some (joystickRequirements .mc0)) := by
    decide +kernel
  unfold ps2DriversImgStageDefaultForPath ps2DriversImgStageForPath
  rw [hcomputed]
  rfl

omit henv in
theorem stageDefaultForCurrentBoot_eq {cwd : Bytes} (hcwd : env.getcwd = some cwd) :
    ps2DriversImgStageDefaultForCurrentBoot irxId env Driver.joystick.req =
      ps2DriversImgStage irxId env (some ps2DriversImgDefaultPath)
        (joystickRequirements (getBootDeviceID (some cwd))) := by
  have hcomputed : ps2DriversImgRequirementsForCurrentBoot env Driver.joystick.req (some 0) =
      (.ok, some (joystickRequirements (getBootDeviceID (some cwd)))) := by
    unfold ps2DriversImgRequirementsForCurrentBoot
    rw [if_neg (by decide), hcwd]
    dsimp only
    unfold ps2DriversImgRequirementsForPath
    rw [if_neg (by simp; decide)]
    rfl
  unfold ps2DriversImgStageDefaultForCurrentBoot ps2DriversImgStageForCurrentBoot
  rw [hcomputed]
  rfl

omit henv in
theorem stageDefaultForCurrentBoot_errCwd (hcwd : env.getcwd = none) (w : World) :
    ps2DriversImgStageDefaultForCurrentBoot irxId env Driver.joystick.req w = (.errCwd, w) := by
  have hcomputed : ps2DriversImgRequirementsForCurrentBoot env Driver.joystick.req (some 0) =
      (.errCwd, some 0) := by
    unfold ps2DriversImgRequirementsForCurrentBoot
    rw [if_neg (by decide), hcwd]
  unfold ps2DriversImgStageDefaultForCurrentBoot ps2DriversImgStageForCurrentBoot
  rw [hcomputed]
  rfl

omit henv in
theorem stageDefaultForAllFilesystems_eq :
    ps2DriversImgStageDefaultForAllFilesystems irxId env Driver.audio.req =
      ps2DriversImgStage irxId env (some ps2DriversImgDefaultPath)
        (reqFilesystemAll ||| Driver.audio.req) := by
  unfold ps2DriversImgStageDefaultForAllFilesystems ps2DriversImgStageForAllFilesystems
  rw [if_neg (by decide)]

omit henv in
theorem joystickRequirements_good (device : BootDevice) :
    badRequirements (joystickRequirements device) = false := by
  cases device <;> decide

omit henv in
/-- A call, and the check of what it has staged. -/
theorem expect_run {m : ProviderM ImgError} {w w' : World} {e : ImgError} {n : Nat} {good : Bool}
    (hrun : m w = (e, w')) (hexact : stagedExactly e n w' = (good, w')) (code : Int)
    (rest : ProviderM Int) :
    (do
      let result ← m
      let good ← stagedExactly result n
      if !good then
        return code
      rest) w = if good then rest w' else (code, w') := by
  rw [ProviderM.bind_run hrun, ProviderM.bind_run hexact]
  cases good <;> rfl

omit henv in
/-- A call whose modules are discarded again: the file yields what is expected and the function goes
on with nothing staged, or the function ends here. -/
theorem Staging.thenDiscard {m : ProviderM ImgError} {driverRequirements : UInt32} {w : World}
    {source : Option Bytes × UInt32}
    (h : Staging env path driverRequirements w (m w).1 (m w).2) (hw : w.Vacant source)
    (n : Nat) (code : Int) :
    (env.yields path driverRequirements n ∧ ∃ w', w'.Vacant (some path, driverRequirements) ∧
      ∀ rest : ProviderM Int, (do
        let result ← m
        let good ← stagedExactly result n
        if !good then
          return code
        ps2DriversImgDiscardStaged
        rest) w = rest w') ∨
    (¬ env.yields path driverRequirements n ∧ ∃ w', ∀ rest : ProviderM Int, (do
        let result ← m
        let good ← stagedExactly result n
        if !good then
          return code
        ps2DriversImgDiscardStaged
        rest) w = (code, w')) := by
  by_cases hyields : env.yields path driverRequirements n
  · obtain ⟨_, _, hstage, hexact, hstaged⟩ := h.passes hyields
    obtain ⟨w', hdiscard, hvacant⟩ := hstaged.discard
    refine .inl ⟨hyields, w', hvacant, fun rest => ?_⟩
    rw [expect_run hstage hexact, if_pos rfl, ProviderM.bind_run hdiscard]
  · obtain ⟨_, w', hstage, hexact⟩ := h.notExactly hw hyields
    refine .inr ⟨hyields, w', fun rest => ?_⟩
    rw [expect_run hstage hexact, if_neg Bool.false_ne_true]

inductive ConvenienceOutcome (env : Env) : Int → World → Prop
  | passed {w : World} (h : env.Convenient) (vacant : w.Vacant (none, 0)) :
      ConvenienceOutcome env 0 w
  | failed {code : Int} {w : World} (hne : code ≠ 0) (hnot : ¬ env.Convenient) :
      ConvenienceOutcome env code w

/-- Each call either finds what it asks for, and what it has staged goes away again, or it ends the
function. -/
theorem checkConvenienceStaging_run {w : World} {source : Option Bytes × UInt32}
    (hw : w.Vacant source) :
    ∃ code w', checkConvenienceStaging env w = (code, w') ∧ ConvenienceOutcome env code w' := by
  have hhost : badRequirements hostRequirements = false := by decide
  have hall : badRequirements (reqFilesystemAll ||| Driver.audio.req) = false := by decide
  have hjoystick : badRequirements Driver.joystick.req = false := by decide
  unfold checkConvenienceStaging
  rw [stageDefaultForBootDevice_eq, stageDefaultForPath_eq, stageDefaultForAllFilesystems_eq]
  by_cases hfirst : env.yields ps2DriversImgDefaultPath hostRequirements 7
  case neg =>
    obtain ⟨_, w', hstage, hexact⟩ := (hw.stage henv hhost).notExactly hw hfirst
    rw [expect_run hstage hexact, if_neg Bool.false_ne_true]
    exact ⟨1, w', rfl, .failed (by decide) fun h => hfirst h.host⟩
  obtain ⟨_, _, hstage, hexact, hstaged⟩ := (hw.stage henv hhost).passes hfirst
  obtain ⟨_, hconsume, hvacant⟩ := hstaged.consume
  rw [expect_run hstage hexact, if_pos rfl, ProviderM.bind_run hconsume,
    ProviderM.bind_run hvacant.nothingStaged, if_neg (by decide)]
  -- the file has not changed, so the last request can be staged again
  obtain ⟨_, _, hstage, hexact, hstaged⟩ := (hvacant.restageLast henv hhost).passes hfirst
  obtain ⟨_, hdiscard, hvacant⟩ := hstaged.discard
  rw [expect_run hstage hexact, if_pos rfl, ProviderM.bind_run hdiscard]
  obtain ⟨hmemcard, _, hvacant, hrun⟩ | ⟨hnot, w', hrun⟩ :=
    (hvacant.stage henv (joystickRequirements_good .mc0)).thenDiscard hvacant 7 4
  case inr =>
    rw [hrun]
    exact ⟨4, w', rfl, .failed (by decide) fun h => hnot h.memcard⟩
  rw [hrun]
  cases hcwd : env.getcwd with
  | none =>
    rw [expect_run (stageDefaultForCurrentBoot_errCwd hcwd _)
      (stagedExactly_of_ne (by decide) 5 _), if_neg Bool.false_ne_true]
    refine ⟨5, _, rfl, .failed (by decide) fun h => ?_⟩
    obtain ⟨cwd, hsome, -⟩ := h.currentBoot
    rw [hcwd] at hsome
    cases hsome
  | some cwd =>
    rw [stageDefaultForCurrentBoot_eq hcwd]
    obtain ⟨hcurrent, _, hvacant, hrun⟩ | ⟨hnot, w', hrun⟩ :=
      (hvacant.stage henv (joystickRequirements_good _)).thenDiscard hvacant 5 5
    case inr =>
      rw [hrun]
      refine ⟨5, w', rfl, .failed (by decide) fun h => ?_⟩
      -- the directory of the call is the one that `Convenient` speaks of
      obtain ⟨cwd', hsome, hyields⟩ := h.currentBoot
      obtain rfl := Option.some.inj (hcwd.symm.trans hsome)
      exact hnot hyields
    rw [hrun]
    obtain ⟨hlast, _, hvacant, hrun⟩ | ⟨hnot, w', hrun⟩ :=
      (hvacant.stage henv hall).thenDiscard hvacant 18 6
    case inr =>
      rw [hrun]
      exact ⟨6, w', rfl, .failed (by decide) fun h => hnot h.filesystems⟩
    rw [hrun]
    obtain ⟨w', hforget, hforgotten⟩ := hvacant.forget
    rw [ProviderM.bind_run hforget, ProviderM.bind_run (hforgotten.noSource hjoystick).2,
      if_neg (not_not.mpr rfl)]
    exact ⟨0, w', rfl, .passed ⟨hfirst, hmemcard, ⟨cwd, hcwd, hcurrent⟩, hlast⟩ hforgotten⟩

/-! ## 6. How the test ends -/

omit henv in
theorem sourceForgotten_run {w : World} (hw : w.Vacant (none, 0)) :
    sourceForgotten env w = (true, w) := by
  have hjoystick : badRequirements Driver.joystick.req = false := by decide
  obtain ⟨hrestage, hlast⟩ :
      ps2DriversImgRestage irxId env Driver.joystick.req w = (.errNoSource, w) ∧
        ps2DriversImgRestageLast irxId env w = (.errNoSource, w) := hw.noSource hjoystick
  unfold sourceForgotten
  rw [ProviderM.bind_run hrestage, if_neg (not_not.mpr rfl), ProviderM.bind_run hlast]
  rfl

/-- The codes the test ends with.  None of its checks of the provider fails: a code other than zero
says what is wrong with the files or the working directory. -/
inductive StageTestOutcome (env : Env) (path : Bytes) : Int → World → Prop
  | unsupplied {before after : List StageCase} {c : StageCase} {w : World}
      (hsplit : stageCases = before ++ c :: after)
      (hbefore : ∀ b ∈ before, env.supplies path b.requirements)
      (hnot : ¬ env.supplies path c.requirements) :
      StageTestOutcome env path (10 + (before.length : Int)) w
  | notMissing {w : World} (hall : ∀ c ∈ stageCases, env.supplies path c.requirements)
      (hfile : env.file missingImagePath ≠ none) : StageTestOutcome env path 190 w
  | inconvenient {w : World} (hall : ∀ c ∈ stageCases, env.supplies path c.requirements)
      (hmissing : env.file missingImagePath = none) (hnot : ¬ env.Convenient) :
      StageTestOutcome env path 201 w
  | passed {w : World} (hall : ∀ c ∈ stageCases, env.supplies path c.requirements)
      (hmissing : env.file missingImagePath = none) (hconvenient : env.Convenient)
      (idle : w.provider.idle) (heap : w.heap.live = ∅) : StageTestOutcome env path 0 w

/-- With every call succeeding, the test ends as the files say. -/
theorem stageTestMain_run (argv0 path : Bytes) :
    ∃ code w, stageTestMain env [argv0, path] World.initial = (code, w) ∧
      StageTestOutcome env path code w := by
  have hjoystick : badRequirements Driver.joystick.req = false := by decide
  have hthree : (requestedIds irxId Driver.joystick.req).length = 3 := by decide +kernel
  obtain ⟨r, w₁, source, hcases, hvacant, houtcome, hsource⟩ :=
    @runStageCases_run env henv path _ stageCases_sound 0 _ _ World.initial_vacant
  unfold stageTestMain
  dsimp only
  rw [if_neg (by decide +kernel), if_neg (by decide +kernel),
    ProviderM.bind_run (sourceForgotten_run World.initial_vacant), if_neg (by decide),
    ProviderM.bind_run hcases]
  cases houtcome with
  | @stopped before after c hsplit hbefore hnot =>
    refine ⟨_, w₁, rfl, ?_⟩
    rw [Nat.zero_add]
    exact .unsupplied hsplit hbefore hnot
  | through hall =>
    dsimp only
    -- a file that is not there leaves the source of the last case remembered
    have hpath : source.1 = some path := hsource rfl
    obtain ⟨imagePath, last⟩ := source
    obtain rfl : imagePath = some path := hpath
    by_cases hmissing : env.file missingImagePath = none
    case neg =>
      obtain ⟨e, w', hstage, hne⟩ : ∃ e w', ps2DriversImgStage irxId env (some missingImagePath)
          Driver.joystick.req w₁ = (e, w') ∧ e ≠ .errOpen := by
        by_cases hsupplies : env.supplies missingImagePath Driver.joystick.req
        · obtain ⟨_, w', -, hrun, -⟩ := (hvacant.stage henv hjoystick).succeeds hsupplies
          exact ⟨.ok, w', hrun, by decide⟩
        · -- a file that is there can be opened, whatever else is wrong with it
          obtain ⟨e, w', hrun, -, hopen, -⟩ :=
            (hvacant.stage henv hjoystick).fails hvacant hsupplies
          exact ⟨e, w', hrun, fun h => hmissing (hopen.mp h)⟩
      rw [ProviderM.bind_run hstage, if_pos hne]
      exact ⟨190, w', rfl, .notMissing hall hmissing⟩
    have hnot : ¬ env.supplies missingImagePath Driver.joystick.req := by
      intro h
      obtain ⟨image, hfile, -⟩ := h
      rw [hmissing] at hfile
      cases hfile
    obtain ⟨e, w₂, hstage, -, hopen, hvacant⟩ :=
      (hvacant.stage henv hjoystick).fails hvacant hnot
    obtain rfl := hopen.mpr hmissing
    have hsupplies : env.supplies path Driver.joystick.req :=
      hall ⟨Driver.joystick.req, 3⟩ (by simp [stageCases])
    obtain ⟨_, w₃, hrestage, hexact, hstaged⟩ :=
      (hvacant.restage henv hjoystick).passes ⟨hsupplies, hthree⟩
    obtain ⟨w₄, hdiscard, hvacant⟩ := hstaged.discard
    obtain ⟨w₅, hforget, hvacant⟩ := hvacant.forget
    obtain ⟨code, w₆, hconvenience, hresult⟩ := checkConvenienceStaging_run henv hvacant
    rw [ProviderM.bind_run hstage, if_neg (not_not.mpr rfl), expect_run hrestage hexact,
      if_pos rfl, ProviderM.bind_run hdiscard, ProviderM.bind_run hforget,
      ProviderM.bind_run (sourceForgotten_run hvacant), if_neg (by decide),
      ProviderM.bind_run hconvenience]
    cases hresult with
    | passed hconvenient hempty =>
      have hnone : w₆.provider.imagePath = none :=
        Option.map_eq_none_iff.mp (congrArg Prod.fst hempty.source)
      exact ⟨0, w₆, rfl, .passed hall hmissing hconvenient hempty.idle
        (hempty.valid.live_eq_empty hempty.idle hnone)⟩
    | failed hne hnot =>
      rw [if_pos hne]
      exact ⟨201, w₆, rfl, .inconvenient hall hmissing hnot⟩

end

/-! ## 7. What the code says -/

theorem supplies_iff {image : Bytes} {driverRequirements : UInt32} :
    Supplies image driverRequirements ↔
      ImageFormat image ∧ ∀ m ∈ requiredModules driverRequirements, ModuleIntact image (irxId m) := by
  constructor
  · exact fun h => ⟨h.format, fun m hm => h.intact (irxId m) ⟨m, hm, rfl⟩⟩
  · intro h
    refine ⟨h.1, fun id hid => ?_⟩
    obtain ⟨m, hm, rfl⟩ := hid
    exact h.2 m hm

/-- The image at the path has the modules. -/
def Env.complete (env : Env) (path : Bytes) (modules : Irx → Prop) : Prop :=
  ∃ image, env.file path = some image ∧ ImageFormat image ∧
    ∀ m, modules m → ModuleIntact image (irxId m)

theorem supplies_iff_complete {env : Env} {path : Bytes} {driverRequirements : UInt32} :
    env.supplies path driverRequirements ↔
      env.complete path (· ∈ requiredModules driverRequirements) := by
  unfold Env.supplies Env.complete
  simp only [supplies_iff]

/-- The cases of the loop ask for every module there is. -/
theorem stageCases_complete {env : Env} {path : Bytes} :
    (∀ c ∈ stageCases, env.supplies path c.requirements) ↔ env.complete path fun _ => True := by
  have hcase (m : Irx) : ∃ c ∈ stageCases, m ∈ requiredModules c.requirements := by
    cases m <;> decide
  constructor
  · intro h
    obtain ⟨image, hfile, hformat, -⟩ := supplies_iff_complete.mp (h _ List.mem_cons_self)
    refine ⟨image, hfile, hformat, fun m _ => ?_⟩
    obtain ⟨c, hc, hm⟩ := hcase m
    obtain ⟨image', hfile', -, hintact⟩ := supplies_iff_complete.mp (h c hc)
    obtain rfl := Option.some.inj (hfile.symm.trans hfile')
    exact hintact m hm
  · intro h c hc
    obtain ⟨image, hfile, hformat, hintact⟩ := h
    exact supplies_iff_complete.mpr ⟨image, hfile, hformat, fun m _ => hintact m trivial⟩

open Classical in
/-- The code as the files determine it: the first case that asks for a module the image has not, or
what is wrong with the other files. -/
noncomputable def Env.stageTestCode (env : Env) (path : Bytes) : Int :=
  if ¬ env.complete path fun _ => True then
    10 + ((stageCases.findIdx fun c => ¬ env.supplies path c.requirements : Nat) : Int)
  else if env.file missingImagePath ≠ none then 190
  else if ¬ env.Convenient then 201
  else 0

open Classical in
theorem StageTestOutcome.code_eq {env : Env} {path : Bytes} {code : Int} {w : World}
    (h : StageTestOutcome env path code w) : code = env.stageTestCode path := by
  unfold Env.stageTestCode
  cases h with
  | @unsupplied before after c _ hsplit hbefore hnot =>
    have hcomplete : ¬ env.complete path fun _ => True := by
      intro h
      have hall := stageCases_complete.mpr h
      exact hnot (hall c (by rw [hsplit]; simp))
    rw [if_pos hcomplete, hsplit, List.findIdx_append, List.findIdx_cons, decide_eq_true hnot,
      cond_true, Nat.zero_add]
    -- no case before this one is the one that is found
    have hlength : before.findIdx (fun b => decide ¬ env.supplies path b.requirements) =
        before.length :=
      List.findIdx_eq_length_of_false fun b hb => decide_eq_false (not_not.mpr (hbefore b hb))
    rw [hlength, if_neg (Nat.lt_irrefl _)]
  | notMissing hall hfile =>
    rw [if_neg (not_not.mpr (stageCases_complete.mp hall)), if_pos hfile]
  | inconvenient hall hmissing hnot =>
    rw [if_neg (not_not.mpr (stageCases_complete.mp hall)), if_neg (not_not.mpr hmissing),
      if_pos hnot]
  | passed hall hmissing hconvenient =>
    rw [if_neg (not_not.mpr (stageCases_complete.mp hall)), if_neg (not_not.mpr hmissing),
      if_neg (not_not.mpr hconvenient)]

/-- A test that passes leaves nothing behind. -/
theorem StageTestOutcome.empty {env : Env} {path : Bytes} {code : Int} {w : World}
    (h : StageTestOutcome env path code w) (hzero : code = 0) :
    w.provider.idle ∧ w.heap.live = ∅ := by
  cases h with
  | unsupplied => omega
  | notMissing => omega
  | inconvenient => omega
  | passed _ _ _ hidle hheap => exact ⟨hidle, hheap⟩

/-- The working directory of a host program is no device's. -/
theorem getBootDeviceID_native (cwd : Bytes) : getBootDeviceID (some (lit "/" ++ cwd)) = .unknown :=
  rfl

/-- An image with every module is all that the convenience calls ask for. -/
theorem convenient_of_complete {env : Env} {cwd : Bytes}
    (hcomplete : env.complete ps2DriversImgDefaultPath fun _ => True)
    (hcwd : env.getcwd = some (lit "/" ++ cwd)) : env.Convenient := by
  have hyields {driverRequirements : UInt32} {n : Nat}
      (hn : (requestedIds irxId driverRequirements).length = n) :
      env.yields ps2DriversImgDefaultPath driverRequirements n := by
    obtain ⟨image, hfile, hformat, hintact⟩ := hcomplete
    exact ⟨supplies_iff_complete.mpr ⟨image, hfile, hformat, fun m _ => hintact m trivial⟩, hn⟩
  -- the counts are the ones that the test expects
  refine ⟨hyields (by decide +kernel), hyields (by decide +kernel), ⟨_, hcwd, ?_⟩,
    hyields (by decide +kernel)⟩
  rw [getBootDeviceID_native]
  exact hyields (by decide +kernel)

/-- Where the image is the only one and has every module, the test passes. -/
theorem Env.stageTestCode_eq_zero {env : Env} {path cwd : Bytes}
    (hcomplete : env.complete path fun _ => True)
    (hdefault : env.complete ps2DriversImgDefaultPath fun _ => True)
    (hmissing : env.file missingImagePath = none) (hcwd : env.getcwd = some (lit "/" ++ cwd)) :
    env.stageTestCode path = 0 := by
  rw [Env.stageTestCode, if_neg (not_not.mpr hcomplete), if_neg (not_not.mpr hmissing),
    if_neg (not_not.mpr (convenient_of_complete hdefault hcwd))]

/-- With every call succeeding, the code of the test is a verdict on the files and never one on the
provider, and a test that passes leaves nothing behind. -/
theorem stageTestMain_exitCode {env : Env} (henv : env.allOk) (argv0 path : Bytes) :
    ∃ w, stageTestMain env [argv0, path] World.initial = (env.stageTestCode path, w) ∧
      (env.stageTestCode path = 0 → w.provider.idle ∧ w.heap.live = ∅) := by
  obtain ⟨code, w, hrun, houtcome⟩ := stageTestMain_run henv argv0 path
  rw [← houtcome.code_eq]
  exact ⟨w, hrun, fun hzero => houtcome.empty hzero⟩

/-- The directory of the build, where the image is the only file. -/
def buildEnv (image : Bytes) : Env where
  file path := if path = ps2DriversImgDefaultPath then some image else none
  ok _ := true
  getcwd := some (lit "/build")

theorem buildEnv_image (image : Bytes) :
    (buildEnv image).file ps2DriversImgDefaultPath = some image := by
  rw [buildEnv]
  dsimp only
  rw [if_pos rfl]

theorem buildEnv_missing (image : Bytes) : (buildEnv image).file missingImagePath = none := by
  have hother : missingImagePath ≠ ps2DriversImgDefaultPath := by decide
  rw [buildEnv]
  dsimp only
  rw [if_neg hother]

theorem everyModuleImage_complete :
    (buildEnv everyModuleImage).complete ps2DriversImgDefaultPath fun _ => True := by
  have hverdict : stageVerdict everyModuleImage (moduleIds.take 27) = .ok := by decide +kernel
  have hintact := (stageVerdict_eq_ok _ _).mp hverdict
  refine ⟨everyModuleImage, buildEnv_image _, by decide +kernel, fun m _ => hintact _ ?_⟩
  cases m <;> decide +kernel

/-- An image for memory cards has nothing for the second case; one with every module passes. -/
theorem stageTestMain_exitCode_images :
    (∃ w, stageTestMain memcardEnv [lit "test", lit "a.irximg"] World.initial = (11, w)) ∧
      ∃ w, stageTestMain (buildEnv everyModuleImage) [lit "test", ps2DriversImgDefaultPath]
        World.initial = (0, w) ∧ w.provider.idle ∧ w.heap.live = ∅ := by
  constructor
  · have heleven :
        (stageTestMain memcardEnv [lit "test", lit "a.irximg"] World.initial).1 = 11 := by
      decide +kernel
    obtain ⟨w, hrun, -⟩ := @stageTestMain_exitCode memcardEnv (fun _ => rfl) (lit "test")
      (lit "a.irximg")
    rw [hrun] at heleven
    exact ⟨w, hrun.trans (Prod.ext heleven rfl)⟩
  · have hzero : (buildEnv everyModuleImage).stageTestCode ps2DriversImgDefaultPath = 0 :=
      @Env.stageTestCode_eq_zero _ _ (lit "build") everyModuleImage_complete
        everyModuleImage_complete (buildEnv_missing _) rfl
    obtain ⟨w, hrun, hpassed⟩ := @stageTestMain_exitCode (buildEnv everyModuleImage)
      (fun _ => rfl) (lit "test") ps2DriversImgDefaultPath
    exact ⟨w, hrun.trans (Prod.ext hzero rfl), hpassed hzero⟩

/-- What the build checks: the image that is packed from a manifest with the module ids passes the
staging test, run in its directory. -/
theorem packImage_passes_stageTest {host : Host} (hok : host.AllOk)
    {manifestPath irxDirectory : Bytes} {m : Manifest}
    (hload : loadManifest host manifestPath = .ok m) {datas : List Bytes}
    (hfiles : List.Forall₂ (PayloadFile host irxDirectory) m.entries datas)
    (hfits : layoutSize m.entries.length datas ≤ 2 ^ 32 - 1)
    (hids : ∀ module, irxId module ∈ m.entries.map (·.id)) :
    ∃ image, packImage host manifestPath irxDirectory = .ok image ∧
      ∀ (env : Env) (argv0 path cwd : Bytes), env.allOk → env.file path = some image →
        env.file ps2DriversImgDefaultPath = some image → env.file missingImagePath = none →
        env.getcwd = some (lit "/" ++ cwd) →
        ∃ w, stageTestMain env [argv0, path] World.initial = (0, w) ∧ w.provider.idle ∧
          w.heap.live = ∅ := by
  have h : Packable host irxDirectory m datas :=
    ⟨loadManifest_wellFormed hload, hfiles, by omega⟩
  refine ⟨packedImage m datas, packImage_ok hok hload h, ?_⟩
  intro env argv0 path cwd henv hfile hdefault hmissing hcwd
  have hintact (module : Irx) : ModuleIntact (packedImage m datas) (irxId module) := by
    obtain ⟨entry, hentry, hid⟩ := List.mem_map.mp (hids module)
    rw [← hid]
    exact h.intact hentry
  have hcomplete {path : Bytes} (hfile : env.file path = some (packedImage m datas)) :
      env.complete path fun _ => True :=
    ⟨_, hfile, h.imageFormat, fun module _ => hintact module⟩
  obtain ⟨code, w, hrun, houtcome⟩ := stageTestMain_run henv argv0 path
  have hzero : code = 0 := houtcome.code_eq.trans
    (Env.stageTestCode_eq_zero (hcomplete hfile) (hcomplete hdefault) hmissing hcwd)
  obtain ⟨hidle, hheap⟩ := houtcome.empty hzero
  exact ⟨w, hzero ▸ hrun, hidle, hheap⟩

/-! ## 8. The manifest of the repository -/

def irxManifest : Manifest := irxManifestOf repositoryLines

def irxHost : Host :=
  .ofFiles fun path =>
    some (if path = lit "irx/manifest.txt" then irxManifestText repositoryLines else [1])

theorem loadManifest_irx : loadManifest irxHost (lit "irx/manifest.txt") = .ok irxManifest := by
  have hfile : irxHost.file (lit "irx/manifest.txt") = some (irxManifestText repositoryLines) :=
    congrArg some (if_pos rfl)
  exact loadManifest_of_lines hfile (by decide +kernel) (by decide)

/-- Every module has its id from the manifest. -/
theorem irxId_mem_irxManifest (module : Irx) : irxId module ∈ irxManifest.entries.map (·.id) := by
  cases module <;> decide +kernel

theorem packImage_passes_stageTest_irx :
    ∃ image, packImage irxHost (lit "irx/manifest.txt") (lit "sdk") = .ok image ∧
      ∃ w, stageTestMain (buildEnv image) [lit "test", ps2DriversImgDefaultPath] World.initial =
        (0, w) := by
  have hpayload : ∀ entry ∈ irxManifest.entries,
      (payloadPath (lit "sdk") entry.filename).length < irximgPathMax ∧
        irxHost.file (payloadPath (lit "sdk") entry.filename) = some [1] := by decide +kernel
  have hfiles : List.Forall₂ (PayloadFile irxHost (lit "sdk")) irxManifest.entries
      (irxManifest.entries.map fun _ => [1]) := by
    rw [List.forall₂_map_right_iff, List.forall₂_same]
    exact fun entry hentry => ⟨(hpayload entry hentry).1, (hpayload entry hentry).2, by decide⟩
  obtain ⟨image, hpack, hpasses⟩ := @packImage_passes_stageTest irxHost
    (Host.ofFiles_allOk _) (lit "irx/manifest.txt") (lit "sdk") irxManifest loadManifest_irx _
    hfiles (by decide +kernel) irxId_mem_irxManifest
  obtain ⟨w, hrun, -⟩ := hpasses (buildEnv image) (lit "test") ps2DriversImgDefaultPath
    (lit "build") (fun _ => rfl) (buildEnv_image image) (buildEnv_image image)
    (buildEnv_missing image) rfl
  exact ⟨image, hpack, w, hrun⟩

end Ps2Drivers
