import Ps2Drivers.Drivers.Mount
import Ps2Drivers.Lib.Walk

/-!
# Initialisation stops at the first failure

An `init` function executes the modules it is responsible for one after another.  The first one that
does not load ends it: the modules before it are in place, those behind it are not touched, and the
status names the module.
-/

open Binary Program

namespace Ps2Drivers

/-! ## 1. What a driver says of a module -/

/-- The status of a driver when a module does not load, the error of a dependency for the modules of
one. -/
def Driver.moduleError (d : Driver) (m : Irx) : Int :=
  match d, m with
  | .sio2man, _ => Sio2manInitStatus.irxError
  | .fileXio, .iomanX => FileXioInitStatus.iomanXIrxError
  | .fileXio, _ => FileXioInitStatus.fileXioIrxError
  | .memcard, .mcman => MemcardInitStatus.mcmanIrxError
  | .memcard, .mcserv => MemcardInitStatus.mcservIrxError
  | .memcard, _ => MemcardInitStatus.dependencyIrxError
  | .bdm, .bdm => BdmInitStatus.irxError
  | .bdm, _ => BdmInitStatus.irxFatfsError
  | .usbd, _ => UsbdInitStatus.irxError
  | .usb, .usbmassBd => UsbInitStatus.usbmassBdIrxError
  | .usb, .usbd => UsbInitStatus.dependencyUsbdError
  | .usb, _ => UsbInitStatus.dependencyBdmError
  | .mx4sio, .mx4sioBd => Mx4sioInitStatus.irxError
  | .mx4sio, .sio2man => Mx4sioInitStatus.dependencySio2manError
  | .mx4sio, _ => Mx4sioInitStatus.dependencyBdmError
  | .cdfs, _ => CdfsInitStatus.irxError
  | .dev9, _ => Dev9InitStatus.irxError
  | .hdd, .ps2atad => HddInitStatus.ps2atadIrxError
  | .hdd, .ps2hdd => HddInitStatus.ps2hddIrxError
  | .hdd, .ps2fs => HddInitStatus.ps2fsIrxError
  | .hdd, _ => HddInitStatus.dependencyIrxError
  | .joystick, .mtapman => JoystickInitStatus.mtapIrxError
  | .joystick, .padman => JoystickInitStatus.padIrxError
  | .joystick, _ => JoystickInitStatus.dependencyIrxError
  | .audio, .libsd => AudioInitStatus.libsdIrxError
  | .audio, _ => AudioInitStatus.audsrvIrxError
  | .poweroff, _ => PoweroffInitStatus.irxError
  | .mouse, .ps2mouse => MouseInitStatus.irxError
  | .mouse, _ => MouseInitStatus.dependencyError
  | .keyboard, .ps2kbd => KeyboardInitStatus.irxError
  | .keyboard, _ => KeyboardInitStatus.dependencyError
  | .camera, .ps2cam => CameraInitStatus.irxError
  | .camera, _ => CameraInitStatus.dependencyError
  | .netman, _ => NetmanInitStatus.irxError
  | .smap, _ => SmapInitStatus.irxError
  | .eeip, _ => EeipInitStatus.dependencyIrxError
  | .iopip, .ps2ipNm => IopipInitStatus.ps2ipNmIrxError
  | .iopip, .ps2ips => IopipInitStatus.ps2ipsIrxError
  | .iopip, _ => IopipInitStatus.dependencyIrxError

/-- The library calls a driver checks, which results it takes for a failure, and the status then. -/
def Driver.libraryChecks : Driver → List (LibCall × (Int → Bool) × Int)
  | .joystick => [(.mtapInit, (· != 1), JoystickInitStatus.mtapError),
      (.padInit, (· != 1), JoystickInitStatus.padError)]
  | .audio => [(.audsrvInit, (· != 0), AudioInitStatus.eeaudsrvError)]
  | .poweroff => [(.poweroffInit, (· != 0), PoweroffInitStatus.eerpcError)]
  | .mouse => [(.ps2MouseInit, isNegative, MouseInitStatus.eerpcError)]
  | .keyboard => [(.ps2KbdInit, isNegative, KeyboardInitStatus.eerpcError)]
  | .camera => [(.ps2CamInit, isNegative, CameraInitStatus.eerpcError)]
  | .netman => [(.netManInit, (· != 0), NetmanInitStatus.eeError)]
  | .iopip => [(.ps2ipInit, (· != 0), IopipInitStatus.ps2ipsError)]
  | _ => []

/-- What ends an initialisation beside a module: a call, its answer, the modules then left out, and
the status. -/
abbrev Ending := (op : DriverOp) → op.Answer → List Irx → Int → Prop

/-- What ends the initialisation of a driver.  Modules are left out only outside the boot device,
without a disk, on an emulator, and by the IP stacks without the network manager. -/
inductive Driver.Ends (deps onlyIfBootedFromHdd : Bool) : Driver → Ending
  | wrongCwd {cwd : Bytes} (hflag : onlyIfBootedFromHdd = true) (hcwd : hddPath cwd = false) :
      Ends deps onlyIfBootedFromHdd .hdd .getcwd cwd (Driver.hdd.responsible deps)
        HddInitStatus.wrongCwd
  | notReady {ret : Int} (hret : ret ≥ 3 ∨ ret < 0) :
      Ends deps onlyIfBootedFromHdd .hdd (.lib hddStatus) ret [.ps2fs]
        HddInitStatus.hddNotReadyError
  | notSupported :
      Ends deps onlyIfBootedFromHdd .mx4sio .isCOP2Pipelined false [.mx4sioBd]
        Mx4sioInitStatus.irxNotSupported
  | netMan {d : Driver} {ret : Int} (hd : d = .eeip ∨ d = .iopip) (hdeps : deps = true)
      (hret : ret ≠ 0) :
      Ends deps onlyIfBootedFromHdd d (.lib .netManInit) ret (.smap :: d.ownModules)
        (d.moduleError .netman)
  | library {d : Driver} {call : LibCall} {fails : Int → Bool} {ret status : Int}
      (hcheck : (call, fails, status) ∈ d.libraryChecks) (hret : fails ret = true) :
      Ends deps onlyIfBootedFromHdd d (.lib call) ret [] status

/-! ## 2. The shapes -/

/-- The blocks of `loadIRXs` ask for modules; everything else an `init` does is quiet. -/
def loading : Asking driverInterface Irx where
  item op :=
    match op with
    | .loadIrx m _ => some m
    | _ => none
  granted op :=
    match op with
    | .loadIrx _ _ => fun goesOn => goesOn
    | _ => fun _ => false
  quiet := DriverOp.bringsUp []

/-- What a status says of the way through the modules. -/
def Tells (error : Irx → Int) (ends : Ending) (ok : Int) :
    Walk driverInterface Irx → Int → Prop
  | .done, status => status = ok
  | .refused m _, status => status = error m ∧ status < 0
  | .stopped op answer rest, status => ends op answer rest status ∧ status < 0

/-- The program loads `ms` in order, until one does not load or something else ends it, and says
which. -/
abbrev WalkSpec (error : Irx → Int) (ends : Ending) (ok : Int) (ms : List Irx) (p : DriverM Int) :
    Prop :=
  Walks loading (Tells error ends ok) ms p

section

variable {error error' : Irx → Int} {ends ends' : Ending} {ok ok' e : Int} {ms ms' : List Irx}
  {p q : DriverM Int}

theorem pure_walks (status : Int) : WalkSpec error ends status [] (pure status) := .ret rfl

/-- The error a driver returns for a dependency or a check. -/
theorem pure_stops (e : Int) : Stops loading (· = e) (pure e) := .ret rfl

theorem returnStatus_stops (d : Driver) {R : Int → Prop} (hp : Stops loading R p) :
    Stops loading R (returnStatus d p) :=
  hp.bind fun _ hstatus => .quiet trivial fun _ => .ret hstatus

theorem loadIRXs_walks {blocks : List IrxBlock} (hp : WalkSpec error ends ok ms p)
    (herror : ∀ block ∈ blocks, block.error = error block.irx ∧ block.error < 0)
    (hms : blocks.map (·.irx) ++ ms = ms') : WalkSpec error ends ok ms' (loadIRXs blocks p) := by
  rw [← hms]
  induction blocks generalizing ms' with
  | nil => exact hp
  | cons block blocks ih =>
    rw [List.forall_mem_cons] at herror
    have hrest := ih herror.2 rfl
    refine .ask rfl (fun goesOn hgoes => ?_) fun goesOn hgoes => ?_
    · obtain rfl : goesOn = true := hgoes
      exact hrest
    · obtain rfl : goesOn = false := hgoes
      exact .ret herror.1

theorem returnStatus_walks (d : Driver) (hp : WalkSpec error ends ok ms p) :
    WalkSpec error ends ok ms (returnStatus d p) := by
  have hstore {R : Int → Prop} (status : Int) (h : R status) :
      Stops loading R (setStatus d status >>= fun _ => pure status) := .quiet trivial fun _ => .ret h
  rw [← List.append_nil ms]
  refine Walks.bind hp (fun status h => .skip trivial fun _ => .ret h)
    (fun status op answer rest h => ?_) fun status m rest _ h => ?_
  · rw [List.append_nil]
    exact hstore status h
  · exact hstore status h

/-- Libraries are initialised once every module is there. -/
theorem withLibraries_walks (d : Driver) (hp : WalkSpec error ends ok' ms p) (hok' : 0 ≤ ok')
    (hq : WalkSpec error ends ok [] q) : WalkSpec error ends ok ms (withLibraries d p q) := by
  -- an error of the modules is stored and returned
  have hstore {R : Int → Prop} (status : Int) (h : R status) (hneg : status < 0) :
      Stops loading R (setStatus d status >>= fun _ =>
        if status < 0 then pure status else returnStatus d q) := by
    refine .quiet trivial fun _ => ?_
    show Stops loading R (if status < 0 then pure status else returnStatus d q)
    rw [if_pos hneg]
    exact .ret h
  rw [← List.append_nil ms]
  refine Walks.bind hp (fun status h => ?_) (fun status op answer rest h => ?_)
    fun status m rest _ h => ?_
  · obtain rfl : status = ok' := h
    refine .skip trivial fun _ => ?_
    show WalkSpec error ends ok [] (if status < 0 then pure status else returnStatus d q)
    rw [if_neg (Int.not_lt.mpr hok')]
    exact returnStatus_walks d hq
  · rw [List.append_nil]
    exact hstore status h h.2
  · exact hstore status h h.2

/-- A dependency that fails ends the function with the error the driver has for it. -/
theorem withDependency_walks (enabled : Bool) {init fail : DriverM Int} {refused : Int → Bool}
    (hinit : WalkSpec error' ends' ok' ms' init) (hok' : refused ok' = false)
    (hrefused : ∀ status, refused status = false → 0 ≤ status) (he : e < 0)
    (herror : ∀ m ∈ ms', error m = e)
    (hends : enabled = true → ∀ op answer rest status, ends' op answer rest status →
      ends op answer (rest ++ ms) e)
    (hfail : Stops loading (· = e) fail) (hp : WalkSpec error ends ok ms p) :
    WalkSpec error ends ok ((if enabled then ms' else []) ++ ms)
      (withDependency enabled init refused fail p) := by
  cases enabled with
  | false => exact hp
  | true =>
    -- every error of the dependency is taken for one
    have hstop {R : Int → Prop} (status : Int) (hneg : status < 0) (hR : R e) :
        Stops loading R (if refused status then fail else p) := by
      have hbad : refused status = true := by
        by_contra hgood
        exact absurd hneg (Int.not_lt.mpr (hrefused status (Bool.eq_false_of_not_eq_true hgood)))
      rw [if_pos hbad]
      exact hfail.imp fun status hstatus => hstatus ▸ hR
    show WalkSpec error ends ok (ms' ++ ms)
      (init >>= fun result => if refused result then fail else p)
    refine Walks.bind hinit (fun status h => ?_) (fun status op answer rest h => ?_)
      fun status m rest hm h => ?_
    · obtain rfl : status = ok' := h
      rw [hok', if_neg Bool.false_ne_true]
      exact hp
    · exact hstop status h.2 ⟨hends rfl op answer rest status h.1, he⟩
    · -- the error of the dependency's own module is replaced by the one of the driver
      exact hstop status h.2 ⟨(herror m hm).symm, he⟩

/-- A check that fails ends the function, before any module it comes before. -/
theorem check_walks (op : DriverOp) (hop : op.bringsUp []) {bad : op.Answer → Prop}
    [DecidablePred bad] (hends : ∀ answer, bad answer → ends op answer ms e) (he : e < 0)
    (hq : Stops loading (· = e) q) (hp : WalkSpec error ends ok ms p) :
    WalkSpec error ends ok ms (perform op >>= fun answer => if bad answer then q else p) := by
  refine .quiet bad hop (fun answer hgood => ?_) fun answer hbad => ?_
  · show WalkSpec error ends ok ms (if bad answer then q else p)
    rw [if_neg hgood]
    exact hp
  · show Stops loading _ (if bad answer then q else p)
    rw [if_pos hbad]
    exact hq.imp fun status hstatus => hstatus ▸ ⟨hends answer hbad, he⟩

theorem libCheck_walks (call : LibCall) (hfiles : call.leavesFiles = true) {bad : Int → Prop}
    [hbad : DecidablePred bad] (hends : ∀ ret, bad ret → ends (.lib call) ret ms e) (he : e < 0)
    (hp : WalkSpec error ends ok ms p) : WalkSpec error ends ok ms (do
      let ret ← lib call
      if bad ret then pure e else p) :=
  @check_walks _ _ _ _ _ _ _ (.lib call) hfiles bad hbad hends he (pure_stops e) hp

end

/-! ## 3. The drivers -/

def noEnding : Ending := fun _ _ _ _ => False

theorem noEnding_ends {ends : Ending} {e : Int} {ms : List Irx} (op : DriverOp) (answer : op.Answer)
    (rest : List Irx) (status : Int) (h : noEnding op answer rest status) :
    ends op answer (rest ++ ms) e := h.elim

section

variable (deps only : Bool) (ends : Ending)

theorem initSio2manDriver_walks :
    WalkSpec Driver.sio2man.moduleError ends 0 [.sio2man] initSio2manDriver :=
  returnStatus_walks _ (loadIRXs_walks (pure_walks _) (by decide) rfl)

theorem initBdmDriver_walks :
    WalkSpec Driver.bdm.moduleError ends 0 [.bdm, .bdmfsFatfs] initBdmDriver :=
  returnStatus_walks _ (loadIRXs_walks (pure_walks _) (by decide) rfl)

theorem initUsbdDriver_walks : WalkSpec Driver.usbd.moduleError ends 0 [.usbd] initUsbdDriver :=
  returnStatus_walks _ (loadIRXs_walks (pure_walks _) (by decide) rfl)

theorem initDev9Driver_walks : WalkSpec Driver.dev9.moduleError ends 0 [.ps2dev9] initDev9Driver :=
  returnStatus_walks _ (loadIRXs_walks (pure_walks _) (by decide) rfl)

theorem initSmapDriver_walks : WalkSpec Driver.smap.moduleError ends 0 [.smap] initSmapDriver :=
  returnStatus_walks _ (loadIRXs_walks (pure_walks _) (by decide) rfl)

theorem initFileXioDriver_walks :
    WalkSpec Driver.fileXio.moduleError ends 0 [.iomanX, .fileXio] initFileXioDriver :=
  withLibraries_walks _ (loadIRXs_walks (pure_walks _) (by decide) rfl) (by decide)
    (.skip rfl fun _ => .ret rfl)

theorem initNetmanDriver_walks :
    WalkSpec Driver.netman.moduleError (Driver.netman.Ends deps only) 0 [.netman]
      initNetmanDriver :=
  withLibraries_walks _ (loadIRXs_walks (pure_walks _) (by decide) rfl) (by decide)
    (libCheck_walks _ rfl (fun _ h => .library (.head _) (bne_iff_ne.mpr h)) (by decide)
      (pure_walks _))

/-- The network manager of a stack: without it nothing behind it is loaded. -/
theorem netman_ends {d : Driver} (hd : d = .eeip ∨ d = .iopip) (hdeps : deps = true)
    (op : DriverOp) (answer : op.Answer) (rest : List Irx) (status : Int)
    (h : Driver.netman.Ends deps only op answer rest status) :
    d.Ends deps only op answer (rest ++ .smap :: d.ownModules) (d.moduleError .netman) := by
  cases h with
  | netMan hd' => rcases hd' with h | h <;> cases h
  | library hcheck hret =>
    cases List.mem_singleton.mp hcheck
    exact .netMan hd hdeps (bne_iff_ne.mp hret)

theorem withNetwork_walks {d : Driver} (hd : d = .eeip ∨ d = .iopip) {e ok : Int} (he : e < 0)
    (herror : ∀ m ∈ [Irx.ps2dev9, .netman, .smap], d.moduleError m = e) {p : DriverM Int}
    (hp : WalkSpec d.moduleError (d.Ends deps only) ok d.ownModules p) :
    WalkSpec d.moduleError (d.Ends deps only) ok
      ((if deps then [.ps2dev9] else []) ++ ((if deps then [.netman] else []) ++
        ((if deps then [.smap] else []) ++ d.ownModules))) (withNetwork deps e p) := by
  have hmember (m : Irx) (hm : m ∈ [Irx.ps2dev9, .netman, .smap]) :
      ∀ m' ∈ [m], d.moduleError m' = e := List.forall_mem_singleton.mpr (herror m hm)
  have hnetman (hdeps : deps = true) (op : DriverOp) (answer : op.Answer) (rest : List Irx)
      (status : Int) (h : Driver.netman.Ends deps only op answer rest status) :
      d.Ends deps only op answer (rest ++ ((if deps then [.smap] else []) ++ d.ownModules)) e := by
    rw [if_pos hdeps, ← herror .netman (by decide)]
    exact netman_ends deps only hd hdeps op answer rest status h
  exact withDependency_walks deps (initDev9Driver_walks noEnding) rfl bne_zero_eq_false he
      (hmember _ (by decide)) (fun _ => noEnding_ends) (pure_stops e) <|
    withDependency_walks deps (initNetmanDriver_walks deps only) rfl bne_zero_eq_false he
      (hmember _ (by decide)) hnetman (pure_stops e) <|
    withDependency_walks deps (initSmapDriver_walks noEnding) rfl bne_zero_eq_false he
      (hmember _ (by decide)) (fun _ => noEnding_ends) (pure_stops e) hp

theorem hddDependencyError_stops :
    Stops loading (· = HddInitStatus.dependencyIrxError) hddDependencyError :=
  returnStatus_stops _ (pure_stops _)

/-- The check of the disk is a check of what the device answers. -/
theorem hddCheck_bind (p q : DriverM Int) :
    (hddCheck >>= fun ret => if ret < 0 then q else p) =
      (lib hddStatus >>= fun ret => if ret ≥ 3 ∨ ret < 0 then q else p) := by
  refine congrArg (Program.call (I := driverInterface) (DriverOp.lib hddStatus)) ?_
  funext (ret : Int)
  show ((if ret ≥ 3 ∨ ret < 0 then pure (-1) else pure ret : DriverM Int) >>= fun ret =>
    if ret < 0 then q else p) = if ret ≥ 3 ∨ ret < 0 then q else p
  by_cases hbad : ret ≥ 3 ∨ ret < 0
  · rw [if_pos hbad, if_pos hbad]
    rfl
  · rw [if_neg hbad, if_neg hbad]
    exact if_neg fun hneg => hbad (Or.inr hneg)

theorem initHdd_walks :
    WalkSpec Driver.hdd.moduleError (Driver.hdd.Ends deps only) 0
      ((if deps then [.iomanX, .fileXio] else []) ++ ((if deps then [.ps2dev9] else []) ++
        ((if deps then [.bdm, .bdmfsFatfs] else []) ++ [.ps2atad, .ps2hdd, .ps2fs])))
      (initHdd deps) := by
  have hload : WalkSpec Driver.hdd.moduleError (Driver.hdd.Ends deps only) 0
      [.ps2atad, .ps2hdd, .ps2fs] loadHddIRXs := by
    unfold loadHddIRXs
    rw [hddCheck_bind]
    exact loadIRXs_walks (libCheck_walks hddStatus rfl (fun _ h => .notReady h) (by decide)
      (loadIRXs_walks (pure_walks _) (by decide) rfl)) (by decide) rfl
  exact withDependency_walks deps (initFileXioDriver_walks noEnding) rfl bne_zero_eq_false
      (by decide) (by decide) (fun _ => noEnding_ends) hddDependencyError_stops <|
    withDependency_walks deps (initDev9Driver_walks noEnding) rfl bne_zero_eq_false
      (by decide) (by decide) (fun _ => noEnding_ends) hddDependencyError_stops <|
    withDependency_walks deps (initBdmDriver_walks noEnding) rfl bne_zero_eq_false
      (by decide) (by decide) (fun _ => noEnding_ends) hddDependencyError_stops <|
    returnStatus_walks _ hload

theorem initMx4sioDriver_walks :
    WalkSpec Driver.mx4sio.moduleError (Driver.mx4sio.Ends deps only) 0
      ((if deps then [.sio2man] else []) ++ ((if deps then [.bdm, .bdmfsFatfs] else []) ++
        [.mx4sioBd])) (initMx4sioDriver deps) := by
  refine withDependency_walks deps (initSio2manDriver_walks noEnding) rfl isNegative_eq_false
      (by decide) (by decide) (fun _ => noEnding_ends) (pure_stops _) <|
    withDependency_walks deps (initBdmDriver_walks noEnding) rfl isNegative_eq_false
      (by decide) (by decide) (fun _ => noEnding_ends) (pure_stops _) <|
    returnStatus_walks _ ?_
  refine @check_walks _ _ _ _ _ _ _ .isCOP2Pipelined trivial (fun answer : Bool => (!answer) = true)
    (fun answer : Bool => inferInstanceAs (Decidable ((!answer) = true))) (fun answer h => ?_)
    (by decide) (pure_stops _) (loadIRXs_walks (pure_walks _) (by decide) rfl)
  obtain rfl : answer = false := Bool.not_eq_true' _ ▸ h
  exact .notSupported

theorem initDriver_walks (d : Driver) :
    WalkSpec d.moduleError (d.Ends deps only) d.okStatus (d.responsible deps)
      (initDriver d deps false) := by
  cases d with
  | sio2man => cases deps <;> exact initSio2manDriver_walks _
  | fileXio => cases deps <;> exact initFileXioDriver_walks _
  | bdm => cases deps <;> exact initBdmDriver_walks _
  | usbd => cases deps <;> exact initUsbdDriver_walks _
  | dev9 => cases deps <;> exact initDev9Driver_walks _
  | smap => cases deps <;> exact initSmapDriver_walks _
  | netman => cases deps <;> exact initNetmanDriver_walks _ _
  | cdfs =>
    cases deps <;> exact returnStatus_walks _ (loadIRXs_walks (pure_walks _) (by decide) rfl)
  | audio =>
    cases deps <;> exact withLibraries_walks _ (loadIRXs_walks (pure_walks _) (by decide) rfl)
      (by decide) (libCheck_walks _ rfl (fun _ h => .library (.head _) (bne_iff_ne.mpr h))
        (by decide) (pure_walks _))
  | poweroff =>
    cases deps <;> exact withLibraries_walks _ (loadIRXs_walks (pure_walks _) (by decide) rfl)
      (by decide) (libCheck_walks _ rfl (fun _ h => .library (.head _) (bne_iff_ne.mpr h))
        (by decide) (pure_walks _))
  -- where a driver has dependencies, the flag decides about their modules
  | memcard =>
    have hspec : WalkSpec Driver.memcard.moduleError (Driver.memcard.Ends deps only)
        MemcardInitStatus.irxOk ((if deps then [.sio2man] else []) ++ [.mcman, .mcserv])
        (initMemcardDriver deps) :=
      withDependency_walks deps (initSio2manDriver_walks noEnding) rfl isNegative_eq_false
        (by decide) (by decide) (fun _ => noEnding_ends) (pure_stops _) <|
      returnStatus_walks _ (loadIRXs_walks (pure_walks _) (by decide) rfl)
    cases deps <;> exact hspec
  | usb =>
    have hspec : WalkSpec Driver.usb.moduleError (Driver.usb.Ends deps only) UsbInitStatus.irxOk
        ((if deps then [.bdm, .bdmfsFatfs] else []) ++ ((if deps then [.usbd] else []) ++
          [.usbmassBd])) (initUsbDriver deps) :=
      withDependency_walks deps (initBdmDriver_walks noEnding) rfl isNegative_eq_false
        (by decide) (by decide) (fun _ => noEnding_ends) (pure_stops _) <|
      withDependency_walks deps (initUsbdDriver_walks noEnding) rfl isNegative_eq_false
        (by decide) (by decide) (fun _ => noEnding_ends) (pure_stops _) <|
      returnStatus_walks _ (loadIRXs_walks (pure_walks _) (by decide) rfl)
    cases deps <;> exact hspec
  | mx4sio =>
    have hspec := initMx4sioDriver_walks deps only
    cases deps <;> exact hspec
  | hdd =>
    have hspec := initHdd_walks deps only
    cases deps <;> exact hspec
  | joystick =>
    have hspec : WalkSpec Driver.joystick.moduleError (Driver.joystick.Ends deps only)
        JoystickInitStatus.ok ((if deps then [.sio2man] else []) ++ [.mtapman, .padman])
        (initJoystickDriver deps) :=
      withDependency_walks deps (initSio2manDriver_walks noEnding) rfl bne_zero_eq_false
        (by decide) (by decide) (fun _ => noEnding_ends) (pure_stops _) <|
      withLibraries_walks _ (loadIRXs_walks (pure_walks _) (by decide) rfl) (by decide) <|
      libCheck_walks _ rfl (fun _ h => .library (.head _) (bne_iff_ne.mpr h)) (by decide) <|
      libCheck_walks _ rfl (fun _ h => .library (.tail _ (.head _)) (bne_iff_ne.mpr h)) (by decide)
        (pure_walks _)
    cases deps <;> exact hspec
  | mouse =>
    have hspec : WalkSpec Driver.mouse.moduleError (Driver.mouse.Ends deps only) MouseInitStatus.ok
        ((if deps then [.usbd] else []) ++ [.ps2mouse]) (initMouseDriver deps) :=
      withLibraries_walks _ (withDependency_walks deps (initUsbdDriver_walks noEnding) rfl
        isNegative_eq_false (by decide) (by decide) (fun _ => noEnding_ends) (pure_stops _)
        (loadIRXs_walks (pure_walks _) (by decide) rfl)) (by decide) <|
      libCheck_walks _ rfl (fun _ h => .library (.head _) (decide_eq_true h)) (by decide)
        (.skip rfl fun _ => .ret rfl)
    cases deps <;> exact hspec
  | keyboard =>
    have hspec : WalkSpec Driver.keyboard.moduleError (Driver.keyboard.Ends deps only)
        KeyboardInitStatus.ok ((if deps then [.usbd] else []) ++ [.ps2kbd])
        (initKeyboardDriver deps) :=
      withLibraries_walks _ (withDependency_walks deps (initUsbdDriver_walks noEnding) rfl
        isNegative_eq_false (by decide) (by decide) (fun _ => noEnding_ends) (pure_stops _)
        (loadIRXs_walks (pure_walks _) (by decide) rfl)) (by decide) <|
      libCheck_walks _ rfl (fun _ h => .library (.head _) (decide_eq_true h)) (by decide)
        (pure_walks _)
    cases deps <;> exact hspec
  | camera =>
    have hspec : WalkSpec Driver.camera.moduleError (Driver.camera.Ends deps only)
        CameraInitStatus.ok ((if deps then [.usbd] else []) ++ [.ps2cam]) (initCameraDriver deps) :=
      withLibraries_walks _ (withDependency_walks deps (initUsbdDriver_walks noEnding) rfl
        isNegative_eq_false (by decide) (by decide) (fun _ => noEnding_ends) (pure_stops _)
        (loadIRXs_walks (pure_walks _) (by decide) rfl)) (by decide) <|
      libCheck_walks _ rfl (fun _ h => .library (.head _) (decide_eq_true h)) (by decide)
        (pure_walks _)
    cases deps <;> exact hspec
  | eeip =>
    have hspec : WalkSpec Driver.eeip.moduleError (Driver.eeip.Ends deps only) EeipInitStatus.ok
        ((if deps then [.ps2dev9] else []) ++ ((if deps then [.netman] else []) ++
          ((if deps then [.smap] else []) ++ []))) (initEeipDriver deps) :=
      withNetwork_walks deps only (Or.inl rfl) (by decide) (by decide) <|
      returnStatus_walks _ (loadIRXs_walks (pure_walks _) (by decide) rfl)
    cases deps <;> exact hspec
  | iopip =>
    have hspec : WalkSpec Driver.iopip.moduleError (Driver.iopip.Ends deps only) IopipInitStatus.ok
        ((if deps then [.ps2dev9] else []) ++ ((if deps then [.netman] else []) ++
          ((if deps then [.smap] else []) ++ [.ps2ipNm, .ps2ips]))) (initIopipDriver deps) :=
      withNetwork_walks deps only (Or.inr rfl) (by decide) (by decide) <|
      withLibraries_walks _ (loadIRXs_walks (pure_walks _) (by decide) rfl) (by decide) <|
      libCheck_walks _ rfl (fun _ h => .library (.head _) (bne_iff_ne.mpr h)) (by decide)
        (pure_walks _)
    cases deps <;> exact hspec

/-- Outside the boot device the HDD driver asks for nothing. -/
theorem initDriver_walks_boot (d : Driver) :
    WalkSpec d.moduleError (d.Ends deps only) d.okStatus (d.responsible deps)
      (initDriver d deps only) := by
  have hspec := initDriver_walks deps only d
  cases d
  case hdd =>
    cases only with
    | false => exact hspec
    | true =>
      refine @check_walks _ _ _ _ _ _ _ .getcwd trivial (fun cwd : Bytes => (!hddPath cwd) = true) _
        (fun cwd h => .wrongCwd rfl ?_) (by decide) (returnStatus_stops _ (pure_stops _)) hspec
      exact Bool.not_eq_true' _ ▸ h
  -- the other drivers ignore the flag
  all_goals exact hspec

end

/-! ## 4. What becomes of the modules -/

/-- The modules a stretch of a trace executes, in order. -/
def executedModules (es : List Event) : List Irx := (execs es).reverse.map (·.1)

theorem executedModules_append (es es' : List Event) :
    executedModules (es ++ es') = executedModules es' ++ executedModules es := by
  rw [executedModules, execs, List.filterMap_append, List.reverse_append, List.map_append]
  rfl

theorem executedModules_of_libraries {es : List Event} (hes : ∀ e ∈ es, e.isLibrary = true) :
    executedModules es = [] := by
  have hnone : execs (es ++ []) = execs [] := execs_append hes
  rw [List.append_nil] at hnone
  rw [executedModules, hnone]
  rfl

/-- Where an answer comes from: a call of the stretch, the working directory, or the console. -/
def Answered (console : Console) (s : Machine) (es : List Event) :
    (op : DriverOp) → op.Answer → Prop
  | .lib libCall, result => Event.lib libCall result ∈ es
  | .getcwd, cwd => cwd = s.cwd
  | .isCOP2Pipelined, pipelined => pipelined = console.cop2Pipelined
  | _, _ => True

/-- Why a program has come no further, and the module it has then executed in vain: the module
failed, the image has nothing under it, or the answer to a call ended the program. -/
inductive EndedBy (console : Console) (s s' : Machine) (es : List Event) :
    Walk driverInterface Irx → List Irx → Prop
  | done : EndedBy console s s' es .done []
  | failed {m : Irx} {rest : List Irx} (hreset : s.irx m = .reset)
      (herr : (s'.irx m).checkErr = true) : EndedBy console s s' es (.refused m rest) [m]
  | missing {m : Irx} {rest : List Irx} (hreset : s.irx m = .reset) (hsame : s'.irx m = .reset)
      (hpayload : s'.irxPayload console m = none) : EndedBy console s s' es (.refused m rest) []
  | answered {op : DriverOp} {answer : op.Answer} {rest : List Irx}
      (hanswer : Answered console s es op answer) :
      EndedBy console s s' es (.stopped op answer rest) []

/-- From one state to another the modules of `passed` have been seen to, in order, and a module that
was refused has been tried last. -/
structure SeenTo (console : Console) (passed : List Irx) (w : Walk driverInterface Irx)
    (s s' : Machine) : Prop where
  inPlace : ∀ m ∈ passed, (s.irx m = .reset → (s'.irx m).checkErr = false) ∧
    (s.irx m ≠ .reset → s'.irx m = s.irx m)
  untouched : ∀ m, m ∉ passed → (∀ rest, w ≠ .refused m rest) → s'.irx m = s.irx m
  executed : ∃ es failed, s'.trace = es ++ s.trace ∧
    executedModules es = passed.filter (fun m => s.irx m = .reset) ++ failed ∧
    EndedBy console s s' es w failed

/-- From one state to another only libraries were called. -/
structure Quietly (s s' : Machine) (es : List Event) : Prop where
  irx : s'.irx = s.irx
  world : s'.world = s.world
  cwd : s'.cwd = s.cwd
  libraries : ∀ e ∈ es, e.isLibrary = true
  trace : s'.trace = es ++ s.trace

/-- What the block of a module does: nothing, or one execution. -/
inductive LoadEffect (console : Console) (s : Machine) (m : Irx) : Bool → Machine → Prop
  | passedOver (h : s.irx m ≠ .reset) : LoadEffect console s m true s
  | missing (h : s.irx m = .reset) (hpayload : s.irxPayload console m = none) :
      LoadEffect console s m false s
  | executed (h : s.irx m = .reset) {s' : Machine} (call : SifExec) (v : IrxVars)
      (htrace : s'.trace = .exec m call (v.id, v.ret) :: s.trace)
      (hirx : s'.irx = Function.update s.irx m v) (hcwd : s'.cwd = s.cwd) :
      LoadEffect console s m (!v.checkErr) s'

section

variable {console : Console} {s s' s₁ : Machine} {es es' : List Event}

theorem Quietly.refl (s : Machine) : Quietly s s [] :=
  ⟨rfl, rfl, rfl, List.forall_mem_nil _, rfl⟩

theorem Quietly.trans (h : Quietly s s₁ es) (h' : Quietly s₁ s' es') :
    Quietly s s' (es' ++ es) where
  irx := h'.irx.trans h.irx
  world := h'.world.trans h.world
  cwd := h'.cwd.trans h.cwd
  libraries := List.forall_mem_append.mpr ⟨h'.libraries, h.libraries⟩
  trace := by rw [h'.trace, h.trace, List.append_assoc]

theorem loadIrx_effect {m : Irx} {args : Option Bytes} {goesOn : Bool}
    (hgoes : (s.loadIrx console m args).1 = goesOn) :
    LoadEffect console s m goesOn (s.loadIrx console m args).2 := by
  rw [← hgoes, Machine.loadIrx_eq]
  by_cases hreset : s.irx m = .reset
  · rw [if_pos hreset]
    cases hpayload : s.irxPayload console m with
    | none => exact .missing hreset hpayload
    | some payload =>
      exact .executed hreset _ _ (Machine.executed_trace ..) (Machine.executed_irx ..) rfl
  · rw [if_neg hreset]
    exact .passedOver hreset

/-- A call that loads and unloads nothing. -/
theorem step_quietly {op : DriverOp} (hop : op.bringsUp []) {r : op.Answer × Machine}
    (hstep : console.step op s = some r) :
    ∃ es, Quietly s r.2 es ∧ Answered console s es op r.1 := by
  cases op with
  | loadIrx m args => cases hop
  | lib call =>
    obtain rfl := Option.some.inj hstep
    have hrecord : s.lib console call = (console.lib call s.trace,
        s.record (.lib call (console.lib call s.trace))) := by
      cases call with
      | chdir path => cases hop
      | _ => rfl
    rw [hrecord]
    exact ⟨[_], ⟨rfl, rfl, rfl, List.forall_mem_singleton.mpr rfl, rfl⟩, List.mem_singleton_self _⟩
  | isCOP2Pipelined | getcwd =>
    obtain rfl := Option.some.inj hstep
    exact ⟨[], .refl s, rfl⟩
  | getStatus d =>
    obtain rfl := Option.some.inj hstep
    exact ⟨[], .refl s, trivial⟩
  | setStatus d status =>
    obtain rfl := Option.some.inj hstep
    exact ⟨[], ⟨rfl, rfl, rfl, List.forall_mem_nil _, rfl⟩, trivial⟩
  | unloadIrx | untilOk | getMountStatus | setMountStatus | getMountString | setMountString
  | getBootDeviceId | abort => exact hop.elim

/-- Nothing is loaded behind the list. -/
theorem Passes.quietly {ms : List Irx} {w : Walk driverInterface Irx}
    (h : Passes loading console.step ms w s s') (hms : ms = []) (hw : w = .done) :
    ∃ es, Quietly s s' es := by
  induction h with
  | done s => exact ⟨[], .refl s⟩
  | quiet hop hstep _ ih =>
    obtain ⟨es, hquiet, -⟩ := step_quietly hop hstep
    obtain ⟨es', hrest⟩ := ih hms hw
    exact ⟨es' ++ es, hquiet.trans hrest⟩
  | stopped | refused => cases hw
  | granted => cases hms

section

variable {m : Irx} {goesOn : Bool}

theorem LoadEffect.others (h : LoadEffect console s m goesOn s₁) {m' : Irx} (hne : m' ≠ m) :
    s₁.irx m' = s.irx m' := by
  cases h with
  | passedOver => rfl
  | missing => rfl
  | executed _ call v _ hirx => rw [hirx, Function.update_of_ne hne]

theorem LoadEffect.cwd (h : LoadEffect console s m goesOn s₁) : s₁.cwd = s.cwd := by
  cases h with
  | passedOver => rfl
  | missing => rfl
  | executed _ _ _ _ _ hcwd => exact hcwd

/-- A module that is in place after its block: it was already, or it has been executed. -/
theorem LoadEffect.executes (h : LoadEffect console s m goesOn s₁) (hgoes : goesOn = true) :
    ∃ es, s₁.trace = es ++ s.trace ∧ executedModules es = [m].filter fun m => s.irx m = .reset := by
  cases h with
  | passedOver hne => exact ⟨[], rfl, by simp [hne, executedModules, execs]⟩
  | missing => cases hgoes
  | executed hreset call v htrace => exact ⟨[_], htrace, by simp [hreset, executedModules, execs]⟩

theorem LoadEffect.inPlace (h : LoadEffect console s m goesOn s₁) (hgoes : goesOn = true) :
    (s.irx m = .reset → (s₁.irx m).checkErr = false) ∧
      (s.irx m ≠ .reset → s₁.irx m = s.irx m) := by
  cases h with
  | passedOver hne => exact ⟨fun hreset => absurd hreset hne, fun _ => rfl⟩
  | missing => cases hgoes
  | executed hreset call v _ hirx =>
    refine ⟨fun _ => ?_, fun hne => absurd hreset hne⟩
    rw [hirx, Function.update_self]
    simpa using hgoes

/-- A module that is not: it failed, or there was nothing to execute. -/
theorem LoadEffect.ended (h : LoadEffect console s m goesOn s₁) (hgoes : goesOn = false)
    (hquiet : Quietly s₁ s' es) (rest : List Irx) :
    ∃ es' failed, s₁.trace = es' ++ s.trace ∧ executedModules es' = failed ∧
      EndedBy console s s' (es ++ es') (.refused m rest) failed := by
  cases h with
  | passedOver => cases hgoes
  | missing hreset hpayload =>
    refine ⟨[], [], rfl, rfl, .missing hreset ?_ ?_⟩
    · rw [hquiet.irx, hreset]
    · rw [Machine.irxPayload, hquiet.world]
      exact hpayload
  | executed hreset call v htrace hirx =>
    refine ⟨[_], [m], htrace, rfl, .failed hreset ?_⟩
    rw [hquiet.irx, hirx, Function.update_self]
    simpa using hgoes

end

variable {passed : List Irx} {w : Walk driverInterface Irx} {failed : List Irx}

theorem Answered.mono {op : DriverOp} {answer : op.Answer} (h : Answered console s es op answer)
    (hsub : es ⊆ es') : Answered console s es' op answer := by
  cases op with
  | lib libCall => exact hsub h
  | getcwd | isCOP2Pipelined => exact h
  | _ => trivial

theorem EndedBy.from (h : EndedBy console s₁ s' es' w failed)
    (hirx : ∀ m rest, w = .refused m rest → s₁.irx m = s.irx m) (hcwd : s₁.cwd = s.cwd) :
    EndedBy console s s' (es' ++ es) w failed := by
  cases h with
  | done => exact .done
  | failed hreset herr => exact .failed (hirx _ _ rfl ▸ hreset) herr
  | missing hreset hsame hpayload => exact .missing (hirx _ _ rfl ▸ hreset) hsame hpayload
  | @answered op answer rest hanswer =>
    refine .answered (Answered.mono ?_ (List.subset_append_left es' es))
    cases op with
    | getcwd => exact Eq.trans hanswer hcwd
    | _ => exact hanswer

/-- Nothing is seen to where no module is asked for. -/
theorem SeenTo.nothing (hquiet : Quietly s s' es) (hended : EndedBy console s s' es w []) :
    SeenTo console [] w s s' :=
  ⟨List.forall_mem_nil _, fun m _ _ => congrFun hquiet.irx m, es, [], hquiet.trace,
    executedModules_of_libraries hquiet.libraries, hended⟩

/-- A call that has nothing to do with modules comes first. -/
theorem SeenTo.quiet (hquiet : Quietly s s₁ es) (h : SeenTo console passed w s₁ s') :
    SeenTo console passed w s s' := by
  obtain ⟨es', failed, htrace, hexecuted, hended⟩ := h.executed
  refine ⟨hquiet.irx ▸ h.inPlace, hquiet.irx ▸ h.untouched, es' ++ es, failed, ?_, ?_, ?_⟩
  · rw [htrace, hquiet.trace, List.append_assoc]
  · rw [executedModules_append, executedModules_of_libraries hquiet.libraries, List.nil_append,
      hexecuted, hquiet.irx]
  · exact hended.from (fun m _ _ => congrFun hquiet.irx m) hquiet.cwd

/-- A module that is in place after its block comes first. -/
theorem SeenTo.cons {m : Irx} (hload : LoadEffect console s m true s₁) (hm : m ∉ passed)
    (hw : ∀ rest, w ≠ .refused m rest) (h : SeenTo console passed w s₁ s') :
    SeenTo console (m :: passed) w s s' := by
  have hlater : s'.irx m = s₁.irx m := h.untouched m hm hw
  have hothers {m' : Irx} (hm' : m' ∈ passed) : s₁.irx m' = s.irx m' :=
    hload.others fun heq => hm (heq ▸ hm')
  constructor
  · rw [List.forall_mem_cons, hlater]
    refine ⟨hload.inPlace rfl, fun m' hm' => ?_⟩
    rw [← hothers hm']
    exact h.inPlace m' hm'
  · intro m' hm' hw'
    rw [List.mem_cons, not_or] at hm'
    rw [h.untouched m' hm'.2 hw', hload.others hm'.1]
  · obtain ⟨es, htrace, hfirst⟩ := hload.executes rfl
    obtain ⟨es', failed, htrace', hexecuted, hended⟩ := h.executed
    refine ⟨es' ++ es, failed, ?_, ?_, ?_⟩
    · rw [htrace', htrace, List.append_assoc]
    · -- what is reset behind the first module is so before it is loaded
      have hsame : passed.filter (fun m => s₁.irx m = .reset) =
          passed.filter fun m => s.irx m = .reset :=
        List.filter_congr fun m' hm' => by rw [hothers hm']
      rw [executedModules_append, hfirst, hexecuted, hsame, ← List.append_assoc,
        ← List.filter_append]
      rfl
    · exact hended.from (fun m' rest hrefused => hload.others fun heq => hw rest (heq ▸ hrefused))
        hload.cwd

/-- A module that does not load comes last. -/
theorem SeenTo.refusal {m : Irx} {rest : List Irx} (hload : LoadEffect console s m false s₁)
    (hquiet : Quietly s₁ s' es) : SeenTo console [] (.refused m rest) s s' := by
  refine ⟨List.forall_mem_nil _, fun m' _ hne => ?_, ?_⟩
  · rw [hquiet.irx]
    exact hload.others fun heq => hne rest (heq ▸ rfl)
  · obtain ⟨es', failed, htrace, hexecuted, hended⟩ := hload.ended rfl hquiet rest
    refine ⟨es ++ es', failed, ?_, ?_, hended⟩
    · rw [hquiet.trace, htrace, List.append_assoc]
    · rw [executedModules_append, executedModules_of_libraries hquiet.libraries, List.append_nil]
      exact hexecuted

theorem loading_item {op : DriverOp} {m : Irx} (h : loading.item op = some m) :
    ∃ args, op = .loadIrx m args := by
  cases op with
  | loadIrx m' args => exact ⟨args, by rw [Option.some.inj h]⟩
  | _ => cases h

/-- What becomes of the modules of a list that a program passes through. -/
theorem Passes.seenTo {ms : List Irx} (hms : ms.Nodup)
    (h : Passes loading console.step ms w s s') :
    ∃ passed, ms = passed ++ w.left ∧ SeenTo console passed w s s' := by
  induction h with
  | done s => exact ⟨[], rfl, .nothing (.refl s) .done⟩
  | quiet hop hstep _ ih =>
    obtain ⟨passed, hsplit, hseenTo⟩ := ih hms
    obtain ⟨es, hquiet, -⟩ := step_quietly hop hstep
    exact ⟨passed, hsplit, hseenTo.quiet hquiet⟩
  | @stopped ms op s s' r hop hstep hrest =>
    obtain ⟨es, hquiet, hanswer⟩ := step_quietly hop hstep
    obtain ⟨es', hrest⟩ := Passes.quietly hrest rfl rfl
    refine ⟨[], rfl, .nothing (hquiet.trans hrest) (.answered ?_)⟩
    exact hanswer.mono (List.subset_append_right es' es)
  | @granted m ms w op s s' r hop hstep hr _ ih =>
    obtain ⟨hm, hms⟩ := List.nodup_cons.mp hms
    obtain ⟨passed, rfl, hseenTo⟩ := ih hms
    obtain ⟨args, rfl⟩ := loading_item hop
    obtain rfl := Option.some.inj hstep
    have hload : LoadEffect console s m true (s.loadIrx console m args).2 := loadIrx_effect hr
    -- the module does not occur again, so what comes later leaves it in place
    rw [List.mem_append, not_or] at hm
    refine ⟨m :: passed, rfl, hseenTo.cons hload hm.1 fun rest hw => hm.2 ?_⟩
    rw [hw]
    exact List.mem_cons_self
  | @refused m ms op s s' r hop hstep hr hrest _ =>
    obtain ⟨es, hquiet⟩ := Passes.quietly hrest rfl rfl
    obtain ⟨args, rfl⟩ := loading_item hop
    obtain rfl := Option.some.inj hstep
    have hload : LoadEffect console s m false (s.loadIrx console m args).2 := loadIrx_effect hr
    exact ⟨[], rfl, .refusal hload hquiet⟩

end

/-! ## 5. The main result -/

theorem Driver.responsible_nodup (d : Driver) (deps : Bool) : (d.responsible deps).Nodup := by
  cases deps <;> cases d <;> decide

section

variable {console : Console} {d : Driver} {deps onlyIfBootedFromHdd : Bool} {s s' : Machine}
  {status : Int}

/-- Whatever has happened before, an initialisation sees to its modules in order, executing exactly
those that are not in place, until one does not load or a check ends it; its status names the module
or the check, and is the one of success otherwise.  Nothing behind it is touched. -/
theorem initDriver_failStop
    (hrun : (initDriver d deps onlyIfBootedFromHdd).run console.step s = some (status, s')) :
    ∃ passed w, d.responsible deps = passed ++ w.left ∧ SeenTo console passed w s s' ∧
      Tells d.moduleError (d.Ends deps onlyIfBootedFromHdd) d.okStatus w status := by
  obtain ⟨w, htells, hpasses⟩ := (initDriver_walks_boot deps onlyIfBootedFromHdd d).passes hrun
  obtain ⟨passed, hsplit, hseenTo⟩ := Passes.seenTo (d.responsible_nodup deps) hpasses
  exact ⟨passed, w, hsplit, hseenTo, htells⟩

def Console.withoutModule (m : Irx) : Console where
  flavor := .embedded fun _ => []
  exec m' _ := if m' = m then (-1, -1) else (7, 0)
  unload _ _ := 0
  lib _ _ := 0
  cop2Pipelined := true
  patience := 1

theorem initDriver_failStop_mcserv : ∃ s',
    (initDriver .memcard true false).run (Console.withoutModule .mcserv).step
      (Machine.initial [] World.initial) = some (MemcardInitStatus.mcservIrxError, s') ∧
    ∃ passed w, Driver.memcard.responsible true = passed ++ w.left ∧
      SeenTo (Console.withoutModule .mcserv) passed w (Machine.initial [] World.initial) s' ∧
      Tells Driver.memcard.moduleError (Driver.memcard.Ends true false) Driver.memcard.okStatus w
        MemcardInitStatus.mcservIrxError := by
  refine ⟨_, rfl, ?_⟩
  exact @initDriver_failStop (Console.withoutModule .mcserv) .memcard true false _ _ _ rfl

/-- A status that is not an error means that every module has been seen to. -/
theorem initDriver_seesToAll
    (hrun : (initDriver d deps onlyIfBootedFromHdd).run console.step s = some (status, s'))
    (hok : 0 ≤ status) : SeenTo console (d.responsible deps) .done s s' := by
  obtain ⟨w, htells, hpasses⟩ := (initDriver_walks_boot deps onlyIfBootedFromHdd d).passes hrun
  obtain ⟨passed, hsplit, hseenTo⟩ := Passes.seenTo (d.responsible_nodup deps) hpasses
  cases w with
  | done =>
    rw [hsplit, Walk.left, List.append_nil]
    exact hseenTo
  | refused | stopped => exact absurd htells.2 (Int.not_lt.mpr hok)

end

/-! ## 6. What a status reports -/

theorem Machine.initial_settled (cwd : Bytes) (w : World) : (Machine.initial cwd w).Settled :=
  fun _ _ => Or.inl rfl

/-- After any run of public calls, an initialisation that does not report an error leaves every
module it is responsible for loaded exactly when it has found each of them reset or loaded, and so
whenever each failed execution has answered `(-1, -1)`. -/
theorem init_reports_loaded (console : Console) (calls : List PublicCall) (cwd : Bytes) (w : World)
    (d : Driver) (initDependencies onlyIfBootedFromHdd : Bool) {statuses : List Int} {status : Int}
    {s s' : Machine}
    (hrun : (runCalls calls).run console.step (Machine.initial cwd w) = some (statuses, s))
    (hinit : (initDriver d initDependencies onlyIfBootedFromHdd).run console.step s =
      some (status, s')) (hok : 0 ≤ status) :
    ((∀ m ∈ d.responsible initDependencies, loaded m s'.trace = true) ↔
      ∀ m ∈ d.responsible initDependencies, s.irx m = .reset ∨ loaded m s.trace = true) ∧
    (FailuresReset s.trace → ∀ m ∈ d.responsible initDependencies, loaded m s'.trace = true) := by
  have htracked : s.Tracked := run_tracked console (Machine.initial_tracked cwd w) hrun
  have htracked' : s'.Tracked := run_tracked console htracked hinit
  have hseenTo := initDriver_seesToAll hinit hok
  have hloaded (m : Irx) (hm : m ∈ d.responsible initDependencies) :
      loaded m s'.trace = true ↔ s.irx m = .reset ∨ loaded m s.trace = true := by
    obtain ⟨hreset, hsame⟩ := hseenTo.inPlace m hm
    by_cases h : s.irx m = .reset
    · rw [htracked' m, hreset h]
      exact iff_of_true rfl (Or.inl h)
    · rw [htracked' m, hsame h, ← htracked m, or_iff_right h]
  refine ⟨forall₂_congr hloaded, fun hclean m hm => (hloaded m hm).mpr ?_⟩
  have hsettled : s.Settled :=
    (Program.Triple.keepsSettled (runCalls calls)).holds _ (Machine.initial_settled cwd w) _ hrun
  rcases hsettled hclean m with hreset | herr
  · exact Or.inl hreset
  · rw [htracked m, herr]
    exact Or.inr rfl

/-- The first execution of a module fails with `(-1, -1)`, the next ones stay resident. -/
def Console.secondTry : Console where
  flavor := .embedded fun _ => []
  exec _ k := if k = 0 then (-1, -1) else (7, 0)
  unload _ _ := 0
  lib _ _ := 0
  cop2Pipelined := true
  patience := 1

/-- A module that could not be executed is tried again by the next call, and is loaded then. -/
theorem init_reports_loaded_secondTry :
    ∃ s, (initDriver .sio2man true false).run Console.secondTry.step
        (Machine.initial [] World.initial) = some (-2, s) ∧
      ∃ s', (initDriver .sio2man true false).run Console.secondTry.step s = some (0, s') ∧
        ∀ m ∈ Driver.sio2man.responsible true, loaded m s'.trace = true := by
  refine ⟨_, rfl, _, rfl, ?_⟩
  refine (init_reports_loaded Console.secondTry [.init .sio2man true false] [] World.initial
    .sio2man true false rfl rfl (by decide)).2 fun m call result hmem _ => ?_
  cases List.mem_singleton.mp hmem
  rfl

/-- Every module runs once and does not stay: `MODULE_NO_RESIDENT_END`. -/
def Console.nonResident : Console where
  flavor := .embedded fun _ => []
  exec _ _ := (7, 1)
  unload _ _ := 0
  lib _ _ := 0
  cop2Pipelined := true
  patience := 1

/-- The variables of a module that did not stay are not reset, so the next initialisation takes the
module for loaded. -/
theorem second_init_reports_unloaded :
    ¬ ∀ (console : Console) (calls : List PublicCall) (cwd : Bytes) (w : World) (d : Driver)
        (initDependencies onlyIfBootedFromHdd : Bool) (statuses : List Int) (status : Int)
        (s s' : Machine),
      (runCalls calls).run console.step (Machine.initial cwd w) = some (statuses, s) →
      (initDriver d initDependencies onlyIfBootedFromHdd).run console.step s = some (status, s') →
      0 ≤ status → ∀ m ∈ d.responsible initDependencies, loaded m s'.trace = true := by
  intro h
  have hloaded := h Console.nonResident [.init .sio2man false false] [] World.initial .sio2man false
    false _ _ _ _ rfl rfl (by decide) .sio2man (by decide)
  cases hloaded

end Ps2Drivers
