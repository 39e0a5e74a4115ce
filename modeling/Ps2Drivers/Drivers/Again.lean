import Ps2Drivers.Drivers.BootStaging
import Ps2Drivers.Drivers.Ready

/-!
# Initialising again

An initialisation that succeeds leaves no module of its own reset, and nothing but an unload resets
one.  The blocks of a second initialisation are then all passed over, so that it comes down to its
library calls, and for the HDD to the working directory and the disk.
-/

open Binary CString

namespace Ps2Drivers

/-! ## 1. Modules taken over -/

section

variable {console : Console} {ms : List Irx} {op : DriverOp} {s s' : Machine}

/-- Where no module may be executed, a step changes no variables and executes nothing. -/
theorem ModuleEffect.quiet_of_takenOver (h : ModuleEffect console s op s') (hop : op.bringsUp ms)
    (hs : s.TakenOver ms) : s'.irx = s.irx ∧ execs s'.trace = execs s.trace := by
  cases h with
  | quiet es hes htrace hirx =>
    rw [htrace, execs_append hes]
    exact ⟨hirx, rfl⟩
  | executed m args hreset => exact absurd hreset (hs m hop)
  | unloaded => exact hop.elim

theorem run_of_takenOver {α : Type} {p : DriverM α} (hp : p.Within (DriverOp.bringsUp ms))
    (hs : s.TakenOver ms) {r : α × Machine} (hr : p.run console.step s = some r) :
    r.2.irx = s.irx ∧ execs r.2.trace = execs s.trace := by
  have hkeeps : Program.Triple console.step
      (fun t => t.irx = s.irx ∧ execs t.trace = execs s.trace) p
      fun _ t => t.irx = s.irx ∧ execs t.trace = execs s.trace := by
    refine Program.Triple.keeps hp fun op hop t r ht hstep => ?_
    obtain ⟨hirx, hexecs⟩ := (step_effect hstep).quiet_of_takenOver hop (hs.congr ht.1)
    exact ⟨hirx.trans ht.1, hexecs.trans ht.2⟩
  exact hkeeps.holds s ⟨rfl, rfl⟩ r hr

end

/-! ## 2. The status -/

def StoresStatus (d : Driver) (ok : Int) (p : DriverM Int) : Prop :=
  ∀ console : Console, Program.Triple console.step (fun _ => True) p fun status s =>
    status = ok → s.status d = ok

section

variable {d : Driver} {ok : Int} {init error rest : DriverM Int}

theorem SetsStatus.stores {p : DriverM Int} (hp : SetsStatus d p) (ok : Int) :
    StoresStatus d ok p := fun console =>
  (hp console).weaken fun _ _ hset hok => hset.trans hok

theorem withLibraries_sets (d : Driver) (load libraries : DriverM Int) :
    SetsStatus d (withLibraries d load libraries) := by
  intro console
  refine Program.Triple.bind (R := fun _ _ => True) ⟨fun _ _ _ _ => trivial⟩ fun status => ?_
  have hset : Program.Triple console.step (fun _ => True) (setStatus d status) fun _ s =>
      s.status d = status :=
    Program.Triple.of_run (fun s => setStatus_run console s d status) fun s _ =>
      Function.update_self ..
  refine Program.Triple.bind hset fun _ => ?_
  apply Program.Triple.branch
  · exact fun _ => Program.Triple.ret fun _ hs => hs
  · intro _
    exact (returnStatus_sets d libraries console).imp (fun _ _ => trivial) fun _ _ hs => hs

/-- The error of a dependency need not be stored. -/
theorem withDependency_stores (enabled : Bool) {refused : Int → Bool} (herror : FailSpec error)
    (hok : 0 ≤ ok) (hrest : StoresStatus d ok rest) :
    StoresStatus d ok (withDependency enabled init refused error rest) := by
  cases enabled with
  | false => exact hrest
  | true =>
    intro console
    refine Program.Triple.bind (R := fun _ _ => True) ⟨fun _ _ _ _ => trivial⟩ fun result => ?_
    apply Program.Triple.branch
    · intro _
      refine (herror.fails console _).weaken fun status _ hneg heq => ?_
      exact absurd hneg (Int.not_lt.mpr (heq ▸ hok))
    · exact fun _ => hrest console

theorem withNetwork_stores (deps : Bool) {e : Int} (he : e < 0) (hok : 0 ≤ ok)
    (hrest : StoresStatus d ok rest) : StoresStatus d ok (withNetwork deps e rest) :=
  withDependency_stores _ (pure_fails he) hok <|
  withDependency_stores _ (pure_fails he) hok <|
  withDependency_stores _ (pure_fails he) hok hrest

end

theorem initDriver_stores (d : Driver) (deps only : Bool) :
    StoresStatus d d.okStatus (initDriver d deps only) := by
  cases d with
  | sio2man | bdm | usbd | cdfs | dev9 | smap => exact (returnStatus_sets _ _).stores _
  | fileXio | audio | poweroff | mouse | keyboard | camera | netman =>
    exact (withLibraries_sets _ _ _).stores _
  | memcard =>
    exact withDependency_stores _ (pure_fails (by decide)) (by decide)
      ((returnStatus_sets _ _).stores _)
  | usb | mx4sio =>
    exact withDependency_stores _ (pure_fails (by decide)) (by decide) <|
      withDependency_stores _ (pure_fails (by decide)) (by decide)
        ((returnStatus_sets _ _).stores _)
  | joystick =>
    exact withDependency_stores _ (pure_fails (by decide)) (by decide)
      ((withLibraries_sets _ _ _).stores _)
  | eeip => exact withNetwork_stores _ (by decide) (by decide) ((returnStatus_sets _ _).stores _)
  | iopip =>
    exact withNetwork_stores _ (by decide) (by decide) ((withLibraries_sets _ _ _).stores _)
  -- the errors of the HDD driver are stored as well
  | hdd => exact (initHddDriver_sets deps only).stores _

/-! ## 3. MX4SIO -/

def Refuses (console : Console) (p : DriverM Int) : Prop :=
  Program.Triple console.step (fun _ => True) p fun status _ => status < 0

section

variable {console : Console}

theorem withDependency_refuses (enabled : Bool) {init error rest : DriverM Int}
    {refused : Int → Bool} (herror : FailSpec error) (hrest : Refuses console rest) :
    Refuses console (withDependency enabled init refused error rest) := by
  cases enabled with
  | false => exact hrest
  | true =>
    refine Program.Triple.bind (R := fun _ _ => True) ⟨fun _ _ _ _ => trivial⟩ fun result => ?_
    exact Program.Triple.branch (fun _ => herror.fails console _) fun _ => hrest

/-- Without a pipelined COP2, as in PCSX2, the driver never initialises. -/
theorem initMx4sioDriver_refuses (deps : Bool) (h : console.cop2Pipelined = false) :
    Refuses console (initMx4sioDriver deps) := by
  refine withDependency_refuses _ (pure_fails (by decide)) ?_
  refine withDependency_refuses _ (pure_fails (by decide)) ⟨fun s _ r hr => ?_⟩
  rw [returnStatus, Program.run_bind, Program.run_bind, isCOP2Pipelined_run, h] at hr
  rw [← Option.some.inj hr]
  show Mx4sioInitStatus.irxNotSupported < 0
  decide

end

/-! ## 4. The HDD -/

/-- What has happened when a second initialisation asks the disk: fileXio is initialised again,
if the dependencies are. -/
def Machine.beforeDisk (console : Console) (deps : Bool) (s : Machine) : List Event :=
  if deps then (s.lib console .fileXioInit).2.trace else s.trace

/-- The disk answers a second initialisation that it is connected and usable. -/
def Machine.diskReady (console : Console) (deps : Bool) (s : Machine) : Prop :=
  0 ≤ console.lib hddStatus (s.beforeDisk console deps) ∧
    console.lib hddStatus (s.beforeDisk console deps) < 3

instance (console : Console) (deps : Bool) (s : Machine) : Decidable (s.diskReady console deps) :=
  inferInstanceAs (Decidable (_ ∧ _))

section

variable {console : Console} {ms : List Irx} {s : Machine}

/-- The blocks of modules taken over do nothing. -/
theorem loadIRXs_takenOver {blocks : List IrxBlock} (rest : DriverM Int) (hs : s.TakenOver ms)
    (hms : ∀ block ∈ blocks, block.irx ∈ ms) :
    (loadIRXs blocks rest).run console.step s = rest.run console.step s := by
  induction blocks with
  | nil => rfl
  | cons block blocks ih =>
    rw [List.forall_mem_cons] at hms
    rw [loadIRXs, Program.run_bind, loadIrx_run, Machine.loadIrx_eq, if_neg (hs _ hms.1)]
    exact ih hms.2

theorem initFileXioDriver_takenOver (console : Console) (hs : s.TakenOver [.iomanX, .fileXio]) :
    ∃ t, initFileXioDriver.run console.step s = some (FileXioInitStatus.ok, t) ∧ t.irx = s.irx ∧
      t.trace = (s.lib console .fileXioInit).2.trace := by
  rw [initFileXioDriver, withLibraries, Program.run_bind, loadIRXs_takenOver _ hs]
  · exact ⟨_, rfl, rfl, rfl⟩
  · decide

/-- A driver without libraries of its own does nothing but set its status. -/
theorem returnStatus_takenOver {blocks : List IrxBlock} (d : Driver) (ok : Int)
    (hs : s.TakenOver ms) (hms : ∀ block ∈ blocks, block.irx ∈ ms) :
    ∃ t, (returnStatus d (loadIRXs blocks (pure ok))).run console.step s = some (ok, t) ∧
      t.irx = s.irx ∧ t.trace = s.trace := by
  rw [returnStatus, Program.run_bind, loadIRXs_takenOver _ hs hms]
  exact ⟨_, rfl, rfl, rfl⟩

theorem initDev9Driver_takenOver (console : Console) (hs : s.TakenOver [.ps2dev9]) :
    ∃ t, initDev9Driver.run console.step s = some (Dev9InitStatus.ok, t) ∧ t.irx = s.irx ∧
      t.trace = s.trace :=
  returnStatus_takenOver .dev9 Dev9InitStatus.ok hs (by decide)

theorem initBdmDriver_takenOver (console : Console) (hs : s.TakenOver [.bdm, .bdmfsFatfs]) :
    ∃ t, initBdmDriver.run console.step s = some (BdmInitStatus.ok, t) ∧ t.irx = s.irx ∧
      t.trace = s.trace :=
  returnStatus_takenOver .bdm BdmInitStatus.ok hs (by decide)

/-- With its modules taken over, the driver only asks the disk. -/
theorem loadHddIRXs_takenOver (console : Console) (hs : s.TakenOver [.ps2atad, .ps2hdd, .ps2fs]) :
    ∃ t, loadHddIRXs.run console.step s =
      some (if 0 ≤ console.lib hddStatus s.trace ∧ console.lib hddStatus s.trace < 3 then
        HddInitStatus.irxOk else HddInitStatus.hddNotReadyError, t) := by
  generalize hpast : console.lib hddStatus s.trace = answer
  have hchecked : (s.lib console hddStatus).1 = answer := hpast
  have hfs : (s.lib console hddStatus).2.TakenOver [.ps2fs] := hs.mono (by decide)
  rw [loadHddIRXs, loadIRXs_takenOver _ hs (by decide), hddCheck, Program.run_bind,
    Program.run_bind, lib_run, Option.bind_some, hchecked]
  by_cases hready : 0 ≤ answer ∧ answer < 3
  · rw [if_pos hready, if_neg (by omega), Program.run_pure, Option.bind_some,
      if_neg (Int.not_lt.mpr hready.1), loadIRXs_takenOver _ hfs (by decide)]
    exact ⟨_, rfl⟩
  · rw [if_neg hready, if_pos (by omega)]
    exact ⟨_, rfl⟩

theorem withDependency_accepted {init error rest : DriverM Int} {refused : Int → Bool}
    {result : Int} {t : Machine} (hinit : init.run console.step s = some (result, t))
    (hresult : refused result = false) :
    (withDependency true init refused error rest).run console.step s =
      rest.run console.step t := by
  rw [withDependency, if_pos rfl, Program.run_bind, hinit, Option.bind_some, hresult]
  rfl

theorem initHdd_takenOver (console : Console) {deps : Bool}
    (hs : s.TakenOver (Driver.hdd.responsible deps)) :
    ∃ t, (initHdd deps).run console.step s =
      some (if s.diskReady console deps then
        HddInitStatus.irxOk else HddInitStatus.hddNotReadyError, t) := by
  have hload {t : Machine} (ht : t.TakenOver (Driver.hdd.responsible deps))
      (htrace : t.trace = s.beforeDisk console deps) :
      ∃ u, (returnStatus .hdd loadHddIRXs).run console.step t =
        some (if s.diskReady console deps then
          HddInitStatus.irxOk else HddInitStatus.hddNotReadyError, u) := by
    obtain ⟨u, hu⟩ := loadHddIRXs_takenOver console
      (ht.mono (List.subset_append_right _ _))
    rw [returnStatus, Program.run_bind, hu, htrace]
    exact ⟨_, rfl⟩
  cases deps with
  | false => exact hload hs rfl
  | true =>
    -- the modules of the dependencies are taken over too, and fileXio alone is heard of
    obtain ⟨s₁, hfileXio, hirx₁, htrace₁⟩ :=
      initFileXioDriver_takenOver console (hs.mono (by decide))
    have hs₁ := hs.congr hirx₁
    obtain ⟨s₂, hdev9, hirx₂, htrace₂⟩ :=
      initDev9Driver_takenOver console (hs₁.mono (by decide))
    have hs₂ := hs₁.congr hirx₂
    obtain ⟨s₃, hbdm, hirx₃, htrace₃⟩ :=
      initBdmDriver_takenOver console (hs₂.mono (by decide))
    have hs₃ := hs₂.congr hirx₃
    rw [initHdd, withDependency_accepted hfileXio rfl, withDependency_accepted hdev9 rfl,
      withDependency_accepted hbdm rfl]
    exact hload hs₃ (htrace₃.trans (htrace₂.trans htrace₁))

end

/-! ## 5. The calls in between -/

inductive LaterCall
  | init (d : Driver) (initDependencies onlyIfBootedFromHdd : Bool)
  | initNetwork (stack : NetworkStack) (initDependencies : Bool)
  | initFilesystem
  | initOnlyBootFilesystem
  | mount (mountpoint blockdev : Bytes)
  | mountCurrent
  deriving DecidableEq, Repr

def LaterCall.run : LaterCall → DriverM Int
  | .init d initDependencies onlyIfBootedFromHdd =>
    initDriver d initDependencies onlyIfBootedFromHdd
  | .initNetwork stack initDependencies => initNetworkDriver stack initDependencies
  | .initFilesystem => do
    initPs2FilesystemDriver
    pure 0
  | .initOnlyBootFilesystem => do
    initOnlyBootPs2FilesystemDriver
    pure 0
  | .mount mountpoint blockdev => mountHddPartition mountpoint blockdev
  | .mountCurrent => mountCurrentHddPartition

/-- None of them unloads a module. -/
theorem LaterCall.run_within (call : LaterCall) :
    call.run.Within (DriverOp.loadsOf Set.univ) := by
  have hinit (d : Driver) (deps only : Bool) :
      (initDriver d deps only).Within (DriverOp.loadsOf Set.univ) :=
    initDriver_loadsOf d deps only fun _ _ => trivial
  cases call with
  | init d deps only => exact hinit d deps only
  | initNetwork stack deps =>
    cases stack with
    | default | ee => exact hinit .eeip deps false
    | iop => exact hinit .iopip deps false
  | initFilesystem =>
    exact Program.Within.bind (initPs2FilesystemDriver_loadsOf fun _ _ => trivial) fun _ =>
      Program.within_pure 0
  | initOnlyBootFilesystem =>
    refine Program.Within.bind ?_ fun _ => Program.within_pure 0
    refine Program.Within.bind (getcwd_within.mpr trivial) fun cwd => ?_
    refine Program.Within.bind (initFileXioDriver_loadsOf fun _ _ => trivial) fun _ => ?_
    refine Program.Within.bind (initBootGroup_loadsOf cwd _ fun _ _ => trivial) fun path => ?_
    exact Program.Within.bind (waitUntilDeviceIsReady_within (fun _ => trivial) path) fun _ =>
      Program.within_pure ()
  | mount mountpoint blockdev =>
    exact (mountHddPartition_handlesFiles mountpoint blockdev).mono DriverOp.handlesFiles.loadsOf
  | mountCurrent => exact mountCurrentHddPartition_within.mono DriverOp.handlesFiles.loadsOf

section

variable {console : Console} {ms : List Irx} {s₁ s₂ : Machine}

theorem history_takenOver {steps : List (Machine × LaterCall)}
    (hlater : Program.History console.step LaterCall.run s₁ steps s₂) (hs : s₁.TakenOver ms) :
    s₂.TakenOver ms := by
  refine hlater.keeps hs fun call s r hs hr => ?_
  have hkeeps := Program.Triple.keeps (P := Machine.TakenOver ms) (h := console.step)
    (call.run_within.mono (DriverOp.loadsOf.leaves ms)) fun _ hop _ _ hs hstep =>
      (step_effect hstep).takenOver hop hs
  exact hkeeps.holds s hs r hr

end

/-! ## 6. The second initialisation -/

/-- The initialisation from `s` that returned `r` was repeated harmlessly. -/
structure Repeats (d : Driver) (s : Machine) (r : Int × Machine) : Prop where
  result : r.1 = d.okStatus
  execs : execs r.2.trace = execs s.trace
  irx : r.2.irx = s.irx
  status : r.2.status d = d.okStatus

/-- In `s` the working directory and the disk still let the initialisation through. -/
def Machine.letsThrough (console : Console) (d : Driver) (deps only : Bool) (s : Machine) : Prop :=
  d = .hdd → (only = true → hddPath s.cwd = true) ∧ s.diskReady console deps

section

variable {console : Console} {d : Driver} {deps only : Bool} {s : Machine}

theorem initHddDriver_run (console : Console) (deps only : Bool) (s : Machine) :
    (initHddDriver deps only).run console.step s =
      if only = true ∧ hddPath s.cwd = false then
        (returnStatus .hdd (pure HddInitStatus.wrongCwd)).run console.step s
      else (initHdd deps).run console.step s := by
  cases only with
  | false => rfl
  | true =>
    rw [initHddDriver, if_pos rfl, Program.run_bind, cwdIsHdd_run, Option.bind_some]
    cases hddPath s.cwd <;> rfl

/-- With the modules taken over, only the working directory and the disk can refuse. -/
theorem initDriver_result_iff (hlibs : console.LibrariesSucceed)
    (hmx4sio : d = .mx4sio → console.cop2Pipelined = true)
    (hs : s.TakenOver (d.responsible deps)) {r : Int × Machine}
    (hr : (initDriver d deps only).run console.step s = some r) :
    r.1 = d.okStatus ↔ s.letsThrough console d deps only := by
  by_cases hd : d = .hdd
  · subst hd
    have hthrough : s.letsThrough console .hdd deps only ↔
        (only = true → hddPath s.cwd = true) ∧ s.diskReady console deps :=
      forall_prop_of_true rfl
    rw [initDriver, initHddDriver_run] at hr
    rw [hthrough]
    split at hr
    · -- the program was not started from the disk, and the flag asks for that
      rename_i hwrong
      rw [← Option.some.inj hr]
      refine iff_of_false (fun h => by cases h) fun h => ?_
      rw [h.1 hwrong.1] at hwrong
      cases hwrong.2
    · rename_i hcwd
      obtain ⟨t, ht⟩ := initHdd_takenOver console hs
      rw [ht] at hr
      rw [← Option.some.inj hr, and_iff_right fun honly => ?_]
      · by_cases hready : s.diskReady console deps
        · exact iff_of_true (if_pos hready) hready
        · rw [if_neg hready]
          exact iff_of_false (fun h => by cases h) hready
      · by_contra hno
        exact hcwd ⟨honly, Bool.eq_false_of_not_eq_true hno⟩
  · -- the other drivers depend on neither
    refine iff_of_true ?_ fun h => absurd h hd
    have hserves : Console.Serves d console := by
      cases d <;> first | exact absurd rfl hd | exact hmx4sio rfl | exact hlibs
    have hagain := (initDriver_passes d deps).passes hserves (takenOver_passing console)
    cases d <;> first | exact absurd rfl hd | exact hagain.holds s hs r hr

end

/-- After any initialisations and mounts, initialising a driver again is harmless exactly when the
HDD driver finds the working directory and the disk as it needs them. -/
theorem initDriver_again_iff {console : Console} (hlibs : console.LibrariesSucceed) {d : Driver}
    {deps only : Bool} {s₀ s₁ s₂ : Machine} {steps : List (Machine × LaterCall)}
    (hfirst : (initDriver d deps only).run console.step s₀ = some (d.okStatus, s₁))
    (hlater : Program.History console.step LaterCall.run s₁ steps s₂) :
    ∃ r, (initDriver d deps only).run console.step s₂ = some r ∧
      (Repeats d s₂ r ↔ s₂.letsThrough console d deps only) := by
  have hok := d.okStatus_nonneg
  have hs : s₂.TakenOver (d.responsible deps) :=
    history_takenOver hlater
      (((initDriver_takes d deps only).takes console).holds s₀ trivial _ hfirst hok)
  have hmx4sio : d = .mx4sio → console.cop2Pipelined = true := by
    rintro rfl
    by_contra hno
    have hrefuses := initMx4sioDriver_refuses deps (Bool.eq_false_of_not_eq_true hno)
    exact absurd (hrefuses.holds s₀ trivial _ hfirst) (Int.not_lt.mpr hok)
  obtain ⟨r, hr⟩ : ∃ r, (initDriver d deps only).run console.step s₂ = some r :=
    run_comesBack (initDriver_comesBack d deps only) s₂
  have hresult := initDriver_result_iff hlibs hmx4sio hs hr
  obtain ⟨hirx, hexecs⟩ := run_of_takenOver (initDriver_takes d deps only).within hs hr
  refine ⟨r, hr, fun h => hresult.mp h.result, fun h => ?_⟩
  have hsame := hresult.mpr h
  exact ⟨hsame, hexecs, hirx, (initDriver_stores d deps only console).holds s₂ trivial r hr hsame⟩

def Console.obliging : Console where
  flavor := .embedded fun _ => []
  exec _ _ := (7, 0)
  unload _ _ := 0
  lib call _ :=
    match call with
    | .mtapInit | .padInit | .malloc _ | .strdup _ => 1
    | _ => 0
  cop2Pipelined := true
  patience := 1

theorem Console.obliging_succeeds : Console.obliging.AllSucceed := by
  constructor <;> intros <;> simp [Console.obliging, hddStatus]

/-- Another driver and another partition in between change nothing for the HDD. -/
theorem initDriver_again_iff_usb :
    ∃ s₁ s₂ s₃ r, (initDriver .hdd true true).run Console.obliging.step mountingStart =
        some (HddInitStatus.irxOk, s₁) ∧
      Program.History Console.obliging.step LaterCall.run s₁
        [(s₂, .mount (lit "pfs1:") (lit "hdd0:__system")), (s₁, .init .usb true false)] s₃ ∧
      (initDriver .hdd true true).run Console.obliging.step s₃ = some r ∧ Repeats .hdd s₃ r := by
  have hrun : ((initDriver .hdd true true).run Console.obliging.step mountingStart).bind (fun r₁ =>
      ((LaterCall.init .usb true false).run.run Console.obliging.step r₁.2).bind fun r₂ =>
        ((LaterCall.mount (lit "pfs1:") (lit "hdd0:__system")).run.run Console.obliging.step
          r₂.2).map fun r₃ => decide (r₁.1 = HddInitStatus.irxOk ∧ hddPath r₃.2.cwd = true)) =
      some true := by decide +kernel
  obtain ⟨⟨status, s₁⟩, hinit, hrun⟩ := Option.bind_eq_some_iff.mp hrun
  obtain ⟨r₂, husb, hrun⟩ := Option.bind_eq_some_iff.mp hrun
  obtain ⟨r₃, hmount, hrun⟩ := Option.map_eq_some_iff.mp hrun
  obtain ⟨rfl, hcwd⟩ := of_decide_eq_true hrun
  have hlater : Program.History Console.obliging.step LaterCall.run s₁ _ r₃.2 :=
    .next (.next .start husb) hmount
  obtain ⟨r, hr, hiff⟩ := initDriver_again_iff Console.obliging_succeeds.libraries hinit hlater
  have hready : r₃.2.diskReady Console.obliging true := Console.obliging_succeeds.hddStatus _
  exact ⟨s₁, r₂.2, r₃.2, r, hinit, hlater, hr, hiff.mpr fun _ => ⟨fun _ => hcwd, hready⟩⟩

/-- Mounting the current partition changes the working directory to it, and the next
initialisation takes that for a program that was not booted from the HDD. -/
theorem initDriver_again_wrongCwd :
    ¬ ∀ (console : Console) (d : Driver) (deps only : Bool) (cwd : Bytes) (w : World)
        (s₁ s₂ : Machine) (r : Int × Machine), console.AllSucceed →
      (initDriver d deps only).run console.step (Machine.initial cwd w) =
        some (d.okStatus, s₁) →
      mountCurrentHddPartition.run console.step s₁ = some (HddMountStatus.ok, s₂) →
      (initDriver d deps only).run console.step s₂ = some r → Repeats d s₂ r := by
  intro h
  have hrun : ((initDriver .hdd true true).run Console.obliging.step mountingStart).bind (fun r₁ =>
      (mountCurrentHddPartition.run Console.obliging.step r₁.2).bind fun r₂ =>
        ((initDriver .hdd true true).run Console.obliging.step r₂.2).map fun r =>
          decide (r₁.1 = HddInitStatus.irxOk ∧ r₂.1 = HddMountStatus.ok ∧
            r.1 = HddInitStatus.wrongCwd)) = some true := by decide +kernel
  obtain ⟨⟨status₁, s₁⟩, hinit, hrun⟩ := Option.bind_eq_some_iff.mp hrun
  obtain ⟨⟨status₂, s₂⟩, hmount, hrun⟩ := Option.bind_eq_some_iff.mp hrun
  obtain ⟨r, hagain, hrun⟩ := Option.map_eq_some_iff.mp hrun
  obtain ⟨rfl, rfl, hwrong⟩ := of_decide_eq_true hrun
  have hrepeats := h Console.obliging .hdd true true hddAppPath World.initial s₁ s₂ r
    Console.obliging_succeeds hinit hmount hagain
  have hsame := hrepeats.result
  rw [hwrong] at hsame
  cases hsame

end Ps2Drivers
