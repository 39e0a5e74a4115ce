import Ps2Drivers.Drivers.Mount

/-!
# Undoing the filesystem driver

What is left loaded after `init_ps2_filesystem_driver` and `deinit_ps2_filesystem_driver`, and
after the pair that handles the boot device only.
-/

open Binary CString

namespace Ps2Drivers

theorem initDriver_within (d : Driver) (initDependencies onlyIfBootedFromHdd : Bool)
    {ms : List Irx} (hsub : d.responsible initDependencies ⊆ ms) :
    (initDriver d initDependencies onlyIfBootedFromHdd).Within (DriverOp.bringsUp ms) :=
  (initDriver_reports d initDependencies onlyIfBootedFromHdd).within.mono
    (DriverOp.bringsUp.mono hsub)

theorem initDriver_comesBack (d : Driver) (initDependencies onlyIfBootedFromHdd : Bool) :
    (initDriver d initDependencies onlyIfBootedFromHdd).Within DriverOp.comesBack :=
  (initDriver_within d _ _ (List.Subset.refl _)).mono DriverOp.bringsUp.comesBack

theorem initDriver_keepsFiles (d : Driver) (initDependencies onlyIfBootedFromHdd : Bool) :
    (initDriver d initDependencies onlyIfBootedFromHdd).Within DriverOp.keepsFiles :=
  (initDriver_within d _ _ (List.Subset.refl _)).mono DriverOp.bringsUp.keepsFiles

theorem initDriver_spares {d : Driver} {initDependencies : Bool} {m : Irx}
    (hm : m ∉ d.responsible initDependencies) (onlyIfBootedFromHdd : Bool) :
    (initDriver d initDependencies onlyIfBootedFromHdd).Within (DriverOp.spares m) :=
  (initDriver_within d _ _ (List.Subset.refl _)).mono (DriverOp.bringsUp.spares hm)

/-! ## 1. Every file system: what may be loaded -/

/-- The modules `init_ps2_filesystem_driver` may load. -/
def filesystemModules : List Irx :=
  [.poweroff, .iomanX, .fileXio, .sio2man, .mcman, .mcserv, .bdm, .bdmfsFatfs, .usbd, .usbmassBd,
    .mx4sioBd, .cdfs, .ps2dev9, .ps2atad, .ps2hdd, .ps2fs]

theorem initFilesystemDrivers_within :
    initFilesystemDrivers.Within (DriverOp.bringsUp filesystemModules) := by
  refine Program.Within.bind (initDriver_within .poweroff false false (by decide)) fun _ => ?_
  refine Program.Within.bind (initDriver_within .fileXio false false (by decide)) fun _ => ?_
  refine Program.Within.bind (initDriver_within .memcard true false (by decide)) fun _ => ?_
  refine Program.Within.bind (initDriver_within .usb true false (by decide)) fun _ => ?_
  refine Program.Within.bind (initDriver_within .mx4sio false false (by decide)) fun _ => ?_
  refine Program.Within.bind (initDriver_within .cdfs false false (by decide)) fun _ => ?_
  refine Program.Within.bind (initDriver_within .dev9 false false (by decide)) fun _ => ?_
  refine Program.Within.bind (initDriver_within .hdd false true (by decide)) fun _ => ?_
  exact Program.within_pure _

theorem initPs2FilesystemDriver_loadsIn :
    initPs2FilesystemDriver.Within (DriverOp.loadsIn filesystemModules) := by
  refine Program.Within.bind (initFilesystemDrivers_within.mono DriverOp.bringsUp.loadsIn)
    fun _ => ?_
  refine Program.Within.bind (lib_within.mpr trivial) fun _ => ?_
  exact mountAndWait_within.mono (DriverOp.handlesFiles.loadsIn _)

/-- The initialisation comes back when the working directory can be split. -/
theorem initPs2FilesystemDriver_returns (console : Console) {s : Machine} (h : mountable s.cwd) :
    ∃ r, initPs2FilesystemDriver.run console.step s = some r := by
  have hsafe : Program.Safe console.step (fun s => mountable s.cwd) initPs2FilesystemDriver
      fun op _ => op.comesBack := by
    have hkeep {α : Type} {p : DriverM α} (hp : p.Within DriverOp.keepsFiles) :
        Program.Triple console.step (fun s => mountable s.cwd) p fun _ s =>
          mountable s.cwd :=
      Program.Triple.keepsFiles hp fun s s' h hs => h.cwd ▸ hs
    refine Program.Safe.bind
      (.of_within (initFilesystemDrivers_within.mono DriverOp.bringsUp.comesBack))
      (hkeep (initFilesystemDrivers_within.mono DriverOp.bringsUp.keepsFiles)) fun _ => ?_
    refine Program.Safe.bind (.of_within (lib_within.mpr trivial)) (hkeep (lib_within.mpr rfl))
      fun _ => ?_
    exact mountAndWait_returns console
  exact hsafe.returns (fun op s hop => DriverOp.comesBack.step console op hop s) s h

/-- Beside mx4sio, which it initialises, the teardown unloads every module. -/
theorem deinitPs2FilesystemDriver_unloads {console : Console} (hdoc : console.Documented) :
    Program.Triple console.step (fun s => s.Unloadable ∧ s.LoadedIn filesystemModules)
      deinitPs2FilesystemDriver fun _ s => s.Unloadable ∧ s.LoadedIn [.mx4sioBd] := by
  have hkeep {α : Type} {ms : List Irx} {p : DriverM α} (hp : p.Within (DriverOp.loadsIn ms)) :
      Program.Triple console.step (fun s => s.Unloadable ∧ s.LoadedIn ms) p fun _ s =>
        s.Unloadable ∧ s.LoadedIn ms :=
    (Program.Triple.keepsUnloadable hdoc p).and (Program.Triple.keepsLoadedIn hp)
  have humount := umountCurrentHddPartition_within (A := DriverOp.loadsIn filesystemModules)
    fun op hop _ => DriverOp.handlesFiles.loadsIn _ op hop
  have hafter := (deinitDriver_deinit true .usb).seq <| (deinitDriver_deinit true .memcard).seq <|
    (deinitDriver_deinit false .fileXio).seq <| (deinitDriver_deinit false .dev9).seq <|
    deinitDriver_deinit false .poweroff
  refine Program.Triple.bind (hkeep humount) fun _ => ?_
  refine Program.Triple.bind ((deinitDriver_deinit false .hdd).unloads console hdoc _) fun _ => ?_
  refine Program.Triple.bind ((deinitDriver_deinit false .cdfs).unloads console hdoc _) fun _ => ?_
  refine Program.Triple.bind (hkeep ?_) fun _ => ?_
  · exact (initDriver_within .mx4sio false false (by decide)).mono DriverOp.bringsUp.loadsIn
  · refine (hafter.unloads console hdoc _).weaken fun _ s hs => ⟨hs.1, hs.2.mono ?_⟩
    decide

/-- The teardown unloads modules, and initialises mx4sio. -/
theorem internalDeinitPs2FilesystemDriver_within (deinitPowerOff : Bool) {A : DriverOp → Prop}
    (hdown : ∀ op : DriverOp, op.tearsDown filesystemModules → A op)
    (hup : ∀ op : DriverOp, op.bringsUp filesystemModules → A op) :
    (internalDeinitPs2FilesystemDriver deinitPowerOff).Within A := by
  have hdeinit (d : Driver) (deinitDependencies : Bool)
      (hsub : d.responsible deinitDependencies ⊆ filesystemModules) :
      (deinitDriver d deinitDependencies).Within A :=
    (deinitDriver_deinit deinitDependencies d).within.mono fun op hop =>
      hdown op (DriverOp.tearsDown.mono hsub op hop)
  refine Program.Within.bind (hdeinit .hdd false (by decide)) fun _ => ?_
  refine Program.Within.bind (hdeinit .cdfs false (by decide)) fun _ => ?_
  refine Program.Within.bind ((initDriver_within .mx4sio false false (by decide)).mono hup)
    fun _ => ?_
  refine Program.Within.bind (hdeinit .usb true (by decide)) fun _ => ?_
  refine Program.Within.bind (hdeinit .memcard true (by decide)) fun _ => ?_
  refine Program.Within.bind (hdeinit .fileXio false (by decide)) fun _ => ?_
  refine Program.Within.bind (hdeinit .dev9 false (by decide)) fun _ => ?_
  cases deinitPowerOff with
  | false => exact Program.within_pure _
  | true => exact hdeinit .poweroff false (by decide)

theorem deinitPs2FilesystemDriver_returns :
    deinitPs2FilesystemDriver.Within DriverOp.returns := by
  refine Program.Within.bind (umountCurrentHddPartition_within fun op hop hne => ?_) fun _ => ?_
  · cases op <;> trivial
  · exact internalDeinitPs2FilesystemDriver_within true DriverOp.tearsDown.returns
      DriverOp.bringsUp.returns

/-! ## 2. Every file system: mx4sio -/

section

variable {console : Console} {P Q : Machine → Prop}

/-- Only one step of the initialisation is about the module of mx4sio. -/
theorem initPs2FilesystemDriver_mx4sio
    (hP : ∀ {α : Type} {p : DriverM α}, p.Within (DriverOp.spares .mx4sioBd) →
      Program.Triple console.step P p fun _ => P)
    (hQ : ∀ {α : Type} {p : DriverM α}, p.Within (DriverOp.spares .mx4sioBd) →
      Program.Triple console.step Q p fun _ => Q)
    (hmid : Program.Triple console.step P (initMx4sioDriver false) fun _ => Q) :
    Program.Triple console.step P initPs2FilesystemDriver fun _ => Q := by
  have hinit (d : Driver) (deps only : Bool) (hm : Irx.mx4sioBd ∉ d.responsible deps) :
      (initDriver d deps only).Within (DriverOp.spares .mx4sioBd) := initDriver_spares hm only
  refine Program.Triple.bind (R := fun _ => Q) ?_ fun _ => ?_
  · refine Program.Triple.bind (hP (hinit .poweroff false false (by decide))) fun _ => ?_
    refine Program.Triple.bind (hP (hinit .fileXio false false (by decide))) fun _ => ?_
    refine Program.Triple.bind (hP (hinit .memcard true false (by decide))) fun _ => ?_
    refine Program.Triple.bind (hP (hinit .usb true false (by decide))) fun _ => ?_
    refine Program.Triple.bind hmid fun _ => ?_
    refine Program.Triple.bind (hQ (hinit .cdfs false false (by decide))) fun _ => ?_
    refine Program.Triple.bind (hQ (hinit .dev9 false false (by decide))) fun _ => ?_
    refine Program.Triple.bind (hQ (hinit .hdd false true (by decide))) fun _ => ?_
    exact Program.Triple.ret fun _ hs => hs
  · refine Program.Triple.bind (hQ (lib_within.mpr trivial)) fun _ => ?_
    exact hQ (mountAndWait_within.mono (DriverOp.handlesFiles.spares _))

/-- So does one step of the teardown. -/
theorem deinitPs2FilesystemDriver_mx4sio
    (hP : ∀ {α : Type} {p : DriverM α},
      p.Within (fun op : DriverOp => op.spares .mx4sioBd ∧ op.loadsIn []) →
      Program.Triple console.step P p fun _ => P)
    (hmid : Program.Triple console.step P (initMx4sioDriver false) fun _ => P) :
    Program.Triple console.step P deinitPs2FilesystemDriver fun _ => P := by
  have hdeinit (d : Driver) (deps : Bool) (hm : Irx.mx4sioBd ∉ d.responsible deps) :
      (deinitDriver d deps).Within fun op : DriverOp => op.spares .mx4sioBd ∧ op.loadsIn [] :=
    (deinitDriver_deinit deps d).within.mono fun op hop =>
      ⟨DriverOp.tearsDown.spares hm op hop, DriverOp.tearsDown.loadsIn [] op hop⟩
  refine Program.Triple.bind (hP (umountCurrentHddPartition_within fun op hop _ => ?_)) fun _ => ?_
  · exact ⟨DriverOp.handlesFiles.spares _ op hop, DriverOp.handlesFiles.loadsIn [] op hop⟩
  · refine Program.Triple.bind (hP (hdeinit .hdd false (by decide))) fun _ => ?_
    refine Program.Triple.bind (hP (hdeinit .cdfs false (by decide))) fun _ => ?_
    refine Program.Triple.bind hmid fun _ => ?_
    refine Program.Triple.bind (hP (hdeinit .usb true (by decide))) fun _ => ?_
    refine Program.Triple.bind (hP (hdeinit .memcard true (by decide))) fun _ => ?_
    refine Program.Triple.bind (hP (hdeinit .fileXio false (by decide))) fun _ => ?_
    refine Program.Triple.bind (hP (hdeinit .dev9 false (by decide))) fun _ => ?_
    exact hP (hdeinit .poweroff false (by decide))

end

/-- The initialisation of mx4sio is at most the block of its module. -/
theorem initMx4sioDriver_run (console : Console) (s : Machine) :
    ∃ status, (initMx4sioDriver false).run console.step s = some (status,
      let s' := if console.cop2Pipelined then (s.loadIrx console .mx4sioBd none).2 else s
      { s' with status := Function.update s'.status .mx4sio status }) := by
  show ∃ status, (returnStatus .mx4sio (isCOP2Pipelined >>= _)).run console.step s = _
  rw [returnStatus, Program.run_bind, Program.run_bind, isCOP2Pipelined_run, Option.bind_some]
  cases console.cop2Pipelined with
  | false => exact ⟨_, rfl⟩
  | true =>
    show ∃ status, Option.bind ((loadIrx .mx4sioBd none >>= _).run console.step s) _ = _
    rw [Program.run_bind, loadIrx_run, Option.bind_some]
    cases (s.loadIrx console .mx4sioBd none).1 with
    | false => exact ⟨_, rfl⟩
    | true => exact ⟨_, rfl⟩

/-- The module is not loaded, and initialising mx4sio again would not load it. -/
structure Mx4sioIdle (console : Console) (s : Machine) : Prop where
  valid : s.world.Valid
  down : (s.irx .mx4sioBd).checkErr = true
  skipped : console.cop2Pipelined = false ∨ s.irx .mx4sioBd ≠ .reset ∨
    s.irxPayload console .mx4sioBd = none

/-- The console has the module loaded by the first initialisation of mx4sio. -/
def startsMx4sio (console : Console) (s : Machine) : Bool :=
  console.cop2Pipelined && s.wouldStart console .mx4sioBd

section

variable {console : Console} {s₀ : Machine}

theorem Program.Triple.keepsMx4sioIdle {α : Type} {p : DriverM α}
    (hp : p.Within (DriverOp.spares .mx4sioBd)) :
    Program.Triple console.step (Mx4sioIdle console) p fun _ => Mx4sioIdle console := by
  apply Program.Triple.keeps hp
  intro op hop s r hs hstep
  have heffect := step_effect hstep
  have hirx := heffect.irx_eq hop
  constructor
  · exact heffect.valid hs.valid
  · rw [hirx]
    exact hs.down
  · rw [hirx, heffect.irxPayload_eq hop hs.valid]
    exact hs.skipped

theorem initMx4sioDriver_starts (hstart : startsMx4sio console s₀ = true) :
    Program.Triple console.step (Fresh console .mx4sioBd s₀) (initMx4sioDriver false)
      fun _ s => s.Started [.mx4sioBd] := by
  constructor
  intro s hs r hr
  rw [startsMx4sio, Bool.and_eq_true] at hstart
  obtain ⟨status, hrun⟩ := initMx4sioDriver_run console s
  rw [hrun, hstart.1] at hr
  rw [← Option.some.inj hr]
  exact ((loadIrx_starts hstart.2 none).holds s hs _ (loadIrx_run console s _ _)).2

theorem initMx4sioDriver_idles (hdoc : console.Documented)
    (hstop : startsMx4sio console s₀ = false) :
    Program.Triple console.step (Fresh console .mx4sioBd s₀) (initMx4sioDriver false)
      fun _ => Mx4sioIdle console := by
  constructor
  intro s hs r hr
  obtain ⟨status, hrun⟩ := initMx4sioDriver_run console s
  rw [hrun] at hr
  rw [← Option.some.inj hr]
  have hreset : (s.irx .mx4sioBd).checkErr = true := by
    rw [hs.reset]
    rfl
  cases hcop : console.cop2Pipelined with
  | false => exact ⟨hs.valid, hreset, Or.inl hcop⟩
  | true =>
    rw [startsMx4sio, hcop, Bool.true_and, ← hs.wouldStart_eq, Machine.wouldStart] at hstop
    rw [if_pos rfl, Machine.loadIrx_eq, if_pos hs.reset]
    cases hpayload : s.irxPayload console .mx4sioBd with
    | none => exact ⟨hs.valid, hreset, Or.inr (Or.inr hpayload)⟩
    | some payload =>
      rw [hpayload, Option.isSome_some, Bool.true_and, Bool.not_eq_false'] at hstop
      have hirx : (s.executed console .mx4sioBd none payload).irx .mx4sioBd =
          ⟨(s.answer console .mx4sioBd).1, (s.answer console .mx4sioBd).2⟩ := by
        rw [Machine.executed_irx, Function.update_self]
      refine ⟨Machine.consume_valid hs.valid, (congrArg _ hirx).trans hstop, Or.inr (Or.inl ?_)⟩
      -- a documented result is not the `-1` of a reset
      intro hnew
      have hret : (s.answer console .mx4sioBd).2 = -1 :=
        congrArg IrxVars.ret (hirx.symm.trans hnew)
      have hdocumented : _ ∨ _ ∨ _ := hdoc.result .mx4sioBd (s.trace.countP (·.isExec .mx4sioBd))
      change (console.exec .mx4sioBd _).2 = -1 at hret
      omega

theorem initMx4sioDriver_skips (past : List (Irx × SifExec × (Int × Int))) :
    Program.Triple console.step (fun s => Mx4sioIdle console s ∧ execs s.trace = past)
      (initMx4sioDriver false) fun _ s => Mx4sioIdle console s ∧ execs s.trace = past := by
  constructor
  intro s ⟨hs, hpast⟩ r hr
  obtain ⟨status, hrun⟩ := initMx4sioDriver_run console s
  have hsame : (if console.cop2Pipelined then (s.loadIrx console .mx4sioBd none).2 else s) = s := by
    by_cases hcop : console.cop2Pipelined = true
    · rw [if_pos hcop, Machine.loadIrx_eq]
      rcases hs.skipped with hskip | hskip | hskip
      · rw [hcop] at hskip
        cases hskip
      · rw [if_neg hskip]
      · rw [hskip]
        split <;> rfl
    · rw [if_neg hcop]
  rw [hrun, hsame] at hr
  rw [← Option.some.inj hr]
  exact ⟨⟨hs.valid, hs.down, hs.skipped⟩, hpast⟩

end

/-! ## 3. Every file system: what is left -/

/-- After initialisation and teardown nothing is loaded and the teardown has executed nothing,
exactly when the initialisation did not load the module of mx4sio. -/
theorem deinitPs2FilesystemDriver_undoes {console : Console} (hdoc : console.Documented)
    (cwd : Bytes) (steps : List (Env × ProviderOp)) {s₁ : Machine}
    (hinit : initPs2FilesystemDriver.run console.step
      (Machine.initial cwd (runProvider irxId steps World.initial)) = some ((), s₁)) :
    ∃ s₂, deinitPs2FilesystemDriver.run console.step s₁ = some ((), s₂) ∧
      (((∀ m, loaded m s₂.trace = false) ∧ execs s₂.trace = execs s₁.trace) ↔
        startsMx4sio console (Machine.initial cwd (runProvider irxId steps World.initial)) =
          false) := by
  have hworld := runProvider_valid irxId steps World.initial_valid
  generalize runProvider irxId steps World.initial = w at hinit hworld
  have hfresh : Fresh console .mx4sioBd (Machine.initial cwd w) (Machine.initial cwd w) :=
    ⟨hworld, rfl, rfl, rfl⟩
  obtain ⟨⟨u, s₂⟩, hdeinit⟩ := Program.run_returns deinitPs2FilesystemDriver_returns
    (fun op hop s => DriverOp.returns.step hdoc.dev9Off hdoc.patient op hop s) s₁
  have htracked : s₂.Tracked :=
    run_tracked console (run_tracked console (Machine.initial_tracked cwd w) hinit) hdeinit
  refine ⟨s₂, hdeinit, ?_⟩
  have hmid : (initMx4sioDriver false).Within (DriverOp.bringsUp [.mx4sioBd]) :=
    initDriver_within .mx4sio false false (List.Subset.refl _)
  cases hstart : startsMx4sio console (Machine.initial cwd w) with
  | true =>
    -- the module is loaded, and no step unloads it
    have hup : s₁.Started [.mx4sioBd] := (initPs2FilesystemDriver_mx4sio
      (fun hp => Program.Triple.keepsFresh hp)
      (fun hp => Program.Triple.staysStarted _ (hp.mono DriverOp.spares.leaves))
      (initMx4sioDriver_starts hstart)).holds _ hfresh _ hinit
    have hstill : s₂.Started [.mx4sioBd] := (deinitPs2FilesystemDriver_mx4sio
      (fun hp => Program.Triple.staysStarted _
        (hp.mono fun op hop => DriverOp.spares.leaves op hop.1))
      (Program.Triple.keepsStarted _ hmid)).holds _ hup _ hdeinit
    refine iff_of_false (fun hundone => ?_) Bool.true_eq_false.mp
    have hdown := hundone.1 .mx4sioBd
    rw [htracked, hstill _ (List.mem_singleton_self _)] at hdown
    cases hdown
  | false =>
    -- everything else is unloaded, and the module is never executed again
    have hidle : Mx4sioIdle console s₁ := (initPs2FilesystemDriver_mx4sio
      (fun hp => Program.Triple.keepsFresh hp) (fun hp => Program.Triple.keepsMx4sioIdle hp)
      (initMx4sioDriver_idles hdoc hstart)).holds _ hfresh _ hinit
    have hend : Mx4sioIdle console s₂ ∧ execs s₂.trace = execs s₁.trace :=
      (deinitPs2FilesystemDriver_mx4sio
        (P := fun s => Mx4sioIdle console s ∧ execs s.trace = execs s₁.trace)
        (fun hp => (Program.Triple.keepsMx4sioIdle (hp.mono fun _ hop => hop.1)).and
          (Program.Triple.keepsExecs (hp.mono fun _ hop => hop.2) _))
        (initMx4sioDriver_skips _)).holds _ ⟨hidle, rfl⟩ _ hdeinit
    have hunload : s₁.Unloadable := (Program.Triple.keepsUnloadable hdoc _).holds _
      (Machine.initial_unloadable cwd w) _ hinit
    have hin : s₁.LoadedIn filesystemModules :=
      (Program.Triple.keepsLoadedIn initPs2FilesystemDriver_loadsIn).holds _
        (Machine.initial_loadedIn _ cwd w) _ hinit
    have hout := ((deinitPs2FilesystemDriver_unloads hdoc).holds _ ⟨hunload, hin⟩ _ hdeinit).2
    refine iff_of_true ⟨fun m => ?_, hend.2⟩ rfl
    rw [htracked m, Bool.not_eq_false']
    by_contra herr
    have hm := hout m (Bool.eq_false_of_not_eq_true herr)
    rw [List.mem_singleton.mp hm] at herr
    exact herr hend.1.down

theorem Console.ready_documented : Console.ready.Documented := by
  constructor
  · exact fun _ _ => Or.inl rfl
  · intro past
    simp [Console.ready, dev9Off]
  · exact Nat.zero_lt_one

def Console.emulated : Console := { Console.ready with cop2Pipelined := false }

theorem Console.emulated_documented : Console.emulated.Documented :=
  ⟨Console.ready_documented.result, Console.ready_documented.dev9Off,
    Console.ready_documented.patient⟩

/-- An emulator does without mx4sio, and so nothing is left there. -/
theorem deinitPs2FilesystemDriver_undoes_emulated :
    ∃ s₁, initPs2FilesystemDriver.run Console.emulated.step
        (Machine.initial [] World.initial) = some ((), s₁) ∧
      ∃ s₂, deinitPs2FilesystemDriver.run Console.emulated.step s₁ = some ((), s₂) ∧
        (∀ m, loaded m s₂.trace = false) ∧ execs s₂.trace = execs s₁.trace := by
  obtain ⟨⟨u, s₁⟩, hinit⟩ := initPs2FilesystemDriver_returns Console.emulated
    (s := Machine.initial [] World.initial) (by decide)
  obtain ⟨s₂, hdeinit, hundone⟩ :=
    deinitPs2FilesystemDriver_undoes Console.emulated_documented [] [] hinit
  exact ⟨s₁, hinit, s₂, hdeinit, hundone.mpr (by decide)⟩

/-- With everything succeeding, the module of mx4sio stays loaded. -/
theorem deinitPs2FilesystemDriver_leaves_mx4sio :
    ¬ ∀ (console : Console), console.Documented → ∀ (cwd : Bytes) (steps : List (Env × ProviderOp))
        (s₁ s₂ : Machine),
      initPs2FilesystemDriver.run console.step
        (Machine.initial cwd (runProvider irxId steps World.initial)) = some ((), s₁) →
      deinitPs2FilesystemDriver.run console.step s₁ = some ((), s₂) →
      (∀ m, loaded m s₂.trace = false) ∧ execs s₂.trace = execs s₁.trace := by
  intro h
  have hrun : ((initPs2FilesystemDriver.run Console.ready.step
      (Machine.initial [] World.initial)).bind
        fun r => deinitPs2FilesystemDriver.run Console.ready.step r.2).map
          (fun r => loaded .mx4sioBd r.2.trace) = some true := by
    decide +kernel
  obtain ⟨r₂, hruns, hloaded⟩ := Option.map_eq_some_iff.mp hrun
  obtain ⟨r₁, hinit, hdeinit⟩ := Option.bind_eq_some_iff.mp hruns
  have hundone := h Console.ready Console.ready_documented [] [] r₁.2 r₂.2 hinit hdeinit
  rw [hundone.1] at hloaded
  cases hloaded

end Ps2Drivers
