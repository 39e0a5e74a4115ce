import Ps2Drivers.Drivers.MountRun
import Ps2Drivers.Drivers.Unloading

/-!
# Whether the HDD is ready

`__hdd_init_status` guards both mount functions.  The initialisation is the only one to assign it:
what it says holds of modules that were loaded or reset before, and until a deinitialisation unloads
one of them.
-/

open Binary CString

namespace Ps2Drivers

/-! ## 1. Taking a module over -/

/-- Since its variables were `v`, the block of the module has been passed: a reset module was
executed and started, any other one was left as it was. -/
def Passed (m : Irx) (v : IrxVars) (s : Machine) : Prop :=
  if v = .reset then (s.irx m).checkErr = false else s.irx m = v

/-- Success is returned only past the block of the module. -/
def PassSpec (m : Irx) (ok : Int) (p : DriverM Int) : Prop :=
  ∀ (console : Console) (v : IrxVars),
    Program.Triple console.step (fun s => s.irx m = v) p fun status s => status = ok → Passed m v s

section

variable {console : Console} {m : Irx} {v : IrxVars} {s : Machine} {ok : Int}

/-- A module taken over is started exactly when it was reset or started before. -/
theorem Passed.started_iff (h : Passed m v s) :
    (s.irx m).checkErr = false ↔ v.checkLoad = true ∨ v.checkErr = false := by
  unfold Passed at h
  by_cases hv : v = .reset
  · rw [if_pos hv] at h
    exact iff_of_true h (Or.inl (IrxVars.checkLoad_iff.mpr hv))
  · rw [if_neg hv] at h
    rw [h, or_iff_right (mt IrxVars.checkLoad_iff.mp hv)]

theorem Passed.ne_reset (h : Passed m v s) : s.irx m ≠ .reset := by
  intro hreset
  unfold Passed at h
  rw [hreset] at h
  split at h
  · cases h
  · rename_i hv
    exact hv h.symm

/-- Nothing but an unload changes a module that has been taken over. -/
theorem ModuleEffect.passed {op : DriverOp} {s' : Machine} (h : ModuleEffect console s op s')
    (hop : op.leaves [m]) (hs : Passed m v s) : Passed m v s' := by
  have hsame : s'.irx m = s.irx m := by
    rcases h.irx_cases m with hsame | ⟨args, call, -, hreset, -, -⟩ | ⟨rfl, -, -⟩
    · exact hsame
    · exact absurd hreset hs.ne_reset
    · exact absurd (List.mem_singleton_self m) hop
  unfold Passed
  rw [hsame]
  exact hs

theorem Program.Triple.keepsPassed {α : Type} {p : DriverM α}
    (hp : p.Within (DriverOp.leaves [m])) :
    Program.Triple console.step (Passed m v) p fun _ => Passed m v :=
  Program.Triple.keeps hp fun _ hop _ _ hs hstep => (step_effect hstep).passed hop hs

theorem Program.Triple.keepsIrx {α : Type} {p : DriverM α} (hp : p.Within (DriverOp.spares m)) :
    Program.Triple console.step (fun s => s.irx m = v) p fun _ s => s.irx m = v :=
  Program.Triple.keeps hp fun _ hop _ _ hs hstep => ((step_effect hstep).irx_eq hop).trans hs

theorem loadIrx_passed (m : Irx) (args : Option Bytes) :
    Program.Triple console.step (fun s => s.irx m = v) (loadIrx m args) fun goesOn s =>
      goesOn = true → Passed m v s := by
  refine Program.Triple.of_run (fun s => loadIrx_run console s m args) fun s hs => ?_
  rw [Machine.loadIrx_eq, hs]
  unfold Passed
  by_cases hv : v = .reset
  · rw [if_pos hv, if_pos hv]
    cases s.irxPayload console m with
    | none => exact nofun
    | some payload =>
      intro hgoes
      rw [Machine.executed_irx, Function.update_self]
      simpa using hgoes
  · rw [if_neg hv, if_neg hv]
    exact fun _ => hs

theorem fails_passed {status : Int} (hne : status ≠ ok) : PassSpec m ok (pure status) :=
  fun _ _ => Program.Triple.ret fun _ _ h => absurd h hne

/-- The module has a block of its own, or the rest of the function takes it over. -/
theorem loadIRXs_passed {blocks : List IrxBlock} {rest : DriverM Int}
    (herror : ∀ block ∈ blocks, block.error ≠ ok)
    (hkeep : (loadIRXs blocks rest).Within (DriverOp.leaves [m]))
    (hm : m ∈ blocks.map (·.irx) ∨ PassSpec m ok rest) : PassSpec m ok (loadIRXs blocks rest) := by
  induction blocks with
  | nil => exact hm.resolve_left List.not_mem_nil
  | cons block blocks ih =>
    intro console v
    have hrest : (loadIRXs blocks rest).Within (DriverOp.leaves [m]) := hkeep.2 true
    have hfail : PassSpec m ok (pure block.error) :=
      fails_passed (herror block List.mem_cons_self)
    by_cases hown : block.irx = m
    · -- its own block; the later ones do not touch a module that has been passed
      have hpassed : Program.Triple console.step (fun s => s.irx m = v) (loadIrx m block.args)
          fun goesOn s => goesOn = true → Passed m v s := loadIrx_passed m block.args
      rw [loadIRXs, hown]
      refine Program.Triple.bind hpassed fun goesOn => ?_
      apply Program.Triple.branch
      · intro hgoes
        exact (Program.Triple.keepsPassed hrest).imp (fun _ hs => hs hgoes) fun _ _ hs _ => hs
      · exact fun _ => Program.Triple.ret fun _ _ h =>
          absurd h (herror block List.mem_cons_self)
    · have hlater : m ∈ blocks.map (·.irx) ∨ PassSpec m ok rest :=
        hm.imp_left fun hmem => (List.mem_cons.mp hmem).resolve_left (Ne.symm hown)
      refine Program.Triple.bind (Program.Triple.keepsIrx (loadIrx_within.mpr hown))
        fun goesOn => ?_
      apply Program.Triple.branch
      · exact fun _ =>
          ih (fun block hmem => herror block (List.mem_cons_of_mem _ hmem)) hrest hlater console v
      · exact fun _ => hfail console v

theorem withDependency_passed (enabled : Bool) {init error rest : DriverM Int}
    {refused : Int → Bool} (hinit : init.Within (DriverOp.spares m)) (herror : PassSpec m ok error)
    (hrest : PassSpec m ok rest) :
    PassSpec m ok (withDependency enabled init refused error rest) := by
  cases enabled with
  | false => exact hrest
  | true =>
    intro console v
    refine Program.Triple.bind (Program.Triple.keepsIrx hinit) fun result => ?_
    exact Program.Triple.branch (fun _ => herror console v) fun _ => hrest console v

theorem returnStatus_passed (d : Driver) {load : DriverM Int} (hload : PassSpec m ok load) :
    PassSpec m ok (returnStatus d load) := by
  intro console v
  refine Program.Triple.bind (hload console v) fun status => ?_
  have hset : (setStatus d status).Within (DriverOp.leaves [m]) := setStatus_within.mpr trivial
  refine Program.Triple.bind (Program.Triple.implies fun _ => Program.Triple.keepsPassed hset)
    fun _ => ?_
  exact Program.Triple.ret fun _ hs => hs

end

def SetsStatus (d : Driver) (p : DriverM Int) : Prop :=
  ∀ console : Console, Program.Triple console.step (fun _ => True) p fun status s =>
    s.status d = status

theorem returnStatus_sets (d : Driver) (load : DriverM Int) :
    SetsStatus d (returnStatus d load) := by
  intro console
  refine Program.Triple.bind (R := fun _ _ => True) ⟨fun _ _ _ _ => trivial⟩ fun status => ?_
  refine Program.Triple.bind (R := fun _ s => s.status d = status) ?_ fun _ =>
    Program.Triple.ret fun _ hs => hs
  exact Program.Triple.of_run (fun s => setStatus_run console s d status) fun s _ =>
    Function.update_self ..

theorem withDependency_sets {d : Driver} (enabled : Bool) {init error rest : DriverM Int}
    {refused : Int → Bool} (herror : SetsStatus d error) (hrest : SetsStatus d rest) :
    SetsStatus d (withDependency enabled init refused error rest) := by
  cases enabled with
  | false => exact hrest
  | true =>
    intro console
    refine Program.Triple.bind (R := fun _ _ => True) ⟨fun _ _ _ _ => trivial⟩ fun result => ?_
    exact Program.Triple.branch (fun _ => herror console) fun _ => hrest console

/-! ## 2. The HDD driver -/

section

variable {m : Irx} (hm : m ∈ Driver.hdd.ownModules)

include hm

theorem loadHddIRXs_passed : PassSpec m HddInitStatus.irxOk loadHddIRXs := by
  have hkeep : loadHddIRXs.Within (DriverOp.leaves [m]) :=
    loadHddIRXs_spec.within.mono (DriverOp.bringsUp.leaves [m])
  refine loadIRXs_passed (by decide) hkeep ?_
  by_cases hfs : m = .ps2fs
  · -- ps2fs is loaded behind the check of the disk
    right
    intro console v
    have hcheck : hddCheck.Within (DriverOp.spares m) :=
      hddCheck_within.mono (DriverOp.bringsUp.spares List.not_mem_nil)
    refine Program.Triple.bind (Program.Triple.keepsIrx hcheck) fun status => ?_
    apply Program.Triple.branch
    · exact fun _ => fails_passed (by decide) console v
    · intro _
      refine loadIRXs_passed (by decide) ?_ (Or.inl ?_) console v
      · exact Program.Within.bind (loadIrx_within.mpr trivial) fun _ =>
          Program.within_ite (Program.within_pure _) (Program.within_pure _)
      · rw [hfs]
        exact List.mem_singleton_self _
  · left
    simp only [Driver.ownModules, List.mem_cons, List.not_mem_nil, hfs, or_false] at hm
    simpa using hm

theorem initHddDriver_passed (initDependencies onlyIfBootedFromHdd : Bool) :
    PassSpec m HddInitStatus.irxOk (initHddDriver initDependencies onlyIfBootedFromHdd) := by
  have hspared : ∀ d ∈ Driver.hdd.dependencies, m ∉ d.responsible false := by
    intro d hd hmem
    have hdisjoint : ∀ m ∈ Driver.hdd.ownModules, ∀ d ∈ Driver.hdd.dependencies,
        m ∉ d.responsible false := by decide
    exact hdisjoint m hm d hd hmem
  have herror : PassSpec m HddInitStatus.irxOk hddDependencyError :=
    returnStatus_passed _ (fails_passed (by decide))
  have hinit : PassSpec m HddInitStatus.irxOk (initHdd initDependencies) :=
    withDependency_passed _ (initDriver_spares (d := .fileXio) (hspared .fileXio (by decide)) false)
      herror <|
    withDependency_passed _ (initDriver_spares (d := .dev9) (hspared .dev9 (by decide)) false)
      herror <|
    withDependency_passed _ (initDriver_spares (d := .bdm) (hspared .bdm (by decide)) false)
      herror <|
    returnStatus_passed _ (loadHddIRXs_passed hm)
  cases onlyIfBootedFromHdd with
  | false => exact hinit
  | true =>
    -- the working directory is read first, and refused with an error status
    intro console v
    have hcwd : cwdIsHdd.Within (DriverOp.spares m) :=
      cwdIsHdd_within.mono (DriverOp.bringsUp.spares List.not_mem_nil)
    refine Program.Triple.bind (Program.Triple.keepsIrx hcwd) fun isHdd => ?_
    apply Program.Triple.branch
    · exact fun _ => returnStatus_passed _ (fails_passed (by decide)) console v
    · exact fun _ => hinit console v

end

theorem initHddDriver_sets (initDependencies onlyIfBootedFromHdd : Bool) :
    SetsStatus .hdd (initHddDriver initDependencies onlyIfBootedFromHdd) := by
  have hinit : SetsStatus .hdd (initHdd initDependencies) :=
    withDependency_sets _ (returnStatus_sets _ _) <|
    withDependency_sets _ (returnStatus_sets _ _) <|
    withDependency_sets _ (returnStatus_sets _ _) <| returnStatus_sets _ _
  cases onlyIfBootedFromHdd with
  | false => exact hinit
  | true =>
    intro console
    refine Program.Triple.bind (R := fun _ _ => True) ⟨fun _ _ _ _ => trivial⟩ fun isHdd => ?_
    apply Program.Triple.branch
    · exact fun _ => returnStatus_sets _ _ console
    · exact fun _ => hinit console

/-! ## 3. Calls -/

inductive HddCall
  | init (initDependencies onlyIfBootedFromHdd : Bool)
  | deinit (deinitDependencies : Bool)
  | mount (mountpoint blockdev : Bytes)
  | mountCurrent
  deriving DecidableEq, Repr

def HddCall.run : HddCall → DriverM Int
  | .init initDependencies onlyIfBootedFromHdd =>
    initHddDriver initDependencies onlyIfBootedFromHdd
  | .deinit deinitDependencies => do
    deinitHddDriver deinitDependencies
    pure 0
  | .mount mountpoint blockdev => mountHddPartition mountpoint blockdev
  | .mountCurrent => mountCurrentHddPartition

def DriverOp.issuesMount : DriverOp → Prop
  | .lib (.fileXioMount _ _) => True
  | _ => False

/-- After the steps, newest first, a status of `IRX_OK` speaks of modules that are still loaded: the
last initialisation found each of them reset or started, and no deinitialisation since has found one
to unload. -/
def vouched : List (Machine × HddCall) → Prop
  | [] => True
  | (s, .init _ _) :: _ => ∀ m ∈ Driver.hdd.ownModules,
      (s.irx m).checkLoad = true ∨ (s.irx m).checkErr = false
  | (s, .deinit _) :: steps =>
    (∀ m ∈ Driver.hdd.ownModules, (s.irx m).checkUnload = false) ∧ vouched steps
  | (_, .mount _ _) :: steps | (_, .mountCurrent) :: steps => vouched steps

section

variable {console : Console}

def DriverOp.keepsStatus : DriverOp → Prop
  | .setStatus _ _ => False
  | _ => True

theorem step_status {op : DriverOp} {s : Machine} {r : op.Answer × Machine}
    (hop : op.keepsStatus) (h : console.step op s = some r) : r.2.status = s.status := by
  by_cases hassigns : op.assigns = false
  · exact (step_globals hassigns h).status
  · cases op with
    | setStatus d status => exact hop.elim
    | setMountStatus | setMountString => rw [← Option.some.inj h]
    | _ => exact absurd rfl hassigns

theorem DriverOp.handlesFiles.keepsStatus (op : DriverOp) (h : op.handlesFiles) :
    op.keepsStatus := by
  cases op <;> first | exact h.elim | trivial

/-- The deinitialisation leaves the status as it is. -/
theorem deinitHddDriver_keepsStatus (deinitDependencies : Bool) :
    (deinitHddDriver deinitDependencies).Within DriverOp.keepsStatus := by
  have hunload (ms : List Irx) : (unloadIRXs ms).Within DriverOp.keepsStatus :=
    unloadIRXs_within fun _ _ => trivial
  refine Program.Within.bind (hunload _) fun _ => whenEnabled_within _ ?_
  -- bdm, dev9 and fileXio
  refine Program.Within.bind (hunload _) fun _ => ?_
  refine Program.Within.bind ?_ fun _ => ?_
  · refine Program.Within.bind (getStatus_within.mpr trivial) fun status => ?_
    exact Program.within_ite (Program.Within.bind (untilOk_within.mpr trivial) fun _ => hunload _)
      (hunload _)
  · exact Program.Within.bind (lib_within.mpr trivial) fun _ => hunload _

theorem mountHddPartition_handlesFiles (mountpoint blockdev : Bytes) :
    (mountHddPartition mountpoint blockdev).Within DriverOp.handlesFiles := by
  refine Program.Within.bind (getStatus_within.mpr trivial) fun status => ?_
  apply Program.within_ite (Program.within_pure _)
  refine Program.Within.bind (lib_within.mpr trivial) fun result => ?_
  exact Program.within_ite (Program.within_pure _) (Program.within_pure _)

/-- Mounting changes neither the status nor a module. -/
theorem handlesFiles_keeps {α : Type} {p : DriverM α} (hp : p.Within DriverOp.handlesFiles)
    {s : Machine} {r : α × Machine} (hr : p.run console.step s = some r) :
    r.2.status = s.status ∧ r.2.irx = s.irx := by
  constructor
  · exact Program.run_keeps_eq Machine.status (fun op hop _ _ hstep =>
      step_status (DriverOp.handlesFiles.keepsStatus op hop) hstep) hp hr
  · exact Program.run_keeps_eq Machine.irx (fun op hop _ _ hstep => funext fun m =>
      (step_effect hstep).irx_eq (DriverOp.handlesFiles.spares m op hop)) hp hr

/-! ## 4. The status after a run -/

/-- A status of `IRX_OK` tells the truth exactly when the steps vouch for it. -/
def StatusTells (steps : List (Machine × HddCall)) (s : Machine) : Prop :=
  s.status .hdd = HddInitStatus.irxOk → (s.Started Driver.hdd.ownModules ↔ vouched steps)

theorem init_tells {steps : List (Machine × HddCall)} {s : Machine} {r : Int × Machine}
    (initDependencies onlyIfBootedFromHdd : Bool)
    (hrun : (initHddDriver initDependencies onlyIfBootedFromHdd).run console.step s = some r) :
    StatusTells ((s, .init initDependencies onlyIfBootedFromHdd) :: steps) r.2 := by
  intro hok
  have hstatus := (initHddDriver_sets _ _ console).holds s trivial r hrun
  refine forall₂_congr fun m hm => ?_
  have hpassed : Passed m (s.irx m) r.2 :=
    (initHddDriver_passed hm _ _ console (s.irx m)).holds s rfl r hrun (hstatus ▸ hok)
  exact hpassed.started_iff

theorem deinit_tells {steps : List (Machine × HddCall)} {s : Machine} {r : Unit × Machine}
    (deinitDependencies : Bool)
    (hrun : (deinitHddDriver deinitDependencies).run console.step s = some r)
    (hs : StatusTells steps s) :
    StatusTells ((s, .deinit deinitDependencies) :: steps) r.2 := by
  intro hok
  have hstatus : r.2.status = s.status :=
    Program.run_keeps_eq Machine.status (fun _ hop _ _ hstep => step_status hop hstep)
      (deinitHddDriver_keepsStatus deinitDependencies) hrun
  have hunloaded : UnloadedBy (Driver.hdd.unloadOrder deinitDependencies) s r.2 :=
    (deinitDriver_emits .hdd deinitDependencies).run (unloadedBy_tracks console)
      ((deinitDriver_deinit deinitDependencies .hdd).within.mono (DriverOp.tearsDown.loadsIn [])) hrun
  rw [vouched, ← hs (hstatus ▸ hok)]
  unfold Machine.Started
  rw [← forall₂_and]
  refine forall₂_congr fun m hm => ?_
  have hin : m ∈ Driver.hdd.unloadOrder deinitDependencies := by
    have hsub : ∀ deps, Driver.hdd.ownModules ⊆ Driver.hdd.unloadOrder deps := by decide
    exact hsub _ hm
  rw [hunloaded m]
  by_cases hunload : (s.irx m).checkUnload = true
  · -- unloaded, so neither side holds
    rw [if_pos ⟨hin, hunload⟩, hunload]
    exact iff_of_false (by decide) fun h => nomatch h.1
  · rw [if_neg fun h => hunload h.2, Bool.eq_false_of_not_eq_true hunload]
    exact (and_iff_right rfl).symm

theorem history_tells {cwd : Bytes} {w : World} {steps : List (Machine × HddCall)} {s : Machine}
    (hrun : Program.History console.step HddCall.run (Machine.initial cwd w) steps s) :
    StatusTells steps s := by
  induction hrun with
  | start =>
    -- the status starts as `UNDEFINED`
    exact fun hok => absurd (show (-1 : Int) = 0 from hok) (by decide)
  | @next steps s call r _ hcall ih =>
    have hmount (hp : call.run.Within DriverOp.handlesFiles) : StatusTells steps r.2 := by
      obtain ⟨hstatus, hirx⟩ := handlesFiles_keeps hp hcall
      unfold StatusTells Machine.Started
      rw [hstatus, hirx]
      exact ih
    cases call with
    | init deps only => exact init_tells deps only hcall
    | deinit deps =>
      obtain ⟨t, ht, hr⟩ := Option.bind_eq_some_iff.mp ((Program.run_bind ..).symm.trans hcall)
      rw [← Option.some.inj hr]
      exact deinit_tells deps ht ih
    | mount mountpoint blockdev => exact hmount (mountHddPartition_handlesFiles _ _)
    | mountCurrent => exact hmount mountCurrentHddPartition_within

/-! ## 5. Mounting -/

theorem DriverOp.keepsFiles.not_issuesMount (op : DriverOp) (h : op.keepsFiles) :
    ¬ op.issuesMount := by
  intro hmount
  cases op with
  | lib call => cases call <;> first | exact hmount | cases h
  | _ => exact hmount

theorem init_mountsNothing (initDependencies onlyIfBootedFromHdd : Bool) :
    (HddCall.init initDependencies onlyIfBootedFromHdd).run.Within fun op : DriverOp =>
      ¬ op.issuesMount :=
  (initDriver_keepsFiles .hdd initDependencies onlyIfBootedFromHdd).mono
    DriverOp.keepsFiles.not_issuesMount

theorem deinit_mountsNothing (deinitDependencies : Bool) :
    (HddCall.deinit deinitDependencies).run.Within fun op : DriverOp => ¬ op.issuesMount := by
  have hfiles : (deinitHddDriver deinitDependencies).Within DriverOp.keepsFiles :=
    (deinitDriver_deinit deinitDependencies .hdd).within.mono DriverOp.tearsDown.keepsFiles
  exact Program.Within.bind (hfiles.mono DriverOp.keepsFiles.not_issuesMount) fun _ =>
    Program.within_pure _

/-- Both mount functions ask for the status first. -/
theorem guard_safe (rest : DriverM Int) :
    Program.Safe console.step (fun s => s.status .hdd ≠ HddInitStatus.irxOk) (do
      if (← getStatus .hdd) ≠ HddInitStatus.irxOk then pure HddMountStatus.notReady else rest)
      fun op _ => ¬ op.issuesMount := by
  have hstatus : Program.Triple console.step (fun s => s.status .hdd ≠ HddInitStatus.irxOk)
      (getStatus .hdd) fun status _ => status ≠ HddInitStatus.irxOk :=
    Program.Triple.of_run (fun s => getStatus_run console s .hdd) fun s hs => hs
  refine Program.Safe.bind (.of_within (getStatus_within.mpr id)) hstatus fun status => ?_
  apply Program.Safe.branch
  · exact fun _ => .ret _
  · exact fun hok => ⟨fun _ hne => absurd hne hok⟩

/-- `fileXioMount` is issued with the status at `IRX_OK`, and with the modules as they were. -/
theorem HddCall.issues {call : HddCall} {s t : Machine} {op : DriverOp}
    (ht : Program.Reaches console.step op t call.run s) (hop : op.issuesMount) :
    s.status .hdd = HddInitStatus.irxOk ∧ t.irx = s.irx := by
  have hmounts (hp : call.run.Within DriverOp.handlesFiles)
      (hguard : Program.Safe console.step (fun s => s.status .hdd ≠ HddInitStatus.irxOk) call.run
        fun op _ => ¬ op.issuesMount) :
      s.status .hdd = HddInitStatus.irxOk ∧ t.irx = s.irx := by
    constructor
    · -- with another status the guard returns first
      by_contra hne
      exact hguard.holds s hne op t ht hop
    · have hkeeps : Program.Safe console.step (fun t => t.irx = s.irx) call.run fun op t =>
          op.handlesFiles ∧ t.irx = s.irx := by
        refine Program.Safe.of_keeps hp fun op hop t r hirx hstep => Eq.trans ?_ hirx
        exact funext fun m =>
          (step_effect hstep).irx_eq (DriverOp.handlesFiles.spares m op hop)
      exact (hkeeps.holds s rfl op t ht).2
  cases call with
  | init deps only =>
    exact absurd hop ((Program.Safe.of_within (P := fun _ => True)
      (init_mountsNothing deps only)).holds s trivial op t ht)
  | deinit deps =>
    exact absurd hop ((Program.Safe.of_within (P := fun _ => True)
      (deinit_mountsNothing deps)).holds s trivial op t ht)
  | mount mountpoint blockdev => exact hmounts (mountHddPartition_handlesFiles _ _) (guard_safe _)
  | mountCurrent => exact hmounts mountCurrentHddPartition_within (guard_safe _)

/-- After any run, a `fileXioMount` that the next call issues finds the modules of the HDD loaded
exactly when the steps of the run vouch for the status. -/
theorem fileXioMount_loaded_iff {cwd : Bytes} {w : World} {steps : List (Machine × HddCall)}
    {call : HddCall} {op : DriverOp} {s t : Machine}
    (hrun : Program.History console.step HddCall.run (Machine.initial cwd w) steps s)
    (hreaches : Program.Reaches console.step op t call.run s) (hop : op.issuesMount) :
    (∀ m ∈ Driver.hdd.ownModules, loaded m t.trace = true) ↔ vouched steps := by
  obtain ⟨hok, hirx⟩ := HddCall.issues hreaches hop
  rw [← history_tells hrun hok]
  have htracked : t.Tracked := by
    have hs : s.Tracked := hrun.keeps (Machine.initial_tracked cwd w) fun _ _ _ hs hr =>
      run_tracked console hs hr
    have hkeeps : Program.Safe console.step Machine.Tracked call.run fun _ t =>
        True ∧ t.Tracked :=
      Program.Safe.of_keeps (Program.within_true _) fun _ _ _ _ hs hstep =>
        (step_effect hstep).tracked hs
    exact (hkeeps.holds s hs op t hreaches).2
  refine forall₂_congr fun m _ => ?_
  rw [htracked m, hirx, Bool.not_eq_true']

theorem mountHddPartition_reaches {s : Machine} (hok : s.status .hdd = HddInitStatus.irxOk)
    (mountpoint blockdev : Bytes) :
    Program.Reaches console.step (.lib (.fileXioMount mountpoint blockdev)) s
      (mountHddPartition mountpoint blockdev) s := by
  refine .bind_right (getStatus_run console s .hdd) ?_
  rw [if_neg (not_not.mpr hok)]
  exact .bind_left (.here _)

end

def mountingStart : Machine := Machine.initial hddAppPath World.initial

theorem fileXioMount_loaded_iff_afterInit :
    ∃ s, Program.History Console.mounting.step HddCall.run mountingStart
        [(mountingStart, .init true false)] s ∧
      Program.Reaches Console.mounting.step (.lib (.fileXioMount (lit "pfs:") (lit "hdd0:__common")))
        s (HddCall.mount (lit "pfs:") (lit "hdd0:__common")).run s ∧
      ∀ m ∈ Driver.hdd.ownModules, loaded m s.trace = true := by
  obtain ⟨s, _, h⟩ := mountsPfs (Or.inl rfl)
  have hrun : Program.History Console.mounting.step HddCall.run mountingStart
      [(mountingStart, .init true false)] s :=
    .next (k := HddCall.init true false) (r := (_, s)) .start h.init
  have hreaches : Program.Reaches Console.mounting.step
      (.lib (.fileXioMount (lit "pfs:") (lit "hdd0:__common"))) s
      (HddCall.mount (lit "pfs:") (lit "hdd0:__common")).run s :=
    mountHddPartition_reaches h.ready (lit "pfs:") (lit "hdd0:__common")
  refine ⟨s, hrun, hreaches, ?_⟩
  exact (fileXioMount_loaded_iff hrun hreaches trivial).mpr
    fun _ _ => Or.inl rfl

/-- After the deinitialisation the status still lets a mount through. -/
theorem fileXioMount_after_deinit :
    ¬ ∀ (console : Console) (cwd : Bytes) (w : World) (steps : List (Machine × HddCall))
        (call : HddCall) (op : DriverOp) (s t : Machine),
      Program.History console.step HddCall.run (Machine.initial cwd w) steps s →
      Program.Reaches console.step op t call.run s → op.issuesMount →
      ∀ m ∈ Driver.hdd.ownModules, loaded m t.trace = true := by
  intro h
  have hrun : ((HddCall.init true false).run.run Console.mounting.step mountingStart).bind (fun r =>
      ((HddCall.deinit false).run.run Console.mounting.step r.2).map fun r' =>
        decide (r'.2.status .hdd = HddInitStatus.irxOk ∧ loaded .ps2fs r'.2.trace = false)) =
      some true := by decide +kernel
  obtain ⟨r, hinit, hrun⟩ := Option.bind_eq_some_iff.mp hrun
  obtain ⟨r', hdeinit, hrun⟩ := Option.map_eq_some_iff.mp hrun
  obtain ⟨hready, hgone⟩ := of_decide_eq_true hrun
  have hloaded := h Console.mounting hddAppPath World.initial _ (.mount (lit "pfs:") (lit "hdd0:A"))
    _ r'.2 r'.2 (.next (.next .start hinit) hdeinit) (mountHddPartition_reaches hready _ _) trivial
    .ps2fs (by decide)
  rw [hgone] at hloaded
  cases hloaded

end Ps2Drivers
