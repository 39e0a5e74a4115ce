import Ps2Drivers.Drivers.BootUndo
import Ps2Drivers.Drivers.MountRun

/-!
# Shutting down with a mounted partition

The initialisations of the filesystem driver mount the partition of the working directory.  The two
deinitialisations unmount it before the HDD stack goes; the two callbacks for the power button share
their internal halves, which do not.
-/

open Binary CString

namespace Ps2Drivers

/-! ## 1. What the trace says -/

/-- The mountpoints that were mounted, newest first. -/
def mountsOf (trace : List Event) : List Bytes :=
  trace.filterMap fun
    | .lib (.fileXioMount mountpoint _) result => if 0 ≤ result then some mountpoint else none
    | _ => none

def Event.closes (mountpoint : Bytes) : Event → Bool
  | .lib (.fileXioDevctl path .pdiocCloseall) _ => path == mountpoint
  | _ => false

/-- `PDIOC_CLOSEALL` was issued for the mountpoint after it was last mounted. -/
def closed (mountpoint : Bytes) : List Event → Bool
  | [] => false
  | e :: rest => e.closes mountpoint || (!e.mounts mountpoint && closed mountpoint rest)

def Event.isMount : Event → Bool
  | .lib (.fileXioMount _ _) _ => true
  | _ => false

theorem Event.mounts_eq_false {e : Event} (he : e.isMount = false) (mountpoint : Bytes) :
    e.mounts mountpoint = false := by
  unfold Event.mounts
  split
  · cases he
  · rfl

section

variable {es trace : List Event} (hes : ∀ e ∈ es, e.isMount = false)

include hes

theorem mountsOf_append_quiet : mountsOf (es ++ trace) = mountsOf trace := by
  rw [mountsOf, mountsOf, List.filterMap_append, List.filterMap_eq_nil_iff.mpr, List.nil_append]
  intro e he
  have hquiet := hes e he
  split
  · cases hquiet
  · rfl

theorem closed_append_quiet {mountpoint : Bytes} (h : closed mountpoint trace = true) :
    closed mountpoint (es ++ trace) = true := by
  induction es with
  | nil => exact h
  | cons e es ih =>
    have hrest := ih fun e' he' => hes e' (List.mem_cons_of_mem e he')
    have hquiet := Event.mounts_eq_false (hes e List.mem_cons_self) mountpoint
    rw [List.cons_append, closed, hquiet, hrest]
    simp

end

section

variable {console : Console} {s : Machine}

theorem Machine.untilOk_events {call : LibCall} (n : Nat) {s' : Machine}
    (h : s.untilOk console call n = some s') :
    ∃ es, s'.trace = es ++ s.trace ∧ ∀ e ∈ es, ∃ result, e = .lib call result := by
  induction n generalizing s with
  | zero => cases h
  | succ n ih =>
    have hfirst : (s.lib console call).2.trace = .lib call (s.lib console call).1 :: s.trace :=
      Machine.lib_trace call
    rw [Machine.untilOk_succ] at h
    by_cases hfail : (s.lib console call).1 < 0
    · rw [if_pos hfail] at h
      obtain ⟨es, htrace, hes⟩ := ih h
      refine ⟨es ++ [.lib call (s.lib console call).1], ?_, ?_⟩
      · rw [htrace, hfirst, List.append_assoc, List.singleton_append]
      · intro e he
        rcases List.mem_append.mp he with he | he
        · exact hes e he
        · exact ⟨_, List.mem_singleton.mp he⟩
    · rw [if_neg hfail] at h
      rw [← Option.some.inj h]
      exact ⟨[.lib call (s.lib console call).1], hfirst, fun e he =>
        ⟨_, List.mem_singleton.mp he⟩⟩

theorem LibCall.leavesFiles.quiet {call : LibCall} (h : call.leavesFiles = true) (result : Int) :
    (Event.lib call result).isMount = false := by
  cases call <;> first | rfl | cases h

/-- What keeps the files mounts nothing. -/
theorem step_quiet {op : DriverOp} {r : op.Answer × Machine} (hop : op.keepsFiles)
    (h : console.step op s = some r) :
    ∃ es, r.2.trace = es ++ s.trace ∧ ∀ e ∈ es, e.isMount = false := by
  cases op with
  | loadIrx m args =>
    rw [← Option.some.inj h]
    show ∃ es, (s.loadIrx console m args).2.trace = es ++ s.trace ∧ _
    rw [Machine.loadIrx_eq]
    split
    · split
      · exact ⟨[], rfl, by simp⟩
      · exact ⟨[_], rfl, fun e he => by rw [List.mem_singleton.mp he]; rfl⟩
    · exact ⟨[], rfl, by simp⟩
  | unloadIrx m =>
    rw [← Option.some.inj h]
    show ∃ es, (s.unloadIrx console m).trace = es ++ s.trace ∧ _
    unfold Machine.unloadIrx
    split
    · exact ⟨[_], rfl, fun e he => by rw [List.mem_singleton.mp he]; rfl⟩
    · exact ⟨[], rfl, by simp⟩
  | lib call =>
    rw [← Option.some.inj h]
    refine ⟨[_], Machine.lib_trace call, fun e he => ?_⟩
    rw [List.mem_singleton.mp he]
    exact LibCall.leavesFiles.quiet hop _
  -- the repeated call puts one event for each try on the trace
  | untilOk call =>
    obtain ⟨s', hs', hr⟩ := Option.map_eq_some_iff.mp h
    rw [← hr]
    obtain ⟨es, htrace, hes⟩ := Machine.untilOk_events _ hs'
    refine ⟨es, htrace, fun e he => ?_⟩
    obtain ⟨result, rfl⟩ := hes e he
    exact LibCall.leavesFiles.quiet hop _
  | abort => cases h
  | setMountStatus | setMountString => exact hop.elim
  | _ =>
    rw [← Option.some.inj h]
    exact ⟨[], rfl, by simp⟩

end

/-! ## 2. Whether the HDD driver starts -/

namespace Machine

/-- The block of the module goes on: it is loaded already, or the next execution loads it. -/
def goesOn (console : Console) (m : Irx) (s : Machine) : Bool := (s.loadIrx console m none).1

theorem goesOn_eq (console : Console) (m : Irx) (s : Machine) :
    s.goesOn console m = if s.irx m = .reset then s.wouldStart console m else true := by
  rw [goesOn, loadIrx_eq, wouldStart]
  split
  · cases s.irxPayload console m <;> rfl
  · rfl

theorem loadIrx_goesOn (console : Console) (m : Irx) (args : Option Bytes) (s : Machine) :
    (s.loadIrx console m args).1 = s.goesOn console m := by
  rw [goesOn, loadIrx_eq, loadIrx_eq]
  split
  · cases s.irxPayload console m <;> rfl
  · rfl

def hddStarts (console : Console) (s : Machine) : Bool :=
  s.goesOn console .ps2atad && (s.goesOn console .ps2hdd && s.goesOn console .ps2fs)

end Machine

/-- The modules in `ms` would do what they would have done in `s₀`. -/
structure Awaits (console : Console) (s₀ : Machine) (ms : List Irx) (s : Machine) : Prop where
  valid : s.world.Valid
  goesOn : ∀ m ∈ ms, s.goesOn console m = s₀.goesOn console m

structure Console.DevicesWork (console : Console) : Prop extends console.Mounts where
  devctl : ∀ path command past, 0 ≤ console.lib (.fileXioDevctl path command) past
  hddStatus : ∀ past, console.lib hddStatus past < 3
  patient : 0 < console.patience

structure Console.Allocates (console : Console) : Prop where
  malloc : ∀ size past, console.lib (.malloc size) past ≠ 0
  strdup : ∀ text past, console.lib (.strdup text) past ≠ 0

section

variable {console : Console} {s₀ s s' : Machine} {op : DriverOp} {m : Irx} {ms : List Irx}

theorem ModuleEffect.goesOn_eq (h : ModuleEffect console s op s') (hop : op.spares m)
    (hs : s.world.Valid) : s'.goesOn console m = s.goesOn console m := by
  rw [Machine.goesOn_eq, Machine.goesOn_eq, Machine.wouldStart, Machine.wouldStart, h.irx_eq hop,
    h.irxPayload_eq hop hs, h.answer_eq hop]

theorem ModuleEffect.awaits (h : ModuleEffect console s op s') (hop : ∀ m ∈ ms, op.spares m)
    (hs : Awaits console s₀ ms s) : Awaits console s₀ ms s' :=
  ⟨h.valid hs.valid, fun m hm => (h.goesOn_eq (hop m hm) hs.valid).trans (hs.goesOn m hm)⟩

theorem Program.Triple.keepsAwaits {α : Type} {p : DriverM α}
    (hp : p.Within fun op : DriverOp => ∀ m ∈ ms, op.spares m) :
    Program.Triple console.step (Awaits console s₀ ms) p fun _ => Awaits console s₀ ms :=
  Program.Triple.keeps hp fun _ hop _ _ hs hstep => (step_effect hstep).awaits hop hs

/-- One block decides whether the driver goes on, and leaves the later ones as they were. -/
theorem loadIrx_awaits (hm : m ∉ ms) (args : Option Bytes) :
    Program.Triple console.step (Awaits console s₀ (m :: ms)) (loadIrx m args) fun goesOn s =>
      goesOn = s₀.goesOn console m ∧ Awaits console s₀ ms s := by
  constructor
  intro s hs r hr
  have heffect : ModuleEffect console s (.loadIrx m args) r.2 := step_effect hr
  rw [loadIrx_run] at hr
  have hgoes : r.1 = s₀.goesOn console m := by
    rw [← Option.some.inj hr, Machine.loadIrx_goesOn]
    exact hs.goesOn m List.mem_cons_self
  refine ⟨hgoes, heffect.awaits (fun m' hm' => ?_) ⟨hs.valid, fun m' hm' => ?_⟩⟩
  · show m ≠ m'
    exact fun heq => hm (heq ▸ hm')
  · exact hs.goesOn m' (List.mem_cons_of_mem m hm')

/-- The first block and the rest of the function decide together. -/
theorem loadIRXs_decides {args : Option Bytes} {e ok : Int} {blocks : List IrxBlock}
    {rest : DriverM Int} {goes : Bool} (hm : m ∉ ms) (he : e ≠ ok)
    (hrest : Program.Triple console.step (Awaits console s₀ ms) (loadIRXs blocks rest)
      fun status _ => status = ok ↔ goes = true) :
    Program.Triple console.step (Awaits console s₀ (m :: ms))
      (loadIRXs (⟨m, args, e⟩ :: blocks) rest)
      fun status _ => status = ok ↔ (s₀.goesOn console m && goes) = true := by
  refine Program.Triple.bind (loadIrx_awaits hm args) fun goesOn => ?_
  apply Program.Triple.of_pure
  rintro rfl
  cases hgoes : s₀.goesOn console m with
  | true => exact hrest.weaken fun status _ h => h
  | false => exact Program.Triple.ret fun _ _ => iff_of_false he Bool.false_ne_true

/-- The HDD driver starts exactly when each of its modules goes on. -/
theorem loadHddIRXs_status (hgood : console.DevicesWork) :
    Program.Triple console.step (Awaits console s₀ [.ps2atad, .ps2hdd, .ps2fs]) loadHddIRXs
      fun status _ => status = HddInitStatus.irxOk ↔ s₀.hddStarts console = true := by
  -- ps2atad and ps2hdd come before the check of the disk, ps2fs after it
  refine loadIRXs_decides (by decide) (by decide) ?_
  refine loadIRXs_decides (by decide) (by decide) ?_
  have hwithin : hddCheck.Within fun op : DriverOp => ∀ m ∈ [Irx.ps2fs], op.spares m :=
    Program.Within.bind (lib_within.mpr fun _ _ => trivial) fun _ =>
      Program.within_ite (Program.within_pure _) (Program.within_pure _)
  have hcheck : Program.Triple console.step (Awaits console s₀ [.ps2fs]) hddCheck fun status s =>
      ¬ status < 0 ∧ Awaits console s₀ [.ps2fs] s :=
    ((hddCheck_ready fun past => ⟨hgood.devctl _ _ _, hgood.hddStatus past⟩).and
      (Program.Triple.keepsAwaits hwithin)).imp (fun _ hs => ⟨trivial, hs⟩) fun _ _ hs => hs
  refine Program.Triple.bind hcheck fun status => ?_
  apply Program.Triple.of_pure
  intro hchecked
  rw [if_neg hchecked]
  have hnothing : Program.Triple console.step (Awaits console s₀ [])
      (loadIRXs [] (pure HddInitStatus.irxOk)) fun status _ =>
        status = HddInitStatus.irxOk ↔ true = true :=
    Program.Triple.ret fun _ _ => iff_of_true rfl rfl
  refine (loadIRXs_decides (by decide) (by decide) hnothing).weaken fun status _ h => ?_
  rw [h, Bool.and_true]

end

/-! ## 3. What is mounted -/

/-- What `getMountInfo` finds in a working directory when memory suffices. -/
def currentInfo (cwd : Bytes) : Option MountInfo :=
  mountInfo ((tokens colon cwd.length cwd).map some)

/-- The mountpoint is the current partition, mounted after the mounts in `past`. -/
structure CurrentMounted (mountpoint : Bytes) (past : List Bytes) (s : Machine) : Prop where
  status : s.mountStatus = HddMountStatus.ok
  string : s.mountString = mountpoint
  mounted : mounted mountpoint s.trace = true
  mounts : mountsOf s.trace = mountpoint :: past

/-- After the mounts in `past`, the partition was mounted if there is one. -/
def MountedAfter (past : List Bytes) (info : Option MountInfo) (s : Machine) : Prop :=
  match info with
  | none => mountsOf s.trace = past
  | some info => CurrentMounted info.mountString past s

/-- After the mounts in `past`, at most one partition was mounted: `info`, if memory sufficed to
find it. -/
def MountedIf (console : Console) (past : List Bytes) (info : Option MountInfo) (s : Machine) :
    Prop :=
  ∃ found, (console.Allocates → found = info) ∧ MountedAfter past found s

theorem MountedAfter.mountedIf {past : List Bytes} {info : Option MountInfo} {s : Machine}
    (h : MountedAfter past info s) (console : Console) : MountedIf console past info s :=
  ⟨info, fun _ => rfl, h⟩

section

variable {console : Console} {past : List Bytes}

theorem Program.Triple.keepsMountedAfter {α : Type} {p : DriverM α}
    (hp : p.Within DriverOp.keepsFiles) (info : Option MountInfo) :
    Program.Triple console.step (MountedAfter past info) p fun _ => MountedAfter past info := by
  refine Program.Triple.keeps hp fun op hop s r hs h => ?_
  have hfiles : SameFiles s r.2 := step_sameFiles hop h
  have hmounts : mountsOf r.2.trace = mountsOf s.trace := by
    obtain ⟨es, htrace, hes⟩ := step_quiet hop h
    rw [htrace, mountsOf_append_quiet hes]
  cases info with
  | none => exact hmounts.trans hs
  | some info =>
    exact ⟨hfiles.mountStatus.trans hs.status, hfiles.mountString.trans hs.string,
      (hfiles.mounted _).trans hs.mounted, hmounts.trans hs.mounts⟩

theorem Program.Triple.keepsMountedIf {α : Type} {p : DriverM α}
    (hp : p.Within DriverOp.keepsFiles) (info : Option MountInfo) :
    Program.Triple console.step (MountedIf console past info) p fun _ =>
      MountedIf console past info := by
  constructor
  rintro s ⟨found, hfound, hs⟩ r hr
  exact ⟨found, hfound, (Program.Triple.keepsMountedAfter hp found).holds s hs r hr⟩

theorem storeTokens_items (halloc : console.Allocates) (count idx : Nat) (ts : List Bytes) :
    Program.Triple console.step (fun _ => True) (storeTokens count idx ts) fun items _ =>
      items = ts.map some := by
  have hassert (condition : Bool) : Program.Triple console.step (fun _ => True)
      (assertThat condition) fun _ _ => True := ⟨fun _ _ _ _ => trivial⟩
  induction ts generalizing idx with
  | nil =>
    exact Program.Triple.bind (hassert _) fun _ => Program.Triple.ret fun _ _ => rfl
  | cons token rest ih =>
    refine Program.Triple.bind (hassert _) fun _ => ?_
    refine Program.Triple.bind (R := fun copy _ => copy ≠ 0)
      (lib_result _ (halloc.strdup token)) fun copy => ?_
    apply Program.Triple.of_fact
    intro hcopy
    refine Program.Triple.bind (ih (idx + 1)) fun more => ?_
    refine Program.Triple.ret fun _ hmore => ?_
    rw [if_pos hcopy, hmore, List.map_cons]

theorem getMountInfo_info (halloc : console.Allocates) (path : Bytes) :
    Program.Triple console.step (fun _ => True) (getMountInfo path) fun info _ =>
      info = currentInfo path := by
  have hsplit : Program.Triple console.step (fun _ => True) (strSplit path colon) fun split _ =>
      split = some ((tokens colon path.length path).map some) := by
    refine Program.Triple.bind (R := fun block _ => block ≠ 0)
      (lib_result _ (halloc.malloc _)) fun block => ?_
    apply Program.Triple.of_fact
    intro hblock
    rw [if_pos hblock]
    refine Program.Triple.bind (storeTokens_items halloc _ 0 _) fun items => ?_
    exact Program.Triple.ret fun _ hitems => congrArg some hitems
  refine Program.Triple.bind hsplit fun split => Program.Triple.ret fun _ hs => ?_
  rw [hs]
  rfl

theorem fileXioMount_mounts (hgood : console.DevicesWork) (mountpoint blockdev : Bytes) :
    Program.Triple console.step
      (fun s => s.mountString = mountpoint ∧ mountsOf s.trace = past)
      (lib (.fileXioMount mountpoint blockdev)) fun result s =>
        0 ≤ result ∧ s.mountString = mountpoint ∧ mounted mountpoint s.trace = true ∧
          mountsOf s.trace = mountpoint :: past := by
  constructor
  intro s ⟨hstring, hpast⟩ r hr
  have hresult := hgood.mount mountpoint blockdev s.trace
  rw [← Option.some.inj hr]
  refine ⟨hresult, hstring, ?_, ?_⟩
  · show mounted mountpoint (.lib (.fileXioMount mountpoint blockdev) _ :: s.trace) = true
    simp [mounted, Event.mounts, hresult]
  · show mountsOf (.lib (.fileXioMount mountpoint blockdev) _ :: s.trace) = _
    simp [mountsOf, hresult]
    exact hpast

theorem mountPartitionOf_mounts (hgood : console.DevicesWork) (cwd : Bytes) :
    Program.Triple console.step (MountedAfter past none) (mountPartitionOf cwd) fun _ =>
      MountedIf console past (currentInfo cwd) := by
  have hfiles : (getMountInfo cwd).Within DriverOp.keepsFiles :=
    getMountInfo_within trivial (fun _ => rfl) (fun _ => rfl) cwd
  -- without memory the split of the directory may be cut short, and anything may be found
  have hinfo : Program.Triple console.step (fun _ => True) (getMountInfo cwd) fun info _ =>
      console.Allocates → info = currentInfo cwd := by
    by_cases halloc : console.Allocates
    · exact (getMountInfo_info halloc cwd).weaken fun _ _ h _ => h
    · exact ⟨fun _ _ _ _ h => absurd h halloc⟩
  refine Program.Triple.bind ((hinfo.and (Program.Triple.keepsMountedAfter hfiles none)).imp
    (fun s hs => ⟨trivial, hs⟩) fun _ _ hs => hs) fun info => ?_
  apply Program.Triple.of_pure
  intro hfound
  cases info with
  | none => exact Program.Triple.ret fun s hs => ⟨none, hfound, hs⟩
  | some info =>
    refine Program.Triple.weaken (Q := fun _ => MountedAfter past (some info)) ?_
      fun _ s hs => ⟨some info, hfound, hs⟩
    have hset : Program.Triple console.step (MountedAfter past none)
        (setMountString info.mountString) fun _ s =>
          s.mountString = info.mountString ∧ mountsOf s.trace = past :=
      Program.Triple.of_run (fun s => setMountString_run console s _) fun s hs => ⟨rfl, hs⟩
    refine Program.Triple.bind hset fun _ => ?_
    refine Program.Triple.bind (fileXioMount_mounts hgood _ _) fun result => ?_
    apply Program.Triple.of_pure
    intro hresult
    rw [if_neg (by omega)]
    -- the rest changes the directory and sets the status
    constructor
    intro s ⟨hstring, hmounted, hpast⟩ r hr
    rw [Program.run_bind, lib_run, Option.bind_some] at hr
    rw [← Option.some.inj hr]
    have htrace : (s.lib console (.chdir info.newCwd)).2.trace =
        .lib (.chdir info.newCwd) (s.lib console (.chdir info.newCwd)).1 :: s.trace :=
      Machine.lib_trace _
    refine ⟨rfl, ?_, ?_, ?_⟩
    · exact (Machine.lib_globals (.chdir info.newCwd)).mountString.trans hstring
    · show mounted info.mountString (s.lib console (.chdir info.newCwd)).2.trace = true
      rw [htrace, mounted, hmounted]
      rfl
    · show mountsOf (s.lib console (.chdir info.newCwd)).2.trace = _
      rw [htrace]
      exact hpast

/-- Mounting the current partition mounts what the working directory names, once the HDD driver is
ready and the working directory is on the HDD. -/
theorem mountCurrentHddPartition_mounts (hgood : console.DevicesWork) (ready : Bool) (cwd : Bytes) :
    Program.Triple console.step
      (fun s => (s.status .hdd = HddInitStatus.irxOk ↔ ready = true) ∧ s.cwd = cwd ∧
        MountedAfter past none s) mountCurrentHddPartition fun _ =>
      MountedIf console past (if ready && hddPath cwd then currentInfo cwd else none) := by
  have hstatus : Program.Triple console.step
      (fun s => (s.status .hdd = HddInitStatus.irxOk ↔ ready = true) ∧ s.cwd = cwd ∧
        MountedAfter past none s) (getStatus .hdd) fun status s =>
      (status = HddInitStatus.irxOk ↔ ready = true) ∧ s.cwd = cwd ∧ MountedAfter past none s :=
    Program.Triple.of_run (fun s => getStatus_run console s .hdd) fun s hs => hs
  refine Program.Triple.bind hstatus fun status => ?_
  apply Program.Triple.of_pure
  intro hready
  cases ready with
  | false =>
    -- the mount gives up before it looks at the working directory
    have hne : status ≠ HddInitStatus.irxOk := fun h => Bool.false_ne_true (hready.mp h)
    rw [if_pos hne]
    exact Program.Triple.ret fun s hs => hs.2.mountedIf console
  | true =>
    rw [if_neg (not_not.mpr (hready.mpr rfl)), Bool.true_and]
    have hisHdd : Program.Triple console.step (fun s => s.cwd = cwd ∧ MountedAfter past none s)
        cwdIsHdd fun isHdd s => isHdd = hddPath cwd ∧ s.cwd = cwd ∧ MountedAfter past none s :=
      Program.Triple.of_run (cwdIsHdd_run console) fun s hs => ⟨congrArg hddPath hs.1, hs⟩
    refine Program.Triple.bind hisHdd fun isHdd => ?_
    apply Program.Triple.of_pure
    rintro rfl
    cases hddPath cwd with
    | false => exact Program.Triple.ret fun s hs => hs.2.mountedIf console
    | true =>
      have hget : Program.Triple console.step (fun s => s.cwd = cwd ∧ MountedAfter past none s)
          getcwd fun cwd' s => cwd' = cwd ∧ MountedAfter past none s :=
        Program.Triple.of_run (getcwd_run console) fun s hs => hs
      refine Program.Triple.bind hget fun cwd' => ?_
      apply Program.Triple.of_pure
      rintro rfl
      exact mountPartitionOf_mounts hgood cwd'

end

/-! ## 4. What an initialisation mounts -/

inductive FilesystemInit
  | all
  | onlyBoot
  deriving DecidableEq, Repr

namespace FilesystemInit

def init : FilesystemInit → DriverM Unit
  | .all => initPs2FilesystemDriver
  | .onlyBoot => initOnlyBootPs2FilesystemDriver

def deinit : FilesystemInit → DriverM Unit
  | .all => deinitPs2FilesystemDriver
  | .onlyBoot => deinitOnlyBootPs2FilesystemDriver

def handler : FilesystemInit → PoweroffHandler
  | .all => .filesystem
  | .onlyBoot => .onlyBootFilesystem

/-- The partition that the initialisation mounts from a state: the working directory is on the HDD
and names one, and the modules of the HDD driver load. -/
def mounts (console : Console) (s : Machine) : FilesystemInit → Option MountInfo
  | .all => if s.hddStarts console && hddPath s.cwd then currentInfo s.cwd else none
  | .onlyBoot =>
    if (getBootDeviceID (some s.cwd)).group = .hdd then
      if s.hddStarts console && hddPath s.cwd then currentInfo s.cwd else none
    else none

end FilesystemInit

def hddModules : List Irx := [.ps2atad, .ps2hdd, .ps2fs]

/-- The HDD driver has not been touched since `s₀`, and nothing was mounted. -/
structure BeforeHdd (console : Console) (s₀ s : Machine) : Prop where
  awaits : Awaits console s₀ hddModules s
  cwd : s.cwd = s₀.cwd
  mounts : MountedAfter (mountsOf s₀.trace) none s

/-- Initialised from `s₀`, the HDD driver is ready or not; nothing was mounted. -/
structure AfterHdd (s₀ : Machine) (ready : Bool) (s : Machine) : Prop where
  status : s.status .hdd = HddInitStatus.irxOk ↔ ready = true
  cwd : s.cwd = s₀.cwd
  mounts : MountedAfter (mountsOf s₀.trace) none s

section

variable {console : Console} {s₀ : Machine}

theorem Program.Triple.keepsCwd {α : Type} {p : DriverM α} (hp : p.Within DriverOp.keepsFiles)
    (cwd : Bytes) :
    Program.Triple console.step (fun s => s.cwd = cwd) p fun _ s => s.cwd = cwd :=
  Program.Triple.keepsFiles hp fun _ _ h hs => h.cwd.trans hs

/-- Another driver comes up before the HDD's. -/
theorem initDriver_beforeHdd (d : Driver) (deps only : Bool)
    (hd : ∀ m ∈ hddModules, m ∉ d.responsible deps) :
    Program.Triple console.step (BeforeHdd console s₀) (initDriver d deps only) fun _ =>
      BeforeHdd console s₀ := by
  have hfiles := initDriver_keepsFiles d deps only
  have hspares : (initDriver d deps only).Within fun op : DriverOp =>
      ∀ m ∈ hddModules, op.spares m :=
    (initDriver_within d deps only (List.Subset.refl _)).mono fun op hop m hm =>
      DriverOp.bringsUp.spares (hd m hm) op hop
  have hawaits : Program.Triple console.step (Awaits console s₀ hddModules)
      (initDriver d deps only) fun _ => Awaits console s₀ hddModules :=
    Program.Triple.keepsAwaits hspares
  have hmounts : Program.Triple console.step (MountedAfter (mountsOf s₀.trace) none)
      (initDriver d deps only) fun _ => MountedAfter (mountsOf s₀.trace) none :=
    Program.Triple.keepsMountedAfter hfiles none
  refine (hawaits.and ((Program.Triple.keepsCwd hfiles s₀.cwd).and hmounts)).imp ?_ ?_
  · exact fun s hs => ⟨hs.awaits, hs.cwd, hs.mounts⟩
  · exact fun _ s hs => ⟨hs.1, hs.2.1, hs.2.2⟩

theorem returnStatus_status {d : Driver} {load : DriverM Int} {P : Machine → Prop} {ok : Int}
    {ready : Bool}
    (hload : Program.Triple console.step P load fun status _ => status = ok ↔ ready = true) :
    Program.Triple console.step P (returnStatus d load) fun _ s =>
      s.status d = ok ↔ ready = true := by
  refine Program.Triple.bind hload fun status => ?_
  refine Program.Triple.bind (R := fun _ s => s.status d = ok ↔ ready = true) ?_ fun _ =>
    Program.Triple.ret fun _ hs => hs
  refine Program.Triple.of_run (fun s => setStatus_run console s d status) fun s hs => ?_
  show Function.update s.status d status d = ok ↔ ready = true
  rw [Function.update_self]
  exact hs

theorem initHddDriver_status (hgood : console.DevicesWork) (s₀ : Machine) (only : Bool) :
    Program.Triple console.step (BeforeHdd console s₀) (initHddDriver false only) fun _ s =>
      s.status .hdd = HddInitStatus.irxOk ↔
        ((!only || hddPath s₀.cwd) && s₀.hddStarts console) = true := by
  have hload : Program.Triple console.step (BeforeHdd console s₀) (initHdd false) fun _ s =>
      s.status .hdd = HddInitStatus.irxOk ↔ s₀.hddStarts console = true :=
    returnStatus_status ((loadHddIRXs_status hgood).imp (fun s hs => hs.awaits) fun _ _ h => h)
  cases only with
  | false => exact hload.weaken fun _ s hs => hs
  | true =>
    have hisHdd : Program.Triple console.step (BeforeHdd console s₀) cwdIsHdd fun isHdd s =>
        isHdd = hddPath s₀.cwd ∧ BeforeHdd console s₀ s :=
      Program.Triple.of_run (cwdIsHdd_run console) fun s hs => ⟨congrArg hddPath hs.cwd, hs⟩
    refine Program.Triple.bind hisHdd fun isHdd => ?_
    apply Program.Triple.of_pure
    rintro rfl
    cases hddPath s₀.cwd with
    | true => exact hload.weaken fun _ s hs => hs
    | false =>
      refine returnStatus_status (Program.Triple.ret fun _ _ => iff_of_false ?_ Bool.false_ne_true)
      decide

theorem initHddDriver_afterHdd (hgood : console.DevicesWork) (only : Bool) :
    Program.Triple console.step (BeforeHdd console s₀) (initHddDriver false only) fun _ =>
      AfterHdd s₀ ((!only || hddPath s₀.cwd) && s₀.hddStarts console) := by
  have hfiles : (initHddDriver false only).Within DriverOp.keepsFiles :=
    initDriver_keepsFiles .hdd false only
  have hmounts : Program.Triple console.step (MountedAfter (mountsOf s₀.trace) none)
      (initHddDriver false only) fun _ => MountedAfter (mountsOf s₀.trace) none :=
    Program.Triple.keepsMountedAfter hfiles none
  refine ((initHddDriver_status hgood s₀ only).and
    ((Program.Triple.keepsCwd hfiles s₀.cwd).and hmounts)).imp ?_ ?_
  · exact fun s hs => ⟨hs, hs.cwd, hs.mounts⟩
  · exact fun _ s hs => ⟨hs.1, hs.2.1, hs.2.2⟩

/-- Registering the callback, then mounting. -/
theorem mountCurrent_afterHdd (hgood : console.DevicesWork) (ready : Bool)
    (handler : PoweroffHandler) {α : Type} {rest : DriverM α}
    (hrest : rest.Within DriverOp.keepsFiles) :
    Program.Triple console.step (AfterHdd s₀ ready) (do
      let _ ← lib (.poweroffSetCallback handler)
      let _ ← mountCurrentHddPartition
      rest) fun _ => MountedIf console (mountsOf s₀.trace)
        (if ready && hddPath s₀.cwd then currentInfo s₀.cwd else none) := by
  have hset : Program.Triple console.step (AfterHdd s₀ ready) (lib (.poweroffSetCallback handler))
      fun _ => AfterHdd s₀ ready :=
    Program.Triple.of_run (fun s => lib_run console s _) fun s hs => ⟨hs.status, hs.cwd, hs.mounts⟩
  refine Program.Triple.bind hset fun _ => ?_
  refine Program.Triple.bind ((mountCurrentHddPartition_mounts hgood ready s₀.cwd).imp
    (fun s hs => ⟨hs.status, hs.cwd, hs.mounts⟩) fun _ _ hs => hs) fun _ => ?_
  exact Program.Triple.keepsMountedIf hrest _

theorem initPs2FilesystemDriver_mounts (hgood : console.DevicesWork) :
    Program.Triple console.step (BeforeHdd console s₀) initPs2FilesystemDriver fun _ =>
      MountedIf console (mountsOf s₀.trace) (FilesystemInit.all.mounts console s₀) := by
  have hdrivers : Program.Triple console.step (BeforeHdd console s₀) initFilesystemDrivers
      fun _ => AfterHdd s₀ (hddPath s₀.cwd && s₀.hddStarts console) := by
    refine Program.Triple.bind (initDriver_beforeHdd .poweroff false false (by decide)) fun _ => ?_
    refine Program.Triple.bind (initDriver_beforeHdd .fileXio false false (by decide)) fun _ => ?_
    refine Program.Triple.bind (initDriver_beforeHdd .memcard true false (by decide)) fun _ => ?_
    refine Program.Triple.bind (initDriver_beforeHdd .usb true false (by decide)) fun _ => ?_
    refine Program.Triple.bind (initDriver_beforeHdd .mx4sio false false (by decide)) fun _ => ?_
    refine Program.Triple.bind (initDriver_beforeHdd .cdfs false false (by decide)) fun _ => ?_
    refine Program.Triple.bind (initDriver_beforeHdd .dev9 false false (by decide)) fun _ => ?_
    refine Program.Triple.bind (initHddDriver_afterHdd hgood true) fun _ => ?_
    exact Program.Triple.ret fun _ hs => hs
  have hwait : (do
      let _ ← waitUntilDeviceIsReady (← getcwd)
      pure () : DriverM Unit).Within DriverOp.keepsFiles := by
    refine Program.Within.bind (getcwd_within.mpr trivial) fun cwd => ?_
    exact Program.Within.bind (waitUntilDeviceIsReady_within (fun _ => rfl) cwd) fun _ =>
      Program.within_pure _
  refine Program.Triple.bind hdrivers fun _ => ?_
  refine (mountCurrent_afterHdd hgood _ .filesystem hwait).weaken fun _ s hs => ?_
  -- the HDD driver and the mount both ask whether the working directory is on the HDD
  have hready : (hddPath s₀.cwd && s₀.hddStarts console && hddPath s₀.cwd) =
      (s₀.hddStarts console && hddPath s₀.cwd) := by
    cases hddPath s₀.cwd <;> simp
  rw [FilesystemInit.mounts, ← hready]
  exact hs

theorem initBootGroup_mounts (hgood : console.DevicesWork) (group : BootGroup) :
    Program.Triple console.step (BeforeHdd console s₀) (initBootGroup s₀.cwd group) fun _ =>
      MountedIf console (mountsOf s₀.trace) (if group = .hdd then
        if s₀.hddStarts console && hddPath s₀.cwd then currentInfo s₀.cwd else none else none) := by
  have hkeep {α : Type} {p : DriverM α} (hp : p.Within DriverOp.keepsFiles) :
      Program.Triple console.step (BeforeHdd console s₀) p fun _ =>
        MountedIf console (mountsOf s₀.trace) none :=
    (Program.Triple.keepsMountedAfter hp none).imp (fun _ hs => hs.mounts)
      fun _ _ hs => hs.mountedIf console
  cases group with
  | memcard =>
    exact hkeep (Program.Within.bind (initDriver_keepsFiles .memcard true false) fun _ => trivial)
  | cdfs =>
    exact hkeep (Program.Within.bind (initDriver_keepsFiles .cdfs false false) fun _ => trivial)
  | mass =>
    refine hkeep (Program.Within.bind (initDriver_keepsFiles .usb true false) fun _ => ?_)
    exact Program.Within.bind (initDriver_keepsFiles .mx4sio true false) fun _ => trivial
  | hdd =>
    -- only this group mounts, and does so behind the three drivers
    refine Program.Triple.bind (initDriver_beforeHdd .poweroff false false (by decide)) fun _ => ?_
    refine Program.Triple.bind (initDriver_beforeHdd .dev9 false false (by decide)) fun _ => ?_
    refine Program.Triple.bind (initHddDriver_afterHdd hgood false) fun _ => ?_
    refine (mountCurrent_afterHdd hgood _ .onlyBootFilesystem
      (getcwd_within.mpr trivial)).weaken fun _ s hs => ?_
    simpa using hs
  | none => exact hkeep (Program.within_pure _)

/-- What is mounted after an initialisation. -/
theorem FilesystemInit.init_mounts (hgood : console.DevicesWork) (hworld : s₀.world.Valid)
    (kind : FilesystemInit) {s₁ : Machine}
    (hinit : kind.init.run console.step s₀ = some ((), s₁)) :
    MountedIf console (mountsOf s₀.trace) (kind.mounts console s₀) s₁ := by
  have hbefore : BeforeHdd console s₀ s₀ := ⟨⟨hworld, fun _ _ => rfl⟩, rfl, rfl⟩
  cases kind with
  | all => exact (initPs2FilesystemDriver_mounts hgood).holds s₀ hbefore _ hinit
  | onlyBoot =>
    have hfileXio : Program.Triple console.step (BeforeHdd console s₀) initFileXioDriver fun _ =>
        BeforeHdd console s₀ := initDriver_beforeHdd .fileXio false false (by decide)
    have hboot := initOnlyBootPs2FilesystemDriver_triple hfileXio (initBootGroup_mounts hgood _)
      fun path => Program.Triple.keepsMountedIf
        (waitUntilDeviceIsReady_within (fun _ => rfl) path) _
    exact hboot.holds s₀ ⟨rfl, hbefore⟩ _ hinit

end

/-! ## 5. Taking the HDD stack away -/

/-- The operation unloads `ps2fs` or `ps2hdd`, or calls `poweroffShutdown`. -/
def pullsStack (op : DriverOp) (s : Machine) : Prop :=
  match op with
  | .unloadIrx m => (m = .ps2fs ∨ m = .ps2hdd) ∧ (s.irx m).checkUnload = true
  | .lib call => call = .poweroffShutdown
  | _ => False

def DriverOp.sparesStack : DriverOp → Prop
  | .unloadIrx m => m ≠ .ps2fs ∧ m ≠ .ps2hdd
  | .lib call => call ≠ .poweroffShutdown
  | _ => True

theorem DriverOp.sparesStack.not_pulls {op : DriverOp} (h : op.sparesStack) (s : Machine) :
    ¬ pullsStack op s := by
  cases op with
  | unloadIrx m => exact fun hpulls => hpulls.1.elim h.1 h.2
  | lib call => exact h
  | _ => exact id

/-- Since it was last mounted, the mountpoint was unmounted, and its files were closed. -/
structure Released (mountpoint : Bytes) (s : Machine) : Prop where
  unmounted : mounted mountpoint s.trace = false
  closed : closed mountpoint s.trace = true

section

variable {console : Console} {mountpoint : Bytes} {past : List Bytes}

theorem umountCurrentHddPartition_releases (hgood : console.DevicesWork) :
    Program.Triple console.step (CurrentMounted mountpoint past) umountCurrentHddPartition
      fun _ => Released mountpoint := by
  constructor
  intro s hs r hr
  rw [umountCurrentHddPartition_run, umountHddPartition_run, if_pos hs.status, hs.string] at hr
  rw [← Option.some.inj hr]
  refine ⟨Machine.umounted_same (hgood.umount mountpoint s.trace), ?_⟩
  obtain ⟨result, closeResult, idle, htrace, -⟩ := s.umounted_trace console mountpoint
  show closed mountpoint (s.umounted console mountpoint).trace = true
  rw [htrace]
  simp [closed, Event.closes, Event.mounts, hddIdle]

theorem umountCurrentHddPartition_sparesStack :
    umountCurrentHddPartition.Within DriverOp.sparesStack := by
  have hlib (call : LibCall) (h : call ≠ .poweroffShutdown) :
      (lib call).Within DriverOp.sparesStack := lib_within.mpr h
  refine Program.Within.bind (getMountString_within.mpr trivial) fun mountString => ?_
  refine Program.Within.bind (getMountStatus_within.mpr trivial) fun status => ?_
  apply Program.within_ite _ (Program.within_pure _)
  refine Program.Within.bind (hlib _ nofun) fun _ => ?_
  refine Program.Within.bind (hlib _ nofun) fun _ => ?_
  refine Program.Within.bind (hlib _ nofun) fun _ => ?_
  refine Program.Within.bind (setMountStatus_within.mpr trivial) fun _ => ?_
  exact setMountString_within.mpr trivial

theorem step_released {op : DriverOp} {s : Machine} {r : op.Answer × Machine}
    (hop : op.keepsFiles) (hs : Released mountpoint s) (h : console.step op s = some r) :
    Released mountpoint r.2 := by
  obtain ⟨es, htrace, hes⟩ := step_quiet hop h
  refine ⟨((step_sameFiles hop h).mounted mountpoint).trans hs.unmounted, ?_⟩
  rw [htrace]
  exact closed_append_quiet hes hs.closed

/-- Unmounting first makes any teardown safe. -/
theorem umountFirst_safe (hgood : console.DevicesWork) {rest : DriverM Unit}
    (hrest : rest.Within DriverOp.keepsFiles) :
    Program.Safe console.step (CurrentMounted mountpoint past) (do
      umountCurrentHddPartition
      rest) fun op s => pullsStack op s → Released mountpoint s := by
  have humount : Program.Safe console.step (CurrentMounted mountpoint past)
      umountCurrentHddPartition fun op s => pullsStack op s → Released mountpoint s :=
    (Program.Safe.of_within umountCurrentHddPartition_sparesStack).imp (fun _ hs => hs)
      fun op s hop hpulls => absurd hpulls (hop.not_pulls s)
  refine Program.Safe.bind humount (umountCurrentHddPartition_releases hgood) fun _ => ?_
  have hkeeps : Program.Safe console.step (Released mountpoint) rest fun op s =>
      op.keepsFiles ∧ Released mountpoint s :=
    Program.Safe.of_keeps hrest fun op hop s r hs h => step_released hop hs h
  exact hkeeps.imp (fun _ hs => hs) fun op s hs _ => hs.2

/-! ## 6. The internal halves -/

/-- `__internal_deinit_only_boot_ps2_filesystem_driver` unloads modules. -/
theorem internalDeinitOnlyBootPs2FilesystemDriver_within (deinitPowerOff : Bool)
    {A : DriverOp → Prop} (hdown : ∀ op : DriverOp, op.tearsDown filesystemModules → A op) :
    (internalDeinitOnlyBootPs2FilesystemDriver deinitPowerOff).Within A := by
  have hdeinit (d : Driver) (deps : Bool) (hsub : d.responsible deps ⊆ filesystemModules) :
      (deinitDriver d deps).Within A :=
    (deinitDriver_deinit deps d).within.mono fun op hop =>
      hdown op (DriverOp.tearsDown.mono hsub op hop)
  refine Program.Within.bind (getBootDeviceId_within.mpr (hdown _ trivial)) fun bootDeviceId => ?_
  refine Program.Within.bind ?_ fun _ => hdeinit .fileXio false (by decide)
  cases bootDeviceId.group with
  | memcard => exact hdeinit .memcard true (by decide)
  | cdfs => exact hdeinit .cdfs false (by decide)
  | mass =>
    exact Program.Within.bind (hdeinit .usb true (by decide)) fun _ =>
      hdeinit .mx4sio true (by decide)
  | hdd =>
    refine Program.Within.bind (hdeinit .hdd false (by decide)) fun _ => ?_
    refine Program.Within.bind (hdeinit .dev9 false (by decide)) fun _ => ?_
    exact whenEnabled_within _ (hdeinit .poweroff false (by decide))
  | none => exact Program.within_pure _

theorem unloadIRXs_sparesStack {ms : List Irx} (hms : .ps2fs ∉ ms ∧ .ps2hdd ∉ ms) :
    (unloadIRXs ms).Within DriverOp.sparesStack :=
  unloadIRXs_within fun _ hm => ⟨fun heq => hms.1 (heq ▸ hm), fun heq => hms.2 (heq ▸ hm)⟩

/-- Without the HDD as the boot device the HDD stack stays. -/
theorem deinitBootGroup_sparesStack (deinitPowerOff : Bool) {group : BootGroup}
    (hgroup : group ≠ .hdd) :
    (deinitBootGroup deinitPowerOff group).Within DriverOp.sparesStack := by
  cases group with
  | memcard =>
    exact Program.Within.bind (unloadIRXs_sparesStack (by decide)) fun _ =>
      unloadIRXs_sparesStack (by decide)
  | cdfs => exact unloadIRXs_sparesStack (by decide)
  | mass =>
    refine Program.Within.bind ?_ fun _ => ?_
    · refine Program.Within.bind (unloadIRXs_sparesStack (by decide)) fun _ => ?_
      exact Program.Within.bind (unloadIRXs_sparesStack (by decide)) fun _ =>
        unloadIRXs_sparesStack (by decide)
    · refine Program.Within.bind (unloadIRXs_sparesStack (by decide)) fun _ => ?_
      exact Program.Within.bind (unloadIRXs_sparesStack (by decide)) fun _ =>
        unloadIRXs_sparesStack (by decide)
  | hdd => exact absurd rfl hgroup
  | none => exact Program.within_pure _

theorem deinitOnlyBootPs2FilesystemDriver_safe (hgood : console.DevicesWork) :
    Program.Safe console.step (CurrentMounted mountpoint past) deinitOnlyBootPs2FilesystemDriver
      fun op s => pullsStack op s → Released mountpoint s := by
  have hget (P : Machine → Prop) : Program.Triple console.step P getBootDeviceId
      fun bootDeviceId s => s.bootDeviceId = bootDeviceId ∧ P s :=
    Program.Triple.of_run (getBootDeviceId_run console) fun s hs => ⟨rfl, hs⟩
  have hquiet {α : Type} {P : Machine → Prop} {p : DriverM α}
      (hp : p.Within DriverOp.sparesStack) :
      Program.Safe console.step P p fun op s => pullsStack op s → Released mountpoint s :=
    (Program.Safe.of_within hp).imp (fun _ hs => hs) fun op s hop hpulls =>
      absurd hpulls (hop.not_pulls s)
  refine Program.Safe.bind (hquiet (getBootDeviceId_within.mpr trivial)) (hget _)
    fun bootDeviceId => ?_
  apply Program.Safe.branch
  · intro _
    -- the HDD is the boot device: the partition is unmounted first
    have hinternal := internalDeinitOnlyBootPs2FilesystemDriver_within true
      DriverOp.tearsDown.keepsFiles
    exact (umountFirst_safe hgood hinternal).imp (fun _ hs => hs.2) fun _ _ hG => hG
  · intro hne
    have hgroup : bootDeviceId.group ≠ .hdd := by
      revert hne
      cases bootDeviceId <;> decide
    -- the device is read again, and is the same
    refine Program.Safe.bind (hquiet (getBootDeviceId_within.mpr trivial))
      ((hget (fun s => s.bootDeviceId = bootDeviceId)).imp (fun _ hs => hs.1) fun _ _ hs => hs)
      fun again => ?_
    constructor
    rintro s ⟨rfl, rfl⟩
    refine (hquiet (P := fun _ => True) ?_).holds s trivial
    refine Program.Within.bind (deinitBootGroup_sparesStack true hgroup) fun _ => ?_
    refine Program.Within.bind (lib_within.mpr nofun) fun _ => ?_
    exact unloadIRXs_sparesStack (by decide)

/-- The callbacks come to `poweroffShutdown` with the partition still mounted. -/
theorem poweroffHandler_pulls (hgood : console.DevicesWork) (handler : PoweroffHandler) :
    Program.Meets console.step (CurrentMounted mountpoint past) (poweroffHandler handler)
      fun op s => pullsStack op s ∧ mounted mountpoint s.trace = true := by
  have hhalf {half : DriverM Unit} (hfiles : half.Within DriverOp.keepsFiles)
      (hreturns : half.Within DriverOp.returns) :
      Program.Meets console.step (CurrentMounted mountpoint past) (do
        half
        let _ ← lib .poweroffShutdown
        pure ()) fun op s => pullsStack op s ∧ mounted mountpoint s.trace = true := by
    -- the half unmounts nothing, and comes back
    have hkeeps : Program.Triple console.step (fun s => mounted mountpoint s.trace = true) half
        fun _ s => mounted mountpoint s.trace = true :=
      Program.Triple.keepsFiles hfiles fun s s' h hs => (h.mounted mountpoint).trans hs
    refine Program.Meets.bind_right (fun s _ => ?_)
      (hkeeps.imp (fun _ hs => hs.mounted) fun _ _ hs => hs) fun _ => ?_
    · exact Program.run_returns hreturns
        (DriverOp.returns.step (fun past => hgood.devctl _ _ past) hgood.patient) s
    · exact Program.Meets.bind_left (.request fun s hs => ⟨rfl, hs⟩)
  cases handler with
  | filesystem =>
    exact hhalf (internalDeinitPs2FilesystemDriver_within false DriverOp.tearsDown.keepsFiles
      DriverOp.bringsUp.keepsFiles) (internalDeinitPs2FilesystemDriver_within false
        DriverOp.tearsDown.returns DriverOp.bringsUp.returns)
  | onlyBootFilesystem =>
    exact hhalf (internalDeinitOnlyBootPs2FilesystemDriver_within false
      DriverOp.tearsDown.keepsFiles) (internalDeinitOnlyBootPs2FilesystemDriver_within false
        DriverOp.tearsDown.returns)

end

/-! ## 7. Unmounting first -/

/-- What follows an initialisation: the matching deinitialisation, or the callback that the
initialisation registers. -/
inductive Teardown
  | deinit
  | poweroff
  deriving DecidableEq, Repr

def Teardown.run (kind : FilesystemInit) : Teardown → DriverM Unit
  | .deinit => kind.deinit
  | .poweroff => poweroffHandler kind.handler

def MountedDuring (s s' : Machine) (mountpoint : Bytes) : Prop :=
  ∃ es, s'.trace = es ++ s.trace ∧ mountpoint ∈ mountsOf es

/-- Whenever the teardown takes a part of the HDD stack away, what the initialisation mounted has
been unmounted. -/
def UnmountsFirst (console : Console) (kind : FilesystemInit) (teardown : Teardown)
    (s₀ s₁ : Machine) : Prop :=
  ∀ mountpoint, MountedDuring s₀ s₁ mountpoint → ∀ op t,
    Program.Reaches console.step op t (teardown.run kind) s₁ → pullsStack op t →
    Released mountpoint t

section

variable {console : Console} {s₀ s₁ : Machine}

theorem MountedAfter.nothing (h : MountedAfter (mountsOf s₀.trace) none s₁) (mountpoint : Bytes) :
    ¬ MountedDuring s₀ s₁ mountpoint := by
  rintro ⟨es, htrace, hmem⟩
  have hmounts : mountsOf (es ++ s₀.trace) = mountsOf s₀.trace := by
    rw [← htrace]
    exact h
  rw [mountsOf, List.filterMap_append] at hmounts
  have hnil : mountsOf es = [] := List.append_left_eq_self.mp hmounts
  rw [hnil] at hmem
  cases hmem

/-- Exactly the current partition was mounted. -/
theorem CurrentMounted.during {current : Bytes}
    (h : CurrentMounted current (mountsOf s₀.trace) s₁) (hsuffix : s₀.trace <:+ s₁.trace)
    (mountpoint : Bytes) : MountedDuring s₀ s₁ mountpoint ↔ mountpoint = current := by
  have honly {es : List Event} (htrace : s₁.trace = es ++ s₀.trace) : mountsOf es = [current] := by
    have hmounts := h.mounts
    rw [htrace, mountsOf, List.filterMap_append] at hmounts
    exact List.append_cancel_right hmounts
  constructor
  · rintro ⟨es, htrace, hmem⟩
    rw [honly htrace] at hmem
    exact List.mem_singleton.mp hmem
  · rintro rfl
    obtain ⟨es, htrace⟩ := hsuffix
    exact ⟨es, htrace.symm, by rw [honly htrace.symm]; exact List.mem_singleton_self _⟩

theorem FilesystemInit.deinit_unmountsFirst (hgood : console.DevicesWork) (kind : FilesystemInit)
    {current : Bytes} (h : CurrentMounted current (mountsOf s₀.trace) s₁)
    (hsuffix : s₀.trace <:+ s₁.trace) : UnmountsFirst console kind .deinit s₀ s₁ := by
  intro mountpoint hduring op t hreaches hpulls
  rw [h.during hsuffix] at hduring
  rw [hduring]
  cases kind with
  | all =>
    have hinternal := internalDeinitPs2FilesystemDriver_within true DriverOp.tearsDown.keepsFiles
      DriverOp.bringsUp.keepsFiles
    exact (umountFirst_safe hgood hinternal).holds s₁ h op t hreaches hpulls
  | onlyBoot =>
    exact (deinitOnlyBootPs2FilesystemDriver_safe hgood).holds s₁ h op t hreaches hpulls

theorem FilesystemInit.poweroff_not_unmountsFirst (hgood : console.DevicesWork)
    (kind : FilesystemInit) {current : Bytes}
    (h : CurrentMounted current (mountsOf s₀.trace) s₁) (hsuffix : s₀.trace <:+ s₁.trace) :
    ¬ UnmountsFirst console kind .poweroff s₀ s₁ := by
  intro hfirst
  obtain ⟨op, t, hreaches, hpulls, hmounted⟩ :=
    (poweroffHandler_pulls hgood kind.handler).holds s₁ h
  have hduring : MountedDuring s₀ s₁ current := (h.during hsuffix current).mpr rfl
  have hgone := (hfirst current hduring op t hreaches hpulls).unmounted
  rw [hmounted] at hgone
  cases hgone

/-- After any initialisation, nothing of the HDD stack goes while a partition that it mounted is
mounted, exactly when the teardown is a deinitialisation or no partition was mounted.  While memory
suffices, what is mounted is settled by the state before the initialisation. -/
theorem teardown_unmountsFirst (hgood : console.DevicesWork) (hworld : s₀.world.Valid)
    (kind : FilesystemInit) (hinit : kind.init.run console.step s₀ = some ((), s₁))
    (teardown : Teardown) :
    (UnmountsFirst console kind teardown s₀ s₁ ↔
      teardown = .deinit ∨ ∀ mountpoint, ¬ MountedDuring s₀ s₁ mountpoint) ∧
    (console.Allocates →
      ((∀ mountpoint, ¬ MountedDuring s₀ s₁ mountpoint) ↔ kind.mounts console s₀ = none)) := by
  have hsuffix : s₀.trace <:+ s₁.trace := run_suffix console hinit
  obtain ⟨found, hfound, hmounts⟩ := kind.init_mounts hgood hworld hinit
  -- the initialisation mounted at most one partition
  cases found with
  | none =>
    have hnothing := MountedAfter.nothing hmounts
    refine ⟨iff_of_true (fun mountpoint h => absurd h (hnothing mountpoint)) (Or.inr hnothing),
      fun halloc => iff_of_true hnothing (hfound halloc).symm⟩
  | some info =>
    have hcurrent : CurrentMounted info.mountString (mountsOf s₀.trace) s₁ := hmounts
    have hduring := (hcurrent.during hsuffix info.mountString).mpr rfl
    constructor
    · cases teardown with
      | deinit => exact iff_of_true (kind.deinit_unmountsFirst hgood hcurrent hsuffix) (Or.inl rfl)
      | poweroff =>
        refine iff_of_false (kind.poweroff_not_unmountsFirst hgood hcurrent hsuffix) ?_
        exact fun h => h.elim nofun fun hnothing => hnothing _ hduring
    · intro halloc
      rw [← hfound halloc]
      exact iff_of_false (fun hnothing => hnothing _ hduring) nofun

end

theorem Console.mounting_devicesWork : Console.mounting.DevicesWork where
  toMounts := Console.mounting_mounts
  devctl _ _ _ := Int.le_refl 0
  hddStatus _ := show (0 : Int) < 3 by decide
  patient := Nat.zero_lt_one

theorem Console.mounting_allocates : Console.mounting.Allocates where
  malloc _ _ := show (1 : Int) ≠ 0 by decide
  strdup _ _ := show (1 : Int) ≠ 0 by decide

def hddProgram : Machine := Machine.initial hddAppPath World.initial

theorem hddProgram_mounts (kind : FilesystemInit) : (kind.mounts Console.mounting hddProgram).map
    (·.mountString) = some (lit "pfs:") := by
  cases kind <;> decide +kernel

theorem hddProgram_init (kind : FilesystemInit) :
    ∃ s₁, kind.init.run Console.mounting.step hddProgram = some ((), s₁) ∧
      .lib (.poweroffSetCallback kind.handler) 0 ∈ s₁.trace := by
  have hrun : (kind.init.run Console.mounting.step hddProgram).map (fun r =>
      decide (.lib (.poweroffSetCallback kind.handler) 0 ∈ r.2.trace)) = some true := by
    cases kind <;> decide +kernel
  obtain ⟨⟨u, s₁⟩, hinit, hmem⟩ := Option.map_eq_some_iff.mp hrun
  exact ⟨s₁, hinit, of_decide_eq_true hmem⟩

/-- The deinitialisation unmounts the partition before it takes the HDD stack away. -/
theorem teardown_unmountsFirst_deinit : ∃ s₁,
    FilesystemInit.all.init.run Console.mounting.step hddProgram = some ((), s₁) ∧
      UnmountsFirst Console.mounting .all .deinit hddProgram s₁ ∧
      ¬ ∀ mountpoint, ¬ MountedDuring hddProgram s₁ mountpoint := by
  obtain ⟨s₁, hinit, -⟩ := hddProgram_init .all
  obtain ⟨hiff, hmounts⟩ := teardown_unmountsFirst Console.mounting_devicesWork
    World.initial_valid .all hinit .deinit
  refine ⟨s₁, hinit, hiff.mpr (Or.inl rfl), ?_⟩
  rw [hmounts Console.mounting_allocates]
  intro hnone
  have hsome := hddProgram_mounts .all
  rw [hnone] at hsome
  cases hsome

/-- The callback shuts the console down with the partition mounted. -/
theorem poweroff_pulls_mounted :
    ¬ ∀ (console : Console) (s₀ s₁ : Machine) (kind : FilesystemInit) (teardown : Teardown),
        console.DevicesWork → s₀.world.Valid →
        kind.init.run console.step s₀ = some ((), s₁) →
        (teardown = .poweroff →
          ∃ result, .lib (.poweroffSetCallback kind.handler) result ∈ s₁.trace) →
        UnmountsFirst console kind teardown s₀ s₁ := by
  intro h
  obtain ⟨s₁, hinit, hregistered⟩ := hddProgram_init .all
  have hfirst := h Console.mounting hddProgram s₁ .all .poweroff Console.mounting_devicesWork
    World.initial_valid hinit fun _ => ⟨0, hregistered⟩
  obtain ⟨found, hfound, hmounts⟩ := FilesystemInit.all.init_mounts Console.mounting_devicesWork
    World.initial_valid hinit
  obtain ⟨info, hinfo, -⟩ := Option.map_eq_some_iff.mp (hddProgram_mounts .all)
  rw [hfound Console.mounting_allocates, hinfo] at hmounts
  exact FilesystemInit.all.poweroff_not_unmountsFirst Console.mounting_devicesWork hmounts
    (run_suffix Console.mounting hinit) hfirst

end Ps2Drivers
