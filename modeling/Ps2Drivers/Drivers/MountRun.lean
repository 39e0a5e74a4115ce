import Ps2Drivers.Drivers.Undo

/-!
# Mounting and unmounting over time

`__mount_status` and `__mountString` are one pair of globals for all mountpoints: only
`mount_current_hdd_partition` sets them, and unmounting anything clears them.  Which partition can
still be unmounted therefore depends on every mount and unmount before.
-/

open Binary CString

namespace Ps2Drivers

/-! ## 1. Unmounting -/

/-- What `umount_hdd_partition` does once the status lets it. -/
def Machine.umounted (console : Console) (mountpoint : Bytes) (s : Machine) : Machine :=
  let s := (s.lib console (.fileXioUmount mountpoint)).2
  let s := (s.lib console (.fileXioDevctl mountpoint .pdiocCloseall)).2
  let s := (s.lib console hddIdle).2
  { s with mountStatus := HddMountStatus.unknown, mountString := [] }

section

variable {console : Console} {s s' : Machine} {mountpoint : Bytes}

theorem umountHddPartition_run (console : Console) (mountpoint : Bytes) (s : Machine) :
    (umountHddPartition mountpoint).run console.step s =
      some ((), if s.mountStatus = HddMountStatus.ok then s.umounted console mountpoint else s) := by
  change (if s.mountStatus = HddMountStatus.ok then _ else _ : DriverM Unit).run console.step s = _
  by_cases h : s.mountStatus = HddMountStatus.ok
  · rw [if_pos h, if_pos h]
    rfl
  · rw [if_neg h, if_neg h]
    rfl

theorem umountCurrentHddPartition_run (console : Console) (s : Machine) :
    umountCurrentHddPartition.run console.step s =
      (umountHddPartition s.mountString).run console.step s := rfl

theorem Machine.umounted_trace (console : Console) (mountpoint : Bytes) (s : Machine) :
    ∃ result closed idle, (s.umounted console mountpoint).trace =
      .lib hddIdle idle :: .lib (.fileXioDevctl mountpoint .pdiocCloseall) closed ::
        .lib (.fileXioUmount mountpoint) result :: s.trace ∧
      result = console.lib (.fileXioUmount mountpoint) s.trace := ⟨_, _, _, rfl, rfl⟩

/-- Whatever was unmounted, the globals no longer know of any partition. -/
theorem umountHddPartition_status (h : (umountHddPartition mountpoint).run console.step s =
    some ((), s')) : s'.mountStatus ≠ HddMountStatus.ok := by
  rw [umountHddPartition_run] at h
  obtain rfl := congrArg Prod.snd (Option.some.inj h)
  by_cases hok : s.mountStatus = HddMountStatus.ok
  · rw [if_pos hok]
    show HddMountStatus.unknown ≠ HddMountStatus.ok
    decide
  · rw [if_neg hok]
    exact hok

/-- Another mountpoint stays mounted. -/
theorem Machine.umounted_other {mountpoint' : Bytes} (hne : mountpoint ≠ mountpoint') :
    mounted mountpoint' (s.umounted console mountpoint).trace = mounted mountpoint' s.trace := by
  obtain ⟨result, closed, idle, htrace, -⟩ := s.umounted_trace console mountpoint
  have hbeq : (mountpoint == mountpoint') = false := beq_eq_false_iff_ne.mpr hne
  rw [htrace]
  simp [mounted, Event.mounts, Event.unmounts, hddIdle, hbeq]

theorem Machine.umounted_same (hresult : 0 ≤ console.lib (.fileXioUmount mountpoint) s.trace) :
    mounted mountpoint (s.umounted console mountpoint).trace = false := by
  obtain ⟨result, closed, idle, htrace, heq⟩ := s.umounted_trace console mountpoint
  rw [← heq] at hresult
  rw [htrace]
  simp [mounted, Event.mounts, Event.unmounts, hddIdle, hresult]

end

/-! ## 2. What mounting does to the status -/

/-- The operation does not set `__mount_status`. -/
def DriverOp.keepsMountStatus : DriverOp → Prop
  | .setMountStatus _ => False
  | _ => True

section

variable {console : Console}

theorem step_mountStatus {op : DriverOp} {s : Machine} {r : op.Answer × Machine}
    (hop : op.keepsMountStatus) (h : console.step op s = some r) :
    r.2.mountStatus = s.mountStatus := by
  by_cases hassigns : op.assigns = false
  · exact (step_globals hassigns h).mountStatus
  · cases op with
    | setMountStatus status => exact hop.elim
    | setStatus | setMountString => rw [← Option.some.inj h]
    | _ => exact absurd rfl hassigns

theorem Program.Triple.keepsMountStatus {α : Type} {p : DriverM α}
    (hp : p.Within DriverOp.keepsMountStatus) (Q : Int → Prop) :
    Program.Triple console.step (fun s => Q s.mountStatus) p fun _ s => Q s.mountStatus := by
  refine Program.Triple.keeps hp fun op hop s r hs h => ?_
  rw [step_mountStatus hop h]
  exact hs

/-- A part that does not set the status, before the rest of a function. -/
theorem Program.Triple.passMountStatus {α β : Type} {p : DriverM α} {f : α → DriverM β}
    {Q : Int → Prop} {R : β → Machine → Prop} (hp : p.Within DriverOp.keepsMountStatus)
    (hf : ∀ a, Program.Triple console.step (fun s => Q s.mountStatus) (f a) R) :
    Program.Triple console.step (fun s => Q s.mountStatus) (p >>= f) R :=
  Program.Triple.bind (Program.Triple.keepsMountStatus hp Q) hf

theorem mountHddPartition_within (mountpoint blockdev : Bytes) :
    (mountHddPartition mountpoint blockdev).Within DriverOp.keepsMountStatus := by
  refine Program.Within.bind (getStatus_within.mpr trivial) fun status => ?_
  apply Program.within_ite (Program.within_pure _)
  refine Program.Within.bind (lib_within.mpr trivial) fun result => ?_
  exact Program.within_ite (Program.within_pure _) (Program.within_pure _)

/-- The status is set exactly by a mount of the current partition that succeeds. -/
def setBy (before : Int → Prop) (status mountStatus : Int) : Prop :=
  if status = HddMountStatus.ok then mountStatus = HddMountStatus.ok else before mountStatus

theorem mountPartitionOf_status (cwd : Bytes) (Q : Int → Prop) :
    Program.Triple console.step (fun s => Q s.mountStatus) (mountPartitionOf cwd)
      fun status s => setBy Q status s.mountStatus := by
  have hinfo : (getMountInfo cwd).Within DriverOp.keepsMountStatus :=
    getMountInfo_within trivial (fun _ => trivial) (fun _ => trivial) cwd
  have hlib (call : LibCall) : (lib call).Within DriverOp.keepsMountStatus := lib_within.mpr trivial
  refine Program.Triple.passMountStatus hinfo fun info => ?_
  cases info with
  | none => exact Program.Triple.ret fun s hs => hs
  | some info =>
    refine Program.Triple.passMountStatus (setMountString_within.mpr trivial) fun _ => ?_
    refine Program.Triple.passMountStatus (hlib _) fun result => ?_
    apply Program.Triple.branch
    · exact fun _ => Program.Triple.ret fun s hs => hs
    · intro _
      refine Program.Triple.passMountStatus (hlib _) fun _ => ?_
      constructor
      intro s _ r hr
      rw [← Option.some.inj hr]
      rfl

theorem mountCurrentHddPartition_status (Q : Int → Prop) :
    Program.Triple console.step (fun s => Q s.mountStatus) mountCurrentHddPartition
      fun status s => setBy Q status s.mountStatus := by
  refine Program.Triple.passMountStatus (getStatus_within.mpr trivial) fun status => ?_
  apply Program.Triple.branch
  · exact fun _ => Program.Triple.ret fun s hs => hs
  · intro _
    have hisHdd : cwdIsHdd.Within DriverOp.keepsMountStatus :=
      Program.Within.bind (getcwd_within.mpr trivial) fun _ => Program.within_pure _
    refine Program.Triple.passMountStatus hisHdd fun isHdd => ?_
    apply Program.Triple.branch
    · intro _
      refine Program.Triple.passMountStatus (getcwd_within.mpr trivial) fun cwd => ?_
      exact mountPartitionOf_status cwd Q
    · exact fun _ => Program.Triple.ret fun s hs => hs

end

/-! ## 3. Runs -/

inductive MountCall
  | mount (mountpoint blockdev : Bytes)
  | mountCurrent
  | umount (mountpoint : Bytes)
  | umountCurrent
  deriving DecidableEq, Repr

def MountCall.run : MountCall → DriverM Int
  | .mount mountpoint blockdev => mountHddPartition mountpoint blockdev
  | .mountCurrent => mountCurrentHddPartition
  | .umount mountpoint => do
    umountHddPartition mountpoint
    pure 0
  | .umountCurrent => do
    umountCurrentHddPartition
    pure 0

def runMountCalls : List MountCall → DriverM (List Int)
  | [] => pure []
  | call :: rest => do
    let status ← call.run
    let more ← runMountCalls rest
    pure (status :: more)

/-- Whether `__mount_status` is `OK` after a call that returned `status`. -/
def MountCall.knowsCurrent (before : Bool) : MountCall × Int → Bool
  | (.mount _ _, _) => before
  | (.mountCurrent, status) => before || status == HddMountStatus.ok
  | (.umount _, _) | (.umountCurrent, _) => false

/-- After a run: the last unmount, of whatever mountpoint, is followed by a mount of the current
partition that succeeded. -/
def currentKnown (before : Bool) (history : List (MountCall × Int)) : Bool :=
  history.foldl MountCall.knowsCurrent before

section

variable {console : Console}

theorem MountCall.run_status (call : MountCall) {status : Int} {s s' : Machine}
    (hrun : call.run.run console.step s = some (status, s')) :
    (s'.mountStatus == HddMountStatus.ok) =
      MountCall.knowsCurrent (s.mountStatus == HddMountStatus.ok) (call, status) := by
  cases call with
  | mount mountpoint blockdev =>
    -- only the current partition has a status
    have hkeep : Program.Triple console.step (fun t => t.mountStatus = s.mountStatus)
        (mountHddPartition mountpoint blockdev) fun _ t => t.mountStatus = s.mountStatus :=
      Program.Triple.keepsMountStatus (mountHddPartition_within mountpoint blockdev)
        (· = s.mountStatus)
    rw [show s'.mountStatus = s.mountStatus from hkeep.holds s rfl _ hrun]
    rfl
  | mountCurrent =>
    have hset : setBy (· = s.mountStatus) status s'.mountStatus :=
      (mountCurrentHddPartition_status (· = s.mountStatus)).holds s rfl _ hrun
    change _ = (_ || status == HddMountStatus.ok)
    unfold setBy at hset
    by_cases hok : status = HddMountStatus.ok
    · rw [if_pos hok] at hset
      rw [hset, hok, beq_self_eq_true, Bool.or_true]
    · rw [if_neg hok] at hset
      rw [hset, beq_eq_false_iff_ne.mpr hok, Bool.or_false]
  | umount mountpoint =>
    obtain ⟨r, hr, hs'⟩ := Option.bind_eq_some_iff.mp ((Program.run_bind ..).symm.trans hrun)
    obtain rfl := congrArg Prod.snd (Option.some.inj hs')
    exact beq_eq_false_iff_ne.mpr (umountHddPartition_status hr)
  | umountCurrent =>
    obtain ⟨r, hr, hs'⟩ := Option.bind_eq_some_iff.mp ((Program.run_bind ..).symm.trans hrun)
    obtain rfl := congrArg Prod.snd (Option.some.inj hs')
    exact beq_eq_false_iff_ne.mpr (umountHddPartition_status hr)

/-- The status after a run is a matter of its calls and what they returned. -/
theorem runMountCalls_status (calls : List MountCall) {statuses : List Int} {s s' : Machine}
    (hrun : (runMountCalls calls).run console.step s = some (statuses, s')) :
    (s'.mountStatus == HddMountStatus.ok) =
      currentKnown (s.mountStatus == HddMountStatus.ok) (calls.zip statuses) := by
  induction calls generalizing s statuses with
  | nil =>
    cases hrun
    rfl
  | cons call calls ih =>
    rw [runMountCalls, Program.run_bind] at hrun
    obtain ⟨⟨status, t⟩, hcall, hrun⟩ := Option.bind_eq_some_iff.mp hrun
    rw [Program.run_bind] at hrun
    obtain ⟨⟨more, u⟩, hmore, hrun⟩ := Option.bind_eq_some_iff.mp hrun
    cases hrun
    rw [ih hmore, call.run_status hcall]
    rfl

end

/-! ## 4. Unmounting what was mounted -/

structure Console.Mounts (console : Console) : Prop where
  mount : ∀ mountpoint blockdev past, 0 ≤ console.lib (.fileXioMount mountpoint blockdev) past
  umount : ∀ mountpoint past, 0 ≤ console.lib (.fileXioUmount mountpoint) past

/-- Between the two states `fileXioUmount` was issued for the mountpoint, which is mounted no
longer. -/
structure Unmounted (mountpoint : Bytes) (s s' : Machine) : Prop where
  issued : ∃ es result, s'.trace = es ++ s.trace ∧ .lib (.fileXioUmount mountpoint) result ∈ es
  gone : mounted mountpoint s'.trace = false

theorem Machine.umounted_unmounts {console : Console} (hgood : console.Mounts) (mountpoint : Bytes)
    (s : Machine) : Unmounted mountpoint s (s.umounted console mountpoint) := by
  obtain ⟨result, closed, idle, htrace, -⟩ := s.umounted_trace console mountpoint
  refine ⟨⟨[_, _, .lib (.fileXioUmount mountpoint) result], result, htrace, by simp⟩, ?_⟩
  exact Machine.umounted_same (hgood.umount mountpoint s.trace)

/-- After any run, a mounted partition can be unmounted exactly when `__mount_status` is still
set: when `mount_current_hdd_partition` succeeded after the last unmount. -/
theorem umountHddPartition_unmounts {console : Console} (hgood : console.Mounts)
    {calls : List MountCall} {statuses : List Int} {s₀ s : Machine}
    (hrun : (runMountCalls calls).run console.step s₀ = some (statuses, s)) {mountpoint : Bytes}
    (hmounted : mounted mountpoint s.trace = true) :
    ∃ s', (umountHddPartition mountpoint).run console.step s = some ((), s') ∧
      (Unmounted mountpoint s s' ↔
        currentKnown (s₀.mountStatus == HddMountStatus.ok) (calls.zip statuses) = true) := by
  refine ⟨_, umountHddPartition_run console mountpoint s, ?_⟩
  rw [← runMountCalls_status calls hrun, beq_iff_eq]
  by_cases hok : s.mountStatus = HddMountStatus.ok
  · rw [if_pos hok]
    exact iff_of_true (Machine.umounted_unmounts hgood mountpoint s) hok
  · rw [if_neg hok]
    refine iff_of_false (fun h => ?_) hok
    rw [h.gone] at hmounted
    cases hmounted

def Console.mounting : Console where
  flavor := .embedded fun _ => []
  exec _ _ := (7, 0)
  unload _ _ := 0
  lib call _ :=
    match call with
    | .malloc _ | .strdup _ => 1
    | _ => 0
  cop2Pipelined := true
  patience := 1

theorem Console.mounting_mounts : Console.mounting.Mounts :=
  ⟨fun _ _ _ => Int.le_refl 0, fun _ _ => Int.le_refl 0⟩

/-- The HDD driver is initialised, and one call mounts `pfs:`. -/
structure MountsPfs (call : MountCall) (s₀ s : Machine) : Prop where
  init : (initHddDriver true false).run Console.mounting.step
    (Machine.initial hddAppPath World.initial) = some (HddInitStatus.irxOk, s₀)
  ready : s₀.status .hdd = HddInitStatus.irxOk
  unknown : s₀.mountStatus = HddMountStatus.unknown
  run : (runMountCalls [call]).run Console.mounting.step s₀ = some ([HddMountStatus.ok], s)
  string : s.mountString = if call = .mountCurrent then lit "pfs:" else []
  mounted : mounted (lit "pfs:") s.trace = true

theorem mountsPfs {call : MountCall}
    (h : call = .mountCurrent ∨ call = .mount (lit "pfs:") (lit "hdd0:__common")) :
    ∃ s₀ s, MountsPfs call s₀ s := by
  have hrun : ((initHddDriver true false).run Console.mounting.step
      (Machine.initial hddAppPath World.initial)).bind (fun r =>
        ((runMountCalls [call]).run Console.mounting.step r.2).map fun r' =>
          decide (r.1 = HddInitStatus.irxOk ∧ r.2.status .hdd = HddInitStatus.irxOk ∧
            r.2.mountStatus = HddMountStatus.unknown ∧ r'.1 = [HddMountStatus.ok] ∧
            r'.2.mountString = (if call = .mountCurrent then lit "pfs:" else []) ∧
            mounted (lit "pfs:") r'.2.trace = true)) = some true := by
    rcases h with rfl | rfl <;> decide +kernel
  obtain ⟨⟨status, s₀⟩, hinit, hrun⟩ := Option.bind_eq_some_iff.mp hrun
  obtain ⟨⟨statuses, s⟩, hcalls, hrun⟩ := Option.map_eq_some_iff.mp hrun
  obtain ⟨rfl, hready, hunknown, rfl, hstring, hmounted⟩ := of_decide_eq_true hrun
  exact ⟨s₀, s, hinit, hready, hunknown, hcalls, hstring, hmounted⟩

theorem umountHddPartition_unmounts_current :
    ∃ s₀ s s', MountsPfs .mountCurrent s₀ s ∧
      (umountHddPartition (lit "pfs:")).run Console.mounting.step s = some ((), s') ∧
      Unmounted (lit "pfs:") s s' := by
  obtain ⟨s₀, s, h⟩ := mountsPfs (Or.inl rfl)
  obtain ⟨s', hrun, hiff⟩ := umountHddPartition_unmounts Console.mounting_mounts h.run h.mounted
  refine ⟨s₀, s, s', h, hrun, hiff.mpr ?_⟩
  rw [h.unknown]
  decide

/-- A partition that `mount_hdd_partition` mounted stays mounted. -/
theorem umountHddPartition_leaves_mounted :
    ¬ ∀ (console : Console) (calls : List MountCall) (statuses : List Int) (s₀ s s' : Machine)
        (mountpoint : Bytes), console.Mounts → s₀.status .hdd = HddInitStatus.irxOk →
      (runMountCalls calls).run console.step s₀ = some (statuses, s) →
      mounted mountpoint s.trace = true →
      (umountHddPartition mountpoint).run console.step s = some ((), s') →
      Unmounted mountpoint s s' := by
  intro h
  obtain ⟨s₀, s, hs⟩ := mountsPfs (Or.inr (Eq.refl (MountCall.mount _ _)))
  have hnotOk : ¬ s.mountStatus = HddMountStatus.ok := by
    rw [← beq_iff_eq, runMountCalls_status _ hs.run, hs.unknown]
    decide
  have hrun := umountHddPartition_run Console.mounting (lit "pfs:") s
  rw [if_neg hnotOk] at hrun
  have hgone := (h _ _ _ s₀ s s (lit "pfs:") Console.mounting_mounts hs.ready hs.run hs.mounted
    hrun).gone
  rw [hs.mounted] at hgone
  cases hgone

/-! ## 5. Unmounting another partition -/

/-- `mount_current_hdd_partition` has succeeded with the mount string, which has not been unmounted
since, whatever else was done. -/
inductive CurrentPartition (console : Console) (mountString : Bytes) (s : Machine) : Prop
  | intro {α : Type} {p : DriverM α} {a : α} {s₀ s₁ : Machine}
      (hmount : mountCurrentHddPartition.run console.step s₀ = some (HddMountStatus.ok, s₁))
      (hstring : s₁.mountString = mountString) (hrun : p.run console.step s₁ = some (a, s))
      (hmounted : mounted mountString s.trace = true)

/-- From `s` to `s'` the globals of the current partition stayed, and both a later
`umount_current_hdd_partition` and `deinit_ps2_filesystem_driver` issue `fileXioUmount` for it. -/
structure KeepsCurrent (console : Console) (mountString : Bytes) (s s' : Machine) : Prop where
  status : s'.mountStatus = s.mountStatus
  string : s'.mountString = s.mountString
  umounts : ∃ t, Program.Reaches console.step (.lib (.fileXioUmount mountString)) t
    umountCurrentHddPartition s'
  deinit : ∃ t, Program.Reaches console.step (.lib (.fileXioUmount mountString)) t
    deinitPs2FilesystemDriver s'

section

variable {console : Console} {mountString mountpoint : Bytes}

/-- Without the status, unmounting calls nothing. -/
theorem umountCurrentHddPartition_idle :
    Program.Safe console.step (fun s => s.mountStatus ≠ HddMountStatus.ok)
      umountCurrentHddPartition fun op _ => ∀ call, op ≠ .lib call := by
  have hstring : Program.Triple console.step (fun s => s.mountStatus ≠ HddMountStatus.ok)
      getMountString fun _ s => s.mountStatus ≠ HddMountStatus.ok :=
    Program.Triple.keepsMountStatus (getMountString_within.mpr trivial) (· ≠ HddMountStatus.ok)
  have hstatus : Program.Triple console.step (fun s => s.mountStatus ≠ HddMountStatus.ok)
      getMountStatus fun status _ => status ≠ HddMountStatus.ok :=
    Program.Triple.of_run (getMountStatus_run console) fun s hs => hs
  refine Program.Safe.bind (.request fun _ _ => nofun) hstring fun mountpoint => ?_
  refine Program.Safe.bind (.request fun _ _ => nofun) hstatus fun status => ?_
  apply Program.Safe.branch
  · intro hok
    exact ⟨fun _ hne => absurd hok hne⟩
  · exact fun _ => .ret _

theorem umountCurrentHddPartition_skips {s : Machine} (h : s.mountStatus ≠ HddMountStatus.ok) :
    umountCurrentHddPartition.run console.step s = some ((), s) := by
  rw [umountCurrentHddPartition_run, umountHddPartition_run, if_neg h]

/-- The teardown does not find a partition that the globals do not know of. -/
theorem deinitPs2FilesystemDriver_leaves_mounted {s s' : Machine}
    (hstatus : s.mountStatus ≠ HddMountStatus.ok) (hmounted : mounted mountString s.trace = true)
    (hrun : deinitPs2FilesystemDriver.run console.step s = some ((), s')) :
    mounted mountString s'.trace = true := by
  rw [deinitPs2FilesystemDriver, Program.run_bind, umountCurrentHddPartition_skips hstatus,
    Option.bind_some] at hrun
  have hfiles := internalDeinitPs2FilesystemDriver_within true DriverOp.tearsDown.keepsFiles
    DriverOp.bringsUp.keepsFiles
  refine (Program.Triple.keepsFiles (P := fun s => mounted mountString s.trace = true) hfiles
    fun t t' h ht => ?_).holds s hmounted ((), s') hrun
  rw [h.mounted]
  exact ht

/-- Unmounting any other mountpoint loses the current partition: it stays mounted, and neither a
later unmount nor the teardown of the filesystem driver finds it. -/
theorem umountHddPartition_loses_current {s : Machine}
    (hcurrent : CurrentPartition console mountString s) (hne : mountpoint ≠ mountString) :
    ∃ s', (umountHddPartition mountpoint).run console.step s = some ((), s') ∧
      ¬ KeepsCurrent console mountString s s' ∧
      umountCurrentHddPartition.run console.step s' = some ((), s') ∧
      mounted mountString s'.trace = true ∧
      ∀ s'', deinitPs2FilesystemDriver.run console.step s' = some ((), s'') →
        mounted mountString s''.trace = true := by
  obtain ⟨-, -, -, hmounted⟩ := hcurrent
  have hrun := umountHddPartition_run console mountpoint s
  generalize hs' : (if s.mountStatus = HddMountStatus.ok then s.umounted console mountpoint
    else s) = s' at hrun
  have hstatus : s'.mountStatus ≠ HddMountStatus.ok := umountHddPartition_status hrun
  have hmounted' : mounted mountString s'.trace = true := by
    rw [← hs']
    split
    · rw [Machine.umounted_other hne]
      exact hmounted
    · exact hmounted
  refine ⟨s', hrun, fun hkeeps => ?_, umountCurrentHddPartition_skips hstatus, hmounted',
    fun s'' hdeinit => deinitPs2FilesystemDriver_leaves_mounted hstatus hmounted' hdeinit⟩
  -- what a later unmount would have to call, it does not reach
  obtain ⟨t, hreaches⟩ := hkeeps.umounts
  exact umountCurrentHddPartition_idle.holds s' hstatus _ t hreaches _ rfl

end

theorem mountedCurrent : ∃ s, CurrentPartition Console.mounting (lit "pfs:") s ∧
    s.mountStatus = HddMountStatus.ok := by
  obtain ⟨s₀, s, h⟩ := mountsPfs (Or.inl rfl)
  have hstatus : s.mountStatus = HddMountStatus.ok := by
    rw [← beq_iff_eq, runMountCalls_status _ h.run, h.unknown]
    decide
  have hrun := h.run
  rw [runMountCalls, Program.run_bind] at hrun
  obtain ⟨⟨status, t⟩, hcall, hrun⟩ := Option.bind_eq_some_iff.mp hrun
  have hresult : ([status], t) = ([HddMountStatus.ok], s) := Option.some.inj hrun
  obtain ⟨hok, rfl⟩ := Prod.mk.inj hresult
  rw [List.singleton_inj.mp hok] at hcall
  have hidle : (pure () : DriverM Unit).run Console.mounting.step t = some ((), t) := rfl
  exact ⟨t, .intro hcall h.string hidle h.mounted, hstatus⟩

theorem umountHddPartition_loses_current_other :
    ∃ s s', CurrentPartition Console.mounting (lit "pfs:") s ∧
      (umountHddPartition (lit "pfs1:")).run Console.mounting.step s = some ((), s') ∧
      ¬ KeepsCurrent Console.mounting (lit "pfs:") s s' := by
  obtain ⟨s, hcurrent, -⟩ := mountedCurrent
  have hne : lit "pfs1:" ≠ lit "pfs:" := by decide
  obtain ⟨s', hrun, hloses, -⟩ := umountHddPartition_loses_current hcurrent hne
  exact ⟨s, s', hcurrent, hrun, hloses⟩

/-- Unmounting `pfs1:` takes away the status of `pfs:`. -/
theorem umountHddPartition_clears_current :
    ¬ ∀ (console : Console) (mountString mountpoint : Bytes) (s s' : Machine),
        CurrentPartition console mountString s → mountpoint ≠ mountString →
        (umountHddPartition mountpoint).run console.step s = some ((), s') →
        KeepsCurrent console mountString s s' := by
  intro h
  obtain ⟨s, hcurrent, hok⟩ := mountedCurrent
  have hrun := umountHddPartition_run Console.mounting (lit "pfs1:") s
  have hkeeps := h _ _ _ s _ hcurrent (by decide) hrun
  exact umountHddPartition_status hrun (hkeeps.status.trans hok)

end Ps2Drivers
