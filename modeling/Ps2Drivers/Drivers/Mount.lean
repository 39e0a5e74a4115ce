import Ps2Drivers.Drivers.Frame

/-!
# Mounting

What the trace says about mounted partitions, which operations mounting, unmounting and waiting
consist of, and which leave the mounts, the working directory and the mount globals alone.
-/

open Binary CString

namespace Ps2Drivers

/-! ## 1. What the trace says -/

def Event.mounts (mountpoint : Bytes) : Event → Bool
  | .lib (.fileXioMount mountpoint' _) result => mountpoint' == mountpoint && decide (0 ≤ result)
  | _ => false

def Event.unmounts (mountpoint : Bytes) : Event → Bool
  | .lib (.fileXioUmount mountpoint') result => mountpoint' == mountpoint && decide (0 ≤ result)
  | _ => false

/-- The mountpoint was mounted and has not been unmounted since. -/
def mounted (mountpoint : Bytes) : List Event → Bool
  | [] => false
  | e :: rest => e.mounts mountpoint || (!e.unmounts mountpoint && mounted mountpoint rest)

/-- The two machines agree on the mounts, the working directory and the mount globals. -/
structure SameFiles (s s' : Machine) : Prop where
  mountString : s'.mountString = s.mountString
  mountStatus : s'.mountStatus = s.mountStatus
  cwd : s'.cwd = s.cwd
  mounted : ∀ mountpoint, mounted mountpoint s'.trace = mounted mountpoint s.trace

theorem SameFiles.refl (s : Machine) : SameFiles s s := ⟨rfl, rfl, rfl, fun _ => rfl⟩

theorem SameFiles.trans {s t u : Machine} (h : SameFiles s t) (h' : SameFiles t u) :
    SameFiles s u where
  mountString := h'.mountString.trans h.mountString
  mountStatus := h'.mountStatus.trans h.mountStatus
  cwd := h'.cwd.trans h.cwd
  mounted mountpoint := (h'.mounted mountpoint).trans (h.mounted mountpoint)

/-! ## 2. Operations that leave the files alone -/

def DriverOp.keepsFiles : DriverOp → Prop
  | .lib call => call.leavesFiles = true
  | .untilOk call => call.leavesFiles = true
  | .setMountStatus _ | .setMountString _ => False
  | _ => True

namespace DriverOp

theorem bringsUp.keepsFiles {ms : List Irx} (op : DriverOp) (h : op.bringsUp ms) :
    op.keepsFiles := by
  cases op with
  | lib call => exact h
  | untilOk call => exact h.elim
  | setMountStatus status => exact h
  | setMountString mountString => exact h
  | _ => trivial

theorem tearsDown.keepsFiles {down : List Irx} (op : DriverOp) (h : op.tearsDown down) :
    op.keepsFiles := by
  cases op with
  | lib call => exact h
  | untilOk call =>
    rw [show call = dev9Off from h]
    rfl
  | setMountStatus status => exact h
  | setMountString mountString => exact h
  | _ => trivial

end DriverOp

section

variable {console : Console} {s : Machine}

theorem Machine.lib_trace (call : LibCall) :
    (s.lib console call).2.trace = .lib call (s.lib console call).1 :: s.trace := by
  unfold Machine.lib
  cases call <;> dsimp only
  case chdir path => split <;> rfl
  all_goals rfl

theorem Machine.lib_sameFiles {call : LibCall} (hcall : call.leavesFiles = true) :
    SameFiles s (s.lib console call).2 := by
  have hmounted (mountpoint : Bytes) :
      mounted mountpoint (s.lib console call).2.trace = mounted mountpoint s.trace := by
    rw [Machine.lib_trace, mounted]
    cases call <;> first | rfl | cases hcall
  cases call
  case chdir => cases hcall
  all_goals exact ⟨rfl, rfl, rfl, hmounted⟩

theorem Machine.untilOk_sameFiles {call : LibCall} (hcall : call.leavesFiles = true) (n : Nat)
    {s' : Machine} (h : s.untilOk console call n = some s') : SameFiles s s' := by
  induction n generalizing s with
  | zero => cases h
  | succ n ih =>
    have hfirst : SameFiles s (s.lib console call).2 := Machine.lib_sameFiles hcall
    unfold Machine.untilOk at h
    dsimp only at h
    split at h
    · exact hfirst.trans (ih h)
    · rw [← Option.some.inj h]
      exact hfirst

theorem Machine.loadIrx_sameFiles (m : Irx) (args : Option Bytes) :
    SameFiles s (s.loadIrx console m args).2 := by
  rw [Machine.loadIrx_eq]
  split
  · split <;> exact ⟨rfl, rfl, rfl, fun _ => rfl⟩
  · exact .refl s

theorem Machine.unloadIrx_sameFiles (m : Irx) : SameFiles s (s.unloadIrx console m) := by
  unfold Machine.unloadIrx
  split <;> exact ⟨rfl, rfl, rfl, fun _ => rfl⟩

theorem step_sameFiles {op : DriverOp} {r : op.Answer × Machine} (hop : op.keepsFiles)
    (h : console.step op s = some r) : SameFiles s r.2 := by
  cases op with
  | loadIrx m args =>
    rw [← Option.some.inj h]
    exact Machine.loadIrx_sameFiles m args
  | unloadIrx m =>
    rw [← Option.some.inj h]
    exact Machine.unloadIrx_sameFiles m
  | lib call =>
    rw [← Option.some.inj h]
    exact Machine.lib_sameFiles hop
  | untilOk call =>
    obtain ⟨s', hs', hr⟩ := Option.map_eq_some_iff.mp h
    rw [← hr]
    exact Machine.untilOk_sameFiles hop _ hs'
  | abort => cases h
  | setMountStatus | setMountString => exact hop.elim
  | _ =>
    rw [← Option.some.inj h]
    exact ⟨rfl, rfl, rfl, fun _ => rfl⟩

/-- What depends on the files only is kept by a program that leaves them alone. -/
theorem Program.Triple.keepsFiles {α : Type} {p : DriverM α} {P : Machine → Prop}
    (hp : p.Within DriverOp.keepsFiles) (hP : ∀ s s', SameFiles s s' → P s → P s') :
    Program.Triple console.step P p fun _ => P :=
  Program.Triple.keeps hp fun _ hop _ _ hs hstep => hP _ _ (step_sameFiles hop hstep) hs

end

/-! ## 3. The operations of mounting and waiting -/

def DriverOp.handlesFiles : DriverOp → Prop
  | .loadIrx _ _ | .unloadIrx _ | .untilOk _ | .setStatus _ _ => False
  | _ => True

namespace DriverOp

variable {op : DriverOp}

theorem handlesFiles.spares (m : Irx) (op : DriverOp) (h : op.handlesFiles) : op.spares m := by
  cases op <;> first | exact h.elim | trivial

theorem handlesFiles.comesBack (op : DriverOp) (h : op.handlesFiles) (hne : op ≠ .abort) :
    op.comesBack := by
  cases op <;> first | exact h.elim | exact absurd rfl hne | trivial

theorem handlesFiles.loadsIn (ms : List Irx) (op : DriverOp) (h : op.handlesFiles) :
    op.loadsIn ms := by
  cases op <;> first | exact h.elim | trivial

theorem handlesFiles.leaves (ms : List Irx) (op : DriverOp) (h : op.handlesFiles) :
    op.leaves ms := by
  cases op <;> first | exact h.elim | trivial

end DriverOp

section

variable {A : DriverOp → Prop}

theorem assertThat_within (habort : A .abort) (condition : Bool) :
    (assertThat condition).Within A := by
  unfold assertThat
  split
  · exact Program.within_pure _
  · exact ⟨habort, fun answer => nomatch answer⟩

theorem statUntilReady_within (hstat : ∀ path, A (.lib (.stat path))) (path : Bytes)
    (retries : Nat) : (statUntilReady path retries).Within A := by
  induction retries with
  | zero => exact Program.within_pure _
  | succ retries ih =>
    refine Program.Within.bind (lib_within.mpr (hstat path)) fun result => ?_
    exact Program.within_ite (Program.within_pure _) ih

theorem waitUntilDeviceIsReady_within (hstat : ∀ path, A (.lib (.stat path))) (path : Bytes) :
    (waitUntilDeviceIsReady path).Within A := statUntilReady_within hstat path _

theorem storeTokens_within (habort : A .abort) (hstrdup : ∀ text, A (.lib (.strdup text)))
    (count : Nat) (idx : Nat) (ts : List Bytes) : (storeTokens count idx ts).Within A := by
  induction ts generalizing idx with
  | nil => exact Program.Within.bind (assertThat_within habort _) fun _ => Program.within_pure _
  | cons token rest ih =>
    refine Program.Within.bind (assertThat_within habort _) fun _ => ?_
    refine Program.Within.bind (lib_within.mpr (hstrdup _)) fun copy => ?_
    exact Program.Within.bind (ih (idx + 1)) fun more => Program.within_pure _

theorem getMountInfo_within (habort : A .abort) (hmalloc : ∀ size, A (.lib (.malloc size)))
    (hstrdup : ∀ text, A (.lib (.strdup text))) (path : Bytes) : (getMountInfo path).Within A := by
  refine Program.Within.bind ?_ fun split => Program.within_pure _
  refine Program.Within.bind (lib_within.mpr (hmalloc _)) fun result => ?_
  apply Program.within_ite
  · refine Program.Within.bind (storeTokens_within habort hstrdup _ _ _) fun items => ?_
    exact Program.within_pure _
  · exact Program.within_pure _

theorem mountPartitionOf_within {cwd : Bytes} (hinfo : (getMountInfo cwd).Within A)
    (hA : ∀ op : DriverOp, op.handlesFiles → op ≠ .abort → A op) :
    (mountPartitionOf cwd).Within A := by
  have hlib (call : LibCall) : (lib call).Within A := lib_within.mpr (hA _ trivial nofun)
  refine Program.Within.bind hinfo fun info => ?_
  cases info with
  | none => exact Program.within_pure _
  | some info =>
    refine Program.Within.bind (setMountString_within.mpr (hA _ trivial nofun)) fun _ => ?_
    refine Program.Within.bind (hlib _) fun result => ?_
    apply Program.within_ite (Program.within_pure _)
    refine Program.Within.bind (hlib _) fun _ => ?_
    exact Program.Within.bind (setMountStatus_within.mpr (hA _ trivial nofun)) fun _ =>
      Program.within_pure _

theorem mountCurrentHddPartition_within :
    mountCurrentHddPartition.Within DriverOp.handlesFiles := by
  refine Program.Within.bind (getStatus_within.mpr trivial) fun status => ?_
  apply Program.within_ite (Program.within_pure _)
  refine Program.Within.bind ?_ fun isHdd => ?_
  · exact Program.Within.bind (getcwd_within.mpr trivial) fun _ => Program.within_pure _
  · apply Program.within_ite _ (Program.within_pure _)
    refine Program.Within.bind (getcwd_within.mpr trivial) fun cwd => ?_
    have hinfo : (getMountInfo cwd).Within DriverOp.handlesFiles :=
      getMountInfo_within trivial (fun _ => trivial) (fun _ => trivial) cwd
    exact mountPartitionOf_within hinfo fun _ hop _ => hop

theorem umountCurrentHddPartition_within
    (hA : ∀ op : DriverOp, op.handlesFiles → op ≠ .abort → A op) :
    umountCurrentHddPartition.Within A := by
  have hlib (call : LibCall) : (lib call).Within A := lib_within.mpr (hA _ trivial nofun)
  refine Program.Within.bind (getMountString_within.mpr (hA _ trivial nofun)) fun mountString => ?_
  refine Program.Within.bind (getMountStatus_within.mpr (hA _ trivial nofun)) fun status => ?_
  apply Program.within_ite _ (Program.within_pure _)
  refine Program.Within.bind (hlib _) fun _ => ?_
  refine Program.Within.bind (hlib _) fun _ => ?_
  refine Program.Within.bind (hlib _) fun _ => ?_
  refine Program.Within.bind (setMountStatus_within.mpr (hA _ trivial nofun)) fun _ => ?_
  exact setMountString_within.mpr (hA _ trivial nofun)

theorem mountAndWait_within : mountAndWait.Within DriverOp.handlesFiles := by
  refine Program.Within.bind mountCurrentHddPartition_within fun _ => ?_
  refine Program.Within.bind (getcwd_within.mpr trivial) fun cwd => ?_
  exact Program.Within.bind (waitUntilDeviceIsReady_within (fun _ => trivial) cwd) fun _ =>
    Program.within_pure _

end

/-! ## 4. When mounting comes back -/

/-- `str_split` finds as many tokens as it has counted, so its assertions hold. -/
def splitsEvenly (path : Bytes) : Prop :=
  (tokens colon path.length path).length + 1 = splitCount colon path

instance (path : Bytes) : Decidable (splitsEvenly path) :=
  inferInstanceAs (Decidable (_ = _))

/-- What `__cwd_is_hdd` tests. -/
def hddPath (cwd : Bytes) : Bool := hasPrefix (lit "hdd:") cwd || hasPrefix (lit "hdd0:") cwd

/-- The working directory is not on the HDD, or splits evenly. -/
def mountable (cwd : Bytes) : Prop := hddPath cwd = true → splitsEvenly cwd

instance (cwd : Bytes) : Decidable (mountable cwd) := inferInstanceAs (Decidable (_ → _))

def hddAppPath : Bytes := lit "hdd0:__common:pfs:/APP"

@[simp] theorem cwdIsHdd_run (console : Console) (s : Machine) :
    cwdIsHdd.run console.step s = some (hddPath s.cwd, s) := rfl

/-- `__cwd_is_hdd` and `getBootDeviceID` agree on the devices of the HDD. -/
theorem hddPath_iff (cwd : Bytes) : hddPath cwd = true ↔
    getBootDeviceID (some cwd) = .hdd ∨ getBootDeviceID (some cwd) = .hdd0 := by
  rw [getBootDeviceID_eq_iff (by decide), getBootDeviceID_eq_iff (by decide), hddPath,
    Bool.or_eq_true]
  exact or_congr List.isPrefixOf_iff_prefix List.isPrefixOf_iff_prefix

/-- A path is classified by its prefix, whatever the order of the tests, and the HDD driver
classifies the working directory alike. -/
theorem getBootDeviceID_exact :
    (∀ (path : Bytes) (d : BootDevice), d ≠ .unknown →
      (getBootDeviceID (some path) = d ↔ d.devicePrefix <+: path)) ∧
    (∀ path : Bytes, getBootDeviceID (some path) = .unknown ↔
      ∀ d ∈ bootDevices, ¬ d.devicePrefix <+: path) ∧
    (∀ (devices : List BootDevice) (path : Option Bytes), devices.Perm bootDevices →
      firstDevice devices path = getBootDeviceID path) ∧
    (∀ (d : BootDevice) (suffix : Bytes), d ≠ .unknown →
      getBootDeviceID (some (rootDevicePath d ++ suffix)) = d) ∧
    (∀ (console : Console) (s : Machine), ∃ isHdd, cwdIsHdd.run console.step s = some (isHdd, s) ∧
      (isHdd = true ↔
        getBootDeviceID (some s.cwd) = .hdd ∨ getBootDeviceID (some s.cwd) = .hdd0)) := by
  refine ⟨fun path d hd => ?_, fun path => getBootDeviceID_unknown_iff,
    fun devices path hperm => firstDevice_perm hperm path, fun d suffix hd => ?_,
    fun console s => ?_⟩
  · exact getBootDeviceID_eq_iff ((mem_bootDevices d).mpr hd)
  · exact getBootDeviceID_rootDevicePath ((mem_bootDevices d).mpr hd) suffix
  · exact ⟨hddPath s.cwd, cwdIsHdd_run console s, hddPath_iff s.cwd⟩

theorem assertThat_returns : (assertThat true).Within DriverOp.comesBack := Program.within_pure ()

theorem storeTokens_returns {count : Nat} {ts : List Bytes} {idx : Nat}
    (h : idx + ts.length + 1 = count) : (storeTokens count idx ts).Within DriverOp.comesBack := by
  induction ts generalizing idx with
  | nil =>
    have hlast : (idx == count - 1) = true := beq_iff_eq.mpr (by rw [← h]; rfl)
    rw [storeTokens, hlast]
    exact Program.Within.bind assertThat_returns fun _ => Program.within_pure _
  | cons token rest ih =>
    rw [List.length_cons] at h
    have hlt : decide (idx < count) = true := decide_eq_true (by omega)
    rw [storeTokens, hlt]
    refine Program.Within.bind assertThat_returns fun _ => ?_
    refine Program.Within.bind (lib_within.mpr trivial) fun copy => ?_
    exact Program.Within.bind (ih (by omega)) fun more => Program.within_pure _

theorem strSplit_returns {path : Bytes} (h : splitsEvenly path) :
    (strSplit path colon).Within DriverOp.comesBack := by
  refine Program.Within.bind (lib_within.mpr trivial) fun result => ?_
  apply Program.within_ite _ (Program.within_pure _)
  refine Program.Within.bind (storeTokens_returns ?_) fun items => Program.within_pure _
  rw [Nat.zero_add]
  exact h

theorem mountPartitionOf_returns {cwd : Bytes} (h : splitsEvenly cwd) :
    (mountPartitionOf cwd).Within DriverOp.comesBack := by
  apply mountPartitionOf_within
  · exact Program.Within.bind (strSplit_returns h) fun split => Program.within_pure _
  · exact DriverOp.handlesFiles.comesBack

/-- Mounting comes back from a working directory that splits evenly. -/
theorem mountCurrentHddPartition_returns (console : Console) :
    Program.Safe console.step (fun s => mountable s.cwd) mountCurrentHddPartition fun op _ =>
      op.comesBack := by
  have hget : getcwd.Within DriverOp.comesBack := getcwd_within.mpr trivial
  have hisHdd : Program.Triple console.step (fun s => mountable s.cwd) cwdIsHdd fun isHdd s =>
      isHdd = true → splitsEvenly s.cwd :=
    Program.Triple.of_run (cwdIsHdd_run console) fun s hs => hs
  have hcwd : Program.Triple console.step (fun s => splitsEvenly s.cwd) getcwd fun cwd _ =>
      splitsEvenly cwd :=
    Program.Triple.of_run (getcwd_run console) fun s hs => hs
  refine Program.Safe.bind (.of_within (getStatus_within.mpr trivial))
    (Program.Triple.keepsFiles (getStatus_within.mpr trivial) fun s s' h hs => h.cwd ▸ hs)
    fun status => ?_
  apply Program.Safe.branch
  · exact fun _ => .ret _
  · intro _
    refine Program.Safe.bind (.of_within ?_) hisHdd fun isHdd => ?_
    · exact Program.Within.bind hget fun _ => Program.within_pure _
    · apply Program.Safe.branch
      · -- a working directory on the HDD splits evenly, and nothing changes it up to the split
        intro hhdd
        refine Program.Safe.bind (.of_within hget)
          (hcwd.imp (fun _ hs => hs hhdd) fun _ _ hs => hs) fun cwd => ?_
        constructor
        intro s hs
        exact (Program.Safe.of_within (P := fun _ => True) (mountPartitionOf_returns hs)).holds s
          trivial
      · exact fun _ => .ret _

theorem mountAndWait_returns (console : Console) :
    Program.Safe console.step (fun s => mountable s.cwd) mountAndWait fun op _ =>
      op.comesBack := by
  refine Program.Safe.bind (Q := fun _ _ => True) (mountCurrentHddPartition_returns console)
    ⟨fun _ _ _ _ => trivial⟩ fun status => .of_within ?_
  refine Program.Within.bind (getcwd_within.mpr trivial) fun cwd => ?_
  exact Program.Within.bind (waitUntilDeviceIsReady_within (fun _ => trivial) cwd) fun _ =>
    Program.within_pure _

end Ps2Drivers
