import Ps2Drivers.Drivers.BootUndo

/-!
# Switching DEV9 off

`deinit_dev9_driver` asks the device to switch off until the call succeeds.  The call needs the
fileXio client and the module of dev9, so whether the loop is ever left depends on what was torn
down before.
-/

open Binary CString

namespace Ps2Drivers

/-! ## 1. When the device answers -/

/-- The fileXio client was initialised and has not been shut down since. -/
def fileXioUp : List Event → Bool
  | [] => false
  | .lib .fileXioInit result :: rest => decide (0 ≤ result) || fileXioUp rest
  | .lib .fileXioExit _ :: _ => false
  | _ :: rest => fileXioUp rest

/-- A `fileXioDevctl` goes through to the device. -/
def devctlAnswers (trace : List Event) : Bool := fileXioUp trace && loaded .ps2dev9 trace

/-- `fileXioDevctl` fails exactly when fileXio or the module of dev9 is missing. -/
def Console.AnswersDevctl (console : Console) : Prop :=
  ∀ path command past,
    0 ≤ console.lib (.fileXioDevctl path command) past ↔ devctlAnswers past = true

/-- Asking changes nothing, so the loop is left with the first call or never. -/
theorem untilOk_dev9Off_iff {console : Console} (hdevctl : console.AnswersDevctl) (s : Machine) :
    (∃ n s', s.untilOk console dev9Off n = some s') ↔ devctlAnswers s.trace = true := by
  have hresult (t : Machine) :
      ¬ (t.lib console dev9Off).1 < 0 ↔ devctlAnswers t.trace = true := by
    rw [Machine.lib_fst, Int.not_lt]
    exact hdevctl _ _ _
  apply Iff.intro
  · rintro ⟨n, s', hn⟩
    induction n generalizing s with
    | zero => cases hn
    | succ n ih =>
      rw [Machine.untilOk_succ] at hn
      by_cases hfail : (s.lib console dev9Off).1 < 0
      · -- a failed call leaves the answer of the next one as it is
        have hnext : devctlAnswers (s.lib console dev9Off).2.trace = devctlAnswers s.trace := rfl
        rw [if_pos hfail] at hn
        rw [← hnext]
        exact ih _ hn
      · exact (hresult s).mp hfail
  · intro hanswers
    refine ⟨1, (s.lib console dev9Off).2, ?_⟩
    rw [Machine.untilOk_succ]
    exact if_neg ((hresult s).mpr hanswers)

/-! ## 2. Operations that do not matter -/

/-- The operation touches neither the status of dev9, nor its module, nor the client. -/
def DriverOp.sparesDev9 : DriverOp → Prop
  | .loadIrx m _ => m ≠ .ps2dev9
  | .unloadIrx m => m ≠ .ps2dev9
  | .lib call => call ≠ .fileXioInit ∧ call ≠ .fileXioExit
  | .setStatus d _ => d ≠ .dev9
  | .untilOk _ | .abort => False
  | _ => True

def DriverOp.keepsDev9Status : DriverOp → Prop
  | .setStatus d _ => d ≠ .dev9
  | .untilOk _ | .abort => False
  | _ => True

/-- The loop of dev9 is entered only while the device answers. -/
def entersAnswered (op : DriverOp) (s : Machine) : Prop :=
  op = .untilOk dev9Off → devctlAnswers s.trace = true

/-- The loop of dev9 is entered while the device does not answer. -/
def entersUnanswered (op : DriverOp) (s : Machine) : Prop :=
  op = .untilOk dev9Off ∧ devctlAnswers s.trace = false

/-- As far as the status goes, the device is on; then it answers. -/
def Machine.offReady (s : Machine) : Prop :=
  s.status .dev9 = Dev9InitStatus.ok → devctlAnswers s.trace = true

namespace DriverOp

theorem comesBack.answered (op : DriverOp) (h : op.comesBack) (s : Machine) :
    entersAnswered op s := by
  intro heq
  rw [heq] at h
  exact h.elim

theorem sparesDev9.comesBack (op : DriverOp) (h : op.sparesDev9) : op.comesBack := by
  cases op <;> first | exact h.elim | trivial

theorem sparesDev9.keepsDev9Status (op : DriverOp) (h : op.sparesDev9) : op.keepsDev9Status := by
  cases op <;> first | exact h | trivial

theorem keepsDev9Status.comesBack (op : DriverOp) (h : op.keepsDev9Status) : op.comesBack := by
  cases op <;> first | exact h.elim | trivial

theorem handlesFiles.answered (op : DriverOp) (h : op.handlesFiles) (s : Machine) :
    entersAnswered op s := by
  intro heq
  rw [heq] at h
  exact h.elim

end DriverOp

/-! ## 3. What the others leave alone -/

section

variable {console : Console}

theorem devctlAnswers_exec {m : Irx} (hm : m ≠ .ps2dev9) (call : SifExec) (result : Int × Int)
    (trace : List Event) :
    devctlAnswers (.exec m call result :: trace) = devctlAnswers trace := by
  have hne : (m == .ps2dev9) = false := beq_eq_false_iff_ne.mpr hm
  simp [devctlAnswers, fileXioUp, loaded, Event.starts, Event.isUnload, hne]

theorem devctlAnswers_unload {m : Irx} (hm : m ≠ .ps2dev9) (id result : Int)
    (trace : List Event) :
    devctlAnswers (.unload m id result :: trace) = devctlAnswers trace := by
  have hne : (m == .ps2dev9) = false := beq_eq_false_iff_ne.mpr hm
  simp [devctlAnswers, fileXioUp, loaded, Event.starts, Event.isUnload, hne]

theorem devctlAnswers_lib {call : LibCall} (hinit : call ≠ .fileXioInit)
    (hexit : call ≠ .fileXioExit) (result : Int) (trace : List Event) :
    devctlAnswers (.lib call result :: trace) = devctlAnswers trace := by
  cases call <;> first | rfl | contradiction

theorem step_keepsDev9Status {op : DriverOp} {s : Machine} {r : op.Answer × Machine}
    (hop : op.keepsDev9Status) (h : console.step op s = some r) :
    r.2.status .dev9 = s.status .dev9 := by
  by_cases hassigns : op.assigns = false
  · rw [(step_globals hassigns h).status]
  · cases op with
    | setStatus d status =>
      rw [← Option.some.inj h]
      exact Function.update_of_ne (Ne.symm hop) _ _
    | setMountStatus | setMountString => rw [← Option.some.inj h]
    | _ => exact absurd rfl hassigns

theorem step_sparesDev9 {op : DriverOp} {s : Machine} {r : op.Answer × Machine}
    (hop : op.sparesDev9) (h : console.step op s = some r) :
    r.2.status .dev9 = s.status .dev9 ∧ devctlAnswers r.2.trace = devctlAnswers s.trace := by
  refine ⟨step_keepsDev9Status (DriverOp.sparesDev9.keepsDev9Status op hop) h, ?_⟩
  cases op with
  | loadIrx m args =>
    rw [← Option.some.inj h]
    show devctlAnswers (s.loadIrx console m args).2.trace = _
    rw [Machine.loadIrx_eq]
    split
    · split
      · rfl
      · exact devctlAnswers_exec hop _ _ _
    · rfl
  | unloadIrx m =>
    rw [← Option.some.inj h]
    show devctlAnswers (s.unloadIrx console m).trace = _
    unfold Machine.unloadIrx
    split
    · exact devctlAnswers_unload hop _ _ _
    · rfl
  | lib call =>
    rw [← Option.some.inj h]
    show devctlAnswers (s.lib console call).2.trace = _
    rw [Machine.lib_trace]
    exact devctlAnswers_lib hop.1 hop.2 _ _
  | untilOk | abort => exact hop.elim
  | _ => rw [← Option.some.inj h]

theorem Program.Triple.sparesDev9 {α : Type} {p : DriverM α} (hp : p.Within DriverOp.sparesDev9)
    {Q : Int → Bool → Prop} :
    Program.Triple console.step (fun s => Q (s.status .dev9) (devctlAnswers s.trace)) p
      fun _ s => Q (s.status .dev9) (devctlAnswers s.trace) := by
  refine Program.Triple.keeps hp fun op hop s r hs h => ?_
  rw [(step_sparesDev9 hop h).1, (step_sparesDev9 hop h).2]
  exact hs

theorem Program.Triple.keepsDev9Status {α : Type} {p : DriverM α}
    (hp : p.Within DriverOp.keepsDev9Status) (Q : Int → Prop) :
    Program.Triple console.step (fun s => Q (s.status .dev9)) p fun _ s => Q (s.status .dev9) := by
  refine Program.Triple.keeps hp fun op hop s r hs h => ?_
  rw [step_keepsDev9Status hop h]
  exact hs

end

/-! ## 4. Deinitialisations -/

/-- From the states in `ready`, and from these only, the program enters the loop of dev9 only while
the device answers. -/
structure OffSpec {α : Type} (console : Console) (ready : Machine → Prop) (p : DriverM α) :
    Prop where
  safe : Program.Safe console.step ready p entersAnswered
  meets : Program.Meets console.step (fun s => ¬ ready s) p entersUnanswered

section

variable {console : Console} {α β : Type} {p : DriverM α} {f : α → DriverM β}
  {ready : Machine → Prop}

theorem safe_answered {P : Machine → Prop} (hp : p.Within DriverOp.comesBack) :
    Program.Safe console.step P p entersAnswered :=
  (Program.Safe.of_within hp).imp (fun _ hs => hs) fun op s hop =>
    DriverOp.comesBack.answered op hop s

theorem OffSpec.never (hp : p.Within DriverOp.comesBack) : OffSpec console (fun _ => True) p :=
  ⟨safe_answered hp, ⟨fun _ hs => absurd trivial hs⟩⟩

theorem OffSpec.before (hp : OffSpec console ready p)
    (hf : ∀ a, (f a).Within DriverOp.comesBack) : OffSpec console ready (p >>= f) where
  safe := Program.Safe.bind (Q := fun _ _ => True) hp.safe ⟨fun _ _ _ _ => trivial⟩ fun a =>
    safe_answered (hf a)
  meets := hp.meets.bind_left

theorem OffSpec.after (hp : p.Within DriverOp.sparesDev9)
    (hf : ∀ a, OffSpec console Machine.offReady (f a)) :
    OffSpec console Machine.offReady (p >>= f) where
  safe := Program.Safe.bind (safe_answered (hp.mono DriverOp.sparesDev9.comesBack))
    (Program.Triple.sparesDev9 hp (Q := fun status answers =>
      status = Dev9InitStatus.ok → answers = true)) fun a => (hf a).safe
  meets := Program.Meets.bind_right
    (fun s _ => run_comesBack (hp.mono DriverOp.sparesDev9.comesBack) s)
    (Program.Triple.sparesDev9 hp (Q := fun status answers =>
      ¬ (status = Dev9InitStatus.ok → answers = true))) fun a => (hf a).meets

/-- The device is off, as far as the status goes. -/
def Machine.dev9Off (s : Machine) : Prop := s.status .dev9 ≠ Dev9InitStatus.ok

theorem OffSpec.afterStatus (hp : p.Within DriverOp.keepsDev9Status)
    (hf : ∀ a, OffSpec console Machine.dev9Off (f a)) :
    OffSpec console Machine.dev9Off (p >>= f) where
  safe := Program.Safe.bind (safe_answered (hp.mono DriverOp.keepsDev9Status.comesBack))
    (Program.Triple.keepsDev9Status hp (· ≠ Dev9InitStatus.ok)) fun a => (hf a).safe
  meets := Program.Meets.bind_right
    (fun s _ => run_comesBack (hp.mono DriverOp.keepsDev9Status.comesBack) s)
    (Program.Triple.keepsDev9Status hp (¬ · ≠ Dev9InitStatus.ok)) fun a => (hf a).meets

theorem unloadIRXs_sparesDev9 {ms : List Irx} (h : .ps2dev9 ∉ ms) :
    (unloadIRXs ms).Within DriverOp.sparesDev9 :=
  unloadIRXs_within fun _ hm heq => h (heq ▸ hm)

/-- While the status is ok the driver comes to its loop at once. -/
theorem deinitDev9Driver_reaches {s : Machine} (hok : s.status .dev9 = Dev9InitStatus.ok) :
    Program.Reaches console.step (.untilOk dev9Off) s deinitDev9Driver s := by
  refine .later rfl ?_
  show Program.Reaches console.step _ _ (if s.status .dev9 = Dev9InitStatus.ok then _ else _) _
  rw [if_pos hok]
  exact .bind_left (.here _)

theorem deinitDev9Driver_off : OffSpec console Machine.offReady deinitDev9Driver := by
  have hstatus (P : Machine → Prop) :
      Program.Triple console.step P (getStatus .dev9) fun status s =>
        status = s.status .dev9 ∧ P s :=
    Program.Triple.of_run (fun s => getStatus_run console s .dev9) fun s hs => ⟨rfl, hs⟩
  have hunload : (unloadIRXs [.ps2dev9]).Within DriverOp.comesBack :=
    unloadIRXs_within fun _ _ => trivial
  constructor
  · refine Program.Safe.bind (safe_answered (getStatus_within.mpr trivial)) (hstatus _)
      fun status => ?_
    apply Program.Safe.branch
    · intro hok
      -- the loop is the only place where readiness is used
      refine Program.Safe.bind (Q := fun _ _ => True) (.request fun s hs _ => ?_)
        ⟨fun _ _ _ _ => trivial⟩ fun _ => safe_answered hunload
      exact hs.2 (hs.1.symm.trans hok)
    · exact fun _ => safe_answered hunload
  · constructor
    intro s hs
    have hok : s.status .dev9 = Dev9InitStatus.ok := by
      by_contra hok
      exact hs fun h => absurd h hok
    refine ⟨_, s, deinitDev9Driver_reaches hok, rfl, ?_⟩
    by_contra hanswers
    exact hs fun _ => Bool.eq_true_of_not_eq_false hanswers

theorem deinitNetwork_off : OffSpec console Machine.offReady (deinitNetwork true) := by
  refine OffSpec.after (unloadIRXs_sparesDev9 (by decide)) fun _ => ?_
  refine OffSpec.after ?_ fun _ => deinitDev9Driver_off
  refine Program.Within.bind (lib_within.mpr ⟨nofun, nofun⟩) fun _ => ?_
  exact unloadIRXs_sparesDev9 (by decide)

theorem OffSpec.congr {ready' : Machine → Prop} (hp : OffSpec console ready p)
    (h : ∀ s, ready' s ↔ ready s) : OffSpec console ready' p where
  safe := hp.safe.imp (fun s hs => (h s).mp hs) fun _ _ hG => hG
  meets := ⟨fun s hs => hp.meets.holds s fun hready => hs ((h s).mpr hready)⟩

/-- Only a driver that is responsible for the module of dev9 switches the device off. -/
theorem deinitDriver_comesBack (d : Driver) (deinitDependencies : Bool)
    (hd : .ps2dev9 ∉ d.responsible deinitDependencies) :
    (deinitDriver d deinitDependencies).Within DriverOp.comesBack := by
  have hunload (ms : List Irx) : (unloadIRXs ms).Within DriverOp.comesBack :=
    unloadIRXs_within fun _ _ => trivial
  have hlib (call : LibCall) : (lib call).Within DriverOp.comesBack := lib_within.mpr trivial
  cases d with
  | sio2man | bdm | usbd | cdfs | poweroff | smap => exact hunload _
  | fileXio | audio | netman => exact Program.Within.bind (hlib _) fun _ => hunload _
  | memcard | mouse | camera =>
    exact Program.Within.bind (hunload _) fun _ => whenEnabled_within _ (hunload _)
  | usb | mx4sio =>
    refine Program.Within.bind (hunload _) fun _ => whenEnabled_within _ ?_
    exact Program.Within.bind (hunload _) fun _ => hunload _
  | joystick | keyboard =>
    refine Program.Within.bind (hlib _) fun _ => Program.Within.bind (hunload _) fun _ => ?_
    exact whenEnabled_within _ (hunload _)
  -- the drivers that take dev9 down may wait for it, and are excluded
  | dev9 => cases deinitDependencies <;> exact absurd (by decide) hd
  | hdd =>
    cases deinitDependencies with
    | true => exact absurd (by decide) hd
    | false => exact Program.Within.bind (hunload _) fun _ => Program.within_pure _
  | eeip =>
    cases deinitDependencies with
    | true => exact absurd (by decide) hd
    | false => exact Program.within_pure _
  | iopip =>
    cases deinitDependencies with
    | true => exact absurd (by decide) hd
    | false =>
      refine Program.Within.bind (hlib _) fun _ => Program.Within.bind (hunload _) fun _ => ?_
      exact Program.within_pure _

theorem deinitDriver_off (d : Driver) (deinitDependencies : Bool) :
    OffSpec console (fun s => .ps2dev9 ∈ d.responsible deinitDependencies → s.offReady)
      (deinitDriver d deinitDependencies) := by
  by_cases hd : .ps2dev9 ∈ d.responsible deinitDependencies
  · suffices hoff : OffSpec console Machine.offReady (deinitDriver d deinitDependencies) from
      hoff.congr fun s => ⟨fun h => h hd, fun h _ => h⟩
    cases d with
    | dev9 => exact deinitDev9Driver_off
    | hdd =>
      cases deinitDependencies with
      | false => exact absurd hd (by decide)
      | true =>
        refine OffSpec.after (unloadIRXs_sparesDev9 (by decide)) fun _ => ?_
        refine OffSpec.after (unloadIRXs_sparesDev9 (by decide)) fun _ => ?_
        -- the client is shut down only after the device was switched off
        exact OffSpec.before deinitDev9Driver_off fun _ =>
          deinitDriver_comesBack .fileXio false (by decide)
    | eeip =>
      cases deinitDependencies with
      | false => exact absurd hd (by decide)
      | true => exact deinitNetwork_off
    | iopip =>
      cases deinitDependencies with
      | false => exact absurd hd (by decide)
      | true =>
        refine OffSpec.after (lib_within.mpr ⟨nofun, nofun⟩) fun _ => ?_
        refine OffSpec.after (unloadIRXs_sparesDev9 (by decide)) fun _ => ?_
        exact deinitNetwork_off
    | _ => cases deinitDependencies <;> exact absurd hd (by decide)
  · refine OffSpec.congr (OffSpec.never (deinitDriver_comesBack d _ hd)) fun s => ?_
    exact ⟨fun _ => trivial, fun _ hmem => absurd hmem hd⟩

theorem deinitFileXioDriver_shuts :
    Program.Triple console.step (fun s => s.status .dev9 = Dev9InitStatus.ok) deinitFileXioDriver
      fun _ s => s.status .dev9 = Dev9InitStatus.ok ∧ devctlAnswers s.trace = false := by
  refine Program.Triple.bind (R := fun _ s => s.status .dev9 = Dev9InitStatus.ok ∧
    devctlAnswers s.trace = false) ?_ fun _ => ?_
  · exact Program.Triple.of_run (fun s => lib_run console s _) fun s hs => ⟨hs, rfl⟩
  · exact Program.Triple.sparesDev9 (unloadIRXs_sparesDev9 (by decide))
      (Q := fun status answers => status = Dev9InitStatus.ok ∧ answers = false)

theorem initMx4sioDriver_keepsDev9Status :
    (initMx4sioDriver false).Within DriverOp.keepsDev9Status := by
  refine Program.Within.bind ?_ fun status => ?_
  · refine Program.Within.bind (isCOP2Pipelined_within.mpr trivial) fun _ => ?_
    apply Program.within_ite (Program.within_pure _)
    refine Program.Within.bind (loadIrx_within.mpr trivial) fun _ => ?_
    exact Program.within_ite (Program.within_pure _) (Program.within_pure _)
  · refine Program.Within.bind (setStatus_within.mpr ?_) fun _ => Program.within_pure _
    show Driver.mx4sio ≠ .dev9
    decide

/-- The teardown of every file system shuts fileXio down before it comes to dev9. -/
theorem deinitPs2FilesystemDriver_off :
    OffSpec console Machine.dev9Off deinitPs2FilesystemDriver := by
  have hunload (ms : List Irx) : (unloadIRXs ms).Within DriverOp.keepsDev9Status :=
    unloadIRXs_within fun _ _ => trivial
  have hpoweroff : (whenEnabled true deinitPoweroffDriver).Within DriverOp.comesBack :=
    deinitDriver_comesBack .poweroff false (by decide)
  have hfileXio : deinitFileXioDriver.Within DriverOp.keepsDev9Status :=
    Program.Within.bind (lib_within.mpr trivial) fun _ => hunload _
  have hdev9 : OffSpec console Machine.offReady (do
      deinitDev9Driver
      whenEnabled true deinitPoweroffDriver) :=
    OffSpec.before deinitDev9Driver_off fun _ => hpoweroff
  -- up to dev9 nothing sets its status
  refine OffSpec.afterStatus (umountCurrentHddPartition_within fun op hop hne => ?_) fun _ => ?_
  · cases op <;> first | exact hop.elim | exact absurd rfl hne | trivial
  refine OffSpec.afterStatus ?_ fun _ => ?_
  · exact Program.Within.bind (hunload _) fun _ => Program.within_pure _
  refine OffSpec.afterStatus (hunload _) fun _ => ?_
  refine OffSpec.afterStatus initMx4sioDriver_keepsDev9Status fun _ => ?_
  refine OffSpec.afterStatus ?_ fun _ => ?_
  · refine Program.Within.bind (hunload _) fun _ => ?_
    exact Program.Within.bind (hunload _) fun _ => hunload _
  refine OffSpec.afterStatus ?_ fun _ => ?_
  · exact Program.Within.bind (hunload _) fun _ => hunload _
  constructor
  · refine Program.Safe.bind (safe_answered (hfileXio.mono DriverOp.keepsDev9Status.comesBack))
      (Program.Triple.keepsDev9Status hfileXio (· ≠ Dev9InitStatus.ok)) fun _ => ?_
    exact hdev9.safe.imp (fun s hs hok => absurd hok hs) fun _ _ hG => hG
  · refine Program.Meets.bind_right
      (fun s _ => run_comesBack (hfileXio.mono DriverOp.keepsDev9Status.comesBack) s)
      (deinitFileXioDriver_shuts.imp (fun s hs => not_not.mp hs) fun _ _ hs => hs) fun _ => ?_
    refine hdev9.meets.imp fun s hs hready => ?_
    rw [hready hs.1] at hs
    exact absurd hs.2 (by decide)

end

/-! ## 5. Runs -/

/-- The state in which a public call switches DEV9 off only while the device answers. -/
def PublicCall.dev9Ready (s : Machine) : PublicCall → Prop
  | .deinit d deinitDependencies =>
    .ps2dev9 ∈ d.responsible deinitDependencies → s.offReady
  | .deinitNetwork .default deinitDependencies | .deinitNetwork .ee deinitDependencies =>
    .ps2dev9 ∈ Driver.eeip.responsible deinitDependencies → s.offReady
  -- fileXio is gone by the time dev9 is taken down
  | .deinitFilesystem => s.dev9Off
  | _ => True

/-- Every call of the run is made in a state that allows it. -/
def CallsMeet (console : Console) (ready : Machine → PublicCall → Prop) :
    List PublicCall → Machine → Prop
  | [], _ => True
  | call :: rest, s =>
    ready s call ∧ ∀ r, call.run.run console.step s = some r → CallsMeet console ready rest r.2

section

variable {console : Console}

theorem initFilesystem_answered (P : Machine → Prop) :
    Program.Safe console.step P initPs2FilesystemDriver entersAnswered := by
  refine Program.Safe.bind (Q := fun _ _ => True)
    (safe_answered (initFilesystemDrivers_within.mono DriverOp.bringsUp.comesBack))
    ⟨fun _ _ _ _ => trivial⟩ fun _ => ?_
  refine Program.Safe.bind (Q := fun _ _ => True) (safe_answered (lib_within.mpr trivial))
    ⟨fun _ _ _ _ => trivial⟩ fun _ => ?_
  exact (Program.Safe.of_within mountAndWait_within).imp (fun _ hs => hs) fun op s hop =>
    DriverOp.handlesFiles.answered op hop s

theorem initBootGroup_answered (P : Machine → Prop) (cwd : Bytes) (group : BootGroup) :
    Program.Safe console.step P (initBootGroup cwd group) entersAnswered := by
  have hfiles {α : Type} {p : DriverM α} (hp : p.Within DriverOp.handlesFiles) :
      Program.Safe console.step (fun _ => True) p entersAnswered :=
    (Program.Safe.of_within hp).imp (fun _ hs => hs) fun op s hop =>
      DriverOp.handlesFiles.answered op hop s
  cases group with
  | memcard =>
    exact safe_answered (Program.Within.bind (initDriver_comesBack .memcard true false) fun _ =>
      Program.within_pure _)
  | cdfs =>
    exact safe_answered (Program.Within.bind (initDriver_comesBack .cdfs false false) fun _ =>
      Program.within_pure _)
  | mass =>
    refine safe_answered (Program.Within.bind (initDriver_comesBack .usb true false) fun _ => ?_)
    exact Program.Within.bind (initDriver_comesBack .mx4sio true false) fun _ =>
      Program.within_pure _
  | hdd =>
    -- mounting may abort, which is not the loop either
    have hpost {α : Type} {p : DriverM α} {P : Machine → Prop} :
        Program.Triple console.step P p fun _ _ => True := ⟨fun _ _ _ _ => trivial⟩
    have hinit (d : Driver) : Program.Safe console.step (fun _ => True)
        (initDriver d false false) entersAnswered := safe_answered (initDriver_comesBack d _ _)
    refine Program.Safe.bind ((hinit .poweroff).imp (fun _ _ => trivial) fun _ _ hG => hG) hpost
      fun _ => ?_
    refine Program.Safe.bind (hinit .dev9) hpost fun _ => ?_
    refine Program.Safe.bind (hinit .hdd) hpost fun _ => ?_
    refine Program.Safe.bind (hfiles (lib_within.mpr trivial)) hpost fun _ => ?_
    refine Program.Safe.bind (hfiles mountCurrentHddPartition_within) hpost fun _ => ?_
    exact hfiles (getcwd_within.mpr trivial)
  | none => exact .ret _

theorem initOnlyBootFilesystem_answered (P : Machine → Prop) :
    Program.Safe console.step P initOnlyBootPs2FilesystemDriver entersAnswered := by
  have hpost {α : Type} {p : DriverM α} {P : Machine → Prop} :
      Program.Triple console.step P p fun _ _ => True := ⟨fun _ _ _ _ => trivial⟩
  refine Program.Safe.bind (safe_answered (getcwd_within.mpr trivial)) hpost fun cwd => ?_
  refine Program.Safe.bind (safe_answered
    (initDriver_comesBack .fileXio false false)) hpost fun _ => ?_
  refine Program.Safe.bind (initBootGroup_answered _ cwd _) hpost fun cwd' => ?_
  apply safe_answered
  exact Program.Within.bind (waitUntilDeviceIsReady_within (fun _ => trivial) cwd') fun _ =>
    Program.within_pure _

/-- Without a boot device only fileXio is taken down. -/
theorem deinitOnlyBootFilesystem_answered :
    Program.Safe console.step (fun s => s.bootDeviceId = .unknown)
      deinitOnlyBootPs2FilesystemDriver entersAnswered := by
  have hget : Program.Triple console.step (fun s => s.bootDeviceId = .unknown) getBootDeviceId
      fun id s => id = .unknown ∧ s.bootDeviceId = .unknown :=
    Program.Triple.of_run (getBootDeviceId_run console) fun s hs => ⟨hs, hs⟩
  have hfileXio : deinitFileXioDriver.Within DriverOp.comesBack :=
    deinitDriver_comesBack .fileXio false (by decide)
  refine Program.Safe.bind (safe_answered (getBootDeviceId_within.mpr trivial)) hget fun id => ?_
  apply Program.Safe.of_pure
  intro hid
  rw [hid, if_neg (by decide)]
  refine Program.Safe.bind (safe_answered (getBootDeviceId_within.mpr trivial)) hget fun id => ?_
  apply Program.Safe.of_pure
  intro hid
  rw [hid]
  exact safe_answered (Program.Within.bind (Program.within_pure _) fun _ => hfileXio)

/-- One public call. -/
theorem PublicCall.answered (call : PublicCall) :
    Program.Safe console.step (fun s => s.bootDeviceId = .unknown ∧ call.dev9Ready s) call.run
      entersAnswered := by
  have hthen {α : Type} {P : Machine → Prop} {p : DriverM α}
      (hp : Program.Safe console.step P p entersAnswered) :
      Program.Safe console.step P (p >>= fun _ => pure (0 : Int)) entersAnswered :=
    Program.Safe.bind (Q := fun _ _ => True) hp ⟨fun _ _ _ _ => trivial⟩ fun _ => .ret _
  cases call with
  | init d deps only => exact safe_answered (initDriver_comesBack d deps only)
  | deinit d deps =>
    exact hthen ((deinitDriver_off d deps).safe.imp (fun _ hs => hs.2) fun _ _ hG => hG)
  | initNetwork stack deps =>
    cases stack with
    | default | ee => exact safe_answered (initDriver_comesBack .eeip deps false)
    | iop => exact safe_answered (initDriver_comesBack .iopip deps false)
  | deinitNetwork stack deps =>
    cases stack with
    | default | ee =>
      exact hthen ((deinitDriver_off .eeip deps).safe.imp (fun _ hs => hs.2) fun _ _ hG => hG)
    | iop =>
      -- the source initialises the driver here, so nothing is switched off
      exact hthen (safe_answered (Program.Within.bind (initDriver_comesBack .iopip deps false)
        fun _ => Program.within_pure _))
  | initFilesystem => exact hthen (initFilesystem_answered _)
  | deinitFilesystem =>
    exact hthen (deinitPs2FilesystemDriver_off.safe.imp (fun _ hs => hs.2) fun _ _ hG => hG)
  | initOnlyBootFilesystem => exact hthen (initOnlyBootFilesystem_answered _)
  | deinitOnlyBootFilesystem =>
    exact hthen (deinitOnlyBootFilesystem_answered.imp (fun _ hs => hs.1) fun _ _ hG => hG)

theorem PublicCall.unanswered (call : PublicCall) :
    Program.Meets console.step (fun s => ¬ call.dev9Ready s) call.run entersUnanswered := by
  cases call with
  | deinit d deps => exact (deinitDriver_off d deps).meets.bind_left
  | deinitNetwork stack deps =>
    cases stack with
    | default | ee => exact (deinitDriver_off .eeip deps).meets.bind_left
    | iop => exact ⟨fun _ hs => absurd trivial hs⟩
  | deinitFilesystem => exact deinitPs2FilesystemDriver_off.meets.bind_left
  | _ => exact ⟨fun _ hs => absurd trivial hs⟩

/-- A run enters the loop only while the device answers exactly when each of its calls is made in a
state that allows it. -/
theorem runCalls_answered_iff (calls : List PublicCall) {s : Machine}
    (hs : s.bootDeviceId = .unknown) :
    (∀ t, Program.Reaches console.step (.untilOk dev9Off) t (runCalls calls) s →
      devctlAnswers t.trace = true) ↔ CallsMeet console PublicCall.dev9Ready calls s := by
  induction calls generalizing s with
  | nil => exact ⟨fun _ => trivial, fun _ t ht => by cases ht⟩
  | cons call calls ih =>
    have hboot {r : Int × Machine} (hr : call.run.run console.step s = some r) :
        r.2.bootDeviceId = .unknown := (run_bootDeviceId hr).trans hs
    constructor
    · intro h
      have hready : call.dev9Ready s := by
        -- a call that is not ready reaches the loop unanswered
        by_contra hbad
        obtain ⟨op, t, ht, hop, hno⟩ := call.unanswered.holds s hbad
        rw [hop] at ht
        rw [h t ht.bind_left] at hno
        cases hno
      refine ⟨hready, fun r hr => (ih (hboot hr)).mp fun t ht => ?_⟩
      exact h t (.bind_right hr ht.bind_left)
    · rintro ⟨hready, hrest⟩ t ht
      rcases Program.reaches_bind ht with hcall | ⟨r, hr, hlater⟩
      · exact call.answered.holds s ⟨hs, hready⟩ _ t hcall rfl
      · rcases Program.reaches_bind hlater with hcalls | ⟨r', _, hend⟩
        · exact (ih (hboot hr)).mpr (hrest r hr) t hcalls
        · cases hend

end

/-- In every run of public calls each `DDIOC_OFF` loop is left, exactly when each call that switches
DEV9 off is made with fileXio and dev9 up, or with the device already off. -/
theorem dev9Off_leaves_loop {console : Console} (hdevctl : console.AnswersDevctl) (cwd : Bytes)
    (w : World) (calls : List PublicCall) :
    (∀ t, Program.Reaches console.step (.untilOk dev9Off) t (runCalls calls)
        (Machine.initial cwd w) →
      (fileXioUp t.trace = true ∧ loaded .ps2dev9 t.trace = true) ∧
        ∃ n s', t.untilOk console dev9Off n = some s') ↔
      CallsMeet console PublicCall.dev9Ready calls (Machine.initial cwd w) := by
  rw [← runCalls_answered_iff calls (s := Machine.initial cwd w) rfl]
  apply forall_congr'
  intro t
  rw [untilOk_dev9Off_iff hdevctl, devctlAnswers, Bool.and_eq_true, and_self_iff]

/-- Everything succeeds but a `fileXioDevctl` that does not reach its device. -/
def Console.answering : Console where
  flavor := .embedded fun _ => []
  exec _ _ := (7, 0)
  unload _ _ := 0
  lib call past :=
    match call with
    | .fileXioDevctl _ _ => if devctlAnswers past then 0 else -1
    | _ => 0
  cop2Pipelined := true
  patience := 1

theorem Console.answering_answersDevctl : Console.answering.AnswersDevctl := by
  intro path command past
  show 0 ≤ (if devctlAnswers past = true then (0 : Int) else -1) ↔ _
  by_cases h : devctlAnswers past = true
  · simp [h]
  · simp [h]

/-- The fileXio client is up when dev9 goes down, so the device answers and the loop ends. -/
theorem dev9Off_leaves_loop_fileXio :
    ∃ t, Program.Reaches Console.answering.step (.untilOk dev9Off) t
        (runCalls [.init .fileXio false false, .init .dev9 false false, .deinit .dev9 false])
        (Machine.initial [] World.initial) ∧
      (fileXioUp t.trace = true ∧ loaded .ps2dev9 t.trace = true) ∧
        ∃ n s', t.untilOk Console.answering dev9Off n = some s' := by
  have hmeet : CallsMeet Console.answering PublicCall.dev9Ready
      [.init .fileXio false false, .init .dev9 false false, .deinit .dev9 false]
      (Machine.initial [] World.initial) := by
    refine ⟨trivial, fun r hr => ⟨trivial, fun r' hr' => ⟨fun _ _ => ?_, fun _ _ => trivial⟩⟩⟩
    cases hr
    cases hr'
    rfl
  have hleaves :=
    (dev9Off_leaves_loop Console.answering_answersDevctl [] World.initial _).mpr hmeet
  -- the two initialisations come back, and the status lets the third call into its loop
  obtain ⟨r, hr, r', hr', hok⟩ : ∃ r : Int × Machine,
      (PublicCall.init .fileXio false false).run.run Console.answering.step
        (Machine.initial [] World.initial) = some r ∧
      ∃ r' : Int × Machine,
        (PublicCall.init .dev9 false false).run.run Console.answering.step r.2 = some r' ∧
          r'.2.status .dev9 = Dev9InitStatus.ok :=
    ⟨_, rfl, _, rfl, rfl⟩
  have hdeinit : Program.Reaches Console.answering.step (.untilOk dev9Off) r'.2
      (runCalls [.deinit .dev9 false]) r'.2 :=
    .bind_left (.bind_left (deinitDev9Driver_reaches hok))
  have hreach : Program.Reaches Console.answering.step (.untilOk dev9Off) r'.2
      (runCalls [.init .fileXio false false, .init .dev9 false false, .deinit .dev9 false])
      (Machine.initial [] World.initial) :=
    .bind_right hr (.bind_left (.bind_right hr' (.bind_left hdeinit)))
  exact ⟨r'.2, hreach, hleaves r'.2 hreach⟩

/-- Without fileXio the device cannot be switched off, and the loop never ends. -/
theorem dev9Off_stays_in_loop :
    ¬ ∀ (console : Console), console.AnswersDevctl → ∀ (cwd : Bytes) (w : World)
        (calls : List PublicCall) (t : Machine),
      Program.Reaches console.step (.untilOk dev9Off) t (runCalls calls) (Machine.initial cwd w) →
        ∃ n s', t.untilOk console dev9Off n = some s' := by
  intro h
  have hdevctl := Console.answering_answersDevctl
  have hmeet : CallsMeet Console.answering PublicCall.dev9Ready
      [.init .dev9 false false, .deinit .dev9 false] (Machine.initial [] World.initial) := by
    refine (runCalls_answered_iff _ rfl).mp fun t ht => ?_
    exact (untilOk_dev9Off_iff hdevctl t).mp (h Console.answering hdevctl [] World.initial _ t ht)
  have hanswers := (hmeet.2 _ rfl).1 (by decide) rfl
  cases hanswers

end Ps2Drivers
