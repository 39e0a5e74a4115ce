import Ps2Drivers.Drivers.Report

/-!
# What deinitialisation takes down

On a console whose module results are the documented ones, a module that is loaded can be
unloaded, so each `deinit_x_driver` unloads all it is responsible for.
-/

open Binary CString

namespace Ps2Drivers

/-! ## 1. Operations -/

/-- `MODULE_RESIDENT_END`, `MODULE_NO_RESIDENT_END` and `MODULE_REMOVABLE_END` are the results of a
module, and the device of dev9 switches off. -/
structure Console.Documented (console : Console) : Prop where
  result : ∀ m k, (console.exec m k).2 = 0 ∨ (console.exec m k).2 = 1 ∨ (console.exec m k).2 = 2
  dev9Off : ∀ past, 0 ≤ console.lib dev9Off past
  patient : 0 < console.patience

/-- The operation executes at most `ms`. -/
def DriverOp.loadsIn (ms : List Irx) : DriverOp → Prop
  | .loadIrx m _ => m ∈ ms
  | _ => True

def DriverOp.returns : DriverOp → Prop
  | .untilOk call => call = dev9Off
  | .abort => False
  | _ => True

/-- The operation is no loop and no assertion, so it always comes back. -/
def DriverOp.comesBack : DriverOp → Prop
  | .untilOk _ | .abort => False
  | _ => True

/-- The operations of a deinitialisation that may unload `down`. -/
def DriverOp.tearsDown (down : List Irx) : DriverOp → Prop
  | .loadIrx _ _ => False
  | .unloadIrx m => m ∈ down
  | .lib call => call.leavesFiles = true
  | .untilOk call => call = dev9Off
  | .setMountStatus _ | .setMountString _ | .abort => False
  | _ => True

namespace DriverOp

variable {op : DriverOp} {ms : List Irx}

theorem bringsUp.loadsIn (op : DriverOp) (h : op.bringsUp ms) : op.loadsIn ms := by
  cases op with
  | loadIrx m args => exact h
  | _ => trivial

theorem comesBack.returns (op : DriverOp) (h : op.comesBack) : op.returns := by
  cases op <;> first | exact h.elim | trivial

theorem comesBack.step (console : Console) (op : DriverOp) (h : op.comesBack) (s : Machine) :
    ∃ r, console.step op s = some r := by
  cases op <;> first | exact h.elim | exact ⟨_, rfl⟩

theorem bringsUp.comesBack (op : DriverOp) (h : op.bringsUp ms) : op.comesBack := by
  cases op <;> first | exact h.elim | trivial

theorem bringsUp.returns (op : DriverOp) (h : op.bringsUp ms) : op.returns :=
  comesBack.returns op (bringsUp.comesBack op h)

theorem tearsDown.mono {down down' : List Irx} (hsub : down ⊆ down') (op : DriverOp)
    (h : op.tearsDown down) : op.tearsDown down' := by
  cases op with
  | unloadIrx m => exact hsub h
  | _ => exact h

theorem tearsDown.loadsIn {down : List Irx} (ms : List Irx) (op : DriverOp)
    (h : op.tearsDown down) : op.loadsIn ms := by
  cases op with
  | loadIrx m args => exact h.elim
  | _ => trivial

theorem tearsDown.spares {down : List Irx} {m : Irx} (hm : m ∉ down) (op : DriverOp)
    (h : op.tearsDown down) : op.spares m := by
  cases op with
  | loadIrx m' args => exact h.elim
  | unloadIrx m' => exact fun heq => hm (heq ▸ h)
  | _ => trivial

theorem tearsDown.returns {down : List Irx} (op : DriverOp) (h : op.tearsDown down) :
    op.returns := by
  cases op with
  | untilOk call => exact h
  | abort => exact h.elim
  | _ => trivial

theorem returns.step {console : Console} (hoff : ∀ past, 0 ≤ console.lib dev9Off past)
    (hpatient : 0 < console.patience) (op : DriverOp) (h : op.returns) (s : Machine) :
    ∃ r, console.step op s = some r := by
  cases op with
  | untilOk call =>
    -- the first call already succeeds
    obtain ⟨n, hn⟩ := Nat.exists_eq_add_of_lt hpatient
    show ∃ r, (s.untilOk console call console.patience).map (fun s => ((), s)) = some r
    rw [h, hn, Nat.zero_add, Machine.untilOk]
    dsimp only
    rw [if_neg]
    · exact ⟨_, rfl⟩
    · rw [Machine.lib_fst]
      exact Int.not_lt.mpr (hoff _)
  | abort => exact h.elim
  | _ => exact ⟨_, rfl⟩

end DriverOp

theorem run_comesBack {console : Console} {α : Type} {p : DriverM α}
    (hp : p.Within DriverOp.comesBack) (s : Machine) : ∃ r, p.run console.step s = some r :=
  Program.run_returns hp (DriverOp.comesBack.step console) s

theorem unloadIRXs_within {A : DriverOp → Prop} {ms : List Irx}
    (h : ∀ m ∈ ms, A (.unloadIrx m)) : (unloadIRXs ms).Within A := by
  induction ms with
  | nil => exact Program.within_pure _
  | cons m ms ih =>
    refine Program.Within.bind (unloadIrx_within.mpr (h m List.mem_cons_self)) fun _ => ?_
    exact ih fun m' hm' => h m' (List.mem_cons_of_mem m hm')

theorem whenEnabled_within {A : DriverOp → Prop} (enabled : Bool) {q : DriverM Unit}
    (hq : q.Within A) : (whenEnabled enabled q).Within A :=
  Program.within_ite hq (Program.within_pure _)

/-! ## 2. Invariants -/

namespace Machine

/-- A module that is loaded can be unloaded. -/
def Unloadable (s : Machine) : Prop :=
  ∀ m, (s.irx m).checkErr = false → (s.irx m).checkUnload = true

/-- At most `ms` are loaded. -/
def LoadedIn (ms : List Irx) (s : Machine) : Prop := ∀ m, (s.irx m).checkErr = false → m ∈ ms

theorem LoadedIn.mono {ms ms' : List Irx} (hsub : ms ⊆ ms') {s : Machine} (h : s.LoadedIn ms) :
    s.LoadedIn ms' := fun m hm => hsub (h m hm)

theorem initial_unloadable (cwd : Bytes) (w : World) : (initial cwd w).Unloadable :=
  fun _ hm => by cases hm

theorem initial_loadedIn (ms : List Irx) (cwd : Bytes) (w : World) : (initial cwd w).LoadedIn ms :=
  fun _ hm => by cases hm

end Machine

theorem IrxVars.checkUnload_of_documented {v : IrxVars} (hret : v.ret = 0 ∨ v.ret = 1 ∨ v.ret = 2)
    (h : v.checkErr = false) : v.checkUnload = true := by
  unfold checkErr at h
  unfold checkUnload
  simp only [Bool.or_eq_false_iff, decide_eq_false_iff_not, beq_eq_false_iff_ne] at h
  simp only [Bool.and_eq_true, Bool.or_eq_true, decide_eq_true_eq, beq_iff_eq]
  omega

section

variable {console : Console} {op : DriverOp} {s s' : Machine}

theorem ModuleEffect.unloadable (h : ModuleEffect console s op s') (hdoc : console.Documented)
    (hs : s.Unloadable) : s'.Unloadable := by
  intro m
  rcases h.irx_cases m with hsame | ⟨args, call, -, -, hanswer, -⟩ | ⟨-, -, hreset⟩
  · rw [hsame]
    exact hs m
  · rw [hanswer]
    exact IrxVars.checkUnload_of_documented (hdoc.result m _)
  · rw [hreset]
    intro hm
    cases hm

theorem ModuleEffect.loadedIn {ms : List Irx} (h : ModuleEffect console s op s')
    (hop : op.loadsIn ms) (hs : s.LoadedIn ms) : s'.LoadedIn ms := by
  intro m hm
  rcases h.irx_cases m with hsame | ⟨args, call, rfl, -, -, -⟩ | ⟨-, -, hreset⟩
  · rw [hsame] at hm
    exact hs m hm
  · exact hop
  · rw [hreset] at hm
    cases hm

theorem ModuleEffect.execs_eq (h : ModuleEffect console s op s') (hop : op.loadsIn []) :
    execs s'.trace = execs s.trace := by
  cases h with
  | quiet es hes htrace =>
    rw [htrace]
    exact execs_append hes
  | executed => cases hop
  | unloaded => rfl

end

section

variable {console : Console} {α : Type} {p : DriverM α}

theorem Program.Triple.keepsUnloadable (hdoc : console.Documented) (p : DriverM α) :
    Program.Triple console.step Machine.Unloadable p fun _ => Machine.Unloadable :=
  Program.Triple.keeps (Program.within_true p) fun _ _ _ _ hs hstep =>
    (step_effect hstep).unloadable hdoc hs

theorem Program.Triple.keepsLoadedIn {ms : List Irx} (hp : p.Within (DriverOp.loadsIn ms)) :
    Program.Triple console.step (Machine.LoadedIn ms) p fun _ => Machine.LoadedIn ms :=
  Program.Triple.keeps hp fun _ hop _ _ hs hstep => (step_effect hstep).loadedIn hop hs

theorem Program.Triple.keepsExecs (hp : p.Within (DriverOp.loadsIn []))
    (past : List (Irx × SifExec × (Int × Int))) :
    Program.Triple console.step (fun s => execs s.trace = past) p fun _ s => execs s.trace = past :=
  Program.Triple.keeps hp fun _ hop _ _ hs hstep => ((step_effect hstep).execs_eq hop).trans hs

end

/-! ## 3. The specification of a deinitialisation -/

/-- The program comes back with the modules `down` unloaded, and executes none. -/
structure DeinitSpec (down : List Irx) (p : DriverM Unit) : Prop where
  within : p.Within (DriverOp.tearsDown down)
  unloads : ∀ console : Console, console.Documented → ∀ ms,
    Program.Triple console.step (fun s => s.Unloadable ∧ s.LoadedIn ms) p fun _ s =>
      s.Unloadable ∧ s.LoadedIn (ms.filter (· ∉ down))

section

variable {down down' : List Irx} {p q : DriverM Unit}

/-- The order of the modules does not matter. -/
theorem DeinitSpec.congr (hp : DeinitSpec down p) (h : down ⊆ down' ∧ down' ⊆ down) :
    DeinitSpec down' p := by
  refine ⟨hp.within.mono (DriverOp.tearsDown.mono h.1), fun console hdoc ms => ?_⟩
  refine (hp.unloads console hdoc ms).weaken fun _ s hs => ⟨hs.1, hs.2.mono fun m hm => ?_⟩
  have hmem : m ∈ ms ∧ m ∉ down := by simpa using hm
  simpa using ⟨hmem.1, fun hdown => hmem.2 (h.2 hdown)⟩

/-- Steps that execute nothing may come first. -/
theorem DeinitSpec.after {α : Type} {p : DriverM α} {q : α → DriverM Unit}
    (hp : p.Within (DriverOp.tearsDown down)) (hq : ∀ a, DeinitSpec down (q a)) :
    DeinitSpec down (p >>= q) := by
  refine ⟨Program.Within.bind hp fun a => (hq a).within, fun console hdoc ms => ?_⟩
  refine Program.Triple.bind ?_ fun a => (hq a).unloads console hdoc ms
  exact (Program.Triple.keepsUnloadable hdoc p).and
    (Program.Triple.keepsLoadedIn (hp.mono (DriverOp.tearsDown.loadsIn ms)))

theorem DeinitSpec.seq (hp : DeinitSpec down p) (hq : DeinitSpec down' q) :
    DeinitSpec (down ++ down') (do
      p
      q) := by
  have hleft := hp.within.mono (DriverOp.tearsDown.mono (List.subset_append_left down down'))
  have hright := hq.within.mono (DriverOp.tearsDown.mono (List.subset_append_right down down'))
  refine ⟨Program.Within.bind hleft fun _ => hright, fun console hdoc ms => ?_⟩
  refine Program.Triple.bind (hp.unloads console hdoc ms) fun _ => ?_
  refine (hq.unloads console hdoc _).weaken fun _ s hs => ⟨hs.1, hs.2.mono fun m hm => ?_⟩
  rw [List.filter_filter] at hm
  simpa [and_comm, and_assoc] using hm

theorem DeinitSpec.nothing : DeinitSpec [] (pure ()) := by
  refine ⟨Program.within_pure _, fun console hdoc ms => Program.Triple.ret fun s hs => ?_⟩
  exact ⟨hs.1, hs.2.mono (by simp)⟩

theorem DeinitSpec.whenEnabled (enabled : Bool) (hp : DeinitSpec down p) :
    DeinitSpec (if enabled then down else []) (whenEnabled enabled p) := by
  cases enabled with
  | false => exact DeinitSpec.nothing
  | true => exact hp

theorem unloadIrx_deinit (m : Irx) : DeinitSpec [m] (unloadIrx m) := by
  refine ⟨unloadIrx_within.mpr (List.mem_singleton_self m), fun console hdoc ms =>
    ⟨fun s hs r hr => ?_⟩⟩
  refine ⟨(Program.Triple.keepsUnloadable hdoc _).holds s hs.1 r hr, ?_⟩
  rw [unloadIrx_run] at hr
  rw [← Option.some.inj hr]
  intro m' hm'
  show m' ∈ ms.filter (· ∉ [m])
  change ((s.unloadIrx console m).irx m').checkErr = false at hm'
  unfold Machine.unloadIrx at hm'
  by_cases hunload : (s.irx m).checkUnload = true
  · rw [if_pos hunload] at hm'
    change (Function.update s.irx m .reset m').checkErr = false at hm'
    by_cases heq : m' = m
    · rw [heq, Function.update_self] at hm'
      cases hm'
    · rw [Function.update_of_ne heq] at hm'
      simpa [heq] using hs.2 m' hm'
  · -- a module that cannot be unloaded is not loaded
    rw [if_neg hunload] at hm'
    have hne : m' ≠ m := fun heq => hunload (heq ▸ hs.1 m' hm')
    simpa [hne] using hs.2 m' hm'

theorem unloadIRXs_deinit (ms : List Irx) : DeinitSpec ms (unloadIRXs ms) := by
  induction ms with
  | nil => exact DeinitSpec.nothing
  | cons m ms ih => exact (unloadIrx_deinit m).seq ih

end

/-! ## 4. The drivers -/

section

variable (deinitDependencies : Bool)

theorem deinitDev9Driver_deinit : DeinitSpec [.ps2dev9] deinitDev9Driver := by
  refine DeinitSpec.after (getStatus_within.mpr trivial) fun status => ?_
  split
  · exact DeinitSpec.after (untilOk_within.mpr rfl) fun _ => unloadIRXs_deinit _
  · exact unloadIRXs_deinit _

theorem deinitFileXioDriver_deinit : DeinitSpec [.fileXio, .iomanX] deinitFileXioDriver :=
  DeinitSpec.after (lib_within.mpr (by rfl)) fun _ => unloadIRXs_deinit _

theorem deinitNetmanDriver_deinit : DeinitSpec [.netman] deinitNetmanDriver :=
  DeinitSpec.after (lib_within.mpr (by rfl)) fun _ => unloadIRXs_deinit _

theorem deinitNetwork_deinit :
    DeinitSpec (if deinitDependencies then [.smap, .netman, .ps2dev9] else [])
      (deinitNetwork deinitDependencies) :=
  DeinitSpec.whenEnabled _ <|
    (unloadIRXs_deinit [.smap]).seq <| deinitNetmanDriver_deinit.seq deinitDev9Driver_deinit

/-- Each deinitialisation unloads everything the initialisation is responsible for. -/
theorem deinitDriver_deinit (d : Driver) :
    DeinitSpec (d.responsible deinitDependencies) (deinitDriver d deinitDependencies) := by
  have hsio2man := DeinitSpec.whenEnabled deinitDependencies (unloadIRXs_deinit [.sio2man])
  have husbd := DeinitSpec.whenEnabled deinitDependencies (unloadIRXs_deinit [.usbd])
  have hbdm := unloadIRXs_deinit [.bdmfsFatfs, .bdm]
  -- each unload list is the module list of the driver, in its own order
  cases d with
  | sio2man => exact (unloadIRXs_deinit [.sio2man]).congr (by cases deinitDependencies <;> decide)
  | fileXio => exact deinitFileXioDriver_deinit.congr (by cases deinitDependencies <;> decide)
  | memcard =>
    exact ((unloadIRXs_deinit [.mcman, .mcserv]).seq hsio2man).congr
      (by cases deinitDependencies <;> decide)
  | bdm => exact hbdm.congr (by cases deinitDependencies <;> decide)
  | usbd => exact (unloadIRXs_deinit [.usbd]).congr (by cases deinitDependencies <;> decide)
  | usb =>
    exact ((unloadIRXs_deinit [.usbmassBd]).seq <| DeinitSpec.whenEnabled _ <|
      (unloadIRXs_deinit [.usbd]).seq hbdm).congr (by cases deinitDependencies <;> decide)
  | mx4sio =>
    exact ((unloadIRXs_deinit [.mx4sioBd]).seq <| DeinitSpec.whenEnabled _ <|
      hbdm.seq (unloadIRXs_deinit [.sio2man])).congr (by cases deinitDependencies <;> decide)
  | cdfs => exact (unloadIRXs_deinit [.cdfs]).congr (by cases deinitDependencies <;> decide)
  | dev9 => exact deinitDev9Driver_deinit.congr (by cases deinitDependencies <;> decide)
  | hdd =>
    exact ((unloadIRXs_deinit [.ps2fs, .ps2hdd, .ps2atad]).seq <| DeinitSpec.whenEnabled _ <|
      hbdm.seq <| deinitDev9Driver_deinit.seq deinitFileXioDriver_deinit).congr
      (by cases deinitDependencies <;> decide)
  | joystick =>
    exact (DeinitSpec.after (lib_within.mpr (by rfl)) fun _ =>
      (unloadIRXs_deinit [.mtapman, .padman]).seq hsio2man).congr
      (by cases deinitDependencies <;> decide)
  | audio =>
    exact (DeinitSpec.after (lib_within.mpr (by rfl)) fun _ =>
      unloadIRXs_deinit [.audsrv, .libsd]).congr (by cases deinitDependencies <;> decide)
  | poweroff => exact (unloadIRXs_deinit [.poweroff]).congr (by cases deinitDependencies <;> decide)
  | mouse =>
    exact ((unloadIRXs_deinit [.ps2mouse]).seq husbd).congr
      (by cases deinitDependencies <;> decide)
  | keyboard =>
    exact (DeinitSpec.after (lib_within.mpr (by rfl)) fun _ =>
      (unloadIRXs_deinit [.ps2kbd]).seq husbd).congr (by cases deinitDependencies <;> decide)
  | camera =>
    exact ((unloadIRXs_deinit [.ps2cam]).seq husbd).congr (by cases deinitDependencies <;> decide)
  | netman => exact deinitNetmanDriver_deinit.congr (by cases deinitDependencies <;> decide)
  | smap => exact (unloadIRXs_deinit [.smap]).congr (by cases deinitDependencies <;> decide)
  | eeip =>
    exact (deinitNetwork_deinit deinitDependencies).congr (by cases deinitDependencies <;> decide)
  | iopip =>
    exact (DeinitSpec.after (lib_within.mpr (by rfl)) fun _ =>
      (unloadIRXs_deinit [.ps2ips, .ps2ipNm]).seq (deinitNetwork_deinit deinitDependencies)).congr
      (by cases deinitDependencies <;> decide)

end

end Ps2Drivers
