import Ps2Drivers.Drivers.Unloading
import Ps2Drivers.Drivers.Undo

/-!
# The network wrappers

`ps2_network_driver.h` wraps the two IP stacks under the names of the network driver.  The wrapper
that takes the IOP stack down calls the initialisation of the stack.
-/

open Binary CString

namespace Ps2Drivers

/-! ## 1. Executing nothing -/

section

variable {console : Console} {s t u : Machine} {α β : Type}

theorem execs_length_le (h : s.trace <:+ t.trace) :
    (execs s.trace).length ≤ (execs t.trace).length :=
  (h.filterMap _).length_le

/-- What executes nothing in all executes nothing up to any state in between. -/
theorem execs_between (hst : s.trace <:+ t.trace) (htu : t.trace <:+ u.trace)
    (h : execs u.trace = execs s.trace) : execs t.trace = execs s.trace := by
  have hle := execs_length_le htu
  rw [h] at hle
  exact ((hst.filterMap _).eq_of_length_le hle).symm

/-- The blocks find nothing to execute: each of them is passed over, up to one whose module is not
available. -/
def Machine.loadsNothing (console : Console) (s : Machine) : List IrxBlock → Prop
  | [] => True
  | block :: blocks =>
    if s.irx block.irx = .reset then s.irxPayload console block.irx = none
    else s.loadsNothing console blocks

theorem loadIRXs_execs {blocks : List IrxBlock} {rest : DriverM Int}
    (hrest : rest.Within (DriverOp.loadsIn [])) {r : Int × Machine}
    (hrun : (loadIRXs blocks rest).run console.step s = some r) :
    execs r.2.trace = execs s.trace ↔ s.loadsNothing console blocks := by
  induction blocks with
  | nil => exact iff_of_true ((Program.Triple.keepsExecs hrest _).holds s rfl r hrun) trivial
  | cons block blocks ih =>
    rw [loadIRXs, Program.run_bind, loadIrx_run, Machine.loadIrx_eq] at hrun
    rw [Machine.loadsNothing]
    by_cases hreset : s.irx block.irx = .reset
    · rw [if_pos hreset] at hrun ⊢
      cases hpayload : s.irxPayload console block.irx with
      | none =>
        -- the block fails, and the function returns its error
        rw [hpayload] at hrun
        rw [← Option.some.inj hrun]
        exact iff_of_true rfl rfl
      | some payload =>
        -- whatever follows, one execution is on the trace
        rw [hpayload] at hrun
        have hle := execs_length_le (run_suffix console hrun)
        refine iff_of_false (fun heq => ?_) (Option.some_ne_none payload)
        rw [heq] at hle
        exact absurd hle (Nat.not_succ_le_self _)
    · rw [if_neg hreset] at hrun ⊢
      exact ih hrun

/-- Only the first part may execute anything. -/
theorem execs_first {p : DriverM α} {q : α → DriverM β}
    (hq : ∀ a, (q a).Within (DriverOp.loadsIn [])) {r : β × Machine}
    (hrun : (p >>= q).run console.step s = some r) :
    ∃ r', p.run console.step s = some r' ∧ execs r.2.trace = execs r'.2.trace := by
  rw [Program.run_bind] at hrun
  obtain ⟨r', hfirst, hrun⟩ := Option.bind_eq_some_iff.mp hrun
  exact ⟨r', hfirst, (Program.Triple.keepsExecs (hq r'.1) _).holds r'.2 rfl r hrun⟩

theorem setStatus_loadsIn (d : Driver) (status : Int) (ms : List Irx) :
    (setStatus d status).Within (DriverOp.loadsIn ms) := setStatus_within.mpr trivial

/-! ## 2. The call that takes the IOP stack down -/

/-- The block of dev9, which comes first when the dependencies are asked for. -/
def dev9Blocks : List IrxBlock := [⟨.ps2dev9, none, Dev9InitStatus.irxError⟩]

def iopipBlocks : List IrxBlock :=
  [⟨.ps2ipNm, none, IopipInitStatus.ps2ipNmIrxError⟩,
    ⟨.ps2ips, none, IopipInitStatus.ps2ipsIrxError⟩]

theorem initDev9Driver_execs {r : Int × Machine}
    (hrun : initDev9Driver.run console.step s = some r) :
    execs r.2.trace = execs s.trace ↔ s.loadsNothing console dev9Blocks := by
  obtain ⟨r', hload, hsame⟩ := execs_first (fun status => Program.Within.bind
    (setStatus_loadsIn .dev9 status []) fun _ => Program.within_pure status) hrun
  rw [hsame]
  exact loadIRXs_execs (Program.within_pure _) hload

/-- Without its dependencies the stack has two blocks. -/
theorem initIopipDriver_execs {r : Int × Machine}
    (hrun : (initIopipDriver false).run console.step s = some r) :
    execs r.2.trace = execs s.trace ↔ s.loadsNothing console iopipBlocks := by
  obtain ⟨r', hload, hsame⟩ := execs_first (fun status =>
    Program.Within.bind (setStatus_loadsIn .iopip status []) fun _ => Program.within_ite
      (Program.within_pure status) <| Program.Within.bind
        (Program.Within.bind (lib_within.mpr trivial) fun result =>
          Program.within_ite (Program.within_pure _) (Program.within_pure _)) fun status =>
        Program.Within.bind (setStatus_loadsIn .iopip status []) fun _ =>
          Program.within_pure status) hrun
  rw [hsame]
  exact loadIRXs_execs (Program.within_pure _) hload

/-- With its dependencies, the stack gives up when dev9 is not available. -/
theorem initIopipDriver_stops (hreset : s.irx .ps2dev9 = .reset)
    (hpayload : s.irxPayload console .ps2dev9 = none) :
    (initIopipDriver true).run console.step s = some (IopipInitStatus.dependencyIrxError,
      { s with status := Function.update s.status .dev9 Dev9InitStatus.irxError }) := by
  have hdev9 : initDev9Driver.run console.step s = some (Dev9InitStatus.irxError,
      { s with status := Function.update s.status .dev9 Dev9InitStatus.irxError }) := by
    rw [initDev9Driver, returnStatus, loadIRXs, Program.run_bind, Program.run_bind, loadIrx_run,
      Machine.loadIrx_eq, if_pos hreset, hpayload]
    rfl
  rw [initIopipDriver, withNetwork, withDependency, if_pos rfl, Program.run_bind, hdev9]
  rfl

/-- None of the five modules is loaded when the call is over: nothing was, and nothing could be. -/
theorem initIopipDriver_down_iff (hs : s.Accounted) (hloads : console.Loads) {r : Int × Machine}
    (hrun : (initIopipDriver true).run console.step s = some r) :
    (execs r.2.trace = execs s.trace ∧
        ∀ m ∈ Driver.iopip.responsible true, loaded m r.2.trace = false) ↔
      (∀ m ∈ Driver.iopip.responsible true, loaded m s.trace = false) ∧
        s.irxPayload console .ps2dev9 = none := by
  have hr := run_accounted hloads hs hrun
  constructor
  · rintro ⟨hnothing, hdown⟩
    -- an initialisation unloads nothing, so what is down now was down before
    have hbefore (m : Irx) (hm : m ∈ Driver.iopip.responsible true) : loaded m s.trace = false := by
      cases hup : loaded m s.trace with
      | false => rfl
      | true =>
        rw [hs.tracked m, Bool.not_eq_true'] at hup
        have hkeeps : Program.Triple console.step (Machine.Started [m]) (initDriver .iopip true false)
            fun _ => Machine.Started [m] :=
          Program.Triple.keepsStarted [m] (initDriver_within .iopip true false (List.Subset.refl _))
        have hstays := hkeeps.holds s (fun m' hm' => by rwa [List.mem_singleton.mp hm']) r hrun m
          (List.mem_singleton_self m)
        have hgone := hdown m hm
        rw [hr.tracked m, hstays] at hgone
        cases hgone
    refine ⟨hbefore, ?_⟩
    rw [initIopipDriver, withNetwork, withDependency, if_pos rfl, Program.run_bind] at hrun
    obtain ⟨r', hdev9, hrun⟩ := Option.bind_eq_some_iff.mp hrun
    -- nothing is executed in all, hence not by the first block either
    have hsame := execs_between (run_suffix console hdev9) (run_suffix console hrun) hnothing
    have hloadsNothing := (initDev9Driver_execs hdev9).mp hsame
    rw [dev9Blocks, Machine.loadsNothing,
      if_pos (hs.loaded_eq_false.mp (hbefore .ps2dev9 (by decide)))] at hloadsNothing
    exact hloadsNothing
  · rintro ⟨hdown, hpayload⟩
    have hreset := hs.loaded_eq_false.mp (hdown .ps2dev9 (by decide))
    rw [initIopipDriver_stops hreset hpayload] at hrun
    rw [← Option.some.inj hrun]
    exact ⟨rfl, hdown⟩

end

/-! ## 3. Runs of the wrappers -/

/-- The calls of `ps2_network_driver.h`. -/
inductive NetworkCall
  | init (stack : NetworkStack) (initDependencies : Bool)
  | deinit (stack : NetworkStack) (deinitDependencies : Bool)
  deriving DecidableEq, Repr

namespace NetworkCall

def run : NetworkCall → DriverM Int
  | .init stack initDependencies => (PublicCall.initNetwork stack initDependencies).run
  | .deinit stack deinitDependencies => (PublicCall.deinitNetwork stack deinitDependencies).run

def isDeinit : NetworkCall → Bool
  | .init _ _ => false
  | .deinit _ _ => true

def takesDown : NetworkCall → List Irx
  | .init _ _ | .deinit _ false => []
  | .deinit .iop true => Driver.iopip.responsible true
  | .deinit _ true => Driver.eeip.responsible true

end NetworkCall

example : (NetworkCall.deinit .iop true).takesDown =
    [.ps2dev9, .netman, .smap, .ps2ipNm, .ps2ips] := by decide

structure PairsUp (call : NetworkCall) (s t : Machine) : Prop where
  executesNothing : call.isDeinit = true → execs t.trace = execs s.trace
  unloaded : ∀ m ∈ call.takesDown, loaded m t.trace = false

/-- When the initialisation that stands in for a deinitialisation does no harm: there is nothing to
take down, or nothing to load. -/
def NetworkCall.harmless (console : Console) (s : Machine) : NetworkCall → Prop
  | .deinit .iop true => (∀ m ∈ Driver.iopip.responsible true, loaded m s.trace = false) ∧
      s.irxPayload console .ps2dev9 = none
  | .deinit .iop false =>
    if loaded .ps2ipNm s.trace then
      loaded .ps2ips s.trace = true ∨ s.irxPayload console .ps2ips = none
    else s.irxPayload console .ps2ipNm = none
  | _ => True

section

variable {console : Console} {s : Machine}

theorem initIopipDriver_returns (deps : Bool) :
    (initIopipDriver deps).Within DriverOp.returns :=
  (initDriver_within .iopip deps false (List.Subset.refl _)).mono DriverOp.bringsUp.returns

theorem deinitEeipDriver_returns (deps : Bool) :
    (deinitEeipDriver deps).Within DriverOp.returns :=
  (deinitDriver_deinit deps .eeip).within.mono DriverOp.tearsDown.returns

theorem NetworkCall.run_returns (call : NetworkCall) : call.run.Within DriverOp.returns := by
  have heeip (deps : Bool) : (initEeipDriver deps).Within DriverOp.returns :=
    (initDriver_within .eeip deps false (List.Subset.refl _)).mono DriverOp.bringsUp.returns
  cases call with
  | init stack deps =>
    cases stack with
    | default | ee => exact heeip deps
    | iop => exact initIopipDriver_returns deps
  | deinit stack deps =>
    refine Program.Within.bind ?_ fun _ => Program.within_pure _
    cases stack with
    | default | ee => exact deinitEeipDriver_returns deps
    | iop => exact Program.Within.bind (initIopipDriver_returns deps) fun _ => Program.within_pure _

/-- The EE stack is taken down by the deinitialisation. -/
theorem deinitEeipDriver_pairsUp (hs : s.Accounted) (hloads : console.Loads) (deps : Bool)
    {r : Unit × Machine} (hrun : (deinitEeipDriver deps).run console.step s = some r) :
    execs r.2.trace = execs s.trace ∧
      ∀ m ∈ Driver.eeip.unloadOrder deps, loaded m r.2.trace = false := by
  have hwithin : (deinitEeipDriver deps).Within (DriverOp.loadsIn []) :=
    (deinitDriver_deinit deps .eeip).within.mono (DriverOp.tearsDown.loadsIn [])
  refine ⟨(Program.Triple.keepsExecs hwithin _).holds s rfl r hrun, fun m hm => ?_⟩
  have hunloaded := (deinitDriver_emits .eeip deps).run (unloadedBy_tracks console) hwithin hrun
  rw [hunloaded.loaded hs (run_accounted hloads hs hrun), decide_eq_false (not_not.mpr hm),
    Bool.and_false]

theorem loadsNothing_iopip_iff (hs : s.Accounted) :
    s.loadsNothing console iopipBlocks ↔ (NetworkCall.deinit .iop false).harmless console s := by
  have hreset (m : Irx) : s.irx m = .reset ↔ loaded m s.trace = false :=
    hs.loaded_eq_false.symm
  simp only [iopipBlocks, Machine.loadsNothing, NetworkCall.harmless, hreset]
  cases loaded .ps2ipNm s.trace <;> cases loaded .ps2ips s.trace <;> simp

/-- After any run of the wrappers on a console whose modules load and whose device switches off, the
next call returns, and it pairs up exactly when it is no `deinit_network_IOP_driver`, or one that
does no harm. -/
theorem network_pairsUp_iff (hloads : console.Loads) (hoff : ∀ past, 0 ≤ console.lib dev9Off past)
    (hpatient : 0 < console.patience) {cwd : Bytes} {w : World} {steps : List (Machine × NetworkCall)}
    (hrun : Program.History console.step NetworkCall.run (Machine.initial cwd w) steps s)
    (call : NetworkCall) :
    ∃ r, call.run.run console.step s = some r ∧
      (PairsUp call s r.2 ↔ call.harmless console s) := by
  have hs : s.Accounted := hrun.keeps (Machine.initial_accounted cwd w) fun _ _ _ hs hr =>
    run_accounted hloads hs hr
  obtain ⟨r, hr⟩ := Program.run_returns call.run_returns
    (fun op hop s => DriverOp.returns.step hoff hpatient op hop s) s
  refine ⟨r, hr, ?_⟩
  cases call with
  | init stack deps =>
    -- an initialisation has nothing to pair up with
    exact iff_of_true ⟨nofun, nofun⟩ trivial
  | deinit stack deps =>
    obtain ⟨t, ht, hend⟩ := Option.bind_eq_some_iff.mp ((Program.run_bind ..).symm.trans hr)
    obtain rfl : r = (0, t.2) := (Option.some.inj hend).symm
    have heeip (hstack : stack = .default ∨ stack = .ee)
        (hdeinit : (deinitEeipDriver deps).run console.step s = some t) :
        PairsUp (.deinit stack deps) s t.2 ∧ (NetworkCall.deinit stack deps).harmless console s := by
      obtain ⟨hexecs, hdown⟩ := deinitEeipDriver_pairsUp hs hloads deps hdeinit
      have hsub : (NetworkCall.deinit stack deps).takesDown ⊆ Driver.eeip.unloadOrder deps := by
        rcases hstack with rfl | rfl <;> cases deps <;> decide
      refine ⟨⟨fun _ => hexecs, fun m hm => hdown m (hsub hm)⟩, ?_⟩
      rcases hstack with rfl | rfl <;> trivial
    cases stack with
    | default => exact iff_of_true (heeip (Or.inl rfl) ht).1 trivial
    | ee => exact iff_of_true (heeip (Or.inr rfl) ht).1 trivial
    | iop =>
      -- the wrapper calls the initialisation and drops what it returns
      obtain ⟨u, hinit, hend⟩ := Option.bind_eq_some_iff.mp ((Program.run_bind ..).symm.trans ht)
      obtain rfl : t = ((), u.2) := (Option.some.inj hend).symm
      cases deps with
      | false =>
        rw [← loadsNothing_iopip_iff hs, ← initIopipDriver_execs hinit]
        exact ⟨fun h => h.executesNothing rfl, fun h => ⟨fun _ => h, nofun⟩⟩
      | true =>
        refine Iff.trans ?_ (initIopipDriver_down_iff hs hloads hinit)
        exact ⟨fun h => ⟨h.executesNothing rfl, h.unloaded⟩, fun h => ⟨fun _ => h.1, h.2⟩⟩

end

/-- What `init_network_driver(true)` has brought up, `deinit_network_driver(true)` takes down. -/
theorem network_pairsUp_iff_default :
    ∃ s, Program.History Console.ready.step NetworkCall.run (Machine.initial [] World.initial)
        [(Machine.initial [] World.initial, .init .default true)] s ∧
      ∃ r, (NetworkCall.deinit .default true).run.run Console.ready.step s = some r ∧
        PairsUp (.deinit .default true) s r.2 := by
  have hoff := Console.ready_documented.dev9Off
  have hpatient := Console.ready_documented.patient
  obtain ⟨r, hr⟩ := Program.run_returns (NetworkCall.run_returns (.init .default true))
    (fun op hop s => DriverOp.returns.step hoff hpatient op hop s)
    (Machine.initial [] World.initial)
  have hrun : Program.History Console.ready.step NetworkCall.run (Machine.initial [] World.initial)
      [(Machine.initial [] World.initial, .init .default true)] r.2 := .next .start hr
  obtain ⟨r', hr', hiff⟩ := network_pairsUp_iff Console.ready_loads hoff hpatient hrun
    (.deinit .default true)
  exact ⟨r.2, hrun, r', hr', hiff.mpr trivial⟩

/-- After `deinit_network_IOP_driver(true)` the stack is still loaded. -/
theorem deinitNetworkIOP_leaves_loaded :
    ¬ ∀ (console : Console), console.Loads → (∀ m k, 0 ≤ console.unload m k) →
      (∀ past, 0 ≤ console.lib dev9Off past) → ∀ (cwd : Bytes) (w : World)
        (steps : List (Machine × NetworkCall)) (s : Machine) (call : NetworkCall)
        (r : Int × Machine),
      Program.History console.step NetworkCall.run (Machine.initial cwd w) steps s →
      call.run.run console.step s = some r → PairsUp call s r.2 := by
  intro h
  have hrun : ((NetworkCall.init .iop true).run.run Console.ready.step
      (Machine.initial [] World.initial)).bind (fun r =>
        ((NetworkCall.deinit .iop true).run.run Console.ready.step r.2).map fun r' =>
          loaded .ps2ips r'.2.trace) = some true := by decide +kernel
  obtain ⟨r, hinit, hrun⟩ := Option.bind_eq_some_iff.mp hrun
  obtain ⟨r', hdeinit, hup⟩ := Option.map_eq_some_iff.mp hrun
  have hpairs := h Console.ready Console.ready_loads (fun _ _ => Int.le_refl 0)
    Console.ready_documented.dev9Off [] World.initial _ r.2 (.deinit .iop true) r'
    (.next (k := .init .iop true) .start hinit) hdeinit
  have hdown := hpairs.unloaded .ps2ips (by decide)
  rw [hup] at hdown
  cases hdown

end Ps2Drivers
