import Ps2Drivers.Drivers.Teardown

/-!
# The order of unloading

A deinitialisation unloads the same modules in the same order on every path, and executes nothing.
So the state in which a module is unloaded, and the one in which the function ends, follow from the
list of modules in front of it.
-/

open Binary CString

namespace Ps2Drivers

/-! ## 1. Unloaded so far -/

def DriverOp.unloads : DriverOp → List Irx
  | .unloadIrx m => [m]
  | _ => []

/-- From `s` to `t` the modules in `ms` were unloaded, as far as they could be, and no others. -/
def UnloadedBy (ms : List Irx) (s t : Machine) : Prop :=
  ∀ m, t.irx m = if m ∈ ms ∧ (s.irx m).checkUnload = true then .reset else s.irx m

theorem Machine.unloadIrx_irx (console : Console) (m m' : Irx) (s : Machine) :
    (s.unloadIrx console m).irx m' =
      if m' = m ∧ (s.irx m').checkUnload = true then .reset else s.irx m' := by
  unfold Machine.unloadIrx
  by_cases hunload : (s.irx m).checkUnload = true
  · rw [if_pos hunload]
    show Function.update s.irx m .reset m' = _
    by_cases hm : m' = m
    · rw [hm, Function.update_self, if_pos ⟨rfl, hunload⟩]
    · rw [Function.update_of_ne hm, if_neg (fun h => hm h.1)]
  · rw [if_neg hunload, if_neg]
    rintro ⟨rfl, h⟩
    exact hunload h

section

variable {console : Console} {s t : Machine} {ms : List Irx}

theorem UnloadedBy.append (h : UnloadedBy ms s t) {ms' : List Irx} {u : Machine}
    (h' : UnloadedBy ms' t u) : UnloadedBy (ms ++ ms') s u := by
  intro m
  have hm := h m
  rw [h' m]
  by_cases hin : m ∈ ms ∧ (s.irx m).checkUnload = true
  · -- unloaded already, and a reset module cannot be unloaded again
    rw [if_pos hin] at hm
    rw [hm, ite_self, if_pos ⟨List.mem_append_left _ hin.1, hin.2⟩]
  · rw [if_neg hin] at hm
    rw [hm]
    by_cases hin' : m ∈ ms' ∧ (s.irx m).checkUnload = true
    · rw [if_pos hin', if_pos ⟨List.mem_append_right _ hin'.1, hin'.2⟩]
    · rw [if_neg hin', if_neg]
      rintro ⟨hmem, hunload⟩
      rcases List.mem_append.mp hmem with hmem | hmem
      · exact hin ⟨hmem, hunload⟩
      · exact hin' ⟨hmem, hunload⟩

theorem step_unloadedBy {op : DriverOp} (hop : op.loadsIn []) {r : op.Answer × Machine}
    (h : console.step op s = some r) : UnloadedBy op.unloads s r.2 := by
  intro m
  have hspared (hm : op.spares m) (hnone : op.unloads = []) :
      r.2.irx m = if m ∈ op.unloads ∧ (s.irx m).checkUnload = true then .reset else s.irx m := by
    rw [(step_effect h).irx_eq hm, hnone, if_neg]
    exact fun hin => List.not_mem_nil hin.1
  cases op with
  | loadIrx m' args => exact absurd hop List.not_mem_nil
  | unloadIrx m' =>
    rw [← Option.some.inj h]
    refine (Machine.unloadIrx_irx console m' m s).trans (if_congr ?_ rfl rfl)
    rw [DriverOp.unloads, List.mem_singleton]
  | _ => exact hspared trivial rfl

theorem unloadedBy_tracks (console : Console) :
    Program.Tracks console.step (DriverOp.loadsIn []) DriverOp.unloads UnloadedBy where
  refl _ _ := by rw [if_neg fun h => List.not_mem_nil h.1]
  step _ _ _ hst _ hop _ h := hst.append (step_unloadedBy hop h)

/-- What is left of a module that is no longer wanted. -/
theorem UnloadedBy.checkErr (h : UnloadedBy ms s t) {m : Irx}
    (hunload : (s.irx m).checkErr = false → (s.irx m).checkUnload = true) :
    (t.irx m).checkErr = if m ∈ ms then true else (s.irx m).checkErr := by
  rw [h m]
  by_cases hin : m ∈ ms
  · rw [if_pos hin]
    cases herr : (s.irx m).checkErr with
    | false => rw [if_pos ⟨hin, hunload herr⟩, IrxVars.checkErr_reset]
    | true =>
      rw [if_neg, herr]
      rintro ⟨-, h⟩
      rw [IrxVars.checkErr_of_checkUnload h] at herr
      cases herr
  · rw [if_neg hin, if_neg fun h => hin h.1]

end

/-! ## 2. Modules that stay -/

def Console.Loads (console : Console) : Prop :=
  ∀ m k, 0 ≤ (console.exec m k).1 ∧ ((console.exec m k).2 = 0 ∨ (console.exec m k).2 = 2)

theorem Console.ready_loads : Console.ready.Loads :=
  fun _ _ => ⟨show (0 : Int) ≤ 7 by decide, Or.inl rfl⟩

/-- The variables account for every instance: a module is reset, or it is loaded and can be
unloaded. -/
structure Machine.Accounted (s : Machine) : Prop where
  tracked : s.Tracked
  reset_or : ∀ m, s.irx m = .reset ∨ (s.irx m).checkUnload = true

theorem Machine.initial_accounted (cwd : Bytes) (w : World) : (Machine.initial cwd w).Accounted :=
  ⟨Machine.initial_tracked cwd w, fun _ => Or.inl rfl⟩

section

variable {console : Console} {op : DriverOp} {s s' : Machine} {m : Irx}

theorem Console.Loads.checkUnload (h : console.Loads) (m : Irx) (s : Machine) :
    (IrxVars.mk (s.answer console m).1 (s.answer console m).2).checkUnload = true := by
  have hanswer : 0 ≤ (s.answer console m).1 ∧
      ((s.answer console m).2 = 0 ∨ (s.answer console m).2 = 2) := h m _
  simpa [IrxVars.checkUnload] using hanswer

theorem Machine.Accounted.loaded_eq (hs : s.Accounted) (m : Irx) :
    loaded m s.trace = (s.irx m).checkUnload := by
  rw [hs.tracked m]
  rcases hs.reset_or m with hreset | hunload
  · rw [hreset]
    rfl
  · rw [IrxVars.checkErr_of_checkUnload hunload, hunload]
    rfl

theorem Machine.Accounted.loaded_eq_false (hs : s.Accounted) :
    loaded m s.trace = false ↔ s.irx m = .reset := by
  rw [hs.loaded_eq]
  constructor
  · intro hnot
    refine (hs.reset_or m).resolve_right fun hunload => ?_
    rw [hnot] at hunload
    cases hunload
  · intro hreset
    rw [hreset]
    rfl

theorem ModuleEffect.accounted (h : ModuleEffect console s op s') (hloads : console.Loads)
    (hs : s.Accounted) : s'.Accounted := by
  refine ⟨h.tracked hs.tracked, fun m => ?_⟩
  rcases h.irx_cases m with hsame | ⟨args, call, -, -, hanswer, -⟩ | ⟨-, -, hreset⟩
  · rw [hsame]
    exact hs.reset_or m
  · rw [hanswer]
    exact Or.inr (hloads.checkUnload m s)
  · exact Or.inl hreset

theorem run_accounted (hloads : console.Loads) {α : Type} {p : DriverM α} {r : α × Machine}
    (hs : s.Accounted) (hr : p.run console.step s = some r) : r.2.Accounted :=
  (Program.Triple.keeps (Program.within_true p)
    (fun _ _ _ _ hs hstep => (step_effect hstep).accounted hloads hs)).holds s hs r hr

/-- Unloading takes down all that it names. -/
theorem UnloadedBy.loaded {ms : List Irx} (h : UnloadedBy ms s s') (hs : s.Accounted)
    (hs' : s'.Accounted) (m : Irx) :
    loaded m s'.trace = (loaded m s.trace && decide (m ∉ ms)) := by
  rw [hs.loaded_eq, hs'.loaded_eq, h m]
  by_cases hin : m ∈ ms
  · rw [decide_eq_false (not_not.mpr hin), Bool.and_false]
    split
    · rfl
    · rename_i hnot
      exact Bool.eq_false_of_not_eq_true fun hunload => hnot ⟨hin, hunload⟩
  · rw [if_neg fun h => hin h.1, decide_eq_true hin, Bool.and_true]

end

/-! ## 3. What each driver unloads -/

/-- A deinitialisation unloads the modules in the order opposite to the one they are loaded in;
only memcard and joystick unload their own in the order of loading. -/
def Driver.unloadOrder (d : Driver) (deinitDependencies : Bool) : List Irx :=
  match d with
  | .memcard | .joystick => d.ownModules ++ if deinitDependencies then [.sio2man] else []
  | _ => (d.responsible deinitDependencies).reverse

section

variable {α : Type} {p : DriverM α} {ms : List Irx}

theorem unloadIRXs_emits (ms : List Irx) : (unloadIRXs ms).Emits DriverOp.unloads ms := by
  induction ms with
  | nil => exact Program.emits_pure ()
  | cons m ms ih =>
    exact Program.Emits.bind (l := [m]) (Program.emits_request _) fun _ => ih

theorem whenEnabled_emits (enabled : Bool) {p : DriverM Unit} (hp : p.Emits DriverOp.unloads ms) :
    (whenEnabled enabled p).Emits DriverOp.unloads (if enabled then ms else []) := by
  cases enabled with
  | false => exact Program.emits_pure ()
  | true => exact hp

/-- A step that unloads nothing, before the rest of the function. -/
theorem emits_after {β : Type} {q : α → DriverM β} (hp : p.Within fun op : DriverOp =>
    op.unloads = []) (hq : ∀ a, (q a).Emits DriverOp.unloads ms) :
    (p >>= q).Emits DriverOp.unloads ms :=
  Program.Emits.bind (l := []) (Program.emits_nil hp) hq

theorem deinitDev9Driver_emits : deinitDev9Driver.Emits DriverOp.unloads [.ps2dev9] := by
  refine emits_after (getStatus_within.mpr rfl) fun status => ?_
  apply Program.emits_ite
  · exact emits_after (untilOk_within.mpr rfl) fun _ => unloadIRXs_emits _
  · exact unloadIRXs_emits _

theorem deinitFileXioDriver_emits :
    deinitFileXioDriver.Emits DriverOp.unloads [.fileXio, .iomanX] :=
  emits_after (lib_within.mpr rfl) fun _ => unloadIRXs_emits _

theorem deinitNetmanDriver_emits : deinitNetmanDriver.Emits DriverOp.unloads [.netman] :=
  emits_after (lib_within.mpr rfl) fun _ => unloadIRXs_emits _

theorem deinitNetwork_emits (deinitDependencies : Bool) :
    (deinitNetwork deinitDependencies).Emits DriverOp.unloads
      (if deinitDependencies then [.smap, .netman, .ps2dev9] else []) :=
  whenEnabled_emits _ <| Program.Emits.bind (l := [.smap]) (unloadIRXs_emits _) fun _ =>
    Program.Emits.bind (l := [.netman]) deinitNetmanDriver_emits fun _ => deinitDev9Driver_emits

theorem deinitDriver_emits (d : Driver) (deinitDependencies : Bool) :
    (deinitDriver d deinitDependencies).Emits DriverOp.unloads
      (d.unloadOrder deinitDependencies) := by
  have hbdm : deinitBdmDriver.Emits DriverOp.unloads [.bdmfsFatfs, .bdm] := unloadIRXs_emits _
  have husbd : deinitUsbdDriver.Emits DriverOp.unloads [.usbd] := unloadIRXs_emits _
  have hsio2man : deinitSio2manDriver.Emits DriverOp.unloads [.sio2man] := unloadIRXs_emits _
  -- the modules of the driver come first, then those of its dependencies
  have hthen (own : List Irx) {deps order : List Irx} {q : DriverM Unit}
      (hq : q.Emits DriverOp.unloads deps)
      (horder : own ++ (if deinitDependencies then deps else []) = order) :
      (unloadIRXs own >>= fun _ => whenEnabled deinitDependencies q).Emits DriverOp.unloads
        order := by
    rw [← horder]
    exact Program.Emits.bind (unloadIRXs_emits own) fun _ => whenEnabled_emits _ hq
  cases d with
  | sio2man | bdm | usbd | cdfs | poweroff | smap =>
    cases deinitDependencies <;> exact unloadIRXs_emits _
  | fileXio => cases deinitDependencies <;> exact deinitFileXioDriver_emits
  | dev9 => cases deinitDependencies <;> exact deinitDev9Driver_emits
  | netman => cases deinitDependencies <;> exact deinitNetmanDriver_emits
  | memcard => exact hthen _ hsio2man rfl
  | usb =>
    refine hthen _ (Program.Emits.bind husbd fun _ => hbdm) ?_
    cases deinitDependencies <;> rfl
  | mx4sio =>
    refine hthen _ (Program.Emits.bind hbdm fun _ => hsio2man) ?_
    cases deinitDependencies <;> rfl
  | hdd =>
    refine hthen _ (Program.Emits.bind hbdm fun _ => Program.Emits.bind deinitDev9Driver_emits
      fun _ => deinitFileXioDriver_emits) ?_
    cases deinitDependencies <;> rfl
  | joystick => exact emits_after (lib_within.mpr rfl) fun _ => hthen _ hsio2man rfl
  | audio =>
    refine emits_after (lib_within.mpr rfl) fun _ => ?_
    cases deinitDependencies <;> exact unloadIRXs_emits _
  | mouse | camera =>
    refine hthen _ husbd ?_
    cases deinitDependencies <;> rfl
  | keyboard =>
    refine emits_after (lib_within.mpr rfl) fun _ => hthen _ husbd ?_
    cases deinitDependencies <;> rfl
  | eeip =>
    have h := deinitNetwork_emits deinitDependencies
    cases deinitDependencies <;> exact h
  | iopip =>
    refine emits_after (lib_within.mpr rfl) fun _ => ?_
    have h := Program.Emits.bind (unloadIRXs_emits [.ps2ips, .ps2ipNm]) fun _ =>
      deinitNetwork_emits deinitDependencies
    cases deinitDependencies <;> exact h

end

end Ps2Drivers
