import Ps2Drivers.Drivers.Filesystem
import Ps2Drivers.Provider.Payload

/-!
# What a step does to the modules

A step of a driver leaves the modules alone, executes one, or unloads one.  From this the link
between a module's variables and the instances the trace shows as loaded follows for every
program.
-/

open Binary CString

namespace Ps2Drivers

/-! ## 1. What the trace says -/

/-- The event starts an instance of the module: `id >= 0` and `ret != 1`. -/
def Event.starts (m : Irx) : Event → Bool
  | .exec m' _ result => m' == m && (decide (0 ≤ result.1) && result.2 != 1)
  | _ => false

def Event.isLibrary : Event → Bool
  | .lib _ _ => true
  | _ => false

/-- An instance of the module was started and has not been unloaded since. -/
def loaded (m : Irx) : List Event → Bool
  | [] => false
  | e :: rest => e.starts m || (!e.isUnload m && loaded m rest)

/-- The calls of `SifExecModuleBuffer`, newest first. -/
def execs (trace : List Event) : List (Irx × SifExec × (Int × Int)) :=
  trace.filterMap fun
    | .exec m call result => some (m, call, result)
    | _ => none

section

variable {es trace : List Event} (hes : ∀ e ∈ es, e.isLibrary = true)

include hes

/-- What passes over every library call passes over any number of them. -/
theorem append_of_libraries {β : Type} {f : List Event → β}
    (hf : ∀ call result rest, f (.lib call result :: rest) = f rest) :
    f (es ++ trace) = f trace := by
  induction es with
  | nil => rfl
  | cons e es ih =>
    have hrest := ih fun e he => hes e (List.mem_cons_of_mem _ he)
    have he := hes e List.mem_cons_self
    cases e with
    | lib call result => exact (hf call result (es ++ trace)).trans hrest
    | exec | unload => cases he

theorem loaded_append (m : Irx) : loaded m (es ++ trace) = loaded m trace :=
  append_of_libraries hes fun _ _ _ => rfl

theorem execs_append : execs (es ++ trace) = execs trace :=
  append_of_libraries hes fun _ _ _ => rfl

theorem countP_isExec_append (m : Irx) :
    (es ++ trace).countP (·.isExec m) = trace.countP (·.isExec m) := by
  rw [List.countP_append, Nat.add_eq_right, List.countP_eq_zero]
  intro e he
  have hlib := hes e he
  cases e with
  | lib call result => exact Bool.false_ne_true
  | exec | unload => cases hlib

end

/-! ## 2. The two module blocks -/

namespace IrxVars

theorem checkLoad_iff {v : IrxVars} : v.checkLoad = true ↔ v = reset := by
  rw [checkLoad, Bool.and_eq_true, beq_iff_eq, beq_iff_eq]
  constructor
  · intro h
    cases v
    obtain ⟨rfl, rfl⟩ := h
    rfl
  · rintro rfl
    exact ⟨rfl, rfl⟩

@[simp] theorem checkErr_reset : reset.checkErr = true := rfl

theorem ne_reset {v : IrxVars} (h : v.checkErr = false) : v ≠ reset := by
  rintro rfl
  cases h

/-- Only a module that started is unloaded. -/
theorem checkErr_of_checkUnload {v : IrxVars} (h : v.checkUnload = true) : v.checkErr = false := by
  unfold checkUnload at h
  unfold checkErr
  simp only [Bool.and_eq_true, Bool.or_eq_true, decide_eq_true_eq, beq_iff_eq] at h
  simp only [Bool.or_eq_false_iff, decide_eq_false_iff_not, beq_eq_false_iff_ne]
  omega

end IrxVars

theorem Event.starts_exec (m m' : Irx) (call : SifExec) (result : Int × Int) :
    (Event.exec m' call result).starts m =
      (m' == m && !(IrxVars.mk result.1 result.2).checkErr) := by
  have hneg : decide (result.1 < 0) = !decide (0 ≤ result.1) := by
    by_cases h : 0 ≤ result.1 <;> simp [h]
    omega
  show (m' == m && _) = (m' == m && !(decide (result.1 < 0) || result.2 == 1))
  rw [hneg, Bool.not_or, Bool.not_not]
  rfl

namespace Machine

/-- The bytes `ps2_irx_exec` would hand to the loader. -/
def irxPayload (console : Console) (m : Irx) (s : Machine) : Option Bytes :=
  match console.flavor with
  | .embedded data => some ((data m).take (UInt32.ofNat (data m).length).toNat)
  | .image => (s.world.provider.payload (irxId m)).map fun found =>
      found.1.bytes.take found.2.toNat

/-- What the next execution of the module would return. -/
def answer (console : Console) (m : Irx) (s : Machine) : Int × Int :=
  console.exec m (s.trace.countP (·.isExec m))

def consume (console : Console) (m : Irx) (w : World) : World :=
  match console.flavor with
  | .embedded _ => w
  | .image => (ps2DriversImgReleaseStaged (irxId m) w).2

def executed (console : Console) (m : Irx) (args : Option Bytes) (payload : Bytes)
    (s : Machine) : Machine :=
  let answer := s.answer console m
  let call : SifExec := ⟨payload, (args.map List.length).getD 0, args⟩
  ({ s with world := consume console m s.world }.record (.exec m call answer)).setIrx m
    ⟨answer.1, answer.2⟩

theorem ps2IrxExec_eq (console : Console) (m : Irx) (args : Option Bytes) (s : Machine) :
    s.ps2IrxExec console m args =
      match s.irxPayload console m with
      | none => (.failed, s)
      | some payload =>
        let answer := s.answer console m
        let call : SifExec := ⟨payload, (args.map List.length).getD 0, args⟩
        (⟨answer.1, some answer.2, some call⟩,
          { s with world := consume console m s.world }.record (.exec m call answer)) := by
  unfold ps2IrxExec irxPayload consume answer
  cases console.flavor with
  | embedded data => rfl
  | image =>
    dsimp only [Flavor.descriptor]
    rw [ps2IrxExecImage_eq]
    cases s.world.provider.payload (irxId m) <;> rfl

/-- The block of `loadIRXs`, by cases: nothing to do, nothing to execute, or an execution whose
result is stored and checked. -/
theorem loadIrx_eq (console : Console) (m : Irx) (args : Option Bytes) (s : Machine) :
    s.loadIrx console m args =
      if s.irx m = .reset then
        match s.irxPayload console m with
        | none => (false, s)
        | some payload =>
          (!(IrxVars.mk (s.answer console m).1 (s.answer console m).2).checkErr,
            s.executed console m args payload)
      else (true, s) := by
  unfold loadIrx
  by_cases hload : s.irx m = .reset
  · rw [if_pos (IrxVars.checkLoad_iff.mpr hload), if_pos hload, ps2IrxExec_eq]
    cases s.irxPayload console m with
    | none =>
      -- the variables keep their reset values
      have hsame : s.setIrx m ⟨-1, (s.irx m).ret⟩ = s := by
        unfold setIrx
        have hvars : IrxVars.mk (-1) (s.irx m).ret = s.irx m := by
          rw [hload]
          rfl
        rw [hvars, Function.update_eq_self]
      show (false, s.setIrx m ⟨-1, (s.irx m).ret⟩) = (false, s)
      rw [hsame]
    | some payload => rfl
  · rw [if_neg (mt IrxVars.checkLoad_iff.mp hload), if_neg hload]

end Machine

/-! ## 3. Steps -/

inductive ModuleEffect (console : Console) (s : Machine) : DriverOp → Machine → Prop
  | quiet {op : DriverOp} {s' : Machine} (es : List Event)
      (hes : ∀ e ∈ es, e.isLibrary = true) (htrace : s'.trace = es ++ s.trace)
      (hirx : s'.irx = s.irx) (hworld : s'.world = s.world) : ModuleEffect console s op s'
  | executed (m : Irx) (args : Option Bytes) {payload : Bytes} (hreset : s.irx m = .reset)
      (hpayload : s.irxPayload console m = some payload) :
      ModuleEffect console s (.loadIrx m args) (s.executed console m args payload)
  | unloaded (m : Irx) (result : Int) (hunload : (s.irx m).checkUnload = true) :
      ModuleEffect console s (.unloadIrx m)
        ((s.record (.unload m (s.irx m).id result)).setIrx m .reset)

theorem Machine.executed_trace (console : Console) (m : Irx) (args : Option Bytes)
    (payload : Bytes) (s : Machine) :
    (s.executed console m args payload).trace =
      .exec m ⟨payload, (args.map List.length).getD 0, args⟩ (s.answer console m) :: s.trace := rfl

theorem Machine.executed_irx (console : Console) (m : Irx) (args : Option Bytes)
    (payload : Bytes) (s : Machine) :
    (s.executed console m args payload).irx =
      Function.update s.irx m ⟨(s.answer console m).1, (s.answer console m).2⟩ := rfl

theorem Machine.executed_world (console : Console) (m : Irx) (args : Option Bytes)
    (payload : Bytes) (s : Machine) :
    (s.executed console m args payload).world = Machine.consume console m s.world := rfl

theorem ModuleEffect.same (console : Console) (s : Machine) (op : DriverOp) :
    ModuleEffect console s op s :=
  .quiet [] (by simp) rfl rfl rfl

theorem Machine.lib_fst (console : Console) (call : LibCall) (s : Machine) :
    (s.lib console call).1 = console.lib call s.trace := by
  unfold Machine.lib
  cases call <;> rfl

theorem Machine.lib_effect (console : Console) (call : LibCall) (s : Machine) :
    ∃ e : Event, e.isLibrary = true ∧ (s.lib console call).2.trace = e :: s.trace ∧
      (s.lib console call).2.irx = s.irx ∧ (s.lib console call).2.world = s.world := by
  refine ⟨.lib call (console.lib call s.trace), rfl, ?_⟩
  unfold Machine.lib
  cases call <;> dsimp only
  case chdir path => split <;> exact ⟨rfl, rfl, rfl⟩
  all_goals exact ⟨rfl, rfl, rfl⟩

theorem Machine.untilOk_effect (console : Console) (call : LibCall) (n : Nat) {s s' : Machine}
    (h : s.untilOk console call n = some s') :
    ∃ es : List Event, (∀ e ∈ es, e.isLibrary = true) ∧ s'.trace = es ++ s.trace ∧
      s'.irx = s.irx ∧ s'.world = s.world := by
  induction n generalizing s with
  | zero => cases h
  | succ n ih =>
    obtain ⟨e, he, htrace, hirx, hworld⟩ := Machine.lib_effect console call s
    unfold Machine.untilOk at h
    dsimp only at h
    split at h
    · obtain ⟨es, hes, htrace', hirx', hworld'⟩ := ih h
      refine ⟨es ++ [e], ?_, ?_, hirx'.trans hirx, hworld'.trans hworld⟩
      · simpa [or_imp, forall_and] using ⟨hes, he⟩
      · rw [htrace', htrace, List.append_assoc, List.singleton_append]
    · rw [← Option.some.inj h]
      exact ⟨[e], by simpa using he, htrace, hirx, hworld⟩

theorem step_effect {console : Console} {op : DriverOp} {s : Machine} {r : op.Answer × Machine}
    (h : console.step op s = some r) : ModuleEffect console s op r.2 := by
  cases op with
  | loadIrx m args =>
    rw [← Option.some.inj h]
    show ModuleEffect console s _ (s.loadIrx console m args).2
    rw [Machine.loadIrx_eq]
    by_cases hreset : s.irx m = .reset
    · -- without a staged payload the block does nothing
      rw [if_pos hreset]
      cases hpayload : s.irxPayload console m with
      | none => exact .same _ _ _
      | some payload => exact .executed m args hreset hpayload
    · rw [if_neg hreset]
      exact .same _ _ _
  | unloadIrx m =>
    rw [← Option.some.inj h]
    show ModuleEffect console s _ (s.unloadIrx console m)
    unfold Machine.unloadIrx
    split
    · exact .unloaded m _ ‹_›
    · exact .same _ _ _
  | lib call =>
    rw [← Option.some.inj h]
    obtain ⟨e, he, htrace, hirx, hworld⟩ := Machine.lib_effect console call s
    exact .quiet [e] (by simpa using he) htrace hirx hworld
  | untilOk call =>
    obtain ⟨s', hs', hr⟩ := Option.map_eq_some_iff.mp h
    obtain ⟨es, hes, htrace, hirx, hworld⟩ := Machine.untilOk_effect console call _ hs'
    rw [← hr]
    exact .quiet es hes htrace hirx hworld
  | abort => cases h
  | isCOP2Pipelined | getcwd | getStatus | setStatus | getMountStatus | setMountStatus
  | getMountString | setMountString | getBootDeviceId =>
    rw [← Option.some.inj h]
    exact .quiet [] (by simp) rfl rfl rfl

/-! ## 4. What every step preserves -/

section

variable {console : Console} {op : DriverOp} {s s' : Machine}

theorem ModuleEffect.trace_suffix (h : ModuleEffect console s op s') : s.trace <:+ s'.trace := by
  cases h with
  | quiet es _ htrace =>
    rw [htrace]
    exact List.suffix_append es s.trace
  | executed => exact List.suffix_cons _ _
  | unloaded => exact List.suffix_cons _ _

/-- The trace shows an instance of a module as loaded exactly when the module's variables do. -/
def Machine.Tracked (s : Machine) : Prop := ∀ m, loaded m s.trace = !(s.irx m).checkErr

theorem Machine.initial_tracked (cwd : Bytes) (w : World) : (Machine.initial cwd w).Tracked :=
  fun _ => rfl

theorem ModuleEffect.tracked (h : ModuleEffect console s op s') (hs : s.Tracked) :
    s'.Tracked := by
  intro m
  cases h with
  | quiet es hes htrace hirx =>
    rw [htrace, loaded_append hes, hirx]
    exact hs m
  | executed m' args hreset =>
    rw [Machine.executed_trace, Machine.executed_irx, loaded, Event.starts_exec]
    by_cases hm : m = m'
    · -- the variables were reset, so no instance was loaded before
      rw [hm, Function.update_self, beq_self_eq_true, hs m', hreset]
      simp [Event.isUnload]
    · have hne : (m' == m) = false := beq_eq_false_iff_ne.mpr (Ne.symm hm)
      rw [Function.update_of_ne hm, hne, ← hs m]
      simp [Event.isUnload]
  | unloaded m' result hunload =>
    show loaded m (.unload m' (s.irx m').id result :: s.trace) =
      !(Function.update s.irx m' _ m).checkErr
    by_cases hm : m = m'
    · rw [hm, Function.update_self]
      simp [loaded, Event.starts, Event.isUnload]
    · have hne : (m' == m) = false := beq_eq_false_iff_ne.mpr (Ne.symm hm)
      rw [Function.update_of_ne hm, ← hs m]
      simp [loaded, Event.starts, Event.isUnload, hne]

/-- What an operation does to the variables of one module: nothing, or it executes the module, which
was reset, or it unloads it. -/
theorem ModuleEffect.irx_cases (h : ModuleEffect console s op s') (m : Irx) :
    s'.irx m = s.irx m ∨
      (∃ args call, op = .loadIrx m args ∧ s.irx m = .reset ∧
        s'.irx m = ⟨(s.answer console m).1, (s.answer console m).2⟩ ∧
        .exec m call (s.answer console m) ∈ s'.trace) ∨
      op = .unloadIrx m ∧ (s.irx m).checkUnload = true ∧ s'.irx m = .reset := by
  cases h with
  | quiet _ _ _ hirx => exact Or.inl (by rw [hirx])
  | executed m' args hreset =>
    by_cases heq : m = m'
    · obtain rfl := heq
      exact Or.inr (Or.inl ⟨args, _, rfl, hreset, Function.update_self .., List.mem_cons_self⟩)
    · exact Or.inl (Function.update_of_ne heq _ _)
  | unloaded m' result hunload =>
    by_cases heq : m = m'
    · obtain rfl := heq
      exact Or.inr (Or.inr ⟨rfl, hunload, Function.update_self ..⟩)
    · exact Or.inl (Function.update_of_ne heq _ _)

def DriverOp.spares (m : Irx) : DriverOp → Prop
  | .loadIrx m' _ => m' ≠ m
  | .unloadIrx m' => m' ≠ m
  | _ => True

theorem ModuleEffect.irx_eq (h : ModuleEffect console s op s') {m : Irx} (hop : op.spares m) :
    s'.irx m = s.irx m := by
  rcases h.irx_cases m with hsame | ⟨args, call, rfl, -, -, -⟩ | ⟨rfl, -, -⟩
  · exact hsame
  · exact absurd rfl hop
  · exact absurd rfl hop

end

/-! ## 5. Runs -/

theorem run_tracked {α : Type} (console : Console) {p : DriverM α} {s : Machine} {r : α × Machine}
    (hs : s.Tracked) (hr : p.run console.step s = some r) : r.2.Tracked :=
  (Program.Triple.keeps (Program.within_true p)
    (fun _ _ _ _ hs hstep => (step_effect hstep).tracked hs)).holds s hs r hr

theorem run_suffix {α : Type} (console : Console) {p : DriverM α} {s : Machine} {r : α × Machine}
    (hr : p.run console.step s = some r) : s.trace <:+ r.2.trace :=
  Program.run_keeps (R := fun s t : Machine => s.trace <:+ t.trace)
    (fun _ => List.suffix_rfl) (fun _ _ _ => List.IsSuffix.trans)
    (fun _ _ _ _ hstep => (step_effect hstep).trace_suffix) (Program.within_true p) hr

end Ps2Drivers
