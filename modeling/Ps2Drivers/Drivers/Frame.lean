import Ps2Drivers.Drivers.Teardown

/-!
# What a driver does not touch

A module no operation names stays as it was, together with its staged payload and the result its
next execution would have; so the first block of a driver decides alone whether anything is loaded.
-/

open Binary CString

namespace Ps2Drivers

/-! ## 1. A module that waits -/

namespace Machine

/-- The module is available, and the next execution would leave it loaded. -/
def wouldStart (console : Console) (m : Irx) (s : Machine) : Bool :=
  (s.irxPayload console m).isSome &&
    !(IrxVars.mk (s.answer console m).1 (s.answer console m).2).checkErr

end Machine

/-- The module is reset, and executing it would do what it would have done in `s₀`. -/
structure Fresh (console : Console) (m : Irx) (s₀ s : Machine) : Prop where
  valid : s.world.Valid
  reset : s.irx m = .reset
  answer : s.answer console m = s₀.answer console m
  payload : s.irxPayload console m = s₀.irxPayload console m

theorem Fresh.wouldStart_eq {console : Console} {m : Irx} {s₀ s : Machine}
    (h : Fresh console m s₀ s) : s.wouldStart console m = s₀.wouldStart console m := by
  unfold Machine.wouldStart
  rw [h.answer, h.payload]

section

variable {console : Console} {op : DriverOp} {m : Irx} {s₀ s s' : Machine}

theorem Machine.answer_cons {e : Event} (he : e.isExec m = false) {trace : List Event}
    (hs' : s'.trace = e :: trace) (hs : s.trace = trace) :
    s'.answer console m = s.answer console m := by
  unfold Machine.answer
  rw [hs', hs, List.countP_cons_of_neg (by simpa using he)]

theorem Machine.consume_valid {w : World} (hw : w.Valid) :
    (Machine.consume console m w).Valid := by
  unfold Machine.consume
  cases console.flavor with
  | embedded data => exact hw
  | image => exact (hw.release (irxId m)).1

/-- Another module's payload stays where it is. -/
theorem Machine.irxPayload_consume {m' : Irx} (hne : m ≠ m') (hw : s.world.Valid)
    (hs' : s'.world = Machine.consume console m' s.world) :
    s'.irxPayload console m = s.irxPayload console m := by
  unfold Machine.irxPayload
  rw [hs', Machine.consume]
  cases console.flavor with
  | embedded data => rfl
  | image =>
    dsimp only
    rw [(hw.release (irxId m')).2, Provider.payload_released hw.invariant,
      if_neg (mt (irxId_injective ·) hne)]

theorem ModuleEffect.valid (h : ModuleEffect console s op s') (hs : s.world.Valid) :
    s'.world.Valid := by
  cases h with
  | quiet _ _ _ _ hworld =>
    rw [hworld]
    exact hs
  | executed => exact Machine.consume_valid hs
  | unloaded => exact hs

theorem ModuleEffect.irxPayload_eq (h : ModuleEffect console s op s') (hop : op.spares m)
    (hs : s.world.Valid) : s'.irxPayload console m = s.irxPayload console m := by
  cases h with
  | quiet _ _ _ _ hworld =>
    unfold Machine.irxPayload
    rw [hworld]
  | executed m' args => exact Machine.irxPayload_consume (Ne.symm hop) hs rfl
  | unloaded => rfl

theorem ModuleEffect.answer_eq (h : ModuleEffect console s op s') (hop : op.spares m) :
    s'.answer console m = s.answer console m := by
  cases h with
  | quiet es hes htrace =>
    unfold Machine.answer
    rw [htrace, countP_isExec_append hes]
  | executed m' args =>
    apply Machine.answer_cons _ (Machine.executed_trace ..) rfl
    exact beq_eq_false_iff_ne.mpr hop
  | unloaded m' result =>
    exact Machine.answer_cons (e := .unload m' (s.irx m').id result) rfl rfl rfl

theorem ModuleEffect.fresh (h : ModuleEffect console s op s') (hop : op.spares m)
    (hs : Fresh console m s₀ s) : Fresh console m s₀ s' where
  valid := h.valid hs.valid
  reset := (h.irx_eq hop).trans hs.reset
  answer := (h.answer_eq hop).trans hs.answer
  payload := (h.irxPayload_eq hop hs.valid).trans hs.payload

theorem Program.Triple.keepsFresh {α : Type} {p : DriverM α} (hp : p.Within (DriverOp.spares m)) :
    Program.Triple console.step (Fresh console m s₀) p fun _ =>
      Fresh console m s₀ :=
  Program.Triple.keeps hp fun _ hop _ _ hs hstep => (step_effect hstep).fresh hop hs

theorem DriverOp.spares.leaves (op : DriverOp) (h : op.spares m) : op.leaves [m] := by
  cases op with
  | unloadIrx m' => exact fun hm => h (List.mem_singleton.mp hm)
  | _ => trivial

theorem DriverOp.bringsUp.spares {ms : List Irx} (hm : m ∉ ms) (op : DriverOp)
    (h : op.bringsUp ms) : op.spares m := by
  cases op with
  | loadIrx m' args => exact fun heq => hm (heq ▸ h)
  | unloadIrx m' => exact h.elim
  | _ => trivial

/-! ## 2. The first block -/

theorem loadIrx_starts (hstart : s₀.wouldStart console m = true) (args : Option Bytes) :
    Program.Triple console.step (Fresh console m s₀) (loadIrx m args) fun goesOn s =>
      goesOn = true ∧ s.Started [m] := by
  refine Program.Triple.of_run (fun s => loadIrx_run console s m args) fun s hs => ?_
  rw [← hs.wouldStart_eq, Machine.wouldStart, Bool.and_eq_true, Bool.not_eq_true'] at hstart
  exact loadIrx_started args hstart.2 (fun _ => Option.isSome_iff_exists.mp hstart.1)
    (Or.inl hs.reset)

theorem loadIrx_stops (hstop : s₀.wouldStart console m = false) (args : Option Bytes)
    (ms : List Irx) :
    Program.Triple console.step (fun s => Fresh console m s₀ s ∧ s.LoadedIn ms) (loadIrx m args)
      fun goesOn s => goesOn = false ∧ s.LoadedIn ms := by
  constructor
  intro s ⟨hs, hin⟩ r hr
  rw [← hs.wouldStart_eq, Machine.wouldStart] at hstop
  rw [loadIrx_run, Machine.loadIrx_eq, if_pos hs.reset] at hr
  cases hpayload : s.irxPayload console m with
  | none =>
    rw [hpayload] at hr
    rw [← Option.some.inj hr]
    exact ⟨rfl, hin⟩
  | some payload =>
    rw [hpayload, Option.isSome_some, Bool.true_and] at hstop
    rw [hpayload] at hr
    rw [← Option.some.inj hr]
    -- the execution failed, so the module does not count as loaded
    refine ⟨hstop, fun m' hm' => ?_⟩
    change ((s.executed console m args payload).irx m').checkErr = false at hm'
    rw [Machine.executed_irx] at hm'
    by_cases heq : m' = m
    · rw [heq, Function.update_self] at hm'
      rw [hm'] at hstop
      cases hstop
    · rw [Function.update_of_ne heq] at hm'
      exact hin m' hm'

end

/-- The program loads `m` first, and nothing else when that fails. -/
structure FirstSpec (m : Irx) (p : DriverM Int) : Prop where
  starts : ∀ (console : Console) (s₀ : Machine), s₀.wouldStart console m = true →
    Program.Triple console.step (Fresh console m s₀) p fun _ s => s.Started [m]
  stops : ∀ (console : Console) (s₀ : Machine), s₀.wouldStart console m = false → ∀ ms,
    Program.Triple console.step (fun s => Fresh console m s₀ s ∧ s.LoadedIn ms) p
      fun status s => status < 0 ∧ s.LoadedIn ms

section

variable {m : Irx} {ms : List Irx} {p rest : DriverM Int}

theorem loadIRXs_first {args : Option Bytes} {e : Int} {blocks : List IrxBlock}
    (hspec : TakeSpec ms (loadIRXs (⟨m, args, e⟩ :: blocks) rest)) (hneg : e < 0) :
    FirstSpec m (loadIRXs (⟨m, args, e⟩ :: blocks) rest) := by
  have hrest : (loadIRXs blocks rest).Within (DriverOp.bringsUp ms) := hspec.within.2 true
  constructor
  · intro console s₀ hstart
    refine Program.Triple.bind (loadIrx_starts hstart args) fun goesOn => ?_
    apply Program.Triple.of_pure
    intro hgoes
    rw [if_pos hgoes]
    exact Program.Triple.keepsStarted _ hrest
  · intro console s₀ hstop loaded
    refine Program.Triple.bind (loadIrx_stops hstop args loaded) fun goesOn => ?_
    apply Program.Triple.of_pure
    intro hgoes
    rw [hgoes]
    exact Program.Triple.ret fun s hs => ⟨hneg, hs⟩

theorem returnStatus_first (d : Driver) (hp : FirstSpec m p) : FirstSpec m (returnStatus d p) := by
  have hset (status : Int) : (setStatus d status).Within (DriverOp.bringsUp []) :=
    setStatus_within.mpr trivial
  constructor
  · intro console s₀ hstart
    refine Program.Triple.bind (hp.starts console s₀ hstart) fun status => ?_
    refine Program.Triple.bind (Program.Triple.keepsStarted _ (hset status)) fun _ => ?_
    exact Program.Triple.ret fun _ hs => hs
  · intro console s₀ hstop loaded
    refine Program.Triple.bind (hp.stops console s₀ hstop loaded) fun status => ?_
    apply Program.Triple.of_pure
    intro hneg
    have hkeep : Program.Triple console.step (Machine.LoadedIn loaded) (setStatus d status)
        fun _ => Machine.LoadedIn loaded :=
      Program.Triple.keepsLoadedIn (setStatus_within.mpr trivial)
    exact Program.Triple.bind hkeep fun _ => Program.Triple.ret fun _ hs => ⟨hneg, hs⟩

theorem withLibraries_first (d : Driver) (hp : FirstSpec m p)
    (hrest : (returnStatus d rest).Within (DriverOp.bringsUp [])) :
    FirstSpec m (withLibraries d p rest) := by
  have hset (status : Int) : (setStatus d status).Within (DriverOp.bringsUp []) :=
    setStatus_within.mpr trivial
  constructor
  · intro console s₀ hstart
    refine Program.Triple.bind (hp.starts console s₀ hstart) fun status => ?_
    refine Program.Triple.bind (Program.Triple.keepsStarted _ (hset status)) fun _ => ?_
    apply Program.Triple.branch
    · exact fun _ => Program.Triple.ret fun _ hs => hs
    · exact fun _ => Program.Triple.keepsStarted _ hrest
  · intro console s₀ hstop loaded
    refine Program.Triple.bind (hp.stops console s₀ hstop loaded) fun status => ?_
    apply Program.Triple.of_pure
    intro hneg
    have hkeep : Program.Triple console.step (Machine.LoadedIn loaded) (setStatus d status)
        fun _ => Machine.LoadedIn loaded :=
      Program.Triple.keepsLoadedIn (setStatus_within.mpr trivial)
    refine Program.Triple.bind hkeep fun _ => ?_
    rw [if_pos hneg]
    exact Program.Triple.ret fun _ hs => ⟨hneg, hs⟩

/-- The dependency's first module comes first. -/
theorem withDependency_first {init : DriverM Int} {refused : Int → Bool} {e : Int}
    (hinit : FirstSpec m init) (hrefused : ∀ status, status < 0 → refused status = true)
    (he : e < 0) (hrest : rest.Within (DriverOp.bringsUp ms)) :
    FirstSpec m (withDependency true init refused (pure e) rest) := by
  constructor
  · intro console s₀ hstart
    refine Program.Triple.bind (hinit.starts console s₀ hstart) fun status => ?_
    apply Program.Triple.branch
    · exact fun _ => Program.Triple.ret fun _ hs => hs
    · exact fun _ => Program.Triple.keepsStarted _ hrest
  · intro console s₀ hstop loaded
    refine Program.Triple.bind (hinit.stops console s₀ hstop loaded) fun status => ?_
    apply Program.Triple.of_pure
    intro hneg
    rw [if_pos (hrefused status hneg)]
    exact Program.Triple.ret fun _ hs => ⟨he, hs⟩

end

/-! ## 3. The globals -/

/-- The globals that only an assignment changes. -/
structure SameGlobals (s s' : Machine) : Prop where
  status : s'.status = s.status
  mountString : s'.mountString = s.mountString
  mountStatus : s'.mountStatus = s.mountStatus
  bootDeviceId : s'.bootDeviceId = s.bootDeviceId

theorem SameGlobals.refl (s : Machine) : SameGlobals s s := ⟨rfl, rfl, rfl, rfl⟩

theorem SameGlobals.trans {s t u : Machine} (h : SameGlobals s t) (h' : SameGlobals t u) :
    SameGlobals s u where
  status := h'.status.trans h.status
  mountString := h'.mountString.trans h.mountString
  mountStatus := h'.mountStatus.trans h.mountStatus
  bootDeviceId := h'.bootDeviceId.trans h.bootDeviceId

def DriverOp.assigns : DriverOp → Bool
  | .setStatus _ _ | .setMountStatus _ | .setMountString _ => true
  | _ => false

section

variable {console : Console} {s s' : Machine}

theorem Machine.lib_globals (call : LibCall) : SameGlobals s (s.lib console call).2 := by
  unfold Machine.lib
  cases call <;> dsimp only
  case chdir path => split <;> exact ⟨rfl, rfl, rfl, rfl⟩
  all_goals exact ⟨rfl, rfl, rfl, rfl⟩

theorem Machine.untilOk_globals {call : LibCall} (n : Nat)
    (h : s.untilOk console call n = some s') : SameGlobals s s' := by
  induction n generalizing s with
  | zero => cases h
  | succ n ih =>
    rw [Machine.untilOk_succ] at h
    by_cases hfail : (s.lib console call).1 < 0
    · rw [if_pos hfail] at h
      exact (Machine.lib_globals call).trans (ih h)
    · rw [if_neg hfail] at h
      rw [← Option.some.inj h]
      exact Machine.lib_globals call

theorem step_globals {op : DriverOp} {r : op.Answer × Machine} (hop : op.assigns = false)
    (h : console.step op s = some r) : SameGlobals s r.2 := by
  cases op with
  | loadIrx m args =>
    rw [← Option.some.inj h]
    show SameGlobals s (s.loadIrx console m args).2
    rw [Machine.loadIrx_eq]
    split
    · split <;> exact ⟨rfl, rfl, rfl, rfl⟩
    · exact .refl s
  | unloadIrx m =>
    rw [← Option.some.inj h]
    show SameGlobals s (s.unloadIrx console m)
    unfold Machine.unloadIrx
    split <;> exact ⟨rfl, rfl, rfl, rfl⟩
  | lib call =>
    rw [← Option.some.inj h]
    exact Machine.lib_globals call
  | untilOk call =>
    obtain ⟨s', hs', hr⟩ := Option.map_eq_some_iff.mp h
    rw [← hr]
    exact Machine.untilOk_globals _ hs'
  | abort => cases h
  -- the assignments are excluded
  | setStatus | setMountStatus | setMountString => cases hop
  | _ =>
    rw [← Option.some.inj h]
    exact .refl s

end

end Ps2Drivers
