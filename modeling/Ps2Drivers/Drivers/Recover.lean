import Ps2Drivers.Drivers.Again

/-!
# Staging too late

An initialisation that finds a module missing leaves a mixture behind: what was staged is loaded,
the rest is still reset, the missing module included, since the executor writes no result.  Reset
means to be executed, so a staging afterwards and a second initialisation load exactly the rest.
-/

open Binary CString

namespace Ps2Drivers

/-! ## 1. Executions -/

/-- How often the module was executed. -/
def Machine.executions (m : Irx) (s : Machine) : Nat := s.trace.countP (·.isExec m)

/-- From `s₀` to `s` modules were executed only while reset, each at most once, and they stayed. -/
structure Loaded (s₀ s : Machine) : Prop where
  kept : ∀ m, s₀.irx m ≠ .reset → s.irx m = s₀.irx m
  started : ∀ m, s₀.irx m = .reset → s.irx m = .reset ∨ (s.irx m).checkErr = false
  executions : ∀ m, s.executions m =
    s₀.executions m + if s₀.irx m = .reset ∧ s.irx m ≠ .reset then 1 else 0

section

variable {console : Console} {op : DriverOp} {ms : List Irx} {s₀ s s' : Machine}

theorem Loaded.refl (s : Machine) : Loaded s s where
  kept _ _ := rfl
  started _ h := Or.inl h
  executions m := by
    rw [if_neg fun h => h.2 h.1]
    rfl

theorem Machine.executions_executed (console : Console) (m m' : Irx) (args : Option Bytes)
    (payload : Bytes) (s : Machine) :
    (s.executed console m' args payload).executions m =
      s.executions m + if m' = m then 1 else 0 := by
  unfold Machine.executions
  rw [Machine.executed_trace, List.countP_cons]
  simp only [Event.isExec, beq_iff_eq]

theorem ModuleEffect.loaded (h : ModuleEffect console s op s') (hgood : console.LoadsStaged)
    (hop : op.bringsUp ms) (hs : Loaded s₀ s) : Loaded s₀ s' := by
  cases h with
  | quiet es hes htrace hirx =>
    have hcount (m : Irx) : s'.executions m = s.executions m := by
      unfold Machine.executions
      rw [htrace, countP_isExec_append hes]
    refine ⟨fun m hm => ?_, fun m hm => ?_, fun m => ?_⟩
    · rw [hirx]
      exact hs.kept m hm
    · rw [hirx]
      exact hs.started m hm
    · rw [hirx, hcount]
      exact hs.executions m
  | @executed m' args payload hreset =>
    have hstarts := hgood.starts m' s
    -- what is reset now was reset from the start
    have hreset₀ : s₀.irx m' = .reset := by
      by_contra hne
      exact hne ((hs.kept m' hne).symm.trans hreset)
    have hother {m : Irx} (hne : m ≠ m') :
        (s.executed console m' args payload).irx m = s.irx m := by
      rw [Machine.executed_irx, Function.update_of_ne hne]
    have hself : ((s.executed console m' args payload).irx m').checkErr = false := by
      rw [Machine.executed_irx, Function.update_self]
      exact hstarts
    refine ⟨fun m hm => ?_, fun m hm => ?_, fun m => ?_⟩
    · have hne : m ≠ m' := fun heq => hm (by rw [heq, hreset₀])
      rw [hother hne]
      exact hs.kept m hm
    · by_cases heq : m = m'
      · rw [heq]
        exact Or.inr hself
      · rw [hother heq]
        exact hs.started m hm
    · rw [Machine.executions_executed, hs.executions m]
      by_cases heq : m = m'
      · -- the first execution since `s₀`
        subst heq
        rw [if_neg fun h => h.2 hreset, if_pos rfl, if_pos ⟨hreset₀, IrxVars.ne_reset hself⟩]
      · rw [if_neg (Ne.symm heq), hother heq]
        rfl
  | unloaded => exact hop.elim

theorem run_loaded {α : Type} {p : DriverM α} (hgood : console.LoadsStaged)
    (hp : p.Within (DriverOp.bringsUp ms)) {r : α × Machine}
    (hr : p.run console.step s = some r) : Loaded s r.2 :=
  (Program.Triple.keeps (P := Loaded s) hp fun _ hop _ _ hs hstep =>
    (step_effect hstep).loaded hgood hop hs).holds s (Loaded.refl s) r hr

end

/-! ## 2. Missing modules -/

/-- The module is to be executed, and it is not staged. -/
structure Missing (console : Console) (m : Irx) (s : Machine) : Prop where
  valid : s.world.Valid
  reset : s.irx m = .reset
  payload : s.irxPayload console m = none

section

variable {console : Console} {op : DriverOp} {m : Irx} {args : Option Bytes} {ms : List Irx}
  {s s' : Machine}

theorem lacksModule.missing (h : lacksModule console (.loadIrx m args) s) (hs : s.world.Valid) :
    Missing console m s := by
  refine ⟨hs, IrxVars.checkLoad_iff.mp h.1, ?_⟩
  have hcall := h.2
  rw [Machine.ps2IrxExec_eq] at hcall
  cases hpayload : s.irxPayload console m with
  | none => rfl
  | some payload =>
    rw [hpayload] at hcall
    cases hcall

/-- Executing other modules does not stage one. -/
theorem ModuleEffect.missing (h : ModuleEffect console s op s') (hop : op.bringsUp ms)
    (hs : Missing console m s) : Missing console m s' := by
  have hvalid := h.valid hs.valid
  cases h with
  | quiet _ _ _ hirx hworld =>
    refine ⟨hvalid, ?_, ?_⟩
    · rw [hirx]
      exact hs.reset
    · rw [← hs.payload, Machine.irxPayload, Machine.irxPayload, hworld]
  | executed m' args _ hpayload =>
    have hne : m ≠ m' := by
      rintro rfl
      cases hs.payload.symm.trans hpayload
    refine ⟨hvalid, ?_, ?_⟩
    · rw [Machine.executed_irx, Function.update_of_ne hne]
      exact hs.reset
    · rw [← hs.payload]
      exact Machine.irxPayload_consume hne hs.valid rfl
  | unloaded => exact hop.elim

/-- A block that found its module missing leaves it missing to the end. -/
theorem run_missing {α : Type} {p : DriverM α} (hp : p.Within (DriverOp.bringsUp ms)) {t : Machine}
    (ht : Program.Reaches console.step (.loadIrx m args) t p s)
    (hlacks : lacksModule console (.loadIrx m args) t) (hs : s.world.Valid) {r : α × Machine}
    (hr : p.run console.step s = some r) : Missing console m r.2 := by
  have hvalid : Program.Safe console.step (fun s => s.world.Valid) p fun op t =>
      op.bringsUp ms ∧ t.world.Valid :=
    Program.Safe.of_keeps hp fun _ _ _ _ hs hstep => (step_effect hstep).valid hs
  refine ht.run_keeps hp (fun _ hop _ _ hs hstep => (step_effect hstep).missing hop hs) ?_ hr
  exact hlacks.missing (hvalid.holds s hs _ t ht).2

end

/-! ## 3. Modules in stock -/

/-- Each of the modules is staged, or need not be executed any more. -/
structure Machine.Stocked (console : Console) (ms : List Irx) (s : Machine) : Prop where
  valid : s.world.Valid
  waiting : ∀ m ∈ ms, s.irx m = .reset → ∃ payload, s.irxPayload console m = some payload

theorem stocked_passing {console : Console} (hgood : console.LoadsStaged) :
    Passing console (Machine.Stocked console) where
  mono hsub hs := ⟨hs.valid, fun m hm => hs.waiting m (hsub hm)⟩
  passes {m s} args hs := by
    rw [Machine.loadIrx_eq]
    by_cases hreset : s.irx m = .reset
    · obtain ⟨payload, hpayload⟩ := hs.waiting m (List.mem_singleton_self m) hreset
      rw [if_pos hreset, hpayload]
      dsimp only
      rw [hgood.starts m s]
      rfl
    · rw [if_neg hreset]
  keeps {ms ms' op s s'} h hop hs := by
    refine ⟨h.valid hs.valid, fun m hm hreset => ?_⟩
    cases h with
    | quiet es hes htrace hirx hworld =>
      rw [hirx] at hreset
      obtain ⟨payload, hpayload⟩ := hs.waiting m hm hreset
      refine ⟨payload, ?_⟩
      rw [← hpayload, Machine.irxPayload, Machine.irxPayload, hworld]
    | executed m' args =>
      rw [Machine.executed_irx] at hreset
      by_cases heq : m = m'
      · -- once executed it is not reset any more
        rw [heq, Function.update_self] at hreset
        exact absurd hreset (IrxVars.ne_reset (hgood.starts m' s))
      · rw [Function.update_of_ne heq] at hreset
        obtain ⟨payload, hpayload⟩ := hs.waiting m hm hreset
        refine ⟨payload, ?_⟩
        rw [← hpayload]
        exact Machine.irxPayload_consume heq hs.valid rfl
    | unloaded => exact hop.elim

/-- A successful staging of a mask stocks up the drivers of the mask. -/
theorem stage_stocked {console : Console} (hgood : console.LoadsStaged) {call : StageCall}
    {env : Env} {imagePath : Option Bytes} {requirements : UInt32} {d : Driver} {w : World}
    (hevent : call.event env = .staged imagePath requirements)
    (hd : requires requirements d = true) (hw : w.Valid) (hok : (call.run irxId env w).1 = .ok)
    (deps : Bool) (s : Machine) :
    Machine.Stocked console (d.responsible deps)
      { s with world := (call.run irxId env w).2 } := by
  have hrun := StageCall.run_explicit hevent hok
  rw [hrun] at hok ⊢
  obtain ⟨hvalid, path, image, -, -, hpayload, -⟩ := ps2DriversImgStage_payload hw hok
  refine ⟨hvalid, fun m hm _ => ?_⟩
  have hrequired : irxId m ∈ requestedIds irxId requirements :=
    (mem_requestedIds_irxId _ _).mpr ⟨m, responsible_required hd deps m hm, rfl⟩
  obtain ⟨e, data, -, hfound, -⟩ := hpayload (irxId m) hrequired
  refine ⟨data.bytes.take e.size.toNat, ?_⟩
  rw [hgood.irxPayload, stagedPayload, hfound]
  rfl

/-! ## 4. Recovering -/

/-- The machines a program can bring about, with the drivers and with the provider. -/
inductive Console.Reachable (console : Console) : Machine → Prop
  | initial (cwd : Bytes) : console.Reachable (Machine.initial cwd World.initial)
  | drivers {α : Type} {p : DriverM α} {s : Machine} {r : α × Machine}
      (hs : console.Reachable s) (hr : p.run console.step s = some r) : console.Reachable r.2
  | provider {s : Machine} (hs : console.Reachable s) (env : Env) (op : ProviderOp) :
      console.Reachable { s with world := (op.run irxId env s.world).2 }

theorem run_valid {console : Console} {α : Type} {p : DriverM α} {s : Machine} {r : α × Machine}
    (hs : s.world.Valid) (hr : p.run console.step s = some r) : r.2.world.Valid :=
  (Program.Triple.keeps (P := fun s => s.world.Valid) (Program.within_true p)
    fun _ _ _ _ hs hstep => (step_effect hstep).valid hs).holds s hs r hr

theorem Console.Reachable.valid {console : Console} {s : Machine} (h : console.Reachable s) :
    s.world.Valid := by
  induction h with
  | initial cwd => exact World.initial_valid
  | drivers _ hr ih => exact run_valid ih hr
  | provider _ env op ih => exact op.run_valid irxId env ih

/-- From `s` to `s'` an initialisation has failed for want of `m`. -/
structure FailsFor (m : Irx) (s : Machine) (status : Int) (s' : Machine) : Prop where
  status : status < 0
  missing : s'.irx m = ⟨-1, -1⟩
  /-- What was loaded is untouched, -/
  kept : ∀ m', (s.irx m').checkErr = false → s'.irx m' = s.irx m'
  /-- and what was executed is loaded. -/
  loaded : ∀ m', s.executions m' < s'.executions m' → (s'.irx m').checkErr = false

/-- From `s` to `s'` the modules `ms` were completed: those not loaded yet were executed, each once,
and nothing else was. -/
structure Completes (ms : List Irx) (s s' : Machine) : Prop where
  started : s'.Started ms
  executions : ∀ m, s'.executions m =
    s.executions m + if m ∈ ms ∧ (s.irx m).checkErr = true then 1 else 0

section

variable {console : Console} (hgood : console.LoadsStaged) {d : Driver} {deps : Bool} {m : Irx}
  {args : Option Bytes} {s s' t : Machine} {status : Int}

include hgood

theorem initDriver_failsFor (hs : s.world.Valid)
    (hrun : (initDriver d deps false).run console.step s = some (status, s'))
    (ht : Program.Reaches console.step (.loadIrx m args) t (initDriver d deps false) s)
    (hlacks : lacksModule console (.loadIrx m args) t) : FailsFor m s status s' := by
  have htakes := initDriver_takes d deps false
  have hwithin := htakes.within
  have hmissing : Missing console m s' := run_missing hwithin ht hlacks hs hrun
  have hloaded : Loaded s s' := run_loaded hgood hwithin hrun
  refine ⟨?_, hmissing.reset, fun m' h => hloaded.kept m' (IrxVars.ne_reset h), fun m' hlt => ?_⟩
  · -- success would have taken the module over
    by_contra hok
    have htaken : s'.TakenOver (d.responsible deps) :=
      (htakes.takes console).holds s trivial _ hrun (Int.not_lt.mp hok)
    have hm : m ∈ d.responsible deps := (Program.Safe.of_within (P := fun _ => True) hwithin).holds
      s trivial _ t ht
    exact htaken m hm hmissing.reset
  · rw [hloaded.executions m'] at hlt
    by_cases hfirst : s.irx m' = .reset ∧ s'.irx m' ≠ .reset
    · exact (hloaded.started m' hfirst.1).resolve_left hfirst.2
    · rw [if_neg hfirst] at hlt
      exact absurd hlt (Nat.lt_irrefl _)

/-- With the modules in stock or loaded, an initialisation completes them. -/
theorem initDriver_completes (hserves : console.Serves d)
    (hstocked : s.Stocked console (d.responsible deps))
    (hsteady : ∀ m ∈ d.responsible deps, s.irx m = .reset ∨ (s.irx m).checkErr = false) :
    ∃ s', (initDriver d deps false).run console.step s = some (d.okStatus, s') ∧
      Completes (d.responsible deps) s s' := by
  have hspec := initDriver_passes d deps
  obtain ⟨⟨status, s'⟩, hrun⟩ : ∃ r, (initDriver d deps false).run console.step s = some r :=
    run_comesBack (initDriver_comesBack d deps false) s
  have hok : status = d.okStatus :=
    (hspec.passes hserves (stocked_passing hgood)).holds s hstocked _ hrun
  subst hok
  have htaken : s'.TakenOver (d.responsible deps) :=
    (hspec.takes console).holds s trivial _ hrun d.okStatus_nonneg
  have hloaded : Loaded s s' := run_loaded hgood hspec.within hrun
  refine ⟨s', hrun, fun m hm => ?_, fun m => ?_⟩
  · rcases hsteady m hm with hreset | hstarted
    · exact (hloaded.started m hreset).resolve_left (htaken m hm)
    · rw [hloaded.kept m (IrxVars.ne_reset hstarted)]
      exact hstarted
  · have hexecuted : (s.irx m = .reset ∧ s'.irx m ≠ .reset) ↔
        m ∈ d.responsible deps ∧ (s.irx m).checkErr = true := by
      by_cases hm : m ∈ d.responsible deps
      · rw [and_iff_left (htaken m hm), and_iff_right hm]
        refine ⟨fun hreset => by rw [hreset]; rfl, fun herr => ?_⟩
        exact (hsteady m hm).resolve_right fun h => by rw [h] at herr; cases herr
      · -- the driver does not touch the other modules
        have hkeeps : Program.Triple console.step (fun t => t.irx m = s.irx m)
            (initDriver d deps false) fun _ t => t.irx m = s.irx m :=
          Program.Triple.keepsIrx (initDriver_spares hm false)
        have hsame : s'.irx m = s.irx m := hkeeps.holds s rfl _ hrun
        rw [hsame]
        exact iff_of_false (fun h => h.2 h.1) fun h => hm h.1
    rw [hloaded.executions m, if_congr hexecuted rfl rfl]

end

/-- An initialisation that came too early can be repeated after staging: the first one leaves what
was staged loaded and the missing module reset, the second one executes the rest, each module
once. -/
theorem initDriver_recovers {console : Console} (hgood : console.LoadsStaged) {d : Driver}
    {s₀ s₁ t : Machine} (hreach : console.Reachable s₀)
    (hsteady : ∀ m ∈ d.responsible true, s₀.irx m = ⟨-1, -1⟩ ∨ (s₀.irx m).checkErr = false)
    {status : Int} (hfirst : (initDriver d true false).run console.step s₀ = some (status, s₁))
    {m : Irx} {args : Option Bytes}
    (hreaches : Program.Reaches console.step (.loadIrx m args) t (initDriver d true false) s₀)
    (hlacks : lacksModule console (.loadIrx m args) t) :
    FailsFor m s₀ status s₁ ∧
      ∀ {env : Env} {call : StageCall} {imagePath : Option Bytes} {requirements : UInt32},
        let w := (ps2DriversImgDiscardStaged s₁.world).2
        call.event env = .staged imagePath requirements → requires requirements d = true →
        (call.run irxId env w).1 = .ok → console.Serves d →
        ∃ s₂, (initDriver d true false).run console.step
            { s₁ with world := (call.run irxId env w).2 } = some (d.okStatus, s₂) ∧
          Completes (d.responsible true) s₁ s₂ := by
  have hvalid : s₀.world.Valid := hreach.valid
  refine ⟨initDriver_failsFor hgood hvalid hfirst hreaches hlacks, ?_⟩
  intro env call imagePath requirements w hevent hd hok hserves
  have hw : w.Valid := ProviderOp.run_valid irxId env (run_valid hvalid hfirst) .discardStaged
  -- the second initialisation starts with every module either in stock or loaded
  have hstocked := stage_stocked hgood hevent hd hw hok true s₁
  have hloaded : Loaded s₀ s₁ := run_loaded hgood (initDriver_reports d true false).within hfirst
  have hsteady₁ : ∀ m ∈ d.responsible true, s₁.irx m = .reset ∨ (s₁.irx m).checkErr = false := by
    intro m hm
    rcases hsteady m hm with hreset | hstarted
    · exact hloaded.started m hreset
    · rw [hloaded.kept m (IrxVars.ne_reset hstarted)]
      exact Or.inr hstarted
  obtain ⟨s₂, hsecond, hcompletes⟩ := initDriver_completes hgood hserves hstocked hsteady₁
  exact ⟨s₂, hsecond, hcompletes.started, hcompletes.executions⟩

/-- The joystick driver was staged for, the memory card driver was not: sio2man is the only module
they share. -/
def joystickStaged : Machine :=
  let op := ProviderOp.stage (.stage (some (lit "a.irximg")) Driver.joystick.req)
  { Machine.initial [] World.initial with
    world := (op.run irxId everyModuleEnv (Machine.initial [] World.initial).world).2 }

/-- The joystick was staged for, so the memory card driver lacks `mcman`, until it is staged for. -/
theorem initDriver_recovers_memcard :
    let console := Console.ready.withFlavor .image
    let call := StageCall.stage (some (lit "a.irximg")) Driver.memcard.req
    ∃ s₁, (initDriver .memcard true false).run console.step joystickStaged =
        some (MemcardInitStatus.mcmanIrxError, s₁) ∧
      FailsFor .mcman joystickStaged MemcardInitStatus.mcmanIrxError s₁ ∧
      let w := (call.run irxId everyModuleEnv (ps2DriversImgDiscardStaged s₁.world).2).2
      ∃ s₂, (initDriver .memcard true false).run console.step { s₁ with world := w } =
          some (MemcardInitStatus.irxOk, s₂) ∧
        Completes (Driver.memcard.responsible true) s₁ s₂ := by
  intro console call
  have hfirst : ((initDriver .memcard true false).run console.step joystickStaged).map (fun r =>
      decide (r.1 = MemcardInitStatus.mcmanIrxError ∧
        (call.run irxId everyModuleEnv (ps2DriversImgDiscardStaged r.2.world).2).1 = .ok)) =
      some true := by decide +kernel
  have hlacks : (initSio2manDriver.run console.step joystickStaged).map (fun r =>
      decide (r.1 = Sio2manInitStatus.ok ∧ (r.2.irx .mcman).checkLoad = true ∧
        (r.2.ps2IrxExec console .mcman none).1.call = none)) = some true := by decide +kernel
  obtain ⟨⟨status, s₁⟩, hinit, hstaged⟩ := Option.map_eq_some_iff.mp hfirst
  obtain ⟨rfl, hok⟩ := of_decide_eq_true hstaged
  obtain ⟨⟨status, t⟩, hsio2man, hlacks⟩ := Option.map_eq_some_iff.mp hlacks
  obtain ⟨rfl, hlacks⟩ := of_decide_eq_true hlacks
  have hreach : console.Reachable joystickStaged := .provider (.initial []) everyModuleEnv _
  have hreaches : Program.Reaches console.step (.loadIrx .mcman none) t
      (initDriver .memcard true false) joystickStaged := by
    -- sio2man is loaded, and mcman has the first block after it
    refine Program.Reaches.bind_right (p := initSio2manDriver) hsio2man ?_
    exact Program.Reaches.bind_left (.bind_left (.here _))
  have hserves : console.Serves .memcard :=
    (Console.ready_succeeds.withFlavor .image).libraries
  obtain ⟨hfails, hagain⟩ := initDriver_recovers Console.ready_loadsStaged hreach
    (fun m _ => Or.inl rfl) hinit hreaches hlacks
  exact ⟨s₁, hinit, hfails, @hagain everyModuleEnv call _ _ rfl (by decide) hok hserves⟩

end Ps2Drivers
