import Ps2Drivers.Drivers.Modules

/-!
# How initialisations are specified

An initialisation is specified once: which modules it may load, that a non-negative status means
they are all loaded, and the status it returns when nothing fails.  The shapes the drivers are
written with carry such specifications along.
-/

open Binary CString

namespace Ps2Drivers

/-! ## 1. States -/

/-- An execution that fails leaves both variables at `-1`, as after `RESET_IRX_VARS`. -/
def FailuresReset (trace : List Event) : Prop :=
  ∀ m call result, .exec m call result ∈ trace → result.1 < 0 ∨ result.2 = 1 → result = (-1, -1)

theorem FailuresReset.of_suffix {trace trace' : List Event} (h : FailuresReset trace')
    (hsuffix : trace <:+ trace') : FailuresReset trace := fun m call result hmem =>
  h m call result (hsuffix.mem hmem)

namespace Machine

/-- No module is left between `reset` and started. -/
def Steady (s : Machine) : Prop := ∀ m, s.irx m = .reset ∨ (s.irx m).checkErr = false

def Started (ms : List Irx) (s : Machine) : Prop := ∀ m ∈ ms, (s.irx m).checkErr = false

/-- `Steady`, as far as failures reset the variables. -/
def Settled (s : Machine) : Prop := FailuresReset s.trace → s.Steady

/-- `Started`, as far as failures reset the variables. -/
def Up (ms : List Irx) (s : Machine) : Prop := FailuresReset s.trace → s.Started ms

/-- None of the modules is reset, so that `CHECK_IRX_LOAD` passes over them. -/
def TakenOver (ms : List Irx) (s : Machine) : Prop := ∀ m ∈ ms, s.irx m ≠ .reset

theorem Started.append {ms ms' : List Irx} {s : Machine} (h : s.Started ms) (h' : s.Started ms') :
    s.Started (ms ++ ms') := by
  intro m hm
  rcases List.mem_append.mp hm with hm | hm
  · exact h m hm
  · exact h' m hm

theorem TakenOver.mono {ms ms' : List Irx} {s : Machine} (h : s.TakenOver ms') (hsub : ms ⊆ ms') :
    s.TakenOver ms :=
  fun m hm => h m (hsub hm)

theorem TakenOver.append {ms ms' : List Irx} {s : Machine} (h : s.TakenOver ms)
    (h' : s.TakenOver ms') : s.TakenOver (ms ++ ms') :=
  List.forall_mem_append.mpr ⟨h, h'⟩

theorem TakenOver.congr {ms : List Irx} {s s' : Machine} (h : s.TakenOver ms)
    (hirx : s'.irx = s.irx) : s'.TakenOver ms := by
  intro m hm
  rw [hirx]
  exact h m hm

end Machine

def LibCall.leavesFiles : LibCall → Bool
  | .fileXioMount _ _ | .fileXioUmount _ | .chdir _ => false
  | _ => true

/-- The operations of an initialisation that may load `ms`. -/
def DriverOp.bringsUp (ms : List Irx) : DriverOp → Prop
  | .loadIrx m _ => m ∈ ms
  | .lib call => call.leavesFiles = true
  | .isCOP2Pipelined => True
  | .getcwd => True
  | .getStatus _ => True
  | .setStatus _ _ => True
  | _ => False

theorem DriverOp.bringsUp.mono {ms ms' : List Irx} (hsub : ms ⊆ ms') (op : DriverOp)
    (h : op.bringsUp ms) : op.bringsUp ms' := by
  cases op with
  | loadIrx m args => exact hsub h
  | _ => exact h

/-- The operation unloads none of `ms`. -/
def DriverOp.leaves (ms : List Irx) : DriverOp → Prop
  | .unloadIrx m => m ∉ ms
  | _ => True

theorem DriverOp.bringsUp.leaves {ms : List Irx} (ms' : List Irx) (op : DriverOp)
    (h : op.bringsUp ms) : op.leaves ms' := by
  cases op with
  | unloadIrx m => exact h.elim
  | _ => trivial

/-- Nothing fails: every module that is executed stays, every library initialises, the disk is
ready and the console is a real one. -/
structure Console.AllSucceed (console : Console) : Prop where
  exec : ∀ m k, 0 ≤ (console.exec m k).1 ∧ (console.exec m k).2 ≠ 1
  pipelined : console.cop2Pipelined = true
  hddStatus : ∀ past, 0 ≤ console.lib hddStatus past ∧ console.lib hddStatus past < 3
  poweroffInit : ∀ past, console.lib .poweroffInit past = 0
  mtapInit : ∀ past, console.lib .mtapInit past = 1
  padInit : ∀ past, console.lib .padInit past = 1
  audsrvInit : ∀ past, console.lib .audsrvInit past = 0
  ps2MouseInit : ∀ past, 0 ≤ console.lib .ps2MouseInit past
  ps2KbdInit : ∀ past, 0 ≤ console.lib .ps2KbdInit past
  ps2CamInit : ∀ past, 0 ≤ console.lib .ps2CamInit past
  netManInit : ∀ past, console.lib .netManInit past = 0
  ps2ipInit : ∀ past, console.lib .ps2ipInit past = 0

def Console.ready : Console where
  flavor := .embedded fun _ => []
  exec _ _ := (7, 0)
  unload _ _ := 0
  lib call _ := if call = .mtapInit ∨ call = .padInit then 1 else 0
  cop2Pipelined := true
  patience := 1

theorem Console.ready_succeeds : Console.ready.AllSucceed := by
  constructor <;> intros <;> simp [Console.ready, hddStatus]

theorem Console.AllSucceed.starts {console : Console} (hgood : console.AllSucceed) (m : Irx)
    (s : Machine) :
    (IrxVars.mk (s.answer console m).1 (s.answer console m).2).checkErr = false := by
  have hanswer : 0 ≤ (s.answer console m).1 ∧ (s.answer console m).2 ≠ 1 := hgood.exec m _
  unfold IrxVars.checkErr
  rw [decide_eq_false (Int.not_lt.mpr hanswer.1), beq_eq_false_iff_ne.mpr hanswer.2]
  rfl

/-! ## 2. Steps -/

section

variable {console : Console} {op : DriverOp} {s s' : Machine}

theorem ModuleEffect.started {ms : List Irx} (h : ModuleEffect console s op s')
    (hop : op.leaves ms) (hs : s.Started ms) : s'.Started ms := by
  intro m hm
  rcases h.irx_cases m with hsame | ⟨args, call, -, hreset, -, -⟩ | ⟨rfl, -, -⟩
  · rw [hsame]
    exact hs m hm
  · -- a module that is executed was reset, hence none of `ms`
    have herr := hs m hm
    rw [hreset] at herr
    cases herr
  · exact absurd hm hop

theorem ModuleEffect.takenOver {ms : List Irx} (h : ModuleEffect console s op s')
    (hop : op.leaves ms) (hs : s.TakenOver ms) : s'.TakenOver ms := by
  intro m hm
  rcases h.irx_cases m with hsame | ⟨args, call, -, hreset, -, -⟩ | ⟨rfl, -, -⟩
  · rw [hsame]
    exact hs m hm
  · exact absurd hreset (hs m hm)
  · exact absurd hm hop

theorem ModuleEffect.settled (h : ModuleEffect console s op s') (hs : s.Settled) :
    s'.Settled := by
  intro hclean m
  rcases h.irx_cases m with hsame | ⟨args, call, -, -, hanswer, hmem⟩ | ⟨-, -, hreset⟩
  · rw [hsame]
    exact hs (hclean.of_suffix h.trace_suffix) m
  · rw [hanswer]
    cases herr : (IrxVars.mk (s.answer console m).1 (s.answer console m).2).checkErr with
    | false => exact Or.inr rfl
    | true =>
      -- a failure, so the result is `(-1, -1)`
      rw [IrxVars.checkErr, Bool.or_eq_true, decide_eq_true_eq, beq_iff_eq] at herr
      rw [hclean m _ _ hmem herr]
      exact Or.inl rfl
  · exact Or.inl hreset

theorem ModuleEffect.steady (h : ModuleEffect console s op s')
    (hstarts : ∀ (m : Irx) (s : Machine),
      (IrxVars.mk (s.answer console m).1 (s.answer console m).2).checkErr = false)
    (hs : s.Steady) : s'.Steady := by
  intro m
  rcases h.irx_cases m with hsame | ⟨args, call, -, -, hanswer, -⟩ | ⟨-, -, hreset⟩
  · rw [hsame]
    exact hs m
  · rw [hanswer]
    exact Or.inr (hstarts m s)
  · exact Or.inl hreset

end

/-! ## 3. The specification of an initialisation -/

/-- The program loads at most `ms`, and reports success only with all of them loaded. -/
structure ReportSpec (ms : List Irx) (p : DriverM Int) : Prop where
  within : p.Within (DriverOp.bringsUp ms)
  reports : ∀ console : Console, Program.Triple console.step Machine.Settled p fun status s =>
    0 ≤ status → s.Up ms

/-- When nothing fails, it also loads all of `ms` and returns `ok`. -/
structure InitSpec (ms : List Irx) (ok : Int) (p : DriverM Int) : Prop extends ReportSpec ms p where
  succeeds : ∀ console : Console, console.AllSucceed → (∃ data, console.flavor = .embedded data) →
    Program.Triple console.step Machine.Steady p fun status s => status = ok ∧ s.Started ms

structure FailSpec (p : DriverM Int) : Prop where
  within : p.Within (DriverOp.bringsUp [])
  fails : ∀ (console : Console) (P : Machine → Prop),
    Program.Triple console.step P p fun status _ => status < 0

/-- A condition on modules that lets their blocks through and that initialisations keep. -/
structure Passing (console : Console) (P : List Irx → Machine → Prop) : Prop where
  mono : ∀ {ms ms' : List Irx} {s : Machine}, ms ⊆ ms' → P ms' s → P ms s
  passes : ∀ {m : Irx} {s : Machine} (args : Option Bytes), P [m] s →
    (s.loadIrx console m args).1 = true
  keeps : ∀ {ms ms' : List Irx} {op : DriverOp} {s s' : Machine}, ModuleEffect console s op s' →
    op.bringsUp ms' → P ms s → P ms s'

theorem takenOver_passing (console : Console) : Passing console Machine.TakenOver where
  mono hsub hs := hs.mono hsub
  passes args hs := by
    rw [Machine.loadIrx_eq, if_neg (hs _ (List.mem_singleton_self _))]
  keeps h hop hs := h.takenOver (hop.leaves _) hs

/-- The program loads at most `ms`, and success takes all of them over. -/
structure TakeSpec (ms : List Irx) (p : DriverM Int) : Prop where
  within : p.Within (DriverOp.bringsUp ms)
  takes : ∀ console : Console, Program.Triple console.step (fun _ => True) p fun status s =>
    0 ≤ status → s.TakenOver ms

/-- Where the blocks of `ms` are passed it also succeeds, on a console that answers as `G` says. -/
structure DriverSpec (G : Console → Prop) (ms : List Irx) (ok : Int) (p : DriverM Int) : Prop
    extends TakeSpec ms p where
  passes : ∀ {console : Console} {P : List Irx → Machine → Prop}, G console → Passing console P →
    Program.Triple console.step (P ms) p fun status _ => status = ok

section

variable {console : Console} {P : List Irx → Machine → Prop} {G : Console → Prop}
  {ms ms' : List Irx} {ok ok' : Int} {p q error : DriverM Int}

theorem Program.Triple.keepsSettled {α : Type} (p : DriverM α) :
    Program.Triple console.step Machine.Settled p fun _ => Machine.Settled :=
  Program.Triple.keeps (Program.within_true p) fun _ _ _ _ hs hstep =>
    (step_effect hstep).settled hs

theorem Program.Triple.keepsTakenOver {α : Type} {p : DriverM α} (ms : List Irx)
    (hp : p.Within (DriverOp.bringsUp ms')) :
    Program.Triple console.step (Machine.TakenOver ms) p fun _ => Machine.TakenOver ms :=
  Program.Triple.keeps (hp.mono (DriverOp.bringsUp.leaves ms)) fun _ hop _ _ hs hstep =>
    (step_effect hstep).takenOver hop hs

theorem Program.Triple.keepsSteady {α : Type} (hgood : console.AllSucceed) (p : DriverM α) :
    Program.Triple console.step Machine.Steady p fun _ => Machine.Steady :=
  Program.Triple.keeps (Program.within_true p) fun _ _ _ _ hs hstep =>
    (step_effect hstep).steady hgood.starts hs

theorem Program.Triple.staysStarted {α : Type} {p : DriverM α} (ms : List Irx)
    (hp : p.Within (DriverOp.leaves ms)) :
    Program.Triple console.step (Machine.Started ms) p fun _ => Machine.Started ms :=
  Program.Triple.keeps hp fun _ hop _ _ hs hstep => (step_effect hstep).started hop hs

theorem Program.Triple.keepsStarted {α : Type} {p : DriverM α} (ms : List Irx)
    (hp : p.Within (DriverOp.bringsUp ms')) :
    Program.Triple console.step (Machine.Started ms) p fun _ => Machine.Started ms :=
  Program.Triple.staysStarted ms (hp.mono (DriverOp.bringsUp.leaves ms))

theorem Passing.keepsAll {α : Type} {p : DriverM α} (hP : Passing console P) (ms : List Irx)
    (hp : p.Within (DriverOp.bringsUp ms')) :
    Program.Triple console.step (P ms) p fun _ => P ms :=
  Program.Triple.keeps hp fun _ hop _ _ hs hstep => hP.keeps (step_effect hstep) hop hs

/-! ## 4. The shapes -/

/-- A block whose module is available, and would start, leaves it started. -/
theorem loadIrx_started {s : Machine} {m : Irx} (args : Option Bytes)
    (hstarts : (IrxVars.mk (s.answer console m).1 (s.answer console m).2).checkErr = false)
    (hpayload : s.irx m = .reset → ∃ payload, s.irxPayload console m = some payload)
    (hsteady : s.irx m = .reset ∨ (s.irx m).checkErr = false) :
    (s.loadIrx console m args).1 = true ∧ (s.loadIrx console m args).2.Started [m] := by
  rw [Machine.loadIrx_eq]
  by_cases hreset : s.irx m = .reset
  · obtain ⟨payload, hpayload⟩ := hpayload hreset
    rw [if_pos hreset, hpayload]
    dsimp only
    rw [hstarts]
    refine ⟨rfl, fun m' hm' => ?_⟩
    rw [List.mem_singleton.mp hm', Machine.executed_irx, Function.update_self]
    exact hstarts
  · -- nothing is executed: the variables are not reset, so the module is started
    rw [if_neg hreset]
    refine ⟨rfl, fun m' hm' => ?_⟩
    rw [List.mem_singleton.mp hm']
    exact hsteady.resolve_left hreset

theorem loadIrx_takes (m : Irx) (args : Option Bytes) :
    Program.Triple console.step (fun _ => True) (loadIrx m args) fun goesOn s =>
      goesOn = true → s.TakenOver [m] := by
  refine Program.Triple.of_run (fun s => loadIrx_run console s m args) fun s _ => ?_
  rw [Machine.loadIrx_eq]
  by_cases hreset : s.irx m = .reset
  · rw [if_pos hreset]
    cases s.irxPayload console m with
    | none => exact fun hgoes => by cases hgoes
    | some payload =>
      -- the function goes on only if the execution left an id
      intro hgoes m' hm'
      rw [List.mem_singleton.mp hm', Machine.executed_irx, Function.update_self]
      exact IrxVars.ne_reset (by simpa using hgoes)
  · rw [if_neg hreset]
    intro _ m' hm'
    rw [List.mem_singleton.mp hm']
    exact hreset

theorem Passing.loadIrx (hP : Passing console P) (m : Irx) (args : Option Bytes) :
    Program.Triple console.step (P [m]) (loadIrx m args) fun goesOn _ => goesOn = true :=
  Program.Triple.of_run (fun s => loadIrx_run console s m args) fun _ hs => hP.passes args hs

theorem pure_spec (G : Console → Prop) (ok : Int) : DriverSpec G [] ok (pure ok) :=
  ⟨⟨Program.within_pure ok, fun _ => Program.Triple.ret fun _ _ _ => List.forall_mem_nil _⟩,
    fun _ _ => Program.Triple.ret fun _ _ => rfl⟩

/-- The blocks of `loadIRXs` before the rest of the function. -/
theorem loadIRXs_spec {blocks : List IrxBlock} (hp : DriverSpec G ms ok p)
    (herror : ∀ block ∈ blocks, block.error < 0) (hms : blocks.map (·.irx) ++ ms = ms') :
    DriverSpec G ms' ok (loadIRXs blocks p) := by
  induction blocks generalizing ms' with
  | nil =>
    rw [← hms]
    exact hp
  | cons block blocks ih =>
    rw [List.forall_mem_cons] at herror
    have hrest := ih herror.2 rfl
    rw [← hms, List.map_cons, List.cons_append, loadIRXs]
    refine ⟨⟨?_, fun console => ?_⟩, fun {console P} hG hP => ?_⟩
    · refine Program.Within.bind (loadIrx_within.mpr List.mem_cons_self) fun goesOn => ?_
      apply Program.within_ite
      · exact hrest.within.mono (DriverOp.bringsUp.mono (List.subset_cons_self _ _))
      · exact Program.within_pure block.error
    · refine Program.Triple.bind (loadIrx_takes block.irx block.args) fun goesOn => ?_
      apply Program.Triple.branch
      · intro hgoes
        refine ((hrest.takes console).and
          (Program.Triple.keepsTakenOver [block.irx] hrest.within)).imp
          (fun _ hs => ⟨trivial, hs hgoes⟩) fun _ _ hs hok => ?_
        exact hs.2.append (hs.1 hok)
      · exact fun _ => Program.Triple.ret fun _ _ hok => absurd herror.1 (Int.not_lt.mpr hok)
    · -- the block passes, and what the later blocks need is still there
      have hload : Program.Triple console.step (P (block.irx :: (blocks.map (·.irx) ++ ms)))
          (loadIrx block.irx block.args) fun goesOn s =>
            goesOn = true ∧ P (blocks.map (·.irx) ++ ms) s := by
        have hkeep : (loadIrx block.irx block.args).Within (DriverOp.bringsUp [block.irx]) :=
          loadIrx_within.mpr List.mem_cons_self
        exact ((hP.loadIrx block.irx block.args).and
          (hP.keepsAll (blocks.map (·.irx) ++ ms) hkeep)).imp
          (fun _ hs => ⟨hP.mono (by simp) hs, hP.mono (by simp) hs⟩) fun _ _ hs => hs
      refine Program.Triple.bind hload fun goesOn => Program.Triple.of_pure fun hgoes => ?_
      rw [if_pos hgoes]
      exact hrest.passes hG hP

theorem returnStatus_spec (d : Driver) (hp : DriverSpec G ms ok p) :
    DriverSpec G ms ok (returnStatus d p) := by
  have hset (status : Int) : (setStatus d status).Within (DriverOp.bringsUp ms) :=
    setStatus_within.mpr trivial
  refine ⟨⟨?_, fun console => ?_⟩, fun hG hP => ?_⟩
  · refine Program.Within.bind hp.within fun status => ?_
    exact Program.Within.bind (hset status) fun _ => Program.within_pure status
  · refine Program.Triple.bind (hp.takes console) fun status => ?_
    refine Program.Triple.bind
      (Program.Triple.implies fun _ => Program.Triple.keepsTakenOver ms (hset status)) fun _ => ?_
    exact Program.Triple.ret fun _ hs => hs
  · refine Program.Triple.bind (hp.passes hG hP) fun status => ?_
    refine Program.Triple.of_fact fun hok => ?_
    refine Program.Triple.bind (R := fun _ _ => True) ⟨fun _ _ _ _ => trivial⟩ fun _ => ?_
    exact Program.Triple.ret fun _ _ => hok

theorem withLibraries_spec (d : Driver) (hp : DriverSpec G ms ok' p) (hok' : 0 ≤ ok')
    (hq : DriverSpec G [] ok q) : DriverSpec G ms ok (withLibraries d p q) := by
  have hset (status : Int) : (setStatus d status).Within (DriverOp.bringsUp ms) :=
    setStatus_within.mpr trivial
  have hreturn := returnStatus_spec d hq
  refine ⟨⟨?_, fun console => ?_⟩, fun hG hP => ?_⟩
  · refine Program.Within.bind hp.within fun status => ?_
    refine Program.Within.bind (hset status) fun _ => ?_
    apply Program.within_ite
    · exact Program.within_pure status
    · exact hreturn.within.mono (DriverOp.bringsUp.mono (List.nil_subset ms))
  · refine Program.Triple.bind (hp.takes console) fun status => ?_
    refine Program.Triple.bind
      (Program.Triple.implies fun _ => Program.Triple.keepsTakenOver ms (hset status)) fun _ => ?_
    apply Program.Triple.branch
    · exact fun hneg => Program.Triple.ret fun _ _ hok => absurd hneg (Int.not_lt.mpr hok)
    · intro hpos
      exact (Program.Triple.keepsTakenOver ms hreturn.within).imp
        (fun _ hs => hs (Int.not_lt.mp hpos)) fun _ _ hs _ => hs
  · have hload := (hp.passes hG hP).and (hP.keepsAll ms hp.within)
    refine Program.Triple.bind (hload.imp (fun _ hs => ⟨hs, hs⟩) fun _ _ hs => hs)
      fun status => Program.Triple.of_pure fun hstatus => ?_
    refine Program.Triple.bind (hP.keepsAll ms (hset status)) fun _ => ?_
    rw [hstatus, if_neg (Int.not_lt.mpr hok')]
    exact (hreturn.passes hG hP).imp (fun _ hs => hP.mono (List.nil_subset ms) hs) fun _ _ hs => hs

theorem pure_fails {e : Int} (he : e < 0) : FailSpec (pure e) :=
  ⟨Program.within_pure e, fun _ _ => Program.Triple.ret fun _ _ => he⟩

theorem returnStatus_fails (d : Driver) {e : Int} (he : e < 0) :
    FailSpec (returnStatus d (pure e)) := by
  constructor
  · refine Program.Within.bind (Program.within_pure e) fun status => ?_
    exact Program.Within.bind (setStatus_within.mpr trivial) fun _ => Program.within_pure status
  · intro console P
    constructor
    intro s _ r hr
    rw [← Option.some.inj hr]
    exact he

theorem isNegative_eq_false (status : Int) (h : isNegative status = false) : 0 ≤ status :=
  Int.not_lt.mp (of_decide_eq_false h)

/-- A dependency that is initialised first adds its modules. -/
theorem withDependency_spec (enabled : Bool) {init : DriverM Int} {refused : Int → Bool}
    (hinit : DriverSpec G ms' ok' init) (hrefused : ∀ status, refused status = false → 0 ≤ status)
    (hok' : refused ok' = false) (herror : FailSpec error) (hp : DriverSpec G ms ok p) :
    DriverSpec G ((if enabled then ms' else []) ++ ms) ok
      (withDependency enabled init refused error p) := by
  cases enabled with
  | false => exact hp
  | true =>
    have hleft : ms' ⊆ ms' ++ ms := List.subset_append_left ms' ms
    have hright : ms ⊆ ms' ++ ms := List.subset_append_right ms' ms
    show DriverSpec G (ms' ++ ms) ok (init >>= fun result => if refused result then error else p)
    refine ⟨⟨?_, fun console => ?_⟩, fun {console P} hG hP => ?_⟩
    · refine Program.Within.bind (hinit.within.mono (DriverOp.bringsUp.mono hleft)) fun result => ?_
      apply Program.within_ite
      · exact herror.within.mono (DriverOp.bringsUp.mono (List.nil_subset _))
      · exact hp.within.mono (DriverOp.bringsUp.mono hright)
    · refine Program.Triple.bind (hinit.takes console) fun result => ?_
      apply Program.Triple.branch
      · intro _
        exact (herror.fails console _).weaken fun _ _ hneg hok => absurd hneg (Int.not_lt.mpr hok)
      · intro haccepted
        have hpos : 0 ≤ result := hrefused result (Bool.eq_false_of_not_eq_true haccepted)
        refine ((hp.takes console).and (Program.Triple.keepsTakenOver ms' hp.within)).imp
          (fun _ hs => ⟨trivial, hs hpos⟩) fun _ _ hs hok => ?_
        exact hs.2.append (hs.1 hok)
    · -- the dependency returns its own `OK`, which the driver does not refuse
      have hdependency : Program.Triple console.step (P (ms' ++ ms)) init
          fun result s => result = ok' ∧ P ms s :=
        ((hinit.passes hG hP).and (hP.keepsAll ms hinit.within)).imp
          (fun _ hs => ⟨hP.mono hleft hs, hP.mono hright hs⟩) fun _ _ hs => hs
      refine Program.Triple.bind hdependency fun result => Program.Triple.of_pure fun hresult => ?_
      rw [hresult, hok', if_neg Bool.false_ne_true]
      exact hp.passes hG hP

/-- A check whose failure ends the function. -/
theorem check_takes {β : Type} {c : DriverM β} (hc : c.Within (DriverOp.bringsUp []))
    {bad : β → Prop} [DecidablePred bad] (herror : FailSpec q) (hp : TakeSpec ms p) :
    TakeSpec ms (do
      let result ← c
      if bad result then q else p) := by
  have hnil : DriverOp.bringsUp [] ≤ DriverOp.bringsUp ms :=
    DriverOp.bringsUp.mono (List.nil_subset ms)
  refine ⟨Program.Within.bind (hc.mono hnil) fun result => ?_, fun console => ?_⟩
  · exact Program.within_ite (herror.within.mono hnil) hp.within
  · refine Program.Triple.bind (R := fun _ _ => True) ⟨fun _ _ _ _ => trivial⟩ fun result => ?_
    apply Program.Triple.branch
    · intro _
      exact (herror.fails console _).weaken fun _ _ hneg hok => absurd hneg (Int.not_lt.mpr hok)
    · exact fun _ => hp.takes console

theorem check_spec {β : Type} {c : DriverM β} (hc : c.Within (DriverOp.bringsUp []))
    {bad : β → Prop} [DecidablePred bad]
    (hgood : ∀ console : Console, G console →
      Program.Triple console.step (fun _ => True) c fun result _ => ¬ bad result)
    (herror : FailSpec q) (hp : DriverSpec G ms ok p) :
    DriverSpec G ms ok (do
      let result ← c
      if bad result then q else p) := by
  refine ⟨check_takes hc herror hp.toTakeSpec, fun {console P} hG hP => ?_⟩
  have hresult := (hgood console hG).and (hP.keepsAll ms hc)
  refine Program.Triple.bind (hresult.imp (fun _ hs => ⟨trivial, hs⟩) fun _ _ hs => hs)
    fun result => Program.Triple.of_pure fun hnot => ?_
  rw [if_neg hnot]
  exact hp.passes hG hP

/-- A fact about every answer to the call. -/
theorem lib_result {console : Console} (call : LibCall) {R : Int → Prop}
    (h : ∀ past, R (console.lib call past)) :
    Program.Triple console.step (fun _ => True) (lib call) fun result _ => R result := by
  refine Program.Triple.of_run (fun s => lib_run console s call) fun s _ => ?_
  rw [Machine.lib_fst]
  exact h _

/-- A library call that is checked, before the rest of the function. -/
theorem libCheck_spec (call : LibCall) (hfiles : call.leavesFiles = true) {bad : Int → Prop}
    [DecidablePred bad]
    (hgood : ∀ console : Console, G console → ∀ past, ¬ bad (console.lib call past))
    {e : Int} (he : e < 0) (hp : DriverSpec G ms ok p) :
    DriverSpec G ms ok (do
      let result ← lib call
      if bad result then pure e else p) :=
  check_spec (lib_within.mpr hfiles) (fun console hG => lib_result call (hgood console hG))
    (pure_fails he) hp

theorem lib_spec (call : LibCall) (hfiles : call.leavesFiles = true) (hp : DriverSpec G ms ok p) :
    DriverSpec G ms ok (do
      let _ ← lib call
      p) := by
  have hlib : (lib call).Within (DriverOp.bringsUp ms) := lib_within.mpr hfiles
  refine ⟨⟨Program.Within.bind hlib fun _ => hp.within, fun console => ?_⟩, fun hG hP => ?_⟩
  · exact Program.Triple.bind (R := fun _ _ => True) ⟨fun _ _ _ _ => trivial⟩ fun _ =>
      hp.takes console
  · exact Program.Triple.bind (hP.keepsAll ms hlib) fun _ => hp.passes hG hP

end

/-! ## 5. What they say of a run -/

section

variable {G : Console → Prop} {ms : List Irx} {ok : Int} {p : DriverM Int}

/-- A module taken over is loaded, as far as failures reset the variables. -/
theorem TakeSpec.reportSpec (hp : TakeSpec ms p) : ReportSpec ms p := by
  refine ⟨hp.within, fun console => ?_⟩
  have hrun := (hp.takes console).and (Program.Triple.keepsSettled p)
  refine hrun.imp (fun _ hs => ⟨trivial, hs⟩) fun _ s hs hok hclean m hm => ?_
  exact (hs.2 hclean m).resolve_left (hs.1 hok m hm)

theorem steady_passing {console : Console} (hgood : console.AllSucceed)
    (hflavor : ∃ data, console.flavor = .embedded data) :
    Passing console fun _ => Machine.Steady where
  mono _ hs := hs
  passes {m s} args hs := by
    obtain ⟨data, hdata⟩ := hflavor
    have hpayload : ∃ payload, s.irxPayload console m = some payload := by
      rw [Machine.irxPayload, hdata]
      exact ⟨_, rfl⟩
    exact (loadIrx_started args (hgood.starts m s) (fun _ => hpayload) (hs m)).1
  keeps h _ hs := h.steady hgood.starts hs

/-- When nothing fails, every block is passed. -/
theorem DriverSpec.initSpec (hp : DriverSpec G ms ok p) (hok : 0 ≤ ok)
    (hG : ∀ console : Console, console.AllSucceed → G console) : InitSpec ms ok p := by
  refine ⟨hp.reportSpec, fun console hgood hflavor => ?_⟩
  have hrun := ((hp.passes (hG console hgood) (steady_passing hgood hflavor)).and
    (hp.takes console)).and (Program.Triple.keepsSteady hgood p)
  refine hrun.imp (fun _ hs => ⟨⟨hs, trivial⟩, hs⟩) fun status s hs => ⟨hs.1.1, fun m hm => ?_⟩
  have hpos : 0 ≤ status := by rw [hs.1.1]; exact hok
  exact (hs.2 m).resolve_left (hs.1.2 hpos m hm)

end

end Ps2Drivers
