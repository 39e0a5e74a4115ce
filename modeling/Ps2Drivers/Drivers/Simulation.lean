import Ps2Drivers.Drivers.Report

/-!
# The two flavors

Modules staged from an image against modules linked into the program.  As long as nothing fails,
a module is staged exactly until it is executed, so the two flavors cannot be told apart.
-/

open Binary CString

namespace Ps2Drivers

/-! ## 1. The relation -/

def Console.withFlavor (flavor : Flavor) (console : Console) : Console :=
  { console with flavor := flavor }

theorem Console.AllSucceed.withFlavor {console : Console} (h : console.AllSucceed)
    (flavor : Flavor) : (console.withFlavor flavor).AllSucceed := by
  constructor
  · exact h.exec
  · exact h.pipelined
  · exact h.hddStatus
  · exact h.poweroffInit
  · exact h.mtapInit
  · exact h.padInit
  · exact h.audsrvInit
  · exact h.ps2MouseInit
  · exact h.ps2KbdInit
  · exact h.ps2CamInit
  · exact h.netManInit
  · exact h.ps2ipInit

/-- The bytes `ps2_irx_exec` hands over in the embedded flavor. -/
def embeddedPayload (data : Irx → Bytes) (m : Irx) : Bytes :=
  (data m).take (UInt32.ofNat (data m).length).toNat

def stagedPayload (w : World) (id : UInt32) : Option Bytes :=
  (w.provider.payload id).map fun found => found.1.bytes.take found.2.toNat

/-- Of the modules a mask requires, the ones still to be executed are staged, and nothing else
is. -/
structure StagedFor (requirements : UInt32) (data : Irx → Bytes) (irx : Irx → IrxVars)
    (w : World) : Prop where
  valid : w.Valid
  waiting : ∀ m ∈ requiredModules requirements, irx m = .reset →
    stagedPayload w (irxId m) = some (embeddedPayload data m)
  taken : ∀ m, irx m ≠ .reset → w.provider.payload (irxId m) = none
  required : ∀ id, w.provider.payload id ≠ none →
    ∃ m ∈ requiredModules requirements, irxId m = id

/-- The two machines differ in the provider only, and it holds what is still to be executed. -/
structure FlavorSim (requirements : UInt32) (data : Irx → Bytes) (s t : Machine) : Prop where
  same : t = { s with world := t.world }
  staged : StagedFor requirements data s.irx t.world

def DriverOp.initialises (requirements : UInt32) (op : DriverOp) : Prop :=
  ∃ ms : List Irx, (∀ m ∈ ms, m ∈ requiredModules requirements) ∧ op.bringsUp ms

/-! ## 2. One step -/

section

variable {requirements : UInt32} {data : Irx → Bytes} {w : World} {irx : Irx → IrxVars}

/-- Executing a module takes its payload out, and marks its variables. -/
theorem StagedFor.execute (h : StagedFor requirements data irx w) (m : Irx) {v : IrxVars}
    (hv : v ≠ .reset) :
    StagedFor requirements data (Function.update irx m v)
      (ps2DriversImgReleaseStaged (irxId m) w).2 := by
  obtain ⟨hvalid, hprovider⟩ := h.valid.release (irxId m)
  have hpayload (id : UInt32) :
      (ps2DriversImgReleaseStaged (irxId m) w).2.provider.payload id =
        if id = irxId m then none else w.provider.payload id := by
    rw [hprovider, Provider.payload_released h.valid.invariant]
  constructor
  · exact hvalid
  · -- a module that still waits is another one, and its payload stays
    intro m' hm' hreset
    by_cases heq : m' = m
    · rw [heq, Function.update_self] at hreset
      exact absurd hreset hv
    · rw [Function.update_of_ne heq] at hreset
      rw [stagedPayload, hpayload, if_neg (mt (irxId_injective ·) heq)]
      exact h.waiting m' hm' hreset
  · intro m' hne
    rw [hpayload]
    by_cases heq : m' = m
    · rw [if_pos (congrArg irxId heq)]
    · rw [if_neg (mt (irxId_injective ·) heq)]
      rw [Function.update_of_ne heq] at hne
      exact h.taken m' hne
  · intro id hne
    rw [hpayload] at hne
    by_cases heq : id = irxId m
    · rw [if_pos heq] at hne
      exact absurd rfl hne
    · rw [if_neg heq] at hne
      exact h.required id hne

/-- The library sees neither the flavor nor the provider. -/
theorem Machine.lib_withFlavor (console : Console) (flavor flavor' : Flavor) (call : LibCall)
    (s : Machine) :
    ({ s with world := w } : Machine).lib (console.withFlavor flavor) call =
      ((s.lib (console.withFlavor flavor') call).1,
        { (s.lib (console.withFlavor flavor') call).2 with world := w }) := by
  unfold Machine.lib Console.withFlavor Machine.record
  cases call <;> dsimp only
  case chdir path => split <;> rfl

/-- One operation of an initialisation, in both flavors. -/
theorem FlavorSim.step {console : Console} (hgood : console.AllSucceed) {op : DriverOp}
    (hop : op.initialises requirements) {s t : Machine}
    (h : FlavorSim requirements data s t) :
    ∃ answer s' t', (console.withFlavor (.embedded data)).step op s = some (answer, s') ∧
      (console.withFlavor .image).step op t = some (answer, t') ∧
      FlavorSim requirements data s' t' := by
  obtain ⟨ms, hms, hop⟩ := hop
  obtain ⟨hsame, hstaged⟩ := h
  generalize t.world = w at hsame hstaged
  subst hsame
  cases op with
  | loadIrx m args =>
    have hm : m ∈ requiredModules requirements := hms m hop
    show ∃ answer s' t', some (s.loadIrx _ m args) = _ ∧ some (Machine.loadIrx _ m args _) = _ ∧ _
    rw [Machine.loadIrx_eq, Machine.loadIrx_eq]
    dsimp only
    by_cases hreset : s.irx m = .reset
    · rw [if_pos hreset, if_pos hreset]
      -- both flavors have the same payload for the module
      have himage : ({ s with world := w } : Machine).irxPayload (console.withFlavor .image) m =
          some (embeddedPayload data m) := hstaged.waiting m hm hreset
      have hembedded : s.irxPayload (console.withFlavor (.embedded data)) m =
          some (embeddedPayload data m) := rfl
      rw [himage, hembedded]
      refine ⟨_, _, _, rfl, rfl, rfl, ?_⟩
      apply hstaged.execute m
      intro hnew
      -- an execution that succeeds leaves an id
      have hpos := (hgood.exec m (s.trace.countP (·.isExec m))).1
      rw [show (console.exec m _).1 = -1 from congrArg IrxVars.id hnew] at hpos
      exact absurd hpos (by decide)
    · rw [if_neg hreset, if_neg hreset]
      exact ⟨_, _, _, rfl, rfl, rfl, hstaged⟩
  | lib call =>
    refine ⟨_, _, _, rfl, congrArg some (Machine.lib_withFlavor console _ _ call s), rfl, ?_⟩
    obtain ⟨-, -, -, hirx, -⟩ :=
      Machine.lib_effect (console.withFlavor (.embedded data)) call s
    show StagedFor requirements data (s.lib (console.withFlavor (.embedded data)) call).2.irx w
    rw [hirx]
    exact hstaged
  | isCOP2Pipelined | getcwd | getStatus | setStatus => exact ⟨_, _, _, rfl, rfl, rfl, hstaged⟩
  | _ => exact hop.elim

end

/-! ## 3. Runs of initialisations -/

def PublicCall.initialises (requirements : UInt32) : PublicCall → Prop
  | .init d _ _ => requires requirements d = true
  | _ => False

section

variable {requirements : UInt32}

theorem responsible_required {d : Driver} (hd : requires requirements d = true)
    (initDependencies : Bool) :
    ∀ m ∈ d.responsible initDependencies, m ∈ requiredModules requirements := fun m hm =>
  ⟨d, hd, (d.mem_responsible m).mp (d.responsible_subset initDependencies hm)⟩

theorem runCalls_within {calls : List PublicCall}
    (hcalls : ∀ call ∈ calls, call.initialises requirements) :
    (runCalls calls).Within (DriverOp.initialises requirements) := by
  induction calls with
  | nil => exact Program.within_pure _
  | cons call calls ih =>
    have hrest := ih fun call hmem => hcalls call (List.mem_cons_of_mem _ hmem)
    have hcall : call.run.Within (DriverOp.initialises requirements) := by
      have hinit := hcalls call List.mem_cons_self
      cases call with
      | init d initDependencies onlyIfBootedFromHdd =>
        exact (initDriver_reports d initDependencies onlyIfBootedFromHdd).within.mono fun op hop =>
          ⟨_, responsible_required hinit initDependencies, hop⟩
      | _ => exact hinit.elim
    refine Program.Within.bind hcall fun status => ?_
    exact Program.Within.bind hrest fun more => Program.within_pure _

/-- What was initialised somewhere in the run is started at its end. -/
theorem runCalls_started {console : Console} (hgood : console.AllSucceed)
    (hflavor : ∃ data, console.flavor = .embedded data) {calls : List PublicCall}
    (hcalls : ∀ call ∈ calls, call.initialises requirements) {d : Driver} {initDependencies : Bool}
    (hd : .init d initDependencies false ∈ calls) :
    Program.Triple console.step Machine.Steady (runCalls calls) fun _ s =>
      s.Started (d.responsible initDependencies) := by
  induction calls with
  | nil => cases hd
  | cons call calls ih =>
    have hrest : ∀ call ∈ calls, call.initialises requirements := fun call hmem =>
      hcalls call (List.mem_cons_of_mem _ hmem)
    rcases List.mem_cons.mp hd with hhead | htail
    · -- started here, and kept by the rest
      rw [← hhead]
      refine Program.Triple.bind
        ((initDriver_spec d initDependencies).succeeds console hgood hflavor) fun status => ?_
      apply Program.Triple.of_pure
      intro _
      have hkeep := (runCalls_within hrest).mono fun op ⟨_, _, hop⟩ =>
        hop.leaves (d.responsible initDependencies)
      refine Program.Triple.bind (Program.Triple.staysStarted _ hkeep) fun more => ?_
      exact Program.Triple.ret fun _ hs => hs
    · refine Program.Triple.bind (Program.Triple.keepsSteady hgood call.run) fun status => ?_
      refine Program.Triple.bind (ih hrest htail) fun more => ?_
      exact Program.Triple.ret fun _ hs => hs

/-- Once every required module is started, nothing is staged. -/
theorem StagedFor.nothing_left {data : Irx → Bytes} {irx : Irx → IrxVars} {w : World}
    (h : StagedFor requirements data irx w)
    (hstarted : ∀ m ∈ requiredModules requirements, (irx m).checkErr = false) :
    w.provider.stagedCount = 0 ∧ w.provider.stagedBytes = 0 := by
  apply Provider.nothing_staged h.valid.invariant
  intro id
  by_contra hne
  obtain ⟨m, hm, hid⟩ := h.required id hne
  apply hne
  rw [← hid]
  apply h.taken m
  intro hreset
  have herr := hstarted m hm
  rw [hreset] at herr
  cases herr

/-- A successful staging starts the relation, if the image holds the embedded bytes. -/
theorem stage_stagedFor {env : Env} {path image : Bytes} {w : World} {data : Irx → Bytes}
    {irx : Irx → IrxVars} (hw : w.Valid) (himage : env.file path = some image)
    (hok : (ps2DriversImgStage irxId env (some path) requirements w).1 = .ok)
    (hdata : ∀ m ∈ requiredModules requirements, ∀ e, imageEntry image (irxId m) = some e →
      entryPayload image e = data m)
    (hirx : ∀ m, irx m = .reset) :
    StagedFor requirements data irx
      (ps2DriversImgStage irxId env (some path) requirements w).2 := by
  obtain ⟨hvalid, path', image', hpath, himage', hpayload, hrequested⟩ :=
    ps2DriversImgStage_payload hw hok
  cases hpath
  cases himage.symm.trans himage'
  constructor
  · exact hvalid
  · intro m hm _
    obtain ⟨e, block, hentry, hfound, hbytes, hlength⟩ :=
      hpayload (irxId m) ((mem_requestedIds_irxId _ _).mpr ⟨m, hm, rfl⟩)
    have hsame : block.bytes = data m := hbytes.trans (hdata m hm e hentry)
    rw [stagedPayload, hfound, Option.map_some, embeddedPayload, ← hsame]
    -- the size is the length, and fits its field
    rw [hlength, UInt32.ofNat_toNat]
  · intro m hne
    exact absurd (hirx m) hne
  · intro id hne
    exact (mem_requestedIds_irxId _ _).mp (hrequested id hne)

end

/-! ## 4. The simulation -/

/-- After a successful staging the drivers of the mask make the same calls and return the same
statuses as with embedded modules, and once each of them was initialised nothing is staged. -/
theorem image_simulates_embedded {console : Console} (hgood : console.AllSucceed)
    (data : Irx → Bytes) (steps : List (Env × ProviderOp)) {env : Env} {path image : Bytes}
    {requirements : UInt32} (himage : env.file path = some image)
    (hstage : (ps2DriversImgStage irxId env (some path) requirements
      (runProvider irxId steps World.initial)).1 = .ok)
    (hdata : ∀ m ∈ requiredModules requirements, ∀ e, imageEntry image (irxId m) = some e →
      entryPayload image e = data m)
    {s : Machine} (hreset : ∀ m, s.irx m = .reset) {calls : List PublicCall}
    (hcalls : ∀ call ∈ calls, call.initialises requirements) :
    let w := (ps2DriversImgStage irxId env (some path) requirements
      (runProvider irxId steps World.initial)).2
    ∃ statuses s' t',
      (runCalls calls).run (console.withFlavor (.embedded data)).step s = some (statuses, s') ∧
      (runCalls calls).run (console.withFlavor .image).step { s with world := w } =
        some (statuses, t') ∧
      t'.trace = s'.trace ∧
      ((∀ d, requires requirements d = true → .init d true false ∈ calls) →
        t'.world.provider.stagedCount = 0 ∧ t'.world.provider.stagedBytes = 0) := by
  intro w
  have hsim : FlavorSim requirements data s { s with world := w } :=
    ⟨rfl, stage_stagedFor (runProvider_valid irxId steps World.initial_valid) himage hstage hdata
      hreset⟩
  obtain ⟨statuses, s', t', hs, ht, hsame, hstaged⟩ :=
    Program.run_simulates (fun op hop s t h => FlavorSim.step hgood hop h) (runCalls_within hcalls)
      hsim
  have htrace : t'.trace = s'.trace := by rw [hsame]
  refine ⟨statuses, s', t', hs, ht, htrace, fun hall => ?_⟩
  -- every module that was staged was executed, and so taken out
  apply hstaged.nothing_left
  rintro m ⟨d, hd, hm⟩
  have hstarted :=
    runCalls_started (hgood.withFlavor (.embedded data)) ⟨data, rfl⟩ hcalls (hall d hd)
  exact hstarted.holds s (fun m => Or.inl (hreset m)) _ hs m ((d.mem_responsible m).mpr hm)

def memcardData : Irx → Bytes
  | .sio2man => [1]
  | .mcman => [4, 4, 4]
  | .mcserv => List.replicate 17 5
  | _ => []

theorem memcardImage_data (m : Irx) :
    ∀ e ∈ imageEntry memcardImage (irxId m), entryPayload memcardImage e = memcardData m := by
  cases m <;> decide +kernel

/-- The memory card driver, and again the driver it shares a module with. -/
theorem image_simulates_embedded_memcard :
    let w := (ps2DriversImgStage irxId memcardEnv (some (lit "a.irximg")) memcardRequirements
      (runProvider irxId memcardSteps World.initial)).2
    let calls := [.init .memcard true false, .init .sio2man true false]
    let s := Machine.initial [] World.initial
    ∃ statuses s' t',
      (runCalls calls).run (Console.ready.withFlavor (.embedded memcardData)).step s =
        some (statuses, s') ∧
      (runCalls calls).run (Console.ready.withFlavor .image).step { s with world := w } =
        some (statuses, t') ∧
      t'.trace = s'.trace ∧
      t'.world.provider.stagedCount = 0 ∧ t'.world.provider.stagedBytes = 0 := by
  intro w calls s
  have hstage : (ps2DriversImgStage irxId memcardEnv (some (lit "a.irximg")) memcardRequirements
      (runProvider irxId memcardSteps World.initial)).1 = .ok := by decide +kernel
  have hcalls : ∀ call ∈ calls, call.initialises memcardRequirements := by
    simp only [calls, List.forall_mem_cons]
    exact ⟨show requires memcardRequirements .memcard = true by decide,
      show requires memcardRequirements .sio2man = true by decide, List.forall_mem_nil _⟩
  have hall : ∀ d, requires memcardRequirements d = true → .init d true false ∈ calls := by
    intro d
    cases d <;> decide
  obtain ⟨statuses, s', t', hs, ht, htrace, hgone⟩ := @image_simulates_embedded _
    Console.ready_succeeds memcardData memcardSteps memcardEnv (lit "a.irximg") memcardImage _ rfl
    hstage (fun m _ => memcardImage_data m) s (fun _ => rfl) _ hcalls
  exact ⟨statuses, s', t', hs, ht, htrace, hgone hall⟩

end Ps2Drivers
