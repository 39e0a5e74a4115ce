import Ps2Drivers.Lib.OneShot
import Ps2Drivers.Provider.Consume

/-!
# The provider as a one-shot store

Seen from outside the provider is a store of module images.  A staging call that succeeds fills it
with the requested modules of an image file, `ps2_irx_exec` takes a module out to start it, and
releasing or discarding throws modules away.
-/

open Binary CString OneShot

namespace Ps2Drivers

/-! ## 1. The store -/

def Provider.held (p : Provider) : Store UInt32 Bytes := fun id =>
  (p.payload id).map fun found => found.1.bytes.take found.2.toNat

def offered (ids : Irx → UInt32) (env : Env) (source : Option Bytes × UInt32) :
    Store UInt32 Bytes := fun id =>
  if id ∈ requestedIds ids source.2 then do
    let path ← source.1
    let image ← env.file path
    let e ← imageEntry image id
    return entryPayload image e
  else
    none

def ProviderOp.storeEvent (ids : Irx → UInt32) (env : Env) (w : World) :
    ProviderOp → Option (OneShot.Event UInt32 Bytes)
  | .stage call =>
    if (call.run ids env w).1 = .ok then
      some (.fill (offered ids env ((call.event env).after w.provider.remembered)))
    else
      none
  | .discardStaged => some (.drop fun _ => true)
  | .forgetSource => none
  | .getStaged moduleId outputs =>
    if outputs then
      some (.look moduleId ((ps2DriversImgGetStaged moduleId outputs w).1.map fun found =>
        found.1.bytes.take found.2.toNat))
    else
      none
  | .releaseStaged moduleId => some (.drop fun id => id == moduleId)
  | .exec answer module argLen args =>
    module.map fun moduleId => .take moduleId
      ((ps2IrxExecImage answer (some moduleId) argLen args w).1.call.map (·.payload))

/-! ## 2. One operation -/

theorem Provider.held_of_idle {p : Provider} (hp : p.Invariant) (hidle : p.idle) :
    p.held = Store.empty := by
  ext id
  simp [Provider.held, (Provider.idle_iff_payload hp).mp hidle id, Store.empty]

theorem Provider.held_released {p : Provider} (hp : p.Invariant) (moduleId : UInt32) :
    (p.released moduleId).held = fun id => if id = moduleId then none else p.held id := by
  funext id
  simp only [Provider.held, Provider.payload_released hp]
  split <;> rfl

section

variable {ids : Irx → UInt32} {env : Env} {w : World}

/-- A staging call that succeeds finds nothing staged, and leaves what the file offers. -/
theorem StageCall.run_held (hw : w.Valid) {call : StageCall} (hok : (call.run ids env w).1 = .ok) :
    w.provider.held = Store.empty ∧ (call.run ids env w).2.provider.held =
      offered ids env ((call.event env).after w.provider.remembered) := by
  have houtcome := call.run_outcome hw hok
  constructor
  · cases houtcome with
    | refused hne => exact absurd rfl hne
    | staged array source facts => exact Provider.held_of_idle hw.invariant facts.idle
  · obtain ⟨hvalid, hids, path, image, hpath, himage, hfound⟩ := houtcome.payload hw.invariant rfl
    funext id
    by_cases hid : id ∈ requestedIds ids ((call.event env).after w.provider.remembered).2
    · obtain ⟨e, data, hentry, -, hdata, hbytes, hlength⟩ := hfound id hid
      -- the size covers the whole buffer
      have htake : data.bytes.take e.size.toNat = entryPayload image e := by
        rw [← hlength, List.take_length, hbytes]
      rw [offered, if_pos hid, hpath]
      show (((call.run ids env w).2.provider.payload id).map _) =
        ((env.file path).bind fun image => (imageEntry image id).bind fun e =>
          some (entryPayload image e))
      rw [hdata, himage, Option.map_some, htake, Option.bind_some, hentry, Option.bind_some]
    · have hnone : (call.run ids env w).2.provider.payload id = none := by
        by_contra hne
        exact hid (hids ▸ Provider.mem_ids_of_payload hvalid.invariant hne)
      rw [offered, if_neg hid, Provider.held, hnone]
      rfl

/-- A staging call that fails leaves what is staged. -/
theorem StageCall.run_held_of_ne (hw : w.Valid) {call : StageCall}
    (hne : (call.run ids env w).1 ≠ .ok) :
    (call.run ids env w).2.provider.held = w.provider.held := by
  have h := call.run_effect ids env hw.invariant w hw.holds
  generalize call.run ids env w = r at h hne
  obtain ⟨e, w'⟩ := r
  cases h with
  | unchanged _ holds => rw [holds.1]
  | replaced => exact absurd rfl hne

/-- What `ps2_irx_exec` hands over is what it has found. -/
theorem ps2IrxExecImage_held (answer : Int × Int) (moduleId : UInt32) (argLen : Nat)
    (args : Option Bytes) :
    (ps2IrxExecImage answer (some moduleId) argLen args w).1.call.map (·.payload) =
      w.provider.held moduleId := by
  rw [ps2IrxExecImage_eq, Provider.held]
  cases w.provider.payload moduleId <;> rfl

/-- An event was possible in a store, and leaves the next one; without an event both are the same. -/
def Explains (event : Option (OneShot.Event UInt32 Bytes)) (held held' : Store UInt32 Bytes) : Prop :=
  (event = none → held' = held) ∧ ∀ e, event = some e → e.Allowed held ∧ held' = e.after held

theorem Explains.quiet {held held' : Store UInt32 Bytes} (h : held' = held) :
    Explains none held held' := by
  constructor
  · exact fun _ => h
  · intro e he
    cases he

theorem Explains.event {e : OneShot.Event UInt32 Bytes} {held held' : Store UInt32 Bytes}
    (hallowed : e.Allowed held) (h : held' = e.after held) : Explains (some e) held held' := by
  constructor
  · intro he
    cases he
  · intro e' he
    obtain rfl := Option.some.inj he
    exact ⟨hallowed, h⟩

/-- Every operation is explained by the event it is seen as. -/
theorem ProviderOp.run_held (hw : w.Valid) (op : ProviderOp) :
    Explains (op.storeEvent ids env w) w.provider.held (op.run ids env w).2.provider.held := by
  have hp := hw.invariant
  cases op with
  | stage call =>
    rw [ProviderOp.storeEvent]
    by_cases hok : (call.run ids env w).1 = .ok
    · rw [if_pos hok]
      obtain ⟨hallowed, hheld⟩ := StageCall.run_held hw hok
      exact .event hallowed hheld
    · rw [if_neg hok]
      exact .quiet (StageCall.run_held_of_ne hw hok)
  | discardStaged =>
    have hdone := ps2DriversImgDiscardStaged_ensures hp w hw.holds
    exact .event trivial (congrArg Provider.held hdone.1)
  | forgetSource =>
    -- the path and the mask are not part of the store
    have hdone := congrArg Provider.held (ps2DriversImgForgetSource_ensures w hw.holds).1
    exact .quiet (hdone.trans rfl)
  | getStaged moduleId outputs =>
    have hdone := ps2DriversImgGetStaged_ensures moduleId outputs w hw.holds
    have hsame := congrArg Provider.held hdone.2.1
    cases outputs with
    | false => exact .quiet hsame
    | true =>
      refine .event ?_ hsame
      show _ = w.provider.held moduleId
      rw [ps2DriversImgGetStaged_eq]
      rfl
  | releaseStaged moduleId =>
    have hdone := congrArg Provider.held (hw.release moduleId).2
    refine .event trivial (hdone.trans ?_)
    rw [Provider.held_released hp]
    funext id
    simp [OneShot.Event.after]
  | exec answer module argLen args =>
    cases module with
    | none => exact .quiet rfl
    | some moduleId =>
      have hdone := (ps2IrxExecImage_ensures hp answer moduleId argLen args w hw.holds).2.1
      refine .event (ps2IrxExecImage_held answer moduleId argLen args)
        ((congrArg Provider.held hdone).trans ?_)
      exact Provider.held_released hp moduleId

end

def providerStore (ids : Irx → UInt32) :
    OneShot.Machine World (Env × ProviderOp) UInt32 Bytes where
  valid := World.Valid
  next step w := (step.2.run ids step.1 w).2
  held w := w.provider.held
  event step w := step.2.storeEvent ids step.1 w
  next_valid {step _} hw := step.2.run_valid ids step.1 hw
  quiet {step _} hw := (step.2.run_held hw).1
  allowed {step _ e} hw he := ((step.2.run_held hw).2 e he).1
  held_next {step _ e} hw he := ((step.2.run_held hw).2 e he).2

theorem providerStore_run (ids : Irx → UInt32) (steps : List (Env × ProviderOp)) (w : World) :
    (providerStore ids).run steps w = runProvider ids steps w := rfl

/-! ## 3. Runs -/

/-- Every run is a lawful history of a one-shot store that starts empty: only a provider that holds
nothing is filled, every answer is right, and each module that was staged has been started, has been
thrown away, or is still there. -/
theorem runProvider_oneShot (ids : Irx → UInt32) (steps : List (Env × ProviderOp)) :
    let history := (providerStore ids).history steps World.initial
    let held := (runProvider ids steps World.initial).provider.held
    Lawful history ∧ held = heldAfter history ∧ ∀ id,
      history.countP (OneShot.Event.puts id) =
        history.countP (OneShot.Event.gives id) + wasted id history + (held id).isSome.toNat := by
  have hvalid : (providerStore ids).valid World.initial := World.initial_valid
  have hempty : (providerStore ids).held World.initial = Store.empty := rfl
  have hlawful := OneShot.Machine.run_lawful hvalid hempty steps
  have hheld := OneShot.Machine.run_held hvalid hempty steps
  rw [providerStore_run] at hheld
  refine ⟨hlawful, hheld, fun id => ?_⟩
  rw [hlawful.balance id, ← hheld]
  rfl

/-- `ps2_irx_exec` starts a module with some bytes when these are what the file of the latest
successful staging offered under its id, the module was requested, and since then nothing has been
staged or discarded, and the module has been neither released nor started. -/
theorem exec_starts_iff (ids : Irx → UInt32) (steps : List (Env × ProviderOp))
    (answer : Int × Int) (moduleId : UInt32) (argLen : Nat) (args : Option Bytes)
    (payload : Bytes) :
    (ps2IrxExecImage answer (some moduleId) argLen args
      (runProvider ids steps World.initial)).1.call.map (·.payload) = some payload ↔
    ∃ before env call after, steps = before ++ (env, .stage call) :: after ∧
      let w := runProvider ids before World.initial
      (call.run ids env w).1 = .ok ∧
      offered ids env ((call.event env).after
        (rememberedBy (providerHistory ids before World.initial))) moduleId = some payload ∧
      ∀ e ∈ (providerStore ids).history after (call.run ids env w).2,
        e.removes moduleId = false := by
  have hvalid : (providerStore ids).valid World.initial := World.initial_valid
  have hremembered (before : List (Env × ProviderOp)) :
      (runProvider ids before World.initial).provider.remembered =
        rememberedBy (providerHistory ids before World.initial) := by
    have h := runProvider_remembers ids before World.initial_valid
      (show World.initial.provider.remembered = rememberedBy [] from rfl)
    rwa [List.append_nil] at h
  rw [ps2IrxExecImage_held]
  refine (OneShot.Machine.held_run_iff hvalid rfl steps).trans ?_
  constructor
  · rintro ⟨before, ⟨env, op⟩, after, contents, hsteps, hevent, hcontents, hlater⟩
    -- only a staging call that succeeds is a fill
    cases op with
    | stage call =>
      change (if (call.run ids env (runProvider ids before World.initial)).1 = .ok then _
        else none) = _ at hevent
      by_cases hok : (call.run ids env (runProvider ids before World.initial)).1 = .ok
      · rw [if_pos hok] at hevent
        obtain rfl := OneShot.Event.fill.inj (Option.some.inj hevent)
        refine ⟨before, env, call, after, hsteps, hok, ?_, hlater⟩
        rw [← hremembered]
        exact hcontents
      · rw [if_neg hok] at hevent
        cases hevent
    | discardStaged | forgetSource | releaseStaged => cases hevent
    | getStaged id outputs => cases outputs <;> cases hevent
    | exec answer module => cases module <;> cases hevent
  · rintro ⟨before, env, call, after, hsteps, hok, hcontents, hlater⟩
    rw [← hremembered] at hcontents
    exact ⟨before, (env, .stage call), after, _, hsteps, if_pos hok, hcontents, hlater⟩

end Ps2Drivers
