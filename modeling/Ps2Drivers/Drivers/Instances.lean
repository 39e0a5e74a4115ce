import Ps2Drivers.Drivers.Modules

/-!
# Instances of a module

Drivers share modules without counting references.  Each execution, failure and unload leaves the
variables of a module in step with the instance the trace shows, and from this loads and unloads
come one for one, whoever makes them.
-/

open Binary CString

namespace Ps2Drivers

/-! ## 1. What the trace says -/

/-- The result of the execution whose instance is still loaded. -/
def resident (m : Irx) : List Event → Option (Int × Int)
  | [] => none
  | .exec m' call result :: rest =>
    if (Event.exec m' call result).starts m then some result else resident m rest
  | .unload m' _ _ :: rest => if m' = m then none else resident m rest
  | .lib _ _ :: rest => resident m rest

/-- What the last event of a module leaves in its variables. -/
def lastVars (m : Irx) : List Event → IrxVars
  | [] => .reset
  | .exec m' _ result :: rest => if m' = m then ⟨result.1, result.2⟩ else lastVars m rest
  | .unload m' _ _ :: rest => if m' = m then .reset else lastVars m rest
  | .lib _ _ :: rest => lastVars m rest

/-- A module is executed only while it is not loaded, and unloaded only with the id its execution
returned. -/
def paired : List Event → Prop
  | [] => True
  | .exec m _ _ :: rest => loaded m rest = false ∧ paired rest
  | .unload m id _ :: rest =>
    (∃ ret, resident m rest = some (id, ret) ∧ (ret = 0 ∨ ret = 2)) ∧ paired rest
  | .lib _ _ :: rest => paired rest

theorem loaded_eq_isSome_resident (m : Irx) (trace : List Event) :
    loaded m trace = (resident m trace).isSome := by
  induction trace with
  | nil => rfl
  | cons e trace ih =>
    cases e with
    | exec m' call result =>
      rw [loaded, resident]
      by_cases hstarts : (Event.exec m' call result).starts m = true
      · rw [hstarts, if_pos rfl]
        rfl
      · rw [if_neg hstarts, ← ih, Bool.eq_false_of_not_eq_true hstarts]
        rfl
    | unload m' id result =>
      rw [resident]
      by_cases hm : m' = m
      · simp [loaded, Event.starts, Event.isUnload, hm]
      · simp [loaded, Event.starts, Event.isUnload, hm, ih]
    | lib call result => exact ih

theorem resident_eq_none {m : Irx} {trace : List Event} (h : loaded m trace = false) :
    resident m trace = none := by
  rw [loaded_eq_isSome_resident] at h
  exact Option.not_isSome_iff_eq_none.mp (Bool.eq_false_iff.mp h)

/-- In a paired trace the last event of a module tells whether it is loaded, and as what. -/
theorem resident_eq {trace : List Event} (h : paired trace) (m : Irx) :
    resident m trace = if (lastVars m trace).checkErr then none
      else some ((lastVars m trace).id, (lastVars m trace).ret) := by
  induction trace with
  | nil => rfl
  | cons e trace ih =>
    cases e with
    | exec m' call result =>
      rw [resident, lastVars, Event.starts_exec]
      by_cases hm : m' = m
      · -- nothing was loaded before, so a failed execution leaves nothing loaded
        have hnone : resident m trace = none := resident_eq_none (hm ▸ h.1)
        rw [if_pos hm, hnone, hm]
        cases herr : (IrxVars.mk result.1 result.2).checkErr <;> simp
      · rw [if_neg hm, beq_eq_false_iff_ne.mpr hm]
        exact ih h.2
    -- an unload leaves the variables reset, whatever it returned
    | unload m' id result =>
      rw [resident, lastVars]
      by_cases hm : m' = m
      · rw [if_pos hm, if_pos hm]
        rfl
      · rw [if_neg hm, if_neg hm]
        exact ih h.2
    | lib call result => exact ih h

/-! ## 2. The invariant -/

/-- The trace is paired, and its events explain the variables. -/
structure Machine.Explained (s : Machine) : Prop where
  paired : paired s.trace
  vars : ∀ m, s.irx m = lastVars m s.trace

section

variable {es trace : List Event} (hes : ∀ e ∈ es, e.isLibrary = true)

include hes

theorem paired_append : paired (es ++ trace) = paired trace :=
  append_of_libraries hes fun _ _ _ => rfl

theorem lastVars_append (m : Irx) : lastVars m (es ++ trace) = lastVars m trace :=
  append_of_libraries hes fun _ _ _ => rfl

end

theorem IrxVars.ret_of_checkUnload {v : IrxVars} (h : v.checkUnload = true) :
    v.ret = 0 ∨ v.ret = 2 := by
  unfold checkUnload at h
  simp only [Bool.and_eq_true, Bool.or_eq_true, beq_iff_eq] at h
  exact h.2

theorem Machine.initial_explained (cwd : Bytes) (w : World) :
    (Machine.initial cwd w).Explained := ⟨trivial, fun _ => rfl⟩

section

variable {console : Console} {op : DriverOp} {s s' : Machine}

theorem Machine.Explained.resident_eq (h : s.Explained) (m : Irx) :
    resident m s.trace =
      if (s.irx m).checkErr then none else some ((s.irx m).id, (s.irx m).ret) := by
  rw [h.vars m]
  exact Ps2Drivers.resident_eq h.paired m

theorem ModuleEffect.explained (h : ModuleEffect console s op s') (hs : s.Explained) :
    s'.Explained := by
  cases h with
  | quiet es hes htrace hirx =>
    constructor
    · rw [htrace, paired_append hes]
      exact hs.paired
    · intro m
      rw [htrace, hirx, lastVars_append hes]
      exact hs.vars m
  | executed m' args hreset =>
    constructor
    · -- the variables are reset, so no instance is loaded
      rw [Machine.executed_trace]
      refine ⟨?_, hs.paired⟩
      rw [loaded_eq_isSome_resident, hs.resident_eq, hreset]
      rfl
    · intro m
      rw [Machine.executed_trace, Machine.executed_irx, lastVars]
      by_cases hm : m = m'
      · rw [hm, Function.update_self, if_pos rfl]
      · rw [Function.update_of_ne hm, if_neg (Ne.symm hm)]
        exact hs.vars m
  | unloaded m' result hunload =>
    constructor
    · refine ⟨⟨(s.irx m').ret, ?_, IrxVars.ret_of_checkUnload hunload⟩, hs.paired⟩
      rw [hs.resident_eq, IrxVars.checkErr_of_checkUnload hunload]
      rfl
    · intro m
      show Function.update s.irx m' .reset m = if m' = m then .reset else lastVars m s.trace
      by_cases hm : m = m'
      · rw [hm, Function.update_self, if_pos rfl]
      · rw [Function.update_of_ne hm, if_neg (Ne.symm hm)]
        exact hs.vars m

end

/-! ## 3. One for one -/

/-- Loads and unloads of each module alternate, with the right ids, up to the machine `s`. -/
structure OneForOne (console : Console) (s : Machine) : Prop where
  /-- Nothing is executed while an instance of it is loaded. -/
  exec : ∀ m call result later earlier,
    s.trace = later ++ .exec m call result :: earlier → loaded m earlier = false
  /-- Only a loaded instance is unloaded, under its own id, and it returned `0` or `2`. -/
  unload : ∀ m id result later earlier, s.trace = later ++ .unload m id result :: earlier →
    ∃ ret, resident m earlier = some (id, ret) ∧ (ret = 0 ∨ ret = 2)
  /-- Between two unloads of a module an instance of it is started. -/
  once : ∀ m id result id' result' later between earlier,
    s.trace = later ++ .unload m id result :: (between ++ .unload m id' result' :: earlier) →
      ∃ e ∈ between, e.starts m = true
  /-- Unloading resets the variables, so the next initialisation executes the module. -/
  reset : ∀ m id result later earlier, s.trace = later ++ .unload m id result :: earlier →
    (∀ e ∈ later, e.isExec m = false) →
      s.irx m = ⟨-1, -1⟩ ∧ ∀ args payload, s.irxPayload console m = some payload →
        ∃ call result, (s.loadIrx console m args).2.trace = .exec m call result :: s.trace

theorem paired_suffix {later trace : List Event} (h : paired (later ++ trace)) : paired trace := by
  induction later with
  | nil => exact h
  | cons e later ih =>
    cases e with
    | exec m call result => exact ih h.2
    | unload m id result => exact ih h.2
    | lib call result => exact ih h

/-- A module that is loaded again after an unload was started in between. -/
theorem starts_of_resident {m : Irx} {between : List Event} {id result : Int}
    {earlier : List Event} {instance' : Int × Int}
    (h : resident m (between ++ .unload m id result :: earlier) = some instance') :
    ∃ e ∈ between, e.starts m = true := by
  induction between with
  | nil =>
    rw [List.nil_append, resident, if_pos rfl] at h
    cases h
  | cons e between ih =>
    by_cases hstarts : e.starts m = true
    · exact ⟨e, List.mem_cons_self, hstarts⟩
    · have hrest : resident m (between ++ .unload m id result :: earlier) = some instance' := by
        rw [List.cons_append] at h
        cases e with
        | exec m' call result' =>
          rw [resident, if_neg hstarts] at h
          exact h
        | unload m' id' result' =>
          rw [resident] at h
          by_cases hm : m' = m
          · rw [if_pos hm] at h
            cases h
          · rw [if_neg hm] at h
            exact h
        | lib call result' => exact h
      obtain ⟨e', he', hstarts'⟩ := ih hrest
      exact ⟨e', List.mem_cons_of_mem e he', hstarts'⟩

/-- After its unload a module's variables are reset until it is executed again. -/
theorem lastVars_of_unload {m : Irx} {later earlier : List Event} {id result : Int}
    (hlater : ∀ e ∈ later, e.isExec m = false) :
    lastVars m (later ++ .unload m id result :: earlier) = .reset := by
  induction later with
  | nil =>
    rw [List.nil_append, lastVars, if_pos rfl]
  | cons e later ih =>
    have hrest := ih fun e he => hlater e (List.mem_cons_of_mem _ he)
    have he := hlater e List.mem_cons_self
    rw [List.cons_append]
    cases e with
    | exec m' call result' =>
      rw [lastVars, if_neg (beq_eq_false_iff_ne.mp he)]
      exact hrest
    | unload m' id' result' =>
      rw [lastVars, hrest, ite_self]
    | lib call result' => exact hrest

theorem Machine.Explained.oneForOne {s : Machine} (h : s.Explained) (console : Console) :
    OneForOne console s where
  exec m call result later earlier htrace := by
    have hpaired := h.paired
    rw [htrace] at hpaired
    exact (paired_suffix hpaired).1
  unload m id result later earlier htrace := by
    have hpaired := h.paired
    rw [htrace] at hpaired
    exact (paired_suffix hpaired).1
  once m id result id' result' later between earlier htrace := by
    have hpaired := h.paired
    rw [htrace] at hpaired
    obtain ⟨ret, hresident, -⟩ := (paired_suffix hpaired).1
    exact starts_of_resident hresident
  reset m id result later earlier htrace hlater := by
    have hreset : s.irx m = .reset := by
      rw [h.vars m, htrace]
      exact lastVars_of_unload hlater
    refine ⟨hreset, fun args payload hpayload => ?_⟩
    rw [Machine.loadIrx_eq, if_pos hreset, hpayload]
    exact ⟨_, _, rfl⟩

/-- Whatever the executions answer and the drivers share, every state of a run of public calls has
its modules loaded and unloaded one for one. -/
theorem runCalls_oneForOne (console : Console) (cwd : Bytes) (w : World)
    (calls : List PublicCall) {s : Machine}
    (hs : Program.Visits console.step s (runCalls calls) (Machine.initial cwd w)) :
    OneForOne console s :=
  (hs.keeps (fun _ _ _ h hstep => (step_effect hstep).explained h)
    (Machine.initial_explained cwd w)).oneForOne console

def Console.quiet : Console where
  flavor := .embedded fun _ => []
  exec _ _ := (7, 0)
  unload _ _ := 0
  lib _ _ := 0
  cop2Pipelined := true
  patience := 1

/-- cdfs is loaded, unloaded and loaded again. -/
theorem runCalls_oneForOne_twice :
    ∃ s, Program.Visits Console.quiet.step s
        (runCalls [.init .cdfs false false, .deinit .cdfs false, .init .cdfs false false])
        (Machine.initial [] World.initial) ∧
      loaded .cdfs s.trace = true ∧ OneForOne Console.quiet s := by
  have hvisits := Program.visits_of_run (h := Console.quiet.step)
    (p := runCalls [.init .cdfs false false, .deinit .cdfs false, .init .cdfs false false])
    (s := Machine.initial [] World.initial) rfl
  exact ⟨_, hvisits, rfl, runCalls_oneForOne Console.quiet [] World.initial _ hvisits⟩

/-! ## 4. Unloads that fail

No driver looks at the result of `SifUnloadModule`: the variables are reset, and an instance that
could not be unloaded is forgotten.
-/

/-- The ids of the instances of the module that are still resident; `SifUnloadModule` removes one
only when its result is not negative. -/
def residentIds (m : Irx) : List Event → List Int
  | [] => []
  | .exec m' call result :: rest =>
    if (Event.exec m' call result).starts m then result.1 :: residentIds m rest
    else residentIds m rest
  | .unload m' id result :: rest =>
    if m' = m ∧ 0 ≤ result then (residentIds m rest).erase id else residentIds m rest
  | .lib _ _ :: rest => residentIds m rest

/-- The ids of the instances of the module whose `SifUnloadModule` returned a negative number. -/
def failedUnloads (m : Irx) : List Event → List Int
  | [] => []
  | .unload m' id result :: rest =>
    if m' = m ∧ result < 0 then id :: failedUnloads m rest else failedUnloads m rest
  | .exec _ _ _ :: rest | .lib _ _ :: rest => failedUnloads m rest

/-- In a paired trace the resident instances are the one that is loaded and those that could not be
unloaded. -/
theorem residentIds_eq {trace : List Event} (h : paired trace) (m : Irx) :
    residentIds m trace = (resident m trace).toList.map Prod.fst ++ failedUnloads m trace := by
  induction trace with
  | nil => rfl
  | cons e trace ih =>
    cases e with
    | exec m' call result =>
      rw [residentIds, resident, failedUnloads, ih h.2]
      by_cases hstarts : (Event.exec m' call result).starts m = true
      · -- nothing was loaded before
        have hm : m' = m := by
          rw [Event.starts_exec, Bool.and_eq_true, beq_iff_eq] at hstarts
          exact hstarts.1
        have hnone : resident m trace = none := resident_eq_none (hm ▸ h.1)
        rw [if_pos hstarts, if_pos hstarts, hnone]
        rfl
      · rw [if_neg hstarts, if_neg hstarts]
    | unload m' id result =>
      obtain ⟨⟨ret, hresident, -⟩, hpaired⟩ := h
      rw [residentIds, resident, failedUnloads, ih hpaired]
      by_cases hm : m' = m
      · subst hm
        rw [hresident, if_pos rfl]
        -- `SifUnloadModule` takes the id off, or leaves it to the failed ones
        by_cases hresult : 0 ≤ result
        · rw [if_pos ⟨rfl, hresult⟩, if_neg fun h => Int.not_lt.mpr hresult h.2]
          exact List.erase_cons_head ..
        · rw [if_neg fun h => hresult h.2, if_pos ⟨rfl, Int.not_le.mp hresult⟩]
          rfl
      · rw [if_neg fun h => hm h.1, if_neg hm, if_neg fun h => hm h.1]
    | lib call result => exact ih h

/-- In every state of a run of public calls, whatever the executions and the unloads answer, the
instances that were resident when a module was executed are those it failed to unload before. -/
theorem runCalls_failedUnloads (console : Console) (cwd : Bytes) (w : World)
    (calls : List PublicCall) {s : Machine}
    (hs : Program.Visits console.step s (runCalls calls) (Machine.initial cwd w)) :
    ∀ m call result later earlier, s.trace = later ++ .exec m call result :: earlier →
      residentIds m earlier = failedUnloads m earlier := by
  intro m call result later earlier htrace
  have hpaired := (hs.keeps (fun _ _ _ h hstep => (step_effect hstep).explained h)
    (Machine.initial_explained cwd w)).paired
  rw [htrace] at hpaired
  have hexec := paired_suffix hpaired
  rw [residentIds_eq hexec.2, resident_eq_none hexec.1]
  rfl

def Console.stubborn : Console := { Console.quiet with unload := fun _ _ => -1 }

/-- The unloading fails, and the second instance is loaded beside the first one. -/
theorem runCalls_failedUnloads_stubborn :
    ∃ s later call result earlier, Program.Visits Console.stubborn.step s
        (runCalls [.init .cdfs false false, .deinit .cdfs false, .init .cdfs false false])
        (Machine.initial [] World.initial) ∧
      s.trace = later ++ .exec .cdfs call result :: earlier ∧
      residentIds .cdfs earlier = failedUnloads .cdfs earlier := by
  have hvisits := Program.visits_of_run (h := Console.stubborn.step)
    (p := runCalls [.init .cdfs false false, .deinit .cdfs false, .init .cdfs false false])
    (s := Machine.initial [] World.initial) rfl
  exact ⟨_, [], _, _, _, hvisits, rfl,
    runCalls_failedUnloads Console.stubborn [] World.initial _ hvisits _ _ _ [] _ rfl⟩

/-- The second initialisation executes the module beside the instance that stayed. -/
theorem runCalls_executes_resident :
    ¬ ∀ (console : Console) (cwd : Bytes) (w : World) (calls : List PublicCall) (s : Machine),
      Program.Visits console.step s (runCalls calls) (Machine.initial cwd w) →
      ∀ m call result later earlier, s.trace = later ++ .exec m call result :: earlier →
        residentIds m earlier = [] := by
  intro h
  have hvisits := Program.visits_of_run (h := Console.stubborn.step)
    (p := runCalls [.init .cdfs false false, .deinit .cdfs false, .init .cdfs false false])
    (s := Machine.initial [] World.initial) rfl
  have hnone := h Console.stubborn [] World.initial _ _ hvisits .cdfs _ _ [] _ rfl
  cases hnone

end Ps2Drivers
