import Ps2Drivers.Drivers.Restage

/-!
# The image sample

`irximg_sample.c` in the image flavor: the joystick driver is staged for, initialised, taken down,
staged for again and initialised again, and the program checks the provider in between.
-/

open Binary CString

namespace Ps2Drivers

/-! ## 1. The program -/

/-- The first staging, of the image the program is given or of the default one. -/
def stageArgument (env : Env) (argv1 : Option Bytes) : ProviderM ImgError :=
  match argv1 with
  | some path => ps2DriversImgStage irxId env (some path) Driver.joystick.req
  | none => ps2DriversImgStageDefault irxId env Driver.joystick.req

/-- `main`; `env` and `env'` are the environments of the two stagings.  The reset of the IOP comes
before any driver is initialised. -/
def irximgSample (console : Console) (env env' : Env) (argv1 : Option Bytes) : AppM Int := do
  let result ← provide (stageArgument env argv1)
  if result ≠ .ok then
    return 1
  let joystickStatus ← drive console (initJoystickDriver true)
  if joystickStatus ≠ JoystickInitStatus.ok then
    return 2
  let modules ← provide ps2DriversImgStagedModules
  let bytes ← provide ps2DriversImgStagedBytes
  if modules ≠ 0 ∨ bytes ≠ 0 then
    return 3
  drive console (deinitJoystickDriver true)
  let result ← provide (ps2DriversImgRestageLast irxId env')
  if result ≠ .ok then
    return 4
  let modules ← provide ps2DriversImgStagedModules
  let bytes ← provide ps2DriversImgStagedBytes
  if modules ≠ 3 ∨ bytes = 0 then
    return 5
  let joystickStatus ← drive console (initJoystickDriver true)
  if joystickStatus ≠ JoystickInitStatus.ok then
    return 6
  let modules ← provide ps2DriversImgStagedModules
  let bytes ← provide ps2DriversImgStagedBytes
  if modules ≠ 0 ∨ bytes ≠ 0 then
    return 7
  provide ps2DriversImgForgetSource
  return 0

theorem stageArgument_eq (env : Env) (argv1 : Option Bytes) :
    stageArgument env argv1 =
      (StageCall.stage (some (argv1.getD ps2DriversImgDefaultPath)) Driver.joystick.req).run
        irxId env := by
  cases argv1 <;> rfl

/-! ## 2. How it ends -/

structure Machine.Emptied (s : Machine) : Prop where
  idle : s.world.provider.idle
  forgotten : s.world.provider.imagePath = none
  heap : s.world.heap.live = ∅

theorem forgetSource_empties {s : Machine} (hw : s.world.Valid) (hidle : s.world.provider.idle) :
    Machine.Emptied { s with world := (ps2DriversImgForgetSource s.world).2 } := by
  have hforgets := ps2DriversImgForgetSource_ensures s.world hw.holds
  have hvalid := World.valid_of_holds hw.invariant.forgotten hforgets
  have hprovider : (ps2DriversImgForgetSource s.world).2.provider =
      { s.world.provider with imagePath := none, lastRequirements := 0 } := hforgets.1
  have hidle' : (ps2DriversImgForgetSource s.world).2.provider.idle := by
    rw [hprovider]
    exact hidle
  have hpath : (ps2DriversImgForgetSource s.world).2.provider.imagePath = none := by
    rw [hprovider]
  exact ⟨hidle', hpath, hvalid.live_eq_empty hidle' hpath⟩

/-- A staging that fails leaves the provider as it is. -/
theorem StageCall.run_provider {env : Env} {w : World} (hw : w.Valid) (call : StageCall)
    (hbad : (call.run irxId env w).1 ≠ .ok) : (call.run irxId env w).2.provider = w.provider := by
  have h := call.run_effect irxId env hw.invariant w hw.holds
  generalize call.run irxId env w = r at h hbad
  obtain ⟨e, w'⟩ := r
  cases h with
  | unchanged _ holds => exact holds.1
  | replaced => exact absurd rfl hbad

theorem StageCall.run_emptied {env : Env} {call : StageCall} (cwd : Bytes)
    (hbad : (call.run irxId env World.initial).1 ≠ .ok) :
    Machine.Emptied { Machine.initial cwd World.initial with
      world := (call.run irxId env World.initial).2 } := by
  have hvalid := call.run_valid irxId env World.initial_valid
  have hprovider := call.run_provider World.initial_valid hbad
  have hidle : (call.run irxId env World.initial).2.provider.idle := by
    rw [hprovider]
    exact ⟨rfl, rfl⟩
  have hpath : (call.run irxId env World.initial).2.provider.imagePath = none := by
    rw [hprovider]
    rfl
  exact ⟨hidle, hpath, hvalid.live_eq_empty hidle hpath⟩

theorem provide_stagedModules (s : Machine) :
    provide ps2DriversImgStagedModules s = some (s.world.provider.stagedCount, s) := rfl

theorem provide_stagedBytes (s : Machine) :
    provide ps2DriversImgStagedBytes s = some (s.world.provider.stagedBytes, s) := rfl

/-- The codes the program ends with: none of its checks of the drivers and of the provider fails,
and a staging fails only where something is wrong with the file or a call for it. -/
inductive SampleOutcome (env env' : Env) (path : Bytes) : Int → Machine → Prop
  | notStaged {s : Machine} (why : ¬ env.offers .joystick path) (empty : s.Emptied)
      (untouched : s.trace = []) : SampleOutcome env env' path 1 s
  | notRestaged {s : Machine} (why : ¬ env'.offers .joystick path)
      (idle : s.world.provider.idle)
      (down : ∀ m ∈ Driver.joystick.responsible true, s.irx m = .reset) :
      SampleOutcome env env' path 4 s
  | passed {s : Machine} {image image' : Bytes} (hfile : env.file path = some image)
      (hsuits : Suits .joystick image) (hfile' : env'.file path = some image')
      (hsuits' : Suits .joystick image') (started : s.Started (Driver.joystick.responsible true))
      (empty : s.Emptied) : SampleOutcome env env' path 0 s

section

variable {console : Console} (hloads : console.Loads) (hflavor : console.flavor = .image)
  (hlibs : console.LibrariesSucceed) (hdoc : console.Documented)

include hloads hflavor hlibs hdoc

/-- Whatever the two stagings meet, the drivers do their part: the program fails only at a staging,
and where both succeed the joystick driver is up and nothing is held any more. -/
theorem irximgSample_outcome (env env' : Env) (argv1 : Option Bytes) (cwd : Bytes) :
    ∃ code s, irximgSample console env env' argv1 (Machine.initial cwd World.initial) =
        some (code, s) ∧
      SampleOutcome env env' (argv1.getD ps2DriversImgDefaultPath) code s := by
  have hserves : console.Serves .joystick := hlibs
  unfold irximgSample
  rw [stageArgument_eq]
  generalize argv1.getD ps2DriversImgDefaultPath = path
  -- the first staging
  let call := StageCall.stage (some path) Driver.joystick.req
  let s₀ : Machine := { Machine.initial cwd World.initial with
    world := (call.run irxId env World.initial).2 }
  have hstage : provide (call.run irxId env) (Machine.initial cwd World.initial) =
      some ((call.run irxId env World.initial).1, s₀) := rfl
  rw [AppM.bind_run hstage]
  by_cases hok : (call.run irxId env World.initial).1 = .ok
  case neg =>
    rw [if_pos hok]
    refine ⟨1, s₀, rfl, .notStaged ?_ (call.run_emptied cwd hok) rfl⟩
    rintro ⟨hall, image, hfile, hsuits⟩
    exact hok (ps2DriversImgStage_ok (s := Machine.initial cwd World.initial) hall hfile hsuits
      World.initial_valid ⟨rfl, rfl⟩)
  rw [if_neg (not_not.mpr hok)]
  have hdown : ∀ m ∈ Driver.joystick.responsible true,
      (Machine.initial cwd World.initial).irx m = .reset := fun _ _ => rfl
  obtain ⟨hcycling, hstaged, image, hfile, hsuits, -⟩ :=
    call.run_cycling env (Machine.initial_accounted cwd World.initial) World.initial_valid hdown
      rfl hok
  -- the driver comes up and uses the modules up
  obtain ⟨s₁, hinit, hused⟩ := initDriver_usesUp hloads hflavor hserves hcycling hstaged
  have hinit : drive console (initJoystickDriver true) s₀ =
      some (JoystickInitStatus.ok, s₁) := hinit
  rw [AppM.bind_run hinit, if_neg (not_not.mpr rfl), AppM.bind_run (provide_stagedModules s₁),
    AppM.bind_run (provide_stagedBytes s₁), if_neg (by simp [hused.modules, hused.bytes])]
  obtain ⟨s₂, hdeinit, hready, hworld⟩ := deinitDriver_readies hloads hdoc hused
  have hdeinit : drive console (deinitJoystickDriver true) s₁ = some ((), s₂) := hdeinit
  have hidle : s₂.world.provider.idle := by
    rw [hworld]
    exact hused.idle
  rw [AppM.bind_run hdeinit]
  -- the second staging, from whatever file is at the path by now
  let s₃ : Machine := { s₂ with world := (ps2DriversImgRestageLast irxId env' s₂.world).2 }
  have hrestage : provide (ps2DriversImgRestageLast irxId env') s₂ =
      some ((ps2DriversImgRestageLast irxId env' s₂.world).1, s₃) := rfl
  rw [AppM.bind_run hrestage]
  by_cases hok' : (ps2DriversImgRestageLast irxId env' s₂.world).1 = .ok
  case neg =>
    rw [if_pos hok']
    refine ⟨4, s₃, rfl, .notRestaged ?_ ?_ hready.down⟩
    · rintro ⟨hall, image', hfile', hsuits'⟩
      exact hok' (ps2DriversImgRestageLast_ok hall hfile' hsuits' hready hidle)
    · have hprovider : s₃.world.provider = s₂.world.provider :=
        StageCall.restageLast.run_provider hready.valid hok'
      rw [hprovider]
      exact hidle
  rw [if_neg (not_not.mpr hok')]
  obtain ⟨hcycling', hstaged', image', hfile', hsuits', hslots⟩ :=
    StageCall.restageLast.run_cycling env' hready.accounted hready.valid hready.down
      hready.source hok'
  have hmodules : s₃.world.provider.stagedCount = 3 :=
    (stagedCount_eq hcycling'.valid.invariant hslots).trans (by decide +kernel)
  have hstagedBytes : s₃.world.provider.stagedBytes = _ :=
    stagedBytes_eq hcycling'.valid.invariant hslots
  have hbytes : s₃.world.provider.stagedBytes ≠ 0 := by
    rw [hstagedBytes]
    exact suppliedBytes_ne_zero hsuits'.format hslots (by decide +kernel)
  obtain ⟨s₄, hinit', hused'⟩ := initDriver_usesUp hloads hflavor hserves hcycling' hstaged'
  have hinit' : drive console (initJoystickDriver true) s₃ =
      some (JoystickInitStatus.ok, s₄) := hinit'
  rw [AppM.bind_run (provide_stagedModules s₃), AppM.bind_run (provide_stagedBytes s₃),
    if_neg (by simp [hmodules, hbytes]), AppM.bind_run hinit', if_neg (not_not.mpr rfl),
    AppM.bind_run (provide_stagedModules s₄), AppM.bind_run (provide_stagedBytes s₄),
    if_neg (by simp [hused'.modules, hused'.bytes])]
  exact ⟨0, _, rfl, .passed hfile hsuits hfile' hsuits' hused'.started
    (forgetSource_empties hused'.valid hused'.idle)⟩

end

/-- The program passes, and notices when the image is gone before it stages again. -/
theorem irximgSample_outcome_everyModule :
    let console := Console.ready.withFlavor .image
    (∃ s, irximgSample console everyModuleEnv everyModuleEnv (some (lit "a.irximg"))
        (Machine.initial [] World.initial) = some (0, s) ∧
      s.Started (Driver.joystick.responsible true) ∧ s.Emptied) ∧
    ∃ s, irximgSample console everyModuleEnv { everyModuleEnv with file := fun _ => none }
        (some (lit "a.irximg")) (Machine.initial [] World.initial) = some (4, s) ∧
      s.world.provider.idle ∧ ∀ m ∈ Driver.joystick.responsible true, s.irx m = .reset := by
  intro console
  have houtcome (env' : Env) := @irximgSample_outcome console Console.ready_loads rfl
    (Console.ready_succeeds.withFlavor .image).libraries Console.image_documented everyModuleEnv
    env' (some (lit "a.irximg")) []
  have hpasses : (irximgSample console everyModuleEnv everyModuleEnv (some (lit "a.irximg"))
      (Machine.initial [] World.initial)).map Prod.fst = some 0 := by decide +kernel
  have hgone : (irximgSample console everyModuleEnv { everyModuleEnv with file := fun _ => none }
      (some (lit "a.irximg")) (Machine.initial [] World.initial)).map Prod.fst = some 4 := by
    decide +kernel
  constructor
  · obtain ⟨code, s, hrun, hcode⟩ := houtcome everyModuleEnv
    rw [hrun] at hpasses
    obtain rfl : code = 0 := Option.some.inj hpasses
    cases hcode with
    | passed _ _ _ _ started empty => exact ⟨s, hrun, started, empty⟩
  · obtain ⟨code, s, hrun, hcode⟩ := houtcome { everyModuleEnv with file := fun _ => none }
    rw [hrun] at hgone
    obtain rfl : code = 4 := Option.some.inj hgone
    cases hcode with
    | notRestaged _ idle down => exact ⟨s, hrun, idle, down⟩

end Ps2Drivers
