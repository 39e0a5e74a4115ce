import Ps2Drivers.Provider.Run

/-!
# The remembered source

The provider remembers a path and a mask to stage from again.  What they are is a matter of the
history alone: which staging calls succeeded since the source was last forgotten.
-/

open Binary CString

namespace Ps2Drivers

/-! ## 1. Histories -/

/-- What the history records: the staging calls that returned `OK`, with the path and the mask they
staged, and the calls of `forget_source`. -/
inductive ProviderEvent
  | staged (imagePath : Option Bytes) (requirements : UInt32)
  | restaged (requirements : UInt32)
  | restagedLast
  | forgot
  deriving DecidableEq, Repr

namespace ProviderEvent

def imagePath : ProviderEvent → Option Bytes
  | .staged imagePath _ => imagePath
  | _ => none

def requirements : ProviderEvent → Option UInt32
  | .staged _ requirements => some requirements
  | .restaged requirements => some requirements
  | _ => none

def forgets : ProviderEvent → Bool
  | .forgot => true
  | _ => false

end ProviderEvent

/-- The path of the latest explicit staging since the source was forgotten, and the latest mask; the
history is newest first. -/
def rememberedBy (history : List ProviderEvent) : Option Bytes × UInt32 :=
  match (history.takeWhile (!·.forgets)).findSome? ProviderEvent.imagePath with
  | none => (none, 0)
  | some path => (some path, (history.findSome? ProviderEvent.requirements).getD 0)

/-- What a staging call records when it succeeds.  A wrapper stages the mask it computes. -/
def StageCall.event (env : Env) : StageCall → ProviderEvent
  | .stage imagePath req => .staged imagePath req
  | .stageDefault req => .staged (some ps2DriversImgDefaultPath) req
  | .stageForBootDevice imagePath bootDevice add =>
    .staged imagePath (ps2DriversImgRequirementsForBootDevice bootDevice ||| add)
  | .stageForPath imagePath path add =>
    .staged imagePath (ps2DriversImgRequirementsForBootDevice (getBootDeviceID path) ||| add)
  | .stageForCurrentBoot imagePath add =>
    .staged imagePath
      (ps2DriversImgRequirementsForBootDevice (getBootDeviceID env.getcwd) ||| add)
  | .stageForAllFilesystems imagePath add => .staged imagePath (reqFilesystemAll ||| add)
  | .stageDefaultForBootDevice bootDevice add =>
    .staged (some ps2DriversImgDefaultPath)
      (ps2DriversImgRequirementsForBootDevice bootDevice ||| add)
  | .stageDefaultForPath path add =>
    .staged (some ps2DriversImgDefaultPath)
      (ps2DriversImgRequirementsForBootDevice (getBootDeviceID path) ||| add)
  | .stageDefaultForCurrentBoot add =>
    .staged (some ps2DriversImgDefaultPath)
      (ps2DriversImgRequirementsForBootDevice (getBootDeviceID env.getcwd) ||| add)
  | .stageDefaultForAllFilesystems add =>
    .staged (some ps2DriversImgDefaultPath) (reqFilesystemAll ||| add)
  | .restage req => .restaged req
  | .restageLast => .restagedLast

def ProviderOp.event (ids : Irx → UInt32) (env : Env) (w : World) : ProviderOp →
    List ProviderEvent
  | .stage call => if (call.run ids env w).1 = .ok then [call.event env] else []
  | .forgetSource => [.forgot]
  | _ => []

/-- The history of a run, newest first. -/
def providerHistory (ids : Irx → UInt32) : List (Env × ProviderOp) → World → List ProviderEvent
  | [], _ => []
  | step :: steps, w =>
    providerHistory ids steps (step.2.run ids step.1 w).2 ++ step.2.event ids step.1 w

/-! ## 2. One event -/

/-- The globals `g_image_path` and `g_last_requirements`. -/
def Provider.remembered (p : Provider) : Option Bytes × UInt32 :=
  (p.imagePath.map (·.bytes), p.lastRequirements)

/-- The pair after the event, which is also the path and the mask a successful staging staged. -/
def ProviderEvent.after (pair : Option Bytes × UInt32) : ProviderEvent → Option Bytes × UInt32
  | .staged imagePath requirements => (imagePath, requirements)
  | .restaged requirements => (pair.1, requirements)
  | .restagedLast => pair
  | .forgot => (none, 0)

/-- Reading a history one event at a time. -/
theorem rememberedBy_cons {e : ProviderEvent} {history : List ProviderEvent}
    (h : e = .forgot ∨ (e.after (rememberedBy history)).1 ≠ none) :
    rememberedBy (e :: history) = e.after (rememberedBy history) := by
  cases e with
  | forgot => rfl
  | staged imagePath requirements =>
    cases imagePath with
    | none => simp [ProviderEvent.after] at h
    | some path => rfl
  | restagedLast => rfl
  | restaged requirements =>
    -- an explicit staging is among the recent events
    unfold rememberedBy ProviderEvent.after at h ⊢
    show (match (history.takeWhile (!·.forgets)).findSome? ProviderEvent.imagePath with
      | none => ((none, 0) : Option Bytes × UInt32)
      | some path => (some path, requirements)) = _
    cases hpath : (history.takeWhile (!·.forgets)).findSome? ProviderEvent.imagePath with
    | none => simp [hpath] at h
    | some path => rfl

/-! ## 3. One call -/

section

variable {ids : Irx → UInt32} {env : Env} {w : World}

/-- A call that succeeds has passed its checks. -/
theorem guarded_ok {c : Prop} [Decidable c] {e : ImgError} {m : ProviderM ImgError}
    (he : c → e ≠ .ok) (hok : ((if c then pure e else m) w).1 = .ok) :
    ¬ c ∧ (if c then pure e else m) w = m w := by
  by_cases hc : c
  · rw [if_pos hc] at hok
    exact absurd hok (he hc)
  · exact ⟨hc, by rw [if_neg hc]⟩

theorem ps2DriversImgRequirementsForPath_ok {path : Option Bytes} {additional : UInt32}
    (hok : (ps2DriversImgRequirementsForPath path additional (some 0)).1 = .ok) :
    (ps2DriversImgRequirementsForPath path additional (some 0)).2 =
      some (ps2DriversImgRequirementsForBootDevice (getBootDeviceID path) ||| additional) := by
  unfold ps2DriversImgRequirementsForPath at hok ⊢
  split at hok
  · cases hok
  · rename_i hgood
    rw [if_neg hgood]

theorem ps2DriversImgRequirementsForCurrentBoot_ok {additional : UInt32}
    (hok : (ps2DriversImgRequirementsForCurrentBoot env additional (some 0)).1 = .ok) :
    (ps2DriversImgRequirementsForCurrentBoot env additional (some 0)).2 =
      some (ps2DriversImgRequirementsForBootDevice (getBootDeviceID env.getcwd) |||
        additional) := by
  unfold ps2DriversImgRequirementsForCurrentBoot at hok ⊢
  split at hok
  · cases hok
  · rename_i hgood
    rw [if_neg hgood]
    cases hcwd : env.getcwd with
    | none =>
      rw [hcwd] at hok
      cases hok
    | some cwd =>
      rw [hcwd] at hok
      exact ps2DriversImgRequirementsForPath_ok hok

/-- An explicit staging that succeeds is `ps2_drivers_img_stage` with the recorded path and mask. -/
theorem StageCall.run_explicit {call : StageCall} {imagePath : Option Bytes}
    {requirements : UInt32} (hevent : call.event env = .staged imagePath requirements)
    (hok : (call.run ids env w).1 = .ok) :
    call.run ids env w = ps2DriversImgStage ids env imagePath requirements w := by
  have hcomputed {imagePath : Option Bytes} {computed : ImgError × Option UInt32}
      {requirements : UInt32} (hmask : computed.1 = .ok → computed.2 = some requirements)
      (hok : (stageComputed ids env imagePath computed w).1 = .ok) :
      stageComputed ids env imagePath computed w =
        ps2DriversImgStage ids env imagePath requirements w := by
    have h := guarded_ok (fun hne => hne) hok
    refine h.2.trans ?_
    rw [hmask (not_not.mp h.1)]
    rfl
  cases call with
  | stage | stageDefault =>
    cases hevent
    rfl
  | stageForBootDevice | stageForAllFilesystems | stageDefaultForBootDevice
  | stageDefaultForAllFilesystems =>
    cases hevent
    exact (guarded_ok (fun _ => by decide) hok).2
  | stageForPath | stageDefaultForPath =>
    cases hevent
    exact hcomputed ps2DriversImgRequirementsForPath_ok hok
  | stageForCurrentBoot | stageDefaultForCurrentBoot =>
    cases hevent
    exact hcomputed ps2DriversImgRequirementsForCurrentBoot_ok hok
  | restage | restageLast => cases hevent

theorem StageCall.event_ne_forgot (call : StageCall) : call.event env ≠ .forgot := by
  cases call <;> nofun

/-- A staging call that succeeds stages the pair it leaves remembered. -/
theorem StageCall.run_outcome (hw : w.Valid) {call : StageCall}
    (hok : (call.run ids env w).1 = .ok) :
    ImgStageOutcome ids env ((call.event env).after w.provider.remembered).1
      ((call.event env).after w.provider.remembered).2 w.provider Heap.empty [] .ok
      (call.run ids env w).2 := by
  have hrestage (requirements : UInt32)
      (hok : (ps2DriversImgRestage ids env requirements w).1 = .ok) :
      ImgStageOutcome ids env w.provider.remembered.1 requirements w.provider Heap.empty [] .ok
        (ps2DriversImgRestage ids env requirements w).2 := by
    cases hsource : w.provider.imagePath with
    | none =>
      have h := ps2DriversImgRestage_noSource ids env hsource requirements w hw.holds
      exact absurd hok h.1
    | some source =>
      have h := ps2DriversImgRestage_outcome ids env hsource requirements w hw.holds
      rw [hok] at h
      rw [Provider.remembered, hsource]
      exact h
  cases hevent : call.event env with
  | staged imagePath requirements =>
    have hrun := StageCall.run_explicit hevent hok
    rw [hrun] at hok ⊢
    have h := ps2DriversImgStage_outcome ids env imagePath requirements w hw.holds
    rw [hok] at h
    exact h
  | restaged requirements =>
    cases call with
    | restage req =>
      cases hevent
      exact hrestage requirements hok
    | _ => cases hevent
  | restagedLast =>
    cases call with
    | restageLast =>
      have hrest := (guarded_ok (fun _ => by decide) hok).2
      have hsame : ps2DriversImgRestageLast ids env w =
          ps2DriversImgRestage ids env w.provider.lastRequirements w := hrest
      -- behind its guard this is the restaging with the remembered mask
      show ImgStageOutcome ids env _ _ _ _ _ _ (ps2DriversImgRestageLast ids env w).2
      rw [hsame]
      exact hrestage _ (hsame ▸ hok)
    | _ => cases hevent
  | forgot => exact absurd hevent call.event_ne_forgot

end

/-! ## 4. Runs -/

/-- Consuming a payload does not disturb the source. -/
theorem Provider.released_remembered (p : Provider) (moduleId : UInt32) :
    (p.released moduleId).remembered = p.remembered := by
  unfold Provider.released
  cases p.stagedIndex moduleId with
  | none => rfl
  | some i =>
    dsimp only
    split <;> rfl

section

variable {ids : Irx → UInt32} {env : Env} {w : World}

theorem StageCall.run_remembers (ids : Irx → UInt32) (env : Env) (hw : w.Valid) (call : StageCall) :
    (call.run ids env w).2.provider.remembered =
      if (call.run ids env w).1 = .ok then (call.event env).after w.provider.remembered
      else w.provider.remembered := by
  by_cases hok : (call.run ids env w).1 = .ok
  · rw [if_pos hok]
    cases call.run_outcome hw hok with
    | refused hne => exact absurd rfl hne
    | @staged _ array source _ _ hsource holds =>
      have hpath := hsource.symm
      rw [holds.1]
      exact Prod.ext hpath rfl
  · rw [if_neg hok]
    have h := call.run_effect ids env hw.invariant w hw.holds
    generalize call.run ids env w = r at h hok
    obtain ⟨e, w'⟩ := r
    cases h with
    | unchanged _ holds => rw [holds.1]
    | replaced => exact absurd rfl hok

/-- A staging call that succeeds has a path. -/
theorem StageCall.after_ne_none (hw : w.Valid) {call : StageCall}
    (hok : (call.run ids env w).1 = .ok) :
    ((call.event env).after w.provider.remembered).1 ≠ none := by
  cases call.run_outcome hw hok with
  | refused hne => exact absurd rfl hne
  | staged array source facts hsource =>
    rw [hsource]
    nofun

/-- One step moves the remembered pair as its event says. -/
theorem ProviderOp.run_remembers (ids : Irx → UInt32) (env : Env) (hw : w.Valid)
    (op : ProviderOp) {history : List ProviderEvent}
    (h : w.provider.remembered = rememberedBy history) :
    (op.run ids env w).2.provider.remembered = rememberedBy (op.event ids env w ++ history) := by
  have hp := hw.invariant
  cases op with
  | stage call =>
    show (call.run ids env w).2.provider.remembered =
      rememberedBy ((if (call.run ids env w).1 = .ok then [call.event env] else []) ++ history)
    rw [call.run_remembers ids env hw]
    by_cases hok : (call.run ids env w).1 = .ok
    · have hne := StageCall.after_ne_none hw hok
      rw [if_pos hok, if_pos hok, h]
      rw [h] at hne
      exact (rememberedBy_cons (Or.inr hne)).symm
    · rw [if_neg hok, if_neg hok]
      exact h
  -- the other calls are no events, and forget the source at most
  | discardStaged =>
    have hdone := ps2DriversImgDiscardStaged_ensures hp w hw.holds
    exact (congrArg Provider.remembered hdone.1).trans h
  | forgetSource =>
    have hdone := ps2DriversImgForgetSource_ensures w hw.holds
    exact congrArg Provider.remembered hdone.1
  | getStaged moduleId outputs =>
    have hdone := ps2DriversImgGetStaged_ensures moduleId outputs w hw.holds
    exact (congrArg Provider.remembered hdone.2.1).trans h
  | releaseStaged moduleId =>
    have hdone := ps2DriversImgReleaseStaged_ensures hp moduleId w hw.holds
    exact ((congrArg Provider.remembered hdone.1).trans (Provider.released_remembered _ _)).trans h
  | exec answer module argLen args =>
    cases module with
    | none => exact h
    | some moduleId =>
      have hdone := (ps2IrxExecImage_ensures hp answer moduleId argLen args w hw.holds).2
      exact ((congrArg Provider.remembered hdone.1).trans
        (Provider.released_remembered _ _)).trans h

/-- A run moves the remembered pair as its history says. -/
theorem runProvider_remembers (ids : Irx → UInt32) (steps : List (Env × ProviderOp)) (hw : w.Valid)
    {history : List ProviderEvent} (h : w.provider.remembered = rememberedBy history) :
    (runProvider ids steps w).provider.remembered =
      rememberedBy (providerHistory ids steps w ++ history) := by
  induction steps generalizing w history with
  | nil => exact h
  | cons step steps ih =>
    have hstep := ih (step.2.run_valid ids step.1 hw) (step.2.run_remembers ids step.1 hw h)
    rw [providerHistory, List.append_assoc]
    exact hstep

end

/-! ## 5. Staging the last request again -/

def Provider.contents (p : Provider) : List (UInt32 × Option Bytes × UInt32) :=
  p.slots.map fun slot => (slot.id, slot.data.map (·.bytes), slot.size)

/-- The image determines the contents of the slots. -/
theorem slots_contents {image : Bytes} {ids : List UInt32} {slots slots' : List StagedModule}
    (h : List.Forall₂ (SlotHolds image) ids slots)
    (h' : List.Forall₂ (SlotHolds image) ids slots') :
    slots.map (fun slot => (slot.id, slot.data.map (·.bytes), slot.size)) =
      slots'.map fun slot => (slot.id, slot.data.map (·.bytes), slot.size) := by
  induction h generalizing slots' with
  | nil =>
    cases h'
    rfl
  | cons hslot _ ih =>
    cases h' with
    | cons hslot' hrest =>
      obtain ⟨e, block, hentry, -, -, rfl⟩ := hslot
      obtain ⟨e', block', hentry', -, -, rfl⟩ := hslot'
      obtain rfl := Option.some.inj (hentry.symm.trans hentry')
      rw [List.map_cons, List.map_cons, ih hrest]
      rfl

section

variable {ids : Irx → UInt32} {env : Env} {w : World}

/-- Neither outcome of `stage_from_path` touches the source. -/
theorem stageFromPath_remembered (hw : w.Valid) (imagePath : Option Bytes)
    (requirements : UInt32) :
    (stageFromPath ids env imagePath requirements w).2.provider.remembered =
      w.provider.remembered := by
  have h := stageFromPath_ensures ids env imagePath requirements w hw.holds
  generalize stageFromPath ids env imagePath requirements w = r at h
  obtain ⟨e, w'⟩ := r
  cases h with
  | refused _ _ holds => rw [holds.1]
  | staged array _ holds =>
    rw [holds.1]
    rfl

/-- Restaging with the remembered mask: storing the mask again changes nothing. -/
theorem ps2DriversImgRestage_same (hw : w.Valid) {source : Buffer}
    (hsource : w.provider.imagePath = some source) :
    ps2DriversImgRestage ids env w.provider.lastRequirements w =
      stageFromPath ids env (some source.bytes) w.provider.lastRequirements w := by
  generalize hmask : w.provider.lastRequirements = requirements
  cases hbad : badRequirements requirements with
  | true =>
    -- both refuse the mask
    unfold ps2DriversImgRestage stageFromPath
    dsimp only
    rw [if_pos hbad, if_pos hbad]
  | false =>
    have hkept : (stageFromPath ids env (some source.bytes) requirements
        w).2.provider.lastRequirements = requirements :=
      (congrArg Prod.snd (stageFromPath_remembered hw _ _)).trans hmask
    unfold ps2DriversImgRestage
    rw [if_neg (by rw [hbad]; exact Bool.false_ne_true), globals_bind, hsource]
    show (let r := stageFromPath ids env (some source.bytes) requirements w
      (if r.1 = ImgError.ok then do
          assign fun p => { p with lastRequirements := requirements }
          pure r.1
        else (pure r.1 : ProviderM ImgError)) r.2) = _
    generalize stageFromPath ids env (some source.bytes) requirements w = r at hkept
    obtain ⟨result, p, heap, calls⟩ := r
    dsimp only at hkept ⊢
    by_cases hok : result = ImgError.ok
    · rw [if_pos hok]
      show (result, (⟨{ p with lastRequirements := requirements }, heap, calls⟩ : World)) = _
      rw [← hkept]
    · rw [if_neg hok]
      rfl

/-- With a source remembered, `restage_last` is `stage_from_path` with the remembered pair. -/
theorem ps2DriversImgRestageLast_eq (hw : w.Valid) {path : Bytes} {requirements : UInt32}
    (h : w.provider.remembered = (some path, requirements)) :
    ps2DriversImgRestageLast ids env w = stageFromPath ids env (some path) requirements w := by
  have hpath : w.provider.imagePath.map (·.bytes) = some path := congrArg Prod.fst h
  have hmask : w.provider.lastRequirements = requirements := congrArg Prod.snd h
  obtain ⟨source, hsource, hbytes⟩ := Option.map_eq_some_iff.mp hpath
  have hne : ¬ (w.provider.imagePath = none ∨ w.provider.lastRequirements = 0) := by
    rw [← hw.invariant.source, or_self, hsource]
    nofun
  show (if w.provider.imagePath = none ∨ w.provider.lastRequirements = 0 then
    (pure .errNoSource : ProviderM ImgError)
    else ps2DriversImgRestage ids env w.provider.lastRequirements) w = _
  rw [if_neg hne, ps2DriversImgRestage_same hw hsource, hbytes, hmask]

/-- An idle provider stages an unchanged file again, with the same contents. -/
theorem stageFromPath_again (hw : w.Valid) (hidle : w.provider.idle) (henv : env.allOk)
    {file : Bytes → Option Bytes} {p : Provider} {path : Bytes} {requirements : UInt32}
    {image : Bytes} {slots : List StagedModule}
    (facts : StageSuccess ids file p (some path) requirements image slots)
    (hfile : env.file path = file path) :
    (stageFromPath ids env (some path) requirements w).1 = .ok ∧
      (stageFromPath ids env (some path) requirements w).2.provider.contents =
        slots.map fun slot => (slot.id, slot.data.map (·.bytes), slot.size) := by
  obtain ⟨path', hpath, himage⟩ := facts.opened
  obtain rfl := Option.some.inj hpath
  rw [← hfile] at himage
  have h := stageFromPath_ensures ids env (some path) requirements w hw.holds
  generalize stageFromPath ids env (some path) requirements w = r at h
  obtain ⟨e, w'⟩ := r
  cases h with
  | refused hne why holds =>
    -- each reason to refuse contradicts what the first staging has seen
    exfalso
    cases why henv with
    | argument hbad =>
      rcases hbad with hnone | hbad | hnil
      · cases hnone
      · rw [facts.mask] at hbad
        cases hbad
      · exact facts.nonempty hnil
    | alreadyStaged hbusy => exact hbusy hidle
    | noFile hpath hnone =>
      obtain rfl := Option.some.inj hpath
      rw [himage] at hnone
      cases hnone
    | badFormat hpath hopen hbad =>
      obtain rfl := Option.some.inj hpath
      obtain rfl := Option.some.inj (himage.symm.trans hopen)
      exact hbad facts.format
    | badModule hpath hopen _ _ hverdict =>
      obtain rfl := Option.some.inj hpath
      obtain rfl := Option.some.inj (himage.symm.trans hopen)
      exact hne (hverdict.trans ((stageVerdict_eq_ok _ _).mpr (slots_intact facts.slots)))
  | @staged image' array _ facts' holds =>
    obtain ⟨path', hpath, hopen⟩ := facts'.opened
    obtain rfl := Option.some.inj hpath
    obtain rfl := Option.some.inj (himage.symm.trans hopen)
    refine ⟨rfl, ?_⟩
    have hslots : w'.provider.contents =
        array.slots.map fun slot => (slot.id, slot.data.map (·.bytes), slot.size) := by
      rw [holds.1]
      rfl
    exact hslots.trans (slots_contents facts'.slots facts.slots)

end

/-! ## 6. The main result -/

/-- Whatever the file system does, the remembered pair is the one the history names; `restage_last`
stages from it, and while the file is as it was it stages the same contents again. -/
theorem runProvider_source (ids : Irx → UInt32) (steps : List (Env × ProviderOp)) :
    let w := runProvider ids steps World.initial
    let history := providerHistory ids steps World.initial
    w.provider.remembered = rememberedBy history ∧
      (∀ env path requirements, rememberedBy history = (some path, requirements) →
        ps2DriversImgRestageLast ids env w =
          stageFromPath ids env (some path) requirements w) ∧
      ∀ before env₀ call after, steps = before ++ (env₀, .stage call) :: after →
        let staged := call.run ids env₀ (runProvider ids before World.initial)
        staged.1 = .ok → providerHistory ids after staged.2 = [] → w.provider.idle →
        ∀ env : Env, env.allOk →
          (∀ path, (rememberedBy history).1 = some path → env.file path = env₀.file path) →
          (ps2DriversImgRestageLast ids env w).1 = .ok ∧
            (ps2DriversImgRestageLast ids env w).2.provider.contents =
              staged.2.provider.contents := by
  intro w history
  have hinitial : World.initial.provider.remembered = rememberedBy [] := rfl
  have hw : w.Valid := runProvider_valid ids steps World.initial_valid
  have hpair : w.provider.remembered = rememberedBy history := by
    have h := runProvider_remembers ids steps World.initial_valid hinitial
    rwa [List.append_nil] at h
  refine ⟨hpair, fun env path requirements h => ?_, ?_⟩
  · exact ps2DriversImgRestageLast_eq hw (hpair.trans h)
  intro before env₀ call after hsteps staged hok hquiet hidle env henv hfile
  have hw₀ : (runProvider ids before World.initial).Valid :=
    runProvider_valid ids before World.initial_valid
  have hw₁ : staged.2.Valid := call.run_valid ids env₀ hw₀
  have hrun : w = runProvider ids after staged.2 := by
    show runProvider ids steps World.initial = _
    rw [hsteps, runProvider, List.foldl_append]
    rfl
  -- nothing after the call touches the source
  have hsame : w.provider.remembered = staged.2.provider.remembered := by
    have h₀ := runProvider_remembers ids before World.initial_valid hinitial
    have h₁ := (ProviderOp.stage call).run_remembers ids env₀ hw₀ h₀
    have h := runProvider_remembers ids after hw₁ h₁
    rw [hquiet, List.nil_append, ← hrun] at h
    exact h.trans h₁.symm
  have hafter := call.run_remembers ids env₀ hw₀
  rw [if_pos hok] at hafter
  cases call.run_outcome hw₀ hok with
  | refused hne => exact absurd rfl hne
  | @staged image array source _ facts hsource holds =>
    have hremembered : w.provider.remembered =
        (some source.bytes, ((call.event env₀).after
          (runProvider ids before World.initial).provider.remembered).2) := by
      rw [hsame]
      exact hafter.trans (Prod.ext hsource rfl)
    have hcontents : staged.2.provider.contents =
        array.slots.map fun slot => (slot.id, slot.data.map (·.bytes), slot.size) := by
      rw [holds.1]
      rfl
    rw [hsource] at facts
    rw [ps2DriversImgRestageLast_eq hw hremembered, hcontents]
    apply stageFromPath_again hw hidle henv facts
    apply hfile
    rw [← hpair, hremembered]

end Ps2Drivers
