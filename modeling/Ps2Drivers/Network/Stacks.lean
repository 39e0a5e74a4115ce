import Ps2Drivers.Network.Configure

/-!
# The two IP stacks

The drivers of the EE stack and of the IOP stack hold copies of the same steps.  Run step by step
against one environment they make the same calls, and so does either of them whatever its callback.
-/

open Binary CString

namespace Ps2Drivers

/-! ## 1. Two runs side by side -/

/-- The traces of two runs: the first has the calls of the second and, in front of them, the
initialisations `extra`, and the events are related. -/
structure Alike {Ev Ev' : Type} (extra : List NetCall) (E : List Ev → List Ev' → Prop)
    (past : NetTrace Ev) (past' : NetTrace Ev') : Prop where
  calls : deviceCalls past = deviceCalls past' ++ extra
  events : E (reported past) (reported past')

def OnlyInits (calls : List NetCall) : Prop := ∀ call ∈ calls, ∃ ip nm gw, call = .ps2ipInit ip nm gw

theorem onlyInits_nil : OnlyInits [] := List.forall_mem_nil _

theorem onlyInits_zero : OnlyInits [.ps2ipInit 0 0 0] :=
  List.forall_mem_singleton.mpr ⟨0, 0, 0, rfl⟩

section

variable {Ev Ev' : Type} {env : NetEnv} {extra : List NetCall} {E : List Ev → List Ev' → Prop}

theorem OnlyInits.answer (h : OnlyInits extra) (past : List NetCall) (call : NetCall) :
    env.answer (past ++ extra) call = env.answer past call := by
  have hcount (p : NetCall → Bool) (hp : ∀ ip nm gw, p (.ps2ipInit ip nm gw) = false) :
      (past ++ extra).countP p = past.countP p := by
    have hnone : extra.countP p = 0 := by
      refine List.countP_eq_zero.mpr fun c hc => ?_
      obtain ⟨ip, nm, gw, rfl⟩ := h c hc
      rw [hp]
      exact Bool.false_ne_true
    rw [List.countP_append, hnone, Nat.add_zero]
  cases call with
  | ps2ipInit | usleep => rfl
  | netManSetLinkMode mode => rw [NetEnv.answer, hcount _ fun _ _ _ => rfl, NetEnv.answer]
  | ps2ipGetconfig netif => rw [NetEnv.answer, hcount _ fun _ _ _ => rfl, NetEnv.answer]
  | ps2ipSetconfig info => rw [NetEnv.answer, hcount _ fun _ _ _ => rfl, NetEnv.answer]
  | getLinkStatus => rw [NetEnv.answer, hcount _ fun _ _ _ => rfl, NetEnv.answer]

/-- The same call is answered alike. -/
theorem device_coupled (hextra : OnlyInits extra) (call : NetCall) :
    Program.Coupled env.step env.step (Alike extra E) (device call) (device call)
      fun a b s t => a = b ∧ Alike extra E s t := by
  constructor
  intro s t hst
  refine ⟨_, _, _, _, device_run call s, device_run call t, ?_, ?_, hst.events⟩
  · rw [hst.calls, hextra.answer]
  · rw [deviceCalls_device, deviceCalls_device, hst.calls, List.cons_append]

/-- Reporting is no call. -/
theorem emitProgress_coupled {cfg cfg' : NetworkConfig} {ev : Ev} {ev' : Ev'}
    (hE : ∀ evs evs', E evs evs' → E (evs ++ if cfg.onProgress.isSome then [ev] else [])
      (evs' ++ if cfg'.onProgress.isSome then [ev'] else [])) :
    Program.Coupled env.step env.step (Alike extra E) (emitProgress cfg ev) (emitProgress cfg' ev')
      fun _ _ => Alike extra E := by
  constructor
  intro s t hst
  refine ⟨_, _, _, _, emitProgress_run cfg ev s, emitProgress_run cfg' ev' t, ?_, ?_⟩
  · rw [deviceCalls_emitted, deviceCalls_emitted, hst.calls]
  · rw [reported_emitted, reported_emitted]
    exact hE _ _ hst.events

theorem waitUntil_coupled (hextra : OnlyInits extra) {check : NetM Ev Bool} {check' : NetM Ev' Bool}
    (hcheck : Program.Coupled env.step env.step (Alike extra E) check check'
      fun a b s t => a = b ∧ Alike extra E s t) (turns : Nat) :
    Program.Coupled env.step env.step (Alike extra E) (waitUntil check turns)
      (waitUntil check' turns) fun a b s t => a = b ∧ Alike extra E s t := by
  induction turns with
  | zero => exact .ret fun s t hst => ⟨rfl, hst⟩
  | succ turns ih =>
    refine hcheck.bind_same fun up => ?_
    refine .branch Iff.rfl (fun _ => .ret fun s t hst => ⟨rfl, hst⟩) fun _ => ?_
    exact (device_coupled hextra _).bind_same fun _ => ih

theorem linkIsUp_coupled (hextra : OnlyInits extra) (sdk : NetSdk) :
    Program.Coupled env.step env.step (Alike extra E) (linkIsUp sdk) (linkIsUp sdk)
      fun a b s t => a = b ∧ Alike extra E s t :=
  (device_coupled hextra _).bind_same fun _ => .ret fun _ _ hst => ⟨rfl, hst⟩

end

/-! ## 2. With and without a callback -/

def NetworkConfig.withCallback (cfg : NetworkConfig) (callback : Option Nat) (user : Nat) :
    NetworkConfig :=
  { cfg with onProgress := callback, user := user }

def EeipNetworkConfig.withCallback (cfg : EeipNetworkConfig) (callback : Option Nat) (user : Nat) :
    EeipNetworkConfig :=
  { cfg with toNetworkConfig := cfg.toNetworkConfig.withCallback callback user }

section

variable (sdk : NetSdk) (env : NetEnv) (cfg : EeipNetworkConfig) (callback : Option Nat)
  (user : Nat)

def CallbackFree (p q : NetM EeipProgress EeipNetStatus) : Prop :=
  Program.Coupled env.step env.step (Alike [] fun _ _ => True) p q
    fun a b s t => a = b ∧ Alike [] (fun _ _ => True) s t

theorem dhcpIsBound_coupled :
    Program.Coupled env.step env.step (Alike [] fun _ _ => True) (Eeip.dhcpIsBound sdk)
      (Eeip.dhcpIsBound sdk) fun a b s t => a = b ∧ Alike [] (fun _ _ => True) s t := by
  refine (device_coupled onlyInits_nil _).bind_same fun answer => ?_
  refine .branch Iff.rfl (fun _ => .ret fun _ _ hst => ⟨rfl, hst⟩) fun _ => ?_
  refine .branch Iff.rfl (fun _ => .ret fun _ _ hst => ⟨rfl, hst⟩) fun _ => ?_
  exact .ret fun _ _ hst => ⟨rfl, hst⟩

theorem awaitLease_callbackFree :
    CallbackFree env (awaitLease sdk cfg) (awaitLease sdk (cfg.withCallback callback user)) := by
  have hready : CallbackFree env
      (Eeip.emitProgress cfg .ready >>= fun _ => pure .ok)
      (Eeip.emitProgress (cfg.withCallback callback user) .ready >>= fun _ => pure .ok) :=
    (emitProgress_coupled fun _ _ _ => trivial).bind fun _ _ => .ret fun _ _ hst => ⟨rfl, hst⟩
  refine .branch Iff.rfl (fun _ => ?_) fun _ => hready
  refine (emitProgress_coupled fun _ _ _ => trivial).bind fun _ _ => ?_
  refine (waitUntil_coupled onlyInits_nil (dhcpIsBound_coupled sdk env) _).bind_same fun waited => ?_
  refine .branch Iff.rfl (fun _ => .ret fun _ _ hst => ⟨rfl, hst⟩) fun _ => ?_
  exact (emitProgress_coupled fun _ _ _ => trivial).bind fun _ _ => hready

theorem awaitEeipLink_callbackFree :
    CallbackFree env (awaitEeipLink sdk cfg)
      (awaitEeipLink sdk (cfg.withCallback callback user)) := by
  refine (emitProgress_coupled fun _ _ _ => trivial).bind fun _ _ => ?_
  refine (waitUntil_coupled onlyInits_nil (linkIsUp_coupled onlyInits_nil sdk) _).bind_same
    fun waited => ?_
  refine .branch Iff.rfl (fun _ => .ret fun _ _ hst => ⟨rfl, hst⟩) fun _ => ?_
  exact (emitProgress_coupled fun _ _ _ => trivial).bind fun _ _ =>
    awaitLease_callbackFree sdk env cfg callback user

theorem applyIpConfig_callbackFree :
    CallbackFree env (Eeip.applyIpConfig cfg)
      (Eeip.applyIpConfig (cfg.withCallback callback user)) := by
  refine (device_coupled onlyInits_nil _).bind_same fun answer => ?_
  refine .branch Iff.rfl (fun _ => .ret fun _ _ hst => ⟨rfl, hst⟩) fun _ => ?_
  refine (device_coupled onlyInits_nil _).bind_same fun (set : Int) => ?_
  exact .branch Iff.rfl (fun _ => .ret fun _ _ hst => ⟨rfl, hst⟩)
    fun _ => .ret fun _ _ hst => ⟨rfl, hst⟩

theorem applyEeip_callbackFree :
    CallbackFree env (applyEeip sdk cfg) (applyEeip sdk (cfg.withCallback callback user)) := by
  refine (emitProgress_coupled fun _ _ _ => trivial).bind fun _ _ => ?_
  refine (applyIpConfig_callbackFree env cfg callback user).bind_same fun rc => ?_
  exact .branch Iff.rfl (fun _ => .ret fun _ _ hst => ⟨rfl, hst⟩)
    fun _ => awaitEeipLink_callbackFree sdk env cfg callback user

/-- The status and the calls are the same whatever the callback. -/
theorem configureEeipNetwork_callbackFree :
    CallbackFree env (configureEeipNetwork sdk (some cfg))
      (configureEeipNetwork sdk (some (cfg.withCallback callback user))) := by
  refine (emitProgress_coupled fun _ _ _ => trivial).bind fun _ _ => ?_
  refine (device_coupled onlyInits_nil _).bind_same fun _ => ?_
  refine (emitProgress_coupled fun _ _ _ => trivial).bind fun _ _ => ?_
  refine .branch Iff.rfl (fun _ => ?_) fun _ => applyEeip_callbackFree sdk env cfg callback user
  refine (device_coupled onlyInits_nil _).bind_same fun (result : Int) => ?_
  exact .branch Iff.rfl (fun _ => .ret fun _ _ hst => ⟨rfl, hst⟩)
    fun _ => applyEeip_callbackFree sdk env cfg callback user

end

/-! ## 3. A static address on either stack -/

def IopipNetStatus.toEeip : IopipNetStatus → EeipNetStatus
  | .ok => .ok
  | .linkModeError => .linkModeError
  | .linkTimeout => .linkTimeout
  | .configError => .configError

def IopipProgress.toEeip : IopipProgress → EeipProgress
  | .settingLinkMode => .settingLinkMode
  | .applyingIpConfig => .applyingIpConfig
  | .waitingLinkUp => .waitingLinkUp
  | .linkUp => .linkUp
  | .ready => .ready

def NetworkConfig.staticEeip (cfg : NetworkConfig) (callback : Option Nat) (user : Nat) :
    EeipNetworkConfig :=
  ⟨cfg.withCallback callback user, false⟩

/-- What `ps2ip_setconfig` was called with, newest first. -/
def setconfigs {Ev : Type} (past : NetTrace Ev) : List IpInfo :=
  (deviceCalls past).filterMap fun call =>
    match call with
    | .ps2ipSetconfig info => some info
    | _ => none

/-- How often the link was polled. -/
def linkPolls {Ev : Type} (past : NetTrace Ev) : Nat :=
  (deviceCalls past).countP (·.isGetLinkStatus)

/-- With both callbacks set, the EE driver has reported what the IOP driver has, behind the
initialisation of its stack. -/
def SameEvents (callback callback' : Option Nat) (evs : List EeipProgress)
    (evs' : List IopipProgress) : Prop :=
  callback ≠ none → callback' ≠ none → evs = .tcpipInit :: evs'.map IopipProgress.toEeip

section

variable (sdk : NetSdk) (env : NetEnv) (cfg : NetworkConfig) (callback : Option Nat) (user : Nat)

def StacksAlike (past : NetTrace EeipProgress) (past' : NetTrace IopipProgress) : Prop :=
  Alike [.ps2ipInit 0 0 0] (SameEvents callback cfg.onProgress) past past'

def StacksAgree (p : NetM EeipProgress EeipNetStatus) (q : NetM IopipProgress IopipNetStatus) :
    Prop :=
  Program.Coupled env.step env.step (StacksAlike cfg callback) p q
    fun a b s t => a = b.toEeip ∧ StacksAlike cfg callback s t

theorem emitProgress_stacks (ev : IopipProgress) :
    Program.Coupled env.step env.step (StacksAlike cfg callback)
      (emitProgress (cfg.withCallback callback user) ev.toEeip) (emitProgress cfg ev)
      fun _ _ => StacksAlike cfg callback := by
  refine emitProgress_coupled fun evs evs' h hc hc' => ?_
  have hset : (cfg.withCallback callback user).onProgress.isSome = true :=
    Option.isSome_iff_ne_none.mpr hc
  rw [h hc hc', if_pos hset, if_pos (Option.isSome_iff_ne_none.mpr hc'), List.map_append]
  rfl

theorem applyConfig_stacks :
    StacksAgree env cfg callback (Eeip.applyIpConfig (cfg.staticEeip callback user))
      (Iopip.applyIpConfig cfg) := by
  refine (device_coupled onlyInits_zero _).bind_same fun answer => ?_
  refine .branch Iff.rfl (fun _ => .ret fun _ _ hst => ⟨rfl, hst⟩) fun _ => ?_
  refine (device_coupled onlyInits_zero _).bind_same fun (set : Int) => ?_
  exact .branch Iff.rfl (fun _ => .ret fun _ _ hst => ⟨rfl, hst⟩)
    fun _ => .ret fun _ _ hst => ⟨rfl, hst⟩

theorem awaitLink_stacks :
    StacksAgree env cfg callback (awaitEeipLink sdk (cfg.staticEeip callback user))
      (awaitIopipLink sdk cfg) := by
  refine (emitProgress_stacks env cfg callback user .waitingLinkUp).bind fun _ _ => ?_
  refine (waitUntil_coupled onlyInits_zero (linkIsUp_coupled onlyInits_zero sdk) _).bind_same
    fun waited => ?_
  refine .branch Iff.rfl (fun _ => .ret fun _ _ hst => ⟨rfl, hst⟩) fun _ => ?_
  refine (emitProgress_stacks env cfg callback user .linkUp).bind fun _ _ => ?_
  -- without DHCP nothing is left but the report
  exact (emitProgress_stacks env cfg callback user .ready).bind
    fun _ _ => .ret fun _ _ hst => ⟨rfl, hst⟩

theorem apply_stacks :
    StacksAgree env cfg callback (applyEeip sdk (cfg.staticEeip callback user))
      (applyIopip sdk cfg) := by
  refine (emitProgress_stacks env cfg callback user .applyingIpConfig).bind fun _ _ => ?_
  refine (applyConfig_stacks env cfg callback user).bind_related ?_
  rintro _ rc rfl
  have hok : rc.toEeip ≠ .ok ↔ rc ≠ .ok := by cases rc <;> decide
  exact .branch hok (fun _ => .ret fun _ _ hst => ⟨rfl, hst⟩)
    fun _ => awaitLink_stacks sdk env cfg callback user

/-- The initialisation of the EE stack, which the IOP driver does not have. -/
theorem ps2ipInit_stacks (past : NetTrace EeipProgress) (past' : NetTrace IopipProgress)
    (h : deviceCalls past = [] ∧ deviceCalls past' = [] ∧
      SameEvents callback cfg.onProgress (reported past) (reported past')) :
    ∃ a s, (ps2ipInit 0 0 0).run env.step past = some (a, s) ∧ StacksAlike cfg callback s past' := by
  obtain ⟨hcalls, hcalls', hevents⟩ := h
  refine ⟨_, _, device_run _ past, ?_, hevents⟩
  rw [deviceCalls_device, hcalls, hcalls']
  rfl

theorem tcpipInit_stacks (past : NetTrace EeipProgress) (past' : NetTrace IopipProgress)
    (h : past = [] ∧ past' = []) :
    ∃ a s, (emitProgress (cfg.withCallback callback user) EeipProgress.tcpipInit).run env.step
        past = some (a, s) ∧ deviceCalls s = [] ∧ deviceCalls past' = [] ∧
      SameEvents callback cfg.onProgress (reported s) (reported past') := by
  obtain ⟨rfl, rfl⟩ := h
  refine ⟨_, _, emitProgress_run _ _ _, deviceCalls_emitted _ _ _, rfl, fun hc _ => ?_⟩
  have hset : (cfg.withCallback callback user).onProgress.isSome = true :=
    Option.isSome_iff_ne_none.mpr hc
  rw [reported_emitted, if_pos hset]
  rfl

/-- From the link mode on the two drivers run side by side. -/
theorem configure_stacks :
    Program.Coupled env.step env.step (fun past past' => past = [] ∧ past' = [])
      (configureEeipNetwork sdk (some (cfg.staticEeip callback user)))
      (configureIopipNetwork sdk (some cfg))
      fun a b s t => a = b.toEeip ∧ StacksAlike cfg callback s t := by
  refine .bind_left (tcpipInit_stacks env cfg callback user) fun _ => ?_
  refine .bind_left (ps2ipInit_stacks env cfg callback) fun _ => ?_
  refine (emitProgress_stacks env cfg callback user .settingLinkMode).bind fun _ _ => ?_
  refine .branch Iff.rfl (fun _ => ?_) fun _ => apply_stacks sdk env cfg callback user
  refine (device_coupled onlyInits_zero _).bind_same fun (result : Int) => ?_
  exact .branch Iff.rfl (fun _ => .ret fun _ _ hst => ⟨rfl, hst⟩)
    fun _ => apply_stacks sdk env cfg callback user

/-- The IOP driver sets its own static address only. -/
def NetOp.setsStatic {Ev : Type} (cfg : NetworkConfig) (op : NetOp Ev) : Prop :=
  ∀ info, op = .device (.ps2ipSetconfig info) → ∃ old, info = cfg.staticInfo old

theorem device_setsStatic {call : NetCall} (hcall : ∀ info, call ≠ .ps2ipSetconfig info) :
    (device call : NetM IopipProgress call.Answer).Within (NetOp.setsStatic cfg) :=
  Program.within_request.mpr fun info h => absurd (NetOp.device.inj h) (hcall info)

theorem emitProgress_setsStatic (ev : IopipProgress) :
    (emitProgress cfg ev).Within (NetOp.setsStatic cfg) := by
  unfold emitProgress
  cases cfg.onProgress with
  | none => exact Program.within_pure ()
  | some callback => exact Program.within_request.mpr fun info h => by cases h

theorem waitUntil_setsStatic (turns : Nat) :
    (waitUntil (linkIsUp sdk) turns : NetM IopipProgress Int).Within (NetOp.setsStatic cfg) := by
  induction turns with
  | zero => exact Program.within_pure (-1)
  | succ turns ih =>
    refine .bind (.bind (device_setsStatic cfg fun _ h => by cases h) fun _ =>
      Program.within_pure _) fun up => ?_
    refine Program.within_ite (Program.within_pure 0) ?_
    exact .bind (device_setsStatic cfg fun _ h => by cases h) fun _ => ih

theorem applyIpConfig_setsStatic :
    (Iopip.applyIpConfig cfg).Within (NetOp.setsStatic cfg) := by
  refine .bind (device_setsStatic cfg fun _ h => by cases h) fun answer => ?_
  refine Program.within_ite (Program.within_pure _) ?_
  refine .bind (Program.within_request.mpr fun info h => ?_) fun (result : Int) =>
    Program.within_ite (Program.within_pure _) (Program.within_pure _)
  cases h
  exact ⟨_, rfl⟩

theorem applyIopip_setsStatic : (applyIopip sdk cfg).Within (NetOp.setsStatic cfg) := by
  refine .bind (emitProgress_setsStatic cfg _) fun _ => ?_
  refine .bind (applyIpConfig_setsStatic cfg) fun rc => ?_
  refine Program.within_ite (Program.within_pure rc) ?_
  refine .bind (emitProgress_setsStatic cfg _) fun _ => ?_
  refine .bind (waitUntil_setsStatic sdk cfg _) fun waited => ?_
  refine Program.within_ite (Program.within_pure _) ?_
  exact .bind (emitProgress_setsStatic cfg _) fun _ =>
    .bind (emitProgress_setsStatic cfg _) fun _ => Program.within_pure _

theorem configureIopipNetwork_setsStatic :
    (configureIopipNetwork sdk (some cfg)).Within (NetOp.setsStatic cfg) := by
  refine .bind (emitProgress_setsStatic cfg _) fun _ => ?_
  refine Program.within_ite ?_ (applyIopip_setsStatic sdk cfg)
  exact .bind (device_setsStatic cfg fun _ h => by cases h) fun (result : Int) =>
    Program.within_ite (Program.within_pure _) (applyIopip_setsStatic sdk cfg)

theorem configureIopipNetwork_sets {past : NetTrace IopipProgress} {status : IopipNetStatus}
    (hrun : (configureIopipNetwork sdk (some cfg)).run env.step [] = some (status, past)) :
    ∀ info ∈ setconfigs past, ∃ old, info = cfg.staticInfo old := by
  refine Program.run_keeps (R := fun s t => (∀ info ∈ setconfigs s, ∃ old,
    info = cfg.staticInfo old) → ∀ info ∈ setconfigs t, ∃ old, info = cfg.staticInfo old)
    (fun _ h => h) (fun _ _ _ hst htu h => htu (hst h)) ?_
    (configureIopipNetwork_setsStatic sdk cfg) hrun (List.forall_mem_nil _)
  intro op hop s r hr hs
  cases op with
  | onProgress callback ev user =>
    cases hr
    exact hs
  | device call =>
    cases hr
    cases call with
    | ps2ipSetconfig info => exact List.forall_mem_cons.mpr ⟨hop info rfl, hs⟩
    | ps2ipInit | netManSetLinkMode | ps2ipGetconfig | getLinkStatus | usleep => exact hs

/-- With a static address, whatever the environment answers, the two drivers end alike, set the
same address with DHCP disabled, poll the link as often and report the same. -/
theorem configure_static_alike :
    ∃ status past status' past',
      (configureEeipNetwork sdk (some (cfg.staticEeip callback user))).run env.step [] =
        some (status, past) ∧
      (configureIopipNetwork sdk (some cfg)).run env.step [] = some (status', past') ∧
      status = status'.toEeip ∧
      setconfigs past = setconfigs past' ∧
      (∀ info ∈ setconfigs past, ∃ old : IpInfo, info = { old with
        ipaddr := cfg.ip, netmask := cfg.netmask, gw := cfg.gateway, dhcpEnabled := 0 }) ∧
      linkPolls past = linkPolls past' ∧
      (callback ≠ none → cfg.onProgress ≠ none →
        reported past = .tcpipInit :: (reported past').map IopipProgress.toEeip) := by
  obtain ⟨status, status', past, past', hrun, hrun', rfl, halike⟩ :=
    (configure_stacks sdk env cfg callback user).holds [] [] ⟨rfl, rfl⟩
  have hsets : setconfigs past = setconfigs past' := by
    rw [setconfigs, halike.calls, List.filterMap_append]
    exact List.append_nil _
  refine ⟨_, past, status', past', hrun, hrun', rfl, hsets, ?_, ?_, halike.events⟩
  · rw [hsets]
    exact configureIopipNetwork_sets sdk env cfg hrun'
  · rw [linkPolls, halike.calls, List.countP_append]
    rfl

end

end Ps2Drivers
