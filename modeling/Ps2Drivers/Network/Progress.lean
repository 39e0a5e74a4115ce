import Ps2Drivers.Network.Stacks

/-!
# Progress of a configuration

The events that `configure_eeip_network` reports, the status it returns and the calls it makes,
under any environment.
-/

open Binary CString

namespace Ps2Drivers

/-! ## 1. What a run has done so far -/

/-- How often each function was called whose results the driver reads. -/
structure NetCounts where
  modes : Nat
  reads : Nat
  sets : Nat
  polls : Nat
  deriving DecidableEq, Repr

def netCounts (calls : List NetCall) : NetCounts where
  modes := calls.countP (·.isSetLinkMode)
  reads := calls.countP (·.isGetconfig)
  sets := calls.countP (·.isSetconfig)
  polls := calls.countP (·.isGetLinkStatus)

def NetCounts.count (counts : NetCounts) : NetCall → NetCounts
  | .netManSetLinkMode _ => { counts with modes := counts.modes + 1 }
  | .ps2ipGetconfig _ => { counts with reads := counts.reads + 1 }
  | .ps2ipSetconfig _ => { counts with sets := counts.sets + 1 }
  | .getLinkStatus => { counts with polls := counts.polls + 1 }
  | .ps2ipInit _ _ _ | .usleep _ => counts

/-- An answer depends on the number of the call alone. -/
def NetEnv.answerAt (env : NetEnv) (counts : NetCounts) : (call : NetCall) → call.Answer
  | .ps2ipInit _ _ _ => ()
  | .netManSetLinkMode mode => env.setLinkMode counts.modes mode
  | .ps2ipGetconfig _ => env.getconfig counts.reads
  | .ps2ipSetconfig info => env.setconfig counts.sets info
  | .getLinkStatus => env.linkStatus counts.polls
  | .usleep _ => ()

theorem NetEnv.answer_eq (env : NetEnv) (past : List NetCall) (call : NetCall) :
    env.answer past call = env.answerAt (netCounts past) call := by
  cases call <;> rfl

theorem netCounts_cons (call : NetCall) (past : List NetCall) :
    netCounts (call :: past) = (netCounts past).count call := by
  unfold netCounts
  cases call <;> simp only [List.countP_cons] <;> rfl

/-- The events so far, as far as there is a callback, and the numbers of the calls. -/
structure At {Ev : Type} (cfg : NetworkConfig) (events : List Ev) (counts : NetCounts)
    (past : NetTrace Ev) : Prop where
  events : reported past = if cfg.onProgress.isSome then events else []
  counts : netCounts (deviceCalls past) = counts

/-- A wait of at most `turns` polls: it ended with the first poll that succeeded, or all of them
failed.  The result is that of `wait_until`, the number that of the polls made. -/
inductive Waited (ok : Nat → Bool) (turns : Nat) : Int → Nat → Prop
  | succeeds (k : Nat) (hk : k < turns) (hbefore : ∀ i < k, ok i = false) (hok : ok k = true) :
      Waited ok turns 0 (k + 1)
  | timesOut (hall : ∀ i < turns, ok i = false) : Waited ok turns (-1) turns

/-- The answer of the `k`-th poll of the link. -/
def NetEnv.linkUp (env : NetEnv) (sdk : NetSdk) (k : Nat) : Bool :=
  env.linkStatus k == sdk.linkStateUp

/-- What `dhcp_is_bound` makes of a configuration read. -/
def NetSdk.bound (sdk : NetSdk) (answer : Int × IpInfo) : Bool :=
  !decide (answer.1 < 0) && answer.2.dhcpEnabled != 0 &&
    (answer.2.dhcpStatus == sdk.dhcpStateBound || answer.2.dhcpStatus == sdk.dhcpStateOff)

/-- The answer of the `k`-th poll of the lease; the first read of the configuration is no poll. -/
def NetEnv.leaseBound (env : NetEnv) (sdk : NetSdk) (k : Nat) : Bool :=
  sdk.bound (env.getconfig (k + 1))

theorem Waited.cons {ok : Nat → Bool} {turns polls : Nat} {result : Int} (hfirst : ok 0 = false)
    (h : Waited (fun i => ok (i + 1)) turns result polls) :
    Waited ok (turns + 1) result (polls + 1) := by
  cases h with
  | succeeds k hk hbefore hok =>
    refine .succeeds (k + 1) (Nat.succ_lt_succ hk) (fun i hi => ?_) hok
    cases i with
    | zero => exact hfirst
    | succ i => exact hbefore i (Nat.lt_of_succ_lt_succ hi)
  | timesOut hall =>
    refine .timesOut fun i hi => ?_
    cases i with
    | zero => exact hfirst
    | succ i => exact hall i (Nat.lt_of_succ_lt_succ hi)

theorem Waited.result_cases {ok : Nat → Bool} {turns polls : Nat} {result : Int}
    (h : Waited ok turns result polls) : result = 0 ∨ result = -1 := by
  cases h with
  | succeeds => exact Or.inl rfl
  | timesOut => exact Or.inr rfl

/-- A wait times out exactly when all its polls fail. -/
theorem Waited.timesOut_iff {ok : Nat → Bool} {turns polls : Nat} {result : Int}
    (h : Waited ok turns result polls) : result = -1 ↔ ∀ i < turns, ok i = false := by
  cases h with
  | succeeds k hk hbefore hok =>
    refine iff_of_false (by decide) fun hall => ?_
    rw [hall k hk] at hok
    cases hok
  | timesOut hall => exact iff_of_true rfl hall

theorem Waited.succeeded {ok : Nat → Bool} {turns polls : Nat} (h : Waited ok turns 0 polls) :
    ∃ k < turns, ok k = true := by
  cases h with
  | succeeds k hk hbefore hok => exact ⟨k, hk, hok⟩

/-- A wait that has not timed out has not failed throughout. -/
theorem Waited.not_all {ok : Nat → Bool} {turns polls : Nat} (h : Waited ok turns 0 polls) :
    ¬ ∀ k < turns, ok k = false :=
  fun hall => absurd (h.timesOut_iff.mpr hall) (by decide)

section

variable {Ev : Type} {env : NetEnv} {cfg : NetworkConfig} {events : List Ev} {counts : NetCounts}

theorem emitProgress_at (ev : Ev) :
    Program.Triple env.step (At cfg events counts) (emitProgress cfg ev)
      fun _ => At cfg (events ++ [ev]) counts := by
  refine .of_run (emitProgress_run cfg ev) fun past h => ⟨?_, ?_⟩
  · rw [reported_emitted, h.events]
    cases cfg.onProgress <;> rfl
  · rw [deviceCalls_emitted]
    exact h.counts

/-- Every call is answered by its number, and counted. -/
theorem device_at (call : NetCall) :
    Program.Triple env.step (At cfg events counts) (device call : NetM Ev call.Answer)
      fun answer past => answer = env.answerAt counts call ∧
        At cfg events (counts.count call) past := by
  refine .of_run (device_run call) fun past h => ⟨?_, h.events, ?_⟩
  · rw [env.answer_eq, h.counts]
  · rw [deviceCalls_device, netCounts_cons, h.counts]

theorem linkIsUp_at (sdk : NetSdk) :
    Program.Triple env.step (At cfg events counts) (linkIsUp sdk)
      fun up past => up = env.linkUp sdk counts.polls ∧
        At cfg events (counts.count .getLinkStatus) past :=
  (device_at .getLinkStatus).bind fun _ =>
    .ret fun _ h => ⟨congrArg (· == sdk.linkStateUp) h.1, h.2⟩

theorem usleep_at (microseconds : Nat) :
    Program.Triple env.step (At cfg events counts) (usleep microseconds : NetM Ev Unit)
      fun _ => At cfg events counts :=
  (device_at (.usleep microseconds)).weaken fun _ _ h => h.2

/-- A loop whose `k`-th poll is answered by `ok k`, in a state where `k` polls were made. -/
theorem waitUntil_waited {check : NetM Ev Bool} {Q : Nat → NetTrace Ev → Prop} {ok : Nat → Bool}
    (hcheck : ∀ k, Program.Triple env.step (Q k) check fun up past => up = ok k ∧ Q (k + 1) past)
    (hsleep : ∀ k, Program.Triple env.step (Q k) (usleep (1000 * 1000)) fun _ => Q k)
    (turns k : Nat) :
    Program.Triple env.step (Q k) (waitUntil check turns) fun result past =>
      ∃ polls, Waited (fun i => ok (k + i)) turns result polls ∧ Q (k + polls) past := by
  induction turns generalizing k with
  | zero => exact .ret fun past h => ⟨0, .timesOut fun i hi => absurd hi (Nat.not_lt_zero i), h⟩
  | succ turns ih =>
    refine (hcheck k).bind fun up => .of_pure fun hup => .branch (fun h => ?_) fun h => ?_
    · refine .ret fun past hpast => ⟨1, ?_, hpast⟩
      exact .succeeds 0 (Nat.zero_lt_succ turns) (fun i hi => absurd hi (Nat.not_lt_zero i))
        (hup.symm.trans h)
    · -- the poll failed, and the rest of the loop counts from the next one
      refine (hsleep (k + 1)).bind fun _ => (ih (k + 1)).weaken ?_
      rintro result past ⟨polls, hwaited, hpast⟩
      refine ⟨polls + 1, .cons (hup.symm.trans (Bool.eq_false_iff.mpr h)) ?_, ?_⟩
      · simpa only [Nat.add_assoc, Nat.add_comm 1] using hwaited
      · rwa [Nat.add_assoc, Nat.add_comm 1] at hpast

theorem waitForLink_at (sdk : NetSdk) (modes reads sets turns : Nat) :
    Program.Triple env.step (At cfg events ⟨modes, reads, sets, 0⟩) (waitUntil (linkIsUp sdk) turns)
      fun result past => ∃ polls, Waited (env.linkUp sdk) turns result polls ∧
        At cfg events ⟨modes, reads, sets, polls⟩ past := by
  have hcheck (k : Nat) : Program.Triple env.step (At cfg events ⟨modes, reads, sets, k⟩)
      (linkIsUp sdk) fun up past => up = env.linkUp sdk k ∧
        At cfg events ⟨modes, reads, sets, k + 1⟩ past := linkIsUp_at sdk
  have hsleep (k : Nat) : Program.Triple env.step (At cfg events ⟨modes, reads, sets, k⟩)
      (usleep (1000 * 1000)) fun _ => At cfg events ⟨modes, reads, sets, k⟩ := usleep_at _
  simpa only [Nat.zero_add] using
    waitUntil_waited (Q := fun k => At cfg events ⟨modes, reads, sets, k⟩) hcheck hsleep turns 0

end

/-! ## 2. The phases of the EE driver -/

section

variable {env : NetEnv} {cfg : NetworkConfig} {events : List EeipProgress}

theorem dhcpIsBound_at (sdk : NetSdk) {counts : NetCounts} :
    Program.Triple env.step (At cfg events counts) (Eeip.dhcpIsBound sdk)
      fun bound past => bound = sdk.bound (env.getconfig counts.reads) ∧
        At cfg events (counts.count (.ps2ipGetconfig (lit "sm0"))) past := by
  refine (device_at (.ps2ipGetconfig (lit "sm0"))).bind fun answer => .of_pure ?_
  rintro rfl
  unfold NetSdk.bound
  refine .branch (fun h => ?_) fun h => .branch (fun h' => ?_) fun h' => ?_
  · exact .ret fun past hpast => ⟨by simp [h], hpast⟩
  · exact .ret fun past hpast => ⟨by simp [h'], hpast⟩
  · exact .ret fun past hpast => ⟨by simp [h, h'], hpast⟩

theorem waitForLease_at (sdk : NetSdk) (modes sets polls turns : Nat) :
    Program.Triple env.step (At cfg events ⟨modes, 1, sets, polls⟩)
      (waitUntil (Eeip.dhcpIsBound sdk) turns) fun result past =>
        ∃ leases, Waited (env.leaseBound sdk) turns result leases ∧
          At cfg events ⟨modes, leases + 1, sets, polls⟩ past := by
  have hcheck (k : Nat) : Program.Triple env.step (At cfg events ⟨modes, k + 1, sets, polls⟩)
      (Eeip.dhcpIsBound sdk) fun bound past => bound = env.leaseBound sdk k ∧
        At cfg events ⟨modes, k + 1 + 1, sets, polls⟩ past := dhcpIsBound_at sdk
  have hsleep (k : Nat) : Program.Triple env.step (At cfg events ⟨modes, k + 1, sets, polls⟩)
      (usleep (1000 * 1000)) fun _ => At cfg events ⟨modes, k + 1, sets, polls⟩ := usleep_at _
  simpa only [Nat.zero_add] using
    waitUntil_waited (Q := fun k => At cfg events ⟨modes, k + 1, sets, polls⟩) hcheck hsleep turns 0

end

def eeipSequence (useDhcp : Bool) : List EeipProgress :=
  [.tcpipInit, .settingLinkMode, .applyingIpConfig, .waitingLinkUp, .linkUp] ++
    (if useDhcp then [.waitingDhcp, .dhcpBound] else []) ++ [.ready]

/-- How many of them are reported by a configuration that ends with the status. -/
def EeipNetStatus.phases : EeipNetStatus → Nat
  | .linkModeError => 2
  | .configError => 3
  | .linkTimeout => 4
  | .dhcpTimeout => 6
  | .ok => 8

/-- The turns of a wait: ten unless the configuration asks for more than none. -/
def effectiveTimeout (timeoutSeconds : Int) : Nat :=
  if timeoutSeconds ≤ 0 then 10 else timeoutSeconds.toNat

def NetEnv.setsLinkMode (env : NetEnv) (sdk : NetSdk) (cfg : EeipNetworkConfig) : Prop :=
  cfg.linkMode = sdk.linkModeAuto ∨ env.setLinkMode 0 cfg.linkMode = 0

/-- `apply_ip_config` reads the configuration of the interface and sets what it makes of it. -/
def NetEnv.setsConfig (env : NetEnv) (cfg : EeipNetworkConfig) : Prop :=
  0 ≤ (env.getconfig 0).1 ∧ 0 ≤ env.setconfig 0 (cfg.applied (env.getconfig 0).2)

def EeipNetworkConfig.modeRequests (sdk : NetSdk) (cfg : EeipNetworkConfig) : Nat :=
  if cfg.linkMode = sdk.linkModeAuto then 0 else 1

/-- How a configuration ends: the status, and the calls it has made. -/
inductive EeipOutcome (sdk : NetSdk) (env : NetEnv) (cfg : EeipNetworkConfig) :
    EeipNetStatus → NetCounts → Prop
  | linkModeError (hmode : ¬ env.setsLinkMode sdk cfg) :
      EeipOutcome sdk env cfg .linkModeError ⟨1, 0, 0, 0⟩
  | configError {sets : Nat} (hmode : env.setsLinkMode sdk cfg) (hconfig : ¬ env.setsConfig cfg)
      (hsets : sets = if (env.getconfig 0).1 < 0 then 0 else 1) :
      EeipOutcome sdk env cfg .configError ⟨cfg.modeRequests sdk, 1, sets, 0⟩
  | linkTimeout {polls : Nat} (hmode : env.setsLinkMode sdk cfg) (hconfig : env.setsConfig cfg)
      (hlink : Waited (env.linkUp sdk) (effectiveTimeout cfg.timeoutSeconds) (-1) polls) :
      EeipOutcome sdk env cfg .linkTimeout ⟨cfg.modeRequests sdk, 1, 1, polls⟩
  | static {polls : Nat} (hmode : env.setsLinkMode sdk cfg) (hconfig : env.setsConfig cfg)
      (hlink : Waited (env.linkUp sdk) (effectiveTimeout cfg.timeoutSeconds) 0 polls)
      (hstatic : cfg.useDhcp = false) :
      EeipOutcome sdk env cfg .ok ⟨cfg.modeRequests sdk, 1, 1, polls⟩
  | dhcpTimeout {polls leases : Nat} (hmode : env.setsLinkMode sdk cfg)
      (hconfig : env.setsConfig cfg)
      (hlink : Waited (env.linkUp sdk) (effectiveTimeout cfg.timeoutSeconds) 0 polls)
      (hdhcp : cfg.useDhcp = true)
      (hlease : Waited (env.leaseBound sdk) (effectiveTimeout cfg.timeoutSeconds) (-1) leases) :
      EeipOutcome sdk env cfg .dhcpTimeout ⟨cfg.modeRequests sdk, leases + 1, 1, polls⟩
  | leased {polls leases : Nat} (hmode : env.setsLinkMode sdk cfg) (hconfig : env.setsConfig cfg)
      (hlink : Waited (env.linkUp sdk) (effectiveTimeout cfg.timeoutSeconds) 0 polls)
      (hdhcp : cfg.useDhcp = true)
      (hlease : Waited (env.leaseBound sdk) (effectiveTimeout cfg.timeoutSeconds) 0 leases) :
      EeipOutcome sdk env cfg .ok ⟨cfg.modeRequests sdk, leases + 1, 1, polls⟩

def EeipEnds (sdk : NetSdk) (env : NetEnv) (cfg : EeipNetworkConfig) (status : EeipNetStatus)
    (past : NetTrace EeipProgress) : Prop :=
  ∃ counts, EeipOutcome sdk env cfg status counts ∧
    At cfg.toNetworkConfig ((eeipSequence cfg.useDhcp).take status.phases) counts past

theorem Eeip.timeout_eq (cfg : EeipNetworkConfig) :
    (Eeip.timeout cfg).toNat = effectiveTimeout cfg.timeoutSeconds := by
  unfold Eeip.timeout NetworkConfig.timeout effectiveTimeout
  by_cases h : cfg.timeoutSeconds > 0
  · rw [if_pos h, if_neg (by omega)]
  · rw [if_neg h, if_pos (by omega)]
    rfl

section

variable {sdk : NetSdk} {env : NetEnv} {cfg : EeipNetworkConfig}

theorem waitUntil_timeout (check : NetM EeipProgress Bool) :
    Eeip.waitUntil check (Eeip.timeout cfg) =
      waitUntil check (effectiveTimeout cfg.timeoutSeconds) :=
  congrArg (waitUntil check) (Eeip.timeout_eq cfg)

/-- From the state in which the link is up. -/
theorem awaitLease_ends {polls : Nat} (hmode : env.setsLinkMode sdk cfg)
    (hconfig : env.setsConfig cfg)
    (hlink : Waited (env.linkUp sdk) (effectiveTimeout cfg.timeoutSeconds) 0 polls) :
    Program.Triple env.step
      (At cfg.toNetworkConfig ((eeipSequence cfg.useDhcp).take 5)
        ⟨cfg.modeRequests sdk, 1, 1, polls⟩)
      (awaitLease sdk cfg) (EeipEnds sdk env cfg) := by
  unfold awaitLease
  rw [waitUntil_timeout]
  refine .branch (fun hdhcp => ?_) fun hstatic => ?_
  · refine (emitProgress_at _).bind fun _ => (waitForLease_at sdk _ _ _ _).bind fun result => ?_
    refine .of_exists fun leases => .of_pure fun hlease => .branch (fun hne => ?_) fun hzero => ?_
    · obtain rfl := hlease.result_cases.resolve_left hne
      refine .ret fun past h => ⟨_, .dhcpTimeout hmode hconfig hlink hdhcp hlease, ?_⟩
      rw [hdhcp] at h ⊢
      exact h
    · obtain rfl := not_not.mp hzero
      refine (emitProgress_at _).bind fun _ => (emitProgress_at _).bind fun _ => ?_
      refine .ret fun past h => ⟨_, .leased hmode hconfig hlink hdhcp hlease, ?_⟩
      rw [hdhcp] at h ⊢
      exact h
  · have hfalse : cfg.useDhcp = false := Bool.eq_false_iff.mpr hstatic
    refine (emitProgress_at _).bind fun _ => .ret fun past h => ?_
    refine ⟨_, .static hmode hconfig hlink hfalse, ?_⟩
    rw [hfalse] at h ⊢
    exact h

/-- From the state in which the configuration is set. -/
theorem awaitEeipLink_ends (hmode : env.setsLinkMode sdk cfg) (hconfig : env.setsConfig cfg) :
    Program.Triple env.step
      (At cfg.toNetworkConfig ((eeipSequence cfg.useDhcp).take 3) ⟨cfg.modeRequests sdk, 1, 1, 0⟩)
      (awaitEeipLink sdk cfg) (EeipEnds sdk env cfg) := by
  unfold awaitEeipLink
  rw [waitUntil_timeout]
  refine (emitProgress_at _).bind fun _ => (waitForLink_at sdk _ _ _ _).bind fun result => ?_
  refine .of_exists fun polls => .of_pure fun hlink => .branch (fun hne => ?_) fun hzero => ?_
  · obtain rfl := hlink.result_cases.resolve_left hne
    exact .ret fun past h => ⟨_, .linkTimeout hmode hconfig hlink, h⟩
  · obtain rfl := not_not.mp hzero
    exact (emitProgress_at _).bind fun _ => awaitLease_ends hmode hconfig hlink

theorem applyIpConfig_at {events : List EeipProgress} {modes : Nat} :
    Program.Triple env.step (At cfg.toNetworkConfig events ⟨modes, 0, 0, 0⟩)
      (Eeip.applyIpConfig cfg) fun rc past =>
        ∃ sets, (rc = .ok ∧ env.setsConfig cfg ∧ sets = 1 ∨ rc = .configError ∧
          ¬ env.setsConfig cfg ∧ sets = if (env.getconfig 0).1 < 0 then 0 else 1) ∧
          At cfg.toNetworkConfig events ⟨modes, 1, sets, 0⟩ past := by
  refine (device_at (.ps2ipGetconfig (lit "sm0"))).bind fun answer => .of_pure ?_
  rintro rfl
  refine .branch (fun hread => ?_) fun hread => ?_
  · refine .ret fun past h => ⟨0, Or.inr ⟨rfl, fun hset => ?_, (if_pos hread).symm⟩, h⟩
    exact absurd hset.1 (Int.not_le.mpr hread)
  · refine (device_at (.ps2ipSetconfig _)).bind fun (result : Int) => .of_pure ?_
    intro (hresult : result = env.setconfig 0 (cfg.applied (env.getconfig 0).2))
    refine .branch (fun hfails => ?_) fun hset => ?_
    · refine .ret fun past h => ⟨1, Or.inr ⟨rfl, fun hok => ?_, (if_neg hread).symm⟩, h⟩
      exact Int.not_lt.mpr hok.2 (hresult ▸ hfails)
    · refine .ret fun past h => ⟨1, Or.inl ⟨rfl, ⟨Int.not_lt.mp hread, ?_⟩, rfl⟩, h⟩
      exact Int.not_lt.mp (hresult ▸ hset)

/-- From the state in which the link mode is set. -/
theorem applyEeip_ends (hmode : env.setsLinkMode sdk cfg) :
    Program.Triple env.step
      (At cfg.toNetworkConfig ((eeipSequence cfg.useDhcp).take 2) ⟨cfg.modeRequests sdk, 0, 0, 0⟩)
      (applyEeip sdk cfg) (EeipEnds sdk env cfg) := by
  refine (emitProgress_at _).bind fun _ => applyIpConfig_at.bind fun rc => .of_exists fun sets => ?_
  refine .of_pure fun hrc => ?_
  rcases hrc with ⟨rfl, hconfig, rfl⟩ | ⟨rfl, hconfig, hsets⟩
  · exact awaitEeipLink_ends hmode hconfig
  · exact .ret fun past h => ⟨_, .configError hmode hconfig hsets, h⟩

theorem configureEeipNetwork_ends :
    Program.Triple env.step (fun past => past = []) (configureEeipNetwork sdk (some cfg))
      (EeipEnds sdk env cfg) := by
  have hnothing (past : NetTrace EeipProgress) (h : past = []) :
      At cfg.toNetworkConfig [] ⟨0, 0, 0, 0⟩ past := by
    rw [h]
    exact ⟨by cases cfg.onProgress <;> rfl, rfl⟩
  refine ((emitProgress_at _).imp hnothing fun _ _ h => h).bind fun _ => ?_
  refine (device_at _).bind fun _ => .of_pure fun _ => ?_
  refine (emitProgress_at _).bind fun _ => .branch (fun hmode => ?_) fun hauto => ?_
  · have hrequests : cfg.modeRequests sdk = 1 := if_neg hmode
    refine (device_at _).bind fun (result : Int) => .of_pure fun hresult => ?_
    refine .branch (fun hfails => ?_) fun hsets => ?_
    · refine .ret fun past h => ⟨_, .linkModeError fun hok => ?_, h⟩
      exact hok.elim hmode fun hset => hfails (hresult.trans hset)
    · have hset : env.setLinkMode 0 cfg.linkMode = 0 := hresult.symm.trans (not_not.mp hsets)
      exact (applyEeip_ends (Or.inr hset)).imp (fun _ h => hrequests ▸ h) fun _ _ h => h
  · have hrequests : cfg.modeRequests sdk = 0 := if_pos (not_not.mp hauto)
    exact (applyEeip_ends (Or.inl (not_not.mp hauto))).imp (fun _ h => hrequests ▸ h)
      fun _ _ h => h

end

/-! ## 3. Events, status and polls -/

structure EeipReports (status : EeipNetStatus) (events : List EeipProgress) : Prop where
  ready : .ready ∈ events ↔ status = .ok
  linkModeError : status = .linkModeError ↔ events.getLast? = some .settingLinkMode
  configError : status = .configError ↔ events.getLast? = some .applyingIpConfig
  linkTimeout : status = .linkTimeout ↔ events.getLast? = some .waitingLinkUp
  dhcpTimeout : status = .dhcpTimeout ↔ events.getLast? = some .waitingDhcp

/-- The answers of the environment decide the status. -/
structure EeipDecided (sdk : NetSdk) (env : NetEnv) (cfg : EeipNetworkConfig)
    (status : EeipNetStatus) : Prop where
  linkModeError : status = .linkModeError ↔ ¬ env.setsLinkMode sdk cfg
  configError : status = .configError ↔ env.setsLinkMode sdk cfg ∧ ¬ env.setsConfig cfg
  linkTimeout : status = .linkTimeout ↔ env.setsLinkMode sdk cfg ∧ env.setsConfig cfg ∧
    ∀ k < effectiveTimeout cfg.timeoutSeconds, env.linkUp sdk k = false
  dhcpTimeout : status = .dhcpTimeout ↔ env.setsLinkMode sdk cfg ∧ env.setsConfig cfg ∧
    (∃ k < effectiveTimeout cfg.timeoutSeconds, env.linkUp sdk k = true) ∧ cfg.useDhcp = true ∧
    ∀ k < effectiveTimeout cfg.timeoutSeconds, env.leaseBound sdk k = false

section

variable {sdk : NetSdk} {env : NetEnv} {cfg : EeipNetworkConfig} {status : EeipNetStatus}
  {counts : NetCounts}

theorem EeipOutcome.reports (h : EeipOutcome sdk env cfg status counts) :
    EeipReports status ((eeipSequence cfg.useDhcp).take status.phases) := by
  cases h with
  | linkModeError | configError | linkTimeout =>
    cases cfg.useDhcp <;> exact ⟨by decide, by decide, by decide, by decide, by decide⟩
  | dhcpTimeout _ _ _ hdhcp | leased _ _ _ hdhcp | static _ _ _ hdhcp =>
    rw [hdhcp]
    exact ⟨by decide, by decide, by decide, by decide, by decide⟩

theorem EeipOutcome.decided (h : EeipOutcome sdk env cfg status counts) :
    EeipDecided sdk env cfg status := by
  cases h with
  | linkModeError hmode =>
    exact ⟨iff_of_true rfl hmode, iff_of_false (by decide) fun h => hmode h.1,
      iff_of_false (by decide) fun h => hmode h.1, iff_of_false (by decide) fun h => hmode h.1⟩
  | configError hmode hconfig =>
    exact ⟨iff_of_false (by decide) fun h => h hmode, iff_of_true rfl ⟨hmode, hconfig⟩,
      iff_of_false (by decide) fun h => hconfig h.2.1,
      iff_of_false (by decide) fun h => hconfig h.2.1⟩
  | linkTimeout hmode hconfig hlink =>
    have hdown := hlink.timesOut_iff.mp rfl
    refine ⟨iff_of_false (by decide) fun h => h hmode, iff_of_false (by decide) fun h => h.2 hconfig,
      iff_of_true rfl ⟨hmode, hconfig, hdown⟩, iff_of_false (by decide) fun h => ?_⟩
    obtain ⟨k, hk, hup⟩ := h.2.2.1
    rw [hdown k hk] at hup
    cases hup
  | static hmode hconfig hlink hstatic =>
    refine ⟨iff_of_false (by decide) fun h => h hmode, iff_of_false (by decide) fun h => h.2 hconfig,
      iff_of_false (by decide) fun h => hlink.not_all h.2.2, iff_of_false (by decide) fun h => ?_⟩
    rw [hstatic] at h
    exact absurd h.2.2.2.1 Bool.false_ne_true
  | dhcpTimeout hmode hconfig hlink hdhcp hlease =>
    exact ⟨iff_of_false (by decide) fun h => h hmode, iff_of_false (by decide) fun h => h.2 hconfig,
      iff_of_false (by decide) fun h => hlink.not_all h.2.2,
      iff_of_true rfl ⟨hmode, hconfig, hlink.succeeded, hdhcp, hlease.timesOut_iff.mp rfl⟩⟩
  | leased hmode hconfig hlink hdhcp hlease =>
    exact ⟨iff_of_false (by decide) fun h => h hmode, iff_of_false (by decide) fun h => h.2 hconfig,
      iff_of_false (by decide) fun h => hlink.not_all h.2.2,
      iff_of_false (by decide) fun h => hlease.not_all h.2.2.2.2⟩

end

/-- Under every environment the events of `configure_eeip_network` follow the sequence and tell
the status, which the answers decide; each wait polls until it succeeds or its turns are used up;
and the callback changes neither the status nor the calls. -/
theorem configureEeipNetwork_reports (sdk : NetSdk) (env : NetEnv) (cfg : EeipNetworkConfig) :
    ∃ status past,
      (configureEeipNetwork sdk (some cfg)).run env.step [] = some (status, past) ∧
      reported past <+: eeipSequence cfg.useDhcp ∧
      (cfg.onProgress ≠ none → EeipReports status (reported past)) ∧
      EeipDecided sdk env cfg status ∧
      EeipOutcome sdk env cfg status (netCounts (deviceCalls past)) ∧
      ∀ callback user, ∃ past',
        (configureEeipNetwork sdk (some (cfg.withCallback callback user))).run env.step [] =
          some (status, past') ∧ deviceCalls past' = deviceCalls past := by
  have hback (op : NetOp EeipProgress) (_ : True) (s : NetTrace EeipProgress) :
      ∃ r, env.step op s = some r := by cases op <;> exact ⟨_, rfl⟩
  obtain ⟨⟨status, past⟩, hrun⟩ := Program.run_returns
    (Program.within_true (configureEeipNetwork sdk (some cfg))) hback []
  obtain ⟨counts, houtcome, hat⟩ := configureEeipNetwork_ends.holds [] rfl _ hrun
  refine ⟨status, past, hrun, ?_, fun hset => ?_, houtcome.decided, ?_, fun callback user => ?_⟩
  · rw [hat.events]
    split
    · exact List.take_prefix _ _
    · exact List.nil_prefix
  · rw [hat.events, if_pos (Option.isSome_iff_ne_none.mpr hset)]
    exact houtcome.reports
  · rw [hat.counts]
    exact houtcome
  · -- the run with another callback goes along with this one
    obtain ⟨a, b, s, past', hrun₁, hrun₂, rfl, halike⟩ :=
      (configureEeipNetwork_callbackFree sdk env cfg callback user).holds [] [] ⟨rfl, trivial⟩
    obtain ⟨rfl, rfl⟩ := Prod.mk.inj (Option.some.inj (hrun.symm.trans hrun₁))
    exact ⟨past', hrun₂, by rw [halike.calls, List.append_nil]⟩

end Ps2Drivers
