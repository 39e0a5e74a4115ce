import Ps2Drivers.Lib.CString
import Ps2Drivers.Lib.Program

/-!
# Configuring the network

`configure_eeip_network` and `configure_iopip_network`: the link mode, the address, and waiting
for the link and for a DHCP lease, each phase reported to a callback.  The network manager and the
IP stack are an environment that answers every call.
-/

open Binary CString

namespace Ps2Drivers

/-! ## 1. Configurations -/

/-- `eeip_network_config_t` and `iopip_network_config_t` as far as they are the same; the address
of the callback is `none` for `NULL`. -/
structure NetworkConfig where
  ip : UInt32
  netmask : UInt32
  gateway : UInt32
  linkMode : Int
  timeoutSeconds : Int
  onProgress : Option Nat
  user : Nat
  deriving DecidableEq, Repr

structure EeipNetworkConfig extends NetworkConfig where
  useDhcp : Bool
  deriving DecidableEq, Repr

inductive EeipProgress
  | settingLinkMode
  | tcpipInit
  | applyingIpConfig
  | waitingLinkUp
  | linkUp
  | waitingDhcp
  | dhcpBound
  | ready
  deriving DecidableEq, Repr

inductive IopipProgress
  | settingLinkMode
  | applyingIpConfig
  | waitingLinkUp
  | linkUp
  | ready
  deriving DecidableEq, Repr

inductive EeipNetStatus
  | ok
  | linkModeError
  | linkTimeout
  | dhcpTimeout
  | configError
  deriving DecidableEq, Repr

inductive IopipNetStatus
  | ok
  | linkModeError
  | linkTimeout
  | configError
  deriving DecidableEq, Repr

/-! ## 2. The environment -/

/-- `t_ip_info`; `other` is what the drivers pass on without a look, the name of the interface and
its hardware address. -/
structure IpInfo where
  ipaddr : UInt32
  netmask : UInt32
  gw : UInt32
  dhcpEnabled : UInt32
  dhcpStatus : UInt32
  other : Bytes
  deriving DecidableEq, Repr

structure NetSdk where
  linkModeAuto : Int
  linkStateUp : Int
  dhcpStateBound : UInt32
  dhcpStateOff : UInt32

/-- The calls of the network manager, the IP stack and the clock; `getLinkStatus` is
`NetManIoctl(NETMAN_NETIF_IOCTL_GET_LINK_STATUS, NULL, 0, NULL, 0)`. -/
inductive NetCall
  | ps2ipInit (ip netmask gateway : UInt32)
  | netManSetLinkMode (mode : Int)
  | ps2ipGetconfig (netif : Bytes)
  | ps2ipSetconfig (info : IpInfo)
  | getLinkStatus
  | usleep (microseconds : Nat)
  deriving DecidableEq, Repr

def NetCall.Answer : NetCall → Type
  | .ps2ipInit _ _ _ => Unit
  | .netManSetLinkMode _ => Int
  | .ps2ipGetconfig _ => Int × IpInfo
  | .ps2ipSetconfig _ => Int
  | .getLinkStatus => Int
  | .usleep _ => Unit

/-- What `configure_*_network` does, one at a time. -/
inductive NetOp (Ev : Type)
  | device (call : NetCall)
  | onProgress (callback : Nat) (ev : Ev) (user : Nat)
  deriving DecidableEq, Repr

def NetOp.Answer {Ev : Type} : NetOp Ev → Type
  | .device call => call.Answer
  | .onProgress _ _ _ => Unit

def netInterface (Ev : Type) : Interface := ⟨NetOp Ev, NetOp.Answer⟩

abbrev NetM (Ev : Type) := Program (netInterface Ev)

/-- What the environment answers: the results of the `k`-th call of each function, of
`ps2ip_getconfig` with what it stores. -/
structure NetEnv where
  setLinkMode : Nat → Int → Int
  getconfig : Nat → Int × IpInfo
  setconfig : Nat → IpInfo → Int
  linkStatus : Nat → Int

def NetCall.isSetLinkMode : NetCall → Bool
  | .netManSetLinkMode _ => true
  | _ => false

def NetCall.isGetconfig : NetCall → Bool
  | .ps2ipGetconfig _ => true
  | _ => false

def NetCall.isSetconfig : NetCall → Bool
  | .ps2ipSetconfig _ => true
  | _ => false

def NetCall.isGetLinkStatus : NetCall → Bool
  | .getLinkStatus => true
  | _ => false

def NetEnv.answer (env : NetEnv) (past : List NetCall) : (call : NetCall) → call.Answer
  | .ps2ipInit _ _ _ => ()
  | .netManSetLinkMode mode => env.setLinkMode (past.countP (·.isSetLinkMode)) mode
  | .ps2ipGetconfig _ => env.getconfig (past.countP (·.isGetconfig))
  | .ps2ipSetconfig info => env.setconfig (past.countP (·.isSetconfig)) info
  | .getLinkStatus => env.linkStatus (past.countP (·.isGetLinkStatus))
  | .usleep _ => ()

/-- What has been done, newest first. -/
abbrev NetTrace (Ev : Type) := List (NetOp Ev)

/-- The calls of a trace, newest first. -/
def deviceCalls {Ev : Type} (past : NetTrace Ev) : List NetCall :=
  past.filterMap fun op =>
    match op with
    | .device call => some call
    | .onProgress _ _ _ => none

def reported {Ev : Type} (past : NetTrace Ev) : List Ev :=
  (past.filterMap fun op =>
    match op with
    | .device _ => none
    | .onProgress _ ev _ => some ev).reverse

def NetEnv.step {Ev : Type} (env : NetEnv) : Handler (netInterface Ev) (NetTrace Ev)
  | .device call, past => some (env.answer (deviceCalls past) call, .device call :: past)
  | .onProgress callback ev user, past => some ((), .onProgress callback ev user :: past)

/-! ## 3. What the two drivers share -/

section

variable {Ev : Type} (sdk : NetSdk)

def device (call : NetCall) : NetM Ev call.Answer :=
  Program.request (I := netInterface Ev) (.device call)

def ps2ipInit (ip netmask gateway : UInt32) : NetM Ev Unit := device (.ps2ipInit ip netmask gateway)

def netManSetLinkMode (mode : Int) : NetM Ev Int := device (.netManSetLinkMode mode)

def ps2ipGetconfig (netif : Bytes) : NetM Ev (Int × IpInfo) := device (.ps2ipGetconfig netif)

def ps2ipSetconfig (info : IpInfo) : NetM Ev Int := device (.ps2ipSetconfig info)

def getLinkStatus : NetM Ev Int := device .getLinkStatus

def usleep (microseconds : Nat) : NetM Ev Unit := device (.usleep microseconds)

def emitProgress (cfg : NetworkConfig) (ev : Ev) : NetM Ev Unit :=
  match cfg.onProgress with
  | none => pure ()
  | some callback => Program.request (I := netInterface Ev) (.onProgress callback ev cfg.user)

def linkIsUp : NetM Ev Bool := do
  pure ((← getLinkStatus) == sdk.linkStateUp)

/-- The loop of `wait_until`, with the turns that are left. -/
def waitUntil (check : NetM Ev Bool) : Nat → NetM Ev Int
  | 0 => pure (-1)
  | turns + 1 => do
    if ← check then
      pure 0
    else do
      usleep (1000 * 1000)
      waitUntil check turns

def NetworkConfig.timeout (cfg : NetworkConfig) (default : Int) : Int :=
  if cfg.timeoutSeconds > 0 then cfg.timeoutSeconds else default

def NetworkConfig.staticInfo (cfg : NetworkConfig) (info : IpInfo) : IpInfo :=
  { info with ipaddr := cfg.ip, netmask := cfg.netmask, gw := cfg.gateway, dhcpEnabled := 0 }

end

/-! ## 4. The EE driver -/

def Eeip.defaultTimeoutSeconds : Int := 10

section

variable (sdk : NetSdk)

def Eeip.emitProgress (cfg : EeipNetworkConfig) (ev : EeipProgress) : NetM EeipProgress Unit :=
  Ps2Drivers.emitProgress cfg.toNetworkConfig ev

def Eeip.linkIsUp : NetM EeipProgress Bool := Ps2Drivers.linkIsUp sdk

def Eeip.waitUntil (check : NetM EeipProgress Bool) (timeoutSeconds : Int) : NetM EeipProgress Int :=
  Ps2Drivers.waitUntil check timeoutSeconds.toNat

def Eeip.timeout (cfg : EeipNetworkConfig) : Int :=
  cfg.toNetworkConfig.timeout Eeip.defaultTimeoutSeconds

def Eeip.dhcpIsBound : NetM EeipProgress Bool := do
  let (result, info) ← ps2ipGetconfig (lit "sm0")
  if result < 0 then
    pure false
  else if info.dhcpEnabled = 0 then
    pure false
  else
    pure (info.dhcpStatus == sdk.dhcpStateBound || info.dhcpStatus == sdk.dhcpStateOff)

/-- What `apply_ip_config` makes of the configuration it has read. -/
def EeipNetworkConfig.applied (cfg : EeipNetworkConfig) (info : IpInfo) : IpInfo :=
  if cfg.useDhcp then { info with dhcpEnabled := 1 } else cfg.staticInfo info

def Eeip.applyIpConfig (cfg : EeipNetworkConfig) : NetM EeipProgress EeipNetStatus := do
  let (result, info) ← ps2ipGetconfig (lit "sm0")
  if result < 0 then
    pure .configError
  else if (← ps2ipSetconfig (cfg.applied info)) < 0 then
    pure .configError
  else
    pure .ok

/-- `configure_eeip_network` from the wait for a lease on -/
def awaitLease (cfg : EeipNetworkConfig) : NetM EeipProgress EeipNetStatus := do
  if cfg.useDhcp then do
    Eeip.emitProgress cfg .waitingDhcp
    if (← Eeip.waitUntil (Eeip.dhcpIsBound sdk) (Eeip.timeout cfg)) ≠ 0 then
      pure .dhcpTimeout
    else do
      Eeip.emitProgress cfg .dhcpBound
      Eeip.emitProgress cfg .ready
      pure .ok
  else do
    Eeip.emitProgress cfg .ready
    pure .ok

/-- `configure_eeip_network` from the wait for the link on -/
def awaitEeipLink (cfg : EeipNetworkConfig) : NetM EeipProgress EeipNetStatus := do
  Eeip.emitProgress cfg .waitingLinkUp
  if (← Eeip.waitUntil (Eeip.linkIsUp sdk) (Eeip.timeout cfg)) ≠ 0 then
    pure .linkTimeout
  else do
    Eeip.emitProgress cfg .linkUp
    awaitLease sdk cfg

/-- `configure_eeip_network` from the IP configuration on -/
def applyEeip (cfg : EeipNetworkConfig) : NetM EeipProgress EeipNetStatus := do
  Eeip.emitProgress cfg .applyingIpConfig
  let rc ← Eeip.applyIpConfig cfg
  if rc ≠ .ok then
    pure rc
  else
    awaitEeipLink sdk cfg

def configureEeipNetwork (cfg : Option EeipNetworkConfig) : NetM EeipProgress EeipNetStatus :=
  match cfg with
  | none => pure .configError
  | some cfg => do
    Eeip.emitProgress cfg .tcpipInit
    ps2ipInit 0 0 0
    Eeip.emitProgress cfg .settingLinkMode
    -- a link mode that the driver already has is not requested
    if cfg.linkMode ≠ sdk.linkModeAuto then do
      if (← netManSetLinkMode cfg.linkMode) ≠ 0 then
        pure .linkModeError
      else
        applyEeip sdk cfg
    else
      applyEeip sdk cfg

end

/-! ## 5. The IOP driver -/

def Iopip.defaultTimeoutSeconds : Int := 10

section

variable (sdk : NetSdk)

def Iopip.emitProgress (cfg : NetworkConfig) (ev : IopipProgress) : NetM IopipProgress Unit :=
  Ps2Drivers.emitProgress cfg ev

def Iopip.linkIsUp : NetM IopipProgress Bool := Ps2Drivers.linkIsUp sdk

def Iopip.waitUntil (check : NetM IopipProgress Bool) (timeoutSeconds : Int) :
    NetM IopipProgress Int :=
  Ps2Drivers.waitUntil check timeoutSeconds.toNat

def Iopip.timeout (cfg : NetworkConfig) : Int := cfg.timeout Iopip.defaultTimeoutSeconds

def Iopip.applyIpConfig (cfg : NetworkConfig) : NetM IopipProgress IopipNetStatus := do
  let (result, info) ← ps2ipGetconfig (lit "sm0")
  if result < 0 then
    pure .configError
  else if (← ps2ipSetconfig (cfg.staticInfo info)) < 0 then
    pure .configError
  else
    pure .ok

/-- `configure_iopip_network` from the wait for the link on -/
def awaitIopipLink (cfg : NetworkConfig) : NetM IopipProgress IopipNetStatus := do
  Iopip.emitProgress cfg .waitingLinkUp
  if (← Iopip.waitUntil (Iopip.linkIsUp sdk) (Iopip.timeout cfg)) ≠ 0 then
    pure .linkTimeout
  else do
    Iopip.emitProgress cfg .linkUp
    Iopip.emitProgress cfg .ready
    pure .ok

/-- `configure_iopip_network` from the IP configuration on -/
def applyIopip (cfg : NetworkConfig) : NetM IopipProgress IopipNetStatus := do
  Iopip.emitProgress cfg .applyingIpConfig
  let rc ← Iopip.applyIpConfig cfg
  if rc ≠ .ok then
    pure rc
  else
    awaitIopipLink sdk cfg

def configureIopipNetwork (cfg : Option NetworkConfig) : NetM IopipProgress IopipNetStatus :=
  match cfg with
  | none => pure .configError
  | some cfg => do
    Iopip.emitProgress cfg .settingLinkMode
    if cfg.linkMode ≠ sdk.linkModeAuto then do
      if (← netManSetLinkMode cfg.linkMode) ≠ 0 then
        pure .linkModeError
      else
        applyIopip sdk cfg
    else
      applyIopip sdk cfg

end

/-! ## 6. Runs -/

def NetworkConfig.emitted {Ev : Type} (cfg : NetworkConfig) (ev : Ev) : NetTrace Ev :=
  match cfg.onProgress with
  | none => []
  | some callback => [.onProgress callback ev cfg.user]

section

variable {Ev : Type} {env : NetEnv}

theorem device_run (call : NetCall) (past : NetTrace Ev) :
    (device call).run env.step past =
      some (env.answer (deviceCalls past) call, .device call :: past) := rfl

@[simp] theorem deviceCalls_device (call : NetCall) (past : NetTrace Ev) :
    deviceCalls (.device call :: past) = call :: deviceCalls past := rfl

@[simp] theorem deviceCalls_emitted (cfg : NetworkConfig) (ev : Ev) (past : NetTrace Ev) :
    deviceCalls (cfg.emitted ev ++ past) = deviceCalls past := by
  unfold NetworkConfig.emitted
  cases cfg.onProgress <;> rfl

@[simp] theorem reported_device (call : NetCall) (past : NetTrace Ev) :
    reported (.device call :: past) = reported past := rfl

@[simp] theorem reported_emitted (cfg : NetworkConfig) (ev : Ev) (past : NetTrace Ev) :
    reported (cfg.emitted ev ++ past) =
      reported past ++ if cfg.onProgress.isSome then [ev] else [] := by
  unfold NetworkConfig.emitted
  cases cfg.onProgress with
  | none => exact (List.append_nil _).symm
  | some callback => exact List.reverse_cons

theorem emitProgress_run (cfg : NetworkConfig) (ev : Ev) (past : NetTrace Ev) :
    (emitProgress cfg ev).run env.step past = some ((), cfg.emitted ev ++ past) := by
  unfold emitProgress NetworkConfig.emitted
  cases cfg.onProgress <;> rfl

end

end Ps2Drivers
