import Mathlib.Data.Nat.Digits.Lemmas
import Ps2Drivers.Lib.Exchange
import Ps2Drivers.Lib.Program
import Ps2Drivers.Lib.Text

/-!
# The UDP bursts

`udp_echo_server_ee.c` sends numbered datagrams to `udp_echo_host.py` and counts the ones that come
back; `udp_burst.py` does so from a host.  Both are run here against the echo server over wires that
may lose, repeat and reorder what is on them.
-/

open Binary CString

namespace Ps2Drivers

/-! ## 1. The clients -/

inductive SocketOp
  | sendto (data : Bytes)
  | select
  | recvfrom (size : Nat)
  deriving DecidableEq, Repr

/-- `sendto` and `select` answer what they return, `recvfrom` the datagram, or `none` for an error;
a timeout of `recvfrom` is one, too. -/
def SocketOp.Answer : SocketOp → Type
  | .sendto _ | .select => Int
  | .recvfrom _ => Option Bytes

def socketCalls : Interface := ⟨SocketOp, SocketOp.Answer⟩

abbrev SocketM := Program socketCalls

def sendto (data : Bytes) : SocketM Int := Program.request (I := socketCalls) (.sendto data)

def select : SocketM Int := Program.request (I := socketCalls) .select

def recvfrom (size : Nat) : SocketM (Option Bytes) :=
  Program.request (I := socketCalls) (.recvfrom size)

/-- What the two programs differ in: the datagram for an iteration, whether there is a `select`
before the `recvfrom`, the size of the buffer, and the answers that count. -/
structure BurstClient where
  message : Nat → Bytes
  selects : Bool
  bufferSize : Nat
  isEcho : Nat → Bytes → Bool

/-- `ok`, `fail` and `first_fail`. -/
structure Summary where
  ok : Nat
  fail : Nat
  firstFail : Option Nat
  deriving DecidableEq, Repr

def Summary.count (c : Summary) (i : Nat) (answered : Bool) : Summary :=
  if answered then { c with ok := c.ok + 1 }
  else { c with fail := c.fail + 1, firstFail := c.firstFail <|> some i }

namespace BurstClient

variable (client : BurstClient)

def receives (i : Nat) : SocketM Bool := do
  match ← recvfrom client.bufferSize with
  | none => return false
  | some data => return client.isEcho i data

def awaits (i : Nat) : SocketM Bool := do
  if client.selects then
    let ready ← select
    if ready ≤ 0 then
      return false
    client.receives i
  else
    client.receives i

/-- The body of the loop, and whether the iteration is counted as `ok`. -/
def iteration (i : Nat) : SocketM Bool := do
  let sent ← sendto (client.message i)
  if sent < 0 then
    return false
  client.awaits i

/-- The loop, with so many iterations to go, the next of them number `i`. -/
def burstFrom : Nat → Nat → Summary → SocketM Summary
  | 0, _, c => pure c
  | remaining + 1, i, c => do
    let answered ← client.iteration i
    burstFrom remaining (i + 1) (c.count i answered)

def burst (n : Nat) : SocketM Summary := client.burstFrom n 1 ⟨0, 0, none⟩

end BurstClient

/-- `ping #%d`, for an iteration. -/
def pingText (i : Nat) : Bytes := lit "ping #" ++ decimalText i

/-- The text, padded with `A` to 80 bytes. -/
def udpPayloadEe (i : Nat) : Bytes :=
  pingText i ++ List.replicate (80 - (pingText i).length) 65

def udpBurstEe : BurstClient where
  message := udpPayloadEe
  selects := true
  bufferSize := 255
  isEcho i rx := rx.length = 80 && rx = udpPayloadEe i

def udpBurstPy : BurstClient where
  message := pingText
  selects := false
  bufferSize := 1024
  isEcho i data := data = pingText i

/-- The loop of `udp_echo_host.py`: `n`, the datagram it is about to send back, and the datagrams it
has printed. -/
structure EchoHost where
  n : Nat
  data : Option Bytes
  printed : List Bytes
  deriving DecidableEq, Repr

def EchoHost.start : EchoHost := ⟨0, none, []⟩

def EchoHost.recvfrom (host : EchoHost) (datagram : Bytes) : EchoHost :=
  let data := datagram.take 1024
  ⟨host.n + 1, some data, host.printed ++ [data]⟩

def EchoHost.sendto (host : EchoHost) : EchoHost := { host with data := none }

/-- What the client still has to do, the datagrams its socket has received, the datagrams on the two
wires, oldest first, and the echo server. -/
structure Net where
  client : SocketM Summary
  inbox : List Bytes
  toHost : List Bytes
  host : EchoHost
  toClient : List Bytes

def Net.initial (client : BurstClient) (n : Nat) : Net :=
  ⟨client.burst n, [], [], EchoHost.start, []⟩

inductive Net.Step (C : Exchange.Conditions Bytes) : Net → Net → Prop
  | sendto {net : Net} {data : Bytes} {next : Int → SocketM Summary}
      (h : net.client = .call (.sendto data : SocketOp) next) {sent : Int} (hsent : 0 ≤ sent) :
    Step C net { net with client := next sent, toHost := net.toHost ++ [data] }
  | sendtoFails {net : Net} {data : Bytes} {next : Int → SocketM Summary} (hfails : C.fails)
      (h : net.client = .call (.sendto data : SocketOp) next) {sent : Int} (hsent : sent < 0) :
    Step C net { net with client := next sent }
  | select {net : Net} {next : Int → SocketM Summary}
      (h : net.client = .call SocketOp.select next) {ready : Int} (hready : 0 < ready)
      (hinbox : net.inbox ≠ []) :
    Step C net { net with client := next ready }
  | selectFails {net : Net} {next : Int → SocketM Summary} (hfails : C.fails)
      (h : net.client = .call SocketOp.select next) {ready : Int} (hready : ready ≤ 0) :
    Step C net { net with client := next ready }
  | recvfrom {net : Net} {size : Nat} {next : Option Bytes → SocketM Summary}
      (h : net.client = .call (.recvfrom size : SocketOp) next) {data : Bytes}
      {rest : List Bytes} (hinbox : net.inbox = data :: rest) :
    Step C net { net with client := next (some (data.take size)), inbox := rest }
  | recvfromFails {net : Net} {size : Nat} {next : Option Bytes → SocketM Summary}
      (hfails : C.fails) (h : net.client = .call (.recvfrom size : SocketOp) next) :
    Step C net { net with client := next none }
  | hostReceives {net : Net} (hidle : net.host.data = none) {datagram : Bytes}
      {rest : List Bytes} (htoHost : net.toHost = datagram :: rest) :
    Step C net { net with toHost := rest, host := net.host.recvfrom datagram }
  | hostSends {net : Net} {data : Bytes} (hdata : net.host.data = some data) :
    Step C net { net with host := net.host.sendto, toClient := net.toClient ++ [data] }
  | arrives {net : Net} {datagram : Bytes} {rest : List Bytes}
      (htoClient : net.toClient = datagram :: rest) :
    Step C net { net with inbox := net.inbox ++ [datagram], toClient := rest }
  | disturbToHost {net : Net} {wire : List Bytes} (h : C.disturbs net.toHost wire) :
    Step C net { net with toHost := wire }
  | disturbToClient {net : Net} {wire : List Bytes} (h : C.disturbs net.toClient wire) :
    Step C net { net with toClient := wire }

abbrev Net.Reaches (C : Exchange.Conditions Bytes) : Net → Net → Prop :=
  Relation.ReflTransGen (Net.Step C)

/-! ## 3. The messages -/

theorem decimalText_inj {i j : Nat} (h : decimalText i = decimalText j) : i = j := by
  rw [← decimal_decimalText i, h, decimal_decimalText]

theorem pingText_inj {i j : Nat} (h : pingText i = pingText j) : i = j :=
  decimalText_inj (List.append_cancel_left h)

theorem pingText_length (i : Nat) : (pingText i).length = 6 + (decimalText i).length := by
  rw [pingText, List.length_append]
  rfl

/-- A number of type `int` has ten digits at most. -/
theorem pingText_length_le {i : Nat} (hi : i < 2 ^ 31) : (pingText i).length ≤ 16 := by
  have hdigits : (Nat.digits 10 i).length ≤ 10 := by
    rw [Nat.digits_length_le_iff (by decide)]
    omega
  rw [pingText_length, decimalText, List.length_map, List.length_reverse]
  omega

/-- The padding is no digit. -/
theorem pingText_ne_pad (i : Nat) : ∀ c ∈ pingText i, (c != 65) = true := by
  have hping : ∀ c ∈ lit "ping #", (c != 65) = true := by decide +kernel
  intro c hc
  rcases List.mem_append.mp hc with hc | hc
  · exact hping c hc
  · have hdigit := decimalText_digits i c hc
    simp only [bne_iff_ne, ne_eq]
    rintro rfl
    revert hdigit
    decide

theorem udpPayloadEe_inj {i j : Nat} (h : udpPayloadEe i = udpPayloadEe j) : i = j := by
  have htext (k : Nat) : (udpPayloadEe k).takeWhile (· != 65) = pingText k := by
    rw [udpPayloadEe, List.takeWhile_append_of_pos (pingText_ne_pad k), List.takeWhile_replicate]
    simp
  apply pingText_inj
  rw [← htext i, h, htext]

theorem udpPayloadEe_length {i : Nat} (hi : i < 2 ^ 31) : (udpPayloadEe i).length = 80 := by
  have h := pingText_length_le hi
  rw [udpPayloadEe, List.length_append, List.length_replicate]
  omega

def BurstClient.exchange (client : BurstClient) (n : Nat) : Exchange Bytes where
  count := n
  request := client.message
  echo data := data.take 1024
  accepts i data := client.isEcho i (data.take client.bufferSize)

inductive UdpBurst
  | ee
  | py
  deriving DecidableEq, Repr

def UdpBurst.client : UdpBurst → BurstClient
  | .ee => udpBurstEe
  | .py => udpBurstPy

section

variable (burst : UdpBurst) {n : Nat} (hn : n < 2 ^ 31 - 1)

include hn

theorem UdpBurst.distinguishes : (burst.client.exchange n).Distinguishes := by
  intro i j hi hj haccepts
  change j ≤ n at hj
  cases burst with
  | ee =>
    change udpBurstEe.isEcho i (((udpPayloadEe j).take 1024).take 255) = true at haccepts
    have hlength := udpPayloadEe_length ((hj.trans_lt hn).trans_le (by decide))
    rw [List.take_take, List.take_of_length_le (by omega)] at haccepts
    apply udpPayloadEe_inj
    simpa [udpBurstEe] using (Bool.and_eq_true_iff.mp haccepts).2
  | py =>
    change udpBurstPy.isEcho i (((pingText j).take 1024).take 1024) = true at haccepts
    have hlength := pingText_length_le ((hj.trans_lt hn).trans_le (by decide))
    rw [List.take_take, List.take_of_length_le (by omega)] at haccepts
    apply pingText_inj
    simpa [udpBurstPy] using haccepts

theorem UdpBurst.answers : (burst.client.exchange n).Answers := by
  intro i hi
  change i ≤ n at hi
  cases burst with
  | ee =>
    have hlength := udpPayloadEe_length ((hi.trans_lt hn).trans_le (by decide))
    show udpBurstEe.isEcho i (((udpPayloadEe i).take 1024).take 255) = true
    rw [List.take_take, List.take_of_length_le (by omega)]
    simp [udpBurstEe, hlength]
  | py =>
    have hlength := pingText_length_le ((hi.trans_lt hn).trans_le (by decide))
    show udpBurstPy.isEcho i (((pingText i).take 1024).take 1024) = true
    rw [List.take_take, List.take_of_length_le (by omega)]
    simp [udpBurstPy]

end

end Ps2Drivers
