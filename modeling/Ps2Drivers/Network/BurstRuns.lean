import Mathlib.Data.List.Find
import Ps2Drivers.Network.Burst

/-!
# Runs of the UDP bursts

The client, the wires and the echo server together behave as an exchange of numbered requests, so
what holds of those holds of the bursts: no datagram is counted for another one's answer, and on
wires that keep everything in order, one answer too late makes every later iteration fail.
-/

open Binary CString

namespace Ps2Drivers

/-! ## 1. The counters -/

/-- The counters after the iterations before `i`, of which those in `accepted` were answered. -/
structure Summary.Describes (c : Summary) (accepted : List Nat) (i : Nat) : Prop where
  ok : c.ok = accepted.length
  total : c.ok + c.fail + 1 = i
  firstFail : c.firstFail = (List.range' 1 (i - 1)).find? fun j => j ∉ accepted

namespace Summary.Describes

variable {c : Summary} {accepted : List Nat} {i : Nat}

/-- The iterations before `i + 1` are those before `i` and `i`. -/
theorem range_succ (h : c.Describes accepted i) :
    List.range' 1 (i + 1 - 1) = List.range' 1 (i - 1) ++ [i] := by
  have htotal := h.total
  obtain ⟨k, rfl⟩ : ∃ k, i = k + 1 := ⟨c.ok + c.fail, htotal.symm⟩
  simp [List.range'_concat, Nat.add_comm]

theorem answered (h : c.Describes accepted i) :
    (c.count i true).Describes (accepted ++ [i]) (i + 1) := by
  refine ⟨?_, ?_, ?_⟩
  · show c.ok + 1 = _
    rw [List.length_append, h.ok]
    rfl
  · show c.ok + 1 + c.fail + 1 = i + 1
    have htotal := h.total
    omega
  · show c.firstFail = _
    have hsame : (List.range' 1 (i - 1)).find? (fun j => j ∉ accepted ++ [i]) =
        (List.range' 1 (i - 1)).find? fun j => j ∉ accepted := by
      apply List.find?_congr
      intro j hj
      have hlt : j < i := by
        have hrange := List.mem_range'_1.mp hj
        omega
      simp [hlt.ne]
    rw [h.range_succ, List.find?_append, hsame, h.firstFail]
    simp

theorem failed (h : c.Describes accepted i) (hbounds : ∀ j ∈ accepted, j < i) :
    (c.count i false).Describes accepted (i + 1) := by
  refine ⟨h.ok, ?_, ?_⟩
  · show c.ok + (c.fail + 1) + 1 = i + 1
    have htotal := h.total
    omega
  · have hi : i ∉ accepted := fun hmem => (hbounds i hmem).ne rfl
    show (c.firstFail <|> some i) = _
    rw [h.range_succ, List.find?_append, h.firstFail]
    simp [hi]

end Summary.Describes

/-! ## 2. The client's place in the loop -/

namespace BurstClient

variable (client : BurstClient) (n : Nat)

/-- What is left to do after the body of iteration `i`. -/
def resume (remaining i : Nat) (c : Summary) (answered : Bool) : SocketM Summary :=
  client.burstFrom remaining (i + 1) (c.count i answered)

theorem burstFrom_succ (remaining i : Nat) (c : Summary) :
    client.burstFrom (remaining + 1) i c =
      .call (I := socketCalls) (.sendto (client.message i)) fun sent : Int =>
        (if sent < 0 then pure false else client.awaits i) >>= client.resume remaining i c := rfl

theorem receives_bind (remaining i : Nat) (c : Summary) :
    client.receives i >>= client.resume remaining i c =
      .call (I := socketCalls) (.recvfrom client.bufferSize) fun data : Option Bytes =>
        client.resume remaining i c (data.any (client.isEcho i)) := by
  show Program.call _ _ = _
  congr 1
  funext data
  cases data <;> rfl

theorem awaits_bind_of_selects (hselects : client.selects = true) (remaining i : Nat)
    (c : Summary) : client.awaits i >>= client.resume remaining i c =
      .call (I := socketCalls) .select fun ready : Int =>
        (if ready ≤ 0 then pure false else client.receives i) >>=
          client.resume remaining i c := by
  rw [awaits, if_pos hselects]
  rfl

theorem awaits_of_not_selects (hselects : client.selects = false) (i : Nat) :
    client.awaits i = client.receives i := by
  rw [awaits, hselects]
  rfl

/-- Where in the loop the client is, for a state of the exchange; the last argument is a bound on
what the client can still do. -/
inductive At (program : SocketM Summary) (s : Exchange.State Bytes) : Nat → Prop
  | head {remaining i : Nat} {c : Summary} (hi : i + remaining = n + 1)
      (hc : c.Describes s.accepted i) (hphase : s.phase = .ready i)
      (hprogram : program = client.burstFrom remaining i c) : At program s (6 * remaining)
  | select {remaining i : Nat} {c : Summary} (hi : i + remaining = n)
      (hc : c.Describes s.accepted i) (hphase : s.phase = .waiting i)
      (hprogram : program = .call (I := socketCalls) .select fun ready : Int =>
        (if ready ≤ 0 then pure false else client.receives i) >>= client.resume remaining i c) :
    At program s (6 * remaining + 2)
  | recvfrom {remaining i : Nat} {c : Summary} (hi : i + remaining = n)
      (hc : c.Describes s.accepted i) (hphase : s.phase = .waiting i)
      (hprogram : program = .call (I := socketCalls) (.recvfrom client.bufferSize)
        fun data : Option Bytes => client.resume remaining i c (data.any (client.isEcho i))) :
    At program s (6 * remaining + 1)

variable {client n} {program : SocketM Summary} {s : Exchange.State Bytes} {rank : Nat}

/-- Sent or not, the datagram is the one of the iteration. -/
theorem At.of_sendto (h : client.At n program s rank) {data : Bytes}
    {next : Int → SocketM Summary} (hcall : program = .call (.sendto data : SocketOp) next) :
    ∃ remaining i c, i + remaining = n ∧ c.Describes s.accepted i ∧ s.phase = .ready i ∧
      rank = 6 * remaining + 6 ∧ data = client.message i ∧
      ∀ sent, next sent = (if sent < 0 then pure false else client.awaits i) >>=
        client.resume remaining i c := by
  cases h with
  | @head remaining i c hi hc hphase hprogram =>
    rw [hcall] at hprogram
    cases remaining with
    | zero => cases hprogram
    | succ remaining =>
      rw [burstFrom_succ] at hprogram
      cases hprogram
      exact ⟨remaining, i, c, by omega, hc, hphase, by omega, rfl, fun _ => rfl⟩
  | select _ _ _ hprogram | recvfrom _ _ _ hprogram =>
    rw [hcall] at hprogram
    cases hprogram

theorem At.of_burstFrom (h : client.At n program s rank) {k j : Nat} {d : Summary}
    (hhead : program = client.burstFrom k j d) :
    ∃ remaining i c, i + remaining = n + 1 ∧ c.Describes s.accepted i ∧ s.phase = .ready i ∧
      program = client.burstFrom remaining i c := by
  cases h with
  | @head remaining i c hi hc hphase hprogram => exact ⟨remaining, i, c, hi, hc, hphase, hprogram⟩
  | select _ _ _ hprogram | recvfrom _ _ _ hprogram =>
    rw [hhead] at hprogram
    cases k <;> cases hprogram

theorem At.of_select (h : client.At n program s rank) {next : Int → SocketM Summary}
    (hcall : program = .call SocketOp.select next) :
    ∃ remaining i c, i + remaining = n ∧ c.Describes s.accepted i ∧ s.phase = .waiting i ∧
      rank = 6 * remaining + 2 ∧
      ∀ ready, next ready = (if ready ≤ 0 then pure false else client.receives i) >>=
        client.resume remaining i c := by
  cases h with
  | @head remaining _ _ _ _ _ hprogram =>
    rw [hcall] at hprogram
    cases remaining <;> cases hprogram
  | @select remaining i c hi hc hphase hprogram =>
    rw [hcall] at hprogram
    cases hprogram
    exact ⟨remaining, i, c, hi, hc, hphase, rfl, fun _ => rfl⟩
  | recvfrom _ _ _ hprogram =>
    rw [hcall] at hprogram
    cases hprogram

theorem At.of_recvfrom (h : client.At n program s rank) {size : Nat}
    {next : Option Bytes → SocketM Summary}
    (hcall : program = .call (.recvfrom size : SocketOp) next) :
    ∃ remaining i c, i + remaining = n ∧ c.Describes s.accepted i ∧ s.phase = .waiting i ∧
      rank = 6 * remaining + 1 ∧ size = client.bufferSize ∧
      ∀ data, next data = client.resume remaining i c (data.any (client.isEcho i)) := by
  cases h with
  | @head remaining _ _ _ _ _ hprogram =>
    rw [hcall] at hprogram
    cases remaining <;> cases hprogram
  | select _ _ _ hprogram =>
    rw [hcall] at hprogram
    cases hprogram
  | @recvfrom remaining i c hi hc hphase hprogram =>
    rw [hcall] at hprogram
    cases hprogram
    exact ⟨remaining, i, c, hi, hc, hphase, rfl, rfl, fun _ => rfl⟩

theorem At.congr {s' : Exchange.State Bytes} (h : client.At n program s rank)
    (hphase : s'.phase = s.phase) (haccepted : s'.accepted = s.accepted) :
    client.At n program s' rank := by
  cases h with
  | head hi hc hphase' hprogram =>
    exact .head hi (haccepted ▸ hc) (hphase.trans hphase') hprogram
  | select hi hc hphase' hprogram =>
    exact .select hi (haccepted ▸ hc) (hphase.trans hphase') hprogram
  | recvfrom hi hc hphase' hprogram =>
    exact .recvfrom hi (haccepted ▸ hc) (hphase.trans hphase') hprogram

/-- The client waits for its answer: it polls first, or receives at once. -/
theorem at_awaits {remaining i : Nat} {c : Summary} (hi : i + remaining = n)
    (hc : c.Describes s.accepted i) (hphase : s.phase = .waiting i) :
    ∃ rank ≤ 6 * remaining + 2,
      client.At n (client.awaits i >>= client.resume remaining i c) s rank := by
  cases hselects : client.selects with
  | true => exact ⟨_, le_rfl, .select hi hc hphase (client.awaits_bind_of_selects hselects _ _ _)⟩
  | false =>
    refine ⟨_, Nat.le_succ _, .recvfrom hi hc hphase ?_⟩
    rw [client.awaits_of_not_selects hselects, receives_bind]

/-- The client goes on to the next iteration. -/
theorem at_resume {remaining i : Nat} {c : Summary} (hi : i + remaining = n) {answered : Bool}
    (hc : (c.count i answered).Describes s.accepted (i + 1)) (hphase : s.phase = .ready (i + 1)) :
    client.At n (client.resume remaining i c answered) s (6 * remaining) :=
  .head (by omega) hc hphase rfl

end BurstClient

/-! ## 3. What a step counts -/

def refusing : Handler socketCalls Unit
  | .sendto _, _ => some ((-1 : Int), ())
  | .select, _ => none
  | .recvfrom _, _ => none

theorem BurstClient.burstFrom_refused (client : BurstClient) (remaining i : Nat) (c : Summary) :
    ∃ c', (client.burstFrom remaining i c).run refusing () = some (c', ()) ∧ c'.ok = c.ok ∧
      c'.fail = c.fail + remaining := by
  induction remaining generalizing i c with
  | zero => exact ⟨c, rfl, rfl, rfl⟩
  | succ remaining ih =>
    obtain ⟨c', hrun, hok, hfail⟩ := ih (i + 1) (c.count i false)
    refine ⟨c', hrun, hok, ?_⟩
    rw [hfail]
    show c.fail + 1 + remaining = _
    omega

/-- What a client still does tells what it has counted so far. -/
theorem BurstClient.burstFrom_inj {client : BurstClient} {remaining remaining' i i' : Nat}
    {c c' : Summary} (h : client.burstFrom remaining i c = client.burstFrom remaining' i' c') :
    c.ok = c'.ok ∧ c.fail + remaining = c'.fail + remaining' := by
  obtain ⟨d, hrun, hok, hfail⟩ := client.burstFrom_refused remaining i c
  obtain ⟨d', hrun', hok', hfail'⟩ := client.burstFrom_refused remaining' i' c'
  rw [h, hrun'] at hrun
  obtain rfl : d' = d := congrArg Prod.fst (Option.some.inj hrun)
  exact ⟨hok.symm.trans hok', hfail.symm.trans hfail'⟩

/-- A datagram is the echo of one iteration at most. -/
def BurstClient.Tells (client : BurstClient) : Prop :=
  ∀ i j data, client.isEcho i data = true → client.isEcho j data = true → i = j

/-- The iterations that the client counts as `ok` when it goes on from one place to another: the one
whose answer it has been waiting for, if its counter goes up. -/
inductive BurstClient.Counts (client : BurstClient) (program program' : SocketM Summary) :
    List Nat → Prop
  | ok {remaining i : Nat} {c : Summary}
      (hbody : program = client.receives i >>= client.resume remaining i c)
      (hok : program' = client.resume remaining i c true) : Counts client program program' [i]
  | nothing (h : ∀ remaining i c, program = client.receives i >>= client.resume remaining i c →
      program' ≠ client.resume remaining i c true) : Counts client program program' []

/-- A run of the network from its start, with the iterations that have been counted as `ok`. -/
inductive BurstClient.Runs (client : BurstClient) (n : Nat) (C : Exchange.Conditions Bytes) :
    Net → List Nat → Prop
  | start : Runs client n C (Net.initial client n) []
  | step {net net' : Net} {oks more : List Nat} (h : Runs client n C net oks)
      (hstep : Net.Step C net net') (hcounts : client.Counts net.client net'.client more) :
    Runs client n C net' (oks ++ more)

section

variable {client : BurstClient} {program program' : SocketM Summary} {more : List Nat}

theorem BurstClient.counts_total (client : BurstClient) (program program' : SocketM Summary) :
    ∃ more, client.Counts program program' more := by
  by_cases hok : ∃ remaining i c, program = client.receives i >>= client.resume remaining i c ∧
    program' = client.resume remaining i c true
  · obtain ⟨remaining, i, c, hbody, hok⟩ := hok
    exact ⟨_, .ok hbody hok⟩
  · exact ⟨_, .nothing fun remaining i c hbody h => hok ⟨remaining, i, c, hbody, h⟩⟩

theorem Net.Reaches.runs {n : Nat} {C : Exchange.Conditions Bytes} {net : Net}
    (hrun : Net.Reaches C (Net.initial client n) net) : ∃ oks, client.Runs n C net oks := by
  induction hrun with
  | refl => exact ⟨[], .start⟩
  | @tail net net' _ hstep ih =>
    obtain ⟨oks, hruns⟩ := ih
    obtain ⟨more, hcounts⟩ := client.counts_total net.client net'.client
    exact ⟨oks ++ more, hruns.step hstep hcounts⟩

/-- Nothing is counted but on the answer of a `recvfrom`. -/
theorem BurstClient.Counts.eq_nil_of_call (h : client.Counts program program' more) {op : SocketOp}
    {next : op.Answer → SocketM Summary} (hcall : program = .call (I := socketCalls) op next)
    (hop : ∀ size, op ≠ .recvfrom size) : more = [] := by
  cases h with
  | nothing => rfl
  | ok hbody _ =>
    rw [receives_bind, hcall] at hbody
    cases hbody
    exact absurd rfl (hop _)

theorem BurstClient.Counts.eq_nil_of_same (h : client.Counts program program more) : more = [] := by
  cases h with
  | nothing => rfl
  | @ok remaining i c hbody hok =>
    rw [hbody, receives_bind] at hok
    cases remaining <;> cases hok

/-- The answer decides whether the iteration is counted. -/
theorem BurstClient.Counts.of_receives (hclient : client.Tells)
    (h : client.Counts program program' more) {remaining i : Nat} {c : Summary}
    (hbody : program = client.receives i >>= client.resume remaining i c) {data : Option Bytes}
    (hanswer : program' = client.resume remaining i c (data.any (client.isEcho i))) :
    more = if data.any (client.isEcho i) then [i] else [] := by
  cases h with
  | nothing hno =>
    cases hecho : data.any (client.isEcho i) with
    | false => rfl
    | true => exact absurd (hecho ▸ hanswer) (hno remaining i c hbody)
  | @ok remaining' i' c' hbody' hok =>
    -- both iterations would go on in the same way, whatever the answer
    have hsame (data : Option Bytes) : client.resume remaining i c (data.any (client.isEcho i)) =
        client.resume remaining' i' c' (data.any (client.isEcho i')) := by
      have hcalls := hbody.symm.trans hbody'
      rw [receives_bind, receives_bind] at hcalls
      exact congrFun (eq_of_heq (Program.call.inj hcalls).2) data
    have hbefore : c.ok = c'.ok := (burstFrom_inj (hsame none)).1
    have hafter : (c.count i (data.any (client.isEcho i))).ok = c'.ok + 1 :=
      (burstFrom_inj (hanswer.symm.trans hok)).1
    cases hecho : data.any (client.isEcho i) with
    | false =>
      rw [hecho] at hafter
      exact absurd (hbefore.symm.trans hafter) (Nat.succ_ne_self _).symm
    | true =>
      obtain ⟨datagram, rfl, hdatagram⟩ := (Option.any_eq_true _ _).mp hecho
      have hboth : (c.count i (client.isEcho i datagram)).ok =
          (c'.count i' (client.isEcho i' datagram)).ok := (burstFrom_inj (hsame (some datagram))).1
      have hother : client.isEcho i' datagram = true := by
        by_contra hno
        rw [hdatagram, eq_false_of_ne_true hno] at hboth
        exact absurd (hbefore ▸ hboth) (Nat.succ_ne_self _)
      rw [if_pos rfl, hclient i i' datagram hdatagram hother]

end

/-! ## 4. The exchange behind a burst -/

structure Net.Tracks (client : BurstClient) (n : Nat) (net : Net) (s : Exchange.State Bytes)
    (rank : Nat) : Prop where
  requests : s.requests = net.toHost
  held : s.held.map (·.take 1024) = net.host.data.toList
  printed : s.received.map (·.take 1024) = net.host.printed
  replies : s.replies = net.inbox ++ net.toClient
  place : client.At n net.client s rank

/-- A bound on the steps that are left when the wires do nothing on their own. -/
def Net.load (net : Net) (rank : Nat) : Nat :=
  3 * net.toHost.length + 2 * net.host.data.toList.length + net.toClient.length + rank

theorem Net.initial_tracks (client : BurstClient) (n : Nat) :
    (Net.initial client n).Tracks client n .initial (6 * n) :=
  ⟨rfl, rfl, rfl, rfl, .head (Nat.add_comm 1 n) ⟨rfl, rfl, rfl⟩ rfl rfl⟩

section

variable {client : BurstClient} {n : Nat} {C : Exchange.Conditions Bytes} {net net' : Net}
  {s : Exchange.State Bytes} {rank : Nat}

/-- Every step of the network is a step of the exchange, or none, and what it accepts is what the
client counts. -/
theorem Net.Step.simulated (hC : C.Local) (hs : net.Tracks client n s rank)
    (hcounted : Exchange.Counted s) (h : Net.Step C net net') :
    ∃ s' rank', (client.exchange n).Reaches C s s' ∧ net'.Tracks client n s' rank' ∧
      (C.Quiet → net'.load rank' < net.load rank) ∧
      (client.Tells → ∀ more, client.Counts net.client net'.client more →
        s'.accepted = s.accepted ++ more) := by
  have hbounds {i : Nat} (hphase : s.phase.number = i) : ∀ j ∈ s.accepted, j < i :=
    fun j hj => hphase ▸ (hcounted.accepted_bounds j hj).2
  have hnothing {more : List Nat} (h : more = []) : s.accepted = s.accepted ++ more := by
    rw [h, List.append_nil]
  -- the calls of the client come first, then those of the host, then what the wires do
  cases h with
  | @sendto data next hcall sent hsent =>
    obtain ⟨remaining, i, c, hi, hc, hphase, rfl, rfl, hnext⟩ := hs.place.of_sendto hcall
    let s' := { s with phase := .waiting i, requests := s.requests ++ [client.message i] }
    have hstep : (client.exchange n).Step C s s' := .send (by show i ≤ n; omega) hphase
    obtain ⟨rank', hrank, hplace⟩ :=
      @BurstClient.at_awaits client n s' remaining i c hi hc rfl
    refine ⟨s', rank', .single hstep, ⟨?_, hs.held, hs.printed, hs.replies, ?_⟩, fun _ => ?_, ?_⟩
    · show s.requests ++ _ = net.toHost ++ _
      rw [hs.requests]
    · show client.At n (next sent) s' rank'
      rw [hnext, if_neg (by omega)]
      exact hplace
    · simp only [Net.load, List.length_append, List.length_singleton]
      omega
    · exact fun _ more h => hnothing (h.eq_nil_of_call hcall (by rintro _ ⟨⟩))
  | @sendtoFails data next hfails hcall sent hsent =>
    obtain ⟨remaining, i, c, hi, hc, hphase, rfl, rfl, hnext⟩ := hs.place.of_sendto hcall
    let s' := { s with phase := .ready (i + 1) }
    have hstep : (client.exchange n).Step C s s' := .skip (by show i ≤ n; omega) hfails hphase
    refine ⟨s', 6 * remaining, .single hstep,
      ⟨hs.requests, hs.held, hs.printed, hs.replies, ?_⟩, fun _ => ?_, ?_⟩
    · show client.At n (next sent) s' _
      rw [hnext, if_pos hsent]
      exact BurstClient.at_resume hi (hc.failed (hbounds (by rw [hphase]; rfl))) rfl
    · simp only [Net.load]
      omega
    · exact fun _ more h => hnothing (h.eq_nil_of_call hcall (by rintro _ ⟨⟩))
  | @select next hcall ready hready hinbox =>
    obtain ⟨remaining, i, c, hi, hc, hphase, rfl, hnext⟩ := hs.place.of_select hcall
    -- the exchange knows nothing of polling
    refine ⟨s, 6 * remaining + 1, .refl,
      ⟨hs.requests, hs.held, hs.printed, hs.replies, ?_⟩, fun _ => ?_, ?_⟩
    · refine .recvfrom hi hc hphase ?_
      show next ready = _
      rw [hnext, if_neg (by omega), BurstClient.receives_bind]
    · simp only [Net.load]
      omega
    · exact fun _ more h => hnothing (h.eq_nil_of_call hcall (by rintro _ ⟨⟩))
  | @selectFails next hfails hcall ready hready =>
    obtain ⟨remaining, i, c, hi, hc, hphase, rfl, hnext⟩ := hs.place.of_select hcall
    let s' := { s with phase := .ready (i + 1) }
    have hstep : (client.exchange n).Step C s s' := .giveUp hfails hphase
    refine ⟨s', 6 * remaining, .single hstep,
      ⟨hs.requests, hs.held, hs.printed, hs.replies, ?_⟩, fun _ => ?_, ?_⟩
    · show client.At n (next ready) s' _
      rw [hnext, if_pos hready]
      exact BurstClient.at_resume hi (hc.failed (hbounds (by rw [hphase]; rfl))) rfl
    · simp only [Net.load]
      omega
    · exact fun _ more h => hnothing (h.eq_nil_of_call hcall (by rintro _ ⟨⟩))
  | @recvfrom size next hcall data rest hinbox =>
    obtain ⟨remaining, i, c, hi, hc, hphase, rfl, rfl, hnext⟩ := hs.place.of_recvfrom hcall
    have hbody : net.client = client.receives i >>= client.resume remaining i c := by
      rw [hcall, BurstClient.receives_bind]
      exact congrArg _ (funext hnext)
    have hreplies : s.replies = data :: (rest ++ net.toClient) := by
      rw [hs.replies, hinbox]
      rfl
    let s' := { s with
      phase := .ready (i + 1)
      replies := rest ++ net.toClient
      accepted := if (client.exchange n).accepts i data then s.accepted ++ [i] else s.accepted }
    have hstep : (client.exchange n).Step C s s' := .take hphase hreplies
    refine ⟨s', 6 * remaining, .single hstep, ⟨hs.requests, hs.held, hs.printed, rfl, ?_⟩,
      fun _ => ?_, ?_⟩
    · show client.At n (next _) s' _
      rw [hnext]
      refine BurstClient.at_resume hi ?_ rfl
      -- the client compares as much of the datagram as its buffer holds
      show (c.count i (client.isEcho i (data.take client.bufferSize))).Describes
        (if client.isEcho i (data.take client.bufferSize) then s.accepted ++ [i]
          else s.accepted) (i + 1)
      cases client.isEcho i (data.take client.bufferSize) with
      | true => exact hc.answered
      | false => exact hc.failed (hbounds (by rw [hphase]; rfl))
    · simp only [Net.load]
      omega
    · intro hclient more h
      have hmore := h.of_receives hclient hbody (hnext (some (data.take client.bufferSize)))
      show (if client.isEcho i (data.take client.bufferSize) then s.accepted ++ [i]
        else s.accepted) = _
      rw [hmore, Option.any_some]
      split
      · rfl
      · exact (List.append_nil _).symm
  | @recvfromFails size next hfails hcall =>
    obtain ⟨remaining, i, c, hi, hc, hphase, rfl, rfl, hnext⟩ := hs.place.of_recvfrom hcall
    have hbody : net.client = client.receives i >>= client.resume remaining i c := by
      rw [hcall, BurstClient.receives_bind]
      exact congrArg _ (funext hnext)
    let s' := { s with phase := .ready (i + 1) }
    have hstep : (client.exchange n).Step C s s' := .giveUp hfails hphase
    refine ⟨s', 6 * remaining, .single hstep,
      ⟨hs.requests, hs.held, hs.printed, hs.replies, ?_⟩, fun _ => ?_, ?_⟩
    · show client.At n (next none) s' _
      rw [hnext]
      exact BurstClient.at_resume hi (hc.failed (hbounds (by rw [hphase]; rfl))) rfl
    · simp only [Net.load]
      omega
    · exact fun hclient more h => hnothing (h.of_receives hclient hbody (hnext none))
  | @hostReceives hidle datagram rest htoHost =>
    -- the host receives only when it has answered what it received before
    have hheld : s.held = [] := by
      have h := hs.held
      rw [hidle] at h
      exact List.map_eq_nil_iff.mp h
    let s' := { s with
      requests := rest, held := s.held ++ [datagram], received := s.received ++ [datagram] }
    have hstep : (client.exchange n).Step C s s' := .receive (hs.requests.trans htoHost)
    refine ⟨s', rank, .single hstep, ⟨rfl, ?_, ?_, hs.replies, ?_⟩, fun _ => ?_, ?_⟩
    · show (s.held ++ [datagram]).map _ = [datagram.take 1024]
      rw [hheld]
      rfl
    · show (s.received ++ [datagram]).map _ = net.host.printed ++ [datagram.take 1024]
      rw [List.map_append, hs.printed]
      rfl
    · exact hs.place.congr rfl rfl
    · simp only [Net.load, htoHost, hidle, EchoHost.recvfrom, List.length_cons,
        Option.toList_some, Option.toList_none, List.length_nil]
      omega
    · exact fun _ more h => hnothing h.eq_nil_of_same
  | @hostSends data hdata =>
    have hheld := hs.held
    rw [hdata, Option.toList_some, List.map_eq_singleton_iff] at hheld
    obtain ⟨datagram, hheld, rfl⟩ := hheld
    -- a longer datagram comes back cut off
    let s' := { s with held := [], replies := s.replies ++ [datagram.take 1024] }
    have hstep : (client.exchange n).Step C s s' := .reply hheld
    refine ⟨s', rank, .single hstep, ⟨hs.requests, rfl, hs.printed, ?_, ?_⟩, fun _ => ?_, ?_⟩
    · show s.replies ++ _ = net.inbox ++ (net.toClient ++ _)
      rw [hs.replies, List.append_assoc]
    · exact hs.place.congr rfl rfl
    · simp only [Net.load, hdata, EchoHost.sendto, List.length_append, List.length_singleton,
        Option.toList_some, Option.toList_none, List.length_nil]
      omega
    · exact fun _ more h => hnothing h.eq_nil_of_same
  | @arrives datagram rest htoClient =>
    -- the wire and the inbox are one queue of the exchange
    refine ⟨s, rank, .refl, ⟨hs.requests, hs.held, hs.printed, ?_, hs.place⟩, fun _ => ?_, ?_⟩
    · rw [hs.replies, htoClient, List.append_assoc]
      rfl
    · simp only [Net.load, htoClient, List.length_cons]
      omega
    · exact fun _ more h => hnothing h.eq_nil_of_same
  | @disturbToHost wire hdisturbs =>
    let s' := { s with requests := wire }
    have hstep : (client.exchange n).Step C s s' := .disturbRequests (hs.requests ▸ hdisturbs)
    refine ⟨s', rank, .single hstep, ⟨rfl, hs.held, hs.printed, hs.replies, ?_⟩, fun hquiet => ?_, ?_⟩
    · exact hs.place.congr rfl rfl
    · exact absurd hdisturbs (hquiet _ _)
    · exact fun _ more h => hnothing h.eq_nil_of_same
  | @disturbToClient wire hdisturbs =>
    let s' := { s with replies := net.inbox ++ wire }
    have hstep : (client.exchange n).Step C s s' :=
      .disturbReplies (hs.replies ▸ hC _ _ _ hdisturbs)
    refine ⟨s', rank, .single hstep, ⟨hs.requests, hs.held, hs.printed, rfl, ?_⟩,
      fun hquiet => ?_, ?_⟩
    · exact hs.place.congr rfl rfl
    · exact absurd hdisturbs (hquiet _ _)
    · exact fun _ more h => hnothing h.eq_nil_of_same

/-- Every run of the network is one of the exchange. -/
theorem Net.Tracks.run (hC : C.Local) (hreach : (client.exchange n).Reaches C .initial s)
    (hs : net.Tracks client n s rank) (hrun : Net.Reaches C net net') :
    ∃ s' rank', (client.exchange n).Reaches C s s' ∧ net'.Tracks client n s' rank' := by
  induction hrun with
  | refl => exact ⟨s, rank, .refl, hs⟩
  | tail _ hlast ih =>
    obtain ⟨s', rank', hmore, hs'⟩ := ih
    have hreach' : (client.exchange n).Reaches C .initial s' := hreach.trans hmore
    obtain ⟨t, rank'', hnext, ht, -, -⟩ := hlast.simulated hC hs' hreach'.counted
    exact ⟨t, rank'', hmore.trans hnext, ht⟩

theorem Net.Reaches.tracked (hC : C.Local) (hrun : Net.Reaches C (Net.initial client n) net) :
    ∃ s rank, (client.exchange n).Reaches C .initial s ∧ net.Tracks client n s rank :=
  (Net.initial_tracks client n).run hC .refl hrun

/-- The iterations that a run has counted are those of the accepted requests. -/
theorem BurstClient.Runs.tracked (hC : C.Local) (hclient : client.Tells) {oks : List Nat}
    (h : client.Runs n C net oks) :
    ∃ s rank, (client.exchange n).Reaches C .initial s ∧ net.Tracks client n s rank ∧
      s.accepted = oks := by
  induction h with
  | start => exact ⟨.initial, 6 * n, .refl, Net.initial_tracks client n, rfl⟩
  | step _ hstep hcounts ih =>
    obtain ⟨s, rank, hreach, hs, rfl⟩ := ih
    obtain ⟨s', rank', hmore, hs', -, haccepted⟩ := hstep.simulated hC hs hreach.counted
    exact ⟨s', rank', hreach.trans hmore, hs', haccepted hclient _ hcounts⟩

/-! ## 5. How a burst ends -/

/-- A client that has ended has counted every iteration. -/
theorem Net.Tracks.describes (hs : net.Tracks client n s rank) {c : Summary}
    (hend : net.client = .ret c) : s.phase = .ready (n + 1) ∧ c.Describes s.accepted (n + 1) := by
  cases hs.place with
  | @head remaining i c' hi hc hphase hprogram =>
    rw [hend] at hprogram
    cases remaining with
    | zero =>
      cases hprogram
      obtain rfl : i = n + 1 := hi
      exact ⟨hphase, hc⟩
    | succ remaining => cases hprogram
  | select _ _ _ hprogram | recvfrom _ _ _ hprogram =>
    rw [hend] at hprogram
    cases hprogram

/-- When the wires do nothing on their own, every run ends. -/
theorem Net.Tracks.acc (hC : C.Quiet) (hreach : (client.exchange n).Reaches C .initial s)
    (hs : net.Tracks client n s rank) :
    Acc (fun after before => Net.Step C before after) net := by
  generalize hload : net.load rank = load
  induction load using Nat.strong_induction_on generalizing net s rank with
  | h load ih =>
    refine Acc.intro _ fun net' hstep => ?_
    obtain ⟨s', rank', hmore, hs', hless, -⟩ := hstep.simulated hC.isLocal hs hreach.counted
    exact ih _ (hload ▸ hless hC) (hreach.trans hmore) hs' rfl

/-- In calm, the datagram the client waits for is somewhere, and can move. -/
theorem Net.Tracks.ended_of_upToDate (hs : net.Tracks client n s rank)
    (hup : Exchange.UpToDate s) (hlast : ∀ net', ¬ Net.Step C net net') :
    ∃ c, net.client = .ret c := by
  -- neither the host nor a wire has anything left to do
  have hidle : net.host.data = none := by
    cases hdata : net.host.data with
    | none => rfl
    | some data => exact absurd (.hostSends hdata) (hlast _)
  have htoHost : net.toHost = [] := by
    cases htoHost : net.toHost with
    | nil => rfl
    | cons datagram rest => exact absurd (.hostReceives hidle htoHost) (hlast _)
  have htoClient : net.toClient = [] := by
    cases htoClient : net.toClient with
    | nil => rfl
    | cons datagram rest => exact absurd (.arrives htoClient) (hlast _)
  -- so the datagram that is under way has arrived
  have hinbox {i : Nat} (hphase : s.phase = .waiting i) : ∃ data rest, net.inbox = data :: rest := by
    have hone := hup.of_waiting hphase
    have hheld : s.held = [] := by
      have h := hs.held
      rw [hidle] at h
      exact List.map_eq_nil_iff.mp h
    rw [Exchange.State.underWay, hs.replies, hs.requests, hheld, htoHost, htoClient] at hone
    apply List.exists_cons_of_ne_nil
    intro hnil
    rw [hnil] at hone
    cases hone
  cases hs.place with
  | @head remaining i c hi hc hphase hprogram =>
    cases remaining with
    | zero => exact ⟨c, hprogram⟩
    | succ remaining =>
      rw [BurstClient.burstFrom_succ] at hprogram
      exact absurd (.sendto hprogram (le_refl 0)) (hlast _)
  | select hi hc hphase hprogram =>
    obtain ⟨data, rest, hinbox⟩ := hinbox hphase
    refine absurd (.select hprogram (show (0 : Int) < 1 by decide) ?_) (hlast _)
    rw [hinbox]
    exact List.cons_ne_nil _ _
  | recvfrom hi hc hphase hprogram =>
    obtain ⟨data, rest, hinbox⟩ := hinbox hphase
    exact absurd (.recvfrom hprogram hinbox) (hlast _)

end

/-! ## 6. What the counters tell -/

theorem UdpBurst.tells (burst : UdpBurst) : burst.client.Tells := by
  intro i j data hi hj
  cases burst with
  | ee =>
    have hpayload {k : Nat} (hk : udpBurstEe.isEcho k data = true) : data = udpPayloadEe k := by
      simpa [udpBurstEe] using (Bool.and_eq_true_iff.mp hk).2
    exact udpPayloadEe_inj ((hpayload hi).symm.trans (hpayload hj))
  | py =>
    have htext {k : Nat} (hk : udpBurstPy.isEcho k data = true) : data = pingText k :=
      of_decide_eq_true hk
    exact pingText_inj ((htext hi).symm.trans (htext hj))

section

variable (burst : UdpBurst) {n : Nat} (hn : n < 2 ^ 31 - 1) {net : Net}

include hn

theorem UdpBurst.message_fits {i : Nat} (hi : i ≤ n) :
    (burst.client.message i).take 1024 = burst.client.message i := by
  apply List.take_of_length_le
  cases burst with
  | ee =>
    have h : (udpPayloadEe i).length = 80 := udpPayloadEe_length ((hi.trans_lt hn).trans_le (by decide))
    show (udpPayloadEe i).length ≤ 1024
    omega
  | py =>
    have h := pingText_length_le ((hi.trans_lt hn).trans_le (by decide))
    show (pingText i).length ≤ 1024
    omega

/-- However datagrams are lost, repeated and reordered: when the client ends, the iterations that
were counted as `ok` on the way are some of `1`, …, `n` whose own datagram the server has printed;
the others are counted as `fail`, and `first_fail` is the first of them. -/
theorem udpBurst_ok_echoed (hrun : Net.Reaches .stormy (Net.initial burst.client n) net)
    {c : Summary} (hend : net.client = .ret c) :
    (∃ oks, burst.client.Runs n .stormy net oks) ∧
      ∀ oks, burst.client.Runs n .stormy net oks →
        oks.Pairwise (· < ·) ∧ c.Describes oks (n + 1) ∧
          ∀ i ∈ oks, 0 < i ∧ i ≤ n ∧ burst.client.message i ∈ net.host.printed := by
  refine ⟨hrun.runs, fun oks hruns => ?_⟩
  obtain ⟨s, rank, hreach, hs, rfl⟩ :=
    hruns.tracked Exchange.Conditions.stormy_local burst.tells
  have hcounted := hreach.counted
  have hgenuine := hreach.genuine (burst.distinguishes hn) Exchange.Conditions.stormy_faithful
  obtain ⟨hphase, hdescribes⟩ := hs.describes hend
  refine ⟨hcounted.accepted_sorted, hdescribes, fun i hi => ?_⟩
  have hbounds := hcounted.accepted_bounds i hi
  rw [hphase] at hbounds
  have hin : i ≤ n := Nat.lt_succ_iff.mp hbounds.2
  refine ⟨hbounds.1, hin, ?_⟩
  rw [← burst.message_fits hn hin, ← hs.printed]
  exact List.mem_map_of_mem (hgenuine.accepted i hi)

end

/-- Of three datagrams of the EE the second is lost. -/
theorem udpBurst_ok_echoed_lost : ∃ net oks,
    Net.Reaches .stormy (Net.initial UdpBurst.ee.client 3) net ∧
      net.client = .ret ⟨2, 1, some 2⟩ ∧ UdpBurst.ee.client.Runs 3 .stormy net oks ∧
      Summary.Describes ⟨2, 1, some 2⟩ oks 4 ∧
      ∀ i ∈ oks, 0 < i ∧ i ≤ 3 ∧ UdpBurst.ee.client.message i ∈ net.host.printed := by
  have hfirst : udpBurstEe.isEcho 1 (((udpPayloadEe 1).take 1024).take 255) = true := by
    decide +kernel
  have hthird : udpBurstEe.isEcho 3 (((udpPayloadEe 3).take 1024).take 255) = true := by
    decide +kernel
  have hrun : ∃ net, Net.Reaches .stormy (Net.initial UdpBurst.ee.client 3) net ∧
      net.client = .ret ⟨2, 1, some 2⟩ := by
    refine ⟨_, .head (.sendto rfl (le_refl 0)) (.head (.hostReceives rfl rfl) (.head (.hostSends rfl)
      (.head (.arrives rfl) (.head (.select rfl Int.one_pos (List.cons_ne_nil _ _))
      (.head (.recvfrom rfl rfl) (.head (.sendto rfl (le_refl 0))
      (.head (.disturbToHost (List.nil_subset _)) (.head (.selectFails trivial rfl (le_refl 0))
      (.head (.sendto rfl (le_refl 0)) (.head (.hostReceives rfl rfl) (.head (.hostSends rfl)
      (.head (.arrives rfl) (.head (.select rfl Int.one_pos (List.cons_ne_nil _ _))
      (.head (.recvfrom rfl rfl) .refl)))))))))))))), ?_⟩
    show Program.ret (((Summary.count ⟨0, 0, none⟩ 1
      (udpBurstEe.isEcho 1 (((udpPayloadEe 1).take 1024).take 255))).count 2 false).count 3
      (udpBurstEe.isEcho 3 (((udpPayloadEe 3).take 1024).take 255))) = _
    rw [hfirst, hthird]
    rfl
  obtain ⟨net, hrun, hend⟩ := hrun
  obtain ⟨⟨oks, hruns⟩, hall⟩ := udpBurst_ok_echoed .ee (by decide) hrun hend
  exact ⟨net, oks, hrun, hend, hruns, (hall oks hruns).2⟩

section

variable (burst : UdpBurst) {n : Nat} (hn : n < 2 ^ 31 - 1) {net : Net}

include hn

/-- Where everything arrives in time, every run ends, and when nothing is left to do, the client has
counted every iteration as `ok`. -/
theorem udpBurst_calm_succeeds :
    Acc (fun after before => Net.Step .calm before after) (Net.initial burst.client n) ∧
      ∀ net, Net.Reaches .calm (Net.initial burst.client n) net →
        (∀ net', ¬ Net.Step .calm net net') → net.client = .ret ⟨n, 0, none⟩ := by
  refine ⟨(Net.initial_tracks burst.client n).acc Exchange.Conditions.calm_quiet .refl,
    fun net hrun hlast => ?_⟩
  obtain ⟨s, rank, hreach, hs⟩ := hrun.tracked Exchange.Conditions.calm_quiet.isLocal
  have hup : Exchange.UpToDate s := hreach.upToDate (burst.answers hn)
  obtain ⟨⟨ok, fail, firstFail⟩, hend⟩ := hs.ended_of_upToDate hup hlast
  obtain ⟨hphase, hok, htotal, hfirst⟩ := hs.describes hend
  have haccepted := hup.accepted
  rw [hphase] at haccepted
  change s.accepted = List.range' 1 n at haccepted
  change ok = s.accepted.length at hok
  change ok + fail + 1 = n + 1 at htotal
  change firstFail = (List.range' 1 n).find? _ at hfirst
  rw [haccepted, List.length_range'] at hok
  have hfail : fail = 0 := by omega
  have hnone : firstFail = none := by
    rw [hfirst, haccepted, List.find?_eq_none]
    intro j hj
    simp [hj]
  rw [hend, hok, hfail, hnone]

end

theorem udpBurst_calm_succeeds_ee :
    Acc (fun after before => Net.Step .calm before after) (Net.initial udpBurstEe 100) ∧
      ∀ net, Net.Reaches .calm (Net.initial udpBurstEe 100) net →
        (∀ net', ¬ Net.Step .calm net net') → net.client = .ret ⟨100, 0, none⟩ :=
  udpBurst_calm_succeeds .ee (by decide)

/-- A datagram is somewhere between the client and the server. -/
def Net.underWay (net : Net) : Nat :=
  net.toHost.length + net.host.data.toList.length + net.toClient.length + net.inbox.length

theorem Net.Tracks.underWay {client : BurstClient} {n : Nat} {net : Net}
    {s : Exchange.State Bytes} {rank : Nat} (hs : net.Tracks client n s rank) :
    s.underWay = net.underWay := by
  have hheld := congrArg List.length hs.held
  rw [List.length_map] at hheld
  rw [Exchange.State.underWay, Net.underWay, hs.replies, hs.requests, hheld, List.length_append]
  omega

section

variable (burst : UdpBurst) {n : Nat} (hn : n < 2 ^ 31 - 1) {net net' : Net}

include hn

/-- On wires that keep everything and its order: once the client begins an iteration while a
datagram of an earlier one is still under way, that iteration and all later ones fail, although
each of them is answered. -/
theorem udpBurst_late_reply (hrun : Net.Reaches .orderly (Net.initial burst.client n) net)
    {remaining i : Nat} {c : Summary}
    (hhead : net.client = burst.client.burstFrom remaining i c) (hlate : net.underWay ≠ 0)
    (hmore : Net.Reaches .orderly net net') {c' : Summary} (hend : net'.client = .ret c') :
    c'.ok = c.ok ∧ c'.fail = c.fail + remaining := by
  obtain ⟨s, rank, hreach, hs⟩ := hrun.tracked Exchange.Conditions.orderly_quiet.isLocal
  obtain ⟨s', rank', hreach', hs'⟩ := hs.run Exchange.Conditions.orderly_quiet.isLocal hreach hmore
  obtain ⟨k, j, d, hj, hd, hphase, hprogram⟩ := hs.place.of_burstFrom hhead
  obtain ⟨hok, hfail⟩ := BurstClient.burstFrom_inj (hhead.symm.trans hprogram)
  have hbehind : s.behind := by
    rw [Exchange.State.behind, hphase, hs.underWay]
    exact Nat.pos_iff_ne_zero.mpr hlate
  have haccepted : s'.accepted = s.accepted := hreach.accepted_of_behind (burst.distinguishes hn)
    Exchange.Conditions.orderly_quiet hbehind hreach'
  obtain ⟨-, hdescribes⟩ := hs'.describes hend
  have hok' := hdescribes.ok
  have htotal' := hdescribes.total
  have hdok := hd.ok
  have hdtotal := hd.total
  rw [haccepted] at hok'
  omega

end

/-- The first answer comes while the client waits for the second. -/
theorem udpBurst_late_reply_second : ∃ net net' c',
    Net.Reaches .orderly (Net.initial UdpBurst.py.client 2) net ∧
      net.client = UdpBurst.py.client.burstFrom 1 2 ⟨0, 1, some 1⟩ ∧ net.underWay ≠ 0 ∧
      Net.Reaches .orderly net net' ∧ net'.client = .ret c' ∧ c'.ok = 0 ∧ c'.fail = 2 := by
  have hrun : ∃ net, Net.Reaches .orderly (Net.initial UdpBurst.py.client 2) net ∧
      net.client = UdpBurst.py.client.burstFrom 1 2 ⟨0, 1, some 1⟩ ∧ net.underWay ≠ 0 ∧
      ∃ net' c', Net.Reaches .orderly net net' ∧ net'.client = .ret c' := by
    refine ⟨_, .head (.sendto rfl (le_refl 0)) (.head (.recvfromFails trivial rfl) .refl), rfl,
      by decide, _, _, .head (.hostReceives rfl rfl) (.head (.hostSends rfl) (.head (.arrives rfl)
        (.head (.sendto rfl (le_refl 0)) (.head (.recvfrom rfl rfl) .refl)))), rfl⟩
  obtain ⟨net, hrun, hhead, hlate, net', c', hmore, hend⟩ := hrun
  have h := udpBurst_late_reply .py (by decide) hrun hhead hlate hmore hend
  exact ⟨net, net', c', hrun, hhead, hlate, hmore, hend, h.1, h.2⟩

end Ps2Drivers
