import Mathlib.Data.List.Basic
import Mathlib.Data.List.Range
import Mathlib.Logic.Relation

/-!
# Numbered requests over datagrams

A client sends one request after another and takes the first datagram that arrives for the answer;
it goes on to the next request also where nothing was sent or nothing came.  A server sends back
what it receives.  What happens to the datagrams under way is a parameter.  On wires that lose,
repeat and reorder, no answer is taken for that of another request; on wires that do none of this,
a client that is behind stays behind.
-/

/-- The requests `1`, …, `count`, what the server makes of one, and the datagrams the client accepts
as the answer to its request `i`. -/
structure Exchange (α : Type) where
  count : Nat
  request : Nat → α
  echo : α → α
  accepts : Nat → α → Bool

namespace Exchange

/-! ## 1. Runs -/

/-- What the wires may do on their own, and whether calls may fail and answers may be given up. -/
structure Conditions (α : Type) where
  disturbs : List α → List α → Prop
  fails : Prop

namespace Conditions

variable {α : Type}

def stormy : Conditions α := ⟨fun wire wire' => wire' ⊆ wire, True⟩

/-- What is sent arrives, once and in order, if perhaps too late. -/
def orderly : Conditions α := ⟨fun _ _ => False, True⟩

def calm : Conditions α := ⟨fun _ _ => False, False⟩

/-- What a wire does to the datagrams on it, it may do whatever has arrived before. -/
def Local (C : Conditions α) : Prop :=
  ∀ arrived wire wire', C.disturbs wire wire' → C.disturbs (arrived ++ wire) (arrived ++ wire')

theorem stormy_local : (stormy : Conditions α).Local := by
  intro arrived wire wire' h
  exact List.append_subset.mpr
    ⟨List.subset_append_left _ _, List.Subset.trans h (List.subset_append_right _ _)⟩

def Quiet (C : Conditions α) : Prop := ∀ wire wire', ¬ C.disturbs wire wire'

theorem orderly_quiet : (orderly : Conditions α).Quiet := fun _ _ => id

theorem calm_quiet : (calm : Conditions α).Quiet := fun _ _ => id

theorem Quiet.isLocal {C : Conditions α} (h : C.Quiet) : C.Local :=
  fun _ wire wire' hdisturbs => absurd hdisturbs (h wire wire')

end Conditions

/-- The client is about to send the request `i`, or waits for the answer. -/
inductive Phase
  | ready (i : Nat)
  | waiting (i : Nat)
  deriving DecidableEq, Repr

/-- The datagrams under way in each direction and in the server, oldest first; what the server has
received, and the requests whose answers the client has accepted. -/
structure State (α : Type) where
  phase : Phase
  requests : List α
  held : List α
  replies : List α
  received : List α
  accepted : List Nat
  deriving DecidableEq, Repr

def State.initial {α : Type} : State α := ⟨.ready 1, [], [], [], [], []⟩

variable {α : Type} (E : Exchange α) (C : Conditions α)

inductive Step : State α → State α → Prop
  | send {s : State α} {i : Nat} (hi : i ≤ E.count) (h : s.phase = .ready i) :
    Step s { s with phase := .waiting i, requests := s.requests ++ [E.request i] }
  | skip {s : State α} {i : Nat} (hi : i ≤ E.count) (hfails : C.fails) (h : s.phase = .ready i) :
    Step s { s with phase := .ready (i + 1) }
  | giveUp {s : State α} {i : Nat} (hfails : C.fails) (h : s.phase = .waiting i) :
    Step s { s with phase := .ready (i + 1) }
  | take {s : State α} {i : Nat} {m : α} {rest : List α} (h : s.phase = .waiting i)
      (hreplies : s.replies = m :: rest) :
    Step s { s with
      phase := .ready (i + 1)
      replies := rest
      accepted := if E.accepts i m then s.accepted ++ [i] else s.accepted }
  | receive {s : State α} {m : α} {rest : List α} (hrequests : s.requests = m :: rest) :
    Step s { s with requests := rest, held := s.held ++ [m], received := s.received ++ [m] }
  | reply {s : State α} {m : α} {rest : List α} (hheld : s.held = m :: rest) :
    Step s { s with held := rest, replies := s.replies ++ [E.echo m] }
  | disturbRequests {s : State α} {wire : List α} (h : C.disturbs s.requests wire) :
    Step s { s with requests := wire }
  | disturbReplies {s : State α} {wire : List α} (h : C.disturbs s.replies wire) :
    Step s { s with replies := wire }

abbrev Reaches : State α → State α → Prop := Relation.ReflTransGen (E.Step C)

variable {E C}

/-- What every step keeps holds along every run. -/
theorem Reaches.keeps {P : State α → Prop} (hstep : ∀ s s', P s → E.Step C s s' → P s')
    {s s' : State α} (hrun : E.Reaches C s s') (hs : P s) : P s' := by
  induction hrun with
  | refl => exact hs
  | tail _ hlast ih => exact hstep _ _ ih hlast

/-! ## 2. Accepted answers are genuine -/

/-- Only the answer to the request `i` itself is accepted as one. -/
def Distinguishes (E : Exchange α) : Prop :=
  ∀ i j, i ≤ E.count → j ≤ E.count → E.accepts i (E.echo (E.request j)) = true → j = i

def Conditions.Faithful (C : Conditions α) : Prop :=
  ∀ wire wire', C.disturbs wire wire' → wire' ⊆ wire

theorem Conditions.stormy_faithful : (stormy : Conditions α).Faithful := fun _ _ h => h

/-- Everything under way is a request or an echo of one the server has received. -/
structure Genuine (E : Exchange α) (s : State α) : Prop where
  current : ∀ i, s.phase = .waiting i → i ≤ E.count
  requests : ∀ m ∈ s.requests, ∃ j ≤ E.count, m = E.request j
  held : ∀ m ∈ s.held, m ∈ s.received
  replies : ∀ m ∈ s.replies, ∃ d ∈ s.received, m = E.echo d
  received : ∀ m ∈ s.received, ∃ j ≤ E.count, m = E.request j
  accepted : ∀ i ∈ s.accepted, E.request i ∈ s.received

theorem initial_genuine : E.Genuine (State.initial : State α) := by
  constructor <;> intro m hm <;> cases hm

/-- Going on to the next request changes nothing that is under way. -/
theorem Genuine.next {s : State α} (hs : E.Genuine s) (i : Nat) :
    E.Genuine { s with phase := .ready i } :=
  ⟨nofun, hs.requests, hs.held, hs.replies, hs.received, hs.accepted⟩

theorem Step.genuine (hE : E.Distinguishes) (hC : C.Faithful) {s s' : State α}
    (hs : E.Genuine s) (h : E.Step C s s') : E.Genuine s' := by
  cases h with
  | @send i hi _ =>
    refine { hs with
      current := fun i' hi' => Phase.waiting.inj hi' ▸ hi
      requests := fun m hm => ?_ }
    rcases List.mem_append.mp hm with hm | hm
    · exact hs.requests m hm
    · exact ⟨i, hi, List.mem_singleton.mp hm⟩
  | skip | giveUp => exact hs.next _
  | @take i m rest hphase hreplies =>
    refine { hs.next (i + 1) with
      replies := fun m' hm' => hs.replies m' (by rw [hreplies]; exact List.mem_cons_of_mem _ hm')
      accepted := fun i' hi' => ?_ }
    change i' ∈ if E.accepts i m then s.accepted ++ [i] else s.accepted at hi'
    cases haccepts : E.accepts i m with
    | false =>
      rw [haccepts] at hi'
      exact hs.accepted i' hi'
    | true =>
      rw [haccepts, if_pos rfl] at hi'
      rcases List.mem_append.mp hi' with hi' | hi'
      · exact hs.accepted i' hi'
      · -- the datagram is the echo of a request, which can only be the request `i`
        obtain ⟨d, hd, rfl⟩ := hs.replies m (by rw [hreplies]; exact List.mem_cons_self)
        obtain ⟨j, hj, rfl⟩ := hs.received d hd
        rw [List.mem_singleton.mp hi', ← hE i j (hs.current i hphase) hj haccepts]
        exact hd
  | @receive m rest hrequests =>
    have hm : m ∈ s.requests := by rw [hrequests]; exact List.mem_cons_self
    refine ⟨hs.current, fun m' hm' => hs.requests m' ?_, fun m' hm' => ?_, fun m' hm' => ?_,
      fun m' hm' => ?_, fun i hi => List.mem_append_left _ (hs.accepted i hi)⟩
    · rw [hrequests]
      exact List.mem_cons_of_mem _ hm'
    · rcases List.mem_append.mp hm' with hm' | hm'
      · exact List.mem_append_left _ (hs.held m' hm')
      · exact List.mem_append_right _ hm'
    · obtain ⟨d, hd, heq⟩ := hs.replies m' hm'
      exact ⟨d, List.mem_append_left _ hd, heq⟩
    · rcases List.mem_append.mp hm' with hm' | hm'
      · exact hs.received m' hm'
      · rw [List.mem_singleton.mp hm']
        exact hs.requests m hm
  | @reply m rest hheld =>
    refine { hs with
      held := fun m' hm' => hs.held m' (by rw [hheld]; exact List.mem_cons_of_mem _ hm')
      replies := fun m' hm' => ?_ }
    rcases List.mem_append.mp hm' with hm' | hm'
    · exact hs.replies m' hm'
    · exact ⟨m, hs.held m (by rw [hheld]; exact List.mem_cons_self), List.mem_singleton.mp hm'⟩
  | disturbRequests hdisturbs =>
    exact { hs with requests := fun m hm => hs.requests m (hC _ _ hdisturbs hm) }
  | disturbReplies hdisturbs =>
    exact { hs with replies := fun m hm => hs.replies m (hC _ _ hdisturbs hm) }

theorem Reaches.genuine (hE : E.Distinguishes) (hC : C.Faithful) {s : State α}
    (hrun : E.Reaches C .initial s) : E.Genuine s :=
  hrun.keeps (fun _ _ => Step.genuine hE hC) initial_genuine

/-! ## 3. The client counts every request once -/

def Phase.number : Phase → Nat
  | ready i | waiting i => i

structure Counted (s : State α) : Prop where
  number_pos : 0 < s.phase.number
  accepted_sorted : s.accepted.Pairwise (· < ·)
  accepted_bounds : ∀ i ∈ s.accepted, 0 < i ∧ i < s.phase.number

theorem initial_counted : Counted (State.initial : State α) :=
  ⟨Nat.one_pos, List.Pairwise.nil, fun i hi => by cases hi⟩

/-- The client goes on to the next request and accepts no answer. -/
theorem Counted.next {s s' : State α} (hs : Counted s)
    (hphase : s'.phase = .ready (s.phase.number + 1)) (haccepted : s'.accepted = s.accepted) :
    Counted s' := by
  refine ⟨?_, ?_, fun i hi => ?_⟩
  · rw [hphase]
    exact Nat.succ_pos _
  · rw [haccepted]
    exact hs.accepted_sorted
  · rw [haccepted] at hi
    rw [hphase]
    have h := hs.accepted_bounds i hi
    exact ⟨h.1, Nat.lt_succ_of_lt h.2⟩

theorem Step.counted {s s' : State α} (hs : Counted s) (h : E.Step C s s') : Counted s' := by
  cases h with
  | send _ hphase =>
    have hnumber : s.phase.number = _ := congrArg Phase.number hphase
    refine ⟨?_, hs.accepted_sorted, fun i hi => ?_⟩
    · exact hnumber ▸ hs.number_pos
    · exact hnumber ▸ hs.accepted_bounds i hi
  | skip _ _ hphase | giveUp _ hphase => exact hs.next (by rw [hphase]; rfl) rfl
  | @take i m _ hphase _ =>
    have hnumber : s.phase.number = i := congrArg Phase.number hphase
    cases haccepts : E.accepts i m with
    | false => exact hs.next (by rw [hnumber]) rfl
    | true =>
      have hbounds : ∀ j ∈ s.accepted, 0 < j ∧ j < i := hnumber ▸ hs.accepted_bounds
      have hpos : 0 < i := hnumber ▸ hs.number_pos
      refine ⟨Nat.succ_pos i, ?_, fun j hj => ?_⟩
      · -- what was accepted before belongs to an earlier request
        show (s.accepted ++ [i]).Pairwise (· < ·)
        rw [List.pairwise_append]
        refine ⟨hs.accepted_sorted, List.pairwise_singleton _ _, fun j hj k hk => ?_⟩
        rw [List.mem_singleton.mp hk]
        exact (hbounds j hj).2
      · change j ∈ s.accepted ++ [i] at hj
        show 0 < j ∧ j < i + 1
        rcases List.mem_append.mp hj with hj | hj
        · have h := hbounds j hj
          omega
        · have h := List.mem_singleton.mp hj
          omega
  | receive | reply | disturbRequests | disturbReplies =>
    exact ⟨hs.number_pos, hs.accepted_sorted, hs.accepted_bounds⟩

theorem Reaches.counted {s : State α} (hrun : E.Reaches C .initial s) : Counted s :=
  hrun.keeps (fun _ _ => Step.counted) initial_counted

/-! ## 4. Orderly wires -/

def State.underWay (s : State α) : Nat := s.replies.length + s.held.length + s.requests.length

def State.behind (s : State α) : Prop :=
  match s.phase with
  | .ready _ => 0 < s.underWay
  | .waiting _ => 1 < s.underWay

/-- What is under way belongs to the requests `pending`, oldest first; the last of them is the one
the client waits for. -/
structure InOrder (E : Exchange α) (pending : List Nat) (s : State α) : Prop where
  underWay : s.replies ++ (s.held ++ s.requests).map E.echo =
    pending.map fun j => E.echo (E.request j)
  inRange : ∀ j ∈ pending, j ≤ E.count
  owed : match s.phase with
    | .ready i => ∀ j ∈ pending, j < i
    | .waiting i => ∃ old, pending = old ++ [i] ∧ ∀ j ∈ old, j < i

theorem initial_inOrder : E.InOrder [] (State.initial : State α) :=
  ⟨rfl, nofun, nofun⟩

theorem InOrder.length_eq {pending : List Nat} {s : State α} (h : E.InOrder pending s) :
    pending.length = s.underWay := by
  have hlength := congrArg List.length h.underWay
  simp only [List.length_append, List.length_map] at hlength
  rw [State.underWay]
  omega

theorem InOrder.of_ready {pending : List Nat} {s : State α} (h : E.InOrder pending s) {i : Nat}
    (hphase : s.phase = .ready i) : ∀ j ∈ pending, j < i := by
  have howed := h.owed
  rw [hphase] at howed
  exact howed

theorem InOrder.of_waiting {pending : List Nat} {s : State α} (h : E.InOrder pending s) {i : Nat}
    (hphase : s.phase = .waiting i) : ∃ old, pending = old ++ [i] ∧ ∀ j ∈ old, j < i := by
  have howed := h.owed
  rw [hphase] at howed
  exact howed

theorem InOrder.lt_of_waiting {pending : List Nat} {s : State α} (h : E.InOrder pending s)
    {i : Nat} (hphase : s.phase = .waiting i) : ∀ j ∈ pending, j < i + 1 := by
  obtain ⟨old, rfl, hold⟩ := h.of_waiting hphase
  intro j hj
  rcases List.mem_append.mp hj with hj | hj
  · exact Nat.lt_succ_of_lt (hold j hj)
  · rw [List.mem_singleton.mp hj]
    exact Nat.lt_succ_self i

/-- What a step does to the pending requests: it adds the one that is sent, or removes the oldest
with the datagram that is taken. -/
theorem Step.inOrder (hC : C.Quiet) {pending : List Nat} {s s' : State α}
    (hs : E.InOrder pending s) (h : E.Step C s s') : ∃ pending', E.InOrder pending' s' := by
  cases h with
  | @send i hi hphase =>
    refine ⟨pending ++ [i], ?_, fun j hj => ?_, pending, rfl, hs.of_ready hphase⟩
    case refine_2 =>
      rcases List.mem_append.mp hj with hj | hj
      · exact hs.inRange j hj
      · exact List.mem_singleton.mp hj ▸ hi
    show s.replies ++ (s.held ++ (s.requests ++ [E.request i])).map E.echo = _
    rw [List.map_append (f := fun j => E.echo (E.request j)), ← hs.underWay]
    simp
  | skip _ _ hphase =>
    have howed := hs.of_ready hphase
    exact ⟨pending, hs.underWay, hs.inRange, fun j hj => Nat.lt_succ_of_lt (howed j hj)⟩
  | giveUp _ hphase => exact ⟨pending, hs.underWay, hs.inRange, hs.lt_of_waiting hphase⟩
  | @take i m rest hphase hreplies =>
    have hunderWay := hs.underWay
    have howed := hs.lt_of_waiting hphase
    rw [hreplies] at hunderWay
    -- the datagram that is taken answers the oldest of the pending requests
    cases pending with
    | nil => cases hunderWay
    | cons j pending =>
      have htail := (List.cons.inj hunderWay).2
      refine ⟨pending, htail, fun k hk => ?_, fun k hk => howed k (List.mem_cons_of_mem _ hk)⟩
      exact hs.inRange k (List.mem_cons_of_mem _ hk)
  -- the host only moves a datagram on: the queue as a whole stays
  | @receive m rest hrequests =>
    refine ⟨pending, ?_, hs.inRange, hs.owed⟩
    rw [← hs.underWay, hrequests]
    simp
  | @reply m rest hheld =>
    refine ⟨pending, ?_, hs.inRange, hs.owed⟩
    rw [← hs.underWay, hheld]
    simp
  | disturbRequests hdisturbs | disturbReplies hdisturbs => exact absurd hdisturbs (hC _ _)

theorem Reaches.inOrder (hC : C.Quiet) {s : State α} (hrun : E.Reaches C State.initial s) :
    ∃ pending, E.InOrder pending s := by
  apply Reaches.keeps _ hrun ⟨[], initial_inOrder⟩
  intro s s' hs h
  obtain ⟨pending, hs⟩ := hs
  exact h.inOrder hC hs

theorem State.behind.of_eq {s s' : State α} (h : s.behind) (hphase : s'.phase = s.phase)
    (hunderWay : s'.underWay = s.underWay) : s'.behind := by
  rw [State.behind, hphase, hunderWay]
  exact h

/-- A client that is behind takes the answer to an earlier request, and is behind again. -/
theorem Step.behind (hE : E.Distinguishes) (hC : C.Quiet) {pending : List Nat} {s s' : State α}
    (hs : E.InOrder pending s) (hbehind : s.behind) (h : E.Step C s s') :
    s'.behind ∧ s'.accepted = s.accepted := by
  cases h with
  | send _ hphase =>
    rw [State.behind, hphase] at hbehind
    refine ⟨?_, rfl⟩
    show 1 < State.underWay _
    simp only [State.underWay, List.length_append, List.length_singleton] at hbehind ⊢
    omega
  | skip _ _ hphase =>
    rw [State.behind, hphase] at hbehind
    exact ⟨hbehind, rfl⟩
  | giveUp _ hphase =>
    rw [State.behind, hphase] at hbehind
    exact ⟨Nat.zero_lt_of_lt hbehind, rfl⟩
  | @take i m rest hphase hreplies =>
    rw [State.behind, hphase] at hbehind
    obtain ⟨old, hpending, hold⟩ := hs.of_waiting hphase
    have hlength := hs.length_eq
    have hunderWay := hs.underWay
    rw [hreplies, hpending] at hunderWay
    cases old with
    | nil =>
      rw [hpending] at hlength
      simp at hlength
      omega
    | cons j old =>
      -- the oldest datagram answers the request `j`
      have hm : m = E.echo (E.request j) := (List.cons.inj hunderWay).1
      have hreject : ¬ E.accepts i m = true := by
        intro haccepts
        rw [hm] at haccepts
        have hrange := hs.inRange
        rw [hpending] at hrange
        have hi : i ≤ E.count := hrange i (by simp)
        have hj : j < i := hold j List.mem_cons_self
        have h := hE i j hi (hj.le.trans hi) haccepts
        omega
      refine ⟨?_, if_neg hreject⟩
      show 0 < State.underWay _
      simp only [State.underWay, hreplies, List.length_cons] at hbehind ⊢
      omega
  | receive hrequests =>
    refine ⟨hbehind.of_eq rfl ?_, rfl⟩
    simp only [State.underWay, hrequests, List.length_append, List.length_cons, List.length_nil]
    omega
  | reply hheld =>
    refine ⟨hbehind.of_eq rfl ?_, rfl⟩
    simp only [State.underWay, hheld, List.length_append, List.length_cons, List.length_nil]
    omega
  | disturbRequests hdisturbs | disturbReplies hdisturbs => exact absurd hdisturbs (hC _ _)

/-- Behind once, the client accepts nothing more. -/
theorem Reaches.accepted_of_behind (hE : E.Distinguishes) (hC : C.Quiet) {s s' : State α}
    (hs : E.Reaches C State.initial s) (hbehind : s.behind) (hrun : E.Reaches C s s') :
    s'.accepted = s.accepted := by
  have h : s'.behind ∧ s'.accepted = s.accepted := by
    induction hrun with
    | refl => exact ⟨hbehind, rfl⟩
    | @tail t t' hbefore hlast ih =>
      obtain ⟨pending, hpending⟩ := Reaches.inOrder hC (hs.trans hbefore)
      have hnext := hlast.behind hE hC hpending ih.1
      exact ⟨hnext.1, hnext.2.trans ih.2⟩
  exact h.2

/-! ## 5. Calm -/

def Answers (E : Exchange α) : Prop :=
  ∀ i, i ≤ E.count → E.accepts i (E.echo (E.request i)) = true

/-- Every request so far was answered, and nothing is under way but the current one. -/
structure UpToDate (s : State α) : Prop where
  number_pos : 0 < s.phase.number
  accepted : s.accepted = List.range' 1 (s.phase.number - 1)
  underWay : match s.phase with
    | .ready _ => s.underWay = 0
    | .waiting _ => s.underWay = 1

theorem initial_upToDate : UpToDate (State.initial : State α) := ⟨Nat.one_pos, rfl, rfl⟩

theorem UpToDate.of_ready {s : State α} (h : UpToDate s) {i : Nat} (hphase : s.phase = .ready i) :
    s.underWay = 0 := by
  have hunderWay := h.underWay
  rw [hphase] at hunderWay
  exact hunderWay

theorem UpToDate.of_waiting {s : State α} (h : UpToDate s) {i : Nat}
    (hphase : s.phase = .waiting i) : s.underWay = 1 := by
  have hunderWay := h.underWay
  rw [hphase] at hunderWay
  exact hunderWay

theorem UpToDate.of_eq {s s' : State α} (h : UpToDate s) (hphase : s'.phase = s.phase)
    (haccepted : s'.accepted = s.accepted) (hunderWay : s'.underWay = s.underWay) :
    UpToDate s' := by
  refine ⟨?_, ?_, ?_⟩
  · rw [hphase]
    exact h.number_pos
  · rw [hphase, haccepted]
    exact h.accepted
  · rw [hphase, hunderWay]
    exact h.underWay

theorem Step.upToDate (hE : E.Answers) {pending : List Nat} {s s' : State α}
    (hs : E.InOrder pending s) (hup : UpToDate s) (h : E.Step .calm s s') : UpToDate s' := by
  cases h with
  | @send i _ hphase =>
    have hnumber : s.phase.number = i := congrArg Phase.number hphase
    have hunderWay := hup.of_ready hphase
    refine ⟨hnumber ▸ hup.number_pos, hnumber ▸ hup.accepted, ?_⟩
    show State.underWay _ = 1
    simp only [State.underWay, List.length_append, List.length_singleton] at hunderWay ⊢
    omega
  | skip _ hfails => exact hfails.elim
  | giveUp hfails => exact hfails.elim
  | @take i m rest hphase hreplies =>
    have hnumber : s.phase.number = i := congrArg Phase.number hphase
    have hone := hup.of_waiting hphase
    have hlength := hs.length_eq
    have hunderWay := hs.underWay
    have hrange := hs.inRange
    obtain ⟨old, rfl, -⟩ := hs.of_waiting hphase
    have hi : i ≤ E.count := hrange i (by simp)
    -- the only datagram under way answers the request `i`
    have hold : old = [] := by
      rw [List.length_append, List.length_singleton] at hlength
      exact List.length_eq_zero_iff.mp (by omega)
    rw [hreplies, hold] at hunderWay
    have hm : m = E.echo (E.request i) := (List.cons.inj hunderWay).1
    have hpos := hup.number_pos
    refine ⟨Nat.succ_pos i, ?_, ?_⟩
    · show (if E.accepts i m then s.accepted ++ [i] else s.accepted) = List.range' 1 i
      rw [if_pos (hm ▸ hE i hi), hup.accepted, hnumber]
      rw [hnumber] at hpos
      obtain ⟨k, rfl⟩ := Nat.exists_eq_succ_of_ne_zero (Nat.pos_iff_ne_zero.mp hpos)
      simp [List.range'_concat, Nat.add_comm]
    · show State.underWay _ = 0
      simp only [State.underWay, hreplies, List.length_cons] at hone ⊢
      omega
  | receive hrequests =>
    refine hup.of_eq rfl rfl ?_
    simp only [State.underWay, hrequests, List.length_append, List.length_cons, List.length_nil]
    omega
  | reply hheld =>
    refine hup.of_eq rfl rfl ?_
    simp only [State.underWay, hheld, List.length_append, List.length_cons, List.length_nil]
    omega
  | disturbRequests hdisturbs | disturbReplies hdisturbs =>
    exact absurd hdisturbs (Conditions.calm_quiet _ _)

theorem Reaches.upToDate (hE : E.Answers) {s : State α}
    (hrun : E.Reaches .calm State.initial s) : UpToDate s := by
  induction hrun with
  | refl => exact initial_upToDate
  | @tail t t' hbefore hlast ih =>
    obtain ⟨pending, hpending⟩ := Reaches.inOrder Conditions.calm_quiet hbefore
    exact hlast.upToDate hE hpending ih

end Exchange
