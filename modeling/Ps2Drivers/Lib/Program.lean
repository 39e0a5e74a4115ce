/-!
# Programs that call an environment

A program returns a value or makes a call and continues with the answer.  What a call does is
left to a handler, so one program can be run against several environments.  The rules of this
file go through a program call by call: `run_keeps` for what every call preserves, `Triple` for
what a program establishes, `run_simulates` for two handlers that cannot be told apart.
-/

structure Interface where
  Op : Type
  Answer : Op → Type

inductive Program (I : Interface) (α : Type)
  | ret (a : α)
  | call (op : I.Op) (next : I.Answer op → Program I α)

/-- What each call answers and does to the state; `none` is a call that never comes back. -/
abbrev Handler (I : Interface) (σ : Type) := (op : I.Op) → σ → Option (I.Answer op × σ)

namespace Program

variable {I : Interface} {α β σ τ : Type}

/-! ## 1. Composition and execution -/

def bind : Program I α → (α → Program I β) → Program I β
  | ret a, f => f a
  | call op next, f => call op fun answer => (next answer).bind f

instance : Monad (Program I) where
  pure := ret
  bind := bind

def request (op : I.Op) : Program I (I.Answer op) := call op ret

def run (h : Handler I σ) : Program I α → σ → Option (α × σ)
  | ret a, s => some (a, s)
  | call op next, s => (h op s).bind fun r => (next r.1).run h r.2

variable {h : Handler I σ}

@[simp] theorem run_pure (a : α) (s : σ) : (pure a : Program I α).run h s = some (a, s) := rfl

@[simp] theorem run_request (op : I.Op) (s : σ) : (request op).run h s = h op s := by
  unfold request
  rw [run]
  cases h op s <;> rfl

theorem run_bind (p : Program I α) (f : α → Program I β) (s : σ) :
    (p >>= f).run h s = (p.run h s).bind fun r => (f r.1).run h r.2 := by
  show (p.bind f).run h s = _
  induction p generalizing s with
  | ret a => rfl
  | call op next ih =>
    rw [Program.bind, run, run, Option.bind_assoc]
    apply congrArg
    funext r
    exact ih r.1 r.2

/-! ## 2. The calls a program makes -/

/-- Every call the program can make, whatever the answers, satisfies `A`. -/
def Within (A : I.Op → Prop) : Program I α → Prop
  | ret _ => True
  | call op next => A op ∧ ∀ answer, (next answer).Within A

section

variable {A B : I.Op → Prop}

@[simp] theorem within_pure (a : α) : (pure a : Program I α).Within A := trivial

@[simp] theorem within_request {op : I.Op} : (request op).Within A ↔ A op :=
  ⟨And.left, fun hop => ⟨hop, fun _ => trivial⟩⟩

theorem within_ite {c : Prop} [Decidable c] {p q : Program I α} (hp : p.Within A)
    (hq : q.Within A) : (if c then p else q).Within A := by
  split
  · exact hp
  · exact hq

theorem Within.bind {p : Program I α} {f : α → Program I β} (hp : p.Within A)
    (hf : ∀ a, (f a).Within A) : (p >>= f).Within A := by
  show (p.bind f).Within A
  induction p with
  | ret a => exact hf a
  | call op next ih => exact ⟨hp.1, fun answer => ih answer (hp.2 answer)⟩

theorem within_true (p : Program I α) : p.Within fun _ => True := by
  induction p with
  | ret a => trivial
  | call op next ih => exact ⟨trivial, ih⟩

theorem Within.mono {p : Program I α} (hp : p.Within A) (hAB : ∀ op, A op → B op) :
    p.Within B := by
  induction p with
  | ret a => trivial
  | call op next ih => exact ⟨hAB op hp.1, fun answer => ih answer (hp.2 answer)⟩

/-- Calls that all come back make a program that does. -/
theorem run_returns {p : Program I α} (hp : p.Within A)
    (hstep : ∀ op, A op → ∀ s, ∃ r, h op s = some r) (s : σ) : ∃ r, p.run h s = some r := by
  induction p generalizing s with
  | ret a => exact ⟨(a, s), rfl⟩
  | call op next ih =>
    obtain ⟨r, hr⟩ := hstep op hp.1 s
    rw [run, hr]
    exact ih r.1 (hp.2 r.1) r.2

/-- A reflexive and transitive relation that every call keeps holds from start to end. -/
theorem run_keeps {R : σ → σ → Prop} (hrefl : ∀ s, R s s)
    (htrans : ∀ s t u, R s t → R t u → R s u)
    (hstep : ∀ op, A op → ∀ s r, h op s = some r → R s r.2) {p : Program I α}
    (hp : p.Within A) {s : σ} {r : α × σ} (hr : p.run h s = some r) : R s r.2 := by
  induction p generalizing s with
  | ret a =>
    rw [← Option.some.inj hr]
    exact hrefl s
  | call op next ih =>
    rw [run] at hr
    obtain ⟨t, hop, hr⟩ := Option.bind_eq_some_iff.mp hr
    exact htrans _ _ _ (hstep op hp.1 s t hop) (ih t.1 (hp.2 t.1) hr)

/-- What no call changes is the same at the end. -/
theorem run_keeps_eq {β : Type} (f : σ → β)
    (hstep : ∀ op, A op → ∀ s r, h op s = some r → f r.2 = f s) {p : Program I α}
    (hp : p.Within A) {s : σ} {r : α × σ} (hr : p.run h s = some r) : f r.2 = f s :=
  run_keeps (R := fun s t => f t = f s) (fun _ => rfl) (fun _ _ _ hst htu => htu.trans hst)
    hstep hp hr

end

/-! ## 3. Pre- and postconditions -/

/-- Run from a state that satisfies `P`, the program ends, if it ends, as `Q` says. -/
structure Triple (h : Handler I σ) (P : σ → Prop) (p : Program I α) (Q : α → σ → Prop) :
    Prop where
  holds : ∀ s, P s → ∀ r, p.run h s = some r → Q r.1 r.2

namespace Triple

variable {P P' : σ → Prop} {Q Q' : α → σ → Prop} {p : Program I α}

theorem ret {a : α} (hQ : ∀ s, P s → Q a s) : Triple h P (pure a : Program I α) Q := by
  constructor
  intro s hs r hr
  rw [← Option.some.inj hr]
  exact hQ s hs

theorem bind {R : β → σ → Prop} {m : Program I β} {f : β → Program I α} (hm : Triple h P m R)
    (hf : ∀ b, Triple h (R b) (f b) Q) : Triple h P (m >>= f) Q := by
  constructor
  intro s hs r hr
  rw [run_bind] at hr
  obtain ⟨t, ht, hr⟩ := Option.bind_eq_some_iff.mp hr
  exact (hf t.1).holds t.2 (hm.holds s hs t ht) r hr

theorem imp (hp : Triple h P p Q) (hP : ∀ s, P' s → P s) (hQ : ∀ a s, Q a s → Q' a s) :
    Triple h P' p Q' := ⟨fun s hs r hr => hQ _ _ (hp.holds s (hP s hs) r hr)⟩

/-- The rule for a program whose runs are known. -/
theorem of_run {g : σ → α × σ} (hrun : ∀ s, p.run h s = some (g s))
    (hQ : ∀ s, P s → Q (g s).1 (g s).2) : Triple h P p Q := by
  constructor
  intro s hs r hr
  rw [hrun] at hr
  rw [← Option.some.inj hr]
  exact hQ s hs

theorem weaken (hp : Triple h P p Q) (hQ : ∀ a s, Q a s → Q' a s) : Triple h P p Q' :=
  hp.imp (fun _ hs => hs) hQ

theorem and (hp : Triple h P p Q) (hp' : Triple h P' p Q') :
    Triple h (fun s => P s ∧ P' s) p fun a s => Q a s ∧ Q' a s :=
  ⟨fun s hs r hr => ⟨hp.holds s hs.1 r hr, hp'.holds s hs.2 r hr⟩⟩

theorem branch {c : Prop} [Decidable c] {q : Program I α} (hp : c → Triple h P p Q)
    (hq : ¬ c → Triple h P q Q) : Triple h P (if c then p else q) Q := by
  by_cases hc : c
  · rw [if_pos hc]
    exact hp hc
  · rw [if_neg hc]
    exact hq hc

/-- A fact in the precondition that is not about the state. -/
theorem of_pure {c : Prop} (hp : c → Triple h P p Q) : Triple h (fun s => c ∧ P s) p Q :=
  ⟨fun s hs => (hp hs.1).holds s hs.2⟩

/-- The same when nothing else is known. -/
theorem of_fact {c : Prop} (hp : c → Triple h (fun _ => True) p Q) : Triple h (fun _ => c) p Q :=
  ⟨fun s hc => (hp hc).holds s trivial⟩

/-- Something the precondition leaves open. -/
theorem of_exists {ι : Type} {R : ι → σ → Prop} (hp : ∀ i, Triple h (R i) p Q) :
    Triple h (fun s => ∃ i, R i s) p Q :=
  ⟨fun s hs => hs.elim fun i hi => (hp i).holds s hi⟩

theorem implies {c : Prop} (hp : c → Triple h P p Q) :
    Triple h (fun s => c → P s) p fun a s => c → Q a s :=
  ⟨fun s hs r hr hc => (hp hc).holds s (hs hc) r hr⟩

/-- What every call preserves, the program preserves. -/
theorem keeps {A : I.Op → Prop} (hp : p.Within A)
    (hstep : ∀ op, A op → ∀ s r, P s → h op s = some r → P r.2) :
    Triple h P p fun _ => P := by
  constructor
  intro s hs r hr
  exact run_keeps (R := fun s t => P s → P t) (fun _ hs => hs)
    (fun _ _ _ hst htu hs => htu (hst hs)) (fun op hop _ _ hr hs => hstep op hop _ _ hs hr) hp hr hs

end Triple

/-! ## 4. The calls of a run -/

/-- On its way from a state the program comes to make the call `op` in state `t`, whether or not it
ever ends. -/
inductive Reaches (h : Handler I σ) (op : I.Op) (t : σ) : Program I α → σ → Prop
  | here (next : I.Answer op → Program I α) : Reaches h op t (call op next) t
  | later {op' : I.Op} {next : I.Answer op' → Program I α} {s : σ} {r : I.Answer op' × σ}
      (hstep : h op' s = some r) (hrest : Reaches h op t (next r.1) r.2) :
      Reaches h op t (call op' next) s

theorem reaches_bind {op : I.Op} {t : σ} {p : Program I α} {f : α → Program I β} {s : σ}
    (hr : Reaches h op t (p >>= f) s) :
    Reaches h op t p s ∨ ∃ r, p.run h s = some r ∧ Reaches h op t (f r.1) r.2 := by
  change Reaches h op t (p.bind f) s at hr
  induction p generalizing s with
  | ret a => exact Or.inr ⟨(a, s), rfl, hr⟩
  | call op' next ih =>
    rw [Program.bind] at hr
    cases hr with
    | here => exact Or.inl (.here next)
    | later hstep hrest =>
      rcases ih _ hrest with hleft | ⟨r, hrun, hright⟩
      · exact Or.inl (.later hstep hleft)
      · refine Or.inr ⟨r, ?_, hright⟩
        rw [run, hstep]
        exact hrun

theorem Reaches.bind_left {op : I.Op} {t : σ} {p : Program I α} {f : α → Program I β} {s : σ}
    (hr : Reaches h op t p s) : Reaches h op t (p >>= f) s := by
  show Reaches h op t (p.bind f) s
  induction hr with
  | here next => exact .here _
  | later hstep _ ih => exact .later hstep ih

theorem Reaches.bind_right {op : I.Op} {t : σ} {p : Program I α} {f : α → Program I β} {s : σ}
    {r : α × σ} (hrun : p.run h s = some r) (hr : Reaches h op t (f r.1) r.2) :
    Reaches h op t (p >>= f) s := by
  show Reaches h op t (p.bind f) s
  induction p generalizing s with
  | ret a =>
    rw [← Option.some.inj hrun] at hr
    exact hr
  | call op' next ih =>
    rw [run] at hrun
    obtain ⟨u, hstep, hrun⟩ := Option.bind_eq_some_iff.mp hrun
    exact .later hstep (ih u.1 hrun)

/-- What holds when the call is made, and every call preserves, holds at the end. -/
theorem Reaches.run_keeps {A : I.Op → Prop} {P : σ → Prop} {op : I.Op} {t : σ} {p : Program I α}
    {s : σ} (ht : Reaches h op t p s) (hp : p.Within A)
    (hstep : ∀ op, A op → ∀ s r, P s → h op s = some r → P r.2) (hP : P t) {r : α × σ}
    (hr : p.run h s = some r) : P r.2 := by
  induction ht with
  | here next => exact (Triple.keeps hp hstep).holds t hP r hr
  | @later op' next s u hop _ ih =>
    rw [run, hop] at hr
    exact ih (hp.2 u.1) hr

/-- A program comes back when every call it comes to does. -/
theorem run_of_reaches {p : Program I α} {s : σ}
    (hstep : ∀ op t, Reaches h op t p s → ∃ r, h op t = some r) : ∃ r, p.run h s = some r := by
  induction p generalizing s with
  | ret a => exact ⟨(a, s), rfl⟩
  | call op next ih =>
    obtain ⟨r, hr⟩ := hstep op s (.here next)
    rw [run, hr]
    exact ih r.1 fun op' t hlater => hstep op' t (.later hr hlater)

/-- Run from a state that satisfies `P`, the program makes no call that `G` does not allow in the
state it is made in. -/
structure Safe (h : Handler I σ) (P : σ → Prop) (p : Program I α) (G : I.Op → σ → Prop) :
    Prop where
  holds : ∀ s, P s → ∀ op t, Reaches h op t p s → G op t

namespace Safe

variable {P P' : σ → Prop} {G G' : I.Op → σ → Prop} {p : Program I α}

theorem ret (a : α) : Safe h P (pure a : Program I α) G := ⟨fun _ _ _ _ hr => by cases hr⟩

theorem request {op : I.Op} (hG : ∀ s, P s → G op s) : Safe h P (request op) G := by
  constructor
  intro s hs op' t hr
  cases hr with
  | here => exact hG s hs
  | later _ hrest => cases hrest

theorem bind {Q : β → σ → Prop} {m : Program I β} {f : β → Program I α} (hm : Safe h P m G)
    (hpost : Triple h P m Q) (hf : ∀ b, Safe h (Q b) (f b) G) : Safe h P (m >>= f) G := by
  constructor
  intro s hs op t hr
  rcases reaches_bind hr with hleft | ⟨r, hrun, hright⟩
  · exact hm.holds s hs op t hleft
  · exact (hf r.1).holds r.2 (hpost.holds s hs r hrun) op t hright

theorem imp (hp : Safe h P p G) (hP : ∀ s, P' s → P s) (hG : ∀ op s, G op s → G' op s) :
    Safe h P' p G' := ⟨fun s hs op t hr => hG op t (hp.holds s (hP s hs) op t hr)⟩

theorem branch {c : Prop} [Decidable c] {q : Program I α} (hp : c → Safe h P p G)
    (hq : ¬ c → Safe h P q G) : Safe h P (if c then p else q) G := by
  by_cases hc : c
  · rw [if_pos hc]
    exact hp hc
  · rw [if_neg hc]
    exact hq hc

theorem of_pure {c : Prop} (hp : c → Safe h P p G) : Safe h (fun s => c ∧ P s) p G :=
  ⟨fun s hs => (hp hs.1).holds s hs.2⟩

theorem of_within {A : I.Op → Prop} (hp : p.Within A) : Safe h P p fun op _ => A op := by
  constructor
  intro s hs op t hr
  clear hs
  induction hr with
  | here => exact hp.1
  | later _ _ ih => exact ih (hp.2 _)

/-- An invariant that every call keeps holds whenever a call is made. -/
theorem of_keeps {A : I.Op → Prop} (hp : p.Within A)
    (hstep : ∀ op, A op → ∀ s r, P s → h op s = some r → P r.2) :
    Safe h P p fun op s => A op ∧ P s := by
  constructor
  intro s hs op t hr
  induction hr with
  | here => exact ⟨hp.1, hs⟩
  | later hop _ ih => exact ih (hp.2 _) (hstep _ hp.1 _ _ hs hop)

theorem returns (hp : Safe h P p G) (hstep : ∀ op s, G op s → ∃ r, h op s = some r) (s : σ)
    (hs : P s) : ∃ r, p.run h s = some r :=
  run_of_reaches fun op t hr => hstep op t (hp.holds s hs op t hr)

end Safe

/-- Run from a state that satisfies `P`, the program comes to make a call of the kind `G`. -/
structure Meets (h : Handler I σ) (P : σ → Prop) (p : Program I α) (G : I.Op → σ → Prop) :
    Prop where
  holds : ∀ s, P s → ∃ op t, Reaches h op t p s ∧ G op t

namespace Meets

variable {P : σ → Prop} {G : I.Op → σ → Prop}

theorem request {op : I.Op} (hG : ∀ s, P s → G op s) : Meets h P (request op) G :=
  ⟨fun s hs => ⟨op, s, .here _, hG s hs⟩⟩

theorem imp {P' : σ → Prop} {p : Program I α} (hp : Meets h P p G) (hP : ∀ s, P' s → P s) :
    Meets h P' p G := ⟨fun s hs => hp.holds s (hP s hs)⟩

theorem bind_left {p : Program I α} {f : α → Program I β} (hp : Meets h P p G) :
    Meets h P (p >>= f) G := by
  constructor
  intro s hs
  obtain ⟨op, t, hr, hG⟩ := hp.holds s hs
  exact ⟨op, t, hr.bind_left, hG⟩

/-- The call may come after a part that ends. -/
theorem bind_right {Q : α → σ → Prop} {p : Program I α} {f : α → Program I β}
    (hreturns : ∀ s, P s → ∃ r, p.run h s = some r) (hpost : Triple h P p Q)
    (hf : ∀ a, Meets h (Q a) (f a) G) : Meets h P (p >>= f) G := by
  constructor
  intro s hs
  obtain ⟨r, hrun⟩ := hreturns s hs
  obtain ⟨op, t, hr, hG⟩ := (hf r.1).holds r.2 (hpost.holds s hs r hrun)
  exact ⟨op, t, .bind_right hrun hr, hG⟩

end Meets

/-- On its way from a state the program comes through the state `t`, whether or not it ever ends. -/
inductive Visits (h : Handler I σ) (t : σ) : Program I α → σ → Prop
  | here (p : Program I α) : Visits h t p t
  | later {op : I.Op} {next : I.Answer op → Program I α} {s : σ} {r : I.Answer op × σ}
      (hstep : h op s = some r) (hrest : Visits h t (next r.1) r.2) :
      Visits h t (call op next) s

theorem Visits.keeps {P : σ → Prop} (hstep : ∀ op s r, P s → h op s = some r → P r.2) {t : σ}
    {p : Program I α} {s : σ} (ht : Visits h t p s) (hs : P s) : P t := by
  induction ht with
  | here => exact hs
  | later hop _ ih => exact ih (hstep _ _ _ hs hop)

theorem visits_of_run {p : Program I α} {s : σ} {r : α × σ} (hr : p.run h s = some r) :
    Visits h r.2 p s := by
  induction p generalizing s with
  | ret a =>
    rw [← Option.some.inj hr]
    exact .here _
  | call op next ih =>
    rw [run] at hr
    obtain ⟨u, hstep, hr⟩ := Option.bind_eq_some_iff.mp hr
    exact .later hstep (ih u.1 hr)

/-! ## 5. Labelled calls -/

section

variable {ℓ : Type} {label : I.Op → List ℓ}

/-- The labels of the calls the program makes, in order and the same on every path to its end. -/
def Emits (label : I.Op → List ℓ) : Program I α → List ℓ → Prop
  | ret _, labels => labels = []
  | call op next, labels =>
    ∃ rest, labels = label op ++ rest ∧ ∀ answer, (next answer).Emits label rest

theorem emits_pure (a : α) : (pure a : Program I α).Emits label [] := rfl

theorem emits_request (op : I.Op) : (request op).Emits label (label op) :=
  ⟨[], (List.append_nil _).symm, fun _ => rfl⟩

theorem Emits.bind {p : Program I α} {f : α → Program I β} {l l' : List ℓ}
    (hp : p.Emits label l) (hf : ∀ a, (f a).Emits label l') : (p >>= f).Emits label (l ++ l') := by
  show (p.bind f).Emits label (l ++ l')
  induction p generalizing l with
  | ret a =>
    rw [show l = [] from hp]
    exact hf a
  | call op next ih =>
    obtain ⟨rest, rfl, hnext⟩ := hp
    exact ⟨rest ++ l', List.append_assoc .., fun answer => ih answer (hnext answer)⟩

theorem emits_ite {c : Prop} [Decidable c] {p q : Program I α} {l : List ℓ} (hp : p.Emits label l)
    (hq : q.Emits label l) : (if c then p else q).Emits label l := by
  split
  · exact hp
  · exact hq

theorem emits_nil {p : Program I α} (hp : p.Within fun op => label op = []) : p.Emits label [] := by
  induction p with
  | ret a => rfl
  | call op next ih =>
    exact ⟨[], by rw [hp.1, List.append_nil], fun answer => ih answer (hp.2 answer)⟩

/-- A relation between two states that the labels of the calls in between determine. -/
structure Tracks (h : Handler I σ) (A : I.Op → Prop) (label : I.Op → List ℓ)
    (R : List ℓ → σ → σ → Prop) : Prop where
  refl : ∀ s, R [] s s
  step : ∀ labels s t, R labels s t → ∀ op, A op → ∀ r, h op t = some r →
    R (labels ++ label op) s r.2

section

variable {A : I.Op → Prop} {R : List ℓ → σ → σ → Prop} (htracks : Tracks h A label R)
  {p : Program I α} {l : List ℓ}

include htracks

theorem Emits.run_from {earlier : List ℓ} (hp : p.Emits label l) (hw : p.Within A) {s₀ s : σ}
    (hs : R earlier s₀ s) {r : α × σ} (hr : p.run h s = some r) : R (earlier ++ l) s₀ r.2 := by
  induction p generalizing l earlier s with
  | ret a =>
    rw [← Option.some.inj hr, show l = [] from hp, List.append_nil]
    exact hs
  | call op next ih =>
    obtain ⟨rest, rfl, hnext⟩ := hp
    rw [run] at hr
    obtain ⟨t, hop, hr⟩ := Option.bind_eq_some_iff.mp hr
    rw [← List.append_assoc]
    exact ih t.1 (hnext t.1) (hw.2 t.1) (htracks.step _ _ _ hs op hw.1 t hop) hr

theorem Emits.run (hp : p.Emits label l) (hw : p.Within A) {s : σ} {r : α × σ}
    (hr : p.run h s = some r) : R l s r.2 := hp.run_from htracks hw (htracks.refl s) hr

theorem Emits.reaches_from {earlier : List ℓ} (hp : p.Emits label l) (hw : p.Within A) {s₀ s : σ}
    (hs : R earlier s₀ s) {op : I.Op} {t : σ} (ht : Reaches h op t p s) :
    ∃ before after, l = before ++ (label op ++ after) ∧ R (earlier ++ before) s₀ t := by
  induction ht generalizing l earlier with
  | here next =>
    obtain ⟨rest, rfl, -⟩ := hp
    exact ⟨[], rest, rfl, by rwa [List.append_nil]⟩
  | @later op' next s r hstep _ ih =>
    obtain ⟨rest, rfl, hnext⟩ := hp
    obtain ⟨before, after, rfl, ht⟩ :=
      ih (hnext r.1) (hw.2 r.1) (htracks.step _ _ _ hs op' hw.1 r hstep)
    exact ⟨label op' ++ before, after, (List.append_assoc ..).symm, by rwa [← List.append_assoc]⟩

/-- Where every call comes back and has one label at most, each label is come to. -/
theorem Emits.reaches_label {B : I.Op → Prop}
    (hlabel : ∀ op, label op = [] ∨ ∃ a, label op = [a])
    (hcomes : ∀ op, B op → ∀ t, ∃ r, h op t = some r) {earlier before after : List ℓ} {a : ℓ}
    (hp : p.Emits label (before ++ a :: after)) (hw : p.Within A) (hback : p.Within B) {s₀ s : σ}
    (hs : R earlier s₀ s) :
    ∃ op t, label op = [a] ∧ Reaches h op t p s ∧ R (earlier ++ before) s₀ t := by
  induction p generalizing earlier before s with
  | ret b => exact absurd (show before ++ a :: after = [] from hp) (by simp)
  | call op next ih =>
    obtain ⟨rest, hsplit, hnext⟩ := hp
    obtain ⟨r, hstep⟩ := hcomes op hback.1 s
    have hlater := htracks.step _ _ _ hs op hw.1 r hstep
    -- a call without a label is passed; the first label is the one looked for, or in front of it
    rcases hlabel op with hnone | ⟨b, hone⟩
    · rw [hnone] at hsplit hlater
      rw [List.nil_append] at hsplit
      rw [List.append_nil] at hlater
      obtain ⟨op', t, heq, hreach, ht⟩ :=
        ih r.1 (hsplit ▸ hnext r.1) (hw.2 r.1) (hback.2 r.1) hlater
      exact ⟨op', t, heq, .later hstep hreach, ht⟩
    · rw [hone, List.singleton_append] at hsplit
      cases before with
      | nil =>
        obtain ⟨rfl, -⟩ := List.cons.inj hsplit
        exact ⟨op, s, hone, .here next, by rwa [List.append_nil]⟩
      | cons b' before =>
        obtain ⟨rfl, hrest⟩ := List.cons.inj hsplit
        rw [hone] at hlater
        obtain ⟨op', t, heq, hreach, ht⟩ :=
          ih r.1 (hrest ▸ hnext r.1) (hw.2 r.1) (hback.2 r.1) hlater
        exact ⟨op', t, heq, .later hstep hreach, by rwa [List.append_assoc] at ht⟩

/-- A call comes after the labels in front of its own. -/
theorem Emits.reaches (hp : p.Emits label l) (hw : p.Within A) {s : σ} {op : I.Op} {t : σ}
    (ht : Reaches h op t p s) :
    ∃ before after, l = before ++ (label op ++ after) ∧ R before s t :=
  hp.reaches_from htracks hw (htracks.refl s) ht

end

end

/-! ## 6. Programs one after another -/

/-- Programs have run one after another; the steps, newest first, are what each was called with and
the state it was called in. -/
inductive History {κ : Type} (h : Handler I σ) (prog : κ → Program I α) (s₀ : σ) :
    List (σ × κ) → σ → Prop
  | start : History h prog s₀ [] s₀
  | next {steps : List (σ × κ)} {s : σ} {k : κ} {r : α × σ} (hbefore : History h prog s₀ steps s)
      (hrun : (prog k).run h s = some r) : History h prog s₀ ((s, k) :: steps) r.2

/-- What each program keeps holds at the end. -/
theorem History.keeps {κ : Type} {prog : κ → Program I α} {s₀ : σ} {steps : List (σ × κ)} {s : σ}
    (hh : History h prog s₀ steps s) {P : σ → Prop} (hs₀ : P s₀)
    (hstep : ∀ k s r, P s → (prog k).run h s = some r → P r.2) : P s := by
  induction hh with
  | start => exact hs₀
  | next _ hrun ih => exact hstep _ _ _ ih hrun

/-! ## 7. Two handlers -/

/-- Two handlers that answer alike, and keep two states related, on every call of a program give
the program the same result and related final states. -/
theorem run_simulates {A : I.Op → Prop} {g : Handler I τ} {R : σ → τ → Prop}
    (hstep : ∀ op, A op → ∀ s t, R s t →
      ∃ answer s' t', h op s = some (answer, s') ∧ g op t = some (answer, t') ∧ R s' t')
    {p : Program I α} (hp : p.Within A) {s : σ} {t : τ} (hst : R s t) :
    ∃ a s' t', p.run h s = some (a, s') ∧ p.run g t = some (a, t') ∧ R s' t' := by
  induction p generalizing s t with
  | ret a => exact ⟨a, s, t, rfl, rfl, hst⟩
  | call op next ih =>
    obtain ⟨answer, s', t', hs, ht, hst'⟩ := hstep op hp.1 s t hst
    rw [run, run, hs, ht]
    exact ih answer (hp.2 answer) hst'

/-! ## 8. Two programs -/

section

variable {J : Interface} {γ δ : Type} {g : Handler J τ}

/-- Two programs run from related states both end, and end as `Q` says. -/
structure Coupled (h : Handler I σ) (g : Handler J τ) (R : σ → τ → Prop) (p : Program I α)
    (q : Program J β) (Q : α → β → σ → τ → Prop) : Prop where
  holds : ∀ s t, R s t → ∃ a b s' t', p.run h s = some (a, s') ∧ q.run g t = some (b, t') ∧
    Q a b s' t'

namespace Coupled

variable {R : σ → τ → Prop} {p : Program I α} {q : Program J β} {Q : α → β → σ → τ → Prop}

theorem ret {a : α} {b : β} (hQ : ∀ s t, R s t → Q a b s t) :
    Coupled h g R (pure a : Program I α) (pure b : Program J β) Q :=
  ⟨fun s t hst => ⟨a, b, s, t, rfl, rfl, hQ s t hst⟩⟩

theorem bind {f : α → Program I γ} {k : β → Program J δ} {Q' : γ → δ → σ → τ → Prop}
    (hpq : Coupled h g R p q Q) (hfk : ∀ a b, Coupled h g (Q a b) (f a) (k b) Q') :
    Coupled h g R (p >>= f) (q >>= k) Q' := by
  constructor
  intro s t hst
  obtain ⟨a, b, s', t', hp, hq, hQ⟩ := hpq.holds s t hst
  rw [run_bind, hp, run_bind, hq]
  exact (hfk a b).holds s' t' hQ

/-- Only the program on the left moves. -/
theorem bind_left {f : α → Program I γ} {R' : α → σ → τ → Prop} {Q' : γ → β → σ → τ → Prop}
    (hp : ∀ s t, R s t → ∃ a s', p.run h s = some (a, s') ∧ R' a s' t)
    (hf : ∀ a, Coupled h g (R' a) (f a) q Q') : Coupled h g R (p >>= f) q Q' := by
  constructor
  intro s t hst
  obtain ⟨a, s', hrun, hR⟩ := hp s t hst
  rw [run_bind, hrun]
  exact (hf a).holds s' t hR

/-- The two programs branch alike. -/
theorem branch {c d : Prop} [Decidable c] [Decidable d] {p' : Program I α} {q' : Program J β}
    (hcd : c ↔ d) (hpq : c → Coupled h g R p q Q) (hpq' : ¬ c → Coupled h g R p' q' Q) :
    Coupled h g R (if c then p else p') (if d then q else q') Q := by
  by_cases hc : c
  · rw [if_pos hc, if_pos (hcd.mp hc)]
    exact hpq hc
  · rw [if_neg hc, if_neg (fun hd => hc (hcd.mpr hd))]
    exact hpq' hc

/-- The first parts give related results, and go on from there. -/
theorem bind_related {f : α → Program I γ} {k : β → Program J δ} {V : α → β → Prop}
    {R' : σ → τ → Prop} {Q' : γ → δ → σ → τ → Prop}
    (hpq : Coupled h g R p q fun a b s t => V a b ∧ R' s t)
    (hfk : ∀ a b, V a b → Coupled h g R' (f a) (k b) Q') :
    Coupled h g R (p >>= f) (q >>= k) Q' :=
  hpq.bind fun a b => ⟨fun s t hst => (hfk a b hst.1).holds s t hst.2⟩

/-- The first parts give one result. -/
theorem bind_same {f : α → Program I γ} {q : Program J α} {k : α → Program J δ}
    {R' : σ → τ → Prop} {Q' : γ → δ → σ → τ → Prop}
    (hpq : Coupled h g R p q fun a b s t => a = b ∧ R' s t)
    (hfk : ∀ a, Coupled h g R' (f a) (k a) Q') : Coupled h g R (p >>= f) (q >>= k) Q' := by
  refine hpq.bind_related ?_
  rintro a b rfl
  exact hfk a

end Coupled

end

end Program
