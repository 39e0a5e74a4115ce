import Ps2Drivers.Lib.Program

/-!
# Programs on abstract values

A relation ties abstract values to states: a bound from above, a bound from below, or the value
itself.  A program follows a function on abstract values when it takes related states to related
states, and programs run one after another follow the composition of their functions.
-/

namespace Program

variable {I : Interface} {α β σ A : Type} {h : Handler I σ}

/-! ## 1. One program -/

/-- Run from a state that satisfies `P` and that `R` relates to an abstract value, the program ends,
if it ends, in a state that `R` relates to the value `f` gives. -/
structure Follows (h : Handler I σ) (P : σ → Prop) (R : A → σ → Prop) (f : A → A)
    (p : Program I α) : Prop where
  holds : ∀ a, Triple h (fun s => P s ∧ R a s) p fun _ => R (f a)

namespace Follows

variable {P P' : σ → Prop} {R : A → σ → Prop} {f g : A → A} {p : Program I α}

theorem imp (hp : Follows h P R f p) (hP : ∀ s, P' s → P s) : Follows h P' R f p :=
  ⟨fun a => (hp.holds a).imp (fun s hs => ⟨hP s hs.1, hs.2⟩) fun _ _ hs => hs⟩

theorem ret (a : α) : Follows h P R id (pure a : Program I α) :=
  ⟨fun _ => Triple.ret fun _ hs => hs.2⟩

/-- The second part starts from what the first establishes. -/
theorem bind {Q : α → σ → Prop} {k : α → Program I β} (hp : Follows h P R f p)
    (hpost : Triple h P p Q) (hk : ∀ a, Follows h (Q a) R g (k a)) :
    Follows h P R (g ∘ f) (p >>= k) := by
  constructor
  intro value
  refine Triple.bind (R := fun a s => Q a s ∧ R (f value) s) ?_ fun a => (hk a).holds (f value)
  exact (hpost.and (hp.holds value)).imp (fun s hs => ⟨hs.1, hs⟩) fun _ _ hs => hs

/-- The second part does not depend on where it starts. -/
theorem seq {k : α → Program I β} (hp : Follows h P R f p)
    (hk : ∀ a, Follows h (fun _ => True) R g (k a)) : Follows h P R (g ∘ f) (p >>= k) :=
  hp.bind (Q := fun _ _ => True) ⟨fun _ _ _ _ => trivial⟩ hk

/-- What the calls of the program keep, whatever the abstract value. -/
theorem keeps {C : I.Op → Prop} (hp : p.Within C)
    (hstep : ∀ a op, C op → ∀ s r, R a s → h op s = some r → R a r.2) : Follows h P R id p :=
  ⟨fun a => (Triple.keeps hp (hstep a)).imp (fun _ hs => hs.2) fun _ _ hs => hs⟩

/-- A program that runs like another one. -/
theorem congr {q : Program I α} (hq : Follows h P R f q)
    (hrun : ∀ s, P s → p.run h s = q.run h s) : Follows h P R f p := by
  constructor
  intro a
  constructor
  intro s hs r hr
  rw [hrun s hs.1] at hr
  exact (hq.holds a).holds s hs r hr

end Follows

/-! ## 2. Programs one after another -/

/-- The functions of the programs that have run, the newest applied last. -/
def effectOf {κ : Type} (effect : σ → κ → A → A) (steps : List (σ × κ)) : A → A :=
  steps.foldr (fun step f => effect step.1 step.2 ∘ f) id

section

variable {κ : Type} {prog : κ → Program I α} {s₀ s : σ} {steps : List (σ × κ)}
  {effect : σ → κ → A → A}

@[simp] theorem effectOf_nil : effectOf effect ([] : List (σ × κ)) = id := rfl

@[simp] theorem effectOf_cons (step : σ × κ) :
    effectOf effect (step :: steps) = effect step.1 step.2 ∘ effectOf effect steps := rfl

/-- A run of programs follows the composition of what each program follows; a program may rely on
an invariant of the run. -/
theorem History.follows {P : σ → Prop} {R : A → σ → Prop} {a : A}
    (hh : History h prog s₀ steps s) (hs₀ : P s₀) (ha : R a s₀)
    (hkeep : ∀ k, Triple h P (prog k) fun _ => P)
    (hprog : ∀ k t, Follows h (fun s => s = t ∧ P s) R (effect t k) (prog k)) :
    R (effectOf effect steps a) s := by
  induction hh with
  | start => exact ha
  | @next steps t k r hbefore hrun ih =>
    have hP : P t := hbefore.keeps hs₀ fun k s r hs hrun => (hkeep k).holds s hs r hrun
    rw [effectOf_cons]
    exact ((hprog k t).holds _).holds t ⟨⟨rfl, hP⟩, ih⟩ r hrun

end

end Program
