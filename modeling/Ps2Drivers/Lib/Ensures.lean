/-!
# Pre- and postconditions of state functions

`Ensures P m Q`: run from a state that satisfies `P`, the state function `m` gives a result and a
state that satisfy `Q`.  Total correctness needs no more, since a state function always returns.
The rules follow the shape of the code: one for a returned value, one for each way two pieces of
code are put together.
-/

universe u v

variable {σ α β : Type u}

def Ensures (P : σ → Prop) (m : StateM σ α) (Q : α → σ → Prop) : Prop :=
  ∀ s, P s → Q (m s).1 (m s).2

namespace Ensures

theorem ret {P : σ → Prop} {a : α} {Q : α → σ → Prop} (h : ∀ s, P s → Q a s) :
    Ensures P (pure a : StateM σ α) Q := fun s hs => h s hs

theorem bind {P : σ → Prop} {m : StateM σ α} {R : α → σ → Prop} {f : α → StateM σ β}
    {Q : β → σ → Prop} (hm : Ensures P m R) (hf : ∀ a, Ensures (R a) (f a) Q) :
    Ensures P (m >>= f) Q := fun s hs => hf (m s).1 (m s).2 (hm s hs)

/-- Strengthen the precondition, weaken the postcondition. -/
theorem imp {P P' : σ → Prop} {m : StateM σ α} {Q Q' : α → σ → Prop} (hm : Ensures P m Q)
    (hP : ∀ s, P' s → P s) (hQ : ∀ a s, Q a s → Q' a s) : Ensures P' m Q' := fun s hs =>
  hQ _ _ (hm s (hP s hs))

theorem weaken {P : σ → Prop} {m : StateM σ α} {Q Q' : α → σ → Prop} (hm : Ensures P m Q)
    (hQ : ∀ a s, Q a s → Q' a s) : Ensures P m Q' := hm.imp (fun _ h => h) hQ

theorem branch {P : σ → Prop} {c : Prop} [Decidable c] {m n : StateM σ α} {Q : α → σ → Prop}
    (hm : c → Ensures P m Q) (hn : ¬ c → Ensures P n Q) : Ensures P (if c then m else n) Q := by
  split
  · exact hm ‹_›
  · exact hn ‹_›

/-- A precondition that fixes a fact about something other than the state. -/
theorem of_pure {P : σ → Prop} {m : StateM σ α} {Q : α → σ → Prop} {c : Prop}
    (h : c → Ensures P m Q) : Ensures (fun s => c ∧ P s) m Q := fun s hs => h hs.1 s hs.2

/-- A witness in the precondition can be taken out before the code runs. -/
theorem of_exists {ι : Sort v} {P : ι → σ → Prop} {m : StateM σ α} {Q : α → σ → Prop}
    (h : ∀ i, Ensures (P i) m Q) : Ensures (fun s => ∃ i, P i s) m Q := fun s ⟨i, hs⟩ => h i s hs

end Ensures

/-! ## Two runs from one state -/

/-- Wherever the first function gives a `P`, the second, run from the same state, gives a `Q`. -/
def Turns (P : α → Prop) (m : StateM σ α) (Q : β → Prop) (m' : StateM σ β) : Prop :=
  ∀ s, P (m s).1 → Q (m' s).1

namespace Turns

variable {γ δ : Type u} {P : γ → Prop} {Q : δ → Prop}

/-- The first function never gives a `P`. -/
theorem of_never {m : StateM σ γ} {m' : StateM σ δ} (h : ∀ s, ¬ P (m s).1) : Turns P m Q m' :=
  fun s hs => absurd hs (h s)

/-- The two do the same first. -/
theorem bind_same {m : StateM σ α} {f : α → StateM σ γ} {f' : α → StateM σ δ}
    (h : ∀ a, Turns P (f a) Q (f' a)) : Turns P (m >>= f) Q (m >>= f') := fun s =>
  h (m s).1 (m s).2

/-- The two do the same first, which gives an `R`. -/
theorem bind_known {R : α → Prop} {m : StateM σ α} {f : α → StateM σ γ} {f' : α → StateM σ δ}
    (hm : ∀ s, R (m s).1) (h : ∀ a, R a → Turns P (f a) Q (f' a)) :
    Turns P (m >>= f) Q (m >>= f') := fun s => h (m s).1 (hm s) (m s).2

/-- What follows passes the results on. -/
theorem bind {R : α → Prop} {S : β → Prop} {m : StateM σ α} {m' : StateM σ β}
    {f : α → StateM σ γ} {f' : β → StateM σ δ} (hm : Turns R m S m')
    (hf : ∀ a s, P (f a s).1 → R a) (hf' : ∀ b s, S b → Q (f' b s).1) :
    Turns P (m >>= f) Q (m' >>= f') := fun s hs =>
  hf' (m' s).1 (m' s).2 (hm s (hf (m s).1 (m s).2 hs))

theorem branch {c : Prop} [Decidable c] {m n : StateM σ γ} {m' n' : StateM σ δ}
    (hm : c → Turns P m Q m') (hn : ¬ c → Turns P n Q n') :
    Turns P (if c then m else n) Q (if c then m' else n') := by
  split
  · exact hm ‹_›
  · exact hn ‹_›

end Turns
