/-!
# Code that can fail

Rules for `Except`: what a result that is not an error says about the pieces of the code that gave
it.
-/

universe u v

namespace Checked

variable {ε : Type u} {α β : Type v}

theorem bind_ok {x : Except ε α} {f : α → Except ε β} {b : β} :
    x >>= f = .ok b ↔ ∃ a, x = .ok a ∧ f a = .ok b := by
  cases x with
  | error e => exact iff_of_false (fun h => by cases h) fun ⟨a, h, _⟩ => by cases h
  | ok a => exact ⟨fun h => ⟨a, rfl, h⟩, fun ⟨_, h, hf⟩ => by cases h; exact hf⟩

theorem bind_of_ok {x : Except ε α} {f : α → Except ε β} {a : α} (h : x = .ok a) :
    x >>= f = f a := by rw [h]; rfl

/-- A check that passed. -/
theorem guard_ok {c : Prop} [Decidable c] {e : ε} {x : Except ε α} {a : α} :
    (if c then .error e else x) = .ok a ↔ ¬ c ∧ x = .ok a := by
  split
  · rename_i hc
    exact iff_of_false (fun h => by cases h) fun h => h.1 hc
  · rename_i hc
    exact (and_iff_right hc).symm

/-- Whatever `x` returns, `y` returns: `y` fails less often. -/
def Below (x y : Except ε α) : Prop := ∀ a, x = .ok a → y = .ok a

theorem Below.error (e : ε) (y : Except ε α) : Below (.error e) y := fun _ h => by cases h

theorem Below.refl (x : Except ε α) : Below x x := fun _ h => h

theorem Below.bind {x y : Except ε α} {f g : α → Except ε β} (hxy : Below x y)
    (hfg : ∀ a, Below (f a) (g a)) : Below (x >>= f) (y >>= g) := by
  intro b h
  obtain ⟨a, hx, hf⟩ := bind_ok.mp h
  rw [bind_of_ok (hxy a hx)]
  exact hfg a b hf

end Checked
