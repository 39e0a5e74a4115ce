import Mathlib.Data.List.Basic

/-!
# Output that is only appended to

A computation that may stop with an error appends to an output on its way.  When it is known what
it appends if nothing stops it, what it leaves behind is a prefix of that; the rules follow the
shape of the code.
-/

/-- A computation on a state, which keeps the state it has reached when it stops. -/
abbrev Stopping (ε σ α : Type) := ExceptT ε (StateM σ) α

namespace Stopping

variable {ε σ α γ β : Type} {out : σ → List β}

theorem run_bind (m : Stopping ε σ α) (k : α → Stopping ε σ γ) (s : σ) :
    (m >>= k).run s = match m.run s with
      | (.ok a, t) => (k a).run t
      | (.error e, t) => (.error e, t) := by
  show (match (m.run s).1 with
    | .ok a => (k a).run
    | .error e => fun t => (.error e, t)) (m.run s).2 = _
  rcases m.run s with ⟨a | a, t⟩ <;> rfl

theorem run_bind_ok {m : Stopping ε σ α} {k : α → Stopping ε σ γ} {s t : σ} {a : α}
    (h : m.run s = (.ok a, t)) : (m >>= k).run s = (k a).run t := by
  rw [run_bind, h]

theorem run_bind_error {m : Stopping ε σ α} {k : α → Stopping ε σ γ} {s t : σ} {e : ε}
    (h : m.run s = (.error e, t)) : (m >>= k).run s = (.error e, t) := by
  rw [run_bind, h]

/-- The computation appends `data`, or a prefix of it if it stops. -/
def Appends (out : σ → List β) (m : Stopping ε σ α) (data : List β) : Prop :=
  ∀ s, ∃ written, out (m.run s).2 = out s ++ written ∧ written <+: data ∧
    ∀ a, (m.run s).1 = .ok a → written = data

namespace Appends

theorem ret (a : α) : Appends out (pure a : Stopping ε σ α) [] :=
  fun _ => ⟨[], (List.append_nil _).symm, List.prefix_rfl, fun _ _ => rfl⟩

/-- A step that appends all its data, whether or not it then stops. -/
theorem whole {m : Stopping ε σ α} {data : List β}
    (h : ∀ s, out (m.run s).2 = out s ++ data) : Appends out m data :=
  fun s => ⟨data, h s, List.prefix_rfl, fun _ _ => rfl⟩

/-- A computation that stops has appended nothing of anything. -/
theorem stop (e : ε) (data : List β) : Appends out (throw e : Stopping ε σ α) data :=
  fun _ => ⟨[], (List.append_nil _).symm, List.nil_prefix, nofun⟩

theorem bind {m : Stopping ε σ α} {k : α → Stopping ε σ γ} {data data' : List β}
    (hm : Appends out m data) (hk : ∀ a, Appends out (k a) data') :
    Appends out (m >>= k) (data ++ data') := by
  intro s
  obtain ⟨written, hout, hstart, hall⟩ := hm s
  rcases hrun : m.run s with ⟨e | a, t⟩
  · rw [hrun] at hout
    rw [run_bind_error hrun]
    exact ⟨written, hout, hstart.trans (List.prefix_append _ _), fun _ h => by cases h⟩
  · rw [hrun] at hout hall
    rw [run_bind_ok hrun]
    obtain rfl := hall a rfl
    obtain ⟨written', hout', hstart', hall'⟩ := hk a t
    refine ⟨written ++ written', ?_, ?_, fun c hc => ?_⟩
    · rw [hout', hout, List.append_assoc]
    · exact (List.prefix_append_right_inj _).mpr hstart'
    · rw [hall' c hc]

theorem branch {c : Prop} [Decidable c] {m n : Stopping ε σ α} {data : List β}
    (hm : c → Appends out m data) (hn : ¬ c → Appends out n data) :
    Appends out (if c then m else n) data := by
  split
  · exact hm ‹_›
  · exact hn ‹_›

end Appends

end Stopping
