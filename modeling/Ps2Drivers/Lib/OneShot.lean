import Mathlib.Data.List.Basic

/-!
# One-shot stores

A store is filled all at once, while it is empty, and gives every item away at most once.  What it
holds is a matter of its history.  A machine implements such a store when each of its steps is one
of the store's events, or none.
-/

universe u v w

namespace OneShot

variable {κ : Type u} {α : Type v} {σ β : Type w}

/-! ## 1. Stores and events -/

abbrev Store (κ : Type u) (α : Type v) := κ → Option α

def Store.empty : Store κ α := fun _ => none

/-- What may happen to a store; an answer is what is found under the key. -/
inductive Event (κ : Type u) (α : Type v)
  | fill (contents : Store κ α)
  | take (key : κ) (answer : Option α)
  | look (key : κ) (answer : Option α)
  | drop (keys : κ → Bool)

section

variable [DecidableEq κ]

namespace Event

def after : Event κ α → Store κ α → Store κ α
  | .fill contents, _ => contents
  | .take key _, s => fun k => if k = key then none else s k
  | .look _ _, s => s
  | .drop keys, s => fun k => if keys k then none else s k

/-- Only an empty store is filled, and answers are right. -/
def Allowed : Event κ α → Store κ α → Prop
  | .fill _, s => s = Store.empty
  | .take key answer, s => answer = s key
  | .look key answer, s => answer = s key
  | .drop _, _ => True

/-- Whatever was under the key before, it is not there because of that any more. -/
def removes (key : κ) : Event κ α → Bool
  | .fill _ => true
  | .take k _ => k = key
  | .look _ _ => false
  | .drop keys => keys key

def puts (key : κ) : Event κ α → Bool
  | .fill contents => (contents key).isSome
  | _ => false

def gives (key : κ) : Event κ α → Bool
  | .take k answer => k = key && answer.isSome
  | _ => false

def wastes (s : Store κ α) (key : κ) : Event κ α → Bool
  | .drop keys => keys key && (s key).isSome
  | _ => false

theorem after_of_not_removes {e : Event κ α} {s : Store κ α} {key : κ}
    (h : e.removes key = false) : e.after s key = s key := by
  cases e with
  | fill contents => cases h
  | take k answer =>
    have hne : ¬ k = key := of_decide_eq_false h
    exact if_neg fun heq => hne heq.symm
  | look k answer => rfl
  | drop keys =>
    show (if keys key then none else s key) = s key
    rw [show keys key = false from h]
    rfl

/-- One event moves at most one item under a key, and moves it somewhere. -/
theorem balance {e : Event κ α} {s : Store κ α} (he : e.Allowed s) (key : κ) :
    (s key).isSome.toNat + (e.puts key).toNat =
      (e.gives key).toNat + (e.wastes s key).toNat + (e.after s key).isSome.toNat := by
  cases e with
  | fill contents =>
    have hempty : s = Store.empty := he
    simp [puts, gives, wastes, after, hempty, Store.empty]
  | take k answer =>
    have hanswer : answer = s k := he
    by_cases heq : k = key
    · simp [puts, gives, wastes, after, hanswer, heq]
    · simp [puts, gives, wastes, after, heq, Ne.symm heq]
  | look k answer => simp [puts, gives, wastes, after]
  | drop keys => cases hkey : keys key <;> simp [puts, gives, wastes, after, hkey]

end Event

/-! ## 2. Histories -/

/-- What a store holds after a history; the newest event comes first. -/
def heldAfter : List (Event κ α) → Store κ α
  | [] => Store.empty
  | e :: history => e.after (heldAfter history)

/-- Every event was allowed when it happened. -/
def Lawful : List (Event κ α) → Prop
  | [] => True
  | e :: history => e.Allowed (heldAfter history) ∧ Lawful history

/-- An item is held when it was put there once and nothing has happened to it since. -/
theorem heldAfter_eq_some {history : List (Event κ α)} {key : κ} {a : α} :
    heldAfter history key = some a ↔ ∃ later contents earlier,
      history = later ++ .fill contents :: earlier ∧ contents key = some a ∧
      ∀ e ∈ later, e.removes key = false := by
  constructor
  · intro h
    induction history with
    | nil => cases h
    | cons e history ih =>
      cases hremoves : e.removes key with
      | false =>
        -- the event leaves the key alone, so the item comes from before it
        rw [heldAfter, Event.after_of_not_removes hremoves] at h
        obtain ⟨later, contents, earlier, rfl, hcontents, hlater⟩ := ih h
        exact ⟨e :: later, contents, earlier, rfl, hcontents,
          List.forall_mem_cons.mpr ⟨hremoves, hlater⟩⟩
      | true =>
        cases e with
        | fill contents => exact ⟨[], contents, history, rfl, h, by simp⟩
        | take k answer =>
          have heq : k = key := of_decide_eq_true hremoves
          simp [heldAfter, Event.after, heq] at h
        | look k answer => cases hremoves
        | drop keys =>
          have hkey : keys key = true := hremoves
          simp [heldAfter, Event.after, hkey] at h
  · rintro ⟨later, contents, earlier, rfl, hcontents, hlater⟩
    induction later with
    | nil => exact hcontents
    | cons e later ih =>
      obtain ⟨he, hlater⟩ := List.forall_mem_cons.mp hlater
      show e.after (heldAfter (later ++ .fill contents :: earlier)) key = some a
      rw [Event.after_of_not_removes he, ih hlater]

/-- How often something under the key was thrown away. -/
def wasted (key : κ) : List (Event κ α) → Nat
  | [] => 0
  | e :: history => (e.wastes (heldAfter history) key).toNat + wasted key history

/-- Nothing is lost and nothing is given away twice: what was put under a key has been given away,
has been thrown away, or is still there. -/
theorem Lawful.balance {history : List (Event κ α)} (h : Lawful history) (key : κ) :
    history.countP (Event.puts key) = history.countP (Event.gives key) + wasted key history +
      (heldAfter history key).isSome.toNat := by
  induction history with
  | nil => rfl
  | cons e history ih =>
    obtain ⟨he, hrest⟩ := h
    have hevent := e.balance he key
    have hearlier := ih hrest
    have hcount (p : Event κ α → Bool) :
        (e :: history).countP p = history.countP p + (p e).toNat := by
      cases hp : p e <;> simp [hp]
    rw [hcount, hcount, wasted, heldAfter]
    omega

end

/-! ## 3. Machines -/

/-- A machine each of whose steps is an event of the store it holds, or none. -/
structure Machine (σ β : Type w) (κ : Type u) (α : Type v) [DecidableEq κ] where
  valid : σ → Prop
  next : β → σ → σ
  held : σ → Store κ α
  event : β → σ → Option (Event κ α)
  next_valid : ∀ {step s}, valid s → valid (next step s)
  quiet : ∀ {step s}, valid s → event step s = none → held (next step s) = held s
  allowed : ∀ {step s e}, valid s → event step s = some e → e.Allowed (held s)
  held_next : ∀ {step s e}, valid s → event step s = some e → held (next step s) = e.after (held s)

namespace Machine

variable [DecidableEq κ] (m : Machine σ β κ α)

def run (steps : List β) (s : σ) : σ := steps.foldl (fun s step => m.next step s) s

/-- The events of a run, the newest first. -/
def history : List β → σ → List (Event κ α)
  | [], _ => []
  | step :: steps, s => history steps (m.next step s) ++ (m.event step s).toList

theorem history_append (steps steps' : List β) (s : σ) :
    m.history (steps ++ steps') s = m.history steps' (m.run steps s) ++ m.history steps s := by
  induction steps generalizing s with
  | nil => exact (List.append_nil _).symm
  | cons step steps ih =>
    show m.history (steps ++ steps') (m.next step s) ++ (m.event step s).toList = _
    rw [ih, List.append_assoc]
    rfl

/-- An event of the history belongs to a step of the run. -/
theorem history_split {steps : List β} {s : σ} {later earlier : List (Event κ α)} {e : Event κ α}
    (h : m.history steps s = later ++ e :: earlier) :
    ∃ before step after, steps = before ++ step :: after ∧
      m.event step (m.run before s) = some e ∧
      m.history after (m.next step (m.run before s)) = later := by
  induction steps generalizing s later earlier with
  | nil => simp [history] at h
  | cons first steps ih =>
    have hlater (earlier' : List (Event κ α))
        (h : m.history steps (m.next first s) = later ++ e :: earlier') :
        ∃ before step after, first :: steps = before ++ step :: after ∧
          m.event step (m.run before s) = some e ∧
          m.history after (m.next step (m.run before s)) = later := by
      obtain ⟨before, step, after, rfl, hevent, hafter⟩ := ih h
      exact ⟨first :: before, step, after, rfl, hevent, hafter⟩
    rw [history] at h
    cases hfirst : m.event first s with
    | none =>
      rw [hfirst, Option.toList_none, List.append_nil] at h
      exact hlater earlier h
    | some e' =>
      rw [hfirst, Option.toList_some] at h
      -- the event of the first step is the last of the list
      rcases List.eq_nil_or_concat earlier with rfl | ⟨earlier', last, rfl⟩
      · obtain ⟨hrest, heq⟩ := List.append_inj' h rfl
        rw [← List.singleton_inj.mp heq]
        exact ⟨[], first, steps, rfl, hfirst, hrest⟩
      · rw [List.concat_eq_append, ← List.cons_append, ← List.append_assoc] at h
        exact hlater earlier' (List.append_inj' h rfl).1

variable {m} {s : σ}

theorem run_valid (hs : m.valid s) (steps : List β) : m.valid (m.run steps s) := by
  induction steps generalizing s with
  | nil => exact hs
  | cons step steps ih => exact ih (m.next_valid hs)

/-- One step of the machine. -/
theorem step_follows (hs : m.valid s) {past : List (Event κ α)} (hheld : m.held s = heldAfter past)
    (hpast : Lawful past) (step : β) :
    m.held (m.next step s) = heldAfter ((m.event step s).toList ++ past) ∧
      Lawful ((m.event step s).toList ++ past) := by
  cases hevent : m.event step s with
  | none => exact ⟨(m.quiet hs hevent).trans hheld, hpast⟩
  | some e =>
    have hallowed := m.allowed hs hevent
    have hnext := m.held_next hs hevent
    rw [hheld] at hallowed hnext
    exact ⟨hnext, hallowed, hpast⟩

/-- A run of the machine is a lawful history of its store. -/
theorem run_follows (hs : m.valid s) {past : List (Event κ α)} (hheld : m.held s = heldAfter past)
    (hpast : Lawful past) (steps : List β) :
    m.held (m.run steps s) = heldAfter (m.history steps s ++ past) ∧
      Lawful (m.history steps s ++ past) := by
  induction steps generalizing s past with
  | nil => exact ⟨hheld, hpast⟩
  | cons step steps ih =>
    obtain ⟨hheld', hpast'⟩ := step_follows hs hheld hpast step
    rw [history, List.append_assoc]
    exact ih (m.next_valid hs) hheld' hpast'

section

variable (hs : m.valid s) (hempty : m.held s = Store.empty) (steps : List β)

include hs hempty

theorem run_lawful : Lawful (m.history steps s) := by
  have hnothing : m.held s = heldAfter [] := hempty
  have h := (run_follows hs hnothing trivial steps).2
  rwa [List.append_nil] at h

theorem run_held : m.held (m.run steps s) = heldAfter (m.history steps s) := by
  have hnothing : m.held s = heldAfter [] := hempty
  have h := (run_follows hs hnothing trivial steps).1
  rwa [List.append_nil] at h

/-- A machine that started empty holds an item when one of its steps was a fill with that item, and
no later step has removed it. -/
theorem held_run_iff {key : κ} {a : α} : m.held (m.run steps s) key = some a ↔
    ∃ before step after contents, steps = before ++ step :: after ∧
      m.event step (m.run before s) = some (.fill contents) ∧ contents key = some a ∧
      ∀ e ∈ m.history after (m.next step (m.run before s)), e.removes key = false := by
  rw [run_held hs hempty, heldAfter_eq_some]
  constructor
  · rintro ⟨later, contents, earlier, hhistory, hcontents, hlater⟩
    obtain ⟨before, step, after, hsteps, hevent, hafter⟩ := m.history_split hhistory
    exact ⟨before, step, after, contents, hsteps, hevent, hcontents, hafter ▸ hlater⟩
  · rintro ⟨before, step, after, contents, rfl, hevent, hcontents, hlater⟩
    refine ⟨_, contents, m.history before s, ?_, hcontents, hlater⟩
    rw [history_append, history, hevent, List.append_assoc]
    rfl

end

end Machine

end OneShot
