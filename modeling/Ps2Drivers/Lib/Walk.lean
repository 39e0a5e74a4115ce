import Mathlib.Data.List.Basic
import Ps2Drivers.Lib.Program

/-!
# Programs that ask for things one after another

A program that needs a list of things asks for them in order, and gives up at the first one it does
not get, or when another call tells it to.  `Walks` says so of the program; its rules follow the
shape of the code.  `Passes` is what such a program does in an environment.
-/

namespace Program

variable {I : Interface} {κ α β σ : Type}

/-- Which calls ask for something, which answers grant it, and which calls have nothing to do with
it. -/
structure Asking (I : Interface) (κ : Type) where
  item : I.Op → Option κ
  granted : (op : I.Op) → I.Answer op → Bool
  quiet : I.Op → Prop

/-- How far a program has come: through the list, or it was refused `k`, or it has given up over the
answer to another call.  `rest` has not been asked for. -/
inductive Walk (I : Interface) (κ : Type)
  | done
  | refused (k : κ) (rest : List κ)
  | stopped (op : I.Op) (answer : I.Answer op) (rest : List κ)

def Walk.left : Walk I κ → List κ
  | .done => []
  | .refused k rest => k :: rest
  | .stopped _ _ rest => rest

section

variable (ask : Asking I κ)

/-- The program asks for nothing, and what it returns satisfies `R`. -/
inductive Stops (R : α → Prop) : Program I α → Prop
  | ret {a : α} (h : R a) : Stops R (.ret a)
  | quiet {op : I.Op} {next : I.Answer op → Program I α} (hop : ask.quiet op)
      (h : ∀ answer, Stops R (next answer)) : Stops R (.call op next)

/-- The program asks for the things in order, stops when one is refused or another call gives an
answer that ends it, and returns as `Q` says of how far it has come. -/
inductive Walks (Q : Walk I κ → α → Prop) : List κ → Program I α → Prop
  | ret {a : α} (h : Q .done a) : Walks Q [] (.ret a)
  | quiet {ks : List κ} {op : I.Op} {next : I.Answer op → Program I α} (ends : I.Answer op → Prop)
      (hop : ask.quiet op) (hgoes : ∀ answer, ¬ ends answer → Walks Q ks (next answer))
      (hends : ∀ answer, ends answer → Stops ask (Q (.stopped op answer ks)) (next answer)) :
      Walks Q ks (.call op next)
  | ask {k : κ} {ks : List κ} {op : I.Op} {next : I.Answer op → Program I α}
      (hop : ask.item op = some k)
      (hgranted : ∀ answer, ask.granted op answer = true → Walks Q ks (next answer))
      (hrefused : ∀ answer, ask.granted op answer = false →
        Stops ask (Q (.refused k ks)) (next answer)) : Walks Q (k :: ks) (.call op next)

/-- What a program that walks through a list does in an environment. -/
inductive Passes (h : Handler I σ) : List κ → Walk I κ → σ → σ → Prop
  | done (s : σ) : Passes h [] .done s s
  | quiet {ks : List κ} {w : Walk I κ} {op : I.Op} {s t : σ} {r : I.Answer op × σ}
      (hop : ask.quiet op) (hstep : h op s = some r) (hrest : Passes h ks w r.2 t) :
      Passes h ks w s t
  | stopped {ks : List κ} {op : I.Op} {s t : σ} {r : I.Answer op × σ}
      (hop : ask.quiet op) (hstep : h op s = some r) (hrest : Passes h [] .done r.2 t) :
      Passes h ks (.stopped op r.1 ks) s t
  | granted {k : κ} {ks : List κ} {w : Walk I κ} {op : I.Op} {s t : σ} {r : I.Answer op × σ}
      (hop : ask.item op = some k) (hstep : h op s = some r) (hr : ask.granted op r.1 = true)
      (hrest : Passes h ks w r.2 t) : Passes h (k :: ks) w s t
  | refused {k : κ} {ks : List κ} {op : I.Op} {s t : σ} {r : I.Answer op × σ}
      (hop : ask.item op = some k) (hstep : h op s = some r) (hr : ask.granted op r.1 = false)
      (hrest : Passes h [] .done r.2 t) : Passes h (k :: ks) (.refused k ks) s t

end

variable {ask : Asking I κ} {Q Q' : Walk I κ → α → Prop} {R R' : α → Prop} {ks more : List κ}
  {p : Program I α} {f : α → Program I β}

/-! ## 1. Rules -/

theorem Stops.bind {S : β → Prop} (hp : Stops ask R p) (hf : ∀ a, R a → Stops ask S (f a)) :
    Stops ask S (p >>= f) := by
  show Stops ask S (p.bind f)
  induction hp with
  | ret h => exact hf _ h
  | quiet hop _ ih => exact .quiet hop ih

theorem Stops.imp (hp : Stops ask R p) (hR : ∀ a, R a → R' a) : Stops ask R' p := by
  induction hp with
  | ret h => exact .ret (hR _ h)
  | quiet hop _ ih => exact .quiet hop ih

/-- A call whose answer does not matter. -/
theorem Walks.skip {op : I.Op} {next : I.Answer op → Program I α} (hop : ask.quiet op)
    (h : ∀ answer, Walks ask Q ks (next answer)) : Walks ask Q ks (.call op next) :=
  .quiet (fun _ => False) hop (fun answer _ => h answer) fun _ hno => hno.elim

/-- The rest of a program goes on with `more` when it has come through the list, and asks for
nothing otherwise. -/
theorem Walks.bind {Q' : Walk I κ → β → Prop} (hp : Walks ask Q ks p)
    (hdone : ∀ a, Q .done a → Walks ask Q' more (f a))
    (hstopped : ∀ a op answer rest, Q (.stopped op answer rest) a →
      Stops ask (Q' (.stopped op answer (rest ++ more))) (f a))
    (hrefused : ∀ a k rest, k ∈ ks → Q (.refused k rest) a →
      Stops ask (Q' (.refused k (rest ++ more))) (f a)) :
    Walks ask Q' (ks ++ more) (p >>= f) := by
  show Walks ask Q' (ks ++ more) (p.bind f)
  induction hp with
  | ret h => exact hdone _ h
  | @quiet ks op next ends hop _ hends ih =>
    refine .quiet ends hop (fun answer hgoes => ih answer hgoes hrefused) fun answer hanswer => ?_
    exact (hends answer hanswer).bind fun a => hstopped a op answer ks
  | @ask k ks op next hop _ hstops ih =>
    refine .ask hop (fun answer hanswer => ?_) fun answer hanswer => ?_
    · exact ih answer hanswer fun a k' rest hk' => hrefused a k' rest (List.mem_cons_of_mem k hk')
    · exact (hstops answer hanswer).bind fun a => hrefused a k ks List.mem_cons_self

/-! ## 2. Runs -/

variable {h : Handler I σ}

theorem Stops.passes (hp : Stops ask R p) {s t : σ} {a : α} (hrun : p.run h s = some (a, t)) :
    R a ∧ Passes ask h [] .done s t := by
  induction hp generalizing s with
  | ret hR =>
    cases hrun
    exact ⟨hR, .done _⟩
  | @quiet op next hop _ ih =>
    rw [run] at hrun
    obtain ⟨r, hstep, hrun⟩ := Option.bind_eq_some_iff.mp hrun
    obtain ⟨hR, hrest⟩ := ih r.1 hrun
    exact ⟨hR, .quiet hop hstep hrest⟩

/-- Every run of the program passes through its list. -/
theorem Walks.passes (hp : Walks ask Q ks p) {s t : σ} {a : α} (hrun : p.run h s = some (a, t)) :
    ∃ w, Q w a ∧ Passes ask h ks w s t := by
  induction hp generalizing s with
  | ret hQ =>
    cases hrun
    exact ⟨.done, hQ, .done _⟩
  | @quiet ks op next ends hop _ hends ih =>
    rw [run] at hrun
    obtain ⟨r, hstep, hrun⟩ := Option.bind_eq_some_iff.mp hrun
    by_cases hanswer : ends r.1
    · obtain ⟨hQ, hrest⟩ := (hends r.1 hanswer).passes hrun
      exact ⟨.stopped op r.1 ks, hQ, .stopped hop hstep hrest⟩
    · obtain ⟨w, hQ, hrest⟩ := ih r.1 hanswer hrun
      exact ⟨w, hQ, .quiet hop hstep hrest⟩
  | @ask k ks op next hop _ hrefused ih =>
    rw [run] at hrun
    obtain ⟨r, hstep, hrun⟩ := Option.bind_eq_some_iff.mp hrun
    cases hanswer : ask.granted op r.1 with
    | true =>
      obtain ⟨w, hQ, hrest⟩ := ih r.1 hanswer hrun
      exact ⟨w, hQ, .granted hop hstep hanswer hrest⟩
    | false =>
      obtain ⟨hQ, hrest⟩ := (hrefused r.1 hanswer).passes hrun
      exact ⟨.refused k ks, hQ, .refused hop hstep hanswer hrest⟩

end Program
