import Mathlib.InformationTheory.Coding.UniquelyDecodable

/-!
# Self-delimiting encodings

An encoding is prefix-free when what it writes is found again at the front of any longer text.
Words of one length and terminated strings are, and so is one such encoding behind another; lists
of what they encode are then told apart by the concatenation.
-/

namespace Encoding

variable {α β δ γ : Type*}

/-- Whatever follows, the encodings of two valid values are told apart. -/
def PrefixFree (valid : α → Prop) (encode : α → List γ) : Prop :=
  ∀ a b, valid a → valid b → ∀ s t, encode a ++ s = encode b ++ t → a = b ∧ s = t

theorem PrefixFree.of_length {valid : α → Prop} {encode : α → List γ} {n : Nat}
    (hlength : ∀ a, valid a → (encode a).length = n)
    (hinj : ∀ a b, valid a → valid b → encode a = encode b → a = b) :
    PrefixFree valid encode := by
  intro a b ha hb s t h
  obtain ⟨hab, hst⟩ := List.append_inj h ((hlength a ha).trans (hlength b hb).symm)
  exact ⟨hinj a b ha hb hab, hst⟩

/-- Strings with a terminator that does not occur in them. -/
theorem prefixFree_terminated (terminator : γ) :
    PrefixFree (fun s : List γ => terminator ∉ s) fun s => s ++ [terminator] := by
  intro a
  induction a with
  | nil =>
    intro b _ hb s t h
    cases b with
    | nil => exact ⟨rfl, (List.cons.inj h).2⟩
    | cons c b => exact absurd (List.cons.inj h).1 (List.ne_of_not_mem_cons hb)
  | cons c a ih =>
    intro b ha hb s t h
    cases b with
    | nil => exact absurd (List.cons.inj h).1.symm (List.ne_of_not_mem_cons ha)
    | cons c' b =>
      obtain ⟨rfl, htail⟩ := List.cons.inj h
      obtain ⟨rfl, hst⟩ := ih b (List.not_mem_of_not_mem_cons ha) (List.not_mem_of_not_mem_cons hb)
        s t htail
      exact ⟨rfl, hst⟩

/-- One encoding behind another. -/
theorem PrefixFree.append {validA : α → Prop} {validB : β → Prop} {encodeA : α → List γ}
    {encodeB : β → List γ} (hA : PrefixFree validA encodeA) (hB : PrefixFree validB encodeB) :
    PrefixFree (fun p : α × β => validA p.1 ∧ validB p.2) fun p => encodeA p.1 ++ encodeB p.2 := by
  rintro ⟨a, b⟩ ⟨a', b'⟩ ⟨ha, hb⟩ ⟨ha', hb'⟩ s t h
  rw [List.append_assoc, List.append_assoc] at h
  obtain ⟨rfl, hrest⟩ := hA a a' ha ha' _ _ h
  obtain ⟨rfl, hst⟩ := hB b b' hb hb' s t hrest
  exact ⟨rfl, hst⟩

/-- The parts of a value are encoded instead of the value. -/
theorem PrefixFree.comap {valid : α → Prop} {encode : α → List γ} (h : PrefixFree valid encode)
    {parts : δ → α} (hparts : Function.Injective parts) :
    PrefixFree (fun d => valid (parts d)) fun d => encode (parts d) := by
  intro a b ha hb s t heq
  obtain ⟨hab, hst⟩ := h (parts a) (parts b) ha hb s t heq
  exact ⟨hparts hab, hst⟩

section

variable {valid : α → Prop} {encode : α → List γ}

theorem PrefixFree.injOn (h : PrefixFree valid encode) : Set.InjOn encode {a | valid a} := by
  intro a ha b hb hab
  exact (h a b ha hb [] [] (congrArg (· ++ []) hab)).1

/-- The code words of a prefix-free encoding that writes something for every value. -/
theorem PrefixFree.uniquelyDecodable (h : PrefixFree valid encode)
    (hne : ∀ a, valid a → encode a ≠ []) :
    InformationTheory.UniquelyDecodable (encode '' {a | valid a}) := by
  intro ws
  induction ws with
  | nil =>
    intro ws' _ hws' hflat
    cases ws' with
    | nil => rfl
    | cons w' ws' =>
      obtain ⟨a, ha, rfl⟩ := hws' w' List.mem_cons_self
      exact absurd (List.append_eq_nil_iff.mp hflat.symm).1 (hne a ha)
  | cons w ws ih =>
    intro ws' hws hws' hflat
    obtain ⟨a, ha, rfl⟩ := hws w List.mem_cons_self
    cases ws' with
    | nil => exact absurd (List.append_eq_nil_iff.mp hflat).1 (hne a ha)
    | cons w' ws' =>
      -- the first words agree, and so do the texts behind them
      obtain ⟨b, hb, rfl⟩ := hws' w' List.mem_cons_self
      obtain ⟨rfl, hrest⟩ := h a b ha hb _ _ hflat
      rw [ih ws' (fun v hv => hws v (List.mem_cons_of_mem _ hv))
        (fun v hv => hws' v (List.mem_cons_of_mem _ hv)) hrest]

/-- Lists of values are told apart by the text of all of them. -/
theorem PrefixFree.flatMap_inj (h : PrefixFree valid encode)
    (hne : ∀ a, valid a → encode a ≠ []) {as bs : List α} (has : ∀ a ∈ as, valid a)
    (hbs : ∀ b ∈ bs, valid b) (heq : as.flatMap encode = bs.flatMap encode) : as = bs := by
  have hwords {cs : List α} (hcs : ∀ c ∈ cs, valid c) :
      ∀ w ∈ cs.map encode, w ∈ encode '' {a | valid a} :=
    List.forall_mem_map.mpr fun c hc => ⟨c, hcs c hc, rfl⟩
  have hmap : as.map encode = bs.map encode :=
    h.uniquelyDecodable hne _ _ (hwords has) (hwords hbs) heq
  clear heq
  induction as generalizing bs with
  | nil => exact (List.map_eq_nil_iff.mp hmap.symm).symm
  | cons a as ih =>
    obtain ⟨b, bs', rfl, hab, hrest⟩ := List.map_eq_cons_iff.mp hmap.symm
    rw [List.forall_mem_cons] at has hbs
    rw [h.injOn has.1 hbs.1 hab.symm, ih has.2 hbs.2 hrest.symm]

end

end Encoding
