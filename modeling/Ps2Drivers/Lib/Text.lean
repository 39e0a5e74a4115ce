import Mathlib.Data.List.Induction
import Mathlib.Data.Nat.Digits.Defs
import Ps2Drivers.Lib.CString

/-!
# Lines and fields of a text

What `fgets` and `strtok` make of a text: the pieces of its lines when a buffer is shorter than a
line, and the fields between delimiters, which `strtok` returns without the empty ones.  A field
that is a number means one thing to `strtoul` in base ten and may mean another to the C compiler.
-/

open Binary

namespace CString

/-! ## 1. Lines -/

/-- The lines of a text, each with the newline that ends it. -/
def physicalLines : Bytes → List Bytes
  | [] => []
  | c :: cs =>
    if c = 10 then [c] :: physicalLines cs
    else
      match physicalLines cs with
      | [] => [[c]]
      | line :: lines => (c :: line) :: lines

/-- What `fgets` with a buffer of `size` bytes reads of one line, piece by piece. -/
def pieces (size : Nat) (line : Bytes) : List Bytes := readLines size line.length line

/-- A text is empty, holds no delimiter, or is a part without one in front of a delimiter and a
text. -/
theorem delimited_induction (delim : UInt8) {motive : Bytes → Prop} (nil : motive [])
    (last : ∀ l, delim ∉ l → l ≠ [] → motive l)
    (part : ∀ l rest, delim ∉ l → motive rest → motive (l ++ delim :: rest)) (text : Bytes) :
    motive text := by
  by_cases hdelim : delim ∈ text
  · obtain ⟨l, rest, heq, hl⟩ := List.eq_append_cons_of_mem hdelim
    have hshorter : rest.length < text.length := by
      rw [heq, List.length_append, List.length_cons]
      omega
    rw [heq]
    exact part l rest hl (delimited_induction delim nil last part rest)
  · by_cases hne : text = []
    · rw [hne]
      exact nil
    · exact last text hdelim hne
termination_by text.length

section

variable {size : Nat} {l rest line text : Bytes}

theorem physicalLines_last (hl : 10 ∉ l) (hne : l ≠ []) : physicalLines l = [l] := by
  induction l with
  | nil => exact absurd rfl hne
  | cons c cs ih =>
    rw [List.mem_cons, not_or] at hl
    rw [physicalLines, if_neg (Ne.symm hl.1)]
    cases cs with
    | nil => rfl
    | cons c' cs => rw [ih hl.2 (List.cons_ne_nil c' cs)]

theorem physicalLines_append (hl : 10 ∉ l) (rest : Bytes) :
    physicalLines (l ++ 10 :: rest) = (l ++ [10]) :: physicalLines rest := by
  induction l with
  | nil => rw [List.nil_append, physicalLines, if_pos rfl, List.nil_append]
  | cons c cs ih =>
    rw [List.mem_cons, not_or] at hl
    rw [List.cons_append, physicalLines, if_neg (Ne.symm hl.1), ih hl.2, List.cons_append]

/-- A line is not empty, and a newline only ends it. -/
theorem physicalLines_spec (text : Bytes) :
    ∀ line ∈ physicalLines text, line ≠ [] ∧ 10 ∉ line.dropLast := by
  induction text using delimited_induction 10 with
  | nil => exact List.forall_mem_nil _
  | last l hl hne =>
    rw [physicalLines_last hl hne, List.forall_mem_singleton]
    exact ⟨hne, fun h => hl (List.dropLast_subset l h)⟩
  | part l rest hl ih =>
    rw [physicalLines_append hl, List.forall_mem_cons, List.dropLast_concat]
    exact ⟨⟨List.append_ne_nil_of_right_ne_nil l (List.cons_ne_nil _ _), hl⟩, ih⟩

theorem physicalLines_flatten (text : Bytes) : (physicalLines text).flatten = text := by
  induction text using delimited_induction 10 with
  | nil => rfl
  | last l hl hne => rw [physicalLines_last hl hne, List.flatten_singleton]
  | part l rest hl ih =>
    rw [physicalLines_append hl, List.flatten_cons, ih, List.append_assoc]
    rfl

/-! ## 2. Pieces of lines -/

theorem lineLength_last (hl : 10 ∉ l) (room : Nat) : lineLength room l = min room l.length := by
  induction l generalizing room with
  | nil => cases room <;> rfl
  | cons c cs ih =>
    rw [List.mem_cons, not_or] at hl
    cases room with
    | zero => rw [lineLength, Nat.zero_min]
    | succ room =>
      rw [lineLength, if_neg (Ne.symm hl.1), ih hl.2, List.length_cons]
      omega

theorem lineLength_append (hl : 10 ∉ l) (rest : Bytes) (room : Nat) :
    lineLength room (l ++ 10 :: rest) = min room (l.length + 1) := by
  induction l generalizing room with
  | nil =>
    cases room with
    | zero => rfl
    | succ room =>
      rw [List.nil_append, lineLength, if_pos rfl, List.length_nil]
      omega
  | cons c cs ih =>
    rw [List.mem_cons, not_or] at hl
    cases room with
    | zero => rw [List.cons_append, lineLength, Nat.zero_min]
    | succ room =>
      rw [List.cons_append, lineLength, if_neg (Ne.symm hl.1), ih hl.2, List.length_cons]
      omega

theorem readLines_nil (size fuel : Nat) : readLines size fuel [] = [] := by
  have hread : fgets size [] = none := by
    have hroom : lineLength (size - 1) [] = 0 := Nat.le_zero.mp (lineLength_le _ _).2
    rw [fgets, hroom]
    rfl
  cases fuel with
  | zero => rfl
  | succ fuel => rw [readLines, hread]

/-- Fuel for every byte is enough. -/
theorem readLines_fuel {fuel fuel' : Nat} {s : Bytes} (h : s.length ≤ fuel)
    (h' : s.length ≤ fuel') : readLines size fuel s = readLines size fuel' s := by
  induction fuel generalizing fuel' s with
  | zero =>
    rw [List.eq_nil_of_length_eq_zero (Nat.le_zero.mp h), readLines_nil, readLines_nil]
  | succ fuel ih =>
    cases fuel' with
    | zero =>
      rw [List.eq_nil_of_length_eq_zero (Nat.le_zero.mp h'), readLines_nil, readLines_nil]
    | succ fuel' =>
      rw [readLines, readLines]
      cases hread : fgets size s with
      | none => rfl
      | some r =>
        obtain ⟨happ, hpos, -⟩ := fgets_some hread
        have hlength := congrArg List.length happ
        rw [List.length_append] at hlength
        exact congrArg (r.1 :: ·) (ih (by omega) (by omega))

/-- One call on a line with its newline, and whatever follows it. -/
theorem fgets_append (hsize : 2 ≤ size) (hl : 10 ∉ l) (rest : Bytes) :
    fgets size (l ++ 10 :: rest) =
      if l.length + 1 ≤ size - 1 then some (l ++ [10], rest)
      else some (l.take (size - 1), l.drop (size - 1) ++ 10 :: rest) := by
  rw [fgets, lineLength_append hl, if_neg (by omega)]
  by_cases hshort : l.length + 1 ≤ size - 1
  · rw [if_pos hshort, Nat.min_eq_right hshort, show l ++ 10 :: rest = l ++ [10] ++ rest by simp,
      List.take_left' (by simp), List.drop_left' (by simp)]
  · rw [if_neg hshort, Nat.min_eq_left (by omega), List.take_append_of_le_length (by omega),
      List.drop_append_of_le_length (by omega)]

/-- The pieces of a line come before those of the text behind it. -/
theorem readLines_append (hsize : 2 ≤ size) (hl : 10 ∉ l) (rest : Bytes) {fuel : Nat}
    (hfuel : (l ++ 10 :: rest).length ≤ fuel) :
    readLines size fuel (l ++ 10 :: rest) =
      pieces size (l ++ [10]) ++ readLines size rest.length rest := by
  induction fuel generalizing l with
  | zero => simp at hfuel
  | succ fuel ih =>
    rw [List.length_append, List.length_cons] at hfuel
    have hline : pieces size (l ++ [10]) = readLines size (fuel + 1) (l ++ [10]) :=
      readLines_fuel (Nat.le_refl _) (by simp; omega)
    rw [hline, readLines, readLines, fgets_append hsize hl, fgets_append hsize hl []]
    by_cases hshort : l.length + 1 ≤ size - 1
    · -- the newline is reached
      rw [if_pos hshort, if_pos hshort]
      dsimp only
      rw [readLines_nil, readLines_fuel (by omega) (Nat.le_refl rest.length)]
      rfl
    · -- the buffer is full before
      rw [if_neg hshort, if_neg hshort]
      dsimp only
      have hdrop : 10 ∉ l.drop (size - 1) := fun h => hl (List.drop_subset _ _ h)
      have hlength : (l.drop (size - 1)).length + (size - 1) = l.length := by
        rw [List.length_drop]
        omega
      rw [ih hdrop (by rw [List.length_append, List.length_cons]; omega), List.cons_append]
      congr 2
      refine readLines_fuel (Nat.le_refl _) ?_
      rw [List.length_append, List.length_singleton]
      omega

/-- A text is read line by line, each line piece by piece. -/
theorem readLines_eq (hsize : 2 ≤ size) (text : Bytes) :
    readLines size text.length text = (physicalLines text).flatMap (pieces size) := by
  induction text using delimited_induction 10 with
  | nil => rfl
  | last l hl hne => rw [physicalLines_last hl hne, List.flatMap_singleton, pieces]
  | part l rest hl ih =>
    rw [readLines_append hsize hl rest (Nat.le_refl _), ih, physicalLines_append hl,
      List.flatMap_cons]

theorem pieces_flatten (hsize : 2 ≤ size) (line : Bytes) : (pieces size line).flatten = line :=
  readLines_flatten hsize line.length line (Nat.le_refl _)

/-- A line that fits the buffer is read at once. -/
theorem pieces_short (hne : line ≠ []) (hnewline : 10 ∉ line.dropLast)
    (hlength : line.length ≤ size - 1) : pieces size line = [line] := by
  have hpos : 0 < line.length := List.length_pos_iff.mpr hne
  have hall : lineLength (size - 1) line = line.length := by
    by_cases hmem : 10 ∈ line
    · -- then the newline is the last byte
      obtain ⟨l, rest, rfl, hl⟩ := List.eq_append_cons_of_mem hmem
      have hrest : rest = [] := by
        by_contra hrest
        rw [List.dropLast_append_of_ne_nil (List.cons_ne_nil _ _),
          List.dropLast_cons_of_ne_nil hrest] at hnewline
        exact hnewline (by simp)
      rw [hrest] at hlength ⊢
      rw [lineLength_append hl, Nat.min_eq_right (by simpa using hlength)]
      simp
    · rw [lineLength_last hmem, Nat.min_eq_right hlength]
  have hread : fgets size line = some (line, []) := by
    rw [fgets, hall, if_neg (by omega), List.take_length, List.drop_length]
  obtain ⟨fuel, hfuel⟩ : ∃ fuel, line.length = fuel + 1 := ⟨line.length - 1, by omega⟩
  rw [pieces, hfuel, readLines, hread]
  dsimp only
  rw [readLines_nil]

end

/-- Lines that were joined by newlines: the last of them is a line of the text unless it is
empty. -/
theorem physicalLines_intercalate {l : Bytes} (hl : 10 ∉ l) (lines : List Bytes) :
    physicalLines ([10].intercalate (l :: lines)) =
      if lines = [] then (if l = [] then [] else [l])
      else (l ++ [10]) :: physicalLines ([10].intercalate lines) := by
  cases lines with
  | nil =>
    rw [if_pos rfl, List.intercalate_singleton]
    split
    · rename_i hnone
      rw [hnone]
      rfl
    · rename_i hne
      exact physicalLines_last hl hne
  | cons next lines =>
    rw [if_neg (List.cons_ne_nil _ _), List.intercalate_cons_cons, List.append_assoc,
      List.singleton_append]
    exact physicalLines_append hl _

theorem physicalLines_intercalate_length {lines : List Bytes} {n : Nat}
    (hlines : ∀ l ∈ lines, 10 ∉ l ∧ l.length ≤ n) :
    ∀ line ∈ physicalLines ([10].intercalate lines), line.length ≤ n + 1 := by
  induction lines with
  | nil => exact List.forall_mem_nil _
  | cons l lines ih =>
    rw [List.forall_mem_cons] at hlines
    obtain ⟨⟨hl, hlength⟩, hlines⟩ := hlines
    rw [physicalLines_intercalate hl]
    split
    · split
      · exact List.forall_mem_nil _
      · rw [List.forall_mem_singleton]
        omega
    · rw [List.forall_mem_cons, List.length_append, List.length_singleton]
      exact ⟨by omega, ih hlines⟩

/-- When the buffer has room for every line, `fgets` reads line by line. -/
theorem readLines_short {size : Nat} (hsize : 2 ≤ size) {text : Bytes}
    (hshort : ∀ line ∈ physicalLines text, line.length < size) :
    readLines size text.length text = physicalLines text := by
  have hpieces : ∀ line ∈ physicalLines text, pieces size line = [line] := by
    intro line hline
    obtain ⟨hne, hnewline⟩ := physicalLines_spec text line hline
    exact pieces_short hne hnewline (Nat.le_sub_one_of_lt (hshort line hline))
  rw [readLines_eq hsize, List.flatMap_def, List.map_congr_left hpieces, ← List.flatMap_def,
    List.flatMap_singleton']

/-! ## 3. Fields -/

/-- The parts of a string between delimiters that are not empty. -/
def tokensOf (delim : UInt8) (s : Bytes) : List Bytes := (s.splitOn delim).filter (· != [])

section

variable {delim : UInt8} {s t w rest : Bytes}

/-- The text in front of a delimiter and the text behind it have their own tokens. -/
theorem tokensOf_append_cons (s rest : Bytes) :
    tokensOf delim (s ++ delim :: rest) = tokensOf delim s ++ tokensOf delim rest := by
  rw [tokensOf, List.splitOn_append_cons_self, List.filter_append, tokensOf, tokensOf]

theorem tokensOf_cons (s : Bytes) : tokensOf delim (delim :: s) = tokensOf delim s :=
  tokensOf_append_cons [] s

theorem tokensOf_single (ht : delim ∉ t) (hne : t ≠ []) : tokensOf delim t = [t] := by
  rw [tokensOf, List.splitOn_eq_singleton ht, List.filter_cons_of_pos (by simpa using hne),
    List.filter_nil]

theorem tokensOf_append (ht : delim ∉ t) (hne : t ≠ []) (rest : Bytes) :
    tokensOf delim (t ++ delim :: rest) = t :: tokensOf delim rest := by
  rw [tokensOf_append_cons, tokensOf_single ht hne, List.singleton_append]

/-- Without an empty part among them the tokens are all the parts. -/
theorem tokensOf_eq_splitOn (h : [] ∉ s.splitOn delim) : tokensOf delim s = s.splitOn delim :=
  List.filter_eq_self.mpr fun _ hpart => bne_iff_ne.mpr fun hnone => h (hnone ▸ hpart)

theorem tokensOf_length_le (delim : UInt8) (s : Bytes) :
    (tokensOf delim s).length ≤ (s.splitOn delim).length :=
  List.length_filter_le _ _

theorem length_splitOn (delim : UInt8) (s : Bytes) :
    (s.splitOn delim).length = s.count delim + 1 := by
  induction s using delimited_induction delim with
  | nil => rfl
  | last l hl _ => rw [List.splitOn_eq_singleton hl, List.count_eq_zero_of_not_mem hl]; rfl
  | part l rest hl ih =>
    rw [List.splitOn_append_cons_self_of_not_mem hl, List.length_cons, ih, List.count_append,
      List.count_eq_zero_of_not_mem hl, List.count_cons_self, Nat.zero_add]

/-- Replacing a delimiter by another splits a string in the same places. -/
theorem splitOn_replace {delim delim' : UInt8} {s : Bytes} (h : delim' ∉ s) :
    (s.map fun c => if c = delim then delim' else c).splitOn delim' = s.splitOn delim := by
  have hkept {l : Bytes} (hl : delim ∉ l) : (l.map fun c => if c = delim then delim' else c) = l :=
    (List.map_congr_left fun _ hc => if_neg (ne_of_mem_of_not_mem hc hl)).trans (List.map_id' l)
  induction s using delimited_induction delim with
  | nil => rfl
  | last l hl _ => rw [hkept hl, List.splitOn_eq_singleton h, List.splitOn_eq_singleton hl]
  | part l rest hl ih =>
    rw [List.mem_append, List.mem_cons, not_or, not_or] at h
    rw [List.map_append, List.map_cons, if_pos rfl, hkept hl,
      List.splitOn_append_cons_self_of_not_mem h.1, ih h.2.2,
      List.splitOn_append_cons_self_of_not_mem hl]

theorem count_replace (delim delim' : UInt8) (hne : delim ≠ delim') (s : Bytes) :
    (s.map fun c => if c = delim then delim' else c).count delim' =
      s.count delim + s.count delim' := by
  induction s with
  | nil => rfl
  | cons c cs ih =>
    rw [List.map_cons, List.count_cons, ih, List.count_cons, List.count_cons]
    grind

theorem splitOn_parts (delim : UInt8) (s : Bytes) : ∀ part ∈ s.splitOn delim, delim ∉ part := by
  induction s using delimited_induction delim with
  | nil => simp
  | last l hl _ =>
    rw [List.splitOn_eq_singleton hl, List.forall_mem_singleton]
    exact hl
  | part l rest hl ih =>
    rw [List.splitOn_append_cons_self_of_not_mem hl, List.forall_mem_cons]
    exact ⟨hl, ih⟩

/-- Bytes put in front of a string lengthen its first part, those put behind it its last. -/
theorem splitOn_front {ts : List Bytes} (hw : delim ∉ w) (h : s.splitOn delim = t :: ts) :
    (w ++ s).splitOn delim = (w ++ t) :: ts := by
  by_cases hdelim : delim ∈ s
  · obtain ⟨l, rest, rfl, hl⟩ := List.eq_append_cons_of_mem hdelim
    rw [List.splitOn_append_cons_self_of_not_mem hl] at h
    obtain ⟨rfl, rfl⟩ := List.cons.inj h
    rw [← List.append_assoc, List.splitOn_append_cons_self_of_not_mem (by simp [hw, hl])]
  · rw [List.splitOn_eq_singleton hdelim] at h
    obtain ⟨rfl, rfl⟩ := List.cons.inj h
    rw [List.splitOn_eq_singleton (by simp [hw, hdelim])]

theorem splitOn_behind {ts : List Bytes} (hw : delim ∉ w) (h : s.splitOn delim = ts ++ [t]) :
    (s ++ w).splitOn delim = ts ++ [t ++ w] := by
  induction s using delimited_induction delim generalizing ts with
  | nil =>
    obtain ⟨rfl, rfl⟩ := List.append_singleton_inj.mp (h.symm.trans (List.nil_append [[]]).symm)
    rw [List.nil_append, List.splitOn_eq_singleton hw, List.nil_append]
  | last l hl _ =>
    rw [List.splitOn_eq_singleton hl] at h
    obtain ⟨rfl, rfl⟩ := List.append_singleton_inj.mp (h.symm.trans (List.nil_append _).symm)
    rw [List.splitOn_eq_singleton (by simp [hw, hl]), List.nil_append]
  | part l rest hl ih =>
    rw [List.splitOn_append_cons_self_of_not_mem hl] at h
    rw [List.append_assoc, List.cons_append, List.splitOn_append_cons_self_of_not_mem hl]
    cases ts with
    | nil => exact absurd (List.cons.inj h).2 (List.splitOn_ne_nil _ _)
    | cons t' ts =>
      rw [List.cons_append, List.cons.injEq] at h
      rw [h.1, ih h.2, List.cons_append]

theorem tokensOf_skip (hskipped : ∀ c ∈ s, c = delim) (rest : Bytes) :
    tokensOf delim (s ++ rest) = tokensOf delim rest := by
  induction s with
  | nil => rfl
  | cons c s ih =>
    rw [List.forall_mem_cons] at hskipped
    rw [hskipped.1, List.cons_append, tokensOf_cons, ih hskipped.2]

/-- What the successive calls of `strtok` return. -/
theorem strtok_tokensOf (delim : UInt8) (s : Bytes) :
    tokensOf delim s =
      match strtok delim s with
      | none => []
      | some (token, rest) => token :: tokensOf delim rest := by
  cases h : strtok delim s with
  | none =>
    have hskip := tokensOf_skip (strtok_none.mp h) []
    rw [List.append_nil] at hskip
    rw [hskip]
    rfl
  | some r =>
    obtain ⟨token, rest⟩ := r
    obtain ⟨hne, htoken, -⟩ := strtok_some h
    obtain ⟨skipped, tail, hskipped, rfl, htail⟩ := strtok_splits h
    rw [List.append_assoc, tokensOf_skip hskipped]
    rcases htail with ⟨rfl, rfl⟩ | rfl
    · rw [List.append_nil, tokensOf_single htoken hne]
      rfl
    · exact tokensOf_append htoken hne rest

/-- The tokens hold every byte but the delimiters. -/
theorem tokensOf_flatten (delim : UInt8) (s : Bytes) :
    (tokensOf delim s).flatten = s.filter (· != delim) := by
  have hkeep {l : Bytes} (hl : delim ∉ l) : l.filter (· != delim) = l :=
    List.filter_eq_self.mpr fun c hc => bne_iff_ne.mpr fun h => hl (h ▸ hc)
  induction s using delimited_induction delim with
  | nil => rfl
  | last l hl hne => rw [tokensOf_single hl hne, List.flatten_singleton, hkeep hl]
  | part l rest hl ih =>
    rw [List.filter_append, List.filter_cons_of_neg (by simp), hkeep hl, ← ih]
    by_cases hne : l = []
    · rw [hne, List.nil_append, tokensOf_cons, List.nil_append]
    · rw [tokensOf_append hl hne, List.flatten_cons]

/-- Bytes put in front of a string that does not begin with a delimiter lengthen its first token. -/
theorem tokensOf_front {ts : List Bytes} (hw : delim ∉ w) (hs : s.head? ≠ some delim)
    (h : tokensOf delim s = t :: ts) : tokensOf delim (w ++ s) = (w ++ t) :: ts := by
  have hne : s ≠ [] := by
    rintro rfl
    cases h
  by_cases hdelim : delim ∈ s
  · obtain ⟨l, rest, rfl, hl⟩ := List.eq_append_cons_of_mem hdelim
    have hlne : l ≠ [] := by
      rintro rfl
      exact hs rfl
    rw [tokensOf_append hl hlne] at h
    obtain ⟨rfl, rfl⟩ := List.cons.inj h
    rw [← List.append_assoc, tokensOf_append (by simp [hw, hl]) (by simp [hlne])]
  · rw [tokensOf_single hdelim hne] at h
    obtain ⟨rfl, rfl⟩ := List.cons.inj h
    rw [tokensOf_single (by simp [hw, hdelim]) (by simp [hne])]

/-- The first token goes on from where the text without a delimiter ends. -/
theorem tokensOf_first {ts : List Bytes} (hw : delim ∉ w) (hne : w ≠ [])
    (h : tokensOf delim (w ++ s) = t :: ts) : ∃ z, t = w ++ z := by
  by_cases hdelim : delim ∈ s
  · obtain ⟨l, rest, rfl, hl⟩ := List.eq_append_cons_of_mem hdelim
    rw [← List.append_assoc, tokensOf_append (by simp [hw, hl]) (by simp [hne])] at h
    exact ⟨l, (List.cons.inj h).1.symm⟩
  · rw [tokensOf_single (by simp [hw, hdelim]) (by simp [hne])] at h
    exact ⟨s, (List.cons.inj h).1.symm⟩

/-- More text behind a string leaves all its tokens but the last, which may grow. -/
theorem tokensOf_behind (delim : UInt8) (s more : Bytes) :
    (tokensOf delim s).dropLast <+: tokensOf delim (s ++ more) ∧
      (tokensOf delim s).length ≤ (tokensOf delim (s ++ more)).length := by
  induction s using delimited_induction delim with
  | nil => exact ⟨List.nil_prefix, Nat.zero_le _⟩
  | last l hl hne =>
    rw [tokensOf_single hl hne]
    refine ⟨List.nil_prefix, List.length_pos_iff.mpr fun hnone => ?_⟩
    have hflat := tokensOf_flatten delim (l ++ more)
    rw [hnone, List.flatten_nil, eq_comm, List.filter_eq_nil_iff] at hflat
    obtain ⟨c, cs, rfl⟩ := List.exists_cons_of_ne_nil hne
    exact hflat c (by simp) (bne_iff_ne.mpr fun h => hl (h ▸ List.mem_cons_self))
  | part l rest hl ih =>
    rw [List.append_assoc, List.cons_append]
    by_cases hne : l = []
    · rw [hne, List.nil_append, List.nil_append, tokensOf_cons, tokensOf_cons]
      exact ih
    · rw [tokensOf_append hl hne, tokensOf_append hl hne]
      refine ⟨?_, Nat.succ_le_succ ih.2⟩
      cases htokens : tokensOf delim rest with
      | nil => exact List.nil_prefix
      | cons t ts =>
        rw [htokens] at ih
        exact List.cons_prefix_cons.mpr ⟨rfl, ih.1⟩

/-- Splitting leaves no part empty exactly when no delimiter begins or ends the string and no two
of them are next to each other. -/
theorem splitOn_nonempty_iff (s : Bytes) :
    [] ∉ s.splitOn delim ↔
      s ≠ [] ∧ s.head? ≠ some delim ∧ s.getLast? ≠ some delim ∧ ¬ Doubled delim s := by
  induction s using delimited_induction delim with
  | nil => simp
  | last l hl hne =>
    rw [List.splitOn_eq_singleton hl]
    refine iff_of_true (by simpa using hne.symm) ⟨hne, ?_, ?_, ?_⟩
    · exact fun h => hl (List.mem_of_head? h)
    · exact fun h => hl (List.mem_of_getLast? h)
    · exact fun h => hl (h.subset (List.mem_cons_self))
  | part l rest hl ih =>
    rw [List.splitOn_append_cons_self_of_not_mem hl, List.mem_cons, not_or, ih,
      doubled_append hl, doubled_cons, not_or]
    by_cases hlne : l = []
    · -- a delimiter begins the string
      refine iff_of_false (fun h => h.1 hlne.symm) fun h => h.2.1 ?_
      rw [hlne]
      rfl
    · by_cases hrest : rest = []
      · -- a delimiter ends it
        refine iff_of_false (fun h => h.2.1 hrest) fun h => h.2.2.1 ?_
        rw [hrest, List.getLast?_concat]
      · -- the ends are those of the first part and of the rest
        have hhead : (l ++ delim :: rest).head? ≠ some delim := by
          rw [List.head?_append_of_ne_nil l hlne]
          exact fun h => hl (List.mem_of_head? h)
        have hlast : (l ++ delim :: rest).getLast? = rest.getLast? := by
          rw [List.getLast?_append_of_ne_nil _ (List.cons_ne_nil _ _),
            List.getLast?_cons_of_ne_nil hrest]
        rw [hlast]
        constructor
        · exact fun ⟨_, _, hfirst, hend, hdoubled⟩ =>
            ⟨by simp, hhead, hend, fun h => hfirst h.2, hdoubled⟩
        · exact fun ⟨_, _, hend, hfirst, hdoubled⟩ =>
            ⟨fun h => hlne h.symm, hrest, fun h => hfirst ⟨rfl, h⟩, hend, hdoubled⟩

end

/-! ## 4. Numbers -/

/-- A number in base ten, without leading zeros. -/
def decimalText (n : Nat) : Bytes := (Nat.digits 10 n).reverse.map fun d => UInt8.ofNat (48 + d)

section

variable {ulongMax : Nat} {s w : Bytes}

theorem decimalText_digits (n : Nat) : ∀ c ∈ decimalText n, isDigit c = true := by
  refine List.forall_mem_map.mpr fun d hd => ?_
  have hlt : d < 10 := Nat.digits_lt_base (by decide) (List.mem_reverse.mp hd)
  rw [isDigit, Bool.and_eq_true, decide_eq_true_iff, decide_eq_true_iff, UInt8.le_iff_toNat_le,
    UInt8.le_iff_toNat_le, UInt8.toNat_ofNat', Nat.mod_eq_of_lt (by omega)]
  exact ⟨Nat.le_add_right 48 d, Nat.add_le_add_left (Nat.le_of_lt_succ hlt) 48⟩

theorem decimalText_ne_nil {n : Nat} (h : n ≠ 0) : decimalText n ≠ [] := by
  rw [decimalText, ne_eq, List.map_eq_nil_iff, List.reverse_eq_nil_iff]
  exact Nat.digits_ne_nil_iff_ne_zero.mpr h

theorem decimal_decimalText (n : Nat) : decimal (decimalText n) = n := by
  have hread (ds : List Nat) (hds : ∀ d ∈ ds, d < 10) :
      decimal (ds.reverse.map fun d => UInt8.ofNat (48 + d)) = Nat.ofDigits 10 ds := by
    rw [decimal, List.foldl_map, List.foldl_reverse]
    induction ds with
    | nil => rfl
    | cons d ds ih =>
      rw [List.forall_mem_cons] at hds
      rw [List.foldr_cons, ih hds.2, Nat.ofDigits_cons, UInt8.toNat_ofNat',
        Nat.mod_eq_of_lt (by omega), Nat.add_sub_cancel_left, Nat.add_comm]
  rw [decimalText, hread _ fun d => Nat.digits_lt_base (by decide), Nat.ofDigits_digits]

theorem isDigit_notSpace {c : UInt8} (hc : isDigit c = true) :
    isSpace c = false ∧ c ≠ 45 ∧ c ≠ 43 := by
  rw [isDigit, Bool.and_eq_true, decide_eq_true_iff, decide_eq_true_iff] at hc
  rw [isSpace, Bool.or_eq_false_iff, Bool.and_eq_false_iff]
  grind

/-- A string that begins with a digit is read as far as there are digits. -/
theorem strtoul_digit (h : ∃ c, s.head? = some c ∧ isDigit c = true) :
    strtoul ulongMax s =
      if ulongMax < decimal (s.takeWhile isDigit) then
        ⟨ulongMax, s.dropWhile isDigit, true, true⟩
      else ⟨decimal (s.takeWhile isDigit), s.dropWhile isDigit, true, false⟩ := by
  obtain ⟨c, hc, hdigit⟩ := h
  obtain ⟨cs, rfl⟩ := List.head?_eq_some_iff.mp hc
  obtain ⟨hspace, hminus, hplus⟩ := isDigit_notSpace hdigit
  have hbody : (c :: cs).dropWhile isSpace = c :: cs := List.dropWhile_cons_of_neg (by simp [hspace])
  have hne : (c :: cs).takeWhile isDigit ≠ [] := by simp [hdigit]
  simp [strtoul, hbody, hminus, hplus, hne]

/-- White space in front changes nothing but what an unread number leaves behind. -/
theorem strtoul_space (ulongMax : Nat) (hw : ∀ c ∈ w, isSpace c = true) (s : Bytes) :
    (strtoul ulongMax (w ++ s)).value = (strtoul ulongMax s).value ∧
      (strtoul ulongMax (w ++ s)).converted = (strtoul ulongMax s).converted ∧
      (strtoul ulongMax (w ++ s)).rangeError = (strtoul ulongMax s).rangeError ∧
      ((strtoul ulongMax s).converted = true →
        (strtoul ulongMax (w ++ s)).rest = (strtoul ulongMax s).rest) := by
  have hbody : (w ++ s).dropWhile isSpace = s.dropWhile isSpace := List.dropWhile_append_of_pos hw
  simp only [strtoul, hbody]
  generalize s.dropWhile isSpace = body
  by_cases hdigits : (if decide (body.head? = some 45) || decide (body.head? = some 43) then
    body.drop 1 else body).takeWhile isDigit = []
  · rw [if_pos hdigits, if_pos hdigits]
    exact ⟨rfl, rfl, rfl, fun h => by cases h⟩
  · rw [if_neg hdigits, if_neg hdigits]
    exact ⟨rfl, rfl, rfl, fun _ => rfl⟩

/-- No number begins with any other character. -/
theorem strtoul_unread {c : UInt8} (hw : ∀ c ∈ w, isSpace c = true) (hspace : isSpace c = false)
    (hdigit : isDigit c = false) (hminus : c ≠ 45) (hplus : c ≠ 43) (s : Bytes) :
    (strtoul ulongMax (w ++ c :: s)).converted = false := by
  have hbody : (w ++ c :: s).dropWhile isSpace = c :: s := by
    rw [List.dropWhile_append_of_pos hw, List.dropWhile_cons_of_neg (by simp [hspace])]
  simp [strtoul, hbody, hminus, hplus, hdigit]

end

/-! ## 5. Integer constants -/

def isOctal (c : UInt8) : Bool := 48 ≤ c && c ≤ 55

def octal (digits : Bytes) : Nat := digits.foldl (fun v c => 8 * v + (c.toNat - 48)) 0

/-- The value of a decimal or octal integer constant of the C language: a 0 in front makes it
octal. -/
def integerConstant (digits : Bytes) : Option Nat :=
  if digits = [] then none
  else if digits.head? = some 48 then
    if digits.all isOctal then some (octal digits) else none
  else if digits.all isDigit then some (decimal digits)
  else none

/-- What is behind white space and a sign, and whether the sign is a minus. -/
def signed (s : Bytes) : Bool × Bytes :=
  let body := s.dropWhile isSpace
  let negative := body.head? = some 45
  (negative, if negative || body.head? = some 43 then body.drop 1 else body)

/-- The 32-bit value of a constant behind white space and a sign. -/
def constantU32 (s : Bytes) : Option UInt32 :=
  (integerConstant (signed s).2).map fun n =>
    if (signed s).1 then -UInt32.ofNat n else UInt32.ofNat n

section

variable {digits s : Bytes} {n : Nat} {c : UInt32}

theorem octal_le_decimal (digits : Bytes) : octal digits ≤ decimal digits := by
  have hfold (digits : Bytes) (v w : Nat) (h : v ≤ w) :
      digits.foldl (fun v c => 8 * v + (c.toNat - 48)) v ≤
        digits.foldl (fun v c => 10 * v + (c.toNat - 48)) w := by
    induction digits generalizing v w with
    | nil => exact h
    | cons c cs ih =>
      refine ih _ _ ?_
      show 8 * v + (c.toNat - 48) ≤ 10 * w + (c.toNat - 48)
      omega
  exact hfold digits 0 0 le_rfl

/-- Read in base ten, octal digits make a number without 8 and 9 among its digits. -/
theorem decimal_octal_digit (h : ∀ c ∈ digits, isOctal c = true) (k : Nat) :
    decimal digits / 10 ^ k % 10 < 8 := by
  induction digits using List.reverseRec generalizing k with
  | nil => simp [decimal]
  | append_singleton cs c ih =>
    rw [List.forall_mem_append, List.forall_mem_singleton] at h
    have hc : c.toNat - 48 < 8 := by
      have hle := (Bool.and_eq_true _ _).mp h.2
      rw [decide_eq_true_iff, decide_eq_true_iff, UInt8.le_iff_toNat_le, UInt8.le_iff_toNat_le] at hle
      have hupper : c.toNat ≤ 55 := hle.2
      omega
    have hvalue : decimal (cs ++ [c]) = 10 * decimal cs + (c.toNat - 48) := by
      rw [decimal, List.foldl_append]
      rfl
    rw [hvalue]
    cases k with
    | zero => omega
    | succ k =>
      have hdiv : (10 * decimal cs + (c.toNat - 48)) / 10 = decimal cs := by omega
      rw [Nat.pow_succ', ← Nat.div_div_eq_div_mul, hdiv]
      exact ih h.1 k

/-- A constant is what `strtoul` reads, or it is octal. -/
theorem integerConstant_spec (h : integerConstant digits = some n) :
    n = decimal digits ∨ n ≤ decimal digits ∧ ∀ c ∈ digits, isOctal c = true := by
  unfold integerConstant at h
  split at h
  · cases h
  · split at h
    · split at h
      · rename_i hoctal
        obtain rfl := Option.some.inj h
        exact Or.inr ⟨octal_le_decimal digits, List.all_eq_true.mp hoctal⟩
      · cases h
    · split at h
      · exact Or.inl (Option.some.inj h).symm
      · cases h

theorem isDigit_of_isOctal {d : UInt8} (h : isOctal d = true) : isDigit d = true := by
  rw [isOctal, Bool.and_eq_true, decide_eq_true_iff, decide_eq_true_iff] at h
  rw [isDigit, Bool.and_eq_true, decide_eq_true_iff, decide_eq_true_iff]
  exact ⟨h.1, UInt8.le_trans h.2 (by decide)⟩

theorem integerConstant_digits (h : integerConstant digits = some n) :
    ∀ d ∈ digits, isDigit d = true := by
  unfold integerConstant at h
  split at h
  · cases h
  · split at h <;> split at h
    · rename_i hall
      exact fun d hd => isDigit_of_isOctal (List.all_eq_true.mp hall d hd)
    · cases h
    · rename_i hall
      exact List.all_eq_true.mp hall
    · cases h

/-- A constant has no other bytes than white space, a sign and digits. -/
theorem not_mem_of_constantU32 {d : UInt8} (hspace : isSpace d = false) (hsign : d ≠ 43 ∧ d ≠ 45)
    (hdigit : isDigit d = false) (h : constantU32 s = some c) : d ∉ s := by
  intro hd
  obtain ⟨n, hn, -⟩ := Option.map_eq_some_iff.mp h
  have hbody : d ∈ s.dropWhile isSpace := by
    rw [← List.takeWhile_append_dropWhile (p := isSpace) (l := s), List.mem_append] at hd
    refine hd.resolve_left fun hw => ?_
    rw [List.mem_takeWhile_imp hw] at hspace
    cases hspace
  have hdigits : d ∈ (signed s).2 := by
    dsimp only [signed]
    split
    · rename_i hsigned
      obtain ⟨c, cs, hcs⟩ := List.exists_cons_of_ne_nil (List.ne_nil_of_mem hbody)
      rw [hcs] at hbody hsigned ⊢
      rw [List.head?_cons, Bool.or_eq_true, decide_eq_true_iff, decide_eq_true_iff,
        Option.some.injEq, Option.some.injEq] at hsigned
      refine (List.mem_cons.mp hbody).resolve_left ?_
      rintro rfl
      exact hsigned.elim hsign.2 hsign.1
    · exact hbody
  rw [integerConstant_digits hn d hdigits] at hdigit
  cases hdigit

theorem strtoul_signed (ulongMax : Nat) (s : Bytes) :
    strtoul ulongMax s =
      if (signed s).2.takeWhile isDigit = [] then ⟨0, s, false, false⟩
      else if ulongMax < decimal ((signed s).2.takeWhile isDigit) then
        ⟨ulongMax, (signed s).2.dropWhile isDigit, true, true⟩
      else if (signed s).1 then
        ⟨(ulongMax + 1 - decimal ((signed s).2.takeWhile isDigit)) % (ulongMax + 1),
          (signed s).2.dropWhile isDigit, true, false⟩
      else ⟨decimal ((signed s).2.takeWhile isDigit), (signed s).2.dropWhile isDigit, true, false⟩ := by
  simp only [strtoul, signed, decide_eq_true_iff]

/-- A text that `strtoul` reads to its end is a number behind white space and a sign. -/
theorem strtoul_whole {ulongMax : Nat} (hconverted : (strtoul ulongMax s).converted = true)
    (hrest : (strtoul ulongMax s).rest = []) (hrange : (strtoul ulongMax s).rangeError = false) :
    decimal (signed s).2 ≤ ulongMax ∧ (strtoul ulongMax s).value =
      if (signed s).1 then (ulongMax + 1 - decimal (signed s).2) % (ulongMax + 1)
      else decimal (signed s).2 := by
  rw [strtoul_signed] at hconverted hrest hrange ⊢
  generalize (signed s).2 = digits at *
  split at hrest
  · rename_i hnone
    rw [if_pos hnone] at hconverted
    cases hconverted
  · rename_i hsome
    rw [if_neg hsome] at hrange ⊢
    split at hrest
    · rename_i hlong
      rw [if_pos hlong] at hrange
      cases hrange
    · rename_i hshort
      have hdrop : digits.dropWhile isDigit = [] := by
        split at hrest <;> exact hrest
      have htake : digits.takeWhile isDigit = digits := by
        have hsplit := List.takeWhile_append_dropWhile (p := isDigit) (l := digits)
        rwa [hdrop, List.append_nil] at hsplit
      rw [htake] at hshort ⊢
      rw [if_neg hshort]
      refine ⟨Nat.le_of_not_lt hshort, ?_⟩
      split <;> rfl

/-- The compiler never makes more of a number than `strtoul` does. -/
theorem constantU32_le (hconst : constantU32 s = some c)
    (hconverted : (strtoul (2 ^ 64 - 1) s).converted = true)
    (hrest : (strtoul (2 ^ 64 - 1) s).rest = [])
    (hrange : (strtoul (2 ^ 64 - 1) s).rangeError = false)
    (hvalue : (strtoul (2 ^ 64 - 1) s).value < 2 ^ 32) :
    c.toNat ≤ (strtoul (2 ^ 64 - 1) s).value := by
  obtain ⟨hlong, hread⟩ := strtoul_whole hconverted hrest hrange
  obtain ⟨n, hn, rfl⟩ := Option.map_eq_some_iff.mp hconst
  have hspec := integerConstant_spec hn
  rw [hread] at hvalue ⊢
  cases hnegative : (signed s).1 with
  | false =>
    rw [if_neg Bool.false_ne_true, UInt32.toNat_ofNat']
    have hle : n ≤ decimal (signed s).2 := hspec.elim Nat.le_of_eq And.left
    exact (Nat.mod_le _ _).trans hle
  | true =>
    rw [hnegative, if_pos rfl] at hvalue
    rw [if_pos rfl, if_pos rfl, UInt32.toNat_neg, UInt32.toNat_ofNat',
      show UInt32.size = 2 ^ 32 from rfl]
    rcases hspec with hsame | ⟨hle, hoctal⟩
    · omega
    · -- what is negated is at least 2 ^ 64 - 2 ^ 32, with an 8 as the second of its digits
      have hzero : decimal (signed s).2 = 0 := by
        by_contra hne
        have hdigit := decimal_octal_digit hoctal 18
        rw [show decimal (signed s).2 / 10 ^ 18 = 18 by omega] at hdigit
        exact absurd hdigit (by decide)
      omega

end

end CString
