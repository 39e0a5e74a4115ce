import Mathlib.Data.List.TakeWhile
import Ps2Drivers.Lib.Bytes

/-!
# The C string library

NUL-terminated strings are the bytes before the terminator.  The functions here are the ones of
the C standard library that line-oriented programs are written with, as the standard and POSIX
describe them in the "C" locale: `fgets`, `strtok`, `strtoul` in base ten, `strncmp` against a
whole prefix.
-/

open Binary

namespace CString

/-- A C string literal of ASCII characters. -/
def lit (s : String) : Bytes := s.toList.map fun c => UInt8.ofNat c.toNat

/-- The string a character buffer holds: its bytes before the first NUL. -/
def ofBuffer (buf : Bytes) : Bytes := buf.takeWhile (· != 0)

/-- `strncmp(str, pre, strlen(pre)) == 0` -/
def hasPrefix (pre str : Bytes) : Bool := pre.isPrefixOf str

/-! ## 1. `fgets` -/

/-- How many bytes `fgets` takes: at most `room`, through the first newline. -/
def lineLength : Nat → Bytes → Nat
  | 0, _ => 0
  | _ + 1, [] => 0
  | room + 1, c :: cs => if c = 10 then 1 else lineLength room cs + 1

/-- `fgets(buf, size, file)` on the rest of a file: the bytes read and what remains. -/
def fgets (size : Nat) (text : Bytes) : Option (Bytes × Bytes) :=
  let n := lineLength (size - 1) text
  if n = 0 then none else some (text.take n, text.drop n)

/-- The successive results of `fgets`, at most `fuel` of them. -/
def readLines (size : Nat) : Nat → Bytes → List Bytes
  | 0, _ => []
  | fuel + 1, text =>
    match fgets size text with
    | none => []
    | some (line, rest) => line :: readLines size fuel rest

theorem lineLength_le (room : Nat) (text : Bytes) :
    lineLength room text ≤ room ∧ lineLength room text ≤ text.length := by
  induction text generalizing room with
  | nil => cases room <;> simp [lineLength]
  | cons c cs ih =>
    cases room with
    | zero => simp [lineLength]
    | succ room =>
      rw [lineLength, List.length_cons]
      have h := ih room
      split <;> omega

theorem fgets_some {size : Nat} {text line rest : Bytes} (h : fgets size text = some (line, rest)) :
    line ++ rest = text ∧ 0 < line.length ∧ line.length ≤ size - 1 := by
  dsimp only [fgets] at h
  have hl := lineLength_le (size - 1) text
  split at h
  · cases h
  · rename_i hne
    obtain ⟨rfl, rfl⟩ := Prod.mk.inj (Option.some.inj h)
    rw [List.length_take]
    exact ⟨List.take_append_drop _ _, by omega, by omega⟩

/-- The bytes read are the text in order: with fuel for every byte nothing is left out. -/
theorem readLines_flatten {size : Nat} (hsize : 2 ≤ size) (fuel : Nat) (text : Bytes)
    (hfuel : text.length ≤ fuel) : (readLines size fuel text).flatten = text := by
  induction fuel generalizing text with
  | zero =>
    have ht : text = [] := List.eq_nil_of_length_eq_zero (by omega)
    rw [ht]
    rfl
  | succ fuel ih =>
    rw [readLines]
    split
    · rename_i hnone
      cases text with
      | nil => rfl
      | cons c cs =>
        obtain ⟨room, hroom⟩ : ∃ room, size - 1 = room + 1 := ⟨size - 2, by omega⟩
        simp only [fgets, hroom, lineLength] at hnone
        split at hnone <;> simp at hnone
    · rename_i line rest hsome
      obtain ⟨happ, hpos, -⟩ := fgets_some hsome
      have hlen := congrArg List.length happ
      rw [List.length_append] at hlen
      rw [List.flatten_cons, ih rest (by omega), happ]

/-! ## 2. `strtok` -/

/-- One call of `strtok` with one delimiter: the next token and where the scan continues. -/
def strtok (delim : UInt8) (s : Bytes) : Option (Bytes × Bytes) :=
  let start := s.dropWhile (· == delim)
  if start = [] then none
  else some (start.takeWhile (· != delim), (start.dropWhile (· != delim)).drop 1)

/-- No token is left when only delimiters are. -/
theorem strtok_none {delim : UInt8} {s : Bytes} :
    strtok delim s = none ↔ ∀ c ∈ s, c = delim := by
  have hdrop : s.dropWhile (· == delim) = [] ↔ ∀ c ∈ s, c = delim := by
    simp only [List.dropWhile_eq_nil_iff, beq_iff_eq]
  rw [← hdrop, strtok]
  split
  · rename_i h
    exact iff_of_true rfl h
  · rename_i h
    exact iff_of_false (fun h => by cases h) h

/-- A token is not empty and holds no delimiter. -/
theorem strtok_some {delim : UInt8} {s token rest : Bytes}
    (h : strtok delim s = some (token, rest)) :
    token ≠ [] ∧ delim ∉ token ∧ token ⊆ s ∧ token.length + rest.length ≤ s.length := by
  dsimp only [strtok] at h
  have hdrop := List.dropWhile_suffix (l := s) (· == delim)
  generalize hstart : s.dropWhile (· == delim) = start at h hdrop
  split at h
  · cases h
  · rename_i hne
    obtain ⟨rfl, rfl⟩ := Prod.mk.inj (Option.some.inj h)
    obtain ⟨c, cs, rfl⟩ := List.exists_cons_of_ne_nil hne
    -- the token starts where the delimiters end
    have hc : c ≠ delim := by
      have := List.head?_dropWhile_not (p := (· == delim)) (l := s)
      rw [hstart] at this
      simpa using this
    refine ⟨?_, ?_, ?_, ?_⟩
    · simp [hc]
    · intro hm
      simpa using List.mem_takeWhile_imp hm
    · intro x hx
      exact hdrop.subset (List.takeWhile_subset _ hx)
    · have hsplit := congrArg List.length
        (List.takeWhile_append_dropWhile (p := (· != delim)) (l := c :: cs))
      rw [List.length_append] at hsplit
      have := hdrop.length_le
      rw [List.length_drop]
      omega

/-- Delimiters are skipped before the token, and the one after it is used up. -/
theorem strtok_splits {delim : UInt8} {s token rest : Bytes}
    (h : strtok delim s = some (token, rest)) :
    ∃ skipped tail, (∀ c ∈ skipped, c = delim) ∧ s = skipped ++ token ++ tail ∧
      (tail = [] ∧ rest = [] ∨ tail = delim :: rest) := by
  dsimp only [strtok] at h
  have hsplit := List.takeWhile_append_dropWhile (p := (· == delim)) (l := s)
  generalize s.dropWhile (· == delim) = start at h hsplit
  split at h
  · cases h
  · obtain ⟨rfl, rfl⟩ := Prod.mk.inj (Option.some.inj h)
    refine ⟨s.takeWhile (· == delim), start.dropWhile (· != delim), fun c hc => ?_, ?_, ?_⟩
    · simpa using List.mem_takeWhile_imp hc
    · rw [List.append_assoc, List.takeWhile_append_dropWhile, hsplit]
    · cases htail : start.dropWhile (· != delim) with
      | nil => exact Or.inl ⟨rfl, rfl⟩
      | cons c cs =>
        have hc := List.head?_dropWhile_not (p := (· != delim)) (l := start)
        rw [htail] at hc
        have hcdelim : c = delim := by simpa using hc
        exact Or.inr (by rw [hcdelim]; rfl)

/-- Two delimiters stand next to each other. -/
def Doubled (delim : UInt8) (s : Bytes) : Prop := [delim, delim] <:+: s

instance (delim : UInt8) (s : Bytes) : Decidable (Doubled delim s) :=
  inferInstanceAs (Decidable (_ <:+: _))

theorem doubled_cons {delim c : UInt8} {cs : Bytes} :
    Doubled delim (c :: cs) ↔ c = delim ∧ cs.head? = some delim ∨ Doubled delim cs := by
  unfold Doubled
  rw [List.infix_cons_iff]
  refine or_congr_left ?_
  rw [List.cons_prefix_cons, List.singleton_prefix_iff_head?_eq_some, eq_comm]

/-- A token in front doubles nothing. -/
theorem doubled_append {delim : UInt8} {token : Bytes} (h : delim ∉ token) (tail : Bytes) :
    Doubled delim (token ++ tail) ↔ Doubled delim tail := by
  induction token with
  | nil => rfl
  | cons c cs ih =>
    rw [List.mem_cons, not_or] at h
    rw [List.cons_append, doubled_cons, ih h.2]
    exact or_iff_right fun hc => h.1 hc.1.symm

/-! ## 3. `strtoul` in base ten -/

def isSpace (c : UInt8) : Bool := c == 32 || (9 ≤ c && c ≤ 13)

def isDigit (c : UInt8) : Bool := 48 ≤ c && c ≤ 57

def decimal (digits : Bytes) : Nat := digits.foldl (fun v c => 10 * v + (c.toNat - 48)) 0

/-- What `strtoul(s, &end, 10)` leaves behind: the value, the unread rest, whether a number was
read at all (`end != s`), and whether `errno` was set to `ERANGE`. -/
structure Strtoul where
  value : Nat
  rest : Bytes
  converted : Bool
  rangeError : Bool

/-- `strtoul(s, &end, 10)` with `unsigned long` values up to `ulongMax`: leading white space, an
optional sign, digits; a minus sign negates in the unsigned type. -/
def strtoul (ulongMax : Nat) (s : Bytes) : Strtoul :=
  let body := s.dropWhile isSpace
  let negative := body.head? = some 45
  let digitsAt := if negative || body.head? = some 43 then body.drop 1 else body
  let digits := digitsAt.takeWhile isDigit
  let n := decimal digits
  if digits = [] then ⟨0, s, false, false⟩
  else if ulongMax < n then ⟨ulongMax, digitsAt.dropWhile isDigit, true, true⟩
  else if negative then
    ⟨(ulongMax + 1 - n) % (ulongMax + 1), digitsAt.dropWhile isDigit, true, false⟩
  else ⟨n, digitsAt.dropWhile isDigit, true, false⟩

end CString
