import Mathlib.Data.List.Nodup
import Ps2Drivers.Image.Manifest
import Ps2Drivers.Lib.Text

/-!
# Lines of the manifest

What one iteration of the line loop makes of a line, stated over the tokens of the line instead of
the calls of `strtok`, and what a run of the loop makes of all of them.
-/

open Binary CString Checked

namespace Ps2Drivers

section

variable {host : Host} {path text line : Bytes} {lines : List Bytes} {e : ManifestEntry}
  {entries entries' more : List ManifestEntry} {k lineNumber : Nat}

/-! ## 1. Trimming -/

theorem isLineEnd_of_isBlank {c : UInt8} (h : isBlank c = true) : isLineEnd c = true := by
  rw [isLineEnd, h, Bool.or_true]

theorem isBlank_plain {c : UInt8} (h : isBlank c = true) : c ≠ 10 ∧ c ≠ 0 := by
  rw [isBlank, Bool.or_eq_true, beq_iff_eq, beq_iff_eq] at h
  rcases h with rfl | rfl <;> decide

theorem isDigit_plain {c : UInt8} (h : isDigit c = true) : c ≠ 124 ∧ c ≠ 10 ∧ c ≠ 0 := by
  rw [isDigit, Bool.and_eq_true, decide_eq_true_iff, decide_eq_true_iff] at h
  refine ⟨?_, ?_, ?_⟩ <;> rintro rfl <;> exact absurd h (by decide)

theorem isBlank_of_isDigit {c : UInt8} (h : isDigit c = true) : isBlank c = false := by
  have hspace := (isDigit_notSpace h).1
  rw [isSpace, Bool.or_eq_false_iff] at hspace
  rw [isBlank, hspace.1, Bool.false_or, beq_eq_false_iff_ne]
  rintro rfl
  exact absurd h (by decide)

theorem trimLine_front {w : Bytes} (hw : ∀ c ∈ w, isBlank c = true) (s : Bytes) :
    trimLine (w ++ s) = trimLine s := by
  rw [trimLine, List.dropWhile_append_of_pos hw, trimLine]

theorem rdropWhile_behind {w : Bytes} (hw : ∀ c ∈ w, isLineEnd c = true) (s : Bytes) :
    (s ++ w).rdropWhile isLineEnd = s.rdropWhile isLineEnd := by
  rw [List.rdropWhile, List.reverse_append,
    List.dropWhile_append_of_pos fun c hc => hw c (List.mem_reverse.mp hc), List.rdropWhile]

theorem trimLine_behind {w : Bytes} (hw : ∀ c ∈ w, isLineEnd c = true) (s : Bytes) :
    trimLine (s ++ w) = trimLine s := by
  rw [trimLine, trimLine, List.dropWhile_append]
  split
  · rename_i hnone
    rw [List.isEmpty_iff.mp hnone, List.rdropWhile_nil, List.rdropWhile_eq_nil_iff]
    exact fun c hc => hw c ((List.dropWhile_suffix isBlank).subset hc)
  · exact rdropWhile_behind hw _

theorem dropWhile_kept {p : UInt8 → Bool} {s : Bytes} (hne : s ≠ [])
    (hhead : ∀ c, s.head? = some c → p c = false) (x : Bytes) :
    (x ++ s).dropWhile p = x.dropWhile p ++ s := by
  obtain ⟨c, cs, rfl⟩ := List.exists_cons_of_ne_nil hne
  rw [List.dropWhile_append]
  split
  · rename_i hnone
    rw [List.isEmpty_iff.mp hnone, List.nil_append,
      List.dropWhile_cons_of_neg (by simp [hhead c rfl])]
  · rfl

theorem rdropWhile_kept {p : UInt8 → Bool} {s : Bytes} (hne : s ≠ [])
    (hlast : ∀ c, s.getLast? = some c → p c = false) (y : Bytes) :
    (s ++ y).rdropWhile p = s ++ y.rdropWhile p := by
  have hreverse := dropWhile_kept (p := p) (s := s.reverse) (by simpa using hne)
    (by simpa using hlast) y.reverse
  rw [List.rdropWhile, List.reverse_append, hreverse, List.reverse_append, List.reverse_reverse,
    List.rdropWhile]

theorem mem_rdropWhile {p : UInt8 → Bool} {c : UInt8} (hc : p c = false) (s : Bytes) :
    c ∈ s.rdropWhile p ↔ c ∈ s := by
  conv_rhs => rw [← List.rdropWhile_append_rtakeWhile (p := p) (l := s)]
  rw [List.mem_append]
  refine (or_iff_left fun h => ?_).symm
  rw [List.mem_rtakeWhile_imp h] at hc
  cases hc

/-- What trimming leaves around a text that it cannot shorten. -/
theorem trimLine_around {s : Bytes} (hne : s ≠ [])
    (hhead : ∀ c, s.head? = some c → isBlank c = false)
    (hlast : ∀ c, s.getLast? = some c → isLineEnd c = false) (x y : Bytes) :
    trimLine (x ++ s ++ y) = x.dropWhile isBlank ++ s ++ y.rdropWhile isLineEnd := by
  have hhead' : ∀ c, (s ++ y).head? = some c → isBlank c = false := by
    rw [List.head?_append_of_ne_nil _ hne]
    exact hhead
  have hlast' : ∀ c, (x.dropWhile isBlank ++ s).getLast? = some c → isLineEnd c = false := by
    rw [List.getLast?_append_of_ne_nil _ hne]
    exact hlast
  rw [trimLine, List.append_assoc, dropWhile_kept (by simp [hne]) hhead', ← List.append_assoc,
    rdropWhile_kept (by simp [hne]) hlast']

theorem trimLine_kept {s : Bytes} (hhead : ∀ c, s.head? = some c → isBlank c = false)
    (hlast : ∀ c, s.getLast? = some c → isLineEnd c = false) : trimLine s = s := by
  by_cases hne : s = []
  · rw [hne]
    rfl
  · have haround := trimLine_around hne hhead hlast [] []
    rw [List.append_nil, List.nil_append, List.dropWhile_nil, List.rdropWhile_nil, List.append_nil,
      List.nil_append] at haround
    exact haround

/-- Trimming takes blanks off the front and line ends off the back. -/
theorem trimLine_spec (s : Bytes) :
    ∃ w w', s = w ++ trimLine s ++ w' ∧ (∀ c ∈ w, isBlank c = true) ∧
      (∀ c ∈ w', isLineEnd c = true) ∧
      (∀ c, (trimLine s).head? = some c → isBlank c = false) ∧
      ∀ c, (trimLine s).getLast? = some c → isLineEnd c = false := by
  have hhead : ∀ c, (trimLine s).head? = some c → isBlank c = false := by
    intro c hc
    obtain ⟨t, ht⟩ := List.rdropWhile_prefix isLineEnd (s.dropWhile isBlank)
    have hfirst := List.head?_dropWhile_not isBlank s
    have hne : (s.dropWhile isBlank).rdropWhile isLineEnd ≠ [] := by
      intro h
      rw [trimLine, h] at hc
      cases hc
    rw [← ht, List.head?_append_of_ne_nil _ hne] at hfirst
    rw [trimLine] at hc
    rw [hc] at hfirst
    exact hfirst
  refine ⟨s.takeWhile isBlank, (s.dropWhile isBlank).rtakeWhile isLineEnd, ?_, ?_, ?_, hhead, ?_⟩
  · rw [List.append_assoc, trimLine, List.rdropWhile_append_rtakeWhile,
      List.takeWhile_append_dropWhile]
  · exact fun c hc => List.mem_takeWhile_imp hc
  · exact fun c hc => List.mem_rtakeWhile_imp hc
  · intro c hc
    -- a character is left, so the last one stopped the trimming
    have hne : trimLine s ≠ [] := by
      rintro h
      rw [h] at hc
      cases hc
    have hlast := List.rdropWhile_last_not isLineEnd (s.dropWhile isBlank) hne
    rw [List.getLast?_eq_some_getLast hne, Option.some.injEq] at hc
    rw [← hc]
    exact Bool.eq_false_iff.mpr hlast

/-- A character that no trimming removes stays where it is. -/
theorem trimLine_head {c : UInt8} (hblank : isBlank c = false) (hend : isLineEnd c = false)
    (s : Bytes) : (trimLine (c :: s)).head? = some c := by
  have hkept := trimLine_around (s := [c]) (List.cons_ne_nil c []) (by simpa using hblank)
    (by simpa using hend) [] s
  rw [List.nil_append, List.singleton_append] at hkept
  rw [hkept]
  rfl

theorem trimLine_eq_nil {s : Bytes} : trimLine s = [] ↔ ∀ c ∈ s, isLineEnd c = true := by
  constructor
  · intro h
    obtain ⟨w, w', hs, hw, hw', -⟩ := trimLine_spec s
    rw [h, List.append_nil] at hs
    rw [hs, List.forall_mem_append]
    exact ⟨fun c hc => isLineEnd_of_isBlank (hw c hc), hw'⟩
  · intro h
    have hbehind := trimLine_behind h []
    rw [List.nil_append] at hbehind
    rw [hbehind]
    rfl

theorem trimLine_subset (s : Bytes) : trimLine s ⊆ s := by
  intro c hc
  exact (List.dropWhile_suffix isBlank).subset ((List.rdropWhile_prefix isLineEnd _).subset hc)

theorem ofBuffer_eq {s : Bytes} (h : 0 ∉ s) : ofBuffer s = s :=
  List.takeWhile_eq_self_iff.mpr fun _ hc => bne_iff_ne.mpr fun h0 => h (h0 ▸ hc)

/-! ## 2. One line -/

def Skipped (line : Bytes) : Prop :=
  (trimLine (ofBuffer line)).head? = none ∨ (trimLine (ofBuffer line)).head? = some 35

instance (line : Bytes) : Decidable (Skipped line) := inferInstanceAs (Decidable (_ ∨ _))

/-- The line is a record of the entry: four fields, each as the loop wants it. -/
def RecordOf (line : Bytes) (e : ManifestEntry) : Prop :=
  ∃ id, tokensOf 124 (trimLine (ofBuffer line)) = [id, e.filename, e.symbol, e.name] ∧
    parseU32 id = some e.id ∧ e.WellFormed

inductive Contributes (line : Bytes) : List ManifestEntry → Prop
  | skipped (h : Skipped line) : Contributes line []
  | entry {e : ManifestEntry} (hskipped : ¬ Skipped line) (h : RecordOf line e) :
    Contributes line [e]

inductive ContributeAll : List Bytes → List ManifestEntry → Prop
  | nil : ContributeAll [] []
  | cons {line : Bytes} {lines : List Bytes} {es more : List ManifestEntry}
      (h : Contributes line es) (hmore : ContributeAll lines more) :
      ContributeAll (line :: lines) (es ++ more)

theorem RecordOf.unique {e' : ManifestEntry} (h : RecordOf line e) (h' : RecordOf line e') :
    e = e' := by
  obtain ⟨id, htokens, hid, -⟩ := h
  obtain ⟨id', htokens', hid', -⟩ := h'
  rw [htokens, List.cons.injEq, List.cons.injEq, List.cons.injEq, List.cons.injEq] at htokens'
  obtain ⟨rfl, hfilename, hsymbol, hname, -⟩ := htokens'
  rw [hid, Option.some.injEq] at hid'
  cases e
  cases e'
  rw [ManifestEntry.mk.injEq]
  exact ⟨hid', hfilename, hsymbol, hname⟩

theorem Contributes.unique {es es' : List ManifestEntry} (h : Contributes line es)
    (h' : Contributes line es') : es = es' := by
  cases h with
  | skipped h =>
    cases h' with
    | skipped => rfl
    | entry hskipped => exact absurd h hskipped
  | entry hskipped h =>
    cases h' with
    | skipped h' => exact absurd h' hskipped
    | entry _ h' => rw [h.unique h']

/-- `parse_u32` on a text that begins with a digit. -/
theorem parseU32_digit {s : Bytes} {id : UInt32}
    (h : ∃ c, s.head? = some c ∧ isDigit c = true) :
    parseU32 s = some id ↔ (∀ c ∈ s, isDigit c = true) ∧ decimal s = id.toNat := by
  have hrange : id.toNat < 2 ^ 32 := id.toNat_lt
  dsimp only [parseU32]
  rw [strtoul_digit h, ← List.dropWhile_eq_nil_iff]
  by_cases hdrop : s.dropWhile isDigit = []
  · have htake : s.takeWhile isDigit = s := by
      have hsplit := List.takeWhile_append_dropWhile (p := isDigit) (l := s)
      rwa [hdrop, List.append_nil] at hsplit
    rw [hdrop, htake]
    -- `strtoul` fails above 64 bits, and the comparison with `0xffffffff` above 32
    by_cases hlong : 2 ^ 64 - 1 < decimal s
    · rw [if_pos hlong]
      exact iff_of_false (fun h => by cases h) fun h => by omega
    · rw [if_neg hlong]
      by_cases hword : 0xffffffff < decimal s
      · simp only [hword]
        exact iff_of_false (fun h => by cases h) fun h => by omega
      · simp only [bne_self_eq_false, Bool.or_false, Bool.not_true, decide_eq_false hword,
          Bool.false_eq_true, if_false, Option.some.injEq, true_and]
        constructor
        · rintro rfl
          rw [UInt32.toNat_ofNat', Nat.mod_eq_of_lt (by omega)]
        · intro hvalue
          rw [hvalue, UInt32.ofNat_toNat]
  -- a character behind the digits leaves `*end != '\0'`
  · have hrest : (s.dropWhile isDigit != []) = true := bne_iff_ne.mpr hdrop
    refine iff_of_false ?_ fun h => hdrop h.1
    split <;> simp [hrest]

/-- The `strtok` loop collects the first tokens. -/
theorem collectFields_tokens (room : Nat) (s : Bytes) (fields : List Bytes) :
    collectFields room (strtok 124 s) fields =
      (fields ++ (tokensOf 124 s).take room, decide ((tokensOf 124 s).drop room ≠ [])) := by
  induction room generalizing s fields with
  | zero =>
    rw [collectFields, strtok_tokensOf]
    cases strtok 124 s with
    | none => simp
    | some r => simp
  | succ room ih =>
    rw [strtok_tokensOf 124 s]
    cases strtok 124 s with
    | none => simp [collectFields]
    | some r =>
      obtain ⟨token, rest⟩ := r
      rw [collectFields, ih]
      simp

theorem collectFields_four {f0 f1 f2 f3 : Bytes} (s : Bytes) :
    collectFields 4 (strtok 124 s) [] = ([f0, f1, f2, f3], false) ↔
      tokensOf 124 s = [f0, f1, f2, f3] := by
  rw [collectFields_tokens, Prod.mk.injEq, List.nil_append, decide_eq_false_iff_not, not_not]
  constructor
  · rintro ⟨htake, hdrop⟩
    rw [← List.take_append_drop 4 (tokensOf 124 s), htake, hdrop, List.append_nil]
  · intro h
    rw [h]
    exact ⟨rfl, rfl⟩

theorem copyField_iff {src fieldName field : Bytes} :
    copyField src fieldName lineNumber = .ok field ↔ field = src ∧ FieldFits src := by
  constructor
  · intro h
    obtain ⟨rfl, hfits⟩ := copyField_ok h
    exact ⟨rfl, hfits⟩
  · rintro ⟨rfl, hlower, hupper⟩
    rw [copyField, if_neg (by omega)]

theorem loadEntry_iff {f0 f1 f2 f3 : Bytes} :
    loadEntry lineNumber entries f0 f1 f2 f3 = .ok entries' ↔
      entries.length < 128 ∧ ∃ id, parseU32 f0 = some id ∧ id ∉ entries.map (·.id) ∧
        (ManifestEntry.mk id f1 f2 f3).WellFormed ∧ entries' = entries ++ [⟨id, f1, f2, f3⟩] := by
  rw [loadEntry, guard_ok, ge_iff_le, not_le]
  refine and_congr_right fun _ => ?_
  cases hid : parseU32 f0 with
  | none =>
    refine iff_of_false (fun h => by cases h) ?_
    rintro ⟨_, h, _⟩
    cases h
  | some id =>
    have hany : entries.any (·.id == id) = true ↔ id ∈ entries.map (·.id) := by
      rw [List.any_eq_true, List.mem_map]
      simp only [beq_iff_eq]
    dsimp only
    rw [guard_ok, guard_ok, hany]
    simp only [bind_ok, copyField_iff]
    constructor
    · rintro ⟨hzero, hnew, _, ⟨rfl, hfilename⟩, _, ⟨rfl, hsymbol⟩, _, ⟨rfl, hname⟩, h⟩
      cases h
      exact ⟨id, rfl, hnew, ⟨hzero, hfilename, hsymbol, hname⟩, rfl⟩
    · rintro ⟨_, h, hnew, hentry, rfl⟩
      cases h
      exact ⟨hentry.id_ne_zero, hnew, f1, ⟨rfl, hentry.filename⟩, f2, ⟨rfl, hentry.symbol⟩, f3,
        ⟨rfl, hentry.name⟩, rfl⟩

theorem EntriesWellFormed.append_left (h : EntriesWellFormed (entries ++ more)) :
    EntriesWellFormed entries := by
  refine ⟨?_, fun e he => h.each e (List.mem_append_left more he), ?_⟩
  · have hlength := h.length_le
    rw [List.length_append] at hlength
    omega
  · have hdistinct := h.distinct
    rw [List.map_append] at hdistinct
    exact List.Nodup.of_append_left hdistinct

theorem EntriesWellFormed.append_singleton (h : EntriesWellFormed entries) :
    EntriesWellFormed (entries ++ [e]) ↔
      entries.length < 128 ∧ e.id ∉ entries.map (·.id) ∧ e.WellFormed := by
  have hdistinct : ((entries ++ [e]).map (·.id)).Nodup ↔ e.id ∉ entries.map (·.id) := by
    rw [List.map_append, List.map_singleton, ← List.concat_eq_append, List.nodup_concat]
    exact and_iff_left h.distinct
  constructor
  · intro h'
    have hlength := h'.length_le
    rw [List.length_append, List.length_singleton] at hlength
    exact ⟨by omega, hdistinct.mp h'.distinct, h'.each e (by simp)⟩
  · rintro ⟨hroom, hnew, he⟩
    refine ⟨?_, ?_, hdistinct.mpr hnew⟩
    · rw [List.length_append, List.length_singleton]
      omega
    · exact List.forall_mem_append.mpr ⟨h.each, List.forall_mem_singleton.mpr he⟩

/-- A line that the loop does not skip is split into four fields, which make the entry. -/
theorem loadLine_fields (hskipped : ¬ Skipped line) :
    loadLine lineNumber line entries = .ok entries' ↔
      ∃ f0 f1 f2 f3, tokensOf 124 (trimLine (ofBuffer line)) = [f0, f1, f2, f3] ∧
        loadEntry lineNumber entries f0 f1 f2 f3 = .ok entries' := by
  simp only [← collectFields_four]
  dsimp only [loadLine]
  unfold Skipped at hskipped
  rw [if_neg hskipped]
  split
  · rename_i f0 f1 f2 f3 heq
    constructor
    · exact fun h => ⟨f0, f1, f2, f3, heq, h⟩
    · rintro ⟨_, _, _, _, h, hentry⟩
      rw [heq] at h
      cases h
      exact hentry
  -- fewer fields, or text behind the fourth: the source's "expected 4 fields"
  · rename_i hother
    refine iff_of_false (fun h => by cases h) ?_
    rintro ⟨f0, f1, f2, f3, h, _⟩
    exact hother f0 f1 f2 f3 h

/-- One iteration of the loop: it accepts the line exactly when what the line contributes can be
added. -/
theorem loadLine_iff (h : EntriesWellFormed entries) :
    loadLine lineNumber line entries = .ok entries' ↔
      ∃ es, Contributes line es ∧ entries' = entries ++ es ∧ EntriesWellFormed entries' := by
  by_cases hskipped : Skipped line
  · have hline : loadLine lineNumber line entries = .ok entries := if_pos hskipped
    rw [hline, Except.ok.injEq]
    constructor
    · rintro rfl
      exact ⟨[], .skipped hskipped, (List.append_nil _).symm, h⟩
    · rintro ⟨es, hes, rfl, -⟩
      rw [hes.unique (.skipped hskipped), List.append_nil]
  · rw [loadLine_fields hskipped]
    simp only [loadEntry_iff]
    constructor
    · rintro ⟨f0, f1, f2, f3, htokens, hroom, id, hid, hnew, hentry, rfl⟩
      exact ⟨[_], .entry hskipped ⟨f0, htokens, hid, hentry⟩, rfl,
        h.append_singleton.mpr ⟨hroom, hnew, hentry⟩⟩
    · rintro ⟨es, hes, rfl, hes'⟩
      cases hes with
      | skipped hs => exact absurd hs hskipped
      | entry _ hrecord =>
        obtain ⟨f0, htokens, hid, hentry⟩ := hrecord
        obtain ⟨hroom, hnew, -⟩ := h.append_singleton.mp hes'
        exact ⟨f0, _, _, _, htokens, hroom, _, hid, hnew, hentry, rfl⟩

/-! ## 3. All lines -/

theorem ContributeAll.mem {es : List ManifestEntry} (h : ContributeAll lines es)
    (hline : line ∈ lines) : ∃ es, Contributes line es := by
  induction h with
  | nil => cases hline
  | cons hes _ ih =>
    rcases List.mem_cons.mp hline with rfl | hline
    · exact ⟨_, hes⟩
    · exact ih hline

theorem contributeAll_append {lines' : List Bytes} {es : List ManifestEntry} :
    ContributeAll (lines ++ lines') es ↔
      ∃ front back, ContributeAll lines front ∧ ContributeAll lines' back ∧ es = front ++ back := by
  induction lines generalizing es with
  | nil =>
    constructor
    · exact fun h => ⟨[], es, .nil, h, rfl⟩
    · rintro ⟨_, back, hfront, hback, rfl⟩
      cases hfront
      exact hback
  | cons line lines ih =>
    constructor
    · intro h
      cases h with
      | @cons _ _ es _ hes hmore =>
        obtain ⟨front, back, hfront, hback, rfl⟩ := ih.mp hmore
        exact ⟨es ++ front, back, .cons hes hfront, hback, (List.append_assoc _ _ _).symm⟩
    · rintro ⟨_, back, hfront, hback, rfl⟩
      cases hfront with
      | cons hes hfront =>
        rw [List.append_assoc]
        exact .cons hes (ih.mpr ⟨_, back, hfront, hback, rfl⟩)

theorem contributeAll_singleton {es : List ManifestEntry} :
    ContributeAll [line] es ↔ Contributes line es := by
  constructor
  · intro h
    cases h with
    | cons hes hmore =>
      cases hmore
      rw [List.append_nil]
      exact hes
  · intro h
    rw [← List.append_nil es]
    exact .cons h .nil

/-- Lines that the loop skips add nothing. -/
theorem contributeAll_skipped (hskipped : ∀ line ∈ lines, Skipped line)
    {es : List ManifestEntry} (h : ContributeAll lines es) : es = [] := by
  induction h with
  | nil => rfl
  | cons hes _ ih =>
    rw [List.forall_mem_cons] at hskipped
    rw [hes.unique (.skipped hskipped.1), ih hskipped.2, List.append_nil]

/-- The loop reads a line, adds what it makes of it and goes on with the others. -/
theorem loadLines_cons :
    loadLines host k (line :: lines) entries = .ok entries' ↔
      host.lineOk k = true ∧ ∃ next, loadLine (k + 1) line entries = .ok next ∧
        loadLines host (k + 1) lines next = .ok entries' := by
  rw [loadLines, ← bind_ok]
  by_cases hok : host.lineOk k = true
  · rw [if_pos hok]
    exact (and_iff_right hok).symm
  · rw [if_neg hok]
    exact iff_of_false (fun h => by cases h) fun h => hok h.1

theorem lineOk_cons :
    (∀ i ≤ (line :: lines).length, host.lineOk (k + i) = true) ↔
      host.lineOk k = true ∧ ∀ i ≤ lines.length, host.lineOk (k + 1 + i) = true := by
  constructor
  · refine fun hall => ⟨hall 0 (Nat.zero_le _), fun i hi => ?_⟩
    rw [Nat.add_right_comm]
    exact hall (i + 1) (Nat.succ_le_succ hi)
  · rintro ⟨hfirst, hall⟩ i hi
    cases i with
    | zero => exact hfirst
    | succ i =>
      rw [← Nat.add_assoc, Nat.add_right_comm]
      exact hall i (Nat.le_of_succ_le_succ hi)

/-- A run of the loop: what the lines contribute, one after the other. -/
theorem loadLines_iff (h : EntriesWellFormed entries) :
    loadLines host k lines entries = .ok entries' ↔
      (∀ i ≤ lines.length, host.lineOk (k + i) = true) ∧
        ∃ es, ContributeAll lines es ∧ entries' = entries ++ es ∧ EntriesWellFormed entries' := by
  induction lines generalizing k entries with
  | nil =>
    rw [loadLines, ite_eq_iff, List.length_nil]
    constructor
    · rintro (⟨hok, heq⟩ | ⟨-, heq⟩)
      · cases heq
        refine ⟨fun i hi => ?_, [], .nil, (List.append_nil _).symm, h⟩
        rw [Nat.le_zero.mp hi]
        exact hok
      · cases heq
    · rintro ⟨hok, es, hes, rfl, -⟩
      cases hes
      exact Or.inl ⟨hok 0 le_rfl, by rw [List.append_nil]⟩
  | cons line lines ih =>
    rw [loadLines_cons, lineOk_cons, and_assoc]
    refine and_congr_right fun _ => ?_
    constructor
    · rintro ⟨next, hnext, hrest⟩
      obtain ⟨es, hes, rfl, hwf⟩ := (loadLine_iff h).mp hnext
      obtain ⟨hall, more, hmore, rfl, hwf'⟩ := (ih hwf).mp hrest
      exact ⟨hall, es ++ more, .cons hes hmore, List.append_assoc _ _ _, hwf'⟩
    · rintro ⟨hall, _, hes, heq, hwf⟩
      cases hes with
      | @cons _ _ es more hes hmore =>
        rw [← List.append_assoc] at heq
        -- the invariant holds in the middle because it holds at the end
        have hnext : EntriesWellFormed (entries ++ es) := by
          rw [heq] at hwf
          exact hwf.append_left
        exact ⟨entries ++ es, (loadLine_iff h).mpr ⟨es, hes, rfl, hnext⟩,
          (ih hnext).mpr ⟨hall, more, hmore, heq, hwf⟩⟩

/-- `load_manifest` yields what the lines contribute, when all of them can be read. -/
theorem loadManifest_iff {m : Manifest} (hfile : host.file path = some text) :
    loadManifest host path = .ok m ↔
      (∀ i ≤ (readLines 512 text.length text).length, host.lineOk i = true) ∧ m.WellFormed ∧
        ContributeAll (readLines 512 text.length text) m.entries := by
  rw [loadManifest, hfile]
  dsimp only
  rw [bind_ok]
  simp only [loadLines_iff .nil, List.nil_append, Nat.zero_add]
  constructor
  · rintro ⟨entries, ⟨hline, es, hes, rfl, hwf⟩, hm⟩
    obtain ⟨hne, hm⟩ := guard_ok.mp hm
    cases hm
    exact ⟨hline, ⟨Nat.one_le_iff_ne_zero.mpr hne, hwf, rfl⟩, hes⟩
  · rintro ⟨hline, hm, hes⟩
    refine ⟨m.entries, ⟨hline, m.entries, hes, rfl, hm.entries⟩, guard_ok.mpr ⟨?_, ?_⟩⟩
    · exact Nat.one_le_iff_ne_zero.mp hm.length_pos
    · cases m
      exact congrArg Except.ok (congrArg _ hm.crc.symm)

end

def textHost (text : Bytes) : Host := .ofFiles fun _ => some text

def plainEntries : List ManifestEntry := [⟨1, lit "a", lit "b", lit "c"⟩]

def plainManifest : Manifest := ⟨plainEntries, manifestLogicalCrc plainEntries⟩

end Ps2Drivers
