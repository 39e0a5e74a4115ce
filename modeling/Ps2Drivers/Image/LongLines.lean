import Ps2Drivers.Image.Lines

/-!
# Long lines

`load_manifest` takes every result of `fgets` for a line.  A line that does not fit the buffer of
512 bytes arrives in pieces, and each of them is trimmed, skipped or loaded by itself.
-/

open Binary CString

namespace Ps2Drivers

/-! ## 1. Lines and pieces -/

/-- No part of the line is a record of its own: one piece is loaded at most, and none of a comment
or blank line. -/
def NoPartRead (line : Bytes) : Prop :=
  (pieces 512 line).countP (fun p => ¬ Skipped p) ≤ 1 ∧
    (Skipped line → ∀ p ∈ pieces 512 line, Skipped p)

def ReadByLine (text : Bytes) (entries : List ManifestEntry) : Prop :=
  ContributeAll (physicalLines text) entries ∧ ∀ line ∈ physicalLines text, NoPartRead line

/-- The line has all its text in one piece, which begins and ends as the line does; or every piece
of it is blank or a comment, as the line is. -/
def Intact (line : Bytes) : Prop :=
  Skipped line ∧ (∀ p ∈ pieces 512 line, Skipped p) ∨
    ∃ front p back, pieces 512 line = front ++ p :: back ∧ ¬ Skipped p ∧
      (∀ q ∈ front ++ back, trimLine q = []) ∧
      ((∀ c ∈ front.flatten, isBlank c = true) ∨ (trimLine p).head? ≠ some 124)

section

variable {line x p rest : Bytes} {e : ManifestEntry} {front : List Bytes}

theorem isSpace_of_isLineEnd {c : UInt8} (h : isLineEnd c = true) : isSpace c = true := by
  rw [isLineEnd, isBlank, Bool.or_eq_true, Bool.or_eq_true, Bool.or_eq_true, beq_iff_eq,
    beq_iff_eq, beq_iff_eq, beq_iff_eq] at h
  rcases h with (rfl | rfl) | rfl | rfl <;> decide

theorem not_mem_of_isLineEnd {c : UInt8} (hc : isLineEnd c = false)
    (hx : ∀ c ∈ x, isLineEnd c = true) : c ∉ x := by
  intro h
  rw [hx c h] at hc
  cases hc

theorem skipped_iff (hnul : 0 ∉ p) :
    Skipped p ↔ trimLine p = [] ∨ (trimLine p).head? = some 35 := by
  rw [Skipped, ofBuffer_eq hnul, List.head?_eq_none_iff]

/-! ## 2. The id -/

theorem parseU32_space (hx : ∀ c ∈ x, isSpace c = true) (s : Bytes) :
    parseU32 (x ++ s) = parseU32 s := by
  obtain ⟨hvalue, hconverted, hrange, hrest⟩ := strtoul_space (2 ^ 64 - 1) hx s
  dsimp only [parseU32]
  rw [hvalue, hconverted, hrange]
  cases hread : (strtoul (2 ^ 64 - 1) s).converted with
  | false => simp
  | true => rw [hrest hread]

theorem parseU32_comment (hx : ∀ c ∈ x, isSpace c = true) (s : Bytes) :
    parseU32 (x ++ 35 :: s) = none := by
  dsimp only [parseU32]
  rw [strtoul_unread hx (by decide) (by decide) (by decide) (by decide)]
  simp

/-! ## 3. Comments -/

/-- A line is no record when a comment piece comes first in it. -/
theorem not_recordOf_comment (hnul : 0 ∉ x ++ p ++ rest) (hx : ∀ c ∈ x, isLineEnd c = true)
    (hp : (trimLine p).head? = some 35) : ¬ RecordOf (x ++ p ++ rest) e := by
  rintro ⟨id, htokens, hid, -⟩
  obtain ⟨w, w', hsplit, hw, -⟩ := trimLine_spec p
  obtain ⟨t, ht⟩ := List.head?_eq_some_iff.mp hp
  have hline : x ++ p ++ rest = x ++ w ++ [35] ++ (t ++ w' ++ rest) := by
    rw [hsplit, ht]
    simp
  have hfront : ∀ c ∈ (x ++ w).dropWhile isBlank, isLineEnd c = true := by
    intro c hc
    rcases List.mem_append.mp ((List.dropWhile_suffix isBlank).subset hc) with h | h
    · exact hx c h
    · exact isLineEnd_of_isBlank (hw c h)
  rw [ofBuffer_eq hnul, hline, trimLine_around (List.cons_ne_nil 35 []) (by simp; decide)
    (by simp; decide)] at htokens
  have hbar : 124 ∉ (x ++ w).dropWhile isBlank ++ [35] := by
    have := not_mem_of_isLineEnd (c := 124) (by decide) hfront
    simp [this]
  obtain ⟨z, rfl⟩ := tokensOf_first hbar (by simp) htokens
  rw [List.append_assoc, List.singleton_append,
    parseU32_comment fun c hc => isSpace_of_isLineEnd (hfront c hc)] at hid
  cases hid

/-- The skipped pieces in front of a record's text are blank. -/
theorem front_blank (hnul : 0 ∉ x ++ front.flatten ++ rest) (hx : ∀ c ∈ x, isLineEnd c = true)
    (hfront : ∀ q ∈ front, Skipped q) (h : RecordOf (x ++ front.flatten ++ rest) e) :
    ∀ q ∈ front, trimLine q = [] := by
  induction front generalizing x with
  | nil => exact List.forall_mem_nil _
  | cons q front ih =>
    rw [List.forall_mem_cons] at hfront ⊢
    rw [List.flatten_cons, ← List.append_assoc] at hnul h
    have hq : trimLine q = [] := by
      rcases (skipped_iff fun h0 => hnul (by simp [h0])).mp hfront.1 with hblank | hcomment
      · exact hblank
      · rw [List.append_assoc] at hnul h
        exact absurd h (not_recordOf_comment hnul hx hcomment)
    refine ⟨hq, ih hnul ?_ hfront.2 h⟩
    exact List.forall_mem_append.mpr ⟨hx, trimLine_eq_nil.mp hq⟩

/-! ## 4. The piece with the record -/

/-- What is trimmed of a line around the text of one of its pieces. -/
theorem trimLine_piece (hx : ∀ c ∈ x, isLineEnd c = true) (hne : trimLine p ≠ []) (rest : Bytes) :
    ∃ w z, trimLine (x ++ p ++ rest) = w ++ trimLine p ++ z ∧ (∀ c ∈ w, isLineEnd c = true) ∧
      (w = [] ↔ ∀ c ∈ x, isBlank c = true) ∧
      (∀ c, isLineEnd c = false → (c ∈ z ↔ c ∈ rest)) ∧
      ((∀ c ∈ rest, isLineEnd c = true) → z = []) := by
  obtain ⟨v, v', hsplit, hv, hv', hhead, hlast⟩ := trimLine_spec p
  generalize trimLine p = s at hsplit hne hhead hlast ⊢
  have hline : x ++ p ++ rest = x ++ v ++ s ++ (v' ++ rest) := by
    rw [hsplit]
    simp only [List.append_assoc]
  rw [hline, trimLine_around hne hhead hlast]
  refine ⟨_, _, rfl, fun c hc => ?_, ?_, fun c hc => ?_, fun hrest => ?_⟩
  · rcases List.mem_append.mp ((List.dropWhile_suffix isBlank).subset hc) with h | h
    · exact hx c h
    · exact isLineEnd_of_isBlank (hv c h)
  · rw [List.dropWhile_eq_nil_iff, List.forall_mem_append]
    exact and_iff_left hv
  · rw [mem_rdropWhile hc, List.mem_append]
    exact or_iff_right (not_mem_of_isLineEnd hc hv')
  · rw [List.rdropWhile_eq_nil_iff, List.forall_mem_append]
    exact ⟨hv', hrest⟩

/-- Blank pieces around a record leave it the record of the line. -/
theorem recordOf_line (hnul : 0 ∉ x ++ p ++ rest) (hx : ∀ c ∈ x, isLineEnd c = true)
    (hrest : ∀ c ∈ rest, isLineEnd c = true) (hskipped : ¬ Skipped p) (h : RecordOf p e)
    (hfirst : (∀ c ∈ x, isBlank c = true) ∨ (trimLine p).head? ≠ some 124) :
    ¬ Skipped (x ++ p ++ rest) ∧ RecordOf (x ++ p ++ rest) e := by
  have hp : 0 ∉ p := fun h => hnul (by simp [h])
  rw [skipped_iff hp, not_or] at hskipped
  obtain ⟨id, htokens, hid, hwf⟩ := h
  rw [ofBuffer_eq hp] at htokens
  obtain ⟨w, z, htrim, hw, hblank, -, hz⟩ := trimLine_piece hx hskipped.1 rest
  rw [hz hrest, List.append_nil] at htrim
  have hbar : 124 ∉ w := not_mem_of_isLineEnd (by decide) hw
  have hspace : ∀ c ∈ w, isSpace c = true := fun c hc => isSpace_of_isLineEnd (hw c hc)
  have hall : tokensOf 124 (w ++ trimLine p) = (w ++ id) :: [e.filename, e.symbol, e.name] := by
    rcases hfirst with hfirst | hfirst
    · rw [hblank.mpr hfirst, List.nil_append, htokens, List.nil_append]
    · exact tokensOf_front hbar hfirst htokens
  constructor
  · rw [skipped_iff hnul, htrim, List.append_eq_nil_iff]
    rintro (⟨-, hnone⟩ | hcomment)
    · exact hskipped.1 hnone
    · cases w with
      | nil => exact hskipped.2 hcomment
      | cons c cs =>
        rw [List.cons_append, List.head?_cons, Option.some.injEq] at hcomment
        exact not_mem_of_isLineEnd (c := 35) (by decide) hw (hcomment ▸ List.mem_cons_self)
  · refine ⟨w ++ id, ?_, ?_, hwf⟩
    · rw [ofBuffer_eq hnul, htrim, hall]
    · rw [parseU32_space hspace, hid]

/-- A line whose record is the one of a piece has nothing but bars and line ends behind it. -/
theorem recordOf_piece (hnul : 0 ∉ x ++ p ++ rest) (hx : ∀ c ∈ x, isLineEnd c = true)
    (hskipped : ¬ Skipped p) (h : RecordOf p e) (hline : RecordOf (x ++ p ++ rest) e) :
    ((∀ c ∈ x, isBlank c = true) ∨ (trimLine p).head? ≠ some 124) ∧
      ∀ c ∈ rest, isLineEnd c = true ∨ c = 124 := by
  have hp : 0 ∉ p := fun h => hnul (by simp [h])
  rw [skipped_iff hp, not_or] at hskipped
  obtain ⟨id, htokens, -⟩ := h
  rw [ofBuffer_eq hp] at htokens
  obtain ⟨id', htokens', -⟩ := hline
  obtain ⟨w, z, htrim, hw, hblank, hmem, -⟩ := trimLine_piece hx hskipped.1 rest
  rw [ofBuffer_eq hnul, htrim] at htokens'
  have hbar : 124 ∉ w := not_mem_of_isLineEnd (by decide) hw
  obtain ⟨hhead, hlength⟩ := tokensOf_behind 124 (w ++ trimLine p) z
  rw [htokens'] at hhead hlength
  have hfirst : w = [] ∨ (trimLine p).head? ≠ some 124 := by
    by_contra hboth
    rw [not_or, not_not] at hboth
    obtain ⟨hne, hhead⟩ := hboth
    obtain ⟨s, hs⟩ := List.head?_eq_some_iff.mp hhead
    -- what is in front of the bar is a fifth field
    rw [hs, tokensOf_cons] at htokens
    rw [hs, tokensOf_append hbar hne, htokens] at hlength
    exact absurd hlength (by simp)
  have hall : tokensOf 124 (w ++ trimLine p) = (w ++ id) :: [e.filename, e.symbol, e.name] := by
    rcases hfirst with rfl | hfirst
    · exact htokens
    · exact tokensOf_front hbar hfirst htokens
  rw [hall] at hhead
  have hid : w ++ id = id' := (List.cons_prefix_cons.mp hhead).1
  -- the tokens are the same, so that no other byte is left for the rest
  have hflat := tokensOf_flatten 124 (w ++ trimLine p ++ z)
  rw [htokens', ← hid, List.filter_append, ← tokensOf_flatten, hall, List.self_eq_append_right,
    List.filter_eq_nil_iff] at hflat
  refine ⟨hfirst.imp_left hblank.mp, fun c hc => ?_⟩
  cases hend : isLineEnd c with
  | true => exact Or.inl rfl
  | false => exact Or.inr (by simpa using hflat c ((hmem c hend).mpr hc))

/-! ## 5. A line -/

variable {ps : List Bytes} {es : List ManifestEntry}

/-- Among skipped pieces, one that is not skipped is the record. -/
theorem contributeAll_one {back : List Bytes} (hfront : ∀ q ∈ front, Skipped q)
    (hback : ∀ q ∈ back, Skipped q) (hp : ¬ Skipped p) (h : ContributeAll (front ++ p :: back) es) :
    ∃ e, RecordOf p e ∧ es = [e] := by
  obtain ⟨es₁, es₂, h₁, h₂, rfl⟩ := contributeAll_append.mp h
  cases h₂ with
  | cons hes hmore =>
    cases hes with
    | skipped hskipped => exact absurd hskipped hp
    | @entry e _ hrecord =>
      rw [contributeAll_skipped hfront h₁, contributeAll_skipped hback hmore]
      exact ⟨e, hrecord, rfl⟩

/-- One piece that is not skipped, and what the pieces contribute then. -/
theorem one_piece (hcount : ps.countP (fun p => ¬ Skipped p) ≤ 1) (h : ContributeAll ps es)
    (hsome : ¬ ∀ q ∈ ps, Skipped q) :
    ∃ front p back e, ps = front ++ p :: back ∧ (∀ q ∈ front, Skipped q) ∧
      (∀ q ∈ back, Skipped q) ∧ ¬ Skipped p ∧ RecordOf p e ∧ es = [e] := by
  simp only [not_forall, exists_prop] at hsome
  obtain ⟨p, hmem, hp⟩ := hsome
  obtain ⟨front, back, rfl⟩ := List.mem_iff_append.mp hmem
  rw [List.countP_append, List.countP_cons_of_pos (by simpa using hp)] at hcount
  have hnone {l : List Bytes} (hl : l.countP (fun p => ¬ Skipped p) = 0) :
      ∀ q ∈ l, Skipped q := by
    simpa [List.countP_eq_zero] using hl
  have hfront := hnone (l := front) (by omega)
  have hback := hnone (l := back) (by omega)
  obtain ⟨e, hrecord, rfl⟩ := contributeAll_one hfront hback hp h
  exact ⟨front, p, back, e, rfl, hfront, hback, hp, hrecord, rfl⟩

theorem isLineEnd_of_blank (h : ∀ q ∈ ps, trimLine q = []) :
    ∀ c ∈ ps.flatten, isLineEnd c = true := by
  intro c hc
  obtain ⟨q, hq, hcq⟩ := List.mem_flatten.mp hc
  exact trimLine_eq_nil.mp (h q hq) c hcq

theorem skipped_of_blank (hnul : 0 ∉ ps.flatten) (h : ∀ q ∈ ps, trimLine q = []) :
    ∀ q ∈ ps, Skipped q := by
  intro q hq
  have hq0 : 0 ∉ q := fun h0 => hnul (List.mem_flatten_of_mem hq h0)
  exact (skipped_iff hq0).mpr (Or.inl (h q hq))

/-- An intact line is loaded as the record of its one piece. -/
theorem contributes_of_blank {back : List Bytes} (hnul : 0 ∉ (front ++ p :: back).flatten)
    (hfront : ∀ q ∈ front, trimLine q = []) (hback : ∀ q ∈ back, trimLine q = [])
    (hp : ¬ Skipped p)
    (hfirst : (∀ c ∈ front.flatten, isBlank c = true) ∨ (trimLine p).head? ≠ some 124)
    (h : ContributeAll (front ++ p :: back) es) :
    (∀ q ∈ front ++ back, Skipped q) ∧ ¬ Skipped (front ++ p :: back).flatten ∧
      Contributes (front ++ p :: back).flatten es := by
  have hskipped : ∀ q ∈ front ++ back, Skipped q := by
    refine skipped_of_blank (fun h0 => hnul ?_) (List.forall_mem_append.mpr ⟨hfront, hback⟩)
    rw [List.flatten_append, List.mem_append] at h0
    rw [List.flatten_append, List.flatten_cons, List.mem_append, List.mem_append]
    exact h0.imp_right Or.inr
  obtain ⟨hfrontSkipped, hbackSkipped⟩ := List.forall_mem_append.mp hskipped
  obtain ⟨e, hrecord, rfl⟩ := contributeAll_one hfrontSkipped hbackSkipped hp h
  rw [List.flatten_append, List.flatten_cons, ← List.append_assoc] at hnul ⊢
  obtain ⟨hnot, hline⟩ :=
    recordOf_line hnul (isLineEnd_of_blank hfront) (isLineEnd_of_blank hback) hp hrecord hfirst
  exact ⟨hskipped, hnot, .entry hnot hline⟩

/-- The line has the record of its one piece only when the other pieces are blank. -/
theorem blank_of_recordOf {back : List Bytes} (hnul : 0 ∉ (front ++ p :: back).flatten)
    (hfront : ∀ q ∈ front, Skipped q) (hback : ∀ q ∈ back, Skipped q) (hp : ¬ Skipped p)
    (hrecord : RecordOf p e) (hline : RecordOf (front ++ p :: back).flatten e) :
    (∀ q ∈ front ++ back, trimLine q = []) ∧
      ((∀ c ∈ front.flatten, isBlank c = true) ∨ (trimLine p).head? ≠ some 124) := by
  rw [List.flatten_append, List.flatten_cons, ← List.append_assoc] at hnul hline
  have hfrontBlank : ∀ q ∈ front, trimLine q = [] := by
    rw [List.append_assoc] at hnul hline
    exact front_blank (x := []) hnul (List.forall_mem_nil _) hfront hline
  obtain ⟨hfirst, hrest⟩ :=
    recordOf_piece hnul (isLineEnd_of_blank hfrontBlank) hp hrecord hline
  refine ⟨List.forall_mem_append.mpr ⟨hfrontBlank, fun q hq => ?_⟩, hfirst⟩
  have hq0 : 0 ∉ q := fun h0 => hnul (by simp [List.mem_flatten_of_mem hq h0])
  rcases (skipped_iff hq0).mp (hback q hq) with hblank | hhash
  · exact hblank
  · -- a comment would leave its mark behind the record
    have hmem : 35 ∈ q := trimLine_subset q (List.mem_of_head? hhash)
    rcases hrest 35 (List.mem_flatten_of_mem hq hmem) with hend | hbar
    · exact absurd hend (by decide)
    · exact absurd hbar (by decide)

/-- The loop makes of a line what it would make of it in one piece, exactly when it is intact. -/
theorem intact_iff (hnul : 0 ∉ line) (h : ContributeAll (pieces 512 line) es) :
    Intact line ↔ Contributes line es ∧ NoPartRead line := by
  have hflatten := pieces_flatten (by decide : 2 ≤ 512) line
  unfold Intact NoPartRead
  generalize pieces 512 line = ps at h hflatten
  subst hflatten
  constructor
  · rintro (⟨hskipped, hall⟩ | ⟨front, p, back, rfl, hp, hblank, hfirst⟩)
    · rw [contributeAll_skipped hall h]
      refine ⟨.skipped hskipped, ?_, fun _ => hall⟩
      rw [List.countP_eq_zero.mpr (by simpa using hall)]
      exact Nat.zero_le 1
    · obtain ⟨hfront, hback⟩ := List.forall_mem_append.mp hblank
      obtain ⟨hothers, hnot, hes⟩ := contributes_of_blank hnul hfront hback hp hfirst h
      refine ⟨hes, ?_, fun hskipped => absurd hskipped hnot⟩
      obtain ⟨hfrontSkipped, hbackSkipped⟩ := List.forall_mem_append.mp hothers
      rw [List.countP_append, List.countP_cons_of_pos (by simpa using hp),
        List.countP_eq_zero.mpr (by simpa using hfrontSkipped),
        List.countP_eq_zero.mpr (by simpa using hbackSkipped)]
  · rintro ⟨hes, hcount, hcomment⟩
    by_cases hall : ∀ q ∈ ps, Skipped q
    · rw [contributeAll_skipped hall h] at hes
      cases hes with
      | skipped hskipped => exact Or.inl ⟨hskipped, hall⟩
    · obtain ⟨front, p, back, e, rfl, hfront, hback, hp, hrecord, rfl⟩ := one_piece hcount h hall
      cases hes with
      | entry hnot hline =>
        exact Or.inr ⟨front, p, back, rfl, hp,
          blank_of_recordOf hnul hfront hback hp hrecord hline⟩

/-- A line that fits the buffer is intact. -/
theorem intact_short {text : Bytes} (hline : line ∈ physicalLines text)
    (hlength : line.length ≤ 511) : Intact line := by
  obtain ⟨hne, hnewline⟩ := physicalLines_spec text line hline
  unfold Intact
  rw [pieces_short hne hnewline hlength]
  by_cases hskipped : Skipped line
  · exact Or.inl ⟨hskipped, List.forall_mem_singleton.mpr hskipped⟩
  · exact Or.inr ⟨[], line, [], rfl, hskipped, List.forall_mem_nil _, Or.inl (List.forall_mem_nil _)⟩

/-- Without parts that are read, a line and its pieces contribute equally many entries. -/
theorem NoPartRead.length_eq {es' : List ManifestEntry} (h : NoPartRead line) (hnul : 0 ∉ line)
    (hline : Contributes line es) (hpieces : ContributeAll (pieces 512 line) es') :
    es.length = es'.length := by
  have hflatten := pieces_flatten (by decide : 2 ≤ 512) line
  obtain ⟨hcount, hcomment⟩ := h
  by_cases hall : ∀ q ∈ pieces 512 line, Skipped q
  · rw [contributeAll_skipped hall hpieces]
    cases hline with
    | skipped _ => rfl
    | entry hnot hrecord =>
      -- the line would be blank
      refine absurd (Or.inl ?_) hnot
      have hwhole : [] ++ (pieces 512 line).flatten ++ [] = line := by
        rw [List.nil_append, List.append_nil, hflatten]
      rw [← hwhole] at hnul hrecord
      have hblank := front_blank hnul (List.forall_mem_nil _) hall hrecord
      rw [hwhole] at hnul
      rw [ofBuffer_eq hnul, List.head?_eq_none_iff, trimLine_eq_nil, ← hflatten]
      exact isLineEnd_of_blank hblank
  · obtain ⟨_, _, _, _, -, -, -, -, -, rfl⟩ := one_piece hcount hpieces hall
    cases hline with
    | skipped hskipped => exact absurd (hcomment hskipped) hall
    | entry _ _ => rfl

/-! ## 6. A reader that takes whole lines -/

theorem ContributeAll.pieces_of {lines : List Bytes}
    (h : ContributeAll (lines.flatMap (pieces 512)) es) (hline : line ∈ lines) :
    ∃ es', ContributeAll (pieces 512 line) es' ∧ es' ⊆ es := by
  obtain ⟨front, back, rfl⟩ := List.mem_iff_append.mp hline
  rw [List.flatMap_append, List.flatMap_cons] at h
  obtain ⟨_, _, -, hback, rfl⟩ := contributeAll_append.mp h
  obtain ⟨es', _, hes, -, rfl⟩ := contributeAll_append.mp hback
  exact ⟨es', hes, fun _ he => List.mem_append_right _ (List.mem_append_left _ he)⟩

/-- Without a bar, a NUL or a `#` a piece is blank, or it could not be loaded. -/
theorem blank_of_contributes (h : Contributes p es) (hbar : 124 ∉ p) (hnul : 0 ∉ p)
    (hhash : 35 ∉ p) : trimLine p = [] := by
  cases h with
  | skipped hskipped =>
    exact ((skipped_iff hnul).mp hskipped).resolve_right
      fun h => hhash (trimLine_subset p (List.mem_of_head? h))
  | entry _ hrecord =>
    obtain ⟨id, htokens, -⟩ := hrecord
    have hnone : 124 ∉ trimLine (ofBuffer p) := by
      rw [ofBuffer_eq hnul]
      exact fun h => hbar (trimLine_subset p h)
    have hlength := tokensOf_length_le 124 (trimLine (ofBuffer p))
    rw [length_splitOn, List.count_eq_zero_of_not_mem hnone, htokens] at hlength
    exact absurd hlength (by simp)

/-- The blank pieces in front of the first one that is not. -/
theorem first_text (hne : trimLine ps.flatten ≠ []) :
    ∃ front p back, ps = front ++ p :: back ∧ (∀ q ∈ front, trimLine q = []) ∧ trimLine p ≠ [] := by
  cases hfind : ps.find? fun q => trimLine q != [] with
  | none =>
    refine absurd (trimLine_eq_nil.mpr (isLineEnd_of_blank fun q hq => ?_)) hne
    exact bne_eq_false_iff_eq.mp (Bool.eq_false_iff.mpr (List.find?_eq_none.mp hfind q hq))
  | some p =>
    obtain ⟨hp, front, back, rfl, hfront⟩ := List.find?_eq_some_iff_append.mp hfind
    refine ⟨front, p, back, rfl, fun q hq => ?_, bne_iff_ne.mp hp⟩
    exact bne_eq_false_iff_eq.mp ((Bool.not_eq_true' _).mp (hfront q hq))

/-- What the loop sees of a piece ends at its first NUL. -/
theorem ofBuffer_split (p : Bytes) : ∃ unseen, p = ofBuffer p ++ unseen ∧
    (unseen = [] ∨ ∃ t, unseen = 0 :: t) := by
  refine ⟨p.dropWhile (· != 0), (List.takeWhile_append_dropWhile).symm, ?_⟩
  have hstop := List.head?_dropWhile_not (· != 0) p
  cases hunseen : p.dropWhile (· != 0) with
  | nil => exact Or.inl rfl
  | cons c t =>
    rw [hunseen] at hstop
    exact Or.inr ⟨t, congrArg (· :: t) (bne_eq_false_iff_eq.mp hstop)⟩

/-- The text of a line that is loaded in pieces begins with a character that hides it from the loop,
or with the text of a record, which is all of it but for what has bars or is hidden. -/
theorem text_of_line (h : ContributeAll (pieces 512 line) es) (hne : trimLine line ≠ []) :
    (∃ w c more, trimLine line = w ++ c :: more ∧ (∀ c ∈ w, isLineEnd c = true) ∧
      (c = 0 ∨ c = 35)) ∨
    ∃ e ∈ es, ∃ w s z id, trimLine line = w ++ s ++ z ∧ (∀ c ∈ w, isLineEnd c = true) ∧
      tokensOf 124 s = [id, e.filename, e.symbol, e.name] ∧ parseU32 id = some e.id ∧
      (124 ∉ z → 0 ∉ z → 35 ∉ z → z = []) := by
  have hflatten := pieces_flatten (by decide : 2 ≤ 512) line
  generalize pieces 512 line = ps at h hflatten
  subst hflatten
  obtain ⟨front, p, back, rfl, hfront, hp⟩ := first_text hne
  obtain ⟨_, _, -, hrest, rfl⟩ := contributeAll_append.mp h
  obtain ⟨unseen, hsplit, hunseen⟩ := ofBuffer_split p
  have hx : ∀ c ∈ front.flatten, isLineEnd c = true := isLineEnd_of_blank hfront
  have hline : (front ++ p :: back).flatten =
      front.flatten ++ ofBuffer p ++ (unseen ++ back.flatten) := by
    rw [List.flatten_append, List.flatten_cons, List.append_assoc, ← List.append_assoc (ofBuffer p),
      ← hsplit]
  rw [hline]
  cases hrest with
  | @cons _ _ es more hes hmore =>
    by_cases hseen : trimLine (ofBuffer p) = []
    -- the piece is blank up to a NUL
    · obtain rfl | ⟨t, rfl⟩ := hunseen
      · rw [List.append_nil] at hsplit
        rw [← hsplit] at hseen
        exact absurd hseen hp
      · left
        rw [List.cons_append, ← List.singleton_append, ← List.append_assoc,
          trimLine_around (List.cons_ne_nil 0 []) (by simp; decide) (by simp; decide),
          List.append_assoc]
        refine ⟨_, 0, _, rfl, fun c hc => ?_, Or.inl rfl⟩
        rcases List.mem_append.mp ((List.dropWhile_suffix isBlank).subset hc) with h | h
        · exact hx c h
        · exact trimLine_eq_nil.mp hseen c h
    · obtain ⟨w, z, htrim, hw, -, hmem, hz⟩ := trimLine_piece hx hseen (unseen ++ back.flatten)
      rw [htrim]
      cases hes with
      | skipped hskipped =>
        left
        rw [Skipped, List.head?_eq_none_iff] at hskipped
        obtain ⟨t, ht⟩ := List.head?_eq_some_iff.mp (hskipped.resolve_left hseen)
        refine ⟨w, 35, t ++ z, ?_, hw, Or.inr rfl⟩
        rw [ht, List.append_assoc, List.cons_append]
      | @entry e _ hrecord =>
        right
        obtain ⟨id, htokens, hid, -⟩ := hrecord
        refine ⟨e, by simp, w, _, z, id, rfl, hw, htokens, hid, fun hbar hnul hhash => hz ?_⟩
        rw [hmem _ (by decide), List.mem_append, not_or] at hbar hnul hhash
        obtain rfl | ⟨t, rfl⟩ := hunseen
        · refine isLineEnd_of_blank fun q hq => ?_
          obtain ⟨es', hes'⟩ := hmore.mem hq
          exact blank_of_contributes hes' (fun h => hbar.2 (List.mem_flatten_of_mem hq h))
            (fun h => hnul.2 (List.mem_flatten_of_mem hq h))
            fun h => hhash.2 (List.mem_flatten_of_mem hq h)
        · exact absurd List.mem_cons_self hnul.1

/-! ## 7. The text -/

/-- The step over the lines: what the loop made of the pieces it would have made of the lines. -/
theorem contributeAll_iff {lines : List Bytes} (hnul : ∀ line ∈ lines, 0 ∉ line)
    (h : ContributeAll (lines.flatMap (pieces 512)) es) :
    (ContributeAll lines es ∧ ∀ line ∈ lines, NoPartRead line) ↔ ∀ line ∈ lines, Intact line := by
  induction lines generalizing es with
  | nil =>
    cases h
    exact iff_of_true ⟨.nil, List.forall_mem_nil _⟩ (List.forall_mem_nil _)
  | cons line lines ih =>
    rw [List.flatMap_cons] at h
    obtain ⟨es, more, hes, hmore, rfl⟩ := contributeAll_append.mp h
    rw [List.forall_mem_cons] at hnul
    rw [List.forall_mem_cons, List.forall_mem_cons, intact_iff hnul.1 hes, ← ih hnul.2 hmore]
    constructor
    · rintro ⟨hall, hpart, hparts⟩
      generalize hsum : es ++ more = sum at hall
      cases hall with
      | cons hline hlines =>
        have hlength := hpart.length_eq hnul.1 hline hes
        obtain ⟨rfl, rfl⟩ := List.append_inj hsum hlength.symm
        exact ⟨⟨hline, hpart⟩, hlines, hparts⟩
    · rintro ⟨⟨hline, hpart⟩, hlines, hparts⟩
      exact ⟨.cons hline hlines, hpart, hparts⟩

/-- The loader reads line by line exactly when no line of the file is cut inside its text. -/
theorem readByLine_iff {host : Host} {path text : Bytes} {m : Manifest}
    (hfile : host.file path = some text) (hnul : 0 ∉ text)
    (hload : loadManifest host path = .ok m) :
    ReadByLine text m.entries ↔ ∀ line ∈ physicalLines text, Intact line := by
  obtain ⟨-, -, hall⟩ := (loadManifest_iff hfile).mp hload
  rw [readLines_eq (by decide)] at hall
  refine contributeAll_iff (fun line hline h0 => hnul ?_) hall
  rw [← physicalLines_flatten text]
  exact List.mem_flatten_of_mem hline h0

end

/-- A comment of 519 bytes, the last eight of which read as a record. -/
def longComment : Bytes := 35 :: List.replicate 510 120 ++ lit "1|a|b|c\n"

/-- A comment and a record, each of them one piece. -/
theorem readByLine_iff_plain : ReadByLine (lit "# a\n1|a|b|c\n") plainEntries := by
  have hload : loadManifest (textHost (lit "# a\n1|a|b|c\n")) (lit "m") = .ok plainManifest := by
    decide +kernel
  have hlines : physicalLines (lit "# a\n1|a|b|c\n") = [lit "# a\n", lit "1|a|b|c\n"] := by
    decide
  have hshort : ∀ line ∈ [lit "# a\n", lit "1|a|b|c\n"], line.length ≤ 511 := by
    rw [List.forall_mem_cons, List.forall_mem_singleton]
    exact ⟨by decide, by decide⟩
  exact (readByLine_iff rfl (by decide) hload).mpr fun line hline =>
    intact_short hline (hshort line (hlines ▸ hline))

/-- The end of a long comment is loaded. -/
theorem loadManifest_longComment :
    loadManifest (textHost longComment) (lit "m") = .ok plainManifest ∧ 0 ∉ longComment ∧
      ¬ ReadByLine longComment plainManifest.entries := by
  refine ⟨by decide +kernel, by decide +kernel, fun h => ?_⟩
  have hlines : physicalLines longComment = [longComment] := by decide +kernel
  have hskipped : Skipped longComment := by decide +kernel
  have hall := h.1
  rw [hlines, contributeAll_singleton] at hall
  exact absurd (hall.unique (.skipped hskipped)) (List.cons_ne_nil _ _)

end Ps2Drivers
