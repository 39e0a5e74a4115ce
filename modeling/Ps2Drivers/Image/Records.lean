import Ps2Drivers.Image.Lines

/-!
# Malformed lines

`strtok` never returns an empty token, so the check of `copy_field` for an empty field never
applies, and `strtoul` takes signs and white space.  The results here say which malformed lines are
loaded in spite of the checks.
-/

open Binary CString

namespace Ps2Drivers

/-- The line is four fields between bars, none of them empty, with a number in front that an id can
be. -/
def FourFields (s : Bytes) : Prop :=
  ∃ id filename symbol name, s.splitOn 124 = [id, filename, symbol, name] ∧
    [] ∉ [id, filename, symbol, name] ∧ (∀ c ∈ id, isDigit c = true) ∧
    1 ≤ decimal id ∧ decimal id ≤ 2 ^ 32 - 1

/-- The line begins with a digit, has no bar at its end or next to another bar, and none behind a
NUL. -/
def WellBarred (line : Bytes) : Prop :=
  let seen := trimLine (ofBuffer line)
  (∃ c, seen.head? = some c ∧ isDigit c = true) ∧ seen.getLast? ≠ some 124 ∧
    ¬ Doubled 124 seen ∧ 124 ∉ line.drop (ofBuffer line).length

section

variable {s more line : Bytes} {fields : List Bytes}

/-- The text that is trimmed goes on behind what the loop sees of it, which ends at a NUL. -/
theorem trimLine_seen (hne : trimLine (ofBuffer line) ≠ []) :
    ∃ more, trimLine line = trimLine (ofBuffer line) ++ more ∧
      (124 ∈ more ↔ 124 ∈ line.drop (ofBuffer line).length) := by
  have hline : line = ofBuffer line ++ line.dropWhile (· != 0) :=
    (List.takeWhile_append_dropWhile).symm
  have hhidden : line.drop (ofBuffer line).length = line.dropWhile (· != 0) :=
    (congrArg (List.drop (ofBuffer line).length) hline).trans List.drop_left
  obtain ⟨w, w', hseen, hw, hw', hhead, hlast⟩ := trimLine_spec (ofBuffer line)
  rw [hhidden]
  generalize trimLine (ofBuffer line) = seen at hseen hne hhead hlast ⊢
  refine ⟨(w' ++ line.dropWhile (· != 0)).rdropWhile isLineEnd, ?_, ?_⟩
  · have hsplit : line = w ++ seen ++ (w' ++ line.dropWhile (· != 0)) := by
      rw [← List.append_assoc, ← hseen]
      exact hline
    have haround := trimLine_around hne hhead hlast w (w' ++ line.dropWhile (· != 0))
    rw [← hsplit, List.dropWhile_eq_nil_iff.mpr hw, List.nil_append] at haround
    exact haround
  · rw [mem_rdropWhile (by decide), List.mem_append]
    exact or_iff_right fun h => absurd (hw' 124 h) (by decide)

theorem FourFields.length (h : FourFields s) : (s.splitOn 124).length = 4 := by
  obtain ⟨_, _, _, _, hsplit, -⟩ := h
  rw [hsplit]
  rfl

/-- A bar with four tokens in front of it makes five parts. -/
theorem FourFields.front (h : FourFields s) (l rest : Bytes) (hs : s = l ++ 124 :: rest) :
    (tokensOf 124 l).length < 4 := by
  have hparts := h.length
  rw [hs, List.splitOn_append_cons_self, List.length_append] at hparts
  have hle := tokensOf_length_le 124 l
  have hpos : 0 < (rest.splitOn 124).length := List.length_pos_iff.mpr (List.splitOn_ne_nil 124 rest)
  omega

/-- Four fields begin with the first digit of the id. -/
theorem FourFields.head (h : FourFields s) : ∃ c, s.head? = some c ∧ isDigit c = true := by
  obtain ⟨id, filename, symbol, name, hsplit, hne, hdigits, -⟩ := h
  obtain ⟨c, cs, rfl⟩ := List.exists_cons_of_ne_nil (l := id) fun h => hne (h ▸ List.mem_cons_self)
  have hs : [124].intercalate (s.splitOn 124) = s := List.intercalate_splitOn 124
  rw [hsplit] at hs
  rw [← hs]
  exact ⟨c, rfl, hdigits c List.mem_cons_self⟩

theorem FourFields.nonempty (h : FourFields s) : [] ∉ s.splitOn 124 := by
  obtain ⟨_, _, _, _, hsplit, hne, -⟩ := h
  rw [hsplit]
  exact hne

/-- A line that was loaded as a record. -/
theorem fourFields_seen {id filename symbol name : Bytes} {value : UInt32} {hidden : Bytes}
    (htokens : tokensOf 124 s = [id, filename, symbol, name]) (hid : parseU32 id = some value)
    (hvalue : value ≠ 0) (hmore : 124 ∈ more ↔ 124 ∈ hidden) :
    FourFields (s ++ more) ↔
      (∃ c, s.head? = some c ∧ isDigit c = true) ∧ s.getLast? ≠ some 124 ∧ ¬ Doubled 124 s ∧
        124 ∉ hidden := by
  have hne : s ≠ [] := by
    rintro rfl
    cases htokens
  constructor
  · intro h
    obtain ⟨c, hc, hdigit⟩ := h.head
    obtain ⟨-, -, -, hdoubled⟩ := (splitOn_nonempty_iff (s ++ more)).mp h.nonempty
    rw [List.head?_append_of_ne_nil _ hne] at hc
    refine ⟨⟨c, hc, hdigit⟩, ?_, ?_, ?_⟩
    · intro hlast
      obtain ⟨l, hl⟩ := List.getLast?_eq_some_iff.mp hlast
      have hfront := h.front l more (by rw [hl, List.append_assoc]; rfl)
      rw [hl, tokensOf_append_cons] at htokens
      have hlength := congrArg List.length htokens
      change (tokensOf 124 l ++ []).length = 4 at hlength
      rw [List.append_nil] at hlength
      omega
    · exact fun hs => hdoubled (hs.trans (List.prefix_append s more).isInfix)
    · rw [← hmore]
      intro hbar
      obtain ⟨m, rest, hm, -⟩ := List.eq_append_cons_of_mem hbar
      have hfront := h.front (s ++ m) rest (by rw [hm, List.append_assoc])
      have hbehind := (tokensOf_behind 124 s m).2
      have hlength := congrArg List.length htokens
      change _ = 4 at hlength
      omega
  · rintro ⟨⟨c, hc, hdigit⟩, hlast, hdoubled, hhidden⟩
    have hfirst : s.head? ≠ some 124 := by
      rw [hc, ne_eq, Option.some.injEq]
      rintro rfl
      exact absurd hdigit (by decide)
    have hfull : [] ∉ s.splitOn 124 :=
      (splitOn_nonempty_iff s).mpr ⟨hne, hfirst, hlast, hdoubled⟩
    have hsplit := (tokensOf_eq_splitOn hfull).symm.trans htokens
    have hs : [124].intercalate (s.splitOn 124) = s := List.intercalate_splitOn 124
    rw [hsplit] at hs hfull
    have hparts := splitOn_parts 124 s
    rw [hsplit] at hparts
    simp only [List.forall_mem_cons] at hparts
    obtain ⟨hidbar, hfilename, hsymbol, hname, -⟩ := hparts
    -- the hidden part belongs to the last field
    have hlonger : s ++ more = [124].intercalate [id, filename, symbol, name ++ more] := by
      rw [← hs]
      simp [List.intercalate_cons_cons]
    have hidhead : ∃ c, id.head? = some c ∧ isDigit c = true := by
      obtain ⟨d, ds, rfl⟩ := List.exists_cons_of_ne_nil (l := id) fun h =>
        hfull (h ▸ List.mem_cons_self)
      rw [← hs] at hc
      exact ⟨c, hc, hdigit⟩
    obtain ⟨hdigits, hdecimal⟩ := (parseU32_digit hidhead).mp hid
    have hzero : value.toNat ≠ 0 := fun h => hvalue (UInt32.toNat_inj.mp h)
    have hrange : value.toNat < 2 ^ 32 := value.toNat_lt
    refine ⟨id, filename, symbol, name ++ more, ?_, ?_, hdigits, by omega, by omega⟩
    · rw [hlonger, List.splitOn_intercalate 124 _ (List.cons_ne_nil _ _)]
      simp only [List.forall_mem_cons, List.mem_append, not_or]
      exact ⟨hidbar, hfilename, hsymbol, ⟨hname, fun h => hhidden (hmore.mp h)⟩,
        List.forall_mem_nil _⟩
    · simp only [List.mem_cons, not_or] at hfull ⊢
      refine ⟨hfull.1, hfull.2.1, hfull.2.2.1, ?_, List.not_mem_nil⟩
      exact fun h => hfull.2.2.2.1 (List.append_eq_nil_iff.mp h.symm).1.symm

/-- A line that the loop skips but that is no comment does not begin with a digit. -/
theorem skipped_head (hskipped : Skipped line) (hcomment : (trimLine line).head? ≠ some 35) :
    ¬ ∃ c, (trimLine line).head? = some c ∧ isDigit c = true := by
  rintro ⟨c, hc, hdigit⟩
  by_cases hseen : trimLine (ofBuffer line) = []
  · obtain ⟨cs, hcs⟩ := List.head?_eq_some_iff.mp hc
    obtain ⟨w, w', hline, hw, -⟩ := trimLine_spec line
    have hmem : c ∈ ofBuffer line := by
      have hw0 : ∀ b ∈ w, (b != 0) = true := fun b hb => bne_iff_ne.mpr (isBlank_plain (hw b hb)).2
      rw [hline, hcs, ofBuffer, List.append_assoc, List.takeWhile_append_of_pos hw0,
        List.cons_append, List.takeWhile_cons_of_pos (p := (· != 0))
          (bne_iff_ne.mpr (isDigit_plain hdigit).2.2)]
      exact List.mem_append_right w List.mem_cons_self
    have hend := trimLine_eq_nil.mp hseen c hmem
    rw [isLineEnd, isBlank_of_isDigit hdigit, Bool.or_false, Bool.or_eq_true, beq_iff_eq,
      beq_iff_eq] at hend
    rcases hend with rfl | rfl <;> exact absurd hdigit (by decide)
  · obtain ⟨more, hmore, -⟩ := trimLine_seen hseen
    rw [hmore, List.head?_append_of_ne_nil _ hseen] at hcomment
    rcases hskipped with h | h
    · exact hseen (List.head?_eq_none_iff.mp h)
    · exact hcomment h

/-- What the loader lets through: `strtok` merges bars, `strtoul` takes signs and white space, and a
NUL hides the rest of a line.  A line without any of these is four fields. -/
theorem fourFields_iff {host : Host} {path text : Bytes} {m : Manifest}
    (hfile : host.file path = some text) (hload : loadManifest host path = .ok m)
    (hline : line ∈ physicalLines text) (hshort : line.length ≤ 511)
    (hcomment : (trimLine line).head? ≠ some 35) :
    FourFields (trimLine line) ↔ WellBarred line := by
  obtain ⟨-, -, hall⟩ := (loadManifest_iff hfile).mp hload
  obtain ⟨hne, hnewline⟩ := physicalLines_spec text line hline
  have hread : line ∈ readLines 512 text.length text := by
    rw [readLines_eq (by decide), List.mem_flatMap]
    exact ⟨line, hline, by rw [pieces_short hne hnewline hshort]; exact List.mem_singleton_self _⟩
  obtain ⟨es, hes⟩ := hall.mem hread
  cases hes with
  | skipped hskipped =>
    refine iff_of_false (fun h => skipped_head hskipped hcomment h.head) fun h => ?_
    obtain ⟨⟨c, hc, hdigit⟩, -⟩ := h
    rcases hskipped with hnone | hhash
    · rw [hc] at hnone
      cases hnone
    · rw [hc, Option.some.injEq] at hhash
      rw [hhash] at hdigit
      exact absurd hdigit (by decide)
  | entry hskipped hrecord =>
    obtain ⟨id, htokens, hid, hwf⟩ := hrecord
    have hseen : trimLine (ofBuffer line) ≠ [] := fun h =>
      hskipped (Or.inl (List.head?_eq_none_iff.mpr h))
    obtain ⟨more, hmore, hbar⟩ := trimLine_seen hseen
    rw [hmore]
    exact fourFields_seen htokens hid hwf.id_ne_zero hbar

end

theorem fourFields_iff_plain : FourFields (trimLine (lit "1|a|b|c\n")) := by
  have hload : loadManifest (textHost (lit "1|a|b|c\n")) (lit "m") = .ok plainManifest := by
    decide +kernel
  have hbarred : WellBarred (lit "1|a|b|c\n") :=
    ⟨⟨49, by decide, by decide⟩, by decide, by decide +kernel, by decide +kernel⟩
  exact (fourFields_iff rfl hload (by decide) (by decide) (by decide)).mpr hbarred

structure Malformed (line : Bytes) : Prop where
  loads : loadManifest (textHost line) (lit "m") = .ok plainManifest
  whole : line ∈ physicalLines line
  short : line.length ≤ 511
  text : trimLine line ≠ []
  noComment : (trimLine line).head? ≠ some 35
  fields : ¬ FourFields (trimLine line)

/-- An empty second field, and an id with a sign, of which only the low 32 bits are small. -/
theorem loadManifest_malformed :
    Malformed (lit "1||a|b|c\n") ∧ Malformed (lit "-18446744073709551615|a|b|c\n") := by
  refine ⟨⟨by decide +kernel, by decide, by decide, by decide, by decide, ?_⟩,
    ⟨by decide +kernel, by decide, by decide, by decide, by decide, ?_⟩⟩
  · exact fun h => absurd h.length (by decide)
  · intro h
    obtain ⟨c, hc, hdigit⟩ := h.head
    have hminus : c = 45 := by
      rw [show (trimLine (lit "-18446744073709551615|a|b|c\n")).head? = some 45 by decide] at hc
      exact (Option.some.inj hc).symm
    rw [hminus] at hdigit
    exact absurd hdigit (by decide)

end Ps2Drivers
