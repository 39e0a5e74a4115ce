import Ps2Drivers.Image.Lines

/-!
# Printed manifests

A manifest as it is written: one entry per line, with blank lines and comments anywhere between
them.  `load_manifest` reads the entries back.
-/

open Binary CString

namespace Ps2Drivers

/-! ## 1. The text -/

/-- The fields of the entry can be told apart again in a line. -/
structure ManifestEntry.Printable (e : ManifestEntry) : Prop where
  filename : ∀ c ∈ e.filename, c ≠ 124 ∧ c ≠ 10 ∧ c ≠ 0
  symbol : ∀ c ∈ e.symbol, c ≠ 124 ∧ c ≠ 10 ∧ c ≠ 0
  name : ∀ c ∈ e.name, c ≠ 124 ∧ c ≠ 10 ∧ c ≠ 0
  nameEnd : ∀ c, e.name.getLast? = some c → c ≠ 32 ∧ c ≠ 9 ∧ c ≠ 13

/-- `id|filename|symbol|name` -/
def ManifestEntry.print (e : ManifestEntry) : Bytes :=
  [124].intercalate [decimalText e.id.toNat, e.filename, e.symbol, e.name]

/-- The lines, without their newlines, list the entries in order. -/
inductive Printed : List ManifestEntry → List Bytes → Prop
  | nil : Printed [] []
  | blank {w : Bytes} {es : List ManifestEntry} {lines : List Bytes}
      (hw : ∀ c ∈ w, isBlank c = true) (h : Printed es lines) : Printed es (w :: lines)
  | comment {w s : Bytes} {es : List ManifestEntry} {lines : List Bytes}
      (hw : ∀ c ∈ w, isBlank c = true) (hs : ∀ c ∈ s, c ≠ 10 ∧ c ≠ 0) (h : Printed es lines) :
      Printed es ((w ++ 35 :: s) :: lines)
  | entry {w w' : Bytes} {e : ManifestEntry} {es : List ManifestEntry} {lines : List Bytes}
      (hw : ∀ c ∈ w, isBlank c = true) (hw' : ∀ c ∈ w', isBlank c = true) (h : Printed es lines) :
      Printed (e :: es) ((w ++ e.print ++ w') :: lines)

section

variable {e : ManifestEntry} {es : List ManifestEntry} {line : Bytes} {lines : List Bytes}

/-! ## 2. The fields of a printed entry -/

/-- `parse_u32` reads a printed id. -/
theorem parseU32_decimalText {id : UInt32} (hid : id ≠ 0) :
    parseU32 (decimalText id.toNat) = some id := by
  have hne : decimalText id.toNat ≠ [] := decimalText_ne_nil fun h => hid (UInt32.toNat_inj.mp h)
  have hdigits := decimalText_digits id.toNat
  obtain ⟨c, cs, hcs⟩ := List.exists_cons_of_ne_nil hne
  have hfirst : ∃ c, (decimalText id.toNat).head? = some c ∧ isDigit c = true :=
    ⟨c, by rw [hcs]; rfl, hdigits c (by rw [hcs]; exact List.mem_cons_self)⟩
  exact (parseU32_digit hfirst).mpr ⟨hdigits, decimal_decimalText id.toNat⟩

theorem ManifestEntry.Printable.plain (h : e.Printable) :
    ∀ field ∈ [decimalText e.id.toNat, e.filename, e.symbol, e.name],
      ∀ c ∈ field, c ≠ 124 ∧ c ≠ 10 ∧ c ≠ 0 := by
  simp only [List.forall_mem_cons]
  exact ⟨fun c hc => isDigit_plain (decimalText_digits _ c hc), h.filename, h.symbol, h.name,
    List.forall_mem_nil _⟩

theorem ManifestEntry.Printable.print_plain (h : e.Printable) :
    ∀ c ∈ e.print, c ≠ 10 ∧ c ≠ 0 := by
  have hplain := h.plain
  simp only [List.forall_mem_cons] at hplain
  obtain ⟨hid, hfilename, hsymbol, hname, -⟩ := hplain
  intro c hc
  simp only [ManifestEntry.print, List.intercalate_cons_cons, List.intercalate_singleton,
    List.mem_append, List.mem_singleton] at hc
  grind

theorem tokensOf_print (h : e.Printable) (hwf : e.WellFormed) :
    tokensOf 124 e.print = [decimalText e.id.toNat, e.filename, e.symbol, e.name] := by
  have hid : decimalText e.id.toNat ≠ [] :=
    decimalText_ne_nil fun h => hwf.id_ne_zero (UInt32.toNat_inj.mp h)
  have hfield {field : Bytes} (hfits : FieldFits field) : field ≠ [] :=
    List.ne_nil_of_length_pos hfits.1
  have hkeep : ∀ field ∈ [decimalText e.id.toNat, e.filename, e.symbol, e.name],
      (field != []) = true := by
    simp only [List.forall_mem_cons, bne_iff_ne]
    exact ⟨hid, hfield hwf.filename, hfield hwf.symbol, hfield hwf.name, List.forall_mem_nil _⟩
  rw [tokensOf, ManifestEntry.print,
    List.splitOn_intercalate 124 (fun field hmem hbar => (h.plain field hmem _ hbar).1 rfl)
      (List.cons_ne_nil _ _)]
  exact List.filter_eq_self.mpr hkeep

/-- A printed entry begins with a digit and ends with the last character of the name. -/
theorem trimLine_print (h : e.Printable) (hwf : e.WellFormed) :
    trimLine e.print = e.print ∧ ∃ c, e.print.head? = some c ∧ isDigit c = true := by
  have hname : e.name ≠ [] := List.ne_nil_of_length_pos hwf.name.1
  have hid : decimalText e.id.toNat ≠ [] :=
    decimalText_ne_nil fun h => hwf.id_ne_zero (UInt32.toNat_inj.mp h)
  obtain ⟨d, ds, hds⟩ := List.exists_cons_of_ne_nil hid
  have hd : isDigit d = true := decimalText_digits e.id.toNat d (by rw [hds]; exact .head ds)
  have hfirst : e.print.head? = some d := by
    rw [ManifestEntry.print, hds]
    rfl
  have hend : e.print.getLast? = e.name.getLast? := by
    simp only [ManifestEntry.print, List.intercalate_cons_cons, List.intercalate_singleton]
    rw [List.getLast?_append_of_ne_nil _ (by simp), List.getLast?_append_of_ne_nil _ (by simp),
      List.getLast?_append_of_ne_nil _ hname]
  refine ⟨trimLine_kept ?_ ?_, d, hfirst, hd⟩
  · intro c hc
    rw [hfirst, Option.some.injEq] at hc
    rw [← hc]
    exact isBlank_of_isDigit hd
  · intro c hc
    rw [hend] at hc
    obtain ⟨hspace, htab, hreturn⟩ := h.nameEnd c hc
    have hnewline := (h.name c (List.mem_of_getLast? hc)).2.1
    simp [isLineEnd, isBlank, *]

/-! ## 3. The lines -/

theorem contributes_congr {line' : Bytes}
    (h : trimLine (ofBuffer line) = trimLine (ofBuffer line')) (hes : Contributes line es) :
    Contributes line' es := by
  cases hes with
  | skipped hskipped =>
    unfold Skipped at hskipped
    rw [h] at hskipped
    exact .skipped hskipped
  | entry hskipped hrecord =>
    unfold Skipped at hskipped
    unfold RecordOf at hrecord
    rw [h] at hskipped hrecord
    exact .entry hskipped hrecord

/-- A line in front of lines that were joined adds what it contributes by itself. -/
theorem contributes_intercalate {es' : List ManifestEntry} (hline : ∀ c ∈ line, c ≠ 10 ∧ c ≠ 0)
    (hes : Contributes line es)
    (hrest : ContributeAll (physicalLines ([10].intercalate lines)) es') :
    ContributeAll (physicalLines ([10].intercalate (line :: lines))) (es ++ es') := by
  have hnewline : 10 ∉ line := fun h => (hline 10 h).1 rfl
  have hnul : 0 ∉ line := fun h => (hline 0 h).2 rfl
  rw [physicalLines_intercalate hnewline]
  split
  · rename_i hlines
    rw [hlines] at hrest
    cases hrest
    split
    · rename_i hnone
      rw [hnone] at hes
      rw [hes.unique (.skipped (Or.inl rfl))]
      exact .nil
    · exact .cons hes .nil
  · refine .cons (contributes_congr ?_ hes) hrest
    rw [ofBuffer_eq hnul, ofBuffer_eq (by simp [hnul]),
      trimLine_behind (List.forall_mem_singleton.mpr rfl)]

theorem contributes_blank {w : Bytes} (hw : ∀ c ∈ w, isBlank c = true) : Contributes w [] := by
  refine .skipped (Or.inl ?_)
  rw [ofBuffer_eq fun h => (isBlank_plain (hw 0 h)).2 rfl,
    trimLine_eq_nil.mpr fun c hc => isLineEnd_of_isBlank (hw c hc)]
  rfl

theorem contributes_comment {w s : Bytes} (hw : ∀ c ∈ w, isBlank c = true) (hs : 0 ∉ s) :
    Contributes (w ++ 35 :: s) [] := by
  have hnul : 0 ∉ w ++ 35 :: s := by
    have hfront : 0 ∉ w := fun h => (isBlank_plain (hw 0 h)).2 rfl
    simp [hfront, hs]
  refine .skipped (Or.inr ?_)
  rw [ofBuffer_eq hnul, trimLine_front hw]
  exact trimLine_head (by decide) (by decide) s

theorem contributes_print {w w' : Bytes} (hw : ∀ c ∈ w, isBlank c = true)
    (hw' : ∀ c ∈ w', isBlank c = true) (h : e.Printable) (hwf : e.WellFormed) :
    Contributes (w ++ e.print ++ w') [e] := by
  have hnul : 0 ∉ w ++ e.print ++ w' := by
    have hfront : 0 ∉ w := fun h => (isBlank_plain (hw 0 h)).2 rfl
    have hback : 0 ∉ w' := fun h => (isBlank_plain (hw' 0 h)).2 rfl
    have hprint : 0 ∉ e.print := fun hc => (h.print_plain 0 hc).2 rfl
    simp [hfront, hback, hprint]
  obtain ⟨htrim, d, hfirst, hd⟩ := trimLine_print h hwf
  have hseen : trimLine (ofBuffer (w ++ e.print ++ w')) = e.print := by
    rw [ofBuffer_eq hnul, trimLine_behind fun c hc => isLineEnd_of_isBlank (hw' c hc),
      trimLine_front hw, htrim]
  refine .entry ?_ ⟨decimalText e.id.toNat, ?_, parseU32_decimalText hwf.id_ne_zero, hwf⟩
  · unfold Skipped
    rw [hseen, hfirst, Option.some.injEq]
    rintro (h | rfl)
    · cases h
    · exact absurd hd (by decide)
  · rw [hseen, tokensOf_print h hwf]

/-- The lines of a printed manifest contribute its entries. -/
theorem Printed.contributes (h : Printed es lines)
    (hes : ∀ e ∈ es, e.WellFormed ∧ e.Printable) :
    (∀ line ∈ lines, 10 ∉ line) ∧
      ContributeAll (physicalLines ([10].intercalate lines)) es := by
  induction h with
  | nil => exact ⟨List.forall_mem_nil _, .nil⟩
  | blank hw _ ih =>
    obtain ⟨hlines, hall⟩ := ih hes
    have hplain := fun c hc => isBlank_plain (hw c hc)
    exact ⟨List.forall_mem_cons.mpr ⟨fun hc => (hplain 10 hc).1 rfl, hlines⟩,
      contributes_intercalate hplain (contributes_blank hw) hall⟩
  | @comment w s _ _ hw hs _ ih =>
    obtain ⟨hlines, hall⟩ := ih hes
    have hplain : ∀ c ∈ w ++ 35 :: s, c ≠ 10 ∧ c ≠ 0 := by
      rw [List.forall_mem_append, List.forall_mem_cons]
      exact ⟨fun c hc => isBlank_plain (hw c hc), by decide, hs⟩
    exact ⟨List.forall_mem_cons.mpr ⟨fun hc => (hplain 10 hc).1 rfl, hlines⟩,
      contributes_intercalate hplain (contributes_comment hw fun hc => (hs 0 hc).2 rfl) hall⟩
  | @entry w w' e _ _ hw hw' _ ih =>
    rw [List.forall_mem_cons] at hes
    obtain ⟨⟨hwf, hprintable⟩, hes⟩ := hes
    obtain ⟨hlines, hall⟩ := ih hes
    have hplain : ∀ c ∈ w ++ e.print ++ w', c ≠ 10 ∧ c ≠ 0 := by
      rw [List.forall_mem_append, List.forall_mem_append]
      exact ⟨⟨fun c hc => isBlank_plain (hw c hc), hprintable.print_plain⟩,
        fun c hc => isBlank_plain (hw' c hc)⟩
    exact ⟨List.forall_mem_cons.mpr ⟨fun hc => (hplain 10 hc).1 rfl, hlines⟩,
      contributes_intercalate hplain (contributes_print hw hw' hprintable hwf) hall⟩

/-- `load_manifest` reads back what was printed. -/
theorem loadManifest_printed {host : Host} {path : Bytes} {entries : List ManifestEntry}
    (hfile : host.file path = some ([10].intercalate lines)) (hline : ∀ k, host.lineOk k = true)
    (hprinted : Printed entries lines) (hlengths : ∀ line ∈ lines, line.length ≤ 510)
    (hcount : 1 ≤ entries.length ∧ entries.length ≤ 128)
    (hentries : ∀ e ∈ entries, e.WellFormed ∧ e.Printable) (hids : (entries.map (·.id)).Nodup) :
    loadManifest host path = .ok ⟨entries, manifestLogicalCrc entries⟩ := by
  obtain ⟨hnewline, hall⟩ := hprinted.contributes hentries
  have hshort : ∀ line ∈ physicalLines ([10].intercalate lines), line.length < 512 := by
    intro line hmem
    have := physicalLines_intercalate_length (n := 510)
      (fun l hl => ⟨hnewline l hl, hlengths l hl⟩) line hmem
    omega
  have hread := readLines_short (by decide) hshort
  rw [loadManifest_iff hfile, hread]
  exact ⟨fun i _ => hline i,
    ⟨hcount.1, ⟨hcount.2, fun e he => (hentries e he).1, hids⟩, rfl⟩, hall⟩

end

def plainEntry : ManifestEntry := ⟨1, lit "a.irx", lit "a", lit "A"⟩

/-- The largest id, a symbol that would start a comment, and a blank in the name. -/
def oddEntry : ManifestEntry := ⟨4294967295, lit "b.irx", lit "#", lit "b b"⟩

def printedLines : List Bytes :=
  [lit "\t# ids", [], lit " " ++ plainEntry.print ++ lit "\t", oddEntry.print, []]

theorem loadManifest_printed_two :
    loadManifest (textHost ([10].intercalate printedLines)) (lit "m") =
      .ok ⟨[plainEntry, oddEntry], manifestLogicalCrc [plainEntry, oddEntry]⟩ := by
  have hprinted : Printed [plainEntry, oddEntry] printedLines := by
    refine .comment (w := lit "\t") (s := lit " ids") (by decide +kernel) (by decide +kernel) ?_
    refine .blank (List.forall_mem_nil _) ?_
    refine @Printed.entry (lit " ") (lit "\t") _ _ _ (by decide +kernel) (by decide +kernel) ?_
    refine List.append_nil (ManifestEntry.print _) ▸
      @Printed.entry [] [] _ _ _ (List.forall_mem_nil _) (List.forall_mem_nil _) ?_
    exact .blank (List.forall_mem_nil _) .nil
  have hlengths : ∀ line ∈ printedLines, line.length ≤ 510 := by
    simp [printedLines, plainEntry, oddEntry, ManifestEntry.print, decimalText, lit]
  refine loadManifest_printed rfl (fun _ => rfl) hprinted hlengths (by decide) ?_ (by decide)
  simp only [plainEntry, oddEntry, List.forall_mem_cons]
  refine ⟨⟨⟨?_, ?_, ?_, ?_⟩, ?_, ?_, ?_, ?_⟩, ⟨⟨?_, ?_, ?_, ?_⟩, ?_, ?_, ?_, ?_⟩,
    List.forall_mem_nil _⟩ <;> decide +kernel

end Ps2Drivers
