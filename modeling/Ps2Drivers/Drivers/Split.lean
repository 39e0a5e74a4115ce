import Ps2Drivers.Drivers.Shutdown

/-!
# Splitting the working directory

`str_split` counts the delimiters, `strtok` merges them, and the assertions of `str_split` hold
only when the two agree: then the path is its segments joined again.  `getMountInfo` formats the
first four of them into buffers of its caller.
-/

open Binary CString

namespace Ps2Drivers

/-! ## 1. Segments -/

/-- The segments `strtok` finds in a path. -/
def segments (path : Bytes) : List Bytes := tokens colon path.length path

/-- The text of the first `n` fields, as `cut -d: -f1-n` prints it. -/
def firstFields (delim : UInt8) : Nat → Bytes → Bytes
  | 0, _ => []
  | _ + 1, [] => []
  | n + 1, c :: cs =>
    if c = delim then if n = 0 then [] else c :: firstFields delim n cs
    else c :: firstFields delim (n + 1) cs

/-- The segments joined again, with at most one delimiter behind them. -/
def Joins (delim : UInt8) (segments : List Bytes) (s : Bytes) : Prop :=
  ∃ tail, (tail = [] ∨ tail = [delim]) ∧ s = [delim].intercalate segments ++ tail

section

variable {delim : UInt8} {s token rest : Bytes} {n : Nat}

theorem firstFields_token (h : delim ∉ token) : firstFields delim (n + 1) token = token := by
  induction token with
  | nil => rfl
  | cons c cs ih =>
    rw [List.mem_cons, not_or] at h
    rw [firstFields, if_neg (Ne.symm h.1), ih h.2]

theorem firstFields_append (h : delim ∉ token) (rest : Bytes) :
    firstFields delim (n + 1) (token ++ delim :: rest) =
      token ++ if n = 0 then [] else delim :: firstFields delim n rest := by
  induction token with
  | nil => rw [List.nil_append, firstFields, if_pos rfl, List.nil_append]
  | cons c cs ih =>
    rw [List.mem_cons, not_or] at h
    rw [List.cons_append, firstFields, if_neg (Ne.symm h.1), ih h.2, List.cons_append]

theorem tokens_spec (fuel : Nat) (s : Bytes) :
    ∀ token ∈ tokens delim fuel s, token ≠ [] ∧ delim ∉ token := by
  induction fuel generalizing s with
  | zero => exact fun _ h => nomatch h
  | succ fuel ih =>
    intro token htoken
    rw [tokens] at htoken
    split at htoken
    · cases htoken
    · rename_i first rest hfirst
      obtain ⟨hne, hmem, -⟩ := strtok_some hfirst
      rcases List.mem_cons.mp htoken with rfl | hrest
      · exact ⟨hne, hmem⟩
      · exact ih rest token hrest

theorem splitCount_last (hskipped : ∀ c ∈ s, c = delim) (htoken : delim ∉ token)
    (hne : token ≠ []) : splitCount delim (s ++ token) = s.length + 2 := by
  have hcount : s.count delim = s.length := List.count_eq_length.mpr fun c hc => (hskipped c hc).symm
  have hlast : (s ++ token).getLast? ≠ some delim := by
    rw [List.getLast?_append_of_ne_nil s hne]
    exact fun h => htoken (List.mem_of_getLast? h)
  rw [splitCount, if_neg hlast, List.count_append, hcount, List.count_eq_zero.mpr htoken]

theorem splitCount_next (hskipped : ∀ c ∈ s, c = delim) (htoken : delim ∉ token) :
    splitCount delim (s ++ token ++ delim :: rest) =
      s.length + if rest = [] then 2 else splitCount delim rest + 1 := by
  have hcount : s.count delim = s.length := List.count_eq_length.mpr fun c hc => (hskipped c hc).symm
  rw [splitCount, List.count_append, List.count_append, hcount, List.count_eq_zero.mpr htoken,
    List.count_cons_self, List.getLast?_append_of_ne_nil _ (List.cons_ne_nil delim rest)]
  cases rest with
  | nil => rw [List.getLast?_singleton, if_pos rfl, if_pos rfl, List.count_nil]
  | cons c cs =>
    rw [List.getLast?_cons_cons, if_neg (List.cons_ne_nil c cs), splitCount]
    omega

theorem two_le_splitCount (delim : UInt8) (s : Bytes) : 2 ≤ splitCount delim s := by
  unfold splitCount
  split
  · rename_i hlast
    have hpos : 0 < s.count delim := List.count_pos_iff.mpr (List.mem_of_getLast? hlast)
    omega
  · omega

/-- `strtok` never finds more tokens than `str_split` has counted, and as many only in a path
without empty segments. -/
theorem tokens_joins (fuel : Nat) (s : Bytes) (hfuel : s.length ≤ fuel) :
    (tokens delim fuel s).length + 1 ≤ splitCount delim s ∧
      ((tokens delim fuel s).length + 1 = splitCount delim s →
        Joins delim (tokens delim fuel s) s) := by
  induction fuel generalizing s with
  | zero =>
    rw [List.eq_nil_of_length_eq_zero (Nat.le_zero.mp hfuel)]
    exact ⟨Nat.le_succ 1, nofun⟩
  | succ fuel ih =>
    rw [tokens]
    have htwo := two_le_splitCount delim s
    split
    · -- no token is left, and the count is two at least
      rw [List.length_nil]
      exact ⟨by omega, fun h => by omega⟩
    · rename_i token rest hsome
      obtain ⟨hne, htoken, -, hlength⟩ := strtok_some hsome
      obtain ⟨skipped, tail, hskipped, hs, htail⟩ := strtok_splits hsome
      obtain ⟨hle, hjoins⟩ := ih rest (by
        have := List.length_pos_iff.mpr hne
        omega)
      rw [List.length_cons]
      rcases htail with ⟨rfl, rfl⟩ | rfl
      · -- the path ends with the token
        have hnil : tokens delim fuel [] = [] := by cases fuel <;> rfl
        rw [List.append_nil] at hs
        rw [hs, splitCount_last hskipped htoken hne, hnil, List.length_nil]
        refine ⟨by omega, fun h => ?_⟩
        -- every skipped delimiter was counted, so as many tokens leave none
        rw [List.eq_nil_of_length_eq_zero (by omega : skipped.length = 0)]
        exact ⟨[], Or.inl rfl, by simp⟩
      · -- a delimiter follows the token, with nothing or with more tokens behind it
        rw [hs, splitCount_next hskipped htoken]
        by_cases hrest : rest = []
        · have hnil : tokens delim fuel [] = [] := by cases fuel <;> rfl
          rw [hrest, if_pos rfl, hnil, List.length_nil]
          refine ⟨by omega, fun h => ?_⟩
          rw [List.eq_nil_of_length_eq_zero (by omega : skipped.length = 0)]
          exact ⟨[delim], Or.inr rfl, by simp⟩
        · rw [if_neg hrest]
          refine ⟨by omega, fun h => ?_⟩
          obtain ⟨tail, htail, hjoin⟩ := hjoins (by omega)
          have hmore : tokens delim fuel rest ≠ [] := by
            have := two_le_splitCount delim rest
            exact List.ne_nil_of_length_pos (by omega)
          obtain ⟨second, more, hcons⟩ := List.exists_cons_of_ne_nil hmore
          rw [List.eq_nil_of_length_eq_zero (by omega : skipped.length = 0)]
          refine ⟨tail, htail, ?_⟩
          rw [hcons, List.intercalate_cons_cons, ← hcons, List.nil_append]
          simp only [List.append_assoc, List.cons_append, List.nil_append, ← hjoin]

/-- Behind a delimiter at the front the counts differ: it was counted, and no token stands before
it. -/
theorem tokens_uneven (fuel : Nat) (hfuel : s.length ≤ fuel) (hhead : s.head? = some delim) :
    (tokens delim fuel s).length + 1 ≠ splitCount delim s := by
  intro h
  obtain ⟨tail, htail, hjoin⟩ := (tokens_joins fuel s hfuel).2 h
  cases htokens : tokens delim fuel s with
  | nil =>
    have htwo := two_le_splitCount delim s
    rw [← h, htokens] at htwo
    exact absurd htwo (Nat.lt_irrefl 1)
  | cons first more =>
    -- the joined segments begin with the first of them
    obtain ⟨hne, hfirst⟩ := tokens_spec fuel s first (htokens ▸ List.mem_cons_self)
    obtain ⟨joined, hjoined⟩ : ∃ joined, [delim].intercalate (first :: more) = first ++ joined := by
      cases more with
      | nil => exact ⟨[], by rw [List.intercalate_singleton, List.append_nil]⟩
      | cons second more => exact ⟨_, by rw [List.intercalate_cons_cons, List.append_assoc]⟩
    rw [htokens, hjoined, List.append_assoc] at hjoin
    rw [hjoin, List.head?_append_of_ne_nil _ hne] at hhead
    exact hfirst (List.mem_of_head? hhead)

/-- The counts agree on a path that does not begin with a delimiter and has no two of them next to
each other. -/
theorem tokens_even_iff (fuel : Nat) (s : Bytes) (hfuel : s.length ≤ fuel) (hne : s ≠ [])
    (hhead : s.head? ≠ some delim) :
    (tokens delim fuel s).length + 1 = splitCount delim s ↔ ¬ Doubled delim s := by
  -- a token at a time, the delimiter behind it included
  induction fuel generalizing s with
  | zero => exact absurd (List.eq_nil_of_length_eq_zero (Nat.le_zero.mp hfuel)) hne
  | succ fuel ih =>
    rw [tokens]
    split
    · rename_i hnone
      obtain ⟨c, cs, rfl⟩ := List.exists_cons_of_ne_nil hne
      rw [strtok_none.mp hnone c List.mem_cons_self] at hhead
      exact absurd rfl hhead
    · rename_i token rest hsome
      obtain ⟨htokenNe, htoken, -, hlength⟩ := strtok_some hsome
      obtain ⟨skipped, tail, hskipped, hs, htail⟩ := strtok_splits hsome
      -- the path does not begin with a delimiter, so `strtok` skips nothing
      have hskip : skipped = [] := by
        cases skipped with
        | nil => rfl
        | cons c more =>
          rw [hs, hskipped c List.mem_cons_self] at hhead
          exact absurd rfl hhead
      have hrestLength : rest.length ≤ fuel := by
        have := List.length_pos_iff.mpr htokenNe
        omega
      subst hskip
      rw [List.nil_append] at hs
      rw [List.length_cons, hs, doubled_append htoken]
      have hnil : tokens delim fuel [] = [] := by cases fuel <;> rfl
      rcases htail with ⟨rfl, rfl⟩ | rfl
      · have hcount : splitCount delim token = 2 := splitCount_last hskipped htoken htokenNe
        rw [List.append_nil, hcount, hnil]
        exact iff_of_true rfl (by simp [Doubled])
      · have hcount : splitCount delim (token ++ delim :: rest) =
            0 + if rest = [] then 2 else splitCount delim rest + 1 :=
          splitCount_next hskipped htoken
        rw [hcount, doubled_cons]
        by_cases hrest : rest = []
        · rw [hrest, if_pos rfl, hnil]
          exact iff_of_true rfl (by simp [Doubled])
        · rw [if_neg hrest, Nat.zero_add, Nat.add_right_cancel_iff]
          by_cases hrestHead : rest.head? = some delim
          · -- two delimiters: `strtok` takes them for one from here on
            exact iff_of_false (tokens_uneven fuel hrestLength hrestHead)
              fun h => h (Or.inl ⟨rfl, hrestHead⟩)
          · rw [ih rest hrestLength hrest hrestHead]
            exact not_congr (or_iff_right fun h => hrestHead h.2).symm

theorem splitsEvenly.joins {path : Bytes} (h : splitsEvenly path) :
    Joins colon (segments path) path := (tokens_joins path.length path le_rfl).2 h

theorem segments_spec (path : Bytes) : ∀ segment ∈ segments path, segment ≠ [] ∧ colon ∉ segment :=
  tokens_spec path.length path

end

/-! ## 2. What `getMountInfo` formats -/

namespace Console

variable (console : Console)

/-- The copies `strdup` makes of the segments, and the events so far. -/
def strdups : List Bytes → List Event → List (Option Bytes) × List Event
  | [], past => ([], past)
  | segment :: rest, past =>
    let copy := console.lib (.strdup segment) past
    let (more, past) := strdups rest (.lib (.strdup segment) copy :: past)
    ((if copy ≠ 0 then some segment else none) :: more, past)

/-- The `malloc` of `str_split` and the events after it. -/
def splitMalloc (path : Bytes) (past : List Event) : Int × List Event :=
  let call := LibCall.malloc (4 * splitCount colon path)
  (console.lib call past, .lib call (console.lib call past) :: past)

/-- What `str_split` returns when it returns. -/
def splitItems (path : Bytes) (past : List Event) : Option (List (Option Bytes)) × List Event :=
  let (array, past) := console.splitMalloc path past
  if array ≠ 0 then
    let (items, past) := console.strdups (segments path) past
    (some items, past)
  else (none, past)

/-- Each segment is copied, or `strdup` returned `NULL` for it. -/
theorem strdups_copies (ts : List Bytes) (past : List Event) :
    ∃ es, (console.strdups ts past).2 = es ++ past ∧
      List.Forall₂ (fun segment item => item = some segment ∨
        item = none ∧ .lib (.strdup segment) 0 ∈ es) ts (console.strdups ts past).1 := by
  induction ts generalizing past with
  | nil => exact ⟨[], rfl, .nil⟩
  | cons segment rest ih =>
    obtain ⟨es, hes, hcopies⟩ := ih
      (.lib (.strdup segment) (console.lib (.strdup segment) past) :: past)
    refine ⟨es ++ [.lib (.strdup segment) (console.lib (.strdup segment) past)], ?_, .cons ?_ ?_⟩
    · rw [List.append_assoc]
      exact hes
    · by_cases hcopy : console.lib (.strdup segment) past = 0
      · rw [if_neg (not_not.mpr hcopy), hcopy]
        exact Or.inr ⟨rfl, by simp⟩
      · exact Or.inl (if_pos hcopy)
    · exact hcopies.imp fun _ _ h =>
        h.imp_right fun ⟨hnone, hmem⟩ => ⟨hnone, List.mem_append_left _ hmem⟩

end Console

section

variable {console : Console} {s s' : Machine} {path : Bytes}

theorem assertThat_run (condition : Bool) :
    (assertThat condition).run console.step s = if condition then some ((), s) else none := by
  cases condition <;> rfl

theorem storeTokens_run {count : Nat} {ts : List Bytes} {idx : Nat}
    {items : List (Option Bytes)}
    (h : (storeTokens count idx ts).run console.step s = some (items, s')) :
    idx + ts.length = count - 1 ∧ items = (console.strdups ts s.trace).1 ∧
      s' = { s with trace := (console.strdups ts s.trace).2 } := by
  induction ts generalizing idx s s' items with
  | nil =>
    rw [storeTokens, Program.run_bind, assertThat_run] at h
    split at h
    · rename_i hidx
      cases h
      exact ⟨beq_iff_eq.mp hidx, rfl, rfl⟩
    · cases h
  | cons segment rest ih =>
    rw [storeTokens, Program.run_bind, assertThat_run] at h
    split at h
    · rw [Option.bind_some, Program.run_bind, lib_run, Option.bind_some, Program.run_bind] at h
      obtain ⟨⟨more, t⟩, hmore, h⟩ := Option.bind_eq_some_iff.mp h
      obtain ⟨hcount, rfl, rfl⟩ := ih hmore
      cases h
      exact ⟨by rw [List.length_cons]; omega, rfl, rfl⟩
    · cases h

theorem strSplit_run {split : Option (List (Option Bytes))}
    (h : (strSplit path colon).run console.step s = some (split, s')) :
    split = (console.splitItems path s.trace).1 ∧
      s' = { s with trace := (console.splitItems path s.trace).2 } ∧
      (split ≠ none → splitsEvenly path) := by
  rw [strSplit, Program.run_bind, lib_run, Option.bind_some] at h
  have hmalloc : (s.lib console (.malloc (4 * splitCount colon path))).1 =
      (console.splitMalloc path s.trace).1 := rfl
  unfold Console.splitItems
  by_cases harray : (console.splitMalloc path s.trace).1 = 0
  · -- `NULL`, and the assertions are not reached
    rw [hmalloc, if_neg (not_not.mpr harray)] at h
    cases h
    dsimp only
    rw [if_neg (not_not.mpr harray)]
    exact ⟨rfl, rfl, fun h => absurd rfl h⟩
  · rw [hmalloc, if_pos harray, Program.run_bind] at h
    obtain ⟨⟨items, t⟩, hitems, h⟩ := Option.bind_eq_some_iff.mp h
    obtain ⟨hcount, rfl, rfl⟩ := storeTokens_run hitems
    cases h
    dsimp only
    rw [if_pos harray]
    refine ⟨rfl, rfl, fun _ => ?_⟩
    have htwo := two_le_splitCount colon path
    unfold splitsEvenly
    omega

theorem getMountInfo_run {info : Option MountInfo}
    (h : (getMountInfo path).run console.step s = some (info, s')) :
    info = (console.splitItems path s.trace).1.bind mountInfo ∧
      s' = { s with trace := (console.splitItems path s.trace).2 } ∧
      ((console.splitItems path s.trace).1 ≠ none → splitsEvenly path) := by
  rw [getMountInfo, Program.run_bind] at h
  obtain ⟨⟨split, t⟩, hsplit, h⟩ := Option.bind_eq_some_iff.mp h
  obtain ⟨rfl, rfl, heven⟩ := strSplit_run hsplit
  cases h
  exact ⟨rfl, rfl, heven⟩

/-- The strings come from the first four segments, the last of them without the fourth if its copy
failed. -/
theorem mountInfo_some {ts : List Bytes} {items : List (Option Bytes)} {failed : Bytes → Prop}
    {info : MountInfo} (h : mountInfo items = some info)
    (hcopies : List.Forall₂ (fun segment item => item = some segment ∨ item = none ∧ failed segment)
      ts items) :
    ∃ first second third rest, ts = first :: second :: third :: rest ∧
      info.mountPoint = first ++ [colon] ++ second ∧ info.mountString = third ++ [colon] ∧
      (info.newCwd = third ++ [colon] ++ rest.head?.getD [] ∨
        ∃ fourth, rest.head? = some fourth ∧ failed fourth ∧ info.newCwd = third ++ [colon]) := by
  -- one segment after the other: without one of the first three there are no strings
  obtain _ | ⟨rfl | ⟨rfl, -⟩, hcopies⟩ := hcopies
  · cases h
  · obtain _ | ⟨rfl | ⟨rfl, -⟩, hcopies⟩ := hcopies
    · cases h
    · obtain _ | ⟨rfl | ⟨rfl, -⟩, hcopies⟩ := hcopies
      · cases h
      · obtain _ | ⟨rfl | ⟨rfl, hfailed⟩, hcopies⟩ := hcopies
        · cases h
          exact ⟨_, _, _, _, rfl, rfl, rfl, Or.inl rfl⟩
        · cases h
          exact ⟨_, _, _, _, rfl, rfl, rfl, Or.inl rfl⟩
        · cases h
          exact ⟨_, _, _, _, rfl, rfl, rfl, Or.inr ⟨_, rfl, hfailed, List.append_nil _⟩⟩
      · cases h
    · cases h
  · cases h

/-- Where `getMountInfo` returns true, with the copies that failed in its calls. -/
theorem getMountInfo_some {info : MountInfo}
    (h : (getMountInfo path).run console.step s = some (some info, s')) :
    ∃ es, s'.trace = es ++ s.trace ∧ ∃ first second third rest,
      segments path = first :: second :: third :: rest ∧ Joins colon (segments path) path ∧
      info.mountPoint = first ++ [colon] ++ second ∧ info.mountString = third ++ [colon] ∧
      (info.newCwd = third ++ [colon] ++ rest.head?.getD [] ∨
        ∃ fourth, rest.head? = some fourth ∧ .lib (.strdup fourth) 0 ∈ es ∧
          info.newCwd = third ++ [colon]) := by
  obtain ⟨hinfo, rfl, heven⟩ := getMountInfo_run h
  unfold Console.splitItems at hinfo heven ⊢
  by_cases harray : (console.splitMalloc path s.trace).1 = 0
  · dsimp only at hinfo
    rw [if_neg (not_not.mpr harray)] at hinfo
    cases hinfo
  · dsimp only at hinfo heven ⊢
    rw [if_pos harray] at hinfo heven ⊢
    obtain ⟨es, htrace, hcopies⟩ := console.strdups_copies (segments path)
      (console.splitMalloc path s.trace).2
    obtain ⟨first, second, third, rest, hsegments, hpoint, hstring, hcwd⟩ :=
      mountInfo_some hinfo.symm hcopies
    obtain ⟨malloc, hmalloc⟩ : ∃ malloc, (console.splitMalloc path s.trace).2 =
      [malloc] ++ s.trace := ⟨_, rfl⟩
    refine ⟨es ++ [malloc], ?_, first, second, third, rest, hsegments,
      (heven nofun).joins, hpoint, hstring, ?_⟩
    · rw [List.append_assoc, ← hmalloc]
      exact htrace
    · exact hcwd.imp_right fun ⟨fourth, hhead, hfailed, hnew⟩ =>
        ⟨fourth, hhead, List.mem_append_left _ hfailed, hnew⟩

end

/-! ## 3. What the split keeps -/

/-- The path with the `:` that `getMountInfo` puts behind a third segment at the end. -/
def closedPath (path : Bytes) : Bytes :=
  if (segments path).length = 3 ∧ path.getLast? ≠ some colon then path ++ [colon] else path

/-- The strings are a split of the text at its second and its third `:`. -/
structure SplitInto (text : Bytes) (info : MountInfo) : Prop where
  text : info.mountPoint ++ [colon] ++ info.newCwd = text
  string : info.mountString = info.newCwd.takeWhile (· != colon) ++ [colon]
  stringPrefix : info.mountString <+: info.newCwd
  point : info.mountPoint.count colon = 1

section

variable {console : Console} {s s' : Machine} {path : Bytes} {info : MountInfo}

theorem firstFields_joined {delim : UInt8} {segment : Bytes} (h : delim ∉ segment)
    (more : List Bytes) {tail : Bytes} (htail : tail = [] ∨ tail = [delim]) :
    firstFields delim 1 ([delim].intercalate (segment :: more) ++ tail) = segment := by
  cases more with
  | nil =>
    rw [List.intercalate_singleton]
    rcases htail with rfl | rfl
    · rw [List.append_nil, firstFields_token h]
    · rw [firstFields_append h, if_pos rfl, List.append_nil]
  | cons next more =>
    rw [List.intercalate_cons_cons, List.append_assoc, List.append_assoc, List.singleton_append,
      firstFields_append h, if_pos rfl, List.append_nil]

/-- The path at its first three delimiters, which the closing one may be among. -/
theorem closedPath_splits {first second third : Bytes} {rest : List Bytes}
    (hsegments : segments path = first :: second :: third :: rest)
    (hjoins : Joins colon (segments path) path) :
    ∃ last, closedPath path = first ++ colon :: (second ++ colon :: (third ++ colon :: last)) ∧
      firstFields colon 1 last = rest.head?.getD [] := by
  have hspec := segments_spec path
  obtain ⟨tail, htail, hpath⟩ := hjoins
  rw [hsegments] at hpath hspec
  simp only [List.intercalate_cons_cons, List.append_assoc, List.singleton_append] at hpath
  unfold closedPath
  rw [hsegments]
  cases rest with
  | nil =>
    -- the third segment is the last, and the `:` behind it is the path's own or the one put there
    refine ⟨[], ?_, rfl⟩
    rw [List.intercalate_singleton] at hpath
    rcases htail with rfl | rfl
    · have hlast : path.getLast? ≠ some colon := by
        obtain ⟨hne, hthird⟩ := hspec third (by simp)
        have hend : path = (first ++ colon :: second ++ [colon]) ++ third := by
          rw [hpath]
          simp
        rw [hend, List.getLast?_append_of_ne_nil _ hne]
        exact fun h => hthird (List.mem_of_getLast? h)
      rw [if_pos ⟨rfl, hlast⟩, hpath]
      simp
    · have hend : path = (first ++ colon :: (second ++ colon :: third)) ++ [colon] := by
        rw [hpath]
        simp
      have hlast : path.getLast? = some colon := by
        rw [hend, List.getLast?_append_of_ne_nil _ (List.cons_ne_nil colon [])]
        rfl
      rw [if_neg fun h => h.2 hlast, hend]
      simp
  | cons fourth more =>
    refine ⟨[colon].intercalate (fourth :: more) ++ tail, ?_,
      firstFields_joined (hspec fourth (by simp)).2 more htail⟩
    rw [if_neg fun h => absurd h.1 (by simp), hpath]
    simp [List.intercalate_cons_cons]

theorem splitInto_of_eq {text first second third last : Bytes}
    (hspec : ∀ segment ∈ [first, second, third], colon ∉ segment)
    (hpoint : info.mountPoint = first ++ [colon] ++ second)
    (hstring : info.mountString = third ++ [colon])
    (hcwd : info.newCwd = third ++ [colon] ++ last)
    (htext : text = first ++ colon :: (second ++ colon :: (third ++ colon :: last))) :
    SplitInto text info := by
  have hcount (segment : Bytes) (hmem : segment ∈ [first, second, third]) :
      segment.count colon = 0 := List.count_eq_zero.mpr (hspec segment hmem)
  refine ⟨?_, ?_, ?_, ?_⟩
  · rw [hpoint, hcwd, htext]
    simp
  · have hthird : ∀ c ∈ third, (c != colon) = true := fun c hc =>
      bne_iff_ne.mpr fun h => hspec third (by simp) (h ▸ hc)
    rw [hstring, hcwd, List.append_assoc, List.takeWhile_append_of_pos hthird,
      List.singleton_append, List.takeWhile_cons_of_neg (by simp), List.append_nil]
  · exact ⟨last, by rw [hstring, hcwd]⟩
  · rw [hpoint, List.count_append, List.count_append, hcount first (by simp),
      hcount second (by simp)]
    rfl

/-- `getMountInfo` splits the path before its fourth `:`, and drops what follows; the fourth
segment too where it could not be copied. -/
theorem getMountInfo_splits
    (h : (getMountInfo path).run console.step s = some (some info, s')) :
    SplitInto (firstFields colon 4 (closedPath path)) info ∨
      ∃ fourth es, (segments path)[3]? = some fourth ∧ s'.trace = es ++ s.trace ∧
        .lib (.strdup fourth) 0 ∈ es ∧ SplitInto (firstFields colon 3 path ++ [colon]) info := by
  obtain ⟨es, htrace, first, second, third, rest, hsegments, hjoins, hpoint, hstring, hcwd⟩ :=
    getMountInfo_some h
  have hspec (segment : Bytes) (hmem : segment ∈ [first, second, third]) : colon ∉ segment :=
    (segments_spec path segment (hsegments ▸ List.mem_append_left rest hmem)).2
  have hfirst : colon ∉ first := hspec first (by simp)
  have hsecond : colon ∉ second := hspec second (by simp)
  have hthird : colon ∉ third := hspec third (by simp)
  obtain ⟨last, hclosed, hlast⟩ := closedPath_splits hsegments hjoins
  rcases hcwd with hcwd | ⟨fourth, hfourth, hfailed, hcwd⟩
  · -- `getMountInfo` found all the segments it asks for
    left
    refine splitInto_of_eq hspec hpoint hstring hcwd ?_
    rw [hclosed, firstFields_append hfirst, firstFields_append hsecond, firstFields_append hthird,
      hlast]
    rfl
  · -- there is a fourth segment, so the path is closed, but no copy of it
    right
    have hpath : closedPath path = path := by
      refine if_neg fun h => ?_
      obtain ⟨more, rfl⟩ := List.head?_eq_some_iff.mp hfourth
      rw [hsegments] at h
      exact absurd h.1 (by simp)
    have hnone : info.newCwd = third ++ [colon] ++ [] := hcwd.trans (List.append_nil _).symm
    refine ⟨fourth, es, ?_, htrace, hfailed, splitInto_of_eq hspec hpoint hstring hnone ?_⟩
    · rw [hsegments]
      exact (List.head?_eq_getElem? ..).symm.trans hfourth
    · rw [← hpath, hclosed, firstFields_append hfirst, firstFields_append hsecond,
        firstFields_append hthird]
      simp

end

/-- On the console where everything can be mounted, from a working directory. -/
theorem mounting_formats (path : Bytes) (info : MountInfo)
    (h : ((getMountInfo path).run Console.mounting.step (Machine.initial path World.initial)).map
      Prod.fst = some (some info)) :
    ∃ s', (getMountInfo path).run Console.mounting.step (Machine.initial path World.initial) =
      some (some info, s') := by
  obtain ⟨⟨info', s'⟩, hrun, rfl⟩ := Option.map_eq_some_iff.mp h
  exact ⟨s', hrun⟩

theorem getMountInfo_splits_app :
    ∃ s' info, (getMountInfo hddAppPath).run Console.mounting.step
        (Machine.initial hddAppPath World.initial) = some (some info, s') ∧
      (SplitInto (firstFields colon 4 (closedPath hddAppPath)) info ∨
        ∃ fourth es, (segments hddAppPath)[3]? = some fourth ∧ s'.trace = es ++ [] ∧
          .lib (.strdup fourth) 0 ∈ es ∧
          SplitInto (firstFields colon 3 hddAppPath ++ [colon]) info) := by
  obtain ⟨s', hrun⟩ := mounting_formats hddAppPath
    ⟨lit "pfs:", lit "hdd0:__common", lit "pfs:/APP"⟩ (by decide +kernel)
  exact ⟨s', _, hrun, getMountInfo_splits hrun⟩

/-- Of `/a:b` only `/a` is kept. -/
theorem getMountInfo_drops_segment :
    ¬ ∀ (console : Console) (path : Bytes) (s s' : Machine) (info : MountInfo),
        (getMountInfo path).run console.step s = some (some info, s') →
        SplitInto (closedPath path) info := by
  intro h
  obtain ⟨s', hrun⟩ := mounting_formats (lit "hdd0:__common:pfs:/a:b")
    ⟨lit "pfs:", lit "hdd0:__common", lit "pfs:/a"⟩ (by decide +kernel)
  exact absurd (h _ _ _ _ _ hrun).text (by decide)

/-! ## 4. Whether the strings fit -/

/-- `char mountPoint[50]` -/
def mountPointSize : Nat := 50

/-- `char __mountString[10]` -/
def mountStringSize : Nat := 10

structure MountInfo.Fits (filenameMax : Nat) (info : MountInfo) : Prop where
  mountPoint : info.mountPoint.length < mountPointSize
  mountString : info.mountString.length < mountStringSize
  newCwd : info.newCwd.length < filenameMax

/-- `mount_current_hdd_partition` called in `s` reaches the formatting of `getMountInfo`. -/
structure FormatsMount (console : Console) (s : Machine) (info : MountInfo) : Prop where
  ready : s.status .hdd = HddInitStatus.irxOk
  hdd : hddPath s.cwd = true
  run : ∃ s', (getMountInfo s.cwd).run console.step s = some (some info, s')

/-- The text between the second and the third `:`. -/
def thirdSegment (path : Bytes) : Bytes := (segments path)[2]?.getD []

section

variable {console : Console} {s : Machine} {path : Bytes} {info : MountInfo}

theorem firstFields_length (delim : UInt8) (n : Nat) (s : Bytes) :
    (firstFields delim n s).length ≤ s.length := by
  induction s generalizing n with
  | nil => cases n <;> exact Nat.le_refl 0
  | cons c cs ih =>
    cases n with
    | zero => exact Nat.zero_le _
    | succ n =>
      rw [firstFields]
      split
      · split
        · exact Nat.zero_le _
        · exact Nat.succ_le_succ (ih n)
      · exact Nat.succ_le_succ (ih (n + 1))

theorem closedPath_length (path : Bytes) : (closedPath path).length ≤ path.length + 1 := by
  unfold closedPath
  split
  · rw [List.length_append]
    rfl
  · exact Nat.le_succ _

/-- The new working directory always fits; the mount point fits when the first two segments are
short enough, the mount string when the third is. -/
theorem getMountInfo_fits_iff {filenameMax : Nat} (hlength : s.cwd.length < filenameMax)
    (hformats : FormatsMount console s info) :
    info.Fits filenameMax ↔ (firstFields colon 2 s.cwd).length < mountPointSize ∧
      (thirdSegment s.cwd).length + 1 < mountStringSize := by
  obtain ⟨s', hrun⟩ := hformats.run
  obtain ⟨es, -, first, second, third, rest, hsegments, hjoins, hpoint, hstring, hcwd⟩ :=
    getMountInfo_some hrun
  have hspec (segment : Bytes) (hmem : segment ∈ [first, second, third]) :
      segment ≠ [] ∧ colon ∉ segment :=
    segments_spec s.cwd segment (hsegments ▸ List.mem_append_left rest hmem)
  have hthird : thirdSegment s.cwd = third := by
    unfold thirdSegment
    rw [hsegments]
    rfl
  have hpointLength : info.mountPoint = firstFields colon 2 s.cwd := by
    obtain ⟨tail, -, hpath⟩ := hjoins
    rw [hsegments, List.intercalate_cons_cons, List.intercalate_cons_cons] at hpath
    simp only [List.append_assoc, List.cons_append, List.nil_append] at hpath
    rw [hpath, firstFields_append (hspec first (by simp)).2,
      firstFields_append (hspec second (by simp)).2, hpoint]
    simp
  have hnew : info.newCwd.length ≤ s.cwd.length := by
    -- the first segment is left out, which makes room for the `:` that may be put behind the third
    obtain ⟨last, hclosed, hlast⟩ := closedPath_splits hsegments hjoins
    have hfirst : 0 < first.length := List.length_pos_iff.mpr (hspec first (by simp)).1
    have hhead : (rest.head?.getD []).length ≤ last.length :=
      hlast ▸ firstFields_length colon 1 last
    have htotal := closedPath_length s.cwd
    rw [hclosed] at htotal
    simp only [List.length_append, List.length_cons] at htotal
    rcases hcwd with hcwd | ⟨-, -, -, hcwd⟩
    all_goals
      rw [hcwd]
      simp only [List.length_append, List.length_cons, List.length_nil]
      omega
  constructor
  · intro h
    rw [hthird, ← hpointLength]
    have hmountString := h.mountString
    rw [hstring, List.length_append] at hmountString
    exact ⟨h.mountPoint, hmountString⟩
  · intro ⟨hshort, hshort'⟩
    refine ⟨hpointLength ▸ hshort, ?_, by omega⟩
    rw [hstring, List.length_append, ← hthird]
    exact hshort'

end

def readyAt (cwd : Bytes) : Machine :=
  { Machine.initial cwd World.initial with status := fun _ => HddInitStatus.irxOk }

theorem mounting_readyAt {cwd : Bytes} {info : MountInfo} (hhdd : hddPath cwd = true)
    (h : ((getMountInfo cwd).run Console.mounting.step (readyAt cwd)).map Prod.fst =
      some (some info)) : FormatsMount Console.mounting (readyAt cwd) info := by
  obtain ⟨⟨info', s'⟩, hrun, rfl⟩ := Option.map_eq_some_iff.mp h
  exact ⟨rfl, hhdd, s', hrun⟩

theorem getMountInfo_fits_iff_app :
    ∃ info, FormatsMount Console.mounting (readyAt hddAppPath) info ∧ info.Fits 1024 := by
  have hformats : FormatsMount Console.mounting (readyAt hddAppPath)
      ⟨lit "pfs:", lit "hdd0:__common", lit "pfs:/APP"⟩ := mounting_readyAt rfl (by decide +kernel)
  exact ⟨_, hformats, (getMountInfo_fits_iff (by decide) hformats).mpr (by decide +kernel)⟩

def longPartition : Bytes := lit "hdd0:" ++ List.replicate 60 97 ++ lit ":pfs:/APP"

/-- The mount point of a long partition name is longer than its buffer. -/
theorem getMountInfo_overflows :
    ¬ ∀ (filenameMax : Nat) (console : Console) (s : Machine) (info : MountInfo),
        s.cwd.length < filenameMax → FormatsMount console s info → info.Fits filenameMax := by
  intro h
  have hformats : FormatsMount Console.mounting (readyAt longPartition)
      ⟨lit "pfs:", lit "hdd0:" ++ List.replicate 60 97, lit "pfs:/APP"⟩ :=
    mounting_readyAt (by decide) (by decide +kernel)
  exact absurd (h 1024 _ _ _ (by decide) hformats).mountPoint (by decide)

/-! ## 5. What a failed mount changes -/

/-- `malloc` and the first three `strdup` succeed, for a path of three segments or more. -/
def Console.findsSegments (console : Console) (path : Bytes) (past : List Event) : Prop :=
  (console.splitMalloc path past).1 ≠ 0 ∧
    3 ≤ ((console.strdups (segments path) (console.splitMalloc path past).2).1.takeWhile
      Option.isSome).length

/-- What a call leaves of the mount: the globals and the working directory, and the partition that
`umount_current_hdd_partition` addresses. -/
structure KeepsMount (console : Console) (s s' : Machine) : Prop where
  mountStatus : s'.mountStatus = s.mountStatus
  mountString : s'.mountString = s.mountString
  cwd : s'.cwd = s.cwd
  umounts : s.mountStatus = HddMountStatus.ok →
    Program.Reaches console.step (.lib (.fileXioUmount s.mountString)) s' umountCurrentHddPartition
      s'

section

variable {console : Console} {s s' : Machine}

theorem mountInfo_isSome (items : List (Option Bytes)) :
    (mountInfo items).isSome = true ↔ 3 ≤ (items.takeWhile Option.isSome).length := by
  unfold mountInfo
  generalize items.takeWhile Option.isSome = found
  rcases found with _ | ⟨_, _ | ⟨_, _ | ⟨_, _⟩⟩⟩ <;> simp

theorem splitItems_isSome (path : Bytes) (past : List Event) :
    ((console.splitItems path past).1.bind mountInfo).isSome = true ↔
      console.findsSegments path past := by
  unfold Console.splitItems Console.findsSegments
  by_cases harray : (console.splitMalloc path past).1 = 0
  · dsimp only
    rw [if_neg (not_not.mpr harray)]
    exact iff_of_false nofun fun h => h.1 harray
  · dsimp only
    rw [if_pos harray, Option.bind_some, mountInfo_isSome]
    exact (and_iff_right harray).symm

theorem umountCurrentHddPartition_reaches (hok : s.mountStatus = HddMountStatus.ok) :
    Program.Reaches console.step (.lib (.fileXioUmount s.mountString)) s umountCurrentHddPartition
      s := by
  have hstring : getMountString.run console.step s = some (s.mountString, s) := rfl
  refine .bind_right hstring ?_
  refine .bind_right (getMountStatus_run console s) ?_
  rw [if_pos hok]
  exact .bind_left (.here _)

theorem KeepsMount.of_same (hstatus : s'.mountStatus = s.mountStatus)
    (hstring : s'.mountString = s.mountString) (hcwd : s'.cwd = s.cwd) :
    KeepsMount console s s' where
  mountStatus := hstatus
  mountString := hstring
  cwd := hcwd
  umounts hok := by
    rw [← hstring]
    exact umountCurrentHddPartition_reaches (hstatus.trans hok)

theorem getMountInfo_thirdSegment {path : Bytes} {info : MountInfo}
    (h : (getMountInfo path).run console.step s = some (some info, s')) :
    info.mountString = thirdSegment path ++ [colon] := by
  obtain ⟨-, -, first, second, third, rest, hsegments, -, -, hstring, -⟩ := getMountInfo_some h
  unfold thirdSegment
  rw [hsegments]
  exact hstring

/-- Only the mount string may have changed, and it has once the path was split. -/
theorem mountPartitionOf_failed {path : Bytes} {status : Int}
    (hrun : (mountPartitionOf path).run console.step s = some (status, s'))
    (hfailed : status ≠ HddMountStatus.ok) :
    s'.mountStatus = s.mountStatus ∧ s'.cwd = s.cwd ∧
      (console.findsSegments path s.trace → s'.mountString = thirdSegment path ++ [colon]) ∧
      (¬ console.findsSegments path s.trace → s'.mountString = s.mountString) := by
  rw [mountPartitionOf, Program.run_bind] at hrun
  obtain ⟨⟨info, t⟩, hinfo, hrun⟩ := Option.bind_eq_some_iff.mp hrun
  obtain ⟨heq, ht, -⟩ := getMountInfo_run hinfo
  have hfinds : info.isSome = true ↔ console.findsSegments path s.trace := by
    rw [heq, splitItems_isSome]
  cases info with
  | none =>
    -- the function returns before it assigns the mount string
    cases hrun
    rw [ht]
    exact ⟨rfl, rfl, fun h => absurd (hfinds.mpr h) (by decide), fun _ => rfl⟩
  | some info =>
    have hstring : info.mountString = thirdSegment path ++ [colon] :=
      getMountInfo_thirdSegment hinfo
    dsimp only at hrun
    rw [Program.run_bind, setMountString_run, Option.bind_some, Program.run_bind, lib_run,
      Option.bind_some] at hrun
    split at hrun
    · -- `fileXioMount` failed behind the assignment
      cases hrun
      rw [ht]
      exact ⟨rfl, rfl, fun _ => hstring, fun h => absurd (hfinds.mp rfl) h⟩
    · -- a mount that succeeds is no failure
      cases hrun
      exact absurd rfl hfailed

/-- A mount that fails leaves the mount as it was exactly when `fileXioMount` was not reached, or
the third segment of the working directory names what was mounted before. -/
theorem mountCurrentHddPartition_keeps_iff {status : Int}
    (hrun : mountCurrentHddPartition.run console.step s = some (status, s'))
    (hfailed : status ≠ HddMountStatus.ok) :
    KeepsMount console s s' ↔
      (s.status .hdd = HddInitStatus.irxOk → hddPath s.cwd = true →
        console.findsSegments s.cwd s.trace → thirdSegment s.cwd ++ [colon] = s.mountString) := by
  rw [mountCurrentHddPartition, Program.run_bind, getStatus_run, Option.bind_some] at hrun
  dsimp only at hrun
  by_cases hready : s.status .hdd = HddInitStatus.irxOk
  · rw [if_neg (not_not.mpr hready), Program.run_bind, cwdIsHdd_run, Option.bind_some] at hrun
    dsimp only at hrun
    by_cases hhdd : hddPath s.cwd = true
    · rw [if_pos hhdd, Program.run_bind, getcwd_run, Option.bind_some] at hrun
      obtain ⟨hstatus, hcwd, hchanged, hsame⟩ := mountPartitionOf_failed hrun hfailed
      by_cases hfinds : console.findsSegments s.cwd s.trace
      · constructor
        · exact fun h _ _ _ => (hchanged hfinds).symm.trans h.mountString
        · exact fun h => .of_same hstatus ((hchanged hfinds).trans (h hready hhdd hfinds)) hcwd
      · exact iff_of_true (.of_same hstatus (hsame hfinds) hcwd) fun _ _ h => absurd h hfinds
    · rw [if_neg hhdd] at hrun
      cases hrun
      exact iff_of_true (.of_same rfl rfl rfl) fun _ h => absurd h hhdd
  · rw [if_pos hready] at hrun
    cases hrun
    exact iff_of_true (.of_same rfl rfl rfl) fun h => absurd h hready

end

/-- A console that mounts everything but `pfs1:`. -/
def Console.withoutPfs1 : Console :=
  { Console.mounting with
    lib := fun call past =>
      match call with
      | .fileXioMount mountpoint _ => if mountpoint = lit "pfs1:" then -1 else 0
      | _ => Console.mounting.lib call past }

/-- The current partition is mounted, and the program moves on to another one. -/
def mountThenMove : DriverM Int := do
  let _ ← initHddDriver true false
  let status ← mountCurrentHddPartition
  let _ ← lib (.chdir (lit "hdd0:__saves:pfs1:/"))
  pure status

structure FailsSecond (s s' : Machine) : Prop where
  first : mountThenMove.run Console.withoutPfs1.step (Machine.initial hddAppPath World.initial) =
    some (HddMountStatus.ok, s)
  second : mountCurrentHddPartition.run Console.withoutPfs1.step s =
    some (HddMountStatus.error, s')
  before : s.mountString = lit "pfs:"
  after : s'.mountString = lit "pfs1:"

theorem failsSecond : ∃ s s', FailsSecond s s' := by
  have hrun : (mountThenMove.run Console.withoutPfs1.step
      (Machine.initial hddAppPath World.initial)).bind (fun r =>
        (mountCurrentHddPartition.run Console.withoutPfs1.step r.2).map fun r' =>
          decide (r.1 = HddMountStatus.ok ∧ r.2.mountString = lit "pfs:" ∧
            r'.1 = HddMountStatus.error ∧ r'.2.mountString = lit "pfs1:")) = some true := by
    decide +kernel
  obtain ⟨⟨first, s⟩, hfirst, hrun⟩ := Option.bind_eq_some_iff.mp hrun
  obtain ⟨⟨second, s'⟩, hsecond, hrun⟩ := Option.map_eq_some_iff.mp hrun
  obtain ⟨rfl, hbefore, rfl, hafter⟩ := of_decide_eq_true hrun
  exact ⟨s, s', hfirst, hsecond, hbefore, hafter⟩

theorem mountCurrentHddPartition_keeps_iff_second :
    ∃ s s', FailsSecond s s' ∧ (KeepsMount Console.withoutPfs1 s s' ↔
      (s.status .hdd = HddInitStatus.irxOk → hddPath s.cwd = true →
        Console.withoutPfs1.findsSegments s.cwd s.trace →
        thirdSegment s.cwd ++ [colon] = s.mountString)) := by
  obtain ⟨s, s', h⟩ := failsSecond
  exact ⟨s, s', h, mountCurrentHddPartition_keeps_iff h.second (by decide)⟩

/-- After the second mount failed, `pfs1:` would be unmounted and not `pfs:`. -/
theorem mountCurrentHddPartition_forgets :
    ¬ ∀ (console : Console) (cwd : Bytes) (w : World) (α : Type) (p : DriverM α) (a : α)
        (s s' : Machine) (status : Int), p.run console.step (Machine.initial cwd w) = some (a, s) →
      mountCurrentHddPartition.run console.step s = some (status, s') →
      status ≠ HddMountStatus.ok → KeepsMount console s s' := by
  intro h
  obtain ⟨s, s', hs⟩ := failsSecond
  have hkeeps := h _ _ _ _ _ _ s s' _ hs.first hs.second (by decide)
  exact absurd (hs.after.symm.trans (hkeeps.mountString.trans hs.before)) (by decide)

/-! ## 6. When the assertions hold -/

/-- `str_split` returns: no assertion failed on the way, and the array is the list of segments
with the terminating `NULL` in its last slot. -/
structure SplitsInto (console : Console) (path : Bytes) (s : Machine) (ts : List Bytes) : Prop where
  returns : ∃ s', (strSplit path colon).run console.step s = some (some (ts.map some), s')
  joins : Joins colon ts path
  segments : ∀ t ∈ ts, t ≠ [] ∧ colon ∉ t
  slots : ts.length + 1 = splitCount colon path

section

variable {console : Console} {path : Bytes}

theorem hddPath_front (hhdd : hddPath path = true) :
    path ≠ [] ∧ path.head? ≠ some colon := by
  have hfront (rest : Bytes) (c : UInt8) (hc : c ≠ colon) :
      c :: rest ≠ [] ∧ (c :: rest).head? ≠ some colon :=
    ⟨List.cons_ne_nil c rest, fun h => hc (Option.some.inj h)⟩
  rcases Bool.or_eq_true_iff.mp hhdd with h | h
  all_goals
    obtain ⟨rest, rfl⟩ := List.isPrefixOf_iff_prefix.mp h
    exact hfront _ _ (by decide)

theorem Console.Allocates.strdups (h : console.Allocates) (ts : List Bytes) (past : List Event) :
    (console.strdups ts past).1 = ts.map some := by
  induction ts generalizing past with
  | nil => rfl
  | cons segment rest ih =>
    have hcopy : console.lib (.strdup segment) past ≠ 0 := h.strdup segment past
    rw [Console.strdups]
    dsimp only
    rw [if_pos hcopy, ih, List.map_cons]

/-- The assertions of `str_split` hold exactly on the paths without an empty segment inside. -/
theorem strSplit_holds_iff (halloc : console.Allocates) (hhdd : hddPath path = true) (s : Machine) :
    (∃ ts, SplitsInto console path s ts) ↔ ¬ Doubled colon path := by
  obtain ⟨hne, hhead⟩ := hddPath_front hhdd
  have heven : splitsEvenly path ↔ ¬ Doubled colon path :=
    tokens_even_iff path.length path le_rfl hne hhead
  rw [← heven]
  constructor
  · rintro ⟨ts, ⟨s', hrun⟩, -, -, -⟩
    exact (strSplit_run hrun).2.2 nofun
  · intro h
    obtain ⟨⟨split, s'⟩, hrun⟩ := run_comesBack (strSplit_returns h) s
    obtain ⟨hsplit, -, -⟩ := strSplit_run hrun
    have harray : (console.splitMalloc path s.trace).1 ≠ 0 := halloc.malloc _ _
    have hitems : split = some ((segments path).map some) := by
      rw [hsplit, Console.splitItems]
      dsimp only
      rw [if_pos harray, halloc.strdups]
    exact ⟨segments path, ⟨s', hitems ▸ hrun⟩, h.joins, segments_spec path, h⟩

end

theorem strSplit_holds_iff_app :
    ∃ ts, SplitsInto Console.mounting hddAppPath hddProgram ts :=
  (strSplit_holds_iff Console.mounting_allocates (by decide) hddProgram).mpr (by decide +kernel)

/-- Two delimiters are counted behind `hdd0` and one token is found: the second assertion fails. -/
theorem strSplit_aborts :
    ¬ ∀ (console : Console) (path : Bytes) (s : Machine), console.Allocates → hddPath path = true →
        ∃ ts, SplitsInto console path s ts := by
  intro h
  obtain ⟨ts, ⟨s', hrun⟩, -⟩ :=
    h Console.mounting (lit "hdd0::") hddProgram Console.mounting_allocates (by decide)
  have habort : (strSplit (lit "hdd0::") colon).run Console.mounting.step hddProgram = none := by
    decide +kernel
  rw [habort] at hrun
  cases hrun

end Ps2Drivers
