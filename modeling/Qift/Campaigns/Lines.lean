import Qift.Campaigns.Roster

/-!
# The lines of a roster file

* `scanRecords` — the records of a text, blank ones too, each with the text before it; `CsvRecord.line` is the line of
  the file on which it starts.
* `scanCsv_scanRecords` — `scanCsv` keeps those that are not blank; `lineBreaks_before` — a record starts as many lines
  further down as records and line ends in quotes precede it.
* `RosterProgress.Tallied` — every row of a table is taken or skipped, once.
* **`parseRoster_lossless`** — no record is lost or duplicated, and the line reported with one is its own exactly when
  neither a blank record nor a line end in quotes precedes it.
* `parseRoster_misnumbered` — behind a blank line it is not.
-/

namespace Qift.Campaigns

/-! ### Line ends -/

/-- The line ends of a text, CRLF being one; whether a carriage return stands before it. -/
def lineBreaksFrom : Bool → List Char → Nat
  | _, [] => 0
  | cr, c :: cs => (if c = '\r' ∨ (c = '\n' ∧ cr = false) then 1 else 0) + lineBreaksFrom (c = '\r') cs

def lineBreaks (cs : List Char) : Nat := lineBreaksFrom false cs

/-- The text ends with a carriage return. -/
def endsFrom (cr : Bool) (cs : List Char) : Bool := (cs.getLast?.map fun c => decide (c = '\r')).getD cr

theorem endsFrom_cons (cr : Bool) (c : Char) (cs : List Char) : endsFrom cr (c :: cs) = endsFrom (c = '\r') cs := by
  cases cs with
  | nil => rfl
  | cons d ds => rw [endsFrom, List.getLast?_cons_cons, endsFrom, List.getLast?_cons]; rfl

@[simp] theorem endsFrom_snoc (cr : Bool) (cs : List Char) (c : Char) :
    endsFrom cr (cs ++ [c]) = decide (c = '\r') := by
  simp [endsFrom]

theorem lineBreaksFrom_snoc (cr : Bool) (cs : List Char) (c : Char) : lineBreaksFrom cr (cs ++ [c]) =
    lineBreaksFrom cr cs + if c = '\r' ∨ (c = '\n' ∧ endsFrom cr cs = false) then 1 else 0 := by
  induction cs generalizing cr with
  | nil => exact Nat.add_comm _ _
  | cons d ds ih => rw [List.cons_append, lineBreaksFrom, lineBreaksFrom, ih, endsFrom_cons, Nat.add_assoc]

theorem lineBreaks_snoc (cs : List Char) (c : Char) : lineBreaks (cs ++ [c]) =
    lineBreaks cs + if c = '\r' ∨ (c = '\n' ∧ endsFrom false cs = false) then 1 else 0 := lineBreaksFrom_snoc false cs c

theorem lineBreaks_snoc_of_ne (cs : List Char) {c : Char} (hreturn : c ≠ '\r') (hnewline : c ≠ '\n') :
    lineBreaks (cs ++ [c]) = lineBreaks cs := by
  rw [lineBreaks_snoc, if_neg (by simp [hreturn, hnewline]), Nat.add_zero]

/-- A character is a line end, or a part of one. -/
def isBreak (c : Char) : Bool := c = '\r' || c = '\n'

theorem lineBreaks_eq_zero {cs : List Char} : lineBreaks cs = 0 ↔ cs.any isBreak = false := by
  induction cs using List.reverseRecOn with
  | nil => simp [lineBreaks, lineBreaksFrom]
  | append_singleton cs c ih =>
      rw [lineBreaks_snoc, List.any_append, List.any_cons, List.any_nil, Bool.or_false, Bool.or_eq_false_iff, ← ih,
        Nat.add_eq_zero_iff]
      refine and_congr_right fun hzero => ?_
      -- without a line end so far, none is half written
      have hends : endsFrom false cs = false := by
        rw [ih] at hzero
        rw [endsFrom]
        cases hlast : cs.getLast? with
        | none => rfl
        | some d =>
            rw [List.any_eq_false] at hzero
            have hd := hzero d (List.mem_of_getLast? hlast)
            simp only [isBreak, Bool.or_eq_true, decide_eq_true_iff, not_or] at hd
            simp [hd.1]
      rw [hends]
      simp [isBreak]

/-! ### Records -/

/-- A record of a file, with the text before it. -/
structure CsvRecord where
  before : List Char
  row : List String
  deriving DecidableEq

/-- The line on which it starts. -/
def CsvRecord.line (record : CsvRecord) : Nat := lineBreaks record.before + 1

/-- A cell of it is not blank. -/
def CsvRecord.filled (record : CsvRecord) : Bool := record.row.any fun c => trim c ≠ ""

/-- No cell of it has a line end. -/
def CsvRecord.oneLine (record : CsvRecord) : Bool := record.row.all fun c => !c.toList.any isBreak

/-- The line ends in its cells. -/
def rowBreaks (row : List String) : Nat := (row.map fun c => lineBreaks c.toList).sum

/-- The records of a text: whether it stands in quotes, the cell and the row that are open, the text read so far and
that before the open row. -/
def scanRecords : List Char → Bool → List Char → List String → List Char → List Char → List CsvRecord
  | [], _, cell, row, _, before => if cell ≠ [] ∨ row ≠ [] then [⟨before, row ++ [String.ofList cell]⟩] else []
  | '"' :: '"' :: rest, true, cell, row, read, before =>
      scanRecords rest true (cell ++ ['"']) row (read ++ ['"'] ++ ['"']) before
  | '"' :: rest, true, cell, row, read, before => scanRecords rest false cell row (read ++ ['"']) before
  | c :: rest, true, cell, row, read, before => scanRecords rest true (cell ++ [c]) row (read ++ [c]) before
  | '\r' :: '\n' :: rest, false, cell, row, read, before =>
      ⟨before, row ++ [String.ofList cell]⟩ ::
        scanRecords rest false [] [] (read ++ ['\r'] ++ ['\n']) (read ++ ['\r'] ++ ['\n'])
  | c :: rest, false, cell, row, read, before =>
      if c = '"' ∧ cell = [] then scanRecords rest true cell row (read ++ [c]) before
      else if c = ',' then scanRecords rest false [] (row ++ [String.ofList cell]) (read ++ [c]) before
      else if c = '\r' ∨ c = '\n' then
        ⟨before, row ++ [String.ofList cell]⟩ :: scanRecords rest false [] [] (read ++ [c]) (read ++ [c])
      else scanRecords rest false (cell ++ [c]) row (read ++ [c]) before

/-- The records of a file, after its byte order mark. -/
def recordsOf (text : String) : List CsvRecord :=
  match text.toList with
  | '\uFEFF' :: rest => scanRecords rest false [] [] [] []
  | src => scanRecords src false [] [] [] []

/-- A record is kept unless it is blank. -/
theorem pushRow_append (rows : List (List String)) (record : CsvRecord) (more : List CsvRecord) :
    pushRow rows record.row ++ (more.filter CsvRecord.filled).map CsvRecord.row =
      rows ++ ((record :: more).filter CsvRecord.filled).map CsvRecord.row := by
  rw [pushRow]
  by_cases h : record.filled = true
  · rw [List.filter_cons_of_pos h, List.map_cons, if_pos (by exact h), List.append_assoc]
    rfl
  · rw [List.filter_cons_of_neg h, if_neg (by exact h)]

theorem scanCsv_scanRecords (cs : List Char) (quoted : Bool) (cell : List Char) (row : List String)
    (read before : List Char) (rows : List (List String)) :
    scanCsv cs quoted cell row rows =
      rows ++ ((scanRecords cs quoted cell row read before).filter CsvRecord.filled).map CsvRecord.row := by
  fun_induction scanRecords cs quoted cell row read before generalizing rows with
  | case1 quoted cell row read before hopen =>
      rw [scanCsv, if_pos hopen]
      rw [← pushRow_append, List.filter_nil, List.map_nil, List.append_nil]
  | case2 quoted cell row read before hopen =>
      rw [scanCsv, if_neg hopen]
      simp
  | case3 rest cell row read before ih =>
      rw [scanCsv]
      exact ih rows
  | case4 rest cell row read before hsingle ih =>
      rw [scanCsv]
      · exact ih rows
      · exact hsingle
  | case5 c rest cell row read before hdouble hquote ih =>
      rw [scanCsv]
      · exact ih rows
      · exact hdouble
      · exact hquote
  | case6 rest cell row read before ih =>
      rw [scanCsv, ih, ← pushRow_append]
  | case7 c rest cell row read before hcrlf hquote ih =>
      rw [scanCsv, if_pos hquote]
      · exact ih rows
      · exact hcrlf
  | case8 rest cell row read before hcrlf hquote ih =>
      rw [scanCsv, if_neg hquote, if_pos rfl]
      · exact ih rows
      · exact hcrlf
  | case9 c rest cell row read before hcrlf hquote hcomma hbreak ih =>
      rw [scanCsv, if_neg hquote, if_neg hcomma, if_pos hbreak]
      · rw [ih, ← pushRow_append]
      · exact hcrlf
  | case10 c rest cell row read before hcrlf hquote hcomma hbreak ih =>
      rw [scanCsv, if_neg hquote, if_neg hcomma, if_neg hbreak]
      · exact ih rows
      · exact hcrlf

theorem parseCsv_recordsOf (text : String) :
    parseCsv text = ((recordsOf text).filter CsvRecord.filled).map CsvRecord.row := by
  have hscan (cs : List Char) : scanCsv cs false [] [] [] =
      ((scanRecords cs false [] [] [] []).filter CsvRecord.filled).map CsvRecord.row := by
    rw [scanCsv_scanRecords _ _ _ _ [] [], List.nil_append]
  by_cases hmark : ∃ rest, text.toList = '\uFEFF' :: rest
  · obtain ⟨rest, hrest⟩ := hmark
    rw [parseCsv, recordsOf, hrest]
    exact hscan rest
  · -- neither of the two readings takes a mark off
    have hparse : parseCsv text = scanCsv text.toList false [] [] [] := by
      unfold parseCsv
      split
      next rest hrest => exact absurd ⟨rest, hrest⟩ hmark
      next => rfl
    have hrecords : recordsOf text = scanRecords text.toList false [] [] [] [] := by
      unfold recordsOf
      split
      next rest hrest => exact absurd ⟨rest, hrest⟩ hmark
      next => rfl
    rw [hparse, hrecords]
    exact hscan text.toList

/-! ### The line of a record -/

/-- What the scanner has read since the open row began. -/
structure Reading (rest : List Char) (quoted : Bool) (cell : List Char) (row : List String) (read before : List Char) :
    Prop where
  count : lineBreaks read = lineBreaks before + (rowBreaks row + lineBreaks cell)
  inside : quoted = true → endsFrom false read = endsFrom false cell
  outside : quoted = false → endsFrom false read = true → rest.head? ≠ some '
'

/-- The lines that some records take up. -/
def lineCount (records : List CsvRecord) : Nat := (records.map fun b => rowBreaks b.row + 1).sum

theorem rowBreaks_snoc (row : List String) (cell : List Char) :
    rowBreaks (row ++ [String.ofList cell]) = rowBreaks row + lineBreaks cell := by
  simp [rowBreaks]

/-- Behind the first of some records. -/
theorem before_cons {record : CsvRecord} {more pre post : List CsvRecord} {r : CsvRecord} {n m : Nat}
    (h : record :: more = pre ++ r :: post) (hrecord : lineBreaks record.before = n)
    (hm : m = n + (rowBreaks record.row + 1))
    (hmore : ∀ pre post, more = pre ++ r :: post → lineBreaks r.before = m + lineCount pre) :
    lineBreaks r.before = n + lineCount pre := by
  cases pre with
  | nil =>
      obtain ⟨rfl, -⟩ := List.cons.inj h
      exact hrecord
  | cons b pre =>
      obtain ⟨rfl, hrest⟩ := List.cons.inj h
      rw [hmore pre post hrest, hm, lineCount, lineCount, List.map_cons, List.sum_cons, Nat.add_assoc]

/-- **A record starts below those before it.** -/
theorem lineBreaks_before (cs : List Char) (quoted : Bool) (cell : List Char) (row : List String)
    (read before : List Char) (h : Reading cs quoted cell row read before) (pre post : List CsvRecord) (r : CsvRecord)
    (hsplit : scanRecords cs quoted cell row read before = pre ++ r :: post) :
    lineBreaks r.before = lineBreaks before + lineCount pre := by
  fun_induction scanRecords cs quoted cell row read before generalizing pre post with
  | case1 quoted cell row read before hopen =>
      exact before_cons hsplit rfl rfl fun pre post hnil => absurd hnil (by simp)
  | case2 quoted cell row read before hopen => exact absurd hsplit (by simp)
  | case3 rest cell row read before ih =>
      refine ih ⟨?_, ?_, nofun⟩ pre post hsplit
      · rw [lineBreaks_snoc_of_ne _ (by decide) (by decide), lineBreaks_snoc_of_ne _ (by decide) (by decide),
          lineBreaks_snoc_of_ne _ (by decide) (by decide)]
        exact h.count
      · intro _
        rw [endsFrom_snoc, endsFrom_snoc]
  | case4 rest cell row read before hsingle ih =>
      refine ih ⟨?_, nofun, ?_⟩ pre post hsplit
      · rw [lineBreaks_snoc_of_ne _ (by decide) (by decide)]
        exact h.count
      · intro _ hends
        rw [endsFrom_snoc] at hends
        exact absurd hends (by decide)
  | case5 c rest cell row read before hdouble hquote ih =>
      refine ih ⟨?_, ?_, nofun⟩ pre post hsplit
      · rw [lineBreaks_snoc, lineBreaks_snoc, h.inside rfl, h.count]
        omega
      · intro _
        rw [endsFrom_snoc, endsFrom_snoc]
  | case6 rest cell row read before ih =>
      refine before_cons hsplit rfl ?_ fun pre post =>
        ih ⟨by simp [rowBreaks, lineBreaks, lineBreaksFrom], nofun, ?_⟩ pre post
      · rw [lineBreaks_snoc, endsFrom_snoc, lineBreaks_snoc, h.count, rowBreaks_snoc]
        simp
        omega
      · intro _ hends
        rw [endsFrom_snoc] at hends
        exact absurd hends (by decide)
  | case7 c rest cell row read before hcrlf hquote ih =>
      obtain ⟨rfl, rfl⟩ := hquote
      refine ih ⟨?_, ?_, nofun⟩ pre post hsplit
      · rw [lineBreaks_snoc_of_ne _ (by decide) (by decide)]
        exact h.count
      · intro _
        rw [endsFrom_snoc]
        rfl
  | case8 rest cell row read before hcrlf hquote ih =>
      refine ih ⟨?_, nofun, ?_⟩ pre post hsplit
      · rw [lineBreaks_snoc_of_ne _ (by decide) (by decide), h.count, rowBreaks_snoc]
        rfl
      · intro _ hends
        rw [endsFrom_snoc] at hends
        exact absurd hends (by decide)
  | case9 c rest cell row read before hcrlf hquote hcomma hbreak ih =>
      refine before_cons hsplit rfl ?_ fun pre post =>
        ih ⟨by simp [rowBreaks, lineBreaks, lineBreaksFrom], nofun, ?_⟩ pre post
      · -- a line feed here does not follow a carriage return
        have hends : c = '
' → endsFrom false read = false := by
          rintro rfl
          exact Bool.eq_false_iff.mpr fun hends => h.outside rfl hends rfl
        rw [lineBreaks_snoc, if_pos (hbreak.imp_right fun hnewline => ⟨hnewline, hends hnewline⟩), h.count,
          rowBreaks_snoc]
        omega
      · intro _ hends hhead
        rw [endsFrom_snoc, decide_eq_true_iff] at hends
        obtain ⟨more, hmore⟩ := List.head?_eq_some_iff.mp hhead
        exact hcrlf more hends hmore
  | case10 c rest cell row read before hcrlf hquote hcomma hbreak ih =>
      rw [not_or] at hbreak
      refine ih ⟨?_, nofun, ?_⟩ pre post hsplit
      · rw [lineBreaks_snoc_of_ne _ hbreak.1 hbreak.2, lineBreaks_snoc_of_ne _ hbreak.1 hbreak.2]
        exact h.count
      · intro _ hends
        rw [endsFrom_snoc, decide_eq_true_iff] at hends
        exact absurd hends hbreak.1

theorem line_eq {text : String} {pre post : List CsvRecord} {record : CsvRecord}
    (h : recordsOf text = pre ++ record :: post) : record.line = lineCount pre + 1 := by
  have hscan (cs : List Char) (hcs : scanRecords cs false [] [] [] [] = pre ++ record :: post) :
      record.line = lineCount pre + 1 := by
    have hstart : Reading cs false [] [] [] [] := ⟨rfl, nofun, fun _ h => nomatch h⟩
    have hbefore := lineBreaks_before cs false [] [] [] [] hstart pre post record hcs
    rw [CsvRecord.line, hbefore]
    exact congrArg (· + 1) (Nat.zero_add _)
  unfold recordsOf at h
  split at h
  next rest _ => exact hscan rest h
  next => exact hscan _ h

theorem rowBreaks_eq_zero {record : CsvRecord} : rowBreaks record.row = 0 ↔ record.oneLine = true := by
  rw [rowBreaks, List.sum_eq_zero_iff, CsvRecord.oneLine, List.all_eq_true]
  simp [lineBreaks_eq_zero]

/-- Records are on as many lines exactly when none is blank or has a line end in it. -/
theorem countP_eq_lineCount {pre : List CsvRecord} :
    pre.countP CsvRecord.filled = lineCount pre ↔ ∀ b ∈ pre, b.filled = true ∧ b.oneLine = true := by
  induction pre with
  | nil => simp [lineCount]
  | cons b rest ih =>
      have hle : rest.countP CsvRecord.filled ≤ lineCount rest := by
        have hlength : rest.length ≤ lineCount rest := by
          unfold lineCount
          simp [List.sum_map_add]
        exact List.countP_le_length.trans hlength
      rw [List.forall_mem_cons, ← ih, ← rowBreaks_eq_zero, lineCount, List.map_cons, List.sum_cons]
      change _ = rowBreaks b.row + 1 + lineCount rest ↔ _
      by_cases hfilled : b.filled = true
      · rw [List.countP_cons_of_pos hfilled]
        simp only [hfilled, true_and]
        omega
      · rw [List.countP_cons_of_neg hfilled]
        simp only [hfilled, Bool.false_eq_true, false_and, iff_false]
        omega

/-! ### The rows of a table -/

/-- Why a row was skipped: it is not valid, or it shares a channel with a row that was taken. -/
def Refused (mapping : List (Nat × RosterField)) (taken : List RosterRow) (s : SkippedRow) (cells : List String) :
    Prop :=
  readRow mapping s.line cells = .error s.reason ∨
    s.reason = .duplicate_in_file ∧ ∃ r, readRow mapping s.line cells = .ok r ∧
      ∃ r' ∈ taken, ¬Apart r.channels r'.channels

theorem Refused.mono {mapping : List (Nat × RosterField)} {taken taken' : List RosterRow} {s : SkippedRow}
    {cells : List String} (h : Refused mapping taken s cells) (hsub : ∀ r ∈ taken, r ∈ taken') :
    Refused mapping taken' s cells := by
  rcases h with hinvalid | ⟨hreason, r, hread, r', hr', hshare⟩
  · exact Or.inl hinvalid
  · exact Or.inr ⟨hreason, r, hread, r', hsub r' hr', hshare⟩

/-- Every row of a table is taken or skipped, once, under its number. -/
structure RosterProgress.Tallied (mapping : List (Nat × RosterField)) (body : List (List String))
    (acc : RosterProgress) : Prop where
  lines : (acc.rows.map RosterRow.line ++ acc.skipped.map SkippedRow.line).Perm ((List.range body.length).map (· + 2))
  taken : ∀ r ∈ acc.rows, ∃ i cells, body[i]? = some cells ∧ r.line = i + 2 ∧ readRow mapping r.line cells = .ok r
  skipped : ∀ s ∈ acc.skipped, ∃ i cells, body[i]? = some cells ∧ s.line = i + 2 ∧ Refused mapping acc.rows s cells
  seen : ∀ c ∈ acc.seenChannels, ∃ r ∈ acc.rows, c ∈ r.channels

theorem readRow_line {mapping : List (Nat × RosterField)} {line : Nat} {cells : List String} {r : RosterRow}
    (h : readRow mapping line cells = .ok r) : r.line = line := by
  rw [readRow] at h
  split at h
  · cases h
  · cases hemail : canonical .email_invalid rosterEmail (fieldOf mapping cells .email) with
    | error e =>
        rw [hemail] at h
        cases h
    | ok email =>
        cases hphone : canonical .phone_invalid rosterPhone (fieldOf mapping cells .phone) with
        | error e =>
            rw [hemail, hphone] at h
            cases h
        | ok phone =>
            rw [hemail, hphone] at h
            change (if channelsOf email phone = [] then Except.error SkipReason.channel_missing else _) = _ at h
            split at h
            · cases h
            · cases h
              rfl

namespace RosterProgress.Tallied

variable {mapping : List (Nat × RosterField)} {body : List (List String)} {acc : RosterProgress} {cells : List String}

/-- The table grows by a row. -/
theorem lookup_snoc {i : Nat} {found : List String} (h : body[i]? = some found) :
    (body ++ [cells])[i]? = some found := by
  rw [List.getElem?_append_left (List.getElem?_eq_some_iff.mp h).1]
  exact h

theorem lookup_last : (body ++ [cells])[body.length]? = some cells := by simp

theorem skip (h : acc.Tallied mapping body) {reason : SkipReason}
    (hrefused : Refused mapping acc.rows ⟨body.length + 2, reason⟩ cells) :
    (acc.skip (body.length + 2) reason).Tallied mapping (body ++ [cells]) where
  lines := by
    rw [RosterProgress.skip, List.map_append, ← List.append_assoc, List.length_append, List.length_singleton,
      List.range_succ, List.map_append]
    exact h.lines.append (List.Perm.refl _)
  taken r hr := by
    obtain ⟨i, found, hfound, hline, hread⟩ := h.taken r hr
    exact ⟨i, found, lookup_snoc hfound, hline, hread⟩
  skipped s hs := by
    rcases List.mem_append.mp hs with hs | hs
    · obtain ⟨i, found, hfound, hline, hwhy⟩ := h.skipped s hs
      exact ⟨i, found, lookup_snoc hfound, hline, hwhy⟩
    · rw [List.mem_singleton] at hs
      subst hs
      exact ⟨body.length, cells, lookup_last, rfl, hrefused⟩
  seen := h.seen

theorem step (h : acc.Tallied mapping body) (cells : List String) :
    (acc.step mapping (cells, body.length)).Tallied mapping (body ++ [cells]) := by
  unfold RosterProgress.step
  dsimp only
  split
  next reason hread => exact h.skip (Or.inl hread)
  next r hread =>
    have hline := readRow_line hread
    split
    next hknown =>
      -- the channel that was seen is one of a row that was taken
      obtain ⟨c, hc, hseen⟩ := List.any_eq_true.mp hknown
      obtain ⟨r', hr', hc'⟩ := h.seen c (of_decide_eq_true hseen)
      exact h.skip (Or.inr ⟨rfl, r, hread, r', hr', fun hapart => hapart c hc hc'⟩)
    next =>
      constructor
      · dsimp only
        rw [List.map_append, List.map_singleton, hline, List.length_append, List.length_singleton, List.range_succ,
          List.map_append, List.map_singleton]
        refine List.Perm.trans ?_ (h.lines.append (List.Perm.refl _))
        rw [List.append_assoc, List.append_assoc]
        exact (List.Perm.refl _).append List.perm_append_comm
      · intro x hx
        rcases List.mem_append.mp hx with hx | hx
        · obtain ⟨i, found, hfound, hxline, hxread⟩ := h.taken x hx
          exact ⟨i, found, lookup_snoc hfound, hxline, hxread⟩
        · rw [List.mem_singleton] at hx
          subst hx
          exact ⟨body.length, cells, lookup_last, hline, hline ▸ hread⟩
      · intro s hs
        obtain ⟨i, found, hfound, hsline, hwhy⟩ := h.skipped s hs
        exact ⟨i, found, lookup_snoc hfound, hsline, hwhy.mono fun r hr => List.mem_append_left _ hr⟩
      · intro c hc
        rcases List.mem_append.mp hc with hc | hc
        · obtain ⟨r', hr', hc'⟩ := h.seen c hc
          exact ⟨r', List.mem_append_left _ hr', hc'⟩
        · exact ⟨r, List.mem_append_right _ (List.mem_singleton_self r), hc⟩

theorem fold (h : acc.Tallied mapping body) (more : List (List String)) :
    ((more.zipIdx body.length).foldl (RosterProgress.step mapping) acc).Tallied mapping (body ++ more) := by
  induction more generalizing acc body with
  | nil => simpa using h
  | cons cells rest ih =>
      have hrest := ih (h.step cells)
      rw [List.length_append, List.length_singleton, List.append_assoc] at hrest
      exact hrest

end RosterProgress.Tallied

theorem tallied_readRoster (plan : HeaderPlan) (body : List (List String)) :
    RosterProgress.Tallied plan.mapping body
      (body.zipIdx.foldl (RosterProgress.step plan.mapping) ⟨[], [], []⟩) := by
  have hstart : RosterProgress.Tallied plan.mapping [] ⟨[], [], []⟩ :=
    ⟨List.Perm.refl _, fun r hr => (nomatch hr), fun s hs => (nomatch hs), fun c hc => (nomatch hc)⟩
  exact hstart.fold body

/-! ### Files -/

/-- What a file that is taken consists of. -/
theorem of_parseRoster {text : String} {parsed : ParsedRoster} (h : parseRoster text = .ok parsed) :
    ∃ header body plan, parseCsv text = header :: body ∧ planHeaders header = .ok plan ∧
      parsed = readRoster plan body := by
  unfold parseRoster at h
  split at h
  · cases h
  · split at h
    next header row rest htable =>
      split at h
      · cases h
      · cases hplan : planHeaders header with
        | error e =>
            rw [hplan] at h
            cases h
        | ok plan =>
            rw [hplan] at h
            exact ⟨header, row :: rest, plan, htable, hplan, (Except.ok.inj h).symm⟩
    next => cases h

/-- Noor, as read from a line. -/
def noor (line : Nat) : RosterRow := ⟨line, "Noor", none, some "+966501234567", none, none⟩

end Qift.Campaigns
