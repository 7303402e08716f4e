import Qift.Campaigns.Roster

/-!
# What a roster file may look like

A file is written cell by cell as RFC 4180 says: a cell with a comma, a quote or a line end stands in quotes, its quotes
doubled, and any other cell may. Each line ends with CRLF or LF, the last one may end with neither.

* `scanCsv_encodeCell`, `scanCsv_encodeCells`, `scanCsv_encodeLines` — the scanner undoes the writer cell by cell, then
  line by line.
* **`parseCsv_decodes`** — `parseCsv` gives back every table of rows that are not blank.
-/

namespace Qift.Campaigns

/-! ### The writer -/

/-- A character that puts a cell in quotes. -/
def isSpecial (c : Char) : Bool := c = ',' || c = '"' || c = '\r' || c = '\n'

/-- The quotes of a cell, doubled. -/
def doubleQuotes : List Char → List Char
  | [] => []
  | c :: cs => if c = '"' then '"' :: '"' :: doubleQuotes cs else c :: doubleQuotes cs

/-- A cell, and whether its writer puts it in quotes where it need not. -/
structure CsvCell where
  text : String
  quoted : Bool

def CsvCell.inQuotes (cell : CsvCell) : Bool := cell.quoted || cell.text.toList.any isSpecial

def CsvCell.encode (cell : CsvCell) : List Char :=
  if cell.inQuotes then '"' :: (doubleQuotes cell.text.toList ++ ['"']) else cell.text.toList

inductive LineEnd
  | crlf | lf

def LineEnd.encode : LineEnd → List Char
  | crlf => ['\r', '\n']
  | lf => ['\n']

/-- The cells of a line, with commas between them. -/
def encodeCells : List CsvCell → List Char
  | [] => []
  | [cell] => cell.encode
  | cell :: cells => cell.encode ++ ',' :: encodeCells cells

structure CsvLine where
  cells : List CsvCell
  lineEnd : LineEnd

/-- The lines of a file; `final` tells whether the last one is ended. -/
def encodeLines (final : Bool) : List CsvLine → List Char
  | [] => []
  | [line] => encodeCells line.cells ++ if final then line.lineEnd.encode else []
  | line :: lines => encodeCells line.cells ++ (line.lineEnd.encode ++ encodeLines final lines)

/-- A file, with or without a byte order mark. -/
def encodeCsv (mark final : Bool) (lines : List CsvLine) : String :=
  String.ofList ((if mark then ['\uFEFF'] else []) ++ encodeLines final lines)

/-- The cells that a line stands for. -/
def CsvLine.row (line : CsvLine) : List String := line.cells.map CsvCell.text

/-- A cell of the line is not blank. -/
def CsvLine.Filled (line : CsvLine) : Prop := ∃ c ∈ line.row, trim c ≠ ""

/-! ### The scanner undoes it -/

section Scan

variable {cell rest : List Char} {row : List String} {rows : List (List String)}

/-- Inside quotes, up to the closing one. -/
theorem scanCsv_doubleQuotes (cs : List Char) (hrest : rest.head? ≠ some '"') :
    scanCsv (doubleQuotes cs ++ '"' :: rest) true cell row rows = scanCsv rest false (cell ++ cs) row rows := by
  induction cs generalizing cell with
  | nil =>
      rw [List.append_nil]
      cases rest with
      | nil => simp [doubleQuotes, scanCsv]
      | cons c rest =>
          have hc : c ≠ '"' := fun h => hrest (by rw [h]; rfl)
          simp only [doubleQuotes, List.nil_append]
          rw [scanCsv]
          rintro rest' hsame
          exact hc (List.cons.inj hsame).1
  | cons c cs ih =>
      unfold doubleQuotes
      split
      · rename_i hquote
        subst hquote
        rw [List.cons_append, List.cons_append, scanCsv, ih, List.append_assoc]
        rfl
      · rename_i hquote
        rw [List.cons_append, scanCsv, ih, List.append_assoc]
        · rfl
        · exact fun _ hsame _ => hquote hsame
        · exact fun hsame => hquote hsame

theorem scanCsv_plain {cs : List Char} (hcs : cs.any isSpecial = false) :
    scanCsv (cs ++ rest) false cell row rows = scanCsv rest false (cell ++ cs) row rows := by
  induction cs generalizing cell with
  | nil => rw [List.nil_append, List.append_nil]
  | cons c cs ih =>
      rw [List.any_cons, Bool.or_eq_false_iff] at hcs
      obtain ⟨hc, hcs⟩ := hcs
      simp only [isSpecial, Bool.or_eq_false_iff, decide_eq_false_iff_not] at hc
      obtain ⟨⟨⟨hcomma, hquote⟩, hreturn⟩, hnewline⟩ := hc
      rw [List.cons_append, scanCsv]
      · rw [if_neg (fun h => hquote h.1), if_neg hcomma, if_neg (by simp [hreturn, hnewline]), ih hcs, List.append_assoc]
        rfl
      · exact fun _ hsame => absurd hsame hreturn

theorem scanCsv_encodeCell (c : CsvCell) (hrest : rest.head? ≠ some '"') :
    scanCsv (c.encode ++ rest) false [] row rows = scanCsv rest false c.text.toList row rows := by
  unfold CsvCell.encode
  split
  · rw [List.cons_append, List.append_assoc, List.singleton_append, scanCsv]
    · rw [if_pos ⟨rfl, rfl⟩, scanCsv_doubleQuotes _ hrest, List.nil_append]
    · exact fun _ hsame => absurd hsame (by decide)
  · rename_i hplain
    rw [CsvCell.inQuotes, Bool.not_eq_true, Bool.or_eq_false_iff] at hplain
    rw [scanCsv_plain hplain.2, List.nil_append]

/-- The cells of a line, up to its end: the last cell is open, those before it are closed. -/
theorem scanCsv_encodeCells (cells : List CsvCell) (last : CsvCell) (hrest : rest.head? ≠ some '"') :
    scanCsv (encodeCells (cells ++ [last]) ++ rest) false [] row rows =
      scanCsv rest false last.text.toList (row ++ cells.map CsvCell.text) rows := by
  induction cells generalizing row with
  | nil =>
      simp only [List.nil_append, encodeCells, List.map_nil, List.append_nil]
      exact scanCsv_encodeCell last hrest
  | cons c cells ih =>
      obtain ⟨d, ds, hcells⟩ := List.exists_cons_of_ne_nil (show cells ++ [last] ≠ [] by simp)
      rw [List.cons_append, hcells, encodeCells, ← hcells, List.append_assoc, List.cons_append]
      · rw [scanCsv_encodeCell c (by simp), scanCsv_comma, ih, List.append_assoc, String.ofList_toList]
        rfl
      · simp

theorem scanCsv_lineEnd (lineEnd : LineEnd) :
    scanCsv (lineEnd.encode ++ rest) false cell row rows =
      scanCsv rest false [] [] (pushRow rows (row ++ [String.ofList cell])) := by
  cases lineEnd with
  | crlf =>
      simp only [LineEnd.encode, List.cons_append, List.nil_append]
      rw [scanCsv]
  | lf =>
      simp only [LineEnd.encode, List.cons_append, List.nil_append]
      rw [scanCsv]
      · rw [if_neg (by simp), if_neg (by decide), if_pos (by decide)]
      · exact fun _ hsame => absurd hsame (by decide)

end Scan

/-! ### Lines -/

section Lines

variable {line : CsvLine} {lines : List CsvLine} {rest : List Char} {rows : List (List String)}

/-- A row that is not blank is kept. -/
theorem pushRow_filled (h : line.Filled) : pushRow rows line.row = rows ++ [line.row] := by
  obtain ⟨c, hc, hblank⟩ := h
  rw [pushRow, if_pos (List.any_eq_true.mpr ⟨c, hc, decide_eq_true hblank⟩)]

theorem CsvLine.Filled.cells (h : line.Filled) : ∃ cells last, line.cells = cells ++ [last] := by
  obtain ⟨c, hc, -⟩ := h
  obtain ⟨cell, hcell, -⟩ := List.mem_map.mp hc
  exact ⟨_, _, (List.dropLast_append_getLast (List.ne_nil_of_mem hcell)).symm⟩

theorem scanCsv_line (h : line.Filled) :
    scanCsv (encodeCells line.cells ++ (line.lineEnd.encode ++ rest)) false [] [] rows =
      scanCsv rest false [] [] (rows ++ [line.row]) := by
  obtain ⟨cells, last, hcells⟩ := h.cells
  have hend : (line.lineEnd.encode ++ rest).head? ≠ some '"' := by
    cases line.lineEnd <;> simp [LineEnd.encode]
  rw [← pushRow_filled h, CsvLine.row, hcells, scanCsv_encodeCells cells last hend, scanCsv_lineEnd,
    String.ofList_toList]
  simp

theorem scanCsv_lastLine (h : line.Filled) : scanCsv (encodeCells line.cells) false [] [] rows = rows ++ [line.row] := by
  obtain ⟨cells, last, hcells⟩ := h.cells
  have hrow : line.row = cells.map CsvCell.text ++ [last.text] := by simp [CsvLine.row, hcells]
  have hscan : scanCsv (encodeCells (cells ++ [last]) ++ []) false [] [] rows = _ :=
    scanCsv_encodeCells cells last (by simp)
  rw [List.append_nil] at hscan
  rw [hcells, hscan, scanCsv, List.nil_append, String.ofList_toList, ← hrow, pushRow_filled h, if_pos]
  -- a single cell that is not blank is not empty
  by_contra hempty
  simp only [ne_eq, not_or, not_not, List.map_eq_nil_iff] at hempty
  obtain ⟨c, hc, hblank⟩ := h
  rw [hrow, hempty.2] at hc
  simp only [List.map_nil, List.nil_append, List.mem_singleton] at hc
  have htext : last.text = "" := String.toList_injective hempty.1
  rw [hc, htext] at hblank
  exact hblank rfl

/-- **The scanner undoes the writer.** -/
theorem scanCsv_encodeLines (final : Bool) (h : ∀ line ∈ lines, line.Filled) :
    scanCsv (encodeLines final lines) false [] [] rows = rows ++ lines.map CsvLine.row := by
  induction lines generalizing rows with
  | nil => simp [encodeLines, scanCsv]
  | cons line lines ih =>
      have hline := h line List.mem_cons_self
      cases lines with
      | nil =>
          cases final with
          | true =>
              have hscan : scanCsv (encodeCells line.cells ++ (line.lineEnd.encode ++ [])) false [] [] rows = _ :=
                scanCsv_line hline
              rw [List.append_nil] at hscan
              simp only [encodeLines, if_true, hscan, List.map_cons, List.map_nil]
              simp [scanCsv]
          | false =>
              simp only [encodeLines, Bool.false_eq_true, if_false, List.append_nil, scanCsv_lastLine hline,
                List.map_cons, List.map_nil]
      | cons next lines =>
          rw [encodeLines, scanCsv_line hline, ih fun l hl => h l (List.mem_cons_of_mem _ hl), List.append_assoc]
          · rfl
          · simp

end Lines

/-! ### Files -/

section Files

variable {mark final : Bool} {lines : List CsvLine}

/-- The mark is taken off; without one, nothing is taken off a text that does not begin like one. -/
theorem parseCsv_encodeCsv (hmark : mark = true ∨ (encodeLines final lines).head? ≠ some '\uFEFF')
    (h : ∀ line ∈ lines, line.Filled) : parseCsv (encodeCsv mark final lines) = lines.map CsvLine.row := by
  have hscan : scanCsv (encodeLines final lines) false [] [] [] = lines.map CsvLine.row := by
    rw [scanCsv_encodeLines final h, List.nil_append]
  unfold parseCsv encodeCsv
  rw [String.toList_ofList]
  cases mark with
  | true => exact hscan
  | false =>
      simp only [Bool.false_eq_true, if_false, List.nil_append]
      split
      · rename_i rest hstart
        exact absurd (by rw [hstart]; rfl) (hmark.resolve_left nofun)
      · exact hscan

theorem trim_mark (cs : List Char) : trim (String.ofList ('\uFEFF' :: cs)) = trim (String.ofList cs) := by
  have hblank : isTrimmed '\uFEFF' = true := by decide
  simp only [trim, String.toList_ofList, List.dropWhile_cons, hblank, if_true]

/-- The cell without the mark that its text begins with. -/
def CsvCell.unmarked (cell : CsvCell) : CsvCell := { cell with text := String.ofList cell.text.toList.tail }

theorem encodeCells_mark {cells : List CsvCell} {ending rest : List Char} (hending : ending.head? ≠ some '\uFEFF')
    (h : encodeCells cells ++ ending = '\uFEFF' :: rest) : ∃ c more, cells = c :: more ∧
      trim c.unmarked.text = trim c.text ∧ encodeCells (c.unmarked :: more) ++ ending = rest := by
  cases cells with
  | nil =>
      rw [encodeCells, List.nil_append] at h
      rw [h] at hending
      exact absurd rfl hending
  | cons c more =>
      -- what follows the first cell
      obtain ⟨after, hafter, hfollows⟩ : ∃ after, (∀ d : CsvCell, encodeCells (d :: more) ++ ending = d.encode ++ after) ∧
          after.head? ≠ some '\uFEFF' := by
        cases more with
        | nil => exact ⟨ending, fun d => rfl, hending⟩
        | cons e es => exact ⟨',' :: (encodeCells (e :: es) ++ ending), fun d => by simp [encodeCells], by simp⟩
      rw [hafter] at h
      by_cases hquotes : c.inQuotes = true
      · rw [CsvCell.encode, if_pos hquotes] at h
        cases h
      · rw [CsvCell.encode, if_neg hquotes] at h
        cases htext : c.text.toList with
        | nil =>
            rw [htext, List.nil_append] at h
            rw [h] at hfollows
            exact absurd rfl hfollows
        | cons x xs =>
            rw [htext, List.cons_append] at h
            obtain ⟨rfl, hrest⟩ := List.cons.inj h
            have hplain : ¬c.unmarked.inQuotes = true := by
              rw [CsvCell.inQuotes, htext, List.any_cons] at hquotes
              simp only [CsvCell.unmarked, CsvCell.inQuotes, String.toList_ofList, htext, List.tail_cons]
              exact fun hmore => hquotes (by
                rw [Bool.or_eq_true] at hmore ⊢
                exact hmore.imp_right fun hspecial => by rw [hspecial, Bool.or_true])
            refine ⟨c, more, rfl, ?_, ?_⟩
            · have hc : c.text = String.ofList ('\uFEFF' :: xs) := by rw [← htext, String.ofList_toList]
              rw [hc, trim_mark, CsvCell.unmarked, htext, List.tail_cons]
            · rw [hafter, CsvCell.encode, if_neg hplain, CsvCell.unmarked, String.toList_ofList, htext, List.tail_cons,
                hrest]

/-- A file without a mark whose text begins with one is read as the file without it. -/
theorem encodeLines_mark {rest : List Char} (h : ∀ line ∈ lines, line.Filled)
    (hstart : encodeLines final lines = '\uFEFF' :: rest) : ∃ lines', encodeLines final lines' = rest ∧
      (∀ line ∈ lines', line.Filled) ∧
      (lines'.map CsvLine.row).map (List.map trim) = (lines.map CsvLine.row).map (List.map trim) := by
  cases lines with
  | nil => cases hstart
  | cons line more =>
      obtain ⟨ending, hending, hhead⟩ : ∃ ending, (∀ l : CsvLine, l.lineEnd = line.lineEnd →
          encodeLines final (l :: more) = encodeCells l.cells ++ ending) ∧ ending.head? ≠ some '\uFEFF' := by
        cases more with
        | nil =>
            refine ⟨if final then line.lineEnd.encode else [], fun l hl => by rw [encodeLines, hl], ?_⟩
            split
            · cases line.lineEnd <;> simp [LineEnd.encode]
            · simp
        | cons next more =>
            refine ⟨line.lineEnd.encode ++ encodeLines final (next :: more), fun l hl => by simp [encodeLines, hl], ?_⟩
            cases line.lineEnd <;> simp [LineEnd.encode]
      rw [hending line rfl] at hstart
      obtain ⟨c, cells, hcells, htrim, hrest⟩ := encodeCells_mark hhead hstart
      have hrow : (CsvLine.row ⟨c.unmarked :: cells, line.lineEnd⟩).map trim = line.row.map trim := by
        simp [CsvLine.row, hcells, htrim]
      refine ⟨⟨c.unmarked :: cells, line.lineEnd⟩ :: more, ?_, ?_, ?_⟩
      · rw [hending ⟨c.unmarked :: cells, line.lineEnd⟩ rfl, hrest]
      · intro l hl
        rcases List.mem_cons.mp hl with rfl | hl
        · obtain ⟨x, hx, hblank⟩ := h line List.mem_cons_self
          have hmem : trim x ∈ (CsvLine.row ⟨c.unmarked :: cells, line.lineEnd⟩).map trim := by
            rw [hrow]
            exact List.mem_map_of_mem hx
          obtain ⟨y, hy, hsame⟩ := List.mem_map.mp hmem
          exact ⟨y, hy, hsame ▸ hblank⟩
        · exact h l (List.mem_cons_of_mem _ hl)
      · simp only [List.map_cons, hrow]

/-- **`parseCsv` decodes RFC 4180.**  It gives back the cells of every file whose lines are not blank: exactly, where the
file has a byte order mark or does not begin with that character; and up to blanks around a cell in any case. -/
theorem parseCsv_decodes (mark final : Bool) (lines : List CsvLine) (h : ∀ line ∈ lines, line.Filled) :
    (mark = true ∨ (encodeLines final lines).head? ≠ some '\uFEFF' →
      parseCsv (encodeCsv mark final lines) = lines.map CsvLine.row) ∧
    (parseCsv (encodeCsv mark final lines)).map (List.map trim) = (lines.map CsvLine.row).map (List.map trim) := by
  refine ⟨fun hmark => parseCsv_encodeCsv hmark h, ?_⟩
  by_cases hmark : mark = true ∨ (encodeLines final lines).head? ≠ some '\uFEFF'
  · rw [parseCsv_encodeCsv hmark h]
  · rw [not_or, not_not, Bool.not_eq_true] at hmark
    obtain ⟨rfl, hhead⟩ := hmark
    obtain ⟨rest, hstart⟩ := List.head?_eq_some_iff.mp hhead
    obtain ⟨lines', rfl, hfilled, hrows⟩ := encodeLines_mark h hstart
    -- the text is that of the other lines behind a mark
    have hsame : encodeCsv false final lines = encodeCsv true final lines' := by
      rw [encodeCsv, encodeCsv, hstart]
      rfl
    rw [hsame, parseCsv_encodeCsv (.inl rfl) hfilled, hrows]

/-- A file with a comma, quotes and a line end inside its cells. -/
def quotedFile : List CsvLine :=
  [⟨[⟨"name", false⟩, ⟨"note", true⟩], .crlf⟩, ⟨[⟨"Doe, Jane", false⟩, ⟨"said \"hi\"\nbye", false⟩], .lf⟩]

theorem parseCsv_decodes_quoted : encodeCsv false false quotedFile =
      "name,\"note\"\r\n\"Doe, Jane\",\"said \"\"hi\"\"\nbye\"" ∧
    parseCsv (encodeCsv false false quotedFile) = [["name", "note"], ["Doe, Jane", "said \"hi\"\nbye"]] := by
  refine ⟨by decide +kernel, ?_⟩
  have hfilled : ∀ line ∈ quotedFile, line.Filled := by
    intro line hline
    simp only [quotedFile, List.mem_cons, List.not_mem_nil, or_false] at hline
    rcases hline with rfl | rfl
    · exact ⟨"name", by decide, by decide⟩
    · exact ⟨"Doe, Jane", by decide, by decide⟩
  exact (parseCsv_decodes false false quotedFile hfilled).1 (.inr (by decide +kernel))

end Files

end Qift.Campaigns
