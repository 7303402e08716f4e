import Mathlib.Data.List.Infix
import Qift.Portal.Otp
import Qift.Portal.Phone

/-!
# Roster files

`roster-csv.ts`: a company uploads the people it may gift to.

* `parseCsv` reads cells and rows; `planHeaders` maps the columns and refuses a file with an address column.
* `readRow` validates a row; `parseRoster` reads a file and skips what it cannot take.
* `parseRoster_disjoint` — no two rows of a file that are taken share a phone or an e-mail.
-/

namespace Qift.Campaigns

def MAX_CSV_BYTES : Nat := 512 * 1024
def MAX_ROSTER_ROWS : Nat := 2000

/-! ### Cells -/

/-- A row is kept when a cell of it is not blank. -/
def pushRow (rows : List (List String)) (row : List String) : List (List String) :=
  if row.any fun c => trim c ≠ "" then rows ++ [row] else rows

/-- The scanner: inside quotes or not, the cell and the row that are open, and the rows that are closed. -/
def scanCsv : List Char → Bool → List Char → List String → List (List String) → List (List String)
  | [], _, cell, row, rows => if cell ≠ [] ∨ row ≠ [] then pushRow rows (row ++ [String.ofList cell]) else rows
  | '"' :: '"' :: rest, true, cell, row, rows => scanCsv rest true (cell ++ ['"']) row rows
  | '"' :: rest, true, cell, row, rows => scanCsv rest false cell row rows
  | c :: rest, true, cell, row, rows => scanCsv rest true (cell ++ [c]) row rows
  | '\r' :: '\n' :: rest, false, cell, row, rows =>
      scanCsv rest false [] [] (pushRow rows (row ++ [String.ofList cell]))
  | c :: rest, false, cell, row, rows =>
      if c = '"' ∧ cell = [] then scanCsv rest true cell row rows
      else if c = ',' then scanCsv rest false [] (row ++ [String.ofList cell]) rows
      else if c = '\r' ∨ c = '\n' then scanCsv rest false [] [] (pushRow rows (row ++ [String.ofList cell]))
      else scanCsv rest false (cell ++ [c]) row rows

theorem scanCsv_comma (rest cell : List Char) (row : List String) (rows : List (List String)) :
    scanCsv (',' :: rest) false cell row rows = scanCsv rest false [] (row ++ [String.ofList cell]) rows := by
  rw [scanCsv]
  · rw [if_neg (by simp), if_pos rfl]
  · exact fun _ hsame => absurd hsame (by decide)

/-- The rows of a text, after its byte order mark. -/
def parseCsv (text : String) : List (List String) :=
  match text.toList with
  | '\uFEFF' :: rest => scanCsv rest false [] [] []
  | src => scanCsv src false [] [] []

example : parseCsv "name,phone\r\n\"Noor, \"\"N\"\"\",050\n\n" = [["name", "phone"], ["Noor, \"N\"", "050"]] := by decide

/-! ### Headers -/

inductive RosterField
  | fullName | email | phone | department | employeeRef
  deriving DecidableEq

def HEADER_ALIASES : List (String × RosterField) :=
  [("name", .fullName), ("fullname", .fullName), ("full name", .fullName), ("employee name", .fullName),
    ("الاسم", .fullName), ("اسم الموظف", .fullName), ("الاسم الكامل", .fullName),
    ("email", .email), ("email address", .email), ("work email", .email), ("البريد", .email),
    ("البريد الإلكتروني", .email), ("البريد الالكتروني", .email), ("ايميل", .email), ("إيميل", .email),
    ("phone", .phone), ("mobile", .phone), ("phone number", .phone), ("mobile number", .phone), ("جوال", .phone),
    ("الجوال", .phone), ("رقم الجوال", .phone), ("الهاتف", .phone), ("رقم الهاتف", .phone),
    ("department", .department), ("dept", .department), ("team", .department), ("القسم", .department),
    ("الإدارة", .department), ("الادارة", .department),
    ("employee id", .employeeRef), ("employeeid", .employeeRef), ("employee ref", .employeeRef),
    ("staff id", .employeeRef), ("الرقم الوظيفي", .employeeRef), ("رقم الموظف", .employeeRef)]

/-- The privacy gate: a header with one of these is an address column. -/
def FORBIDDEN_HEADER_FRAGMENTS : List String :=
  ["address", "street", "city", "district", "region", "postal", "zip", "po box", "pobox", "location", "building",
    "apartment", "villa", "عنوان", "العنوان", "شارع", "مدينة", "المدينة", "حي", "الحي", "منطقة", "المنطقة",
    "رمز بريدي", "الرمز البريدي", "صندوق بريد", "موقع", "مبنى", "شقة", "فيلا"]

/-- Lower case, with one blank for each run of blanks, underscores and hyphens. -/
def normalizeHeader (h : String) : String :=
  let words := (Portal.toLowerCase h).toList.splitOnP fun c => isTrimmed c || c = '_' || c = '-'
  " ".intercalate ((words.filter fun w => w ≠ []).map String.ofList)

def includes (s fragment : String) : Bool := decide (fragment.toList <:+: s.toList)

/-- The columns that are mapped, in order, those that are ignored and those that are refused. -/
structure HeaderPlan where
  mapping : List (Nat × RosterField)
  ignoredColumns : List String
  forbidden : List String
  deriving DecidableEq

/-- A column joins the plan; the first one of a field wins. -/
def HeaderPlan.column (plan : HeaderPlan) (column : String × Nat) : HeaderPlan :=
  let norm := normalizeHeader column.1
  if norm = "" then plan
  else if FORBIDDEN_HEADER_FRAGMENTS.any fun f => includes norm f then
    { plan with forbidden := plan.forbidden ++ [trim column.1] }
  else
    match (HEADER_ALIASES.lookup norm).filter fun field => field ∉ plan.mapping.map Prod.snd with
    | some field => { plan with mapping := plan.mapping ++ [(column.2, field)] }
    | none => { plan with ignoredColumns := plan.ignoredColumns ++ [trim column.1] }

structure RosterRejection where
  code : String
  columns : List String
  deriving DecidableEq

def planHeaders (headerRow : List String) : Except RosterRejection HeaderPlan :=
  let plan := headerRow.zipIdx.foldl HeaderPlan.column ⟨[], [], []⟩
  let seen := plan.mapping.map Prod.snd
  if plan.forbidden ≠ [] then .error ⟨"roster_address_columns_forbidden", plan.forbidden⟩
  else if RosterField.fullName ∉ seen ∨ (RosterField.email ∉ seen ∧ RosterField.phone ∉ seen) then
    .error ⟨"roster_headers_unusable", []⟩
  else .ok plan

/-! ### Rows -/

structure RosterRow where
  line : Nat
  fullName : String
  email : Option String
  phone : Option String
  department : Option String
  employeeRef : Option String
  deriving DecidableEq

inductive SkipReason
  | name_missing | channel_missing | phone_invalid | email_invalid | duplicate_in_file | duplicate_existing
  deriving DecidableEq

structure SkippedRow where
  line : Nat
  reason : SkipReason
  deriving DecidableEq

/-- The keys a person is told apart by. -/
inductive Channel
  | email (value : String)
  | phone (value : String)
  deriving DecidableEq

/-- A text that is there and not empty. -/
def present (s : Option String) : Option String := s.filter fun text => text ≠ ""

/-- The channels of a person, by the columns. -/
def channelsOf (email phone : Option String) : List Channel :=
  ((present email).map Channel.email).toList ++ ((present phone).map Channel.phone).toList

def RosterRow.channels (row : RosterRow) : List Channel := channelsOf row.email row.phone

/-- `EMAIL_REGEX` of the roster: two characters after the dot. -/
def isRosterEmail (s : String) : Bool :=
  let cs := s.toList
  let localPart := cs.takeWhile (· ≠ '@')
  let domain := cs.drop (localPart.length + 1)
  cs.all (fun c => !isTrimmed c) && localPart ≠ [] && cs.count '@' = 1 &&
    (List.range domain.length).any fun i => 0 < i && i + 2 < domain.length && domain[i]? = some '.'

/-- The text of a field, unless it is blank. -/
def fieldOf (mapping : List (Nat × RosterField)) (cells : List String) (field : RosterField) : Option String :=
  ((mapping.find? fun m => m.2 = field).bind fun m => (cells[m.1]?).map trim).filter fun v => v ≠ ""

/-- A field that may be left out, brought to its canonical form or refused. -/
def canonical (reason : SkipReason) (form : String → Option String) : Option String → Except SkipReason (Option String)
  | none => .ok none
  | some raw =>
      match form raw with
      | some v => .ok (some v)
      | none => .error reason

def rosterEmail (raw : String) : Option String := (some (Portal.toLowerCase raw)).filter isRosterEmail

def rosterPhone (raw : String) : Option String := (Portal.normalizePhone raw).filter Portal.isMobile

/-- A row of the file: a name and at least one valid channel. -/
def readRow (mapping : List (Nat × RosterField)) (line : Nat) (cells : List String) : Except SkipReason RosterRow := do
  let fullName := (fieldOf mapping cells .fullName).getD ""
  if (codeUnits fullName).length < 2 then .error .name_missing
  else do
    let email ← canonical .email_invalid rosterEmail (fieldOf mapping cells .email)
    let phone ← canonical .phone_invalid rosterPhone (fieldOf mapping cells .phone)
    if channelsOf email phone = [] then .error .channel_missing
    else
      .ok
        { line := line
          fullName := fullName
          email := email
          phone := phone
          department := fieldOf mapping cells .department
          employeeRef := fieldOf mapping cells .employeeRef }

/-- What has been read of a file. -/
structure RosterProgress where
  rows : List RosterRow
  skipped : List SkippedRow
  seenChannels : List Channel

def RosterProgress.skip (acc : RosterProgress) (line : Nat) (reason : SkipReason) : RosterProgress :=
  { acc with skipped := acc.skipped ++ [⟨line, reason⟩] }

/-- One turn of the loop over the rows. -/
def RosterProgress.step (mapping : List (Nat × RosterField)) (acc : RosterProgress) (row : List String × Nat) :
    RosterProgress :=
  let line := row.2 + 2
  match readRow mapping line row.1 with
  | .error reason => acc.skip line reason
  | .ok r =>
      if r.channels.any fun c => c ∈ acc.seenChannels then acc.skip line .duplicate_in_file
      else { acc with rows := acc.rows ++ [r], seenChannels := acc.seenChannels ++ r.channels }

structure ParsedRoster where
  rows : List RosterRow
  skipped : List SkippedRow
  ignoredColumns : List String
  deriving DecidableEq

/-- The rows of a table, under its headers. -/
def readRoster (plan : HeaderPlan) (body : List (List String)) : ParsedRoster :=
  let acc := body.zipIdx.foldl (RosterProgress.step plan.mapping) ⟨[], [], []⟩
  ⟨acc.rows, acc.skipped, plan.ignoredColumns⟩

def parseRoster (text : String) : Except RosterRejection ParsedRoster :=
  if MAX_CSV_BYTES < text.utf8ByteSize then .error ⟨"roster_file_too_large", []⟩
  else
    match parseCsv text with
    | header :: row :: rest =>
        if MAX_ROSTER_ROWS < (row :: rest).length then .error ⟨"roster_too_many_rows", []⟩
        else do
          let plan ← planHeaders header
          pure (readRoster plan (row :: rest))
    | _ => .error ⟨"roster_empty", []⟩

/-! ### No person twice -/

/-- Two people share no channel. -/
def Apart (a b : List Channel) : Prop := ∀ c ∈ a, c ∉ b

/-- The rows that were taken share no channel, and their channels were noted. -/
structure RosterProgress.Sound (acc : RosterProgress) : Prop where
  apart : acc.rows.Pairwise fun r r' => Apart r.channels r'.channels
  seen : ∀ r ∈ acc.rows, ∀ c ∈ r.channels, c ∈ acc.seenChannels

theorem RosterProgress.Sound.skip {acc : RosterProgress} (h : acc.Sound) (line : Nat) (reason : SkipReason) :
    (acc.skip line reason).Sound := ⟨h.apart, h.seen⟩

theorem RosterProgress.Sound.step {acc : RosterProgress} (h : acc.Sound) (mapping : List (Nat × RosterField))
    (row : List String × Nat) : (acc.step mapping row).Sound := by
  unfold RosterProgress.step
  dsimp only
  split
  · exact h.skip _ _
  · rename_i r _
    split
    · exact h.skip _ _
    · rename_i hnew
      rw [List.any_eq_true] at hnew
      constructor
      · refine List.pairwise_append.mpr ⟨h.apart, List.pairwise_singleton _ _, ?_⟩
        intro x hx y hy c hcx hcy
        rw [List.mem_singleton] at hy
        subst hy
        exact hnew ⟨c, hcy, decide_eq_true (h.seen x hx c hcx)⟩
      · intro x hx c hc
        rcases List.mem_append.mp hx with hx | hx
        · exact List.mem_append_left _ (h.seen x hx c hc)
        · rw [List.mem_singleton] at hx
          subst hx
          exact List.mem_append_right _ hc

theorem RosterProgress.Sound.fold {acc : RosterProgress} (h : acc.Sound) (mapping : List (Nat × RosterField))
    (rows : List (List String × Nat)) : (rows.foldl (RosterProgress.step mapping) acc).Sound := by
  induction rows generalizing acc with
  | nil => exact h
  | cons row rest ih => exact ih (h.step mapping row)

/-- **No two rows of a file that are taken share a phone or an e-mail.** -/
theorem parseRoster_disjoint {text : String} {parsed : ParsedRoster} (h : parseRoster text = .ok parsed) :
    parsed.rows.Pairwise fun r r' => Apart r.channels r'.channels := by
  unfold parseRoster at h
  split at h
  · cases h
  · split at h
    · split at h
      · cases h
      · rename_i header row rest _ _
        cases hplan : planHeaders header with
        | error e =>
            rw [hplan] at h
            cases h
        | ok plan =>
            rw [hplan] at h
            cases h
            have hstart : RosterProgress.Sound ⟨[], [], []⟩ := ⟨List.Pairwise.nil, fun _ hr => absurd hr List.not_mem_nil⟩
            exact (hstart.fold plan.mapping _).apart
    · cases h

end Qift.Campaigns
