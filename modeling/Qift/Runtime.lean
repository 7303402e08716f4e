import Mathlib.Data.Rat.Floor
import Mathlib.Data.List.Sort
import Mathlib.Tactic

/-!
# What the program takes from its platform

* `Runtime` collects the two primitives whose text is not fixed by the program: the digest of the hashing
  library and the decimal text of a number.
* `toISOString` and `utcFullYear` are the calendar functions of the program's dates, from milliseconds since
  the epoch.
* `Json`, `jsonQuote` and `canonicalJson` are the JSON values the program hashes and their canonical text:
  members sorted by key in code-unit order, arrays in their own order.
-/

namespace Qift

/-- Platform primitives: the hexadecimal SHA-256 digest and the text of a number. -/
class Runtime where
  sha256Hex : String → String
  numberToString : ℚ → String

/-- The decimal text of a number of at most two decimals. -/
def decimalText (x : ℚ) : String :=
  let cents := ⌊|x| * 100⌋.toNat
  let decimals := cents % 100
  (if x < 0 then "-" else "") ++ toString (cents / 100) ++
    if decimals = 0 then ""
    else if decimals % 10 = 0 then "." ++ toString (decimals / 10)
    else "." ++ (if decimals < 10 then "0" else "") ++ toString decimals

/-- A platform for evaluations: texts are their own digests. -/
@[reducible] def plainRuntime : Runtime where
  sha256Hex := id
  numberToString := decimalText

/-- White space and line ends, as `String.prototype.trim` strips them. -/
def isTrimmed (c : Char) : Bool :=
  (9 ≤ c.toNat && c.toNat ≤ 13) || c.toNat = 32 || c.toNat = 160 || c.toNat = 0x1680 ||
    (0x2000 ≤ c.toNat && c.toNat ≤ 0x200A) || c.toNat = 0x2028 || c.toNat = 0x2029 ||
    c.toNat = 0x202F || c.toNat = 0x205F || c.toNat = 0x3000 || c.toNat = 0xFEFF

/-- `String.prototype.trim`. -/
def trim (s : String) : String :=
  String.ofList (((s.toList.dropWhile isTrimmed).reverse.dropWhile isTrimmed).reverse)

/-- An instant, in milliseconds since the epoch. -/
abbrev Time := Int

/-! ### Dates -/

def dayMillis : Int := 86400000

/-- Year, month and day of a day number counted from 1970-01-01. -/
def civilFromDays (days : Int) : Int × Int × Int :=
  let shifted := days + 719468
  let era := shifted / 146097
  let dayOfEra := shifted % 146097
  let yearOfEra :=
    (dayOfEra - dayOfEra / 1460 + dayOfEra / 36524 - dayOfEra / 146096) / 365
  let dayOfYear := dayOfEra - (365 * yearOfEra + yearOfEra / 4 - yearOfEra / 100)
  let shiftedMonth := (5 * dayOfYear + 2) / 153
  let day := dayOfYear - (153 * shiftedMonth + 2) / 5 + 1
  let month := if shiftedMonth < 10 then shiftedMonth + 3 else shiftedMonth - 9
  let year := yearOfEra + era * 400 + (if month ≤ 2 then 1 else 0)
  (year, month, day)

/-- `Date.getUTCFullYear`. -/
def utcFullYear (t : Time) : Int := (civilFromDays (t / dayMillis)).1

/-- A natural number in at least `width` decimal digits. -/
def padNumber (width n : Nat) : String :=
  let digits := toString n
  String.ofList (List.replicate (width - digits.length) '0') ++ digits

theorem toString_toList (n : Nat) : (toString n).toList = Nat.toDigits 10 n := by
  rw [Nat.toString_eq_repr, Nat.toList_repr]

theorem padNumber_toList (width n : Nat) : (padNumber width n).toList =
    List.replicate (width - (Nat.toDigits 10 n).length) '0' ++ Nat.toDigits 10 n := by
  rw [padNumber]
  simp only [String.toList_append, String.toList_ofList, ← String.length_toList, toString_toList]

theorem padNumber_value (width n : Nat) : Nat.ofDigitChars 10 (padNumber width n).toList 0 = n := by
  rw [padNumber_toList]
  simp only [Nat.ofDigitChars_append, Nat.ofDigitChars_replicate_zero, Nat.mul_zero, Nat.ofDigitChars_ten_toDigits]

theorem padNumber_injective {width m n : Nat} (h : padNumber width m = padNumber width n) : m = n := by
  rw [← padNumber_value width m, h, padNumber_value]

theorem isDigit_of_mem_padNumber {width n : Nat} {c : Char} (h : c ∈ (padNumber width n).toList) : c.isDigit = true := by
  rw [padNumber_toList] at h
  rcases List.mem_append.mp h with h | h
  · rw [List.eq_of_mem_replicate h]
    rfl
  · exact Nat.isDigit_of_mem_toDigits (by decide) (by decide) h

/-- The year of an ISO date: four digits, or a sign and six outside 0–9999. -/
def isoYear (year : Int) : String :=
  if year < 0 then "-" ++ padNumber 6 year.natAbs
  else if year ≤ 9999 then padNumber 4 year.natAbs
  else "+" ++ padNumber 6 year.natAbs

/-- `Date.toISOString`. -/
def toISOString (t : Time) : String :=
  let (year, month, day) := civilFromDays (t / dayMillis)
  let millis := (t % dayMillis).toNat
  isoYear year ++ "-" ++ padNumber 2 month.natAbs ++ "-" ++ padNumber 2 day.natAbs ++ "T" ++
    padNumber 2 (millis / 3600000) ++ ":" ++ padNumber 2 (millis / 60000 % 60) ++ ":" ++
    padNumber 2 (millis / 1000 % 60) ++ "." ++ padNumber 3 (millis % 1000) ++ "Z"

example : toISOString 1767225600123 = "2026-01-01T00:00:00.123Z" := by decide +kernel

/-! ### Canonical JSON -/

/-- A JSON value; a member that is `undefined` is not built. -/
inductive Json
  | null
  | bool (b : Bool)
  | num (x : ℚ)
  | str (s : String)
  | arr (values : List Json)
  | obj (members : List (String × Json))

def jsonEscape (c : Char) : String :=
  if c = '"' then "\\\""
  else if c = '\\' then "\\\\"
  else if c.toNat = 8 then "\\b"
  else if c.toNat = 9 then "\\t"
  else if c.toNat = 10 then "\\n"
  else if c.toNat = 12 then "\\f"
  else if c.toNat = 13 then "\\r"
  else if c.toNat < 32 then "\\u00" ++ String.ofList (hexDigits c.toNat)
  else String.ofList [c]
where
  /-- Two lower-case hexadecimal digits. -/
  hexDigits (n : Nat) : List Char := [Nat.digitChar (n / 16), Nat.digitChar (n % 16)]

/-- `JSON.stringify` of a string. -/
def jsonQuote (s : String) : String :=
  "\"" ++ String.join (s.toList.map jsonEscape) ++ "\""

def codeUnits (s : String) : List Nat :=
  s.toList.flatMap fun c =>
    if c.toNat < 65536 then [c.toNat]
    else [55296 + (c.toNat - 65536) / 1024, 56320 + (c.toNat - 65536) % 1024]

/-- The key order of `canonicalJson`: strings compare by code units. -/
def keyLE (a b : String × String) : Prop := codeUnits a.1 ≤ codeUnits b.1

instance (a b : String × String) : Decidable (keyLE a b) :=
  inferInstanceAs (Decidable (codeUnits a.1 ≤ codeUnits b.1))

section Canonical

variable [Runtime]

mutual

/-- The canonical text of a value. -/
def canonicalJson : Json → String
  | .null => "null"
  | .bool b => if b then "true" else "false"
  | .num x => Runtime.numberToString x
  | .str s => jsonQuote s
  | .arr values => "[" ++ String.intercalate "," (canonicalValues values) ++ "]"
  | .obj members =>
      let entries := (canonicalMembers members).insertionSort keyLE
      "\x7b" ++ String.intercalate "," (entries.map fun e => jsonQuote e.1 ++ ":" ++ e.2) ++ "\x7d"

/-- The canonical texts of the elements of an array, in order. -/
def canonicalValues : List Json → List String
  | [] => []
  | v :: rest => canonicalJson v :: canonicalValues rest

/-- The members of an object with their canonical texts. -/
def canonicalMembers : List (String × Json) → List (String × String)
  | [] => []
  | (key, v) :: rest => (key, canonicalJson v) :: canonicalMembers rest

end

/-- The digest of a canonical text. -/
def hashCanonical (canonical : String) : String := Runtime.sha256Hex canonical

end Canonical

end Qift
