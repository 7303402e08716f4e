import Mathlib
import Qift.Settlement.Refunds

/-!
# Public references

`references/reference.ts`: one grammar for every reference that a person reads or types.

* `formatSequentialReference` writes the number of a legal series; `generateReference` writes a drawn one.
* `normalizeReference` brings what a person types to the stored form; `isCanonicalReference` asks whether a text is in it.
* `normalizeCompact_eq_error` — a legal number of a year before 2020 is the only text that it throws on.
* **`normalizes_iff`** — on every other text it is total, and a projection that looks neither at case nor at separators.
* **`sequential_roundTrips_iff`** — a legal number is read back as long as its value has seven digits.
-/

namespace Qift.References

def REFERENCE_ALPHABET : String := "ABCDEFGHJKMNPQRSTUVWXYZ23456789"

inductive ReferenceKind
  | random | sequential | reserved
  deriving DecidableEq

inductive ReferencePrefix
  | QP | QB | QG | QF | QC | QS | QN | QD

namespace ReferencePrefix

/-- The key in the registry. -/
def text : ReferencePrefix → String
  | QP => "QP"
  | QB => "QB"
  | QG => "QG"
  | QF => "QF"
  | QC => "QC"
  | QS => "QS"
  | QN => "QN"
  | QD => "QD"

def kind : ReferencePrefix → ReferenceKind
  | QP | QB | QG | QF | QS | QN => .random
  | QC | QD => .sequential

end ReferencePrefix

/-- The keys of the registry, in its order. -/
def REFERENCE_PREFIXES : List ReferencePrefix := [.QP, .QB, .QG, .QF, .QC, .QS, .QN, .QD]

def RANDOM_GROUP : Nat := 4
def RANDOM_BODY_LENGTH : Nat := RANDOM_GROUP * 2

/-- A prefix and two groups of a body. -/
def randomReference (p : ReferencePrefix) (body : List Char) : String :=
  p.text ++ "-" ++ String.ofList (body.take RANDOM_GROUP) ++ "-" ++ String.ofList (body.drop RANDOM_GROUP)

def generateReference (p : ReferencePrefix) (drawn : List Char) : Except Err String :=
  if p.kind = .random then .ok (randomReference p drawn)
  else .error (.error ("reference_prefix_not_random: " ++ p.text))

/-- Only a legal series is numbered. -/
def formatSequentialReference (p : ReferencePrefix) (seriesYear : Int) (value : Nat) : Except Err String :=
  if p.kind = .sequential then Settlement.formatSequentialReference p.text seriesYear value
  else .error (.error ("reference_prefix_not_sequential: " ++ p.text))

/-! ### What a person types -/

/-- The characters outside `a`–`z` whose upper case has letters of `A`–`Z`, with these letters. -/
def UPPER_CASE : List (Char × String) :=
  [('ß', "SS"), ('ı', "I"), ('ŉ', "N"), ('ſ', "S"), ('ǰ', "J"), ('ẖ', "H"), ('ẗ', "T"), ('ẘ', "W"), ('ẙ', "Y"),
    ('ẚ', "A"), ('ﬀ', "FF"), ('ﬁ', "FI"), ('ﬂ', "FL"), ('ﬃ', "FFI"), ('ﬄ', "FFL"), ('ﬅ', "ST"), ('ﬆ', "ST")]

/-- A capital letter or a digit. -/
def isReferenceChar (c : Char) : Bool := ('A' ≤ c && c ≤ 'Z') || c.isDigit

/-- What `toUpperCase` and the replacement leave of a character. -/
def compactChar (c : Char) : List Char :=
  if isReferenceChar c.toUpper then [c.toUpper] else ((UPPER_CASE.lookup c).getD "").toList

/-- `input.toUpperCase().replace(/[^A-Z0-9]/g, '')`. -/
def compact (input : String) : List Char := input.toList.flatMap compactChar

/-- `Number` of digits. -/
def number (digits : List Char) : Nat := Nat.ofDigitChars 10 digits 0

/-- `SEQUENTIAL_BODY_RE`: a year of this century, then one to seven digits. -/
def sequentialBody : List Char → Option (List Char × List Char)
  | '2' :: '0' :: c :: d :: digits =>
      if c.isDigit ∧ d.isDigit ∧ digits.all Char.isDigit ∧ 1 ≤ digits.length ∧ digits.length ≤ 7 then
        some (['2', '0', c, d], digits)
      else none
  | _ => none

/-- `RANDOM_BODY_RE`. -/
def isRandomBody (body : List Char) : Bool :=
  body.length = RANDOM_BODY_LENGTH && body.all fun c => c ∈ REFERENCE_ALPHABET.toList

/-- The reference that a compact text spells. -/
def normalizeCompact (compact : List Char) : Except Err (Option String) :=
  match REFERENCE_PREFIXES.find? fun p => p.text.toList.isPrefixOf compact with
  | none => .ok none
  | some p =>
      let body := compact.drop p.text.toList.length
      if p.kind = .sequential then
        match sequentialBody body with
        | none => .ok none
        | some (year, digits) =>
            if number digits < 1 then .ok none
            else some <$> formatSequentialReference p (number year) (number digits)
      else if isRandomBody body then .ok (some (randomReference p body))
      else .ok none

def normalizeReference (input : String) : Except Err (Option String) :=
  if input = "" then .ok none else normalizeCompact (compact input)

def isCanonicalReference (value : String) : Except Err Bool := do
  let normalized ← normalizeReference value
  pure (decide (normalized = some value))

theorem normalizeReference_eq (input : String) : normalizeReference input = normalizeCompact (compact input) := by
  unfold normalizeReference
  split
  · rename_i hempty
    subst hempty
    rfl
  · rfl

theorem isCanonicalReference_of_normalized {reference : String}
    (h : normalizeReference reference = .ok (some reference)) : isCanonicalReference reference = .ok true := by
  rw [isCanonicalReference, h]
  simp [bind, Except.bind, pure, Except.pure]

/-! ### Characters -/

/-- A capital letter or a digit stands for itself. -/
theorem compactChar_self {c : Char} (h : isReferenceChar c = true) : compactChar c = [c] := by
  have hupper : c.toUpper = c := by
    simp only [isReferenceChar, Bool.or_eq_true, Bool.and_eq_true, decide_eq_true_eq, Char.isDigit] at h
    unfold Char.toUpper
    rw [dif_neg]
    rintro ⟨hlow, -⟩
    rcases h with h | h
    · have hle : c.val ≤ 90 := h.2
      exact absurd (UInt32.le_trans hlow hle) (by decide)
    · have hle : c.val ≤ 57 := h.2
      exact absurd (UInt32.le_trans hlow hle) (by decide)
  rw [compactChar, hupper, if_pos h]

theorem compact_append (s t : String) : compact (s ++ t) = compact s ++ compact t := by
  simp [compact]

theorem compact_ofList (cs : List Char) : compact (String.ofList cs) = cs.flatMap compactChar := by
  simp [compact]

/-- A text of capital letters and digits is left alone. -/
theorem flatMap_compactChar {cs : List Char} (h : ∀ c ∈ cs, isReferenceChar c = true) : cs.flatMap compactChar = cs := by
  induction cs with
  | nil => rfl
  | cons c cs ih =>
      rw [List.flatMap_cons, compactChar_self (h c List.mem_cons_self), ih fun d hd => h d (List.mem_cons_of_mem _ hd)]
      rfl

theorem isReferenceChar_of_isDigit {c : Char} (h : c.isDigit = true) : isReferenceChar c = true := by
  simp [isReferenceChar, h]

theorem isReferenceChar_of_mem_alphabet {c : Char} (h : c ∈ REFERENCE_ALPHABET.toList) : isReferenceChar c = true := by
  have hall : REFERENCE_ALPHABET.toList.all isReferenceChar = true := by decide
  exact List.all_eq_true.mp hall c h

theorem compact_text (p : ReferencePrefix) : compact p.text = p.text.toList := by
  cases p <;> decide

theorem compact_dash : compact "-" = [] := by decide

/-! ### Reading a compact text -/

section Reading

variable {p : ReferencePrefix} {body year digits cs : List Char}

theorem find_prefix (p : ReferencePrefix) (body : List Char) :
    (REFERENCE_PREFIXES.find? fun q => q.text.toList.isPrefixOf (p.text.toList ++ body)) = some p := by
  cases p <;> rfl

theorem normalizeCompact_random (hp : p.kind ≠ .sequential) (hbody : isRandomBody body = true) :
    normalizeCompact (p.text.toList ++ body) = .ok (some (randomReference p body)) := by
  simp only [normalizeCompact, find_prefix, List.drop_left, if_neg hp, hbody, if_true]

theorem normalizeCompact_sequential (hp : p.kind = .sequential) (hbody : sequentialBody body = some (year, digits))
    (hvalue : 1 ≤ number digits) : normalizeCompact (p.text.toList ++ body) =
      some <$> formatSequentialReference p (number year) (number digits) := by
  simp only [normalizeCompact, find_prefix, List.drop_left, if_pos hp, hbody, if_neg (not_lt.mpr hvalue)]

theorem normalizeCompact_cases (cs : List Char) : normalizeCompact cs = .ok none ∨
    (∃ (p : ReferencePrefix) (body : List Char), cs = p.text.toList ++ body ∧ p.kind ≠ .sequential ∧ isRandomBody body = true) ∨
    ∃ (p : ReferencePrefix) (body year digits : List Char), cs = p.text.toList ++ body ∧ p.kind = .sequential ∧
      sequentialBody body = some (year, digits) ∧ 1 ≤ number digits := by
  cases hfind : REFERENCE_PREFIXES.find? fun q => q.text.toList.isPrefixOf cs with
  | none => exact .inl (by simp only [normalizeCompact, hfind])
  | some p =>
      have hstart := List.find?_some hfind
      obtain ⟨body, rfl⟩ := List.isPrefixOf_iff_prefix.mp hstart
      by_cases hp : p.kind = .sequential
      · cases hbody : sequentialBody body with
        | none => exact .inl (by simp only [normalizeCompact, find_prefix, List.drop_left, if_pos hp, hbody])
        | some parts =>
            obtain ⟨year, digits⟩ := parts
            by_cases hvalue : number digits < 1
            · exact .inl (by simp only [normalizeCompact, find_prefix, List.drop_left, if_pos hp, hbody, if_pos hvalue])
            · exact .inr (.inr ⟨p, body, year, digits, rfl, hp, hbody, not_lt.mp hvalue⟩)
      · by_cases hbody : isRandomBody body = true
        · exact .inr (.inl ⟨p, body, rfl, hp, hbody⟩)
        · exact .inl (by simp only [normalizeCompact, find_prefix, List.drop_left, if_neg hp, if_neg hbody])

/-- What a numbered body looks like. -/
theorem sequentialBody_eq_some : sequentialBody body = some (year, digits) ↔ ∃ c d, year = ['2', '0', c, d] ∧
    body = year ++ digits ∧ c.isDigit = true ∧ d.isDigit = true ∧ (∀ x ∈ digits, x.isDigit = true) ∧
    1 ≤ digits.length ∧ digits.length ≤ 7 := by
  constructor
  · intro h
    unfold sequentialBody at h
    split at h
    · split at h
      · rename_i c d rest hshape
        obtain ⟨hc, hd, hdigits, hlength⟩ := hshape
        obtain ⟨rfl, rfl⟩ := Prod.mk.inj (Option.some.inj h)
        exact ⟨c, d, rfl, rfl, hc, hd, List.all_eq_true.mp hdigits, hlength⟩
      · cases h
    · cases h
  · rintro ⟨c, d, rfl, rfl, hc, hd, hdigits, hlength⟩
    simp only [List.cons_append, List.nil_append, sequentialBody]
    rw [if_pos ⟨hc, hd, List.all_eq_true.mpr hdigits, hlength⟩]

end Reading

/-! ### Numbers and their digits -/

theorem ofDigitChars_lt {digits : List Char} (h : ∀ c ∈ digits, c.isDigit = true) (start : Nat) :
    Nat.ofDigitChars 10 digits start < (start + 1) * 10 ^ digits.length := by
  induction digits generalizing start with
  | nil => simp
  | cons c digits ih =>
      have hc : c.toNat - 48 < 10 := by
        have hdigit := h c List.mem_cons_self
        simp only [Char.isDigit, Bool.and_eq_true, decide_eq_true_eq] at hdigit
        have hle : c.val.toNat ≤ 57 := UInt32.le_iff_toNat_le.mp hdigit.2
        show c.val.toNat - 48 < 10
        omega
      have hrest := ih (fun x hx => h x (List.mem_cons_of_mem _ hx)) (10 * start + (c.toNat - 48))
      rw [Nat.ofDigitChars_cons, List.length_cons]
      show Nat.ofDigitChars 10 digits (10 * start + (c.toNat - 48)) < _
      calc Nat.ofDigitChars 10 digits (10 * start + (c.toNat - 48))
          < (10 * start + (c.toNat - 48) + 1) * 10 ^ digits.length := hrest
        _ ≤ (10 * (start + 1)) * 10 ^ digits.length := Nat.mul_le_mul_right _ (by omega)
        _ = (start + 1) * 10 ^ (digits.length + 1) := by ring

/-- Seven digits are worth less than ten million. -/
theorem number_lt {digits : List Char} (h : ∀ c ∈ digits, c.isDigit = true) (hlength : digits.length ≤ 7) :
    number digits < 10000000 := by
  have hlt := ofDigitChars_lt h 0
  have hpow : 10 ^ digits.length ≤ 10 ^ 7 := Nat.pow_le_pow_right (by decide) hlength
  unfold number
  omega

theorem number_padNumber (width n : Nat) : number (padNumber width n).toList = n := padNumber_value width n

/-- A value of seven digits, padded to five, is still no longer than seven. -/
theorem length_padNumber_le {n : Nat} : (padNumber 5 n).toList.length ≤ 7 ↔ n < 10000000 := by
  have hdigits : (Nat.toDigits 10 n).length ≤ 7 ↔ n < 10 ^ 7 := Nat.length_toDigits_le_iff (by decide) (by decide)
  rw [padNumber_toList, List.length_append, List.length_replicate]
  constructor
  · intro h
    have hlt := hdigits.mp (by omega)
    simpa using hlt
  · intro h
    have hle := hdigits.mpr (by simpa using h)
    omega

theorem one_le_length_padNumber (n : Nat) : 1 ≤ (padNumber 5 n).toList.length := by
  have hpos : 0 < (Nat.toDigits 10 n).length := Nat.length_toDigits_pos
  rw [padNumber_toList, List.length_append]
  omega

theorem year_digits {y : Nat} (h : 2020 ≤ y) (h' : y ≤ 2099) : ∃ c d, (toString y).toList = ['2', '0', c, d] ∧
    c.isDigit = true ∧ d.isDigit = true := by
  have hall : ∀ n < 100, (Nat.toDigits 10 (2000 + n)).take 2 = ['2', '0'] ∧ (Nat.toDigits 10 (2000 + n)).length = 4 := by
    decide +kernel
  have hdigit : ∀ c ∈ Nat.toDigits 10 y, c.isDigit = true := fun c hc =>
    Nat.isDigit_of_mem_toDigits (by decide) (by decide) hc
  obtain ⟨htake, hlength⟩ := hall (y - 2000) (by omega)
  rw [Nat.add_sub_cancel' (by omega : 2000 ≤ y)] at htake hlength
  rw [toString_toList]
  generalize Nat.toDigits 10 y = digits at htake hlength hdigit ⊢
  match digits, hlength with
  | [a, b, c, d], _ =>
      obtain ⟨rfl, rfl, -⟩ : a = '2' ∧ b = '0' ∧ True := by simpa using htake
      exact ⟨c, d, rfl, hdigit c (by simp), hdigit d (by simp)⟩

theorem number_year_bounds {c d : Char} (hc : c.isDigit = true) (hd : d.isDigit = true) :
    2000 ≤ number ['2', '0', c, d] ∧ number ['2', '0', c, d] ≤ 2099 := by
  have hdigits : ∀ x ∈ [c, d], x.isDigit = true := by simp [hc, hd]
  have hlt := ofDigitChars_lt hdigits 20
  have hsplit : number ['2', '0', c, d] = Nat.ofDigitChars 10 [c, d] 20 := rfl
  rw [hsplit]
  simp only [Nat.ofDigitChars_cons, Nat.ofDigitChars_nil, List.length_cons, List.length_nil] at hlt ⊢
  omega

/-! ### What is written -/

/-- The text of a legal number. -/
def sequentialText (p : ReferencePrefix) (year value : Nat) : String :=
  p.text ++ "-" ++ toString year ++ "-" ++ padNumber 5 value

section Written

variable {p : ReferencePrefix} {body : List Char} {year value : Nat}

theorem formatSequentialReference_eq (hp : p.kind = .sequential) (hyear : 2020 ≤ year ∧ year ≤ 2099)
    (hvalue : 1 ≤ value) : formatSequentialReference p year value = .ok (sequentialText p year value) := by
  have hinside : ¬((year : Int) < 2020 ∨ 2099 < (year : Int)) := by omega
  rw [formatSequentialReference, if_pos hp, Settlement.formatSequentialReference, if_neg hinside,
    if_neg (not_lt.mpr hvalue)]
  rfl

theorem formatSequentialReference_early (hp : p.kind = .sequential) (hyear : year < 2020) :
    formatSequentialReference p year value =
      .error (.error ("reference_series_year_invalid: " ++ toString (year : Int))) := by
  have houtside : (year : Int) < 2020 ∨ 2099 < (year : Int) := by omega
  rw [formatSequentialReference, if_pos hp, Settlement.formatSequentialReference, if_pos houtside]

theorem compact_randomReference (hbody : isRandomBody body = true) :
    compact (randomReference p body) = p.text.toList ++ body := by
  have hall : ∀ c ∈ body, isReferenceChar c = true := by
    intro c hc
    rw [isRandomBody, Bool.and_eq_true, List.all_eq_true] at hbody
    exact isReferenceChar_of_mem_alphabet (of_decide_eq_true (hbody.2 c hc))
  have htake : (body.take RANDOM_GROUP).flatMap compactChar = body.take RANDOM_GROUP :=
    flatMap_compactChar fun c hc => hall c (List.mem_of_mem_take hc)
  have hdrop : (body.drop RANDOM_GROUP).flatMap compactChar = body.drop RANDOM_GROUP :=
    flatMap_compactChar fun c hc => hall c (List.mem_of_mem_drop hc)
  simp only [randomReference, compact_append, compact_text, compact_dash, compact_ofList, htake, hdrop,
    List.append_nil, List.append_assoc, List.take_append_drop]

theorem compact_sequentialText : compact (sequentialText p year value) =
    p.text.toList ++ ((toString year).toList ++ (padNumber 5 value).toList) := by
  have hyear : compact (toString year) = (toString year).toList := by
    apply flatMap_compactChar
    intro c hc
    rw [toString_toList] at hc
    exact isReferenceChar_of_isDigit (Nat.isDigit_of_mem_toDigits (by decide) (by decide) hc)
  have hvalue : compact (padNumber 5 value) = (padNumber 5 value).toList := by
    apply flatMap_compactChar
    intro c hc
    exact isReferenceChar_of_isDigit (isDigit_of_mem_padNumber hc)
  simp only [sequentialText, compact_append, compact_text, compact_dash, hyear, hvalue, List.append_nil,
    List.append_assoc]

/-- A drawn reference reads as itself. -/
theorem normalizeReference_randomReference (hp : p.kind ≠ .sequential) (hbody : isRandomBody body = true) :
    normalizeReference (randomReference p body) = .ok (some (randomReference p body)) := by
  rw [normalizeReference_eq, compact_randomReference hbody, normalizeCompact_random hp hbody]

theorem generateReference_canonical {reference : String} (hbody : isRandomBody body = true)
    (h : generateReference p body = .ok reference) : isCanonicalReference reference = .ok true := by
  unfold generateReference at h
  split at h
  · rename_i hp
    obtain rfl := Except.ok.inj h
    have hkind : p.kind ≠ .sequential := by simp [hp]
    exact isCanonicalReference_of_normalized (normalizeReference_randomReference hkind hbody)
  · cases h

/-- A legal number of seven digits reads as itself. -/
theorem normalizeReference_sequentialText (hp : p.kind = .sequential) (hyear : 2020 ≤ year ∧ year ≤ 2099)
    (hvalue : 1 ≤ value) (hshort : value < 10000000) :
    normalizeReference (sequentialText p year value) = .ok (some (sequentialText p year value)) := by
  obtain ⟨c, d, htext, hc, hd⟩ := year_digits hyear.1 hyear.2
  have hbody : sequentialBody ((toString year).toList ++ (padNumber 5 value).toList) =
      some ((toString year).toList, (padNumber 5 value).toList) :=
    sequentialBody_eq_some.mpr ⟨c, d, htext, rfl, hc, hd, fun x hx => isDigit_of_mem_padNumber hx,
      one_le_length_padNumber value, length_padNumber_le.mpr hshort⟩
  have hnumber : number (toString year).toList = year := by
    rw [number, toString_toList, Nat.ofDigitChars_ten_toDigits]
  rw [normalizeReference_eq, compact_sequentialText,
    normalizeCompact_sequential hp hbody (by rw [number_padNumber]; exact hvalue), hnumber, number_padNumber,
    formatSequentialReference_eq hp hyear hvalue]
  rfl

/-- A longer one reads as nothing. -/
theorem normalizeReference_long (hp : p.kind = .sequential) (hyear : 2020 ≤ year ∧ year ≤ 2099)
    (hlong : 10000000 ≤ value) : normalizeReference (sequentialText p year value) = .ok none := by
  obtain ⟨c, d, htext, hc, hd⟩ := year_digits hyear.1 hyear.2
  have hbody : sequentialBody ((toString year).toList ++ (padNumber 5 value).toList) = none := by
    rw [htext]
    simp only [List.cons_append, List.nil_append, sequentialBody]
    rw [if_neg]
    rintro ⟨-, -, -, -, hlength⟩
    exact absurd (length_padNumber_le.mp hlength) (not_lt.mpr hlong)
  rw [normalizeReference_eq, compact_sequentialText]
  simp only [normalizeCompact, find_prefix, List.drop_left, if_pos hp, hbody]

/-- What was formatted is the text of a legal number of this century. -/
theorem formatSequentialReference_eq_ok {seriesYear : Int} {reference : String}
    (h : formatSequentialReference p seriesYear value = .ok reference) : p.kind = .sequential ∧ 1 ≤ value ∧
      ∃ year : Nat, seriesYear = year ∧ 2020 ≤ year ∧ year ≤ 2099 ∧ reference = sequentialText p year value := by
  unfold formatSequentialReference Settlement.formatSequentialReference at h
  split at h
  · rename_i hp
    split at h
    · cases h
    · split at h
      · cases h
      · rename_i hinside hvalue
        obtain ⟨year, rfl⟩ := Int.eq_ofNat_of_zero_le (by omega : 0 ≤ seriesYear)
        refine ⟨hp, by omega, year, rfl, by omega, by omega, ?_⟩
        exact (Except.ok.inj h).symm
  · cases h

theorem length_text (p : ReferencePrefix) : p.text.toList.length = 2 := by
  cases p <;> rfl

theorem text_injective {p q : ReferencePrefix} (h : p.text.toList = q.text.toList) : p = q := by
  cases p <;> cases q <;> first | rfl | cases h

/-- **Distinct prefixes, years and values give distinct numbers.** -/
theorem formatSequentialReference_injective {p q : ReferencePrefix} {seriesYear seriesYear' : Int} {value value' : Nat}
    {reference : String} (h : formatSequentialReference p seriesYear value = .ok reference)
    (h' : formatSequentialReference q seriesYear' value' = .ok reference) :
    p = q ∧ seriesYear = seriesYear' ∧ value = value' := by
  obtain ⟨-, -, year, rfl, hlow, hhigh, rfl⟩ := formatSequentialReference_eq_ok h
  obtain ⟨-, -, year', rfl, hlow', hhigh', htext⟩ := formatSequentialReference_eq_ok h'
  have hcompact := congrArg compact htext
  rw [compact_sequentialText, compact_sequentialText] at hcompact
  obtain ⟨hcode, hrest⟩ := List.append_inj hcompact (by rw [length_text, length_text])
  obtain ⟨c, d, hyear, -, -⟩ := year_digits hlow hhigh
  obtain ⟨c', d', hyear', -, -⟩ := year_digits hlow' hhigh'
  obtain ⟨hsame, hvalue⟩ := List.append_inj hrest (by rw [hyear, hyear']; rfl)
  refine ⟨text_injective hcode, ?_, padNumber_injective (String.toList_injective hvalue)⟩
  rw [toString_toList, toString_toList] at hsame
  have hdigits := congrArg (fun digits => Nat.ofDigitChars 10 digits 0) hsame
  simp only [Nat.ofDigitChars_ten_toDigits] at hdigits
  rw [hdigits]

end Written

/-! ### Case and separators -/

/-- Two spellings: letters in either case, with separators left out or put in. A separator is any character that the
compact text leaves nothing of. -/
inductive Respelled : List Char → List Char → Prop
  | nil : Respelled [] []
  | letter {c d : Char} {s t : List Char} (hcase : c.toLower = d.toLower) (h : Respelled s t) :
      Respelled (c :: s) (d :: t)
  | leaveOut {c : Char} {s t : List Char} (hseparator : compactChar c = []) (h : Respelled s t) : Respelled (c :: s) t
  | putIn {c : Char} {s t : List Char} (hseparator : compactChar c = []) (h : Respelled s t) : Respelled s (c :: t)

/-- A letter has one upper case, and no other character has two cases. -/
theorem eq_or_toUpper_of_toLower {c d : Char} (h : c.toLower = d.toLower) :
    c = d ∨ c.toUpper = d.toUpper ∧ isReferenceChar c.toUpper = true := by
  have hupper : c.toUpper = d.toUpper := by
    rw [← Char.toUpper_toLower_eq_toUpper c, h, Char.toUpper_toLower_eq_toUpper]
  have halpha : c.isAlpha = d.isAlpha := by
    rw [← Char.isAlpha_toLower_eq_isAlpha c, h, Char.isAlpha_toLower_eq_isAlpha]
  cases hletter : c.isAlpha with
  | true =>
      have hcapital : c.toUpper.isUpper = true := by rw [Char.isUpper_toUpper_eq_isAlpha, hletter]
      refine .inr ⟨hupper, ?_⟩
      obtain ⟨hlow, hhigh⟩ := of_decide_eq_true hcapital
      rw [isReferenceChar, Bool.or_eq_true, Bool.and_eq_true]
      exact .inl ⟨decide_eq_true hlow, decide_eq_true hhigh⟩
  | false =>
      have hkept (x : Char) (hx : x.isAlpha = false) : x.toLower = x := by
        apply Char.toLower_eq_of_not_isUpper
        intro hcapital
        rw [Char.isAlpha, hcapital, Bool.true_or] at hx
        cases hx
      refine .inl ?_
      rw [← hkept c hletter, h, hkept d (halpha ▸ hletter)]

/-- The compact text looks neither at case nor at separators. -/
theorem Respelled.compact {s t : List Char} (h : Respelled s t) : s.flatMap compactChar = t.flatMap compactChar := by
  induction h with
  | nil => rfl
  | @letter c d s t hcase _ ih =>
      have hsame : compactChar c = compactChar d := by
        rcases eq_or_toUpper_of_toLower hcase with rfl | ⟨hupper, hletter⟩
        · rfl
        · rw [compactChar, compactChar, ← hupper, if_pos hletter, if_pos hletter]
      rw [List.flatMap_cons, List.flatMap_cons, hsame, ih]
  | leaveOut hseparator _ ih => rw [List.flatMap_cons, hseparator, List.nil_append, ih]
  | putIn hseparator _ ih => rw [List.flatMap_cons, hseparator, List.nil_append, ih]

theorem normalizeReference_respelled {input input' : String} (h : Respelled input.toList input'.toList) :
    normalizeReference input' = normalizeReference input := by
  rw [normalizeReference_eq, normalizeReference_eq, References.compact, References.compact, h.compact]

/-! ### Any text -/

/-- In compact form the text is a legal number of a year before the first one. -/
def EarlyNumber (input : String) : Prop :=
  ∃ (p : ReferencePrefix) (year digits : List Char), p.kind = .sequential ∧
    compact input = p.text.toList ++ (year ++ digits) ∧ sequentialBody (year ++ digits) = some (year, digits) ∧
    number year < 2020 ∧ 1 ≤ number digits

/-- Such a number makes it throw. -/
theorem normalizeReference_early {input : String} (h : EarlyNumber input) :
    ∃ e, normalizeReference input = .error e := by
  obtain ⟨p, year, digits, hp, hcompact, hbody, hyear, hvalue⟩ := h
  rw [normalizeReference_eq, hcompact, normalizeCompact_sequential hp hbody hvalue,
    formatSequentialReference_early hp hyear]
  exact ⟨_, rfl⟩

/-- Any other text is nothing, or the spelling of a reference that reads as itself. -/
theorem normalizeReference_total {input : String} (h : ¬EarlyNumber input) : normalizeReference input = .ok none ∨
    ∃ reference, normalizeReference input = .ok (some reference) ∧
      normalizeReference reference = .ok (some reference) := by
  rw [normalizeReference_eq]
  rcases normalizeCompact_cases (compact input) with hnone | ⟨p, body, hcompact, hp, hbody⟩ |
    ⟨p, body, year, digits, hcompact, hp, hbody, hvalue⟩
  · exact .inl hnone
  · rw [hcompact, normalizeCompact_random hp hbody]
    exact .inr ⟨_, rfl, normalizeReference_randomReference hp hbody⟩
  · obtain ⟨c, d, rfl, rfl, hc, hd, hdigits, -, hlength⟩ := sequentialBody_eq_some.mp hbody
    have hlate : 2020 ≤ number ['2', '0', c, d] := by
      by_contra hearly
      exact h ⟨p, _, digits, hp, hcompact, hbody, not_le.mp hearly, hvalue⟩
    have hyear : 2020 ≤ number ['2', '0', c, d] ∧ number ['2', '0', c, d] ≤ 2099 :=
      ⟨hlate, (number_year_bounds hc hd).2⟩
    rw [hcompact, normalizeCompact_sequential hp hbody hvalue, formatSequentialReference_eq hp hyear hvalue]
    exact .inr ⟨_, rfl, normalizeReference_sequentialText hp hyear hvalue (number_lt hdigits hlength)⟩

/-- What the normalizer promises of a text: it answers nothing or a canonical reference that it answers again, whatever
the case and the separators. -/
structure Normalizes (input : String) : Prop where
  total : ∃ result, normalizeReference input = .ok result ∧ ∀ reference, result = some reference →
    isCanonicalReference reference = .ok true ∧ normalizeReference reference = .ok (some reference)
  respelled : ∀ input', Respelled input.toList input'.toList → normalizeReference input' = normalizeReference input

/-- **The normalizer is total and a projection**, but for the legal numbers of early years. -/
theorem normalizes_iff (input : String) : Normalizes input ↔ ¬EarlyNumber input := by
  constructor
  · intro h hearly
    obtain ⟨result, hresult, -⟩ := h.total
    obtain ⟨e, he⟩ := normalizeReference_early hearly
    rw [hresult] at he
    cases he
  · intro h
    refine ⟨?_, fun input' hrespelled => normalizeReference_respelled hrespelled⟩
    rcases normalizeReference_total h with hnone | ⟨reference, hsome, hagain⟩
    · exact ⟨none, hnone, nofun⟩
    · refine ⟨some reference, hsome, fun reference' hsame => ?_⟩
      obtain rfl := Option.some.inj hsame
      exact ⟨isCanonicalReference_of_normalized hagain, hagain⟩

/-- A number of 2015 throws. -/
theorem not_normalizes : ¬Normalizes "QC-2015-00001" := by
  intro h
  obtain ⟨result, hresult, -⟩ := h.total
  have hthrown : normalizeReference "QC-2015-00001" = .error (.error "reference_series_year_invalid: 2015") := by
    decide +kernel
  rw [hthrown] at hresult
  cases hresult

/-! ### Legal numbers -/

/-- A legal number that is formatted is canonical and reads as itself in every spelling, and no other number has its
text. -/
def RoundTrips (p : ReferencePrefix) (seriesYear : Int) (value : Nat) : Prop :=
  ∃ reference, formatSequentialReference p seriesYear value = .ok reference ∧
    isCanonicalReference reference = .ok true ∧
    (∀ input : String, Respelled reference.toList input.toList → normalizeReference input = .ok (some reference)) ∧
    ∀ q seriesYear' value', formatSequentialReference q seriesYear' value' = .ok reference →
      q = p ∧ seriesYear' = seriesYear ∧ value' = value

/-- **Legal numbers round-trip** up to seven digits, and no further. -/
theorem sequential_roundTrips_iff {p : ReferencePrefix} {seriesYear : Int} {value : Nat} (hp : p.kind = .sequential)
    (hyear : 2020 ≤ seriesYear ∧ seriesYear ≤ 2099) (hvalue : 1 ≤ value) :
    RoundTrips p seriesYear value ↔ value < 10000000 := by
  obtain ⟨year, rfl⟩ := Int.eq_ofNat_of_zero_le (by omega : 0 ≤ seriesYear)
  have hyear' : 2020 ≤ year ∧ year ≤ 2099 := by omega
  have hformat := formatSequentialReference_eq hp hyear' hvalue
  constructor
  · rintro ⟨reference, hreference, hcanonical, -⟩
    obtain rfl := Except.ok.inj (hformat.symm.trans hreference)
    by_contra hlong
    rw [isCanonicalReference, normalizeReference_long hp hyear' (not_lt.mp hlong)] at hcanonical
    cases hcanonical
  · intro hshort
    have hself := normalizeReference_sequentialText hp hyear' hvalue hshort
    refine ⟨_, hformat, isCanonicalReference_of_normalized hself, fun input hrespelled => ?_, fun q y v hsame => ?_⟩
    · rw [normalizeReference_respelled hrespelled, hself]
    · exact formatSequentialReference_injective hsame hformat

/-- The seventh invoice of 2026. -/
theorem sequential_roundTrips_seventh : RoundTrips .QC 2026 7 :=
  (sequential_roundTrips_iff rfl (by decide) (by decide)).mpr (by decide)

/-- The ten millionth is written, and not read. -/
theorem sequential_not_roundTrips : ¬RoundTrips .QC 2026 10000000 := by
  rintro ⟨reference, hreference, hcanonical, -⟩
  have hwritten : formatSequentialReference .QC 2026 10000000 = .ok "QC-2026-10000000" := by decide +kernel
  obtain rfl := Except.ok.inj (hwritten.symm.trans hreference)
  have hunread : isCanonicalReference "QC-2026-10000000" = .ok false := by decide +kernel
  rw [hunread] at hcanonical
  cases hcanonical

end Qift.References
