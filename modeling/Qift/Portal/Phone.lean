import Qift.Runtime

/-!
# Phone numbers

`phone-normalize.ts`: every phone text is brought to its E.164 form before it is stored or compared.

* `normalizePhoneIn` with the country of `opts`, `normalizePhone` without.
* `validateMobile` — whether an E.164 number is one of a mobile; `isMobile` on a normalised number.
-/

namespace Qift.Portal

def isDigit (c : Char) : Bool := 48 ≤ c.toNat && c.toNat ≤ 57

/-- The dial code, the first digits and the length of a local mobile number. -/
structure Country where
  dial : List Char
  mobileFirst : List Char
  mobileLength : Nat
  deriving DecidableEq

def SA : Country := ⟨['9', '6', '6'], ['5'], 9⟩
def AE : Country := ⟨['9', '7', '1'], ['5'], 9⟩
def KW : Country := ⟨['9', '6', '5'], ['5', '6', '9'], 8⟩
def QA : Country := ⟨['9', '7', '4'], ['3', '5', '6', '7'], 8⟩
def BH : Country := ⟨['9', '7', '3'], ['3', '6'], 8⟩
def OM : Country := ⟨['9', '6', '8'], ['7', '9'], 8⟩

def SUPPORTED_COUNTRIES : List Country := [SA, AE, KW, QA, BH, OM]

/-- The pattern of a local mobile number. -/
def Country.mobileLocal (c : Country) (digits : List Char) : Bool :=
  digits.length = c.mobileLength && digits.all isDigit && (digits.head?.any fun d => d ∈ c.mobileFirst)

/-- `E164_REGEX`: a plus, a digit that is not zero and 7 to 14 more digits. -/
def isE164 : List Char → Bool
  | '+' :: first :: rest =>
      isDigit first && first ≠ '0' && rest.all isDigit && 7 ≤ rest.length && rest.length ≤ 14
  | _ => false

def checked (candidate : List Char) : Option String :=
  if isE164 candidate then some (String.ofList candidate) else none

/-! ### Normalisation -/

/-- The digits and pluses of a text. -/
def kept (raw : String) : List Char := raw.toList.filter fun c => isDigit c || c = '+'

/-- One plus, in front, for any number of them. -/
def collapsePlus (s : List Char) : List Char := if '+' ∈ s then '+' :: s.filter (· ≠ '+') else s

/-- Two leading zeros are a plus. -/
def doubleZero (s : List Char) : List Char := if ['0', '0'].isPrefixOf s then '+' :: s.drop 2 else s

/-- A zero right after a known dial code is dropped. -/
def stripRogueZero (s : List Char) : List Char :=
  match SUPPORTED_COUNTRIES.find? fun c => ('+' :: c.dial ++ ['0']).isPrefixOf s with
  | some c => '+' :: c.dial ++ s.drop (c.dial.length + 2)
  | none => s

/-- Without a plus: a number that begins with a known dial code, or a local one. -/
def withoutPlus (defaultCountry : Country) (s : List Char) : Option String :=
  match SUPPORTED_COUNTRIES.find? fun c => c.dial.isPrefixOf s with
  | some c => checked ('+' :: c.dial ++ (s.drop c.dial.length).dropWhile (· = '0'))
  | none =>
      let localDigits := s.dropWhile (· = '0')
      if localDigits = [] then none else checked ('+' :: defaultCountry.dial ++ localDigits)

def normalizePhoneIn (defaultCountry : Country) (raw : String) : Option String :=
  let s := collapsePlus (kept raw)
  if s = [] then none
  else
    let s := doubleZero s
    if ['+'].isPrefixOf s then checked (stripRogueZero s) else withoutPlus defaultCountry s

def normalizePhone (raw : String) : Option String := normalizePhoneIn SA raw

example : normalizePhone "050 123-4567" = some "+966501234567" := by decide +kernel

/-! ### Validation -/

inductive PhoneError
  | phone_invalid | phone_not_mobile

/-- The country of a number, by its dial code. -/
def detectCountry (e164 : String) : Option Country :=
  SUPPORTED_COUNTRIES.find? fun c => ('+' :: c.dial).isPrefixOf e164.toList

def validateMobile (e164 : Option String) (country : Option Country) : Option PhoneError :=
  match e164.filter fun s => isE164 s.toList with
  | none => some .phone_invalid
  | some s =>
      match country.or (detectCountry s) with
      -- no rule for the mobiles of other countries
      | none => none
      | some c => if c.mobileLocal (s.toList.drop (c.dial.length + 1)) then none else some .phone_not_mobile

/-- `validateMobile(e164) === null` for a normalised number: known countries have mobile shapes. -/
def isMobile (e164 : String) : Bool :=
  match detectCountry e164 with
  | none => true
  | some c => c.mobileLocal (e164.toList.drop (c.dial.length + 1))

theorem isE164_of_checked {s : List Char} {r : String} (h : checked s = some r) :
    isE164 s = true ∧ r = String.ofList s := by
  unfold checked at h
  split at h
  next hs => exact ⟨hs, (Option.some.inj h).symm⟩
  next => cases h

theorem isE164_of_normalized {c : Country} {raw r : String} (h : normalizePhoneIn c raw = some r) :
    isE164 r.toList = true := by
  have hall : ∀ s, checked s = some r → isE164 r.toList = true := by
    intro s hs
    obtain ⟨he, rfl⟩ := isE164_of_checked hs
    rwa [String.toList_ofList]
  unfold normalizePhoneIn at h
  dsimp only at h
  split at h
  · cases h
  split at h
  · exact hall _ h
  unfold withoutPlus at h
  dsimp only at h
  split at h
  · exact hall _ h
  split at h
  · cases h
  · exact hall _ h

theorem validateMobile_normalized {e164 : String} (h : isE164 e164.toList = true) :
    validateMobile (some e164) none = none ↔ isMobile e164 = true := by
  unfold validateMobile isMobile
  rw [Option.filter_some, if_pos h]
  simp only [Option.none_or]
  cases detectCountry e164 with
  | none => simp
  | some c => by_cases hlocal : c.mobileLocal (e164.toList.drop (c.dial.length + 1)) = true <;> simp [hlocal]

end Qift.Portal
