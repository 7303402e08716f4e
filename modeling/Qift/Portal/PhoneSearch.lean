import Qift.Portal.Spellings

/-!
# Search by phone number

`users.service.ts` reads a searched number on its own, apart from the normalisation that the stored one went through.

* `resolvePhoneE164` — the number looked up for a typed text and the dial code beside it.
* `complete_of_mobile` — every accepted mobile number passes its table of lengths.
* **`resolvePhoneE164_agrees`** — the number looked up is the stored one, unless the text begins with a plus after white
  space, or with a plus, a dial code and a zero; numbers of known countries are looked up complete only.
-/

namespace Qift.Portal

/-- `COUNTRY_LOCAL_LENGTHS`: how many digits follow each dial code, by ascending keys. -/
def COUNTRY_LOCAL_LENGTHS : List (List Char × Nat) :=
  [(['9', '6', '5'], 8), (['9', '6', '6'], 9), (['9', '6', '8'], 8), (['9', '7', '1'], 9), (['9', '7', '3'], 8),
    (['9', '7', '4'], 8)]

/-- The envelope of the search: a plus, a digit that is not zero and 6 to 14 more digits. -/
def isLooseE164 : List Char → Bool
  | '+' :: first :: rest =>
      isDigit first && first ≠ '0' && rest.all isDigit && 6 ≤ rest.length && rest.length ≤ 14
  | _ => false

/-- `SA_MOBILE_PREFIX` -/
def isSaudiMobile (s : List Char) : Bool :=
  ['+', '9', '6', '6', '5'].isPrefixOf s && (s.drop 5).all isDigit && (s.drop 5).length = 8

/-- The candidate if it is a complete number. -/
def complete (candidate : List Char) : Option String :=
  if !isLooseE164 candidate then none
  else
    let digits := candidate.drop 1
    match COUNTRY_LOCAL_LENGTHS.find? fun entry => entry.1.isPrefixOf digits with
    | some (dialCode, expectedLocal) =>
        if digits.length - dialCode.length ≠ expectedLocal then none
        else if dialCode = ['9', '6', '6'] && !isSaudiMobile candidate then none
        else some (String.ofList candidate)
    | none => if digits.length < 7 || 15 < digits.length then none else some (String.ofList candidate)

def resolvePhoneE164 (q : String) (dial : Option String) : Option String :=
  let term := (trim q).toList
  let dialTrim := (trim (dial.getD "")).toList
  if ['+'].isPrefixOf term then complete ('+' :: (term.drop 1).filter isDigit)
  else if dialTrim ≠ [] then
    let dialWithPlus := if ['+'].isPrefixOf dialTrim then dialTrim else '+' :: dialTrim
    let localDigits := (term.filter isDigit).dropWhile (· = '0')
    if localDigits = [] then none else complete (dialWithPlus ++ localDigits)
  else none

example : resolvePhoneE164 "050 123-4567" (some "+966") = some "+966501234567" := by decide +kernel

/-! ### Tables -/

theorem localLengths_spec : ∀ c ∈ SUPPORTED_COUNTRIES, (c.dial, c.mobileLength) ∈ COUNTRY_LOCAL_LENGTHS := by decide

theorem localLengths_supported :
    ∀ entry ∈ COUNTRY_LOCAL_LENGTHS, ∃ c ∈ SUPPORTED_COUNTRIES, entry = (c.dial, c.mobileLength) := by decide

theorem saudi_spec : ∀ c ∈ SUPPORTED_COUNTRIES, c.dial = ['9', '6', '6'] → c = SA := by decide

variable {c : Country} {l ds : List Char} {q n : String}

theorem find_localLength (hc : c ∈ SUPPORTED_COUNTRIES) (rest : List Char) :
    COUNTRY_LOCAL_LENGTHS.find? (fun entry => entry.1.isPrefixOf (c.dial ++ rest)) = some (c.dial, c.mobileLength) := by
  apply find_unique (localLengths_spec c hc)
  intro entry hentry
  obtain ⟨c', hc', rfl⟩ := localLengths_supported entry hentry
  rw [List.isPrefixOf_iff_prefix]
  constructor
  · intro h
    rw [dial_unique hc' hc h]
  · intro h
    rw [(Prod.mk.inj h).1]
    exact List.prefix_append _ _

theorem find_localLength_none (h : ∀ c ∈ SUPPORTED_COUNTRIES, ¬ c.dial <+: ds) :
    COUNTRY_LOCAL_LENGTHS.find? (fun entry => entry.1.isPrefixOf ds) = none := by
  rw [List.find?_eq_none]
  intro entry hentry
  obtain ⟨c, hc, rfl⟩ := localLengths_supported entry hentry
  rw [List.isPrefixOf_iff_prefix]
  exact h c hc

theorem complete_some {s : List Char} (h : complete s = some n) : n = String.ofList s ∧ isLooseE164 s = true := by
  unfold complete at h
  split at h
  · cases h
  next hloose =>
    refine ⟨?_, by simpa using hloose⟩
    dsimp only at h
    split at h
    · split at h
      · cases h
      split at h
      · cases h
      · exact (Option.some.inj h).symm
    · split at h
      · cases h
      · exact (Option.some.inj h).symm

theorem complete_dialled (hc : c ∈ SUPPORTED_COUNTRIES) (h : complete ('+' :: (c.dial ++ l)) = some n) :
    l.length = c.mobileLength := by
  unfold complete at h
  split at h
  · cases h
  · dsimp only at h
    rw [List.drop_succ_cons, List.drop_zero, find_localLength hc] at h
    by_contra hlength
    dsimp only at h
    rw [if_pos (by rw [List.length_append, Nat.add_sub_cancel_left]; exact hlength)] at h
    cases h

/-! ### Accepted numbers -/

theorem loose_of_isE164 {s : List Char} (h : isE164 s = true) : isLooseE164 s = true := by
  unfold isE164 at h
  split at h
  next first rest =>
    simp only [Bool.and_eq_true, decide_eq_true_eq] at h
    obtain ⟨⟨⟨⟨hfirst, hzero⟩, hrest⟩, hlow⟩, hhigh⟩ := h
    have hlow' : 6 ≤ rest.length := by omega
    simp [isLooseE164, hfirst, hzero, hrest, hlow', hhigh]
  next => cases h

/-- The country that `validateMobile` finds is the one of the dial code. -/
theorem mobileLocal_of_validated (hc : c ∈ SUPPORTED_COUNTRIES)
    (h : validateMobile (some (canonicalPhone c l)) none = none) : c.mobileLocal l = true := by
  have hdetect : detectCountry (canonicalPhone c l) = some c := by
    unfold detectCountry canonicalPhone
    simp only [String.toList_ofList, List.isPrefixOf_cons_cons, beq_self_eq_true, Bool.true_and]
    exact find_dial hc l
  unfold validateMobile at h
  split at h
  · cases h
  next s hs =>
    obtain ⟨rfl, -⟩ : s = canonicalPhone c l ∧ _ := by
      rw [Option.filter_eq_some_iff] at hs
      exact ⟨(Option.some.inj hs.1).symm, hs.2⟩
    rw [Option.none_or, hdetect] at h
    dsimp only at h
    rw [canonicalPhone, String.toList_ofList, List.drop_succ_cons, List.drop_left] at h
    by_contra hlocal
    rw [if_neg hlocal] at h
    cases h

/-- A mobile number of Saudi Arabia passes the rule for its first digit. -/
theorem saudiMobile_of_local (h : SA.mobileLocal l = true) : isSaudiMobile ('+' :: (SA.dial ++ l)) = true := by
  rw [Country.mobileLocal, Bool.and_eq_true, Bool.and_eq_true, decide_eq_true_eq] at h
  obtain ⟨⟨hlength, hdigits⟩, hfirst⟩ := h
  cases l with
  | nil => cases hlength
  | cons d l =>
      have hd : d = '5' := by simpa [SA] using hfirst
      subst hd
      rw [List.all_cons, Bool.and_eq_true] at hdigits
      have hcount : l.length = 8 := Nat.succ.inj hlength
      simp [isSaudiMobile, SA, hdigits.2, hcount]

/-- What `validateMobile` accepts is complete. -/
theorem complete_of_mobile {s : List Char} (hs : isE164 s = true) (h : validateMobile (some (String.ofList s)) none = none) :
    complete s = some (String.ofList s) := by
  unfold complete
  rw [if_neg (by rw [loose_of_isE164 hs]; decide)]
  obtain ⟨ds, rfl, hds⟩ := isE164_spec hs
  dsimp only
  rw [List.drop_succ_cons, List.drop_zero]
  by_cases hdial : Dialled ds
  · obtain ⟨c, hc, l, rfl⟩ := hdial
    have hlocal := mobileLocal_of_validated hc h
    rw [find_localLength hc]
    dsimp only
    rw [if_neg (by rw [List.length_append, Nat.add_sub_cancel_left]; exact not_not_intro (mobileLocal_spec hc hlocal).1)]
    refine if_neg fun hsaudi => ?_
    rw [Bool.and_eq_true, decide_eq_true_eq] at hsaudi
    obtain rfl := saudi_spec c hc hsaudi.1
    rw [saudiMobile_of_local hlocal] at hsaudi
    cases hsaudi.2
  · rw [find_localLength_none fun c hc hprefix => hdial ⟨c, hc, hprefix⟩]
    -- the envelope of the stored numbers is the narrower one
    refine if_neg fun hlength => ?_
    rw [isE164.eq_def] at hs
    split at hs
    next first rest heq =>
      cases heq
      simp only [Bool.and_eq_true, decide_eq_true_eq] at hs
      simp only [List.length_cons, Bool.or_eq_true, decide_eq_true_eq] at hlength
      omega
    next => cases hs

/-! ### What is typed -/

theorem isTrimmed_not_digit {x : Char} (h : isDigit x = true) : isTrimmed x = false := by
  simp only [isDigit, Bool.and_eq_true, decide_eq_true_eq] at h
  unfold isTrimmed
  simp only [Bool.or_eq_false_iff, Bool.and_eq_false_iff, decide_eq_false_iff_not]
  omega

theorem filter_dropWhile {α : Type} {p t : α → Bool} (h : ∀ x, p x = true → t x = false) (s : List α) :
    (s.dropWhile t).filter p = s.filter p := by
  induction s with
  | nil => rfl
  | cons x s ih =>
      by_cases hx : t x = true
      · have hp : ¬ p x = true := fun hp => by rw [h x hp] at hx; cases hx
        rw [List.dropWhile_cons_of_pos hx, ih, List.filter_cons_of_neg hp]
      · rw [List.dropWhile_cons_of_neg hx]

theorem filter_trim {p : Char → Bool} (h : ∀ x, p x = true → isTrimmed x = false) (s : String) :
    (trim s).toList.filter p = s.toList.filter p := by
  rw [trim, String.toList_ofList, List.filter_reverse, filter_dropWhile h, ← List.filter_reverse, List.reverse_reverse,
    filter_dropWhile h]

/-- The digits that are typed. -/
def digitsOf (s : String) : List Char := s.toList.filter isDigit

theorem digits_trim (s : String) : (trim s).toList.filter isDigit = digitsOf s :=
  filter_trim (fun _ h => isTrimmed_not_digit h) s

/-- A text that begins with a plus still does after it is trimmed. -/
theorem trim_plus (h : ['+'] <+: q.toList) : ['+'] <+: (trim q).toList := by
  obtain ⟨t, ht⟩ := h
  rw [trim, String.toList_ofList, ← ht]
  have hkeep : ∀ u : List Char, ['+'] <+: ((u ++ ['+']).dropWhile isTrimmed).reverse := by
    intro u
    induction u with
    | nil => exact ⟨[], rfl⟩
    | cons x u ih =>
        by_cases hx : isTrimmed x = true
        · rw [List.cons_append, List.dropWhile_cons_of_pos hx]
          exact ih
        · rw [List.cons_append, List.dropWhile_cons_of_neg hx, List.reverse_cons, List.reverse_append]
          exact ⟨u.reverse ++ [x], rfl⟩
  rw [List.singleton_append, List.dropWhile_cons_of_neg (by decide), List.reverse_cons]
  exact hkeep _

/-- With a plus anywhere, the digits are a number with its dial code. -/
theorem normalizePhoneIn_of_plus (d : Country) {raw : String} (h : '+' ∈ raw.toList) :
    normalizePhoneIn d raw = checked (stripRogueZero ('+' :: digitsOf raw)) := by
  have hmem : '+' ∈ kept raw := List.mem_filter.mpr ⟨h, by decide⟩
  have hdigits : (kept raw).filter (· ≠ '+') = digitsOf raw := by
    rw [kept, List.filter_filter, digitsOf]
    apply List.filter_congr
    intro x hx
    by_cases hplus : x = '+'
    · subst hplus
      rfl
    · simp [hplus]
  have hcollapse : collapsePlus (kept raw) = '+' :: digitsOf raw := by rw [collapsePlus, if_pos hmem, hdigits]
  unfold normalizePhoneIn
  simp only [hcollapse]
  rfl

def dialText (c : Country) (withPlus : Bool) : String :=
  String.ofList (if withPlus then '+' :: c.dial else c.dial)

/-- The number that is typed: the text itself if it begins with a plus, otherwise the text after the dial code. -/
def typedNumber (q dial : String) : String := if ['+'].isPrefixOf q.toList then q else dial ++ q

theorem digitsOf_dialled (hc : c ∈ SUPPORTED_COUNTRIES) (withPlus : Bool) (q : String) :
    digitsOf (dialText c withPlus ++ q) = c.dial ++ digitsOf q := by
  have hdial : c.dial.filter isDigit = c.dial := List.filter_eq_self.mpr (List.all_eq_true.mp (dial_spec c hc).2.1)
  rw [digitsOf, String.toList_append, List.filter_append, dialText, String.toList_ofList]
  cases withPlus with
  | false => rw [if_neg (by decide), hdial]; rfl
  | true => rw [if_pos rfl, List.filter_cons_of_neg (by decide), hdial]; rfl

theorem trim_dialText (hc : c ∈ SUPPORTED_COUNTRIES) (withPlus : Bool) :
    trim (dialText c withPlus) = dialText c withPlus := by
  revert c withPlus
  decide +kernel

/-- After a dial code: the number of the country with the digits typed, and perhaps the zeros before them. -/
theorem normalizePhoneIn_dialled (hc : c ∈ SUPPORTED_COUNTRIES) (d : Country) (withPlus : Bool)
    (h : normalizePhoneIn d (dialText c withPlus ++ q) = some n) (hvalid : validateMobile (some n) none = none) :
    n = canonicalPhone c ((digitsOf q).dropWhile (· = '0')) := by
  have hdrop {l : List Char} (hlocal : c.mobileLocal l = true) : l.dropWhile (· = '0') = l :=
    dropWhile_zero (mobileLocal_spec hc hlocal).2.2
  by_cases hplus : '+' ∈ (dialText c withPlus ++ q).toList
  · rw [normalizePhoneIn_of_plus d hplus, digitsOf_dialled hc] at h
    rcases stripRogueZero_cases ('+' :: (c.dial ++ digitsOf q)) with ⟨c', hc', rest, heq⟩ | hnone
    · obtain ⟨rfl, t, ht⟩ := (rogueZero_iff hc hc').mp (heq ▸ (rogueZero_iff hc' hc').mpr ⟨rfl, rest, rfl⟩)
      have hrest : '0' :: rest = digitsOf q := List.append_cancel_left (List.cons.inj heq).2.symm
      rw [heq, stripRogueZero_of_rogue hc'] at h
      obtain ⟨-, rfl⟩ := isE164_of_checked h
      have hlocal := mobileLocal_of_validated hc' hvalid
      rw [← hrest, List.dropWhile_cons_of_pos (by decide), hdrop hlocal]
      rfl
    · rw [stripRogueZero_of_not _ hnone] at h
      obtain ⟨-, rfl⟩ := isE164_of_checked h
      rw [hdrop (mobileLocal_of_validated hc hvalid)]
      rfl
  · have hkept : kept (dialText c withPlus ++ q) = c.dial ++ digitsOf q := by
      rw [← digitsOf_dialled hc withPlus q, kept, digitsOf]
      apply List.filter_congr
      intro x hx
      have hx' : x ≠ '+' := fun heq => hplus (heq ▸ hx)
      simp [hx']
    have hno : '+' ∉ c.dial ++ digitsOf q := hkept ▸ fun hmem => hplus (List.mem_of_mem_filter hmem)
    obtain ⟨hthree, -, -, hnine, -⟩ := dial_spec c hc
    rw [normalizePhoneIn_digits d hkept hno, withoutPlus_dialled d hc] at h
    · obtain ⟨-, rfl⟩ := isE164_of_checked h
      rfl
    · intro hnil
      rw [(List.append_eq_nil_iff.mp hnil).1] at hthree
      cases hthree
    · cases hdial : c.dial with
      | nil => rw [hdial] at hnine; cases hnine
      | cons a s =>
          rw [hdial] at hnine
          cases hnine
          rintro ⟨t, ht⟩
          cases ht

/-! ### Agreement -/

/-- A plus that the two readings take differently: after white space, or with a zero after the dial code. -/
def Misread (q : String) : Prop :=
  ['+'] <+: (trim q).toList ∧ (¬ ['+'] <+: q.toList ∨ ∃ c ∈ SUPPORTED_COUNTRIES, RogueZero c ('+' :: digitsOf q))

theorem digits_after_plus (h : ['+'] <+: (trim q).toList) : ((trim q).toList.drop 1).filter isDigit = digitsOf q := by
  obtain ⟨t, ht⟩ := h
  rw [← digits_trim q, ← ht]
  rfl

theorem resolvePhoneE164_plus (h : ['+'] <+: (trim q).toList) (dial : Option String) :
    resolvePhoneE164 q dial = complete ('+' :: digitsOf q) := by
  unfold resolvePhoneE164
  dsimp only
  rw [if_pos (List.isPrefixOf_iff_prefix.mpr h), digits_after_plus h]

theorem resolvePhoneE164_local (hc : c ∈ SUPPORTED_COUNTRIES) (withPlus : Bool) (h : ¬ ['+'] <+: (trim q).toList)
    (hne : (digitsOf q).dropWhile (· = '0') ≠ []) :
    resolvePhoneE164 q (some (dialText c withPlus)) = complete ('+' :: (c.dial ++ (digitsOf q).dropWhile (· = '0'))) := by
  unfold resolvePhoneE164
  dsimp only [Option.getD_some]
  have hdial : (if ['+'].isPrefixOf (dialText c withPlus).toList then (dialText c withPlus).toList
      else '+' :: (dialText c withPlus).toList) = '+' :: c.dial := by
    revert c withPlus
    decide +kernel
  have hsome : (dialText c withPlus).toList ≠ [] := by
    revert c withPlus
    decide +kernel
  rw [if_neg fun hprefix => h (List.isPrefixOf_iff_prefix.mp hprefix), trim_dialText hc, if_pos hsome, digits_trim, if_neg hne,
    hdial]
  rfl

/-- A typed number with its plus is looked up as it stands. -/
theorem resolvePhoneE164_typed (hq : ['+'] <+: q.toList) (d : Country) (dial : Option String)
    (h : normalizePhoneIn d q = some n) (hvalid : validateMobile (some n) none = none) :
    resolvePhoneE164 q dial = some n ↔ ∀ c ∈ SUPPORTED_COUNTRIES, ¬ RogueZero c ('+' :: digitsOf q) := by
  rw [resolvePhoneE164_plus (trim_plus hq)]
  rw [normalizePhoneIn_of_plus d (hq.subset List.mem_cons_self)] at h
  rcases stripRogueZero_cases ('+' :: digitsOf q) with ⟨c, hc, rest, heq⟩ | hnone
  · refine iff_of_false (fun hsome => ?_) fun hnot => hnot c hc (heq ▸ (rogueZero_iff hc hc).mpr ⟨rfl, rest, rfl⟩)
    -- with its zero the number is one digit too long
    rw [heq, stripRogueZero_of_rogue hc] at h
    obtain ⟨-, rfl⟩ := isE164_of_checked h
    have hshort := (mobileLocal_spec hc (mobileLocal_of_validated hc hvalid)).1
    rw [heq] at hsome
    have hlong := complete_dialled hc hsome
    rw [List.length_cons] at hlong
    omega
  · rw [stripRogueZero_of_not _ hnone] at h
    obtain ⟨hE, rfl⟩ := isE164_of_checked h
    exact iff_of_true (complete_of_mobile hE hvalid) hnone

/-- A number after its dial code is looked up with the dial code, unless it has a plus of its own. -/
theorem resolvePhoneE164_dialled (hc : c ∈ SUPPORTED_COUNTRIES) (d : Country) (withPlus : Bool)
    (h : normalizePhoneIn d (dialText c withPlus ++ q) = some n) (hvalid : validateMobile (some n) none = none) :
    resolvePhoneE164 q (some (dialText c withPlus)) = some n ↔ ¬ ['+'] <+: (trim q).toList := by
  obtain rfl := normalizePhoneIn_dialled hc d withPlus h hvalid
  have hlocal := mobileLocal_of_validated hc hvalid
  obtain ⟨hlength, -, -⟩ := mobileLocal_spec hc hlocal
  by_cases hplus : ['+'] <+: (trim q).toList
  · refine iff_of_false (fun hsome => ?_) (not_not_intro hplus)
    rw [resolvePhoneE164_plus hplus] at hsome
    have hsame := congrArg String.toList (complete_some hsome).1
    rw [canonicalPhone, String.toList_ofList, String.toList_ofList] at hsame
    -- the digits are those of the dial code and the digits without their zeros
    have hdigits := (List.cons.inj hsame).2
    have hcount := congrArg List.length hdigits
    rw [List.length_append] at hcount
    have hthree := (dial_spec c hc).1
    have hhead : (digitsOf q).dropWhile (· = '0') = digitsOf q := by
      apply dropWhile_zero
      rw [← hdigits]
      intro hzero
      have hnine := (dial_spec c hc).2.2.2.1
      rw [List.head?_append, hnine] at hzero
      cases hzero
    rw [hhead] at hcount
    omega
  · refine iff_of_true ?_ hplus
    rw [resolvePhoneE164_local hc withPlus hplus]
    · exact complete_of_mobile (isE164_canonical hc hlocal) hvalid
    · intro hnil
      rw [hnil] at hlength
      have hlow := (dial_spec c hc).2.2.2.2.2
      rw [List.length_nil] at hlength
      omega

theorem resolvePhoneE164_complete {dial : Option String} (h : resolvePhoneE164 q dial = some n)
    (hc : c ∈ SUPPORTED_COUNTRIES) (hn : '+' :: c.dial <+: n.toList) : ∃ l, n = canonicalPhone c l ∧ l.length = c.mobileLength ∧ l.all isDigit = true := by
  have hall : ∀ s, complete s = some n → ∃ l, n = canonicalPhone c l ∧ l.length = c.mobileLength ∧ l.all isDigit = true := by
    intro s hs
    obtain ⟨rfl, hloose⟩ := complete_some hs
    rw [String.toList_ofList] at hn
    obtain ⟨l, rfl⟩ := hn
    refine ⟨l, rfl, complete_dialled hc hs, ?_⟩
    obtain ⟨a, b, e, hdial⟩ := List.length_eq_three.mp (dial_spec c hc).1
    rw [hdial] at hloose
    simp only [isLooseE164, List.cons_append, List.nil_append, List.all_cons, Bool.and_eq_true] at hloose
    exact hloose.1.1.2.2.2
  unfold resolvePhoneE164 at h
  dsimp only at h
  split at h
  · exact hall _ h
  split at h
  · split at h
    · cases h
    · exact hall _ h
  · cases h

/-- **Search agrees with storage**: where the typed number is stored as an accepted mobile number, that number is looked up,
unless its plus is misread; and no partial number of a known country is looked up. -/
theorem resolvePhoneE164_agrees {c : Country} (hc : c ∈ SUPPORTED_COUNTRIES) (q n : String) :
    (∀ withPlus, ∀ d ∈ SUPPORTED_COUNTRIES,
      normalizePhoneIn d (typedNumber q (dialText c withPlus)) = some n → validateMobile (some n) none = none →
        (resolvePhoneE164 q (some (dialText c withPlus)) = some n ↔ ¬ Misread q)) ∧
    ∀ dial, resolvePhoneE164 q dial = some n → '+' :: c.dial <+: n.toList →
      ∃ l, n = canonicalPhone c l ∧ l.length = c.mobileLength ∧ l.all isDigit = true := by
  refine ⟨fun withPlus d _ h hvalid => ?_, fun dial h hn => resolvePhoneE164_complete h hc hn⟩
  unfold Misread
  by_cases hq : ['+'] <+: q.toList
  · rw [typedNumber, if_pos (List.isPrefixOf_iff_prefix.mpr hq)] at h
    rw [resolvePhoneE164_typed hq d _ h hvalid]
    constructor
    · rintro hnone ⟨-, hnot | ⟨c', hc', hrogue⟩⟩
      · exact hnot hq
      · exact hnone c' hc' hrogue
    · intro hnot c' hc' hrogue
      exact hnot ⟨trim_plus hq, Or.inr ⟨c', hc', hrogue⟩⟩
  · rw [typedNumber, if_neg fun hprefix => hq (List.isPrefixOf_iff_prefix.mp hprefix)] at h
    rw [resolvePhoneE164_dialled hc d withPlus h hvalid]
    exact not_congr ⟨fun hplus => ⟨hplus, Or.inl hq⟩, fun hmis => hmis.1⟩

theorem resolvePhoneE164_agrees_typed : resolvePhoneE164 "050 123-4567" (some "966") = some "+966501234567" := by
  obtain ⟨hagrees, -⟩ := resolvePhoneE164_agrees (by decide : SA ∈ SUPPORTED_COUNTRIES) "050 123-4567" "+966501234567"
  apply (hagrees false SA (by decide) (by decide +kernel) (by decide +kernel)).mpr
  rintro ⟨hplus, -⟩
  rw [← List.isPrefixOf_iff_prefix] at hplus
  revert hplus
  decide +kernel

/-- Numbers that are stored and not found: with a zero after the dial code, and with a plus after white space. -/
theorem resolvePhoneE164_differs :
    normalizePhone (typedNumber "+9660501234567" "966") = some "+966501234567" ∧
      validateMobile (some "+966501234567") none = none ∧
      resolvePhoneE164 "+9660501234567" (some "966") = none ∧
      normalizePhone (typedNumber " +501234567" "966") = some "+966501234567" ∧
      resolvePhoneE164 " +501234567" (some "966") = some "+501234567" := by decide +kernel

end Qift.Portal
