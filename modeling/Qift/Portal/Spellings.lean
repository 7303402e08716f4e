import Mathlib.Data.List.Infix
import Qift.Portal.Phone

/-!
# One number for every spelling

* `Spelling` — the documented ways to write a local mobile number; `Spelling.write` is its digits and pluses.
* `normalizePhoneIn_spelling` — every spelling is brought to the one number, unless it is the bare local number and
  that begins with a dial code.
* `normalizePhoneIn_fixed` — a normalised number stays as it is, unless two zeros stood after its dial code.
* **`normalizePhone_canonical`** — both, and that every normalised number is E.164.
-/

namespace Qift.Portal

/-! ### Dial codes -/

theorem dial_spec : ∀ c ∈ SUPPORTED_COUNTRIES, c.dial.length = 3 ∧ c.dial.all isDigit = true ∧ '0' ∉ c.mobileFirst ∧
    c.dial.head? = some '9' ∧ c.mobileLength ≤ 9 ∧ 8 ≤ c.mobileLength := by decide

theorem dial_injective : ∀ c ∈ SUPPORTED_COUNTRIES, ∀ c' ∈ SUPPORTED_COUNTRIES, c.dial = c'.dial → c = c' := by decide

variable {c c' : Country} {l ds rest : List Char} {raw r : String}

/-- No number begins with two dial codes. -/
theorem dial_unique (hc : c ∈ SUPPORTED_COUNTRIES) (hc' : c' ∈ SUPPORTED_COUNTRIES) (h : c.dial <+: c'.dial ++ rest) :
    c = c' := by
  apply dial_injective c hc c' hc'
  have hlength : c.dial.length = c'.dial.length := (dial_spec c hc).1.trans (dial_spec c' hc').1.symm
  exact (List.prefix_of_prefix_length_le h (List.prefix_append _ _) hlength.le).eq_of_length hlength

/-- What only one element satisfies is found. -/
theorem find_unique {α : Type} {p : α → Bool} {xs : List α} {x : α} (hx : x ∈ xs) (h : ∀ y ∈ xs, p y = true ↔ y = x) :
    xs.find? p = some x := by
  cases hfind : xs.find? p with
  | none => exact absurd ((h x hx).mpr rfl) (List.find?_eq_none.mp hfind x hx)
  | some y => rw [(h y (List.mem_of_find?_eq_some hfind)).mp (List.find?_some hfind)]

theorem find_dial (hc : c ∈ SUPPORTED_COUNTRIES) (rest : List Char) :
    SUPPORTED_COUNTRIES.find? (fun c' => c'.dial.isPrefixOf (c.dial ++ rest)) = some c := by
  apply find_unique hc
  intro c' hc'
  rw [List.isPrefixOf_iff_prefix]
  exact ⟨dial_unique hc' hc, fun h => h ▸ List.prefix_append _ _⟩

/-- A zero after a dial code, as the normalisation looks for it. -/
def RogueZero (c : Country) (s : List Char) : Prop := '+' :: c.dial ++ ['0'] <+: s

theorem rogueZero_iff (hc : c ∈ SUPPORTED_COUNTRIES) (hc' : c' ∈ SUPPORTED_COUNTRIES) :
    RogueZero c' ('+' :: (c.dial ++ rest)) ↔ c' = c ∧ ['0'] <+: rest := by
  unfold RogueZero
  rw [List.cons_append, List.cons_prefix_cons]
  constructor
  · rintro ⟨-, h⟩
    obtain rfl := dial_unique hc' hc ((List.prefix_append _ _).trans h)
    exact ⟨rfl, (List.prefix_append_right_inj _).mp h⟩
  · rintro ⟨rfl, h⟩
    exact ⟨rfl, (List.prefix_append_right_inj _).mpr h⟩

theorem stripRogueZero_of_rogue (hc : c ∈ SUPPORTED_COUNTRIES) (rest : List Char) :
    stripRogueZero ('+' :: (c.dial ++ '0' :: rest)) = '+' :: (c.dial ++ rest) := by
  have hrogue (c' : Country) (hc' : c' ∈ SUPPORTED_COUNTRIES) :
      ('+' :: c'.dial ++ ['0']).isPrefixOf ('+' :: (c.dial ++ '0' :: rest)) = true ↔ c' = c := by
    rw [List.isPrefixOf_iff_prefix]
    exact (rogueZero_iff hc hc').trans ⟨fun h => h.1, fun h => ⟨h, rest, rfl⟩⟩
  have hfind : SUPPORTED_COUNTRIES.find? (fun c' => ('+' :: c'.dial ++ ['0']).isPrefixOf ('+' :: (c.dial ++ '0' :: rest))) =
      some c := by
    exact find_unique hc hrogue
  rw [stripRogueZero, hfind]
  simp

theorem stripRogueZero_of_not (s : List Char) (h : ∀ c ∈ SUPPORTED_COUNTRIES, ¬ RogueZero c s) :
    stripRogueZero s = s := by
  unfold stripRogueZero
  rw [List.find?_eq_none.mpr fun c hc => by rw [List.isPrefixOf_iff_prefix]; exact h c hc]

/-- Nothing else happens to a number with a plus. -/
theorem stripRogueZero_cases (s : List Char) :
    (∃ c ∈ SUPPORTED_COUNTRIES, ∃ rest, s = '+' :: (c.dial ++ '0' :: rest)) ∨
      ∀ c ∈ SUPPORTED_COUNTRIES, ¬ RogueZero c s := by
  by_cases h : ∃ c ∈ SUPPORTED_COUNTRIES, RogueZero c s
  · obtain ⟨c, hc, rest, rfl⟩ := h
    exact Or.inl ⟨c, hc, rest, by simp⟩
  · exact Or.inr fun c hc hrogue => h ⟨c, hc, hrogue⟩

/-! ### Local numbers -/

theorem not_plus_of_digits (h : l.all isDigit = true) : '+' ∉ l :=
  fun hmem => absurd (List.all_eq_true.mp h '+' hmem) (by decide)

theorem mobileLocal_spec (hc : c ∈ SUPPORTED_COUNTRIES) (h : c.mobileLocal l = true) :
    l.length = c.mobileLength ∧ l.all isDigit = true ∧ l.head? ≠ some '0' := by
  rw [Country.mobileLocal, Bool.and_eq_true, Bool.and_eq_true, decide_eq_true_eq] at h
  obtain ⟨⟨hlength, hdigits⟩, hfirst⟩ := h
  refine ⟨hlength, hdigits, fun hzero => ?_⟩
  rw [hzero] at hfirst
  exact (dial_spec c hc).2.2.1 (of_decide_eq_true hfirst)

theorem dropWhile_zero (h : l.head? ≠ some '0') : l.dropWhile (· = '0') = l := by
  cases l with
  | nil => rfl
  | cons d l => exact List.dropWhile_cons_of_neg fun hd => h (by rw [of_decide_eq_true hd]; rfl)

theorem head_dropWhile_zero (l : List Char) : (l.dropWhile (· = '0')).head? ≠ some '0' := by
  intro hhead
  have hnot := List.head?_dropWhile_not (fun d => decide (d = '0')) l
  rw [hhead] at hnot
  cases hnot

/-- The number that all spellings stand for. -/
def canonicalPhone (c : Country) (l : List Char) : String := String.ofList ('+' :: (c.dial ++ l))

theorem isE164_canonical (hc : c ∈ SUPPORTED_COUNTRIES) (h : c.mobileLocal l = true) :
    isE164 ('+' :: (c.dial ++ l)) = true := by
  obtain ⟨hlength, hdigits, -⟩ := mobileLocal_spec hc h
  obtain ⟨hthree, hall, -, hnine, hhigh, hlow⟩ := dial_spec c hc
  obtain ⟨a, b, d, hdial⟩ := List.length_eq_three.mp hthree
  rw [hdial] at hall hnine ⊢
  cases hnine
  simp only [List.all_cons, List.all_nil, Bool.and_true, Bool.and_eq_true] at hall
  simp only [List.cons_append, List.nil_append, isE164, List.all_cons, List.length_cons, hdigits, hall.1, hall.2.1,
    hall.2.2, Bool.and_true, Bool.true_and, decide_eq_true_eq, Bool.and_eq_true]
  exact ⟨⟨by decide, by omega⟩, by omega⟩

theorem checked_canonical (hc : c ∈ SUPPORTED_COUNTRIES) (h : c.mobileLocal l = true) :
    checked ('+' :: (c.dial ++ l)) = some (canonicalPhone c l) := if_pos (isE164_canonical hc h)

theorem validateMobile_canonical (hc : c ∈ SUPPORTED_COUNTRIES) (h : c.mobileLocal l = true) (country : Option Country)
    (hcountry : ∀ c' ∈ country, c' = c) : validateMobile (some (canonicalPhone c l)) country = none := by
  have hdetect : detectCountry (canonicalPhone c l) = some c := by
    unfold detectCountry canonicalPhone
    simp only [String.toList_ofList, List.isPrefixOf_cons_cons, beq_self_eq_true, Bool.true_and]
    exact find_dial hc l
  have hfound : country.or (detectCountry (canonicalPhone c l)) = some c := by
    cases country with
    | none => exact hdetect
    | some c' => rw [hcountry c' rfl]; rfl
  unfold validateMobile
  rw [Option.filter_some, if_pos (by rw [canonicalPhone, String.toList_ofList]; exact isE164_canonical hc h)]
  simp only [hfound]
  rw [canonicalPhone, String.toList_ofList, List.drop_succ_cons, List.drop_left, if_pos h]

/-! ### Spellings -/

/-- The documented ways to write a local number `l` of a country whose dial code is `d`: `l`, `0l`, `dl`, `+dl`, `00dl` and
`+d0l`. -/
inductive Spelling
  | bare | leadingZero | dialled | plus | doubleZero | rogueZero

def Spelling.write (c : Country) (l : List Char) : Spelling → List Char
  | bare => l
  | leadingZero => '0' :: l
  | dialled => c.dial ++ l
  | plus => '+' :: (c.dial ++ l)
  | doubleZero => '0' :: '0' :: (c.dial ++ l)
  | rogueZero => '+' :: (c.dial ++ '0' :: l)

theorem normalizePhoneIn_plus (d : Country) (hraw : kept raw = '+' :: ds) (hds : '+' ∉ ds) :
    normalizePhoneIn d raw = checked (stripRogueZero ('+' :: ds)) := by
  have hfilter : ('+' :: ds).filter (· ≠ '+') = ds := by
    rw [List.filter_cons_of_neg (by simp), List.filter_eq_self]
    intro x hx
    exact decide_eq_true fun heq => hds (heq ▸ hx)
  have hcollapse : collapsePlus (kept raw) = '+' :: ds := by
    rw [hraw, collapsePlus, if_pos List.mem_cons_self, hfilter]
  unfold normalizePhoneIn
  simp only [hcollapse]
  rfl

theorem normalizePhoneIn_doubleZero (d : Country) (hraw : kept raw = '0' :: '0' :: ds) (hds : '+' ∉ ds) :
    normalizePhoneIn d raw = checked (stripRogueZero ('+' :: ds)) := by
  have hcollapse : collapsePlus (kept raw) = '0' :: '0' :: ds := by
    rw [hraw, collapsePlus, if_neg (by simp [hds])]
  unfold normalizePhoneIn
  simp only [hcollapse]
  rfl

theorem normalizePhoneIn_digits (d : Country) (hraw : kept raw = ds) (hplus : '+' ∉ ds) (hne : ds ≠ [])
    (hzero : ¬ ['0', '0'] <+: ds) : normalizePhoneIn d raw = withoutPlus d ds := by
  have hcollapse : collapsePlus (kept raw) = ds := by rw [hraw, collapsePlus, if_neg hplus]
  have hdouble : doubleZero ds = ds := if_neg fun h => hzero (List.isPrefixOf_iff_prefix.mp h)
  have hfirst : ¬ ['+'] <+: ds := fun h => hplus (h.subset List.mem_cons_self)
  unfold normalizePhoneIn
  simp only [hcollapse, hdouble]
  rw [if_neg hne, if_neg fun h => hfirst (List.isPrefixOf_iff_prefix.mp h)]

theorem withoutPlus_dialled (d : Country) (hc : c ∈ SUPPORTED_COUNTRIES) (rest : List Char) :
    withoutPlus d (c.dial ++ rest) = checked ('+' :: (c.dial ++ rest.dropWhile (· = '0'))) := by
  rw [withoutPlus, find_dial hc]
  simp

theorem withoutPlus_local (d : Country) (hdial : ∀ c ∈ SUPPORTED_COUNTRIES, ¬ c.dial <+: ds)
    (hne : ds.dropWhile (· = '0') ≠ []) :
    withoutPlus d ds = checked ('+' :: (d.dial ++ ds.dropWhile (· = '0'))) := by
  rw [withoutPlus, List.find?_eq_none.mpr fun c hc => by rw [List.isPrefixOf_iff_prefix]; exact hdial c hc]
  exact if_neg hne

/-- The local number begins with a dial code. -/
def Dialled (l : List Char) : Prop := ∃ c ∈ SUPPORTED_COUNTRIES, c.dial <+: l

/-- Each spelling, whatever other characters stand in it. -/
theorem normalizePhoneIn_spelling (hc : c ∈ SUPPORTED_COUNTRIES) (hlocal : c.mobileLocal l = true) (sp : Spelling)
    (hraw : kept raw = sp.write c l) :
    normalizePhoneIn c raw = some (canonicalPhone c l) ↔ ¬ (sp = .bare ∧ Dialled l) := by
  obtain ⟨hlength, hdigits, hhead⟩ := mobileLocal_spec hc hlocal
  obtain ⟨hthree, hall, -, hnine, hhigh, hlow⟩ := dial_spec c hc
  have hplus : '+' ∉ l := not_plus_of_digits hdigits
  have hplus' : '+' ∉ c.dial ++ l := by simp [hplus, not_plus_of_digits hall]
  have hne : l ≠ [] := by rintro rfl; rw [List.length_nil] at hlength; omega
  have hstrip := dropWhile_zero hhead
  cases sp with
  | bare =>
      change kept raw = l at hraw
      rw [normalizePhoneIn_digits c hraw hplus hne fun h => hhead (by obtain ⟨t, rfl⟩ := h; rfl)]
      by_cases hdial : Dialled l
      · obtain ⟨c', hc', rest, rfl⟩ := hdial
        refine iff_of_false (fun hsome => ?_) fun h => h ⟨rfl, c', hc', List.prefix_append _ _⟩
        -- the digits after the other dial code are too few
        rw [withoutPlus_dialled c hc'] at hsome
        obtain ⟨-, hsame⟩ := isE164_of_checked hsome
        have hcount := congrArg (fun s => s.toList.length) hsame
        have hle := (List.dropWhile_suffix (fun d => decide (d = '0')) (l := rest)).length_le
        simp only [canonicalPhone, String.toList_ofList, List.length_cons, List.length_append] at hcount
        have hthree' := (dial_spec c' hc').1
        omega
      · refine iff_of_true ?_ fun h => hdial h.2
        rw [withoutPlus_local c (fun c' hc' h => hdial ⟨c', hc', h⟩) (by rwa [hstrip]), hstrip]
        exact checked_canonical hc hlocal
  | leadingZero =>
      change kept raw = '0' :: l at hraw
      refine iff_of_true ?_ fun h => nomatch h.1
      have hdrop : ('0' :: l).dropWhile (· = '0') = l := by rw [List.dropWhile_cons_of_pos (by simp), hstrip]
      rw [normalizePhoneIn_digits c hraw (by simp [hplus]) (List.cons_ne_nil _ _), withoutPlus_local, hdrop]
      · exact checked_canonical hc hlocal
      · rintro c' hc' h
        obtain ⟨-, -, -, hnine', -⟩ := dial_spec c' hc'
        obtain ⟨t, ht⟩ := h
        cases hdial : c'.dial with
        | nil => rw [hdial] at hnine'; cases hnine'
        | cons a s =>
            rw [hdial] at ht hnine'
            cases hnine'
            cases ht
      · rwa [hdrop]
      · rw [List.cons_prefix_cons]
        rintro ⟨-, t, rfl⟩
        exact hhead rfl
  | dialled =>
      change kept raw = c.dial ++ l at hraw
      refine iff_of_true ?_ fun h => nomatch h.1
      rw [normalizePhoneIn_digits c hraw hplus' (by simp [hne]), withoutPlus_dialled c hc, hstrip]
      · exact checked_canonical hc hlocal
      · rintro ⟨t, ht⟩
        cases hdial : c.dial with
        | nil => rw [hdial] at hnine; cases hnine
        | cons a s =>
            rw [hdial] at ht hnine
            cases hnine
            cases ht
  | plus =>
      change kept raw = '+' :: (c.dial ++ l) at hraw
      refine iff_of_true ?_ fun h => nomatch h.1
      rw [normalizePhoneIn_plus c hraw hplus', stripRogueZero_of_not, checked_canonical hc hlocal]
      intro c' hc' hrogue
      obtain ⟨-, t, rfl⟩ := (rogueZero_iff hc hc').mp hrogue
      exact hhead rfl
  | doubleZero =>
      change kept raw = '0' :: '0' :: (c.dial ++ l) at hraw
      refine iff_of_true ?_ fun h => nomatch h.1
      rw [normalizePhoneIn_doubleZero c hraw hplus', stripRogueZero_of_not, checked_canonical hc hlocal]
      intro c' hc' hrogue
      obtain ⟨-, t, rfl⟩ := (rogueZero_iff hc hc').mp hrogue
      exact hhead rfl
  | rogueZero =>
      change kept raw = '+' :: (c.dial ++ '0' :: l) at hraw
      refine iff_of_true ?_ fun h => nomatch h.1
      rw [normalizePhoneIn_plus c hraw (by simp [hplus, not_plus_of_digits hall]), stripRogueZero_of_rogue hc]
      exact checked_canonical hc hlocal

/-! ### Normalised numbers -/

theorem isE164_spec {s : List Char} (h : isE164 s = true) : ∃ ds, s = '+' :: ds ∧ ds.all isDigit = true := by
  unfold isE164 at h
  split at h
  next first rest =>
    simp only [Bool.and_eq_true] at h
    exact ⟨first :: rest, rfl, by rw [List.all_cons, h.1.1.1.1, h.1.1.2]; rfl⟩
  next => cases h

/-- A number that is E.164 is read as it stands. -/
theorem normalizePhoneIn_of_isE164 (d : Country) (h : isE164 r.toList = true) :
    normalizePhoneIn d r = checked (stripRogueZero r.toList) := by
  obtain ⟨ds, hr, hds⟩ := isE164_spec h
  have hkept : kept r = '+' :: ds := by
    rw [kept, hr, List.filter_eq_self]
    intro x hx
    rcases List.mem_cons.mp hx with rfl | hx
    · rfl
    · rw [List.all_eq_true.mp hds x hx]
      rfl
  rw [normalizePhoneIn_plus d hkept (not_plus_of_digits hds), hr]

/-- It stays as it is unless a zero stands after its dial code. -/
theorem normalizePhoneIn_fixed_iff (d : Country) (h : isE164 r.toList = true) :
    normalizePhoneIn d r = some r ↔ ∀ c ∈ SUPPORTED_COUNTRIES, ¬ RogueZero c r.toList := by
  rw [normalizePhoneIn_of_isE164 d h]
  rcases stripRogueZero_cases r.toList with ⟨c, hc, rest, hr⟩ | hnone
  · rw [hr, stripRogueZero_of_rogue hc]
    refine iff_of_false (fun hsome => ?_) fun hnot => hnot c hc ((rogueZero_iff hc hc).mpr ⟨rfl, rest, rfl⟩)
    obtain ⟨-, hsame⟩ := isE164_of_checked hsome
    rw [hsame, String.toList_ofList] at hr
    have hcount := congrArg List.length hr
    simp only [List.length_cons, List.length_append] at hcount
    omega
  · rw [stripRogueZero_of_not _ hnone]
    exact iff_of_true ((if_pos h).trans (by rw [String.ofList_toList])) hnone

/-- The digits and pluses of a text, as far as the search for a dial code. -/
def international (raw : String) : List Char := doubleZero (collapsePlus (kept raw))

/-- Two zeros after the dial code of a number with a plus. -/
def TwoZeros (raw : String) : Prop := ∃ c ∈ SUPPORTED_COUNTRIES, '+' :: c.dial ++ ['0', '0'] <+: international raw

/-- After one zero is dropped there is one left. -/
theorem rogueZero_stripped (s : List Char) : (∃ c ∈ SUPPORTED_COUNTRIES, RogueZero c (stripRogueZero s)) ↔
    ∃ c ∈ SUPPORTED_COUNTRIES, '+' :: c.dial ++ ['0', '0'] <+: s := by
  have hless {c : Country} (h : '+' :: c.dial ++ ['0', '0'] <+: s) : RogueZero c s :=
    List.IsPrefix.trans ⟨['0'], by simp⟩ h
  rcases stripRogueZero_cases s with ⟨c, hc, rest, rfl⟩ | hnone
  · rw [stripRogueZero_of_rogue hc]
    constructor
    · rintro ⟨c', hc', h⟩
      obtain ⟨-, t, rfl⟩ := (rogueZero_iff hc hc').mp h
      exact ⟨c, hc, t, by simp⟩
    · rintro ⟨c', hc', h⟩
      obtain ⟨rfl, -⟩ := (rogueZero_iff hc hc').mp (hless h)
      obtain ⟨t, ht⟩ := h
      refine ⟨c', hc, (rogueZero_iff hc hc).mpr ⟨rfl, t, ?_⟩⟩
      simpa using ht
  · rw [stripRogueZero_of_not s hnone]
    exact iff_of_false (fun ⟨c, hc, h⟩ => hnone c hc h) fun ⟨c, hc, h⟩ => hnone c hc (hless h)

theorem not_rogueZero_dropped (hc : c ∈ SUPPORTED_COUNTRIES) (rest : List Char) :
    ∀ c' ∈ SUPPORTED_COUNTRIES, ¬ RogueZero c' ('+' :: (c.dial ++ rest.dropWhile (· = '0'))) := by
  intro c' hc' h
  obtain ⟨-, t, ht⟩ := (rogueZero_iff hc hc').mp h
  apply head_dropWhile_zero rest
  rw [← ht]
  rfl

theorem rogueZero_withoutPlus {s : List Char} (hc : c ∈ SUPPORTED_COUNTRIES) (h : withoutPlus c s = some r) :
    ∀ c' ∈ SUPPORTED_COUNTRIES, ¬ RogueZero c' r.toList := by
  unfold withoutPlus at h
  dsimp only at h
  split at h
  next c₁ hfind =>
    obtain ⟨-, rfl⟩ := isE164_of_checked h
    rw [String.toList_ofList]
    exact not_rogueZero_dropped (List.mem_of_find?_eq_some hfind) _
  next =>
    split at h
    · cases h
    · obtain ⟨-, rfl⟩ := isE164_of_checked h
      rw [String.toList_ofList]
      exact not_rogueZero_dropped hc _

/-- A normalised number stays as it is, whatever the default country, unless two zeros stood after its dial code. -/
theorem normalizePhoneIn_fixed (hc : c ∈ SUPPORTED_COUNTRIES) (h : normalizePhoneIn c raw = some r) (d : Country) :
    normalizePhoneIn d r = some r ↔ ¬ TwoZeros raw := by
  rw [normalizePhoneIn_fixed_iff d (isE164_of_normalized h)]
  have hiff : (∃ c' ∈ SUPPORTED_COUNTRIES, RogueZero c' r.toList) ↔ TwoZeros raw := by
    unfold normalizePhoneIn at h
    dsimp only at h
    split at h
    · cases h
    split at h
    · obtain ⟨-, rfl⟩ := isE164_of_checked h
      rw [String.toList_ofList]
      exact rogueZero_stripped _
    next hplus =>
      refine iff_of_false (fun ⟨c', hc', hrogue⟩ => rogueZero_withoutPlus hc h c' hc' hrogue) ?_
      rintro ⟨c', hc', t, ht⟩
      apply hplus
      rw [List.isPrefixOf_iff_prefix]
      exact ⟨_, ht⟩
  rw [← hiff]
  exact ⟨fun hnone ⟨c', hc', hrogue⟩ => hnone c' hc' hrogue, fun hnone c' hc' hrogue => hnone ⟨c', hc', hrogue⟩⟩

/-- **Normalisation is canonical**: every spelling of a local mobile number is brought to the one number, which is
accepted, unless it is the bare number and begins with a dial code; what is normalised is E.164, and stays as it is
unless two zeros stood after its dial code. -/
theorem normalizePhone_canonical (hc : c ∈ SUPPORTED_COUNTRIES) :
    (∀ l, c.mobileLocal l = true →
      (∀ sp raw, kept raw = Spelling.write c l sp →
        (normalizePhoneIn c raw = some (canonicalPhone c l) ↔ ¬ (sp = .bare ∧ Dialled l))) ∧
      validateMobile (some (canonicalPhone c l)) none = none ∧
      validateMobile (some (canonicalPhone c l)) (some c) = none) ∧
    ∀ raw r, normalizePhoneIn c raw = some r →
      isE164 r.toList = true ∧ ∀ d ∈ SUPPORTED_COUNTRIES, (normalizePhoneIn d r = some r ↔ ¬ TwoZeros raw) := by
  refine ⟨fun l hlocal => ⟨fun sp raw hraw => normalizePhoneIn_spelling hc hlocal sp hraw, ?_, ?_⟩, ?_⟩
  · exact validateMobile_canonical hc hlocal none fun c' h => nomatch h
  · exact validateMobile_canonical hc hlocal (some c) fun c' h => (Option.mem_some_iff.mp h).symm
  · intro raw r hr
    exact ⟨isE164_of_normalized hr, fun d _ => normalizePhoneIn_fixed hc hr d⟩

theorem normalizePhone_canonical_spelled :
    normalizePhoneIn SA "(+966) 050-123 4567" = some "+966501234567" ∧
      normalizePhoneIn SA "+966501234567" = some "+966501234567" := by
  obtain ⟨hspellings, hfixed⟩ := normalizePhone_canonical (by decide : SA ∈ SUPPORTED_COUNTRIES)
  have hnumber := (hspellings "501234567".toList (by decide)).1 .rogueZero "(+966) 050-123 4567" (by decide)
  have hsome := hnumber.mpr fun h => nomatch h.1
  refine ⟨hsome, ((hfixed _ _ hsome).2 SA (by decide)).mpr ?_⟩
  rintro ⟨c, hc, h⟩
  revert c
  decide +kernel

/-- A local number of Kuwait that begins with the dial code of Saudi Arabia is taken for one of Saudi Arabia, and a second
zero is dropped the second time only. -/
theorem normalizePhone_not_canonical :
    KW.mobileLocal "96612345".toList = true ∧ canonicalPhone KW "96612345".toList = "+96596612345" ∧
      normalizePhoneIn KW "96612345" = some "+96612345" ∧
      normalizePhone "+96600501234567" = some "+9660501234567" ∧
      normalizePhone "+9660501234567" = some "+966501234567" := by decide +kernel

end Qift.Portal
