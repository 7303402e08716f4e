import Qift.Lib.Strip
import Qift.Market.Coverage
import Qift.Market.Payee

/-!
# The rule of coverage

* `DeliveryZone.Fits` — the rule the zones of a store declare; `AddressScope.located` — the address names a city.
* `sanitizeZones` of `stores.service.ts` — what an update of a store leaves of a list of zones.
* **`matchAddressToStoreZones_rule`** — an address is covered exactly when some zone fits it that is a wildcard or, for an
  address with a city, any zone; no order of the zones matters, a further zone takes nothing away, and what is stored is
  matched as what was sent.
* `matchAddressToStoreZones_unlocated` — an address without a city is refused by a zone of districts that fits it.
-/

namespace Qift.Market

open Shop

theorem trim_eq_strip (s : String) : trim s = String.ofList (Lib.strip isTrimmed s.toList) := rfl

@[simp] theorem trim_trim (s : String) : trim (trim s) = trim s := by
  rw [trim_eq_strip, trim_eq_strip, String.toList_ofList, Lib.strip_strip]

/-! ### Parsed zones -/

/-- A zone that names neither a city nor districts. -/
def DeliveryZone.Wildcard (zone : DeliveryZone) : Prop := zone.city = none ∧ zone.districts = []

theorem wildcard_iff {zone : DeliveryZone} : zone.wildcard = true ↔ zone.Wildcard := by
  simp [DeliveryZone.wildcard, DeliveryZone.Wildcard]

theorem textMember_trim (members : List (String × Json)) (key : String) :
    trim (textMember members key) = textMember members key := by
  unfold textMember
  split
  · exact trim_trim _
  · rfl

theorem parseZone_country {v : Json} {zone : DeliveryZone} (h : parseZone v = some zone) {c : String}
    (hc : zone.country = some c) : c ≠ "" ∧ trim c = c := by
  cases v with
  | obj members =>
      rw [parseZone] at h
      split at h
      · cases h
      · cases h
        split at hc
        · cases hc
        · cases hc
          exact ⟨‹_›, textMember_trim _ _⟩
  | null | bool _ | num _ | str _ | arr _ => cases h

theorem mem_parseStoreZones {d : Json} {zone : DeliveryZone} (h : zone ∈ parseStoreZones d) :
    ∃ v, parseZone v = some zone := by
  cases d with
  | arr values =>
      obtain ⟨v, -, hv⟩ := List.mem_filterMap.mp h
      exact ⟨v, hv⟩
  | null | bool _ | num _ | str _ | obj _ => cases h

section Rule

variable [Cities]

/-! ### The declared rule -/

/-- The fields of an address as the matcher compares them; a missing one is empty. -/
def AddressScope.countryText (a : AddressScope) : String := trim (a.country.getD "")

def AddressScope.regionText (a : AddressScope) : String := trim (a.region.getD "")

def AddressScope.foldedCity (a : AddressScope) : String := Cities.normaliseCity (a.city.getD "")

def AddressScope.foldedDistrict (a : AddressScope) : String := Cities.normaliseCity (a.district.getD "")

/-- The address names a city. -/
def AddressScope.Located (a : AddressScope) : Prop := a.foldedCity ≠ ""

/-- Two countries are the same but for their case. -/
def SameCountry (a b : String) : Prop := Cities.toUpperCase (trim a) = Cities.toUpperCase (trim b)

/-- Two regions fold to the same name. -/
def SameRegion (a b : String) : Prop :=
  Cities.normaliseCity a ≠ "" ∧ Cities.normaliseCity a = Cities.normaliseCity b

/-- Every gate but the district list: a wildcard needs its fields on the address, another zone compares them where the
address has them, and then the city. -/
def DeliveryZone.Passes (zone : DeliveryZone) (a : AddressScope) : Prop :=
  (∀ c, zone.country = some c → a.countryText = "" ∨ SameCountry c a.countryText) ∧
    (∀ r, zone.region = some r → a.regionText = "" ∨ SameRegion r a.regionText) ∧
    (zone.Wildcard → (zone.country ≠ none → a.countryText ≠ "") ∧ (zone.region ≠ none → a.regionText ≠ "")) ∧
    ∀ c, zone.city = some c → Cities.normaliseCity c = a.foldedCity

/-- The district list; an empty one is all districts. -/
def DeliveryZone.Lists (zone : DeliveryZone) (a : AddressScope) : Prop :=
  zone.districts = [] ∨ a.foldedDistrict ≠ "" ∧ ∃ d ∈ zone.districts, Cities.normaliseCity d = a.foldedDistrict

/-- The rule: a zone covers an address that passes its gates and its district list. -/
def DeliveryZone.Fits (zone : DeliveryZone) (a : AddressScope) : Prop := zone.Passes a ∧ zone.Lists a

/-! ### The matcher and the rule -/

theorem sameCountry_iff {c x : String} (hc : c ≠ "") (hx : x ≠ "") : sameCountry c x = true ↔ SameCountry c x := by
  simp [sameCountry, SameCountry, hc, hx]

theorem sameRegion_iff {r x : String} : sameRegion r x = true ↔ SameRegion r x := by
  simp only [sameRegion, SameRegion, Bool.and_eq_true, decide_eq_true_eq]
  constructor
  · rintro ⟨⟨hr, -⟩, heq⟩
    exact ⟨hr, heq⟩
  · rintro ⟨hr, heq⟩
    exact ⟨⟨hr, by rwa [← heq]⟩, heq⟩

variable {zone : DeliveryZone} {a : AddressScope} {d : Json}

theorem gates_iff (h : zone ∈ parseStoreZones d) : zone.gates a.countryText a.regionText = true ↔
    (∀ c, zone.country = some c → a.countryText = "" ∨ SameCountry c a.countryText) ∧
      ∀ r, zone.region = some r → a.regionText = "" ∨ SameRegion r a.regionText := by
  obtain ⟨v, hv⟩ := mem_parseStoreZones h
  have hcountry {c : String} (hc : zone.country = some c) : (a.countryText = "" || sameCountry c a.countryText) = true ↔
      a.countryText = "" ∨ SameCountry c a.countryText := by
    by_cases hempty : a.countryText = ""
    · simp [hempty]
    · simp only [hempty, decide_false, Bool.false_or, false_or]
      exact sameCountry_iff (parseZone_country hv hc).1 hempty
  have hregion {r : String} : (a.regionText = "" || sameRegion r a.regionText) = true ↔
      a.regionText = "" ∨ SameRegion r a.regionText := by
    rw [Bool.or_eq_true, decide_eq_true_eq, sameRegion_iff]
  rw [DeliveryZone.gates, Bool.and_eq_true, Option.all_eq_true, Option.all_eq_true]
  refine and_congr (forall_congr' fun c => ?_) (forall_congr' fun r => ?_)
  · exact forall_congr' fun hc => hcountry hc
  · exact forall_congr' fun _ => hregion

theorem lists_iff : zone.lists a.foldedDistrict = true ↔ zone.Lists a := by
  simp [DeliveryZone.lists, DeliveryZone.Lists]

theorem admits_iff (h : zone ∈ parseStoreZones d) :
    zone.admits a.countryText a.regionText = true ↔ zone.Wildcard ∧ zone.Fits a := by
  simp only [DeliveryZone.admits, Bool.and_eq_true, gates_iff h, wildcard_iff, Bool.or_eq_true, Option.isNone_iff_eq_none,
    decide_eq_true_eq, DeliveryZone.Fits, DeliveryZone.Passes]
  constructor
  · rintro ⟨⟨⟨hwild, hcountry, hregion⟩, hc⟩, hr⟩
    refine ⟨hwild, ⟨hcountry, hregion, fun _ => ⟨hc.resolve_left, hr.resolve_left⟩, fun c hcity => ?_⟩, Or.inl hwild.2⟩
    rw [hwild.1] at hcity
    cases hcity
  · rintro ⟨hwild, ⟨hcountry, hregion, hfields, -⟩, -⟩
    obtain ⟨hc, hr⟩ := hfields hwild
    exact ⟨⟨⟨hwild, hcountry, hregion⟩, or_iff_not_imp_left.mpr hc⟩, or_iff_not_imp_left.mpr hr⟩

/-- The gates of the second pass. -/
theorem reaches_iff (h : zone ∈ parseStoreZones d) :
    zone.reaches a.countryText a.regionText a.foldedCity = true ↔ ¬zone.Wildcard ∧ zone.Passes a := by
  simp only [DeliveryZone.reaches, Bool.and_eq_true, gates_iff h, Bool.not_eq_true', ← Bool.not_eq_true, wildcard_iff,
    Option.all_eq_true, decide_eq_true_eq, DeliveryZone.Passes]
  constructor
  · rintro ⟨⟨hcity, hcountry, hregion⟩, hfold⟩
    exact ⟨hcity, hcountry, hregion, fun hwild => absurd hwild hcity, hfold⟩
  · rintro ⟨hcity, hcountry, hregion, -, hfold⟩
    exact ⟨⟨hcity, hcountry, hregion⟩, hfold⟩

variable (a d) (city : String)

theorem match_without_zones (h : parseStoreZones d = []) : matchAddressToStoreZones a city d true =
    if a.foldedCity = "" then .city_mismatch
    else if Cities.normaliseCity city = a.foldedCity then .ok else .city_mismatch := by
  unfold matchAddressToStoreZones
  rw [if_neg Bool.noConfusion]
  dsimp only
  rw [if_pos h]
  rfl

theorem match_with_zones (h : parseStoreZones d ≠ []) : matchAddressToStoreZones a city d true =
    if (parseStoreZones d).any fun z => z.admits a.countryText a.regionText then .ok
    else if a.foldedCity = "" then .city_mismatch
    else if (parseStoreZones d).any fun z =>
      z.reaches a.countryText a.regionText a.foldedCity && z.lists a.foldedDistrict then .ok
    else if (parseStoreZones d).any fun z => z.reaches a.countryText a.regionText a.foldedCity then .district_mismatch
    else .city_mismatch := by
  unfold matchAddressToStoreZones
  rw [if_neg Bool.noConfusion]
  dsimp only
  rw [if_neg h]
  rfl

variable {a d city}

theorem match_ok_iff : matchAddressToStoreZones a city d true = .ok ↔
    (parseStoreZones d = [] ∧ a.Located ∧ Cities.normaliseCity city = a.foldedCity) ∨
      ∃ z ∈ parseStoreZones d, z.Fits a ∧ (z.Wildcard ∨ a.Located) := by
  by_cases hnil : parseStoreZones d = []
  · rw [match_without_zones a d city hnil]
    simp only [hnil, List.not_mem_nil, false_and, exists_false, or_false, true_and, AddressScope.Located]
    by_cases hcity : a.foldedCity = ""
    · simp [hcity]
    · by_cases hsame : Cities.normaliseCity city = a.foldedCity <;> simp [hcity, hsame]
  · rw [match_with_zones a d city hnil]
    simp only [hnil, false_and, false_or]
    by_cases hwild : (parseStoreZones d).any (fun z => z.admits a.countryText a.regionText) = true
    · rw [if_pos hwild]
      obtain ⟨z, hz, hadmits⟩ := List.any_eq_true.mp hwild
      obtain ⟨hw, hfits⟩ := (admits_iff hz).mp hadmits
      exact iff_of_true rfl ⟨z, hz, hfits, Or.inl hw⟩
    · rw [if_neg hwild]
      -- no wildcard fits, so a zone that does names a city or districts
      have hnone : ∀ z ∈ parseStoreZones d, z.Fits a → ¬z.Wildcard := fun z hz hfits hw =>
        hwild (List.any_eq_true.mpr ⟨z, hz, (admits_iff hz).mpr ⟨hw, hfits⟩⟩)
      by_cases hcity : a.foldedCity = ""
      · rw [if_pos hcity]
        refine iff_of_false nofun ?_
        rintro ⟨z, hz, hfits, hw | hlocated⟩
        · exact hnone z hz hfits hw
        · exact hlocated hcity
      · rw [if_neg hcity]
        split
        next hany =>
          obtain ⟨z, hz, hfull⟩ := List.any_eq_true.mp hany
          obtain ⟨hreaches, hlists⟩ := Bool.and_eq_true_iff.mp hfull
          exact iff_of_true rfl ⟨z, hz, ⟨((reaches_iff hz).mp hreaches).2, lists_iff.mp hlists⟩, Or.inr hcity⟩
        next hany =>
          refine iff_of_false ?_ ?_
          · split <;> nofun
          · rintro ⟨z, hz, hfits, -⟩
            refine hany (List.any_eq_true.mpr ⟨z, hz, Bool.and_eq_true_iff.mpr ⟨?_, lists_iff.mpr hfits.2⟩⟩)
            exact (reaches_iff hz).mpr ⟨hnone z hz hfits, hfits.1⟩

/-- The reason of a refusal. -/
theorem match_district_iff : matchAddressToStoreZones a city d true = .district_mismatch ↔
    matchAddressToStoreZones a city d true ≠ .ok ∧ a.Located ∧ ∃ z ∈ parseStoreZones d, z.Passes a ∧ ¬z.Lists a := by
  by_cases hok : matchAddressToStoreZones a city d true = .ok
  · simp [hok]
  have hrefused := hok
  rw [match_ok_iff] at hok
  push Not at hok
  by_cases hnil : parseStoreZones d = []
  · rw [match_without_zones a d city hnil]
    refine iff_of_false ?_ ?_
    · split
      · nofun
      · split <;> nofun
    · rintro ⟨-, -, z, hz, -⟩
      rw [hnil] at hz
      cases hz
  · rw [match_with_zones a d city hnil] at hrefused ⊢
    split at hrefused
    · exact absurd rfl hrefused
    next hwild =>
      rw [if_neg hwild]
      by_cases hcity : a.foldedCity = ""
      · rw [if_pos hcity]
        refine iff_of_false nofun ?_
        rintro ⟨-, hlocated, -⟩
        exact hlocated hcity
      · rw [if_neg hcity] at hrefused ⊢
        split at hrefused
        · exact absurd rfl hrefused
        next hany =>
          rw [if_neg hany]
          split
          next hreached =>
            obtain ⟨z, hz, hreaches⟩ := List.any_eq_true.mp hreached
            have hpasses := ((reaches_iff hz).mp hreaches).2
            refine iff_of_true rfl ⟨nofun, hcity, z, hz, hpasses, fun hlists => ?_⟩
            exact hok.2 z hz ⟨hpasses, hlists⟩ |>.2 hcity
          next hreached =>
            refine iff_of_false nofun ?_
            rintro ⟨-, -, z, hz, hpasses, hlists⟩
            refine hreached (List.any_eq_true.mpr ⟨z, hz, (reaches_iff hz).mpr ⟨fun hw => ?_, hpasses⟩⟩)
            exact hlists (Or.inl hw.2)

/-- Two columns are matched alike where their zones fit and pass alike. -/
theorem match_congr {d' : Json} (hnil : parseStoreZones d = [] ↔ parseStoreZones d' = [])
    (hfits : (∃ z ∈ parseStoreZones d, z.Fits a ∧ (z.Wildcard ∨ a.Located)) ↔
      ∃ z ∈ parseStoreZones d', z.Fits a ∧ (z.Wildcard ∨ a.Located))
    (hpasses : (∃ z ∈ parseStoreZones d, z.Passes a ∧ ¬z.Lists a) ↔ ∃ z ∈ parseStoreZones d', z.Passes a ∧ ¬z.Lists a) :
    matchAddressToStoreZones a city d true = matchAddressToStoreZones a city d' true := by
  have hok : matchAddressToStoreZones a city d true = .ok ↔ matchAddressToStoreZones a city d' true = .ok := by
    rw [match_ok_iff, match_ok_iff, hnil, hfits]
  have hdistrict : matchAddressToStoreZones a city d true = .district_mismatch ↔
      matchAddressToStoreZones a city d' true = .district_mismatch := by
    rw [match_district_iff, match_district_iff, Ne, Ne, hok, hpasses]
  cases h : matchAddressToStoreZones a city d true with
  | ok => exact (hok.mp h).symm
  | district_mismatch => exact (hdistrict.mp h).symm
  | city_mismatch =>
      cases h' : matchAddressToStoreZones a city d' true with
      | ok => rw [hok.mpr h'] at h; cases h
      | district_mismatch => rw [hdistrict.mpr h'] at h; cases h
      | city_mismatch => rfl

/-! ### What an update stores -/

/-- What the matcher relies on of upper-casing. -/
structure CaseFolding : Prop where
  idempotent : ∀ s, Cities.toUpperCase (Cities.toUpperCase s) = Cities.toUpperCase s
  /-- White space is added at no end. -/
  trimmed : ∀ s, trim (Cities.toUpperCase (trim s)) = Cities.toUpperCase (trim s)
  empty : ∀ s, Cities.toUpperCase s = "" ↔ s = ""

/-- A member that is left out when its text is empty. -/
def textField (key text : String) : List (String × Json) := if text = "" then [] else [(key, .str text)]

/-- The country of a row, trimmed and in upper case; empty when it is missing or no text. -/
def countryMember (members : List (String × Json)) : String :=
  match members.lookup "country" with
  | some (.str s) => Cities.toUpperCase (trim s)
  | _ => ""

/-- `typeof d === 'string' ? d.trim() : ''`. -/
def trimmedText : Json → String
  | .str s => trim s
  | _ => ""

/-- The district list of a row, trimmed and without the empty ones. -/
def sanitizedDistricts (members : List (String × Json)) : List String :=
  match members.lookup "districts" with
  | some (.arr values) => (values.map trimmedText).filter fun d => d ≠ ""
  | _ => []

/-- The members of a stored row. -/
def zoneMembers (country region city : String) (districts : List String) (note : String) : List (String × Json) :=
  textField "country" country ++ textField "region" region ++ textField "city" city ++
    (if districts = [] then [] else [("districts", .arr (districts.map .str))]) ++ textField "note" note

/-- One row of the input; a row without any scope is dropped. -/
def sanitizeZone : Json → Option Json
  | .obj members =>
      let country := countryMember members
      let region := textMember members "region"
      let city := textMember members "city"
      let districts := sanitizedDistricts members
      let note := textMember members "note"
      if country = "" ∧ region = "" ∧ city = "" ∧ districts = [] then none
      else some (.obj (zoneMembers country region city districts note))
  | _ => none

def sanitizeZones : Json → Json
  | .arr values => .arr (values.filterMap sanitizeZone)
  | _ => .arr []

/-- A parsed zone with its country in upper case. -/
def DeliveryZone.canonical (zone : DeliveryZone) : DeliveryZone :=
  { zone with country := zone.country.map Cities.toUpperCase }

omit [Cities] in
theorem lookup_textField (key text other : String) : (textField key text).lookup other =
    if other = key ∧ text ≠ "" then some (.str text) else none := by
  unfold textField
  by_cases htext : text = ""
  · simp [htext]
  · by_cases hkey : other = key
    · simp [htext, hkey]
    · have hbeq : (other == key) = false := by simpa using hkey
      simp [htext, hkey, List.lookup_cons, hbeq]

omit [Cities] in
theorem sanitizedDistricts_eq (members : List (String × Json)) :
    sanitizedDistricts members = districtMembers members := by
  unfold sanitizedDistricts districtMembers
  cases hlookup : members.lookup "districts" with
  | none => rfl
  | some found =>
      cases found with
      | arr values =>
          dsimp only
          clear hlookup
          induction values with
          | nil => rfl
          | cons v rest ih =>
              cases v with
              | str s => simp only [List.map_cons, List.filterMap_cons, List.filter_cons, trimmedText, ih]
              | null | bool _ | num _ | arr _ | obj _ =>
                  rw [List.map_cons, List.filter_cons_of_neg (by simp [trimmedText])]
                  exact ih
      | null | bool _ | num _ | str _ | obj _ => rfl

omit [Cities] in
theorem districtMembers_trim (members : List (String × Json)) : ∀ x ∈ districtMembers members, trim x = x ∧ x ≠ "" := by
  intro x hx
  unfold districtMembers at hx
  split at hx
  · obtain ⟨hmem, hne⟩ := List.mem_filter.mp hx
    obtain ⟨v, -, hv⟩ := List.mem_filterMap.mp hmem
    cases v with
    | str s =>
        cases hv
        exact ⟨trim_trim s, of_decide_eq_true hne⟩
    | null | bool _ | num _ | arr _ | obj _ => cases hv
  · cases hx

theorem countryMember_eq (hcase : CaseFolding) (members : List (String × Json)) :
    countryMember members = Cities.toUpperCase (textMember members "country") := by
  have hempty : Cities.toUpperCase "" = "" := (hcase.empty "").mpr rfl
  unfold countryMember textMember
  cases members.lookup "country" with
  | none => exact hempty.symm
  | some v =>
      cases v with
      | str s => rfl
      | null | bool _ | num _ | arr _ | obj _ => exact hempty.symm

section Members

omit [Cities]

variable {country region city : String} {districts : List String} (note : String)

theorem textMember_zoneMembers (districts : List String) (hcountry : trim country = country)
    (hregion : trim region = region) (hcity : trim city = city) :
    textMember (zoneMembers country region city districts note) "country" = country ∧
      textMember (zoneMembers country region city districts note) "region" = region ∧
      textMember (zoneMembers country region city districts note) "city" = city := by
  have hlookup (key : String) (h : key ≠ "districts") : (zoneMembers country region city districts note).lookup key =
      ((((textField "country" country).lookup key).or ((textField "region" region).lookup key)).or
        ((textField "city" city).lookup key)).or ((textField "note" note).lookup key) := by
    have hdistricts : (if districts = [] then [] else [("districts", Json.arr (districts.map .str))]).lookup key = none := by
      split
      · rfl
      · simp [List.lookup_cons, beq_eq_false_iff_ne.mpr h]
    simp only [zoneMembers, List.lookup_append, hdistricts, Option.or_none]
  have hread {key text : String} (htrim : trim text = text)
      (h : (zoneMembers country region city districts note).lookup key = if text = "" then none else some (.str text)) :
      textMember (zoneMembers country region city districts note) key = text := by
    unfold textMember
    rw [h]
    by_cases hempty : text = ""
    · simp [hempty]
    · simpa [hempty] using htrim
  refine ⟨hread hcountry ?_, hread hregion ?_, hread hcity ?_⟩
  · rw [hlookup _ (by decide)]
    by_cases hempty : country = "" <;> simp [lookup_textField, hempty]
  · rw [hlookup _ (by decide)]
    by_cases hempty : region = "" <;> simp [lookup_textField, hempty]
  · rw [hlookup _ (by decide)]
    by_cases hempty : city = "" <;> simp [lookup_textField, hempty]

theorem districtMembers_zoneMembers (h : ∀ x ∈ districts, trim x = x ∧ x ≠ "") :
    districtMembers (zoneMembers country region city districts note) = districts := by
  unfold districtMembers
  have hlookup : (zoneMembers country region city districts note).lookup "districts" =
      if districts = [] then none else some (.arr (districts.map .str)) := by
    simp only [zoneMembers, List.lookup_append, lookup_textField]
    by_cases hempty : districts = [] <;> simp [hempty]
  rw [hlookup]
  by_cases hempty : districts = []
  · simp [hempty]
  · rw [if_neg hempty]
    dsimp only
    have htrim : districts.map trim = districts := by
      conv_rhs => rw [← List.map_id districts]
      exact List.map_congr_left fun x hx => (h x hx).1
    rw [List.filterMap_map]
    change ((districts.filterMap fun x => some (trim x)).filter fun x => x ≠ "") = districts
    rw [List.filterMap_eq_map', htrim, List.filter_eq_self]
    exact fun x hx => decide_eq_true (h x hx).2

end Members

/-- What is stored for a row is parsed as the row. -/
theorem parseZone_sanitizeZone (hcase : CaseFolding) (v : Json) :
    (sanitizeZone v).bind parseZone = (parseZone v).map DeliveryZone.canonical := by
  cases v with
  | obj members =>
      have hcountry := countryMember_eq hcase members
      have hempty : Cities.toUpperCase (textMember members "country") = "" ↔ textMember members "country" = "" :=
        hcase.empty _
      rw [sanitizeZone, parseZone, hcountry, sanitizedDistricts_eq]
      by_cases hscope : textMember members "country" = "" ∧ textMember members "region" = "" ∧
          textMember members "city" = "" ∧ districtMembers members = []
      · rw [if_pos hscope, if_pos (by rwa [hempty])]
        rfl
      · rw [if_neg hscope, if_neg (by rwa [hempty]), Option.bind_some, Option.map_some]
        have hupper : trim (Cities.toUpperCase (textMember members "country")) =
            Cities.toUpperCase (textMember members "country") := by
          rw [← textMember_trim, hcase.trimmed]
        obtain ⟨hc, hr, hcity⟩ := textMember_zoneMembers (textMember members "note") (districtMembers members) hupper
          (textMember_trim members "region") (textMember_trim members "city")
        rw [parseZone, hc, hr, hcity, districtMembers_zoneMembers _ (districtMembers_trim members),
          if_neg (by rwa [hempty])]
        by_cases hnone : textMember members "country" = ""
        · simp [DeliveryZone.canonical, hnone, (hcase.empty "").mpr rfl]
        · simp [DeliveryZone.canonical, hnone, hempty]
  | null | bool _ | num _ | str _ | arr _ => rfl

theorem parseStoreZones_sanitizeZones (hcase : CaseFolding) (d : Json) :
    parseStoreZones (sanitizeZones d) = (parseStoreZones d).map DeliveryZone.canonical := by
  cases d with
  | arr values =>
      rw [sanitizeZones, parseStoreZones, parseStoreZones, List.filterMap_filterMap, List.map_filterMap]
      exact congrArg (fun f => values.filterMap f) (funext fun v => parseZone_sanitizeZone hcase v)
  | null | bool _ | num _ | str _ | obj _ => rfl

theorem canonical_passes (hcase : CaseFolding) (h : zone ∈ parseStoreZones d) :
    zone.canonical.Passes a ↔ zone.Passes a := by
  obtain ⟨v, hv⟩ := mem_parseStoreZones h
  have hcountry : (∀ c, zone.canonical.country = some c → a.countryText = "" ∨ SameCountry c a.countryText) ↔
      ∀ c, zone.country = some c → a.countryText = "" ∨ SameCountry c a.countryText := by
    have hsame {c : String} (hc : trim c = c) :
        SameCountry (Cities.toUpperCase c) a.countryText ↔ SameCountry c a.countryText := by
      have hupper : trim (Cities.toUpperCase c) = Cities.toUpperCase c := by
        conv_lhs => rw [← hc, hcase.trimmed, hc]
      rw [SameCountry, SameCountry, hupper, hcase.idempotent, hc]
    cases hzone : zone.country with
    | none => simp [DeliveryZone.canonical, hzone]
    | some c => simp [DeliveryZone.canonical, hzone, hsame (parseZone_country hv hzone).2]
  unfold DeliveryZone.Passes
  rw [hcountry]
  simp [DeliveryZone.canonical, DeliveryZone.Wildcard]

/-- **The rule of coverage.** -/
theorem matchAddressToStoreZones_rule (hcase : CaseFolding) (a : AddressScope) (city : String) (d : Json) :
    (matchAddressToStoreZones a city d true = .ok ↔
      (parseStoreZones d = [] ∧ a.Located ∧ Cities.normaliseCity city = a.foldedCity) ∨
        ∃ z ∈ parseStoreZones d, z.Fits a ∧ (z.Wildcard ∨ a.Located)) ∧
    (matchAddressToStoreZones a city d true = .district_mismatch ↔
      matchAddressToStoreZones a city d true ≠ .ok ∧ a.Located ∧
        ∃ z ∈ parseStoreZones d, z.Passes a ∧ ¬z.Lists a) ∧
    (∀ xs ys : List Json, xs.Perm ys →
      matchAddressToStoreZones a city (.arr xs) true = matchAddressToStoreZones a city (.arr ys) true) ∧
    (∀ (xs ys : List Json) (z : Json), parseStoreZones (.arr (xs ++ ys)) ≠ [] →
      matchAddressToStoreZones a city (.arr (xs ++ ys)) true = .ok →
        matchAddressToStoreZones a city (.arr (xs ++ z :: ys)) true = .ok) ∧
    matchAddressToStoreZones a city (sanitizeZones d) true = matchAddressToStoreZones a city d true := by
  refine ⟨match_ok_iff, match_district_iff, fun xs ys hperm => ?_, fun xs ys z hne hok => ?_, ?_⟩
  · have hzones : (parseStoreZones (.arr xs)).Perm (parseStoreZones (.arr ys)) := hperm.filterMap parseZone
    have hexists (P : DeliveryZone → Prop) :
        (∃ z ∈ parseStoreZones (.arr xs), P z) ↔ ∃ z ∈ parseStoreZones (.arr ys), P z :=
      exists_congr fun z => and_congr_left fun _ => hzones.mem_iff
    apply match_congr _ (hexists _) (hexists _)
    rw [← List.isEmpty_iff, ← List.isEmpty_iff, hzones.isEmpty_eq]
  · rw [match_ok_iff] at hok ⊢
    rcases hok with ⟨hnil, -⟩ | ⟨zone, hzone, hfits⟩
    · exact absurd hnil hne
    · refine Or.inr ⟨zone, ?_, hfits⟩
      obtain ⟨v, hv, hparse⟩ := List.mem_filterMap.mp hzone
      refine List.mem_filterMap.mpr ⟨v, ?_, hparse⟩
      exact (List.mem_append.mp hv).elim (List.mem_append_left _) fun h =>
        List.mem_append_right _ (List.mem_cons_of_mem _ h)
  · have hzones := parseStoreZones_sanitizeZones hcase d
    have hexists {P : DeliveryZone → Prop} (hP : ∀ z ∈ parseStoreZones d, P z.canonical ↔ P z) :
        (∃ z ∈ parseStoreZones (sanitizeZones d), P z) ↔ ∃ z ∈ parseStoreZones d, P z := by
      rw [hzones]
      constructor
      · rintro ⟨z, hz, hPz⟩
        obtain ⟨y, hy, rfl⟩ := List.mem_map.mp hz
        exact ⟨y, hy, (hP y hy).mp hPz⟩
      · rintro ⟨z, hz, hPz⟩
        exact ⟨z.canonical, List.mem_map_of_mem hz, (hP z hz).mpr hPz⟩
    apply match_congr
    · rw [hzones, List.map_eq_nil_iff]
    · exact hexists fun z hz => and_congr (and_congr (canonical_passes hcase hz) Iff.rfl) Iff.rfl
    · exact hexists fun z hz => and_congr (canonical_passes hcase hz) Iff.rfl

end Rule

/-! ### An address without a city -/

namespace Pilot

/-- Only small letters change, by 32. -/
theorem toUpper_cases (c : Char) :
    c.toUpper = c ∨ (97 ≤ c.toNat ∧ c.toNat ≤ 122 ∧ c.toUpper.toNat = c.toNat - 32) := by
  unfold Char.toUpper
  split
  next h =>
    obtain ⟨hle, hge⟩ := h
    rw [UInt32.le_iff_toNat_le] at hle
    rw [UInt32.le_iff_toNat_le] at hge
    change 97 ≤ c.toNat at hle
    change c.toNat ≤ 122 at hge
    refine Or.inr ⟨hle, hge, ?_⟩
    change (c.val + ('A'.val - 'a'.val)).toNat = c.toNat - 32
    rw [UInt32.toNat_add]
    change (c.toNat + 4294967264) % 4294967296 = c.toNat - 32
    omega
  next => exact Or.inl rfl

theorem toUpper_toUpper (c : Char) : c.toUpper.toUpper = c.toUpper := by
  rcases toUpper_cases c with hsame | ⟨hle, hge, hupper⟩
  · rw [hsame, hsame]
  · rcases toUpper_cases c.toUpper with hsame | ⟨hle', -, -⟩
    · exact hsame
    · omega

theorem isTrimmed_toUpper (c : Char) : isTrimmed c.toUpper = isTrimmed c := by
  rcases toUpper_cases c with hsame | ⟨hle, hge, hupper⟩
  · rw [hsame]
  · -- no letter is white space
    have hletter {n : Nat} (hn : 65 ≤ n ∧ n ≤ 122) : ∀ x : Char, x.toNat = n → isTrimmed x = false := by
      intro x hx
      unfold isTrimmed
      simp only [Bool.or_eq_false_iff, Bool.and_eq_false_iff, decide_eq_false_iff_not]
      omega
    rw [hletter ⟨by omega, by omega⟩ c.toUpper hupper, hletter ⟨by omega, hge⟩ c rfl]

theorem plainCities_caseFolding : @CaseFolding plainCities := by
  let _ := plainCities
  have htoUpper (s : String) : (Cities.toUpperCase s).toList = s.toList.map Char.toUpper := String.toList_map
  refine { idempotent := fun s => ?_, trimmed := fun s => ?_, empty := fun s => ?_ }
  · rw [← String.toList_inj, htoUpper, htoUpper, List.map_map]
    exact List.map_congr_left fun c _ => toUpper_toUpper c
  · rw [← String.toList_inj, trim_eq_strip, String.toList_ofList, htoUpper, Lib.strip_map isTrimmed_toUpper,
      trim_eq_strip s, String.toList_ofList, Lib.strip_strip]
  · rw [← String.toList_inj, htoUpper, ← @String.toList_inj _ ""]
    simp

/-- A zone of one district, and none of a city. -/
def districtZone : Json := .arr [.obj [("districts", .arr [.str "Olaya"])]]

/-- An address in that district whose city is missing. -/
def cityless : AddressScope := ⟨some "SA", none, none, some "Olaya"⟩

end Pilot

theorem matchAddressToStoreZones_rule_district :
    @matchAddressToStoreZones Pilot.plainCities { Pilot.cityless with city := some "Riyadh" } "" Pilot.districtZone true =
      .ok := by
  let _ := Pilot.plainCities
  refine (matchAddressToStoreZones_rule Pilot.plainCities_caseFolding _ "" Pilot.districtZone).1.mpr (Or.inr ?_)
  refine ⟨⟨none, none, none, ["Olaya"]⟩, by decide +kernel, ⟨⟨nofun, nofun, nofun, nofun⟩, Or.inr ?_⟩, Or.inr ?_⟩
  · exact ⟨by decide +kernel, "Olaya", by decide +kernel, rfl⟩
  · unfold AddressScope.Located
    decide +kernel

/-- **A zone that fits does not cover**: a zone of districts, and an address without a city. -/
theorem matchAddressToStoreZones_unlocated :
    (∃ z ∈ parseStoreZones Pilot.districtZone, @DeliveryZone.Fits Pilot.plainCities z Pilot.cityless) ∧
      @matchAddressToStoreZones Pilot.plainCities Pilot.cityless "" Pilot.districtZone true = .city_mismatch := by
  let _ := Pilot.plainCities
  refine ⟨⟨⟨none, none, none, ["Olaya"]⟩, ?_, ⟨nofun, nofun, nofun, nofun⟩, Or.inr ⟨?_, "Olaya", ?_, rfl⟩⟩, ?_⟩
  all_goals decide +kernel

end Qift.Market
