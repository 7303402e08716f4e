import Qift.Market.State
import Qift.Shop.Gifts

/-!
# Delivery zones

`delivery-zones.ts`: whether a store delivers to an address.

* `parseStoreZones` reads the zones of a store; a row without any scope is dropped.
* `matchAddressToStoreZones` tries the country and region wildcards first, then the zones that name a city or
  districts; a store without zones falls back to its own city.
-/

namespace Qift.Market

open Shop

/-- A coverage zone; an unset field is a wildcard. -/
structure DeliveryZone where
  country : Option String
  region : Option String
  city : Option String
  districts : List String
  deriving DecidableEq

/-- What the matcher reads of an address. -/
structure AddressScope where
  country : Option String
  region : Option String
  city : Option String
  district : Option String

inductive CoverageMatch
  | ok
  | city_mismatch
  | district_mismatch
  deriving DecidableEq

/-! ### Parsing -/

/-- A text member of an object, trimmed; empty when it is missing or no text. -/
def textMember (members : List (String × Json)) (key : String) : String :=
  match members.lookup key with
  | some (.str s) => trim s
  | _ => ""

/-- The texts of the district list, trimmed and without the empty ones. -/
def districtMembers (members : List (String × Json)) : List String :=
  match members.lookup "districts" with
  | some (.arr values) =>
      (values.filterMap fun v =>
        match v with
        | .str s => some (trim s)
        | _ => none).filter fun d => d ≠ ""
  | _ => []

/-- One row of the column; a row without any scope is no zone. -/
def parseZone : Json → Option DeliveryZone
  | .obj members =>
      let country := textMember members "country"
      let region := textMember members "region"
      let city := textMember members "city"
      let districts := districtMembers members
      if country = "" ∧ region = "" ∧ city = "" ∧ districts = [] then none
      else
        some
          { country := if country = "" then none else some country
            region := if region = "" then none else some region
            city := if city = "" then none else some city
            districts := districts }
  | _ => none

def parseStoreZones : Json → List DeliveryZone
  | .arr values => values.filterMap parseZone
  | _ => []

/-! ### Matching -/

section Matching

variable [Cities]

def sameCountry (a b : String) : Bool :=
  a ≠ "" && b ≠ "" && Cities.toUpperCase (trim a) = Cities.toUpperCase (trim b)

def sameRegion (a b : String) : Bool :=
  let na := Cities.normaliseCity a
  let nb := Cities.normaliseCity b
  na ≠ "" && nb ≠ "" && na = nb

/-- The country and region gates, each asked where both sides carry the field. -/
def DeliveryZone.gates (zone : DeliveryZone) (addrCountry addrRegion : String) : Bool :=
  (zone.country.all fun c => addrCountry = "" || sameCountry c addrCountry) &&
    zone.region.all fun r => addrRegion = "" || sameRegion r addrRegion

/-- A zone that names neither a city nor districts. -/
def DeliveryZone.wildcard (zone : DeliveryZone) : Bool := zone.city.isNone && zone.districts.isEmpty

/-- A wildcard needs the address to carry the field it scopes on. -/
def DeliveryZone.admits (zone : DeliveryZone) (addrCountry addrRegion : String) : Bool :=
  zone.wildcard && zone.gates addrCountry addrRegion && (zone.country.isNone || addrCountry ≠ "") &&
    (zone.region.isNone || addrRegion ≠ "")

/-- A zone of cities or districts whose gates and city fit. -/
def DeliveryZone.reaches (zone : DeliveryZone) (addrCountry addrRegion addrCity : String) : Bool :=
  !zone.wildcard && zone.gates addrCountry addrRegion &&
    zone.city.all fun c => Cities.normaliseCity c = addrCity

/-- The district whitelist; an empty one covers the whole city. -/
def DeliveryZone.lists (zone : DeliveryZone) (addrDistrict : String) : Bool :=
  zone.districts.isEmpty ||
    (addrDistrict ≠ "" && (zone.districts.map Cities.normaliseCity).contains addrDistrict)

def matchAddressToStoreZones (address : AddressScope) (city : String) (deliveryZones : Json)
    (isFastDelivery : Bool) : CoverageMatch :=
  if isFastDelivery = false then .ok
  else
    let addrCountry := trim (address.country.getD "")
    let addrRegion := trim (address.region.getD "")
    let addrCity := Cities.normaliseCity (address.city.getD "")
    let addrDistrict := Cities.normaliseCity (address.district.getD "")
    let zones := parseStoreZones deliveryZones
    if zones = [] then
      -- the single city of a store that never saved zones
      if addrCity = "" then .city_mismatch
      else if Cities.normaliseCity city = addrCity then .ok
      else .city_mismatch
    else if zones.any fun z => z.admits addrCountry addrRegion then .ok
    else if addrCity = "" then .city_mismatch
    else if zones.any fun z => z.reaches addrCountry addrRegion addrCity && z.lists addrDistrict then .ok
    else if zones.any fun z => z.reaches addrCountry addrRegion addrCity then .district_mismatch
    else .city_mismatch

end Matching

end Qift.Market
