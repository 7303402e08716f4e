import Qift.Fees.Money
import Qift.Lib.Table
import Qift.Runtime
import Qift.Settlement.Calculator

/-!
# The stored state of the market

The rows a checkout reads: accounts with their addresses, stores with their products, and the orders it writes.
Identifiers are texts here, as requests name them.
-/

namespace Qift.Market

structure User where
  id : String
  qiftUsername : String
  deletedAt : Option Time
  deriving DecidableEq

structure Address where
  id : String
  userId : String
  country : String
  region : Option String
  city : String
  district : String
  isDefault : Bool
  deriving DecidableEq

structure Store where
  id : String
  status : String
  city : String
  category : String
  /-- The `deliveryZones` column. -/
  deliveryZones : Json

structure Product where
  id : String
  storeId : String
  price : Number
  isAvailable : Bool
  stockStatus : String
  category : String
  isFastDelivery : Bool

structure Order where
  orderNumber : String
  userId : String
  receiverUsername : String
  productName : String
  storeName : String
  productId : Option String
  storeId : Option String
  occasionId : Option String
  productPrice : Number
  serviceFee : Number
  deliveryFee : Number
  totalAmount : Number
  currency : String
  country : String
  paymentProvider : String
  message : Option String
  mediaUrl : Option String
  mediaType : Option String
  isSurprise : Bool
  isAnonymous : Bool
  status : String

end Qift.Market

namespace Qift

open Relational

/-- The market and its tables. -/
structure Market where
  users : Table Market.User.id
  addresses : Table Market.Address.id
  stores : Table Market.Store.id
  products : Table Market.Product.id
  orders : Table Market.Order.orderNumber

namespace Market

def user (m : Market) (id : String) : Option User := m.users.find id

def store (m : Market) (id : String) : Option Store := m.stores.find id

def product (m : Market) (id : String) : Option Product := m.products.find id

def addressesOf (m : Market) (userId : String) : List Address := m.addresses.rows.filter fun a => a.userId = userId

/-- `getDefaultAddressForUser`. -/
def defaultAddress (m : Market) (userId : String) : Option Address :=
  if userId = "" then none else (m.addressesOf userId).find? fun a => a.isDefault

end Market

end Qift
