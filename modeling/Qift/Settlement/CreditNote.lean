import Qift.Settlement.Statement
import Qift.Database

/-!
# The credit note

The pure document of `settlement-credit-note.ts`: its facts, its canonical JSON and its hash.
-/

namespace Qift.Settlement

structure CreditNoteFacts where
  referenceNumber : String
  refundId : Nat
  noteType : String
  invoiceType : InvoiceType
  invoiceId : Nat
  merchantInvoiceNumber : Option String
  merchantCreditNoteNumber : Option String
  qiftCreditNoteNumber : Option String
  issuerType : String
  issuanceSource : String
  onBehalfAuthorizationRef : Option String
  creditNoteUuid : Option String
  originalInvoiceNumber : Option String
  netComponent : Option Number
  reasonCode : Option String
  taxRuleVersion : Option String
  buyerSnapshot : Option Json
  issuerSnapshot : Option Json
  storeId : Option Nat
  orgId : Nat
  campaignId : Nat
  currency : CurrencyCode
  amount : Number
  vatComponent : Number
  reason : String
  issuedAt : String
  issuedBy : Nat
  statementSettlementId : Option Nat

/-- A text or `null`. -/
def textOrNull (s : Option String) : Json := s.elim .null .str

/-- An identifier or `null`. -/
def idOrNull (id : Option Nat) : Json := id.elim .null fun n => .str (idText n)

/-- The text of an invoice type. -/
def InvoiceType.name : InvoiceType → String
  | .merchant_invoice => "merchant_invoice"
  | .corporate_invoice => "corporate_invoice"

def buildCreditNoteDocument (facts : CreditNoteFacts) : Json :=
  .obj
    [("documentVersion", .str "v3"),
      ("referenceNumber", .str facts.referenceNumber),
      ("refundId", .str (idText facts.refundId)),
      ("noteType", .str facts.noteType),
      ("invoice", .obj
        [("invoiceType", .str (InvoiceType.name facts.invoiceType)),
          ("invoiceId", .str (idText facts.invoiceId)),
          ("merchantInvoiceNumber", textOrNull facts.merchantInvoiceNumber),
          ("originalInvoiceNumber", textOrNull facts.originalInvoiceNumber)]),
      ("issuerType", .str facts.issuerType),
      ("issuanceSource", .str facts.issuanceSource),
      ("onBehalfAuthorizationRef", textOrNull facts.onBehalfAuthorizationRef),
      ("creditNoteUuid", textOrNull facts.creditNoteUuid),
      ("merchantCreditNoteNumber", textOrNull facts.merchantCreditNoteNumber),
      ("qiftCreditNoteNumber", textOrNull facts.qiftCreditNoteNumber),
      ("netComponent", facts.netComponent.elim .null .num),
      ("reasonCode", textOrNull facts.reasonCode),
      ("taxRuleVersion", textOrNull facts.taxRuleVersion),
      ("buyerSnapshot", facts.buyerSnapshot.getD .null),
      ("issuerSnapshot", facts.issuerSnapshot.getD .null),
      ("storeId", idOrNull facts.storeId),
      ("orgId", .str (idText facts.orgId)),
      ("campaignId", .str (idText facts.campaignId)),
      ("currency", .str facts.currency.name),
      ("amount", .num facts.amount),
      ("vatComponent", .num facts.vatComponent),
      ("reason", .str facts.reason),
      ("issuedAt", .str facts.issuedAt),
      ("issuedBy", .str (idText facts.issuedBy)),
      ("statementSettlementId", idOrNull facts.statementSettlementId)]

section Hash

variable [Runtime]

def creditNoteCanonical (facts : CreditNoteFacts) : String :=
  canonicalJson (buildCreditNoteDocument facts)

def creditNoteHash (facts : CreditNoteFacts) : String := hashCanonical (creditNoteCanonical facts)

end Hash

/-- The facts of a stored note, with the statement it is to name. -/
def factsOf (note : CreditNote) (statementSettlementId : Option Nat) : CreditNoteFacts where
  referenceNumber := note.referenceNumber
  refundId := note.refundId
  noteType := note.noteType
  invoiceType := note.invoiceType
  invoiceId := note.invoiceId
  merchantInvoiceNumber := note.merchantInvoiceNumber
  merchantCreditNoteNumber := note.merchantCreditNoteNumber
  qiftCreditNoteNumber := note.qiftCreditNoteNumber
  issuerType := note.issuerType
  issuanceSource := note.issuanceSource
  onBehalfAuthorizationRef := note.onBehalfAuthorizationRef
  creditNoteUuid := note.creditNoteUuid
  originalInvoiceNumber := note.originalInvoiceNumber
  netComponent := note.netComponent.map moneyToNumber
  reasonCode := note.reasonCode
  taxRuleVersion := note.taxRuleVersion
  buyerSnapshot := note.buyerSnapshot
  issuerSnapshot := note.issuerSnapshot
  storeId := note.storeId
  orgId := note.orgId
  campaignId := note.campaignId
  currency := note.currency
  amount := moneyToNumber note.amount
  vatComponent := moneyToNumber note.vatComponent
  reason := note.reason
  issuedAt := toISOString note.issuedAt
  issuedBy := note.issuedBy
  statementSettlementId := statementSettlementId

def noteRow (facts : CreditNoteFacts) (issuedAt : Time) (canonical documentHash : String)
    (id : Nat) : CreditNote where
  id := id
  referenceNumber := facts.referenceNumber
  refundId := facts.refundId
  noteType := facts.noteType
  invoiceType := facts.invoiceType
  invoiceId := facts.invoiceId
  merchantInvoiceNumber := facts.merchantInvoiceNumber
  merchantCreditNoteNumber := facts.merchantCreditNoteNumber
  qiftCreditNoteNumber := facts.qiftCreditNoteNumber
  issuerType := facts.issuerType
  issuanceSource := facts.issuanceSource
  onBehalfAuthorizationRef := facts.onBehalfAuthorizationRef
  creditNoteUuid := facts.creditNoteUuid
  originalInvoiceNumber := facts.originalInvoiceNumber
  currentVersion := 1
  storeId := facts.storeId
  orgId := facts.orgId
  campaignId := facts.campaignId
  currency := facts.currency
  amount := Decimal.ofNumber facts.amount
  vatComponent := Decimal.ofNumber facts.vatComponent
  netComponent := facts.netComponent.map Decimal.ofNumber
  reasonCode := facts.reasonCode
  reason := facts.reason
  taxRuleVersion := facts.taxRuleVersion
  buyerSnapshot := facts.buyerSnapshot
  issuerSnapshot := facts.issuerSnapshot
  issuedAt := issuedAt
  issuedBy := facts.issuedBy
  canonicalJson := canonical
  documentHash := documentHash
  statementSettlementId := none

end Qift.Settlement
