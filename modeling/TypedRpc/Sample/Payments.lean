import TypedRpc.Handler.Shaped

/-!
The sample handler that charges. The payment method is one of two alternatives; a receipt names the bank account
in full, and of a card the last four bytes of the number. A number that cannot be cut there, because that would
split a character, is named in full.
-/

namespace TypedRpc.Sample

open TypedRpc.Wire

/-- A card. -/
structure Card where
  number : String
  cvc : String

/-- The alternatives of paying, of which exactly one should be there. -/
structure PaymentMethod where
  card : Option Card
  iban : Option String

/-- What is to be charged. -/
structure Charge where
  amountCents : Nat
  method : PaymentMethod

/-- What was charged, and how. -/
structure Receipt where
  chargedCents : Nat
  via : String

/-- What follows the first `offset` bytes of a text, unless that offset lies inside a character. -/
def dropBytes? : Nat → List Char → Option (List Char)
  | 0, cs => some cs
  | _ + 1, [] => none
  | offset + 1, c :: cs => if offset + 1 < c.utf8Size then none else dropBytes? (offset + 1 - c.utf8Size) cs

/-- The last four bytes of a number; all of it if it is shorter or cannot be cut there. -/
def lastFour (number : String) : String :=
  ((dropBytes? (number.utf8ByteSize - 4) number.toList).map String.ofList).getD number

/-- Charges a payment method. -/
def charge (_ : Context) (input : Charge) : Outcome Receipt :=
  match input.method.card, input.method.iban with
  | some card, none => .value ⟨input.amountCents, "card ending " ++ lastFour card.number⟩
  | none, some iban => .value ⟨input.amountCents, "iban " ++ iban⟩
  | some _, some _ => .failure (.ofMessage "choose either card or iban, not both")
  | none, none => .failure (.ofMessage "a payment method is required")

/-- Reads a card. -/
def Card.ofWire (value : Value) : Card :=
  ⟨(value.member "number").textOr, (value.member "cvc").textOr⟩

/-- Reads a payment method. -/
def PaymentMethod.ofWire (value : Value) : PaymentMethod :=
  ⟨(value.member "card").payload?.map Card.ofWire, (value.member "iban").payload?.map (·.textOr)⟩

/-- Reads what is to be charged. -/
def Charge.ofWire (value : Value) : Charge :=
  ⟨(value.member "amount_cents").integerOr.toNat, .ofWire (value.member "method")⟩

/-- The receipt as it travels. -/
def Receipt.toWire (receipt : Receipt) : Value :=
  .record [("charged_cents", .integer receipt.chargedCents), ("via", .text receipt.via)]

/-- The records of the payments, in a module of the given path. -/
def paymentRecords (path : String) : List RecordDecl :=
  [
    ⟨path ++ "::PaymentMethod", "PaymentMethod",
      [.plain "card" (.choice (.record (path ++ "::Card"))), .plain "iban" (.choice .text)], false, false⟩,
    ⟨path ++ "::Card", "Card", [.plain "number" .text, .plain "cvc" .text], false, true⟩,
    ⟨path ++ "::Charge", "Charge",
      [.plain "amount_cents" (.natural 64), .plain "method" (.record (path ++ "::PaymentMethod"))], false, false⟩,
    ⟨path ++ "::Receipt", "Receipt", [.plain "charged_cents" (.natural 64), .plain "via" .text], false, false⟩
  ]

end TypedRpc.Sample
