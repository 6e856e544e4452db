import MailRouting.Address.Error
import MailRouting.Decimal.Shortest
import MailRouting.Text.Quoted

/-!
# Values of a data format

Configuration and addresses are exchanged as plain values: null, booleans, numbers, texts, lists
and maps.

* `Value` — such a value;
* `DecodeError` — why a value is not of the kind that was wanted, with `message` in words;
* `Value.asText`, `Value.asNatural`, `Value.asList`, `Value.asOption` — readings of one value;
* `Value.asVariant` — a choice: a name, or a map from one name to the content of the choice;
* `Slots`, `Value.asRecord` — the fields of a record, given as a map or as a list in field order.
-/

namespace MailRouting

/-- A value of a data format. -/
inductive Value where
  | null
  | bool (b : Bool)
  | int (n : Int)
  | float (x : Float)
  | text (s : String)
  | list (items : List Value)
  | map (entries : List (String × Value))

/-- Why a value is not of the kind that was wanted. -/
inductive DecodeError where
  /-- A value of another type. -/
  | invalidType (found wanted : String)
  /-- A value of the right type out of range. -/
  | invalidValue (found wanted : String)
  /-- A list of the wrong length. -/
  | invalidLength (length : Nat) (wanted : String)
  /-- The name of none of the known choices. -/
  | unknownVariant (name : String) (known : List String)
  | missingField (name : String)
  /-- A text that is no address or no domain. -/
  | invalidAddress (cause : AddressError)
  deriving DecidableEq, Repr

namespace DecodeError

/-- A name in the quotes that names carry in messages. -/
def quoteName (name : String) : String :=
  "`" ++ name ++ "`"

/-- The known choices in words. -/
def listNames : List String → String
  | [] => "there are no variants"
  | [a] => "expected " ++ quoteName a
  | [a, b] => "expected " ++ quoteName a ++ " or " ++ quoteName b
  | names => "expected one of " ++ String.intercalate ", " (names.map quoteName)

/-- The error in words. -/
def message : DecodeError → String
  | .invalidType found wanted => s!"invalid type: {found}, expected {wanted}"
  | .invalidValue found wanted => s!"invalid value: {found}, expected {wanted}"
  | .invalidLength length wanted => s!"invalid length {length}, expected {wanted}"
  | .unknownVariant name known => s!"unknown variant {quoteName name}, {listNames known}"
  | .missingField name => s!"missing field {quoteName name}"
  | .invalidAddress cause => cause.message

end DecodeError

namespace Value

/-- The value as messages name it. -/
def describe : Value → String
  | .null => "null"
  | .bool b => "boolean " ++ DecodeError.quoteName (if b then "true" else "false")
  | .int n => "integer " ++ DecodeError.quoteName (toString n)
  | .float x => "floating point " ++ DecodeError.quoteName (Decimal.ofFloat x)
  | .text s => "string " ++ Text.quote s
  | .list _ => "sequence"
  | .map _ => "map"

/-- The error of a value that is not of the type `wanted`. -/
def mismatch (v : Value) (wanted : String) : DecodeError :=
  .invalidType v.describe wanted

/-! ### Single values -/

/-- A text. -/
def asText : Value → Except DecodeError String
  | .text s => .ok s
  | v => .error (v.mismatch "a string")

/-- The greatest number of 64 bits. -/
def maxNatural : Int := 18446744073709551615

/-- A number of 64 bits without a sign. -/
def asNatural (wanted : String) : Value → Except DecodeError Nat
  | .int n =>
    if 0 ≤ n ∧ n ≤ maxNatural then .ok n.toNat
    else .error (.invalidValue (Value.int n).describe wanted)
  | v => .error (v.mismatch wanted)

/-- A list of values of one kind; the first one that is not of the kind is the error. -/
def asList (read : Value → Except DecodeError α) : Value → Except DecodeError (List α)
  | .list items => items.mapM read
  | v => .error (v.mismatch "a sequence")

/-- A value that may be null. -/
def asOption (read : Value → Except DecodeError α) : Value → Except DecodeError (Option α)
  | .null => .ok none
  | v => (read v).map some

/-- The value of an optional part. -/
def ofOption (write : α → Value) : Option α → Value
  | none => .null
  | some a => write a

/-! ### Choices -/

/-- How the content of a choice is read. -/
inductive Variant (α : Type) where
  /-- A choice without content. -/
  | constant (a : α)
  /-- A choice whose content is read from a value. -/
  | content (read : Value → Except DecodeError α)

/-- A choice given by its name alone. -/
def Variant.named : Variant α → Except DecodeError α
  | .constant a => .ok a
  | .content _ => .error (.invalidType "unit variant" "newtype variant")

/-- A choice given with the value `v` as content. -/
def Variant.withContent (v : Value) : Variant α → Except DecodeError α
  | .constant a =>
    match v with
    | .null => .ok a
    | v => .error (v.mismatch "unit")
  | .content read => read v

/-- The choice of a name. -/
def findVariant (variants : List (String × Variant α)) (name : String) :
    Except DecodeError (Variant α) :=
  match variants.lookup name with
  | some variant => .ok variant
  | none => .error (.unknownVariant name (variants.map (·.1)))

/-- A choice: its name, or a map from its name to its content. -/
def asVariant (variants : List (String × Variant α)) : Value → Except DecodeError α
  | .text name => findVariant variants name >>= Variant.named
  | .map [(name, v)] => findVariant variants name >>= Variant.withContent v
  | .map _ => .error (.invalidValue "map" "map with a single key")
  | v => .error (v.mismatch "string or map")

/-! ### Records -/

/-- The fields of a record that were given, by name or by place. -/
inductive Slots where
  | named (entries : List (String × Value))
  | placed (items : List Value)

/-- The fields of the record `record`, given as a map or as a list. -/
def asRecord (record : String) : Value → Except DecodeError Slots
  | .map entries => .ok (.named entries)
  | .list items => .ok (.placed items)
  | v => .error (v.mismatch s!"struct {record}")

/-- The value of the field `name`, which is field number `place`. -/
def Slots.get? (slots : Slots) (name : String) (place : Nat) : Option Value :=
  match slots with
  | .named entries => entries.lookup name
  | .placed items => items[place]?

/-- A field that may be left out. -/
def Slots.optional (slots : Slots) (name : String) (place : Nat)
    (read : Value → Except DecodeError α) : Except DecodeError (Option α) :=
  match slots.get? name place with
  | some v => (read v).map some
  | none => .ok none

/-- A field that must be there, `shape` being the record in words. -/
def Slots.require (slots : Slots) (name shape : String) : Option α → Except DecodeError α
  | some a => .ok a
  | none =>
    match slots with
    | .named _ => .error (.missingField name)
    | .placed items => .error (.invalidLength items.length shape)

/-- Refuses a list with more items than the record has fields. Fields of unknown names are passed
over. -/
def Slots.close (slots : Slots) (fieldCount : Nat) : Except DecodeError Unit :=
  match slots with
  | .named _ => .ok ()
  | .placed items =>
    if fieldCount < items.length then
      .error (.invalidLength items.length "fewer elements in array")
    else .ok ()

end Value

end MailRouting
