import Harvest.Bson.Basic
import Harvest.Bson.Bytes
import Harvest.Bson.Date
import Harvest.Bson.Numerals
import Harvest.Decimal.Format
import Harvest.Json.Basic
import Harvest.Stored

/-!
Between JSON and BSON. Whole numbers take sixty-four bits, and an object whose one or two keys start with a
dollar sign in one of the known ways stands for a value that JSON does not have.
-/

namespace Harvest.Bson

def field? (name : String) : List (String × Bson) → Option Bson
  | [] => none
  | (k, v) :: fs => if k = name then some v else field? name fs

def text? : Bson → Option String
  | string s => some s
  | _ => none

def textField? (name : String) (fs : List (String × Bson)) : Option String := (field? name fs).bind text?

/-- Twenty-four hexadecimal digits, in lower case. -/
def objectId? (s : String) : Option String := do
  let bytes ← bytesOfHex? s.toList
  if bytes.length = 12 then pure (hexOfBytes bytes) else none

def doubleNamed? (s : String) : Option Bson := (doubleOf? s).map double

/-- The bytes of a binary value of the general subtype. -/
def plainBytes? : Bson → Option (List UInt8)
  | binary 0 bytes => some bytes
  | _ => none

def subtype? : Bson → Option UInt8
  | int32 n => if 0 ≤ n ∧ n < 256 then some n.toNat.toUInt8 else none
  | _ => none

/-- A binary value from texts or, if there is no text of bytes, from bytes and a number. -/
def binary? (fs : List (String × Bson)) : Option Bson :=
  match textField? "base64" fs with
  | some text => do
    let bytes ← bytesOfBase64? text.toList
    match ← bytesOfHex? (← textField? "subType" fs).toList with
    | [subtype] => pure (binary subtype bytes)
    | _ => none
  | none => do
    let bytes ← (field? "bytes" fs).bind plainBytes?
    pure (binary (← (field? "subType" fs).bind subtype?) bytes)

/-- A time and an increment, both of thirty-two bits with a sign that is not minded, or both within the
thirty-two bits without sign of a wider number. -/
def timestampOf? (time increment : Bson) : Option Bson :=
  match time, increment with
  | int32 t, int32 i => some (timestamp (t % 4294967296).toNat (i % 4294967296).toNat)
  | int64 t, int64 i =>
    if 0 ≤ t ∧ t < 4294967296 ∧ 0 ≤ i ∧ i < 4294967296 then some (timestamp t.toNat i.toNat) else none
  | _, _ => none

def timestamp? (fs : List (String × Bson)) : Option Bson := do
  timestampOf? (← field? "t" fs) (← field? "i" fs)

def regularExpression? (fs : List (String × Bson)) : Option Bson := do
  let pattern ← textField? "pattern" fs
  let options ← textField? "options" fs
  pure (regularExpression pattern
    (String.ofList (options.toList.mergeSort fun a b => a.toNat ≤ b.toNat)))

def dbPointer? (fs : List (String × Bson)) : Option Bson := do
  match ← field? "$id" fs with
  | objectId hex => pure (dbPointer (← textField? "$ref" fs) hex)
  | _ => none

/-- The value that an object with this one key stands for. -/
def ofSingle? (key : String) (value : Bson) : Option Bson :=
  match key, value with
  | "$oid", string s => (objectId? s).map objectId
  | "$symbol", string s => some (symbol s)
  | "$numberInt", string s => (wholeOf? 32 s).map int32
  | "$numberLong", string s => (wholeOf? 64 s).map int64
  | "$numberDouble", string s => doubleNamed? s
  | "$numberDecimal", string s => (decimalOf? s).map decimal128
  | "$numberDecimalBytes", value => ((plainBytes? value).bind decimalOfBytes?).map decimal128
  | "$binary", document fs => binary? fs
  | "$code", string s => some (code s)
  | "$timestamp", document fs => timestamp? fs
  | "$regularExpression", document fs => regularExpression? fs
  | "$dbPointer", document fs => dbPointer? fs
  | "$date", int64 n => some (dateTime n)
  | "$date", string s => (millisecondsOf? s).map dateTime
  | "$minKey", int32 1 => some minKey
  | "$minKey", int64 1 => some minKey
  | "$maxKey", int32 1 => some maxKey
  | "$maxKey", int64 1 => some maxKey
  | "$undefined", boolean true => some undefined
  | _, _ => none

/-- The value that an object stands for: most often itself. -/
def ofFields (fs : List (String × Bson)) : Bson :=
  match fs with
  | [(key, value)] => (ofSingle? key value).getD (document fs)
  | [("$code", string s), ("$scope", document scope)] => codeWithScope s scope
  | [("$scope", document scope), ("$code", string s)] => codeWithScope s scope
  | _ => document fs

/-- A whole number that takes more than sixty-four bits with its sign. -/
structure TooLarge where
  value : Int
deriving DecidableEq, Repr

def ofNumber : Number → Except TooLarge Bson
  | .float x => .ok (double x)
  | .integer n => if n < 9223372036854775808 then .ok (int64 n) else .error ⟨n⟩

mutual
def ofJson : Json → Except TooLarge Bson
  | .null => .ok null
  | .bool b => .ok (boolean b)
  | .number n => ofNumber n
  | .string s => .ok (string s)
  | .array vs => (ofItems vs).map array
  | .object ms => (ofMembers ms).map ofFields

def ofItems : List Json → Except TooLarge (List Bson)
  | [] => .ok []
  | v :: vs => do pure ((← ofJson v) :: (← ofItems vs))

def ofMembers : List (String × Json) → Except TooLarge (List (String × Bson))
  | [] => .ok []
  | (k, v) :: ms => do pure ((k, ← ofJson v) :: (← ofMembers ms))
end

/-- Floating-point numbers are always positional. -/
def floatFormat : Decimal.Format := ⟨none, none⟩

/-- A floating-point number; one too small for a full mantissa is left to JSON. -/
def doubleToJson (x : Decimal.Double) : Json :=
  let tagged (s : String) : Json := .object [("$numberDouble", .string s)]
  if x.exponentField = 0x7ff then
    tagged ((if x.isNegative then "-" else "") ++ if x.fraction = 0 then "Infinity" else "NaN")
  else if x.exponentField = 0 ∧ x.fraction ≠ 0 then .number (.float x)
  else tagged (floatFormat.write x)

def tag (key text : String) : Json := .object [(key, .string text)]

mutual
def toJson : Bson → Json
  | double x => doubleToJson x
  | string s => .string s
  | document fs => .object (membersToJson fs)
  | array vs => .array (itemsToJson vs)
  | binary subtype bytes => .object [("$binary", .object
      [("base64", .string (String.ofList (base64 bytes))), ("subType", .string (hexOfBytes [subtype]))])]
  | undefined => .object [("$undefined", .bool true)]
  | objectId hex => tag "$oid" hex
  | boolean b => .bool b
  | dateTime n => .object [("$date", tag "$numberLong" (toString n))]
  | null => .null
  | regularExpression pattern options => .object [("$regularExpression",
      .object [("pattern", .string pattern), ("options", .string options)])]
  | dbPointer ns hex => .object [("$dbPointer", .object [("$ref", .string ns), ("$id", tag "$oid" hex)])]
  | code s => tag "$code" s
  | symbol s => tag "$symbol" s
  | codeWithScope s scope => .object [("$code", .string s), ("$scope", .object (membersToJson scope))]
  | int32 n => tag "$numberInt" (toString n)
  | timestamp t i => .object [("$timestamp", .object [("t", .nat t), ("i", .nat i)])]
  | int64 n => tag "$numberLong" (toString n)
  | decimal128 s => tag "$numberDecimal" s
  | minKey => .object [("$minKey", .nat 1)]
  | maxKey => .object [("$maxKey", .nat 1)]

def itemsToJson : List Bson → List Json
  | [] => []
  | v :: vs => toJson v :: itemsToJson vs

def membersToJson : List (String × Bson) → List (String × Json)
  | [] => []
  | (k, v) :: fs => (k, toJson v) :: membersToJson fs
end

end Harvest.Bson

namespace Harvest.StoredRecord

def toDocument (s : StoredRecord) : Except Bson.TooLarge (List (String × Bson)) := Bson.ofMembers s.members

end Harvest.StoredRecord
