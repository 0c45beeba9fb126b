import Harvest.Decimal.Double

/-!
BSON values: what a document database keeps.
-/

namespace Harvest

inductive Bson
  | double (value : Decimal.Double)
  | string (value : String)
  | document (fields : List (String × Bson))
  | array (items : List Bson)
  | binary (subtype : UInt8) (bytes : List UInt8)
  | undefined
  /-- An identifier of twelve bytes, as hexadecimal digits. -/
  | objectId (hex : String)
  | boolean (value : Bool)
  /-- A time in milliseconds since 1970. -/
  | dateTime (milliseconds : Int)
  | null
  | regularExpression (pattern options : String)
  | dbPointer (namespace_ hex : String)
  | code (code : String)
  | symbol (value : String)
  | codeWithScope (code : String) (scope : List (String × Bson))
  | int32 (value : Int)
  | timestamp (time increment : Nat)
  | int64 (value : Int)
  /-- A decimal number by its canonical text. -/
  | decimal128 (text : String)
  | minKey
  | maxKey
deriving Inhabited, Repr

end Harvest
