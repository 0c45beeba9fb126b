import Harvest.Digest
import Harvest.Json.Writer
import Harvest.Url.Form

/-!
Signed requests. The signature is the fingerprint of application id, text, salt and secret, one after the
other.
-/

namespace Harvest.Translation

structure Credentials where
  appId : String := ""
  secret : String := ""
deriving DecidableEq, Repr

def Credentials.isEmpty (c : Credentials) : Bool := c.appId.isEmpty || c.secret.isEmpty

/-- Salts are drawn from `saltLow` up to but not including `saltHigh`. -/
def saltLow : Nat := 32768

def saltHigh : Nat := 65536

/-- The text whose fingerprint is the signature. -/
def signedText (c : Credentials) (text : String) (salt : Nat) : String :=
  c.appId ++ text ++ toString salt ++ c.secret

def sign (c : Credentials) (text : String) (salt : Nat) : String :=
  Digest.fingerprint (signedText c text salt)

structure Request where
  signature : String
  salt : Nat
  appId : String
  source : String
  target : String
  text : String
deriving DecidableEq, Repr

namespace Request

/-- The request for a translation; the service finds out the source language. -/
def signed (c : Credentials) (text target : String) (salt : Nat) : Request :=
  ⟨sign c text salt, salt, c.appId, "auto", target, text⟩

def toJson (r : Request) : Json := .object [
  ("sign", .string r.signature), ("salt", .nat r.salt), ("appid", .string r.appId),
  ("from", .string r.source), ("to", .string r.target), ("q", .string r.text)]

def fields (r : Request) : List (String × String) := [
  ("sign", r.signature), ("salt", toString r.salt), ("appid", r.appId),
  ("from", r.source), ("to", r.target), ("q", r.text)]

def form (r : Request) : String := Url.Form.encode r.fields

end Request

end Harvest.Translation
