import Harvest.Settings.Derived
import Harvest.Translation.Response
import Harvest.Translation.Translator
import Harvest.Url.Parser

/-!
The client of the translation service. It signs a request, posts it to its endpoint and decodes the answer;
the network itself is a parameter.
-/

namespace Harvest.Translation

/-- What comes of posting a request. -/
inductive Exchange
  | unreachable (reason : String)
  | late (reason : String)
  | broken (reason : String)
  /-- An answer with its status, the usual words for it, and its body. -/
  | replied (status : UInt16) (words body : String)
deriving Repr

structure Client where
  credentials : Credentials
  endpoint : String
deriving Repr

namespace Client

def serviceName : String := "baidu"

def ofSettings (s : Settings.Translating) : Client := ⟨s.credentials, s.effectiveEndpoint⟩

def creationNotes (c : Client) : List Log.Entry :=
  if c.credentials.isEmpty then
    [Log.warn "Translation credentials are empty; requests will fail authentication"]
  else []

/-- The characters that a URL's host may hold and a request's may not. -/
def isUnsendable (c : Char) : Bool := c ∈ ['"', '`', '\x7b', '\x7d']

/-- The greatest length of an address that requests are sent to. -/
def maxAddress : Nat := 65534

/-- Whether requests can be sent to a URL. -/
def isSendable (u : Url) : Bool :=
  u.write.utf8ByteSize ≤ maxAddress && !(u.authority.any fun a => a.host.any isUnsendable)

/-- The address that requests go to: a web address with a host, without the user, who is told apart. -/
def address (c : Client) : Except Failure Url :=
  match Url.parse c.endpoint with
  | .error e => .error (.requestFailed s!"builder error: {e.message}")
  | .ok u =>
    let u := u.withoutUser
    let refuse (why : String) := .error (.requestFailed s!"builder error for url ({u.write}): {why}")
    if ¬u.hasHost ∨ (u.scheme ≠ "http" ∧ u.scheme ≠ "https") then refuse "URL scheme is not allowed"
    else if ¬isSendable u then refuse "Parsed Url is not a valid Uri"
    else .ok u

/-- The response that comes of posting a request, and what is logged. -/
def decode : Exchange → Except Failure Response × List Log.Entry
  | .unreachable reason => (.error (.disconnected reason), [])
  | .late reason => (.error (.timedOut reason), [])
  | .broken reason => (.error (.requestFailed reason), [])
  | .replied status words body =>
    if 200 ≤ status ∧ status < 300 then
      match Response.parse body with
      | .ok r => (.ok r, [])
      | .error e => (.error (.unreadable s!"{e.message}: {body}"), [])
    else
      (.error (.refused status body),
        [Log.error s!"Translation API error ({status.toNat} {words}): {body}"])

def send (c : Client) (network : Url → Request → Exchange) (r : Request) :
    Except Failure Response × List Log.Entry :=
  match c.address with
  | .error f => (.error f, [])
  | .ok u => decode (network u r)

def responseNotes (r : Response) : List Log.Entry :=
  match r.errorCode with
  | none => []
  | some code =>
    let message := r.errorMessage.getD "no message"
    [Log.warn s!"Translation API returned error {code.compact}: {message}"]

/-- Translates a text with a given salt. -/
def translate (c : Client) (network : Url → Request → Exchange) (call : Call) (salt : Nat) :
    Answer × List Log.Entry :=
  let request := Request.signed c.credentials call.text call.target salt
  let note := Log.debug s!"Requesting translation of {call.text.length} chars into '{call.target}'"
  match c.send network request with
  | (.error f, notes) => (.error f, note :: notes)
  | (.ok r, notes) => (.ok r.text?, note :: notes ++ responseNotes r)

/-- A client as a translator; its memory is the number of salts drawn. -/
def translator (c : Client) (network : Url → Request → Exchange) (salt : Nat → Nat) : Translator Nat where
  name := serviceName
  translate call n :=
    let (answer, notes) := c.translate network call (salt n)
    (⟨answer, 0, notes⟩, n + 1)

end Client

end Harvest.Translation
