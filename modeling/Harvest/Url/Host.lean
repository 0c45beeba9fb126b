import Harvest.Url.Domain
import Harvest.Url.Percent

/-!
Hosts: the domains and addresses of the special schemes, and hosts that are kept as they are.
-/

namespace Harvest.Url

/-- The address between brackets. -/
def bracketed? (cs : List Char) : Option (List Char) :=
  match cs with
  | '[' :: rest => if rest.getLast? = some ']' then some rest.dropLast else none
  | _ => none

def readIpv6 (cs : List Char) : Except Error String :=
  match (bracketed? cs).bind ipv6? with
  | some groups => .ok (writeIpv6 groups)
  | none => .error .invalidIpv6

/-- The host of a special scheme: an address, or a domain in ASCII. -/
def readDomainHost (cs : List Char) : Except Error String :=
  if cs.head? = some '[' then readIpv6 cs
  else
    match (decode? cs).bind asciiDomain? with
    | none => .error .invalidDomain
    | some [] => .error .emptyHost
    | some domain =>
      if endsInNumber domain then
        match ipv4? domain with
        | some n => .ok (writeIpv4 n)
        | none => .error .invalidIpv4
      else .ok (String.ofList domain)

/-- The characters that no host holds. -/
def isHostDelimiter (c : Char) : Bool :=
  c ∈ ['\x00', '\t', '\n', '\r', ' ', '#', '/', ':', '<', '>', '?', '@', '[', '\\', ']', '^', '|']

/-- The host of another scheme: an address in brackets, or a text that is kept. -/
def readOpaqueHost (cs : List Char) : Except Error String :=
  if cs.head? = some '[' then readIpv6 cs
  else if cs.any isHostDelimiter then .error .invalidDomainCharacter
  else .ok (String.ofList (encode inControls cs))

end Harvest.Url
