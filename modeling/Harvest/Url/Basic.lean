import Harvest.Url.Percent

/-!
URLs: their parts, their families of schemes and their text.
-/

namespace Harvest

namespace Url

/-- What stands between the two slashes after the scheme and the path. -/
structure Authority where
  /-- User name and password as they are written, without the `@`; empty where there are none. -/
  userinfo : String := ""
  /-- The host as it is written; empty where there is none. -/
  host : String
  /-- The port, unless it is the usual one of the scheme. -/
  port : Option Nat := none
deriving DecidableEq, Repr

/-- Schemes that are treated alike. -/
inductive Family
  | file
  /-- The schemes of the network, whose URLs always have a host and a path. -/
  | special
  | other
deriving DecidableEq, Repr

def Family.ofScheme (scheme : String) : Family :=
  if scheme = "file" then file
  else if scheme ∈ ["http", "https", "ws", "wss", "ftp"] then special
  else other

/-- Whether a backslash is as good as a slash. -/
def Family.isSpecial : Family → Bool
  | other => false
  | _ => true

/-- The port that is meant where none is given. -/
def defaultPort (scheme : String) : Option Nat :=
  if scheme = "ftp" then some 21
  else if scheme = "http" ∨ scheme = "ws" then some 80
  else if scheme = "https" ∨ scheme = "wss" then some 443
  else none

inductive Error
  | relativeWithoutBase
  | relativeWithOpaqueBase
  | emptyHost
  | invalidPort
  | invalidIpv4
  | invalidIpv6
  /-- A domain whose letters cannot be made ASCII, or that holds a forbidden character. -/
  | invalidDomain
  | invalidDomainCharacter
deriving DecidableEq, Repr

def Error.message : Error → String
  | relativeWithoutBase => "relative URL without a base"
  | relativeWithOpaqueBase => "relative URL with a cannot-be-a-base base"
  | emptyHost => "empty host"
  | invalidPort => "invalid port number"
  | invalidIpv4 => "invalid IPv4 address"
  | invalidIpv6 => "invalid IPv6 address"
  | invalidDomain => "invalid international domain name"
  | invalidDomainCharacter => "invalid domain character"

end Url

/-- A URL. Its path starts with a slash or is empty, unless it is opaque. -/
structure Url where
  scheme : String
  authority : Option Url.Authority
  path : String
  query : Option String := none
  fragment : Option String := none
deriving DecidableEq, Repr

namespace Url

def family (u : Url) : Family := .ofScheme u.scheme

/-- Whether the path is opaque, so that nothing can be resolved against it. -/
def isOpaque (u : Url) : Bool := u.authority.isNone && !u.path.startsWith "/"

/-- Whether there is a host, and not only an empty one. -/
def hasHost (u : Url) : Bool :=
  match u.authority with
  | some a => !a.host.isEmpty
  | none => false

/-- User name and password as they are written. -/
def Authority.user (a : Authority) : String × Option String :=
  let name := a.userinfo.toList.takeWhile (· ≠ ':')
  match a.userinfo.toList.drop name.length with
  | ':' :: password => (String.ofList name, some (String.ofList password))
  | _ => (String.ofList name, none)

/-- Whether user name and password can be told as texts: the name, and the password if there is no name. -/
def Authority.hasReadableUser (a : Authority) : Bool :=
  match a.user with
  | ("", some password) => (decode? password.toList).isSome
  | (name, _) => (decode? name.toList).isSome

/-- The URL without user name and password, if these can be told as texts. -/
def withoutUser (u : Url) : Url :=
  { u with authority := u.authority.map fun a => if a.hasReadableUser then { a with userinfo := "" } else a }

def Authority.write (a : Authority) : String :=
  (if a.userinfo.isEmpty then "" else a.userinfo ++ "@") ++ a.host ++
    (match a.port with
    | none => ""
    | some p => s!":{p}")

/-- The text of a URL. A path with two slashes at its start is kept apart from an authority. -/
def write (u : Url) : String :=
  u.scheme ++ ":" ++
    (match u.authority with
    | some a => "//" ++ a.write
    | none => if u.path.startsWith "//" then "/." else "") ++
    u.path ++
    (match u.query with
    | none => ""
    | some q => "?" ++ q) ++
    (match u.fragment with
    | none => ""
    | some f => "#" ++ f)

end Url

end Harvest
