import Harvest.Url.Host
import Harvest.Url.Path

/-!
URLs from their text, by themselves or relative to another URL.
-/

namespace Harvest.Url

/-- A text without the controls and spaces at its ends. -/
def withoutOuterSpace (text : String) : List Char :=
  let skip (c : Char) : Bool := c ≤ ' '
  ((text.toList.dropWhile skip).reverse.dropWhile skip).reverse

/-- Tabs and line ends, which are left out wherever they stand. -/
def isLeftOut (c : Char) : Bool := c = '\t' || c = '\n' || c = '\r'

/-- The characters that count. -/
def significant (cs : List Char) : List Char := cs.filter (!isLeftOut ·)

/-- How many characters that count follow each one that is left out. -/
def gapsOf : List Char → List Nat
  | [] => []
  | c :: cs => if isLeftOut c then (significant cs).length :: gapsOf cs else gapsOf cs

def isSchemeChar (c : Char) : Bool :=
  isAsciiLetter c || c.isDigit || c = '+' || c = '-' || c = '.'

/-- The scheme in small letters and what follows its colon. -/
def readScheme (cs : List Char) : Option (String × List Char) :=
  let name := cs.takeWhile isSchemeChar
  match name, cs.drop name.length with
  | first :: _, ':' :: rest =>
    if isAsciiLetter first then some (String.ofList (name.map Char.toLower), rest) else none
  | _, _ => none

def isSlash (c : Char) : Bool := c = '/' || c = '\\'

/-- Whether a character ends the part that may hold user and host. -/
def endsAuthority (family : Family) (c : Char) : Bool := endsSegment family c

/-- What stands before and what after the last `@`. -/
def cutLastAt (zone : List Char) : Option (List Char × List Char) :=
  if zone.contains '@' then
    let after := (zone.reverse.takeWhile (· ≠ '@')).reverse
    some (zone.take (zone.length - after.length - 1), after)
  else none

/-- User name and password, the password after the first colon. An empty password loses its colon. -/
def writeUserinfo (cs : List Char) : String :=
  let user := cs.takeWhile (· ≠ ':')
  let password := (cs.drop user.length).drop 1
  String.ofList (encode inUserinfo user ++
    (if password.isEmpty then [] else ':' :: encode inUserinfo password))

/-- The user of an authority and what follows it. -/
def readUserinfo (family : Family) (cs : List Char) : Except Error (String × List Char) :=
  let zone := cs.takeWhile (!endsAuthority family ·)
  let rest := cs.drop zone.length
  match cutLastAt zone with
  | none => .ok ("", cs)
  | some ([], after) =>
    if after.isEmpty ∧ ¬rest.isEmpty then .error .emptyHost else .ok ("", after ++ rest)
  | some (user, after) => .ok (writeUserinfo user, after ++ rest)

/-- The characters of a host; a colon between brackets belongs to it. -/
def hostChars (family : Family) (bracket : Bool) : List Char → List Char
  | [] => []
  | c :: cs =>
    if (c = ':' && !bracket) || endsAuthority family c then []
    else c :: hostChars family (c = '[' || (bracket && c ≠ ']')) cs

/-- A port up to the path, unless it is the usual one. -/
def readPort (scheme : String) (cs : List Char) : Except Error (Option Nat × List Char) := do
  let digits := cs.takeWhile Char.isDigit
  let rest := cs.drop digits.length
  let n ← digits.foldlM (fun n c =>
    let n := n * 10 + (c.toNat - 48)
    if n > 65535 then throw .invalidPort else pure n) 0
  match rest with
  | c :: _ => if ¬(isSlash c ∨ c = '?' ∨ c = '#') then throw .invalidPort
  | [] => pure ()
  pure (if digits.isEmpty ∨ defaultPort scheme = some n then none else some n, rest)

/-- The host and port of a scheme other than `file`. -/
def readHostAndPort (scheme : String) (cs : List Char) :
    Except Error (String × Option Nat × List Char) := do
  let family := Family.ofScheme scheme
  let name := hostChars family false cs
  let rest := cs.drop name.length
  let host ←
    if family.isSpecial then
      if name.isEmpty then throw .emptyHost else readDomainHost name
    else readOpaqueHost name
  match rest with
  | ':' :: rest =>
    if host.isEmpty then throw .emptyHost
    let (port, rest) ← readPort scheme rest
    pure (host, port, rest)
  | _ => pure (host, none, rest)

/-- The query after a question mark and the fragment after a number sign. -/
def readEnding (family : Family) (cs : List Char) : Option String × Option String :=
  let fragment (cs : List Char) := String.ofList (encode inFragment cs)
  match cs with
  | '?' :: rest =>
    let query := rest.takeWhile (· ≠ '#')
    let set := if family.isSpecial then inSpecialQuery else inQuery
    (some (String.ofList (encode set query)),
      match rest.drop query.length with
      | _ :: rest => some (fragment rest)
      | [] => none)
  | '#' :: rest => (none, some (fragment rest))
  | _ => (none, none)

/-- A URL from its parts and the text after its path. -/
def finish (scheme : String) (authority : Option Authority) (path : List Char) (rest : List Char) : Url :=
  let (query, fragment) := readEnding (.ofScheme scheme) rest
  ⟨scheme, authority, String.ofList path, query, fragment⟩

/-- The rest of a URL after the two slashes of its authority. -/
def afterSlashes (scheme : String) (cs : List Char) : Except Error Url := do
  let family := Family.ofScheme scheme
  let (userinfo, rest) ← readUserinfo family cs
  let (host, port, rest) ← readHostAndPort scheme rest
  if host.isEmpty ∧ ¬userinfo.isEmpty then throw .emptyHost
  let (s, rest) := readPathStart family true rest
  pure (finish scheme (some ⟨userinfo, host, port⟩) s.path rest)

/-- A path that nothing is resolved against. -/
def readOpaquePath (cs : List Char) : List Char × List Char :=
  let path := cs.takeWhile fun c => c ≠ '?' && c ≠ '#'
  (encode inControls path, cs.drop path.length)

/-- A URL of a scheme of its own, after the colon. -/
def readOther (scheme : String) (cs : List Char) : Except Error Url :=
  match cs with
  | '/' :: '/' :: rest => afterSlashes scheme rest
  | '/' :: rest =>
    let (s, rest) := readPath .other (.root false) rest
    .ok (finish scheme none s.path rest)
  | _ =>
    let (path, rest) := readOpaquePath cs
    .ok (finish scheme none path rest)

/-- The host of a file URL and what follows it; a drive letter is no host. -/
def readFileHost (cs : List Char) : Except Error (String × List Char) := do
  let name := cs.takeWhile fun c => !isSlash c && c ≠ '?' && c ≠ '#'
  if isDriveLetter name then pure ("", cs)
  else if name.isEmpty then pure ("", cs)
  else
    let host ← readDomainHost name
    pure (if host = "localhost" then "" else host, cs.drop name.length)

def fileUrl (host : String) (path rest : List Char) : Url :=
  finish "file" (some ⟨"", host, none⟩) path rest

/-- The first segment of a path. -/
def firstSegment (path : String) : List Char := (path.toList.drop 1).takeWhile (· ≠ '/')

def hostOf (u : Url) : String :=
  match u.authority with
  | some a => a.host
  | none => ""

/-- The URL without its fragment, with the one after a number sign, or with the ending after its path. -/
def withFragment (base : Url) (cs : List Char) : Url :=
  { base with fragment := (readEnding base.family cs).2 }

def withEnding (base : Url) (cs : List Char) : Url :=
  let (query, fragment) := readEnding base.family cs
  { base with query, fragment }

/-- A file URL after its scheme, or a text relative to one. -/
def readFile (gaps : List Nat) (base : Option Url) (cs : List Char) : Except Error Url :=
  match cs with
  | c :: d :: rest =>
    if isSlash c && isSlash d then do
      let (host, rest) ← readFileHost rest
      let (s, rest) :=
        if host.isEmpty then readPath .file (.root false) rest gaps
        else readPathStart .file true rest gaps
      pure (fileUrl (if s.keepsHost then host else "") s.path rest)
    else .ok (relative base (c :: d :: rest))
  | cs => .ok (relative base cs)
where
  /-- All cases without an authority. -/
  relative (base : Option Url) (cs : List Char) : Url :=
    match cs, base with
    | c :: rest, base =>
      if isSlash c then
        let (host, path) :=
          match base with
          | some b =>
            if startsWithDriveLetter rest then ("", [])
            else if isNormalDriveLetter (firstSegment b.path) then ("", '/' :: firstSegment b.path)
            else (hostOf b, [])
          | none => ("", [])
        let (s, rest) := readPath .file (.ofPath path false) cs gaps
        fileUrl host s.path rest
      else
        match base with
        | none =>
          let (s, rest) := readPath .file (.root false) cs gaps
          fileUrl "" s.path rest
        | some b =>
          if c = '?' then b.withEnding cs
          else if c = '#' then b.withFragment cs
          else if startsWithDriveLetter cs then
            let (s, rest) := readPath .file (.root false) cs gaps
            fileUrl "" s.path rest
          else
            let (s, rest) := readPath .file ((PathState.ofPath b.path.toList true).pop .file) cs gaps
            finish b.scheme b.authority s.path rest
    | [], some b => b.withFragment []
    | [], none => fileUrl "" ['/'] []

/-- A text relative to a URL that is neither opaque nor a file. -/
def readRelative (base : Url) (cs : List Char) : Except Error Url :=
  match cs with
  | [] => .ok (base.withFragment [])
  | '?' :: _ => .ok (base.withEnding cs)
  | '#' :: _ => .ok (base.withFragment cs)
  | c :: rest =>
    if isSlash c then
      match cs with
      | '/' :: '/' :: rest => afterSlashes base.scheme rest
      | _ =>
        if (cs.takeWhile isSlash).length ≥ 2 then
          afterSlashes base.scheme (cs.dropWhile isSlash)
        else
          let (s, rest) := readPath base.family (.root true) rest
          .ok (finish base.scheme base.authority s.path rest)
    else
      let above := (PathState.ofPath base.path.toList true).upToSlash
      let (s, rest) := readPath base.family (if above.reversed.isEmpty then .root true else above) cs
      .ok (finish base.scheme base.authority s.path rest)

/-- The rest of a URL after its scheme and the colon. -/
def afterScheme (gaps : List Nat) (base : Option Url) (scheme : String) (cs : List Char) :
    Except Error Url :=
  match Family.ofScheme scheme with
  | .file => readFile gaps (base.filter (·.scheme = "file")) cs
  | .special =>
    match base with
    | some b =>
      if (cs.takeWhile isSlash).length < 2 ∧ b.scheme = scheme then readRelative b cs
      else afterSlashes scheme (cs.dropWhile isSlash)
    | none => afterSlashes scheme (cs.dropWhile isSlash)
  | .other => readOther scheme cs

/-- A text without a scheme, relative to a URL. -/
def afterNoScheme (gaps : List Nat) (base : Option Url) (cs : List Char) : Except Error Url :=
  match base with
  | none => .error .relativeWithoutBase
  | some b =>
    if cs.head? = some '#' then .ok (b.withFragment cs)
    else if b.isOpaque then .error .relativeWithOpaqueBase
    else if b.family = .file then readFile gaps (some b) cs
    else readRelative b cs

/-- A URL from its text, relative to `base` where the text has no scheme. -/
def parseWith (base : Option Url) (text : String) : Except Error Url :=
  let inner := withoutOuterSpace text
  let gaps := gapsOf inner
  let cs := significant inner
  match readScheme cs with
  | some (scheme, rest) => afterScheme gaps base scheme rest
  | none => afterNoScheme gaps base cs

def parse (text : String) : Except Error Url := parseWith none text

/-- The URL that a text means where `base` is read. -/
def join (base : Url) (text : String) : Except Error Url := parseWith (some base) text

end Harvest.Url
