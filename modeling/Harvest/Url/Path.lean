import Harvest.Url.Basic
import Harvest.Url.Percent

/-!
Paths, segment by segment. A path under construction mostly ends with a slash, so that the next segment can
be put behind it; dot segments are resolved at once, and a drive letter of a file path is never taken away
again. A path is seen through `PathState.path`, and what is put at its end stands at the end of that.
-/

namespace Harvest.Url

def isAsciiLetter (c : Char) : Bool := ('a' ≤ c && c ≤ 'z') || ('A' ≤ c && c ≤ 'Z')

/-- A letter and a colon or bar. -/
def isDriveLetter : List Char → Bool
  | [c, d] => isAsciiLetter c && (d = ':' || d = '|')
  | _ => false

def isNormalDriveLetter (cs : List Char) : Bool := isDriveLetter cs && cs.getLast? = some ':'

/-- Whether a text starts with a drive letter that is a segment of its own. -/
def startsWithDriveLetter (cs : List Char) : Bool :=
  isDriveLetter (cs.take 2) &&
    (match cs.drop 2 with
    | [] => true
    | c :: _ => c ∈ ['/', '\\', '?', '#'])

/-- A path under construction, with its last character first, and whether the URL keeps its host. -/
structure PathState where
  reversed : List Char
  keepsHost : Bool

namespace PathState

def ofPath (path : List Char) (keepsHost : Bool) : PathState := ⟨path.reverse, keepsHost⟩

def root (keepsHost : Bool) : PathState := ⟨['/'], keepsHost⟩

def path (s : PathState) : List Char := s.reversed.reverse

@[simp] theorem path_ofPath (path : List Char) (keepsHost : Bool) :
    (ofPath path keepsHost).path = path := by
  simp [ofPath, PathState.path]

def endsWithSlash (s : PathState) : Bool := s.reversed.head? = some '/'

def withSlash (s : PathState) : PathState :=
  if s.endsWithSlash then s else { s with reversed := '/' :: s.reversed }

/-- What follows the last slash. -/
def lastSegment (s : PathState) : List Char := (s.reversed.takeWhile (· ≠ '/')).reverse

def upToSlash (s : PathState) : PathState := { s with reversed := s.reversed.dropWhile (· ≠ '/') }

def dropLast (s : PathState) : PathState := { s with reversed := s.reversed.tail }

/-- Takes the last segment away, unless it is the drive letter of a file path. -/
def pop (family : Family) (s : PathState) : PathState :=
  if family = .file ∧ isNormalDriveLetter s.lastSegment then s else s.upToSlash

/-- Whether the slash at the end may go: it is not the first one and no drive letter stands before it. -/
def slashMayGo (s : PathState) : Bool :=
  s.dropLast.reversed.contains '/' && !startsWithDriveLetter (s.dropLast.lastSegment ++ ['/'])

/-- One step up. -/
def goUp (family : Family) (s : PathState) : PathState :=
  (if s.endsWithSlash && s.slashMayGo then s.dropLast else s).pop family

def append (s : PathState) (cs : List Char) : PathState := { s with reversed := cs.reverse ++ s.reversed }

@[simp] theorem path_append (s : PathState) (cs : List Char) : (s.append cs).path = s.path ++ cs := by
  simp [append, path]

/-- Whether the path is a drive letter that no slash follows. -/
def isDrive (s : PathState) : Bool :=
  match s.reversed with
  | [d, c, _] => isDriveLetter [c, d]
  | _ => false

end PathState

def isDot (segment : List Char) : Bool :=
  String.ofList segment ∈ [".", "%2e", "%2E"]

def isDoubleDot (segment : List Char) : Bool :=
  String.ofList segment ∈
    ["..", "%2e%2e", "%2e%2E", "%2E%2e", "%2E%2E", "%2e.", "%2E.", ".%2e", ".%2E"]

/-- Puts an encoded segment behind a path. -/
def PathState.push (family : Family) (s : PathState) (segment : List Char) (slash : Bool) : PathState :=
  let ending := if slash then ['/'] else []
  if isDoubleDot segment then
    let s := s.goUp family
    if slash then s.withSlash else s
  else if isDot segment then s.withSlash
  else if family = .file ∧ s.reversed = ['/'] ∧ isDriveLetter segment then
    { s.append (segment.take 1 ++ ':' :: ending) with keepsHost := false }
  else (s.append segment).append ending

/-- Puts a segment behind a path. Behind a drive letter without a slash one is put in between. -/
def PathState.add (family : Family) (s : PathState) (raw : List Char) (slash : Bool) : PathState :=
  let s := if family = .file ∧ ¬raw.isEmpty ∧ s.isDrive then s.withSlash else s
  s.push family (encode inPath raw) slash

/-- Whether a character ends a segment. -/
def endsSegment (family : Family) (c : Char) : Bool :=
  c = '/' || c = '?' || c = '#' || (family.isSpecial && c = '\\')

/-- Whether a path that holds nothing yet and the reversed characters of its first segment make a drive
letter of a file, behind which a character was left out. -/
def PathState.isDriveBeforeGap (family : Family) (s : PathState) (gaps : List Nat)
    (current rest : List Char) : Bool :=
  family = .file && s.reversed = ['/'] && isNormalDriveLetter (current.take 3).reverse &&
    gaps.contains rest.length

/-- Reads segments, given the reversed characters of the current one, up to the query or fragment. `gaps`
says how many characters follow each one that was left out: a drive letter before a gap gets a slash, and
what follows it up to the next slash is kept as it is. -/
def readSegments (family : Family) (gaps : List Nat) (s : PathState) (current : List Char) :
    List Char → PathState × List Char
  | [] => (s.add family current.reverse false, [])
  | c :: rest =>
    if endsSegment family c then
      if c = '?' ∨ c = '#' then (s.add family current.reverse false, c :: rest)
      else readSegments family gaps (s.add family current.reverse true) [] rest
    else if s.isDriveBeforeGap family gaps current (c :: rest) then
      readSegments family gaps (s.append (current.reverse.take 1)) [c, '/', ':'] rest
    else readSegments family gaps s (c :: current) rest

/-- A file path has only one slash at its start. -/
def trimSlashes (path : List Char) : List Char := '/' :: path.dropWhile (· = '/')

/-- Reads a path behind one that is there. -/
def readPath (family : Family) (s : PathState) (cs : List Char) (gaps : List Nat := []) :
    PathState × List Char :=
  let (s, rest) := readSegments family gaps s [] cs
  (if family = .file then .ofPath (trimSlashes s.path) s.keepsHost else s, rest)

/-- Reads the path of a URL with an authority. -/
def readPathStart (family : Family) (keepsHost : Bool) (cs : List Char) (gaps : List Nat := []) :
    PathState × List Char :=
  match cs with
  | c :: rest =>
    if family.isSpecial then
      if c = '/' ∨ c = '\\' then readPath family (.root keepsHost) rest gaps
      else readPath family (.root keepsHost) (c :: rest) gaps
    else if c = '?' ∨ c = '#' then (⟨[], keepsHost⟩, c :: rest)
    else if c = '/' then readPath family (.root keepsHost) rest
    else readPath family (.root keepsHost) (c :: rest)
  | [] => if family.isSpecial then readPath family (.root keepsHost) [] else (⟨[], keepsHost⟩, [])

end Harvest.Url
