import Harvest.Json.Scanner

/-!
The document of a JSON text.
-/

namespace Harvest.Json

def isSpace (c : Char) : Bool := c = ' ' || c = '\n' || c = '\t' || c = '\r'

def skipSpace (s : List Char) : List Char := s.dropWhile isSpace

/-- The rest of a word whose first letter has been seen, or the flaw. -/
def scanWord : List Char → List Char → Except Flaw (List Char)
  | [], rest => .ok rest
  | _ :: _, [] => .error .valueEnds
  | w :: ws, c :: rest => if c = w then scanWord ws rest else .error .expectedIdent

/-- A word that stands for `d`, after its first letter. -/
def readWord (word : List Char) (d : Doc) (rest : List Char) : Doc × Option (List Char) :=
  match scanWord word rest with
  | .ok rest => (d, some rest)
  | .error f => (.flawed f, none)

mutual
/-- The value at the start of a text and the text after it. -/
def readValue : Nat → List Char → Doc × Option (List Char)
  | 0, _ => (.absent, none)
  | fuel + 1, s =>
    match skipSpace s with
    | [] => (.absent, none)
    | 'n' :: rest => readWord ['u', 'l', 'l'] .null rest
    | 't' :: rest => readWord ['r', 'u', 'e'] (.bool true) rest
    | 'f' :: rest => readWord ['a', 'l', 's', 'e'] (.bool false) rest
    | '"' :: rest =>
      let (scan, rest) := scanString rest
      (.string scan, rest)
    | '[' :: rest =>
      match skipSpace rest with
      | [] => (.array [] .ended, none)
      | ']' :: rest => (.array [] .closed, some rest)
      | rest =>
        let (items, close, rest) := readItems fuel rest
        (.array items close, rest)
    | '{' :: rest =>
      match skipSpace rest with
      | [] => (.object [] .ended, none)
      | '}' :: rest => (.object [] .closed, some rest)
      | rest =>
        let (members, close, rest) := readMembers fuel rest
        (.object members close, rest)
    | c :: rest =>
      if c = '-' ∨ ('0' ≤ c ∧ c ≤ '9') then
        let (scan, rest) := scanNumber (c :: rest)
        (.number scan, rest)
      else (.flawed .expectedValue, none)

def readItems : Nat → List Char → List Doc × Close × Option (List Char)
  | 0, _ => ([], .broken, none)
  | fuel + 1, s =>
    match readValue fuel s with
    | (item, none) => ([item], .broken, none)
    | (item, some rest) =>
      match skipSpace rest with
      | [] => ([item], .ended, none)
      | ']' :: rest => ([item], .closed, some rest)
      | ',' :: rest =>
        match skipSpace rest with
        | [] => ([item], .endedAfterComma, none)
        | ']' :: _ => ([item], .trailingComma, none)
        | rest =>
          let (items, close, rest) := readItems fuel rest
          (item :: items, close, rest)
      | _ => ([item], .unseparated, none)

def readMembers : Nat → List Char → List (Scan String × Doc) × Close × Option (List Char)
  | 0, _ => ([], .broken, none)
  | fuel + 1, s =>
    match skipSpace s with
    | '"' :: rest =>
      let (key, rest) := scanString rest
      match rest with
      | none => ([(key, .absent)], .broken, none)
      | some rest =>
        match skipSpace rest with
        | [] => ([(key, .flawed .objectEnds)], .broken, none)
        | ':' :: rest =>
          match readValue fuel rest with
          | (value, none) => ([(key, value)], .broken, none)
          | (value, some rest) =>
            match skipSpace rest with
            | [] => ([(key, value)], .ended, none)
            | '}' :: rest => ([(key, value)], .closed, some rest)
            | ',' :: rest =>
              match skipSpace rest with
              | [] => ([(key, value)], .endedAfterComma, none)
              | '}' :: _ => ([(key, value)], .trailingComma, none)
              | rest =>
                let (members, close, rest) := readMembers fuel rest
                ((key, value) :: members, close, rest)
            | _ => ([(key, value)], .unseparated, none)
        | _ => ([(key, .flawed .expectedColon)], .broken, none)
    | s =>
      let flaw := Flaw.keyMustBeString
      ([(⟨.error flaw, some flaw⟩, (readValue fuel s).1)], .broken, none)
end

/-- The document of a text; twice its length bounds the depth of the reading. -/
def Document.ofText (text : String) : Document :=
  let s := text.toList
  match readValue (2 * s.length + 2) s with
  | (root, none) => ⟨root, false⟩
  | (root, some rest) => ⟨root, !(skipSpace rest).isEmpty⟩

end Harvest.Json
