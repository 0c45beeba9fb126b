import Harvest.Json.Reader

/-!
Typed readers of documents. `room` is how many more levels of arrays and objects may be opened; a reader
that only passes over a value has no such limit.
-/

namespace Harvest.Json

/-- The levels that a text may nest. -/
def maxRoom : Nat := 127

def orFlaw {α : Type} : Except Flaw α → Except Error α
  | .ok a => .ok a
  | .error f => .error (.flaw f)

def failFlaw {α : Type} (f : Flaw) : Except Error α := .error (.flaw f)

namespace Close

/-- What is wrong with the end of an array that is read item by item. -/
def listFlaw? : Close → Option Flaw
  | closed | broken => none
  | ended => some .listEnds
  | trailingComma => some .trailingComma
  | endedAfterComma => some .valueEnds
  | unseparated => some .expectedCommaOrBracket

/-- What is wrong with the end of an object that is read member by member. -/
def objectFlaw? : Close → Option Flaw
  | closed | broken => none
  | ended => some .objectEnds
  | trailingComma => some .trailingComma
  | endedAfterComma => some .valueEnds
  | unseparated => some .expectedCommaOrBrace

/-- The same for an array that is passed over. -/
def skimmedListFlaw? : Close → Option Flaw
  | trailingComma => some .expectedValue
  | c => c.listFlaw?

/-- The same for an object that is passed over. -/
def skimmedObjectFlaw? : Close → Option Flaw
  | trailingComma => some .keyMustBeString
  | endedAfterComma => some .objectEnds
  | c => c.objectFlaw?

/-- What is wrong with the end of an array whose items have all been taken. -/
def tupleFlaw? : Close → Option Flaw
  | closed | broken => none
  | ended => some .listEnds
  | trailingComma => some .trailingComma
  | endedAfterComma | unseparated => some .trailingCharacters

end Close

def orDone {α : Type} (a : α) : Option Flaw → Except Error α
  | none => .ok a
  | some f => failFlaw f

namespace Doc

/-- What a document is, where something else is expected. Arrays and objects are not looked into. -/
def kind : Doc → Except Error Kind
  | absent => failFlaw .valueEnds
  | flawed f => failFlaw f
  | null => .ok .null
  | bool b => .ok (.bool b)
  | number scan => (orFlaw scan.value).map .number
  | string scan => (orFlaw scan.value).map .string
  | array _ _ => .ok .sequence
  | object _ _ => .ok .map

/-- Refuses a document that is not the expected thing. -/
def mismatch {α : Type} (expected : String) (d : Doc) : Except Error α :=
  match d.kind with
  | .ok k => .error (.wrongType k expected)
  | .error e => .error e

mutual
def skim : Doc → Except Error Unit
  | absent => failFlaw .valueEnds
  | flawed f => failFlaw f
  | null => .ok ()
  | bool _ => .ok ()
  | number scan => orDone () scan.skimmed
  | string scan => orDone () scan.skimmed
  | array items close => skimItems items close
  | object members close => skimMembers members close

def skimItems : List Doc → Close → Except Error Unit
  | [], close => orDone () close.skimmedListFlaw?
  | d :: ds, close => do
    skim d
    skimItems ds close

def skimMembers : List (Scan String × Doc) → Close → Except Error Unit
  | [], close => orDone () close.skimmedObjectFlaw?
  | (key, d) :: ms, close => do
    orDone () key.skimmed
    skim d
    skimMembers ms close
end

mutual
/-- The value of a document, its repeated keys included. -/
def content (room : Nat) : Doc → Except Error Json
  | absent => failFlaw .valueEnds
  | flawed f => failFlaw f
  | null => .ok .null
  | bool b => .ok (.bool b)
  | number scan => (orFlaw scan.value).map .number
  | string scan => (orFlaw scan.value).map .string
  | array items close =>
    if room = 0 then failFlaw .tooDeep else (contentItems (room - 1) items close).map .array
  | object members close =>
    if room = 0 then failFlaw .tooDeep else (contentMembers (room - 1) members close).map .object

def contentItems (room : Nat) : List Doc → Close → Except Error (List Json)
  | [], close => orDone [] close.listFlaw?
  | d :: ds, close => do
    let v ← content room d
    let vs ← contentItems room ds close
    pure (v :: vs)

def contentMembers (room : Nat) :
    List (Scan String × Doc) → Close → Except Error (List (String × Json))
  | [], close => orDone [] close.objectFlaw?
  | (key, d) :: ms, close => do
    let k ← orFlaw key.value
    let v ← content room d
    let vs ← contentMembers room ms close
    pure ((k, v) :: vs)
end

def value (room : Nat) (d : Doc) : Except Error Json := (d.content room).map merged

def text (expected : String) : Doc → Except Error String
  | string scan => orFlaw scan.value
  | d => d.mismatch expected

def truth : Doc → Except Error Bool
  | bool b => .ok b
  | d => d.mismatch "a boolean"

/-- A whole number from zero up to a limit. -/
def natural (limit : Nat) (expected : String) : Doc → Except Error Nat
  | number scan => do
    match ← orFlaw scan.value with
    | .integer n =>
      if 0 ≤ n ∧ n ≤ limit then pure n.toNat else throw (.outOfRange n expected)
    | n => throw (.wrongType (.number n) expected)
  | d => d.mismatch expected

def optional {α : Type} (read : Doc → Except Error α) : Doc → Except Error (Option α)
  | null => .ok none
  | d => (read d).map some

def unit : Doc → Except Error Unit
  | null => .ok ()
  | d => d.mismatch "unit"

def named {α : Type} (choices : List (String × α)) (name : String) : Except Error α :=
  match choices.lookup name with
  | some a => .ok a
  | none => .error (.unknownVariant name (choices.map (·.1)))

/-- One of several names: as a string, or as the only key of an object whose value is null. -/
def choice {α : Type} (choices : List (String × α)) (room : Nat) : Doc → Except Error α
  | absent => failFlaw .valueEnds
  | string scan => do named choices (← orFlaw scan.value)
  | object members close =>
    if room = 0 then failFlaw .tooDeep
    else
      match members with
      | [] => failFlaw (if close = .ended then .valueEnds else .expectedValue)
      | (key, d) :: ms =>
        if key.skimmed = some .keyMustBeString then d.mismatch "variant identifier"
        else do
          let a ← named choices (← orFlaw key.value)
          unit d
          match ms, close with
          | [], .closed => pure a
          | [], .ended => failFlaw .objectEnds
          | _, _ => failFlaw .expectedValue
  | _ => failFlaw .expectedValue

end Doc

/-- A named part of a structure of type `σ` and how it is read. -/
structure Member (σ : Type) where
  name : String
  read : Nat → Doc → σ → Except Error σ

namespace Member

/-- Reads members in any order; unknown ones are passed over and none may come twice. -/
def readMembers {σ : Type} (fields : List (Member σ)) (room : Nat) (seen : List String) (s : σ) :
    List (Scan String × Doc) → Close → Except Error σ
  | [], close => orDone s close.objectFlaw?
  | (key, d) :: ms, close => do
    let name ← orFlaw key.value
    match fields.find? (·.name = name) with
    | none =>
      d.skim
      readMembers fields room seen s ms close
    | some field =>
      if name ∈ seen then throw (.duplicateField name)
      let s ← field.read room d s
      readMembers fields room (name :: seen) s ms close

/-- Reads items in the order of the fields; missing ones at the end keep what `s` has. -/
def readItems {σ : Type} (room : Nat) (s : σ) :
    List (Member σ) → List Doc → Close → Except Error σ
  | [], [], close => orDone s close.tupleFlaw?
  | [], _ :: _, _ => failFlaw .trailingCharacters
  | _ :: _, [], close => orDone s close.listFlaw?
  | field :: fields, d :: ds, close => do
    let s ← field.read room d s
    readItems room s fields ds close

/-- Reads a structure from an object or an array over the defaults `s`. -/
def readStruct {σ : Type} (expected : String) (fields : List (Member σ)) (room : Nat) (s : σ) :
    Doc → Except Error σ
  | .object members close =>
    if room = 0 then failFlaw .tooDeep else readMembers fields (room - 1) [] s members close
  | .array items close =>
    if room = 0 then failFlaw .tooDeep else readItems (room - 1) s fields items close
  | d => d.mismatch expected

end Member

def Document.read {α : Type} (read : Nat → Doc → Except Error α) (d : Document) : Except Error α := do
  let a ← read maxRoom d.root
  if d.trailing then failFlaw .trailingCharacters else pure a

def decode {α : Type} (read : Nat → Doc → Except Error α) (text : String) : Except Error α :=
  (Document.ofText text).read read

def parse (text : String) : Except Error Json := decode Doc.value text

end Harvest.Json
