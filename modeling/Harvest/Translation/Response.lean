import Harvest.Json.Reading

/-!
Answers of the translation service. Their result comes as a list of segments, as one object, or as
something else; only the first two can hold a usable translation, which is never the empty text.
-/

namespace Harvest.Translation

open Json

/-- A translated part of a text. -/
structure Segment where
  src : Option String := none
  dst : Option String := none
deriving DecidableEq, Repr

namespace Segment

def text? (v : Json) : Option (Option String) := (v.optionalText "a string").toOption

/-- The members of an object as the two texts of a segment. Neither may come twice; other members do not
matter. -/
def ofMembers (src dst : Option (Option String)) : List (String × Json) → Option Segment
  | [] => some ⟨src.getD none, dst.getD none⟩
  | (key, v) :: ms =>
    if key = "src" then
      if src.isSome then none
      else do
        let t ← text? v
        ofMembers (some t) dst ms
    else if key = "dst" then
      if dst.isSome then none
      else do
        let t ← text? v
        ofMembers src (some t) ms
    else ofMembers src dst ms

/-- A segment from an object, or from at most two texts in the order source, translation. -/
def ofJson : Json → Option Segment
  | .object ms => ofMembers none none ms
  | .array [] => some {}
  | .array [src] => do pure ⟨← text? src, none⟩
  | .array [src, dst] => do pure ⟨← text? src, ← text? dst⟩
  | _ => none

end Segment

/-- The forms of a result. -/
inductive Result
  | segments (list : List Segment)
  | single (members : List (String × Json))
  | other (value : Json)

namespace Result

/-- The form of a value as it was read, its repeated keys included. A list with an item that is no segment
is something else as a whole. -/
def ofJson : Json → Result
  | .array vs =>
    match vs.mapM Segment.ofJson with
    | some list => segments list
    | none => other (Json.array vs).merged
  | .object ms => single (mergedMembers [] ms)
  | v => other v.merged

/-- The text under `dst` of the object, or else of its member `0`. -/
def ofSingle (ms : List (String × Json)) : Option String :=
  let found := match get? "dst" ms with
    | some v => some v
    | none => match get? "0" ms with
      | some (.object inner) => get? "dst" inner
      | _ => none
  match found with
  | some (.string s) => some s
  | _ => none

/-- The translations of all segments in order, if every segment has one. -/
def joined (list : List Segment) : Option String := (list.mapM Segment.dst).map String.join

/-- The usable translation. -/
def text? (r : Result) : Option String :=
  let found := match r with
    | segments list => joined list
    | single ms => ofSingle ms
    | other _ => none
  found.filter (· ≠ "")

end Result

structure Response where
  source : Option String := none
  target : Option String := none
  result : Option Result := none
  errorCode : Option Json := none
  errorMessage : Option String := none

namespace Response

def textField (name : String) (set : Option String → Response → Response) : Member Response where
  name := name
  read _ d r := (d.optional (Doc.text "a string")).map fun s => set s r

def fields : List (Member Response) := [
  textField "from" fun s r => { r with source := s },
  textField "to" fun s r => { r with target := s },
  { name := "trans_result"
    read room d r := (d.optional (Doc.content room)).map fun v =>
      { r with result := v.map Result.ofJson } },
  { name := "error_code"
    read room d r := (d.optional (Doc.value room)).map fun v => { r with errorCode := v } },
  textField "error_msg" fun s r => { r with errorMessage := s }]

def ofDoc (room : Nat) (d : Doc) : Except Error Response :=
  Member.readStruct "struct TranslationResponse" fields room {} d

def parse (body : String) : Except Error Response := decode ofDoc body

def text? (r : Response) : Option String := r.result.bind Result.text?

end Response

end Harvest.Translation
