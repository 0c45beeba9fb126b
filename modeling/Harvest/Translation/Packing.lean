import Harvest.Text.Split
import Harvest.Translation.Translator

/-!
Two fields in one call. Title and content are joined by a delimiter, translated together and split again.
Nothing is escaped, so the translation is trusted only where it splits into exactly two parts.
-/

namespace Harvest.Translation

def pack (title content delimiter : String) : String := title ++ delimiter ++ content

def unpack (text delimiter : String) : List String := Text.split text delimiter

/-- The delimiter that is used where none is configured. -/
def defaultDelimiter : String := "分隔符"

/-- What a packed translation came back as. -/
inductive Unpacked
  /-- The title was empty and the part after the delimiter is the content. -/
  | whole (content : String)
  | segments (parts : List String)
deriving DecidableEq, Repr

namespace Unpacked

/-- The translated title and content, where the split is not ambiguous. -/
def fields? : Unpacked → Option (String × String)
  | whole content => some ("", content)
  | segments [title, content] => some (title, content)
  | segments _ => none

/-- Reads the translation of a packed text; without a title, what precedes the delimiter is dropped. -/
def ofTranslation (title delimiter translated : String) : Unpacked :=
  match title.isEmpty, unpack translated delimiter with
  | true, [_, content] => whole content
  | _, parts => segments parts

end Unpacked

/-- Translates title and content with one call; nothing comes back where nothing was translated. -/
def translatePacked {σ : Type} (t : Translator σ) (title content delimiter target : String)
    (s : Session σ) : Except Failure (Option Unpacked) × Session σ :=
  let (reply, s) := s.ask t ⟨pack title content delimiter, target⟩
  (reply.answer.map (·.map (Unpacked.ofTranslation title delimiter)), s)

end Harvest.Translation
