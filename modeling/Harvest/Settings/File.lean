import Harvest.Files
import Harvest.Settings.Text
import Harvest.Text.Quoted

/-!
The settings file: a text that is read and written as a whole.
-/

namespace Harvest.Settings

def load (fs : Files) (cwd : List String) (path : String) : Except Failure Settings :=
  match fs.readText cwd path with
  | .error e => .error (e.toFailure.wrap s!"Failed to open config file: {Text.quoted path}")
  | .ok text =>
    match parse text with
    | .error e => .error ⟨s!"Failed to parse config file: {Text.quoted path}", [e.message]⟩
    | .ok s => .ok s

def save (s : Settings) (fs : Files) (cwd : List String) (path : String) : Except Failure Files :=
  match fs.writeText cwd path s.write with
  | .error e => .error (e.toFailure.wrap s!"Failed to write config file: {Text.quoted path}")
  | .ok fs => .ok fs

end Harvest.Settings
