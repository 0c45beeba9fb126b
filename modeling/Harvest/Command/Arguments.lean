import Harvest.Command.Basic

/-!
Reading command lines. Options are long, with their value in the next argument or after an equals sign, or
short, alone or several together; the last of them may be followed at once by its value. After `--` all
arguments are words.
-/

namespace Harvest.Command

/-- Why there is nothing to execute. -/
inductive Stop
  | usage
  | help
  | version
deriving DecidableEq, Repr

/-- What has been read so far. -/
structure Draft where
  configPath : Option String := none
  logLevel : Option Log.Level := none
  input : Option String := none
  variant : Option Settings.Variant := none
  dropDuplicates : Bool := false
  concurrency : Option UInt64 := none
  taskId : Option String := none
  dryRun : Bool := false
  target : Option String := none
  words : List String := []
deriving DecidableEq, Repr

/-- What an option does: a flag by itself, another one with its value, which may be refused. -/
inductive Effect
  | flag (set : Draft → Draft)
  | value (set : String → Draft → Option Draft)
  | stop (why : Stop)

structure OptionRule where
  short : Option Char
  long : String
  effect : Effect

structure Grammar where
  options : List OptionRule
  /-- How many words may stand besides the options. -/
  wordLimit : Nat
  /-- Words that begin a part of their own. -/
  commands : List String := []

/-- A whole number of sixty-four bits, with or without a plus sign. -/
def count? (text : String) : Option UInt64 :=
  let digits := match text.toList with
    | '+' :: rest => rest
    | cs => cs
  if digits.isEmpty ∨ ¬digits.all Char.isDigit then none
  else
    let n : Nat := digits.foldl (fun n c => n * 10 + (c.toNat - 48)) 0
    if n < UInt64.size then some n.toUInt64 else none

def levelOf? (text : String) : Option Log.Level := Log.Level.all.find? (·.name = text)

def commonOptions : List OptionRule := [
  ⟨some 'f', "config-path", .value fun v d => some { d with configPath := some v }⟩,
  ⟨some 'l', "log-level", .value fun v d => (levelOf? v).map fun l => { d with logLevel := some l }⟩,
  ⟨some 'h', "help", .stop .help⟩]

def commandNames : List String := ["run", "translate", "check-url", "hash", "resolve-url", "help"]

def outerGrammar : Grammar where
  options := commonOptions ++ [⟨some 'V', "version", .stop .version⟩]
  wordLimit := 0
  commands := commandNames

def runOptions : List OptionRule := [
  ⟨some 'i', "input", .value fun v d => if v.isEmpty then none else some { d with input := some v }⟩,
  ⟨some 'v', "variant", .value fun v d =>
    (Settings.Variant.all.lookup v).map fun v => { d with variant := some v }⟩,
  ⟨some 'd', "drop-duplicates", .flag fun d => { d with dropDuplicates := true }⟩,
  ⟨some 'c', "concurrency", .value fun v d => (count? v).map fun n => { d with concurrency := some n }⟩,
  ⟨none, "task-id", .value fun v d => some { d with taskId := some v }⟩,
  ⟨none, "dry-run", .flag fun d => { d with dryRun := true }⟩]

def translateOptions : List OptionRule := [
  ⟨some 't', "target-language", .value fun v d => some { d with target := some v }⟩]

def innerGrammar (name : String) : Grammar :=
  match name with
  | "run" => ⟨runOptions ++ commonOptions, 0, []⟩
  | "translate" => ⟨translateOptions ++ commonOptions, 1, []⟩
  | "resolve-url" => ⟨commonOptions, 2, []⟩
  | _ => ⟨commonOptions, 1, []⟩

/-- A draft with what matters for the arguments to come. -/
structure Reading where
  draft : Draft := {}
  /-- The options that were used; none may be used twice. -/
  used : List String := []
  /-- The option whose value is the next argument. -/
  pending : Option OptionRule := none
  /-- Whether all arguments to come are words. -/
  wordsOnly : Bool := false

namespace Reading

def setValue (r : Reading) (o : OptionRule) (set : String → Draft → Option Draft) (v : String) :
    Except Stop Reading :=
  match set v r.draft with
  | some d => if o.long ∈ r.used then .error .usage else .ok ⟨d, o.long :: r.used, none, r.wordsOnly⟩
  | none => .error .usage

def setFlag (r : Reading) (o : OptionRule) (set : Draft → Draft) : Except Stop Reading :=
  if o.long ∈ r.used then .error .usage
  else .ok { r with draft := set r.draft, used := o.long :: r.used }

def long (g : Grammar) (r : Reading) (name : String) (attached : Option String) : Except Stop Reading :=
  match g.options.find? (·.long = name) with
  | none => .error .usage
  | some o =>
    match o.effect, attached with
    | .flag set, none => r.setFlag o set
    | .stop why, none => .error why
    | .value set, some v => r.setValue o set v
    | .value _, none => .ok { r with pending := some o }
    | _, some _ => .error .usage

/-- The value that follows a short option at once; an equals sign may stand between. -/
def attachedValue : List Char → Option String
  | [] => none
  | '=' :: cs => some (String.ofList cs)
  | cs => some (String.ofList cs)

def shorts (g : Grammar) (r : Reading) : List Char → Except Stop Reading
  | [] => .ok r
  | c :: cs =>
    match g.options.find? (·.short = some c) with
    | none => .error .usage
    | some o =>
      match o.effect with
      | .flag set => do shorts g (← r.setFlag o set) cs
      | .stop why => .error why
      | .value set =>
        match attachedValue cs with
        | some v => r.setValue o set v
        | none => .ok { r with pending := some o }

def word (g : Grammar) (r : Reading) (w : String) : Except Stop Reading :=
  if r.draft.words.length < g.wordLimit then
    .ok { r with draft := { r.draft with words := r.draft.words ++ [w] } }
  else .error .usage

/-- The name of a long option and the value attached to it. -/
def splitLong (cs : List Char) : String × Option String :=
  (String.ofList (cs.takeWhile (· ≠ '=')), (cs.dropWhile (· ≠ '=')).tail?.map String.ofList)

/-- Takes one argument that is no command. -/
def argument (g : Grammar) (r : Reading) (a : String) : Except Stop Reading :=
  if r.wordsOnly then r.word g a
  else
    match a.toList, r.pending with
    | ['-', '-'], none => .ok { r with wordsOnly := true }
    | '-' :: '-' :: cs, none => r.long g (splitLong cs).1 (splitLong cs).2
    | '-' :: c :: cs, none => r.shorts g (c :: cs)
    | '-' :: _ :: _, some _ => .error .usage
    | _, some o =>
      match o.effect with
      | .value set => r.setValue o set a
      | _ => .error .usage
    | _, none => r.word g a

/-- Takes arguments up to a command's name, which comes back with the arguments after it. -/
def arguments (g : Grammar) (r : Reading) : List String → Except Stop (Reading × Option (String × List String))
  | [] => if r.pending.isSome then .error .usage else .ok (r, none)
  | a :: rest =>
    if a ∈ g.commands ∧ r.pending.isNone ∧ ¬r.wordsOnly then .ok (r, some (a, rest))
    else do arguments g (← r.argument g a) rest

end Reading

def ofDraft (name : String) (d : Draft) : Except Stop Command :=
  match name, d.words, d.input with
  | "run", [], some input =>
    .ok (run ⟨input, d.variant, d.dropDuplicates, d.concurrency, d.taskId, d.dryRun⟩)
  | "translate", [text], _ => .ok (translate text d.target)
  | "check-url", [url], _ => .ok (checkUrl url)
  | "hash", [], _ => .ok (hash none)
  | "hash", [text], _ => .ok (hash (some text))
  | "resolve-url", [page, href], _ => .ok (resolveUrl page href)
  | _, _, _ => .error .usage

def helpStop (rest : List String) : Stop :=
  match rest with
  | [] => .help
  | [name] => if name ∈ commandNames then .help else .usage
  | _ => .usage

/-- Reads a command line. An option after the command's name goes before the same one in front of it. -/
def parse (arguments : List String) : Except Stop Invocation := do
  let (outer, found) ← Reading.arguments outerGrammar {} arguments
  match found with
  | none => throw .usage
  | some (name, rest) =>
    if name = "help" then throw (helpStop rest)
    let (inner, _) ← Reading.arguments (innerGrammar name) {} rest
    let command ← ofDraft name inner.draft
    let path := inner.draft.configPath <|> outer.draft.configPath
    pure ⟨path.getD defaultConfigPath, inner.draft.logLevel <|> outer.draft.logLevel, command⟩

end Harvest.Command
