/-!
The arguments of the command line: a command, then its options by their long names. An option that
takes a value gets it after an equals sign or as the next argument, which must not look like an
option itself. An option given twice, a stray word and a missing option are errors.
-/

namespace Registrar

/-- Which batch is checked, for which country, and what the request chooses. -/
structure Request where
  country : String
  input : String
  groups : Option String
  connective : Option String
  deriving DecidableEq, Repr

/-- What the program is asked to do. -/
inductive Command
  /-- List the groups on offer. -/
  | groups
  /-- Check a batch and write nothing. -/
  | check (request : Request)
  /-- Check a batch and insert it; a batch with duplicates is inserted only if they are allowed. -/
  | insert (request : Request) (allowDuplicates : Bool)
  deriving DecidableEq, Repr

/-- What the arguments come to. -/
inductive Invocation
  | run (command : Command)
  /-- Help or the version is asked for. -/
  | about
  | wrong
  deriving DecidableEq, Repr

namespace Command

/-- What the options gave so far. -/
structure Options where
  country : Option String
  input : Option String
  groups : Option String
  connective : Option String
  allowDuplicates : Bool
  deriving DecidableEq, Repr

namespace Options

def none : Options := ⟨.none, .none, .none, .none, false⟩

def set? (o : Options) (name value : String) : Option Options :=
  match name with
  | "country" => if o.country.isSome then .none else some { o with country := value }
  | "input" =>
    if o.input.isSome || value.isEmpty then .none else some { o with input := value }
  | "groups" => if o.groups.isSome then .none else some { o with groups := value }
  | "operator" => if o.connective.isSome then .none else some { o with connective := value }
  | _ => .none

def request? (o : Options) : Option Request := do
  return ⟨← o.country, ← o.input, o.groups, o.connective⟩

end Options

/-- The options that take a value. -/
def valued : List String := ["country", "input", "groups", "operator"]

/-- The argument stands for an option or for the end of options. -/
def looksLikeOption (argument : String) : Bool :=
  argument.startsWith "-" && argument != "-"

/-- What a row of options comes to. -/
inductive Parsed
  | options (o : Options)
  | about
  | wrong

/-- Reads the options of a command that has the switch `switch`, if it has one. -/
def readOptions (switch : Option String) (o : Options) : List String → Parsed
  | [] => .options o
  | argument :: rest =>
    match argument.toList with
    | ['-', '-'] => if rest.isEmpty then .options o else .wrong
    | '-' :: '-' :: long =>
      let name := String.ofList (long.takeWhile (· != '='))
      match long.dropWhile (· != '=') with
      | _ :: value =>
        match o.set? name (String.ofList value) with
        | some o => readOptions switch o rest
        | none => .wrong
      | [] =>
        if name = "help" then .about
        else if switch = some name then
          if o.allowDuplicates then .wrong
          else readOptions switch { o with allowDuplicates := true } rest
        else if name ∈ valued then
          match rest with
          | value :: rest =>
            if looksLikeOption value then .wrong
            else match o.set? name value with
              | some o => readOptions switch o rest
              | none => .wrong
          | [] => .wrong
        else .wrong
    | '-' :: 'h' :: _ => .about
    | _ => .wrong

def ofOptions (make : Options → Option Command) : Parsed → Invocation
  | .about => .about
  | .wrong => .wrong
  | .options o =>
    match make o with
    | some command => .run command
    | none => .wrong

/-- The words name one command to explain, or none; no option may stand among them. -/
def namesCommand : List String → Bool
  | [] => true
  | [word] => word ∈ ["groups", "check", "import", "help"]
  | _ => false

def read : List String → Invocation
  | "groups" :: rest =>
    match rest with
    | [] | ["--"] => .run .groups
    | argument :: _ => if argument = "--help" || argument.startsWith "-h" then .about else .wrong
  | "check" :: rest =>
    ofOptions (fun o => o.request?.map .check) (readOptions none .none rest)
  | "import" :: rest =>
    ofOptions (fun o => o.request?.map fun request => .insert request o.allowDuplicates)
      (readOptions (some "allow-duplicates") .none rest)
  | "help" :: words => if namesCommand words then .about else .wrong
  | argument :: _ =>
    if argument = "--help" || argument = "--version" ||
      argument.startsWith "-h" || argument.startsWith "-V" then .about
    else .wrong
  | [] => .wrong

end Command

end Registrar
