/-!
# The command line

`treasury [--config FILE] COMMAND`, where the command is `tick`, `open` or `status`. Options
take the next argument or what stands behind an equals sign; an argument that looks like an
option is never taken as a value. What is wrong with a value behind an equals sign shows at
once. A value that is an argument of its own is settled when the next option comes, or at the
end, after the command has been read.
-/

namespace Treasury

/-- What is to be done. -/
inductive Command where
  /-- Advance the open workflow and the open transfer task by one step. -/
  | tick
  /-- Open a workflow. -/
  | openWorkflow (initiatedBy : String) (note : Option String)
  /-- Show what is open. -/
  | status
  deriving DecidableEq, Repr

/-- A command line that was understood. -/
structure CommandLine where
  /-- The settings file. -/
  config : String
  command : Command
  deriving DecidableEq, Repr

/-- Why a command line asks for nothing that could be done. -/
inductive UsageError where
  | displayHelp
  | displayVersion
  | nothingGiven
  | missingSubcommand
  | invalidSubcommand
  | unknownArgument
  | invalidValue
  | argumentConflict
  | tooManyValues
  deriving DecidableEq, Repr

namespace CommandLine

/-- What may stand on one level of the command line. -/
structure Grammar where
  /-- The options that take a value. -/
  options : List String
  /-- The options whose value may not be empty. -/
  nonEmpty : List String
  subcommands : List String
  /-- The version can be asked for. -/
  versioned : Bool

/-- The level of the program itself. -/
def top : Grammar := ⟨["config"], ["config"], ["tick", "open", "status", "help"], true⟩

/-- The level of a command that takes these options. -/
def sub (options : List String) : Grammar := ⟨options, [], [], false⟩

/-- The options read so far. -/
structure Options where
  values : List (String × String)
  /-- The option that waits for its value or to be settled, with its value if that has come. -/
  pending : Option (String × Option String)

namespace Options

/-- No options. -/
def empty : Options := ⟨[], none⟩

/-- Settles the pending option. -/
def resolve (g : Grammar) (o : Options) : Except UsageError Options :=
  match o.pending with
  | none => .ok o
  | some (_, none) => .error .invalidValue
  | some (name, some value) =>
    if (o.values.lookup name).isSome then .error .argumentConflict
    else if g.nonEmpty.contains name ∧ value = "" then .error .invalidValue
    else .ok ⟨o.values ++ [(name, value)], none⟩

/-- True if an option still waits for its value. -/
def waits (o : Options) : Bool :=
  match o.pending with
  | some (_, none) => true
  | _ => false

/-- Gives the waiting option its value. -/
def give (o : Options) (value : String) : Options :=
  { o with pending := o.pending.map fun option => (option.1, some value) }

end Options

/-- True of an argument that is an option or looks like one. -/
def looksLikeOption (arg : String) : Bool :=
  match arg.toList with
  | '-' :: _ :: _ => true
  | _ => false

/-- The name of a long option, and what stands behind an equals sign. -/
def long? (arg : String) : Option (String × Option String) :=
  match arg.toList with
  | '-' :: '-' :: cs =>
    let name := String.ofList (cs.takeWhile (· ≠ '='))
    match cs.dropWhile (· ≠ '=') with
    | _ :: value => some (name, some (String.ofList value))
    | [] => some (name, none)
  | _ => none

/-- What is wrong with a word that is neither option nor value. -/
def strayWord (g : Grammar) (escaped : Bool) (arg : String) : UsageError :=
  if g.subcommands.isEmpty then .unknownArgument
  else if escaped ∧ g.subcommands.contains arg then .unknownArgument
  else .invalidSubcommand

/-- Takes a long option. -/
def takeLong (g : Grammar) (o : Options) (name : String) (value : Option String) :
    Except UsageError Options :=
  let isFlag := name = "help" ∨ (name = "version" ∧ g.versioned)
  if isFlag then
    if value.isSome then .error .tooManyValues
    else (o.resolve g).bind fun _ =>
      .error (if name = "help" then .displayHelp else .displayVersion)
  else if g.options.contains name then
    (o.resolve g).bind fun o =>
      let o := { o with pending := some (name, value) }
      if value.isSome then o.resolve g else .ok o
  else .error .unknownArgument

/-- Takes a short option. -/
def takeShort (g : Grammar) (o : Options) (arg : String) : Except UsageError Options :=
  match arg.toList with
  | _ :: 'h' :: _ => (o.resolve g).bind fun _ => .error .displayHelp
  | _ :: 'V' :: _ =>
    if g.versioned then (o.resolve g).bind fun _ => .error .displayVersion
    else .error .unknownArgument
  | _ => .error .unknownArgument

/-- Reads the arguments of one level, up to a command; `escaped` after two dashes alone. -/
def scan (g : Grammar) (o : Options) (escaped : Bool) :
    List String → Except UsageError (Options × Option (String × List String))
  | [] => .ok (o, none)
  | arg :: rest =>
    if escaped then .error (strayWord g true arg)
    else if arg = "--" then scan g o true rest
    else if looksLikeOption arg then
      let taken := match long? arg with
        | some (name, value) => takeLong g o name value
        | none => takeShort g o arg
      match taken with
      | .ok o => scan g o false rest
      | .error e => .error e
    else if o.waits then scan g (o.give arg) false rest
    else if g.subcommands.contains arg then .ok (o, some (arg, rest))
    else .error (strayWord g false arg)

/-- Reads the options of a command that takes nothing else. -/
def scanOptions (g : Grammar) (args : List String) :
    Except UsageError (List (String × String)) := do
  let (o, _) ← scan g .empty false args
  let o ← o.resolve g
  return o.values

/-- Reads a command with its arguments. -/
def readCommand (name : String) (args : List String) : Except UsageError Command :=
  if name = "help" then
    match args with
    | [] => .error .displayHelp
    | [topic] =>
      .error (if top.subcommands.contains topic then .displayHelp else .invalidSubcommand)
    | _ => .error .invalidSubcommand
  else if name = "tick" then (scanOptions (sub []) args).map fun _ => .tick
  else if name = "status" then (scanOptions (sub []) args).map fun _ => .status
  else
    (scanOptions (sub ["initiated-by", "note"]) args).map fun values =>
      .openWorkflow ((values.lookup "initiated-by").getD "cli") (values.lookup "note")

/-- Reads the arguments behind the name of the program. The settings are in the file `config`
unless an option names another. -/
def ofArguments (args : List String) (config : String := "treasury.toml") :
    Except UsageError CommandLine := do
  match ← scan top .empty false args with
  | (o, none) =>
    let o ← o.resolve top
    .error (if o.values.isEmpty then .nothingGiven else .missingSubcommand)
  | (o, some (name, rest)) =>
    let command ← readCommand name rest
    let o ← o.resolve top
    return ⟨(o.values.lookup "config").getD config, command⟩

end CommandLine

end Treasury
