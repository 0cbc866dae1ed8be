import Treasury.Command.Line

/-!
# Help

What is shown to somebody whose command line asks for help, for the version, or for nothing
that could be done.
-/

namespace Treasury

namespace CommandLine

/-- The version of the program. -/
def version : String := "treasury 0.1.0\n"

/-- How the program is called. -/
def usage : String :=
  "Drives treasury rebalance workflows one stage at a time\n\n" ++
  "Usage: treasury [OPTIONS] <COMMAND>\n\n" ++
  "Commands:\n" ++
  "  tick    Advance the open rebalance workflow and asset transfer task by one step\n" ++
  "  open    Open a new rebalance workflow in the init state\n" ++
  "            --initiated-by <NAME>  Who or what requested the rebalance [default: cli]\n" ++
  "            --note <NOTE>\n" ++
  "  status  Show open workflows with their claim progress\n" ++
  "  help    Print this message\n\n" ++
  "Options:\n" ++
  "      --config <FILE>  Path to the settings [default: treasury.toml]\n" ++
  "  -h, --help           Print help\n" ++
  "  -V, --version        Print version\n"

end CommandLine

namespace UsageError

/-- True if what is shown was asked for. -/
def isRequest : UsageError → Bool
  | displayHelp | displayVersion => true
  | _ => false

/-- What is shown. -/
def message : UsageError → String
  | displayHelp | nothingGiven => CommandLine.usage
  | displayVersion => CommandLine.version
  | missingSubcommand => "error: a command is missing\n"
  | invalidSubcommand => "error: there is no such command\n"
  | unknownArgument => "error: an argument was not expected\n"
  | invalidValue => "error: an option lacks its value\n"
  | argumentConflict => "error: an option was given twice\n"
  | tooManyValues => "error: an option that takes no value was given one\n"

end UsageError

end Treasury
