import BemNotation.Command.Arguments

/-!
What the program says about itself and about arguments that it refuses.
-/

namespace BemNotation.Command

def versionText : String := "bemtype-cli 0.1.0\n"

private def usageLine : String := "Usage: bemtype [OPTIONS] <INPUT>\n"

private def about : String :=
  "Command-line interface for generating types from BEM block notation\n"

def shortHelp : String :=
  about ++ "\n" ++ usageLine ++ "\n" ++
  "Arguments:\n" ++
  "  <INPUT>  Path to the input file\n" ++
  "\n" ++
  "Options:\n" ++
  "  -o, --output <OUTPUT>        Path to the output file (stdout when omitted)\n" ++
  "  -f, --format <FORMAT>        Output format [default: types] " ++
    "[possible values: types, bem, snapshot]\n" ++
  "  -c, --config <CONFIG>        Path to configuration file (TOML)\n" ++
  "      --log-level <LOG_LEVEL>  Log level (off, error, warn, info, debug, trace) " ++
    "[default: warn]\n" ++
  "  -h, --help                   Print help (see more with '--help')\n" ++
  "  -V, --version                Print version\n"

def fullHelp : String :=
  about ++ "\n" ++ usageLine ++ "\n" ++
  "Arguments:\n" ++
  "  <INPUT>\n" ++
  "          Path to the input file\n" ++
  "\n" ++
  "Options:\n" ++
  "  -o, --output <OUTPUT>\n" ++
  "          Path to the output file (stdout when omitted)\n" ++
  "\n" ++
  "  -f, --format <FORMAT>\n" ++
  "          Output format\n" ++
  "          \n" ++
  "          [default: types]\n" ++
  "\n" ++
  "          Possible values:\n" ++
  "          - types:    TypeScript type declaration\n" ++
  "          - bem:      Canonical BEM notation\n" ++
  "          - snapshot: TOML dump of the raw block model\n" ++
  "\n" ++
  "  -c, --config <CONFIG>\n" ++
  "          Path to configuration file (TOML)\n" ++
  "\n" ++
  "      --log-level <LOG_LEVEL>\n" ++
  "          Log level (off, error, warn, info, debug, trace)\n" ++
  "          \n" ++
  "          [default: warn]\n" ++
  "\n" ++
  "  -h, --help\n" ++
  "          Print help (see a summary with '-h')\n" ++
  "\n" ++
  "  -V, --version\n" ++
  "          Print version\n"

def Refusal.message : Refusal → String
  | unknownArgument argument => "error: unexpected argument '" ++ argument ++ "' found\n\n" ++
      usageLine ++ "\nFor more information, try '--help'."
  | invalidValue option => "error: invalid value for '" ++ option ++
      "'\n\nFor more information, try '--help'."
  | repeatedOption option => "error: the argument '" ++ option ++
      "' cannot be used multiple times\n\n" ++ usageLine ++ "\nFor more information, try '--help'."
  | unneededValue option => "error: unexpected value for '" ++ option ++
      "' found; no more were expected\n\n" ++ usageLine ++ "\nFor more information, try '--help'."
  | missingInput => "error: the following required arguments were not provided:\n  <INPUT>\n\n" ++
      usageLine ++ "\nFor more information, try '--help'."
  | help true => fullHelp
  | help false => shortHelp
  | version => versionText

end BemNotation.Command
