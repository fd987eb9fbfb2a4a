/-!
# Arguments of the program

Two options of its own, help and version.  Nothing may be given twice, and nothing else is allowed.
Help and version are acted on as soon as they are met, so that only what stands before them can be
wrong.
-/

namespace DebugBridge.CommandLine

/-- What the program is asked to do. -/
inductive Request
  | serve (configPath : Option String) (singleContext : Bool)
  | shortHelp
  | longHelp
  | version
  /-- The arguments make no sense. -/
  | misuse
deriving DecidableEq, Repr

/-- The options met so far. -/
structure Options where
  configPath : Option String := none
  singleContext : Bool := false

/-- Whether an argument is an option or the end of options, and so no value. -/
def isOption (argument : String) : Bool :=
  match argument.toList with
  | '-' :: _ :: _ => true
  | _ => false

/-- Name and value of a long option, from behind its dashes. -/
def splitLong (text : List Char) : String × Option String :=
  let name := text.takeWhile (· != '=')
  (String.ofList name,
    match text.drop name.length with
    | _ :: value => some (String.ofList value)
    | [] => none)

/-- The options with a path for the configuration, unless they have one. -/
def setConfig (options : Options) (path : String) : Option Options :=
  if options.configPath.isSome || path.isEmpty then none
  else some { options with configPath := some path }

def setSingleContext (options : Options) : Option Options :=
  if options.singleContext then none else some { options with singleContext := true }

def finish (options : Options) : Request := .serve options.configPath options.singleContext

/-- Reads the arguments from left to right. -/
def read (options : Options) : List String → Request
  | [] => finish options
  | argument :: rest =>
    match argument.toList with
    | ['-', '-'] => if rest.isEmpty then finish options else .misuse
    | '-' :: '-' :: text =>
      match splitLong text, rest with
      | ("config", some path), rest =>
        match setConfig options path with
        | some options => read options rest
        | none => .misuse
      | ("config", none), path :: rest =>
        if isOption path then .misuse
        else match setConfig options path with
          | some options => read options rest
          | none => .misuse
      | ("single-context", none), rest =>
        match setSingleContext options with
        | some options => read options rest
        | none => .misuse
      | ("help", none), _ => .longHelp
      | ("version", none), _ => .version
      | _, _ => .misuse
    | '-' :: 'h' :: _ => .shortHelp
    | '-' :: 'V' :: _ => .version
    | _ => .misuse

def versionText : String := "mta-dap 0.1.0\n"

def usageText : String := "Usage: mta-dap [OPTIONS]\n"

def shortHelpText : String :=
  "Debug Adapter Protocol bridge for the MTA:SA Lua debug backend.\n\n" ++ usageText ++ "\n"
    ++ "Options:\n"
    ++ "      --config <CONFIG>  Path to a TOML config file\n"
    ++ "      --single-context   Debug a single context (unsuffixed backend endpoints) instead of "
    ++ "server and\n                         client\n"
    ++ "  -h, --help             Print help (see more with '--help')\n"
    ++ "  -V, --version          Print version\n"

def longHelpText : String :=
  "Debug adapter bridging DAP clients to the MTA:SA debug backend.\n\n"
    ++ "Speaks DAP over stdio; stdout carries protocol messages only.\n\n" ++ usageText ++ "\n"
    ++ "Options:\n"
    ++ "      --config <CONFIG>\n"
    ++ "          Path to a TOML config file.\n"
    ++ "          \n"
    ++ "          If unset, `MTA_DAP_CONFIG` is used as a fallback. When neither is provided the "
    ++ "adapter\n          uses built-in defaults.\n\n"
    ++ "      --single-context\n"
    ++ "          Debug a single context (unsuffixed backend endpoints) instead of server and "
    ++ "client\n\n"
    ++ "  -h, --help\n"
    ++ "          Print help (see a summary with '-h')\n\n"
    ++ "  -V, --version\n"
    ++ "          Print version\n"

end DebugBridge.CommandLine
