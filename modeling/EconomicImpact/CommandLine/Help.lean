import EconomicImpact.CommandLine.Arguments

set_option autoImplicit false

namespace EconomicImpact.CommandLine

def programName : String := "impact-engine"

def versionText : String := programName ++ " 0.2.0"

def defaultConfig : String := "config/default.toml"

def Verb.about : Verb → String
  | run => "Solve a shock schedule and write the run result as JSON"
  | benchmark => "Compare computed multipliers against a reference set"
  | showConfig => "Print the effective configuration as TOML"
  | multipliers => "Print Type I output multipliers as JSON"

def helpAbout : String := "Print this message or the help of the given subcommand(s)"

namespace Flag

def about : Flag → String
  | config => "Configuration file [default: " ++ defaultConfig ++ "]"
  | model => "Model snapshot (JSON)"
  | scenario => "Scenario file (JSON)"
  | coefficients => "Satellite coefficients (JSON)"
  | constraints => "Constraint set (JSON)"
  | workforce => "Occupation bridge, classifications, targets and baseline (JSON)"
  | output => "Output path (default: stdout)"
  | reference => "Reference multipliers (JSON)"
  | tolerance => "Relative tolerance (default from config)"
  | json => "Print the report as JSON instead of text"
  | help => "Print help"
  | version => "Print version"

def spelling (flag : Flag) : String :=
  "--" ++ flag.long ++ if flag.takesValue then " <" ++ flag.long.toUpper ++ ">" else ""

def column (flag : Flag) : String :=
  (match flag.short? with
    | some c => String.ofList ['-', c, ',', ' ']
    | none => "    ") ++ flag.spelling

end Flag

def columns (rows : List (String × String)) : List String :=
  let width := (rows.map fun (left, _) => left.length).foldl max 0
  rows.map fun (left, right) =>
    "  " ++ left ++ String.ofList (List.replicate (width - left.length) ' ') ++ "  " ++ right

def flagLines (flags : List Flag) : List String :=
  columns (flags.map fun flag => (flag.column, flag.about))

def topHelp : List String :=
  ["Input-Output economic impact engine", "",
    "Usage: " ++ programName ++ " [OPTIONS] <COMMAND>", "", "Commands:"] ++
    columns (Verb.all.map (fun verb => (verb.name, verb.about)) ++ [(Flag.help.long, helpAbout)]) ++
    ["", "Options:"] ++ flagLines topFlags

def Verb.help (verb : Verb) : List String :=
  [verb.about, "",
    "Usage: " ++ " ".intercalate
      ([programName, verb.name, "[OPTIONS]"] ++ verb.required.map (·.spelling)), "", "Options:"] ++
    flagLines verb.flags

def helpText (topic : Option Verb) : String :=
  let lines := match topic with
    | some verb => verb.help
    | none => topHelp
  "\n".intercalate lines

end EconomicImpact.CommandLine
