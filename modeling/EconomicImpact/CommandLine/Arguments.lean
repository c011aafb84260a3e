import EconomicImpact.Text.Numeral

set_option autoImplicit false

namespace EconomicImpact.CommandLine

inductive Verb
  | run
  | benchmark
  | showConfig
  | multipliers
  deriving DecidableEq, Repr

namespace Verb

def all : List Verb := [run, benchmark, showConfig, multipliers]

def name : Verb → String
  | run => "run"
  | benchmark => "benchmark"
  | showConfig => "show-config"
  | multipliers => "multipliers"

def ofName? (text : String) : Option Verb := all.find? (·.name == text)

end Verb

inductive Flag
  | config
  | model
  | scenario
  | coefficients
  | constraints
  | workforce
  | output
  | reference
  | tolerance
  | json
  | help
  | version
  deriving DecidableEq, Repr

namespace Flag

def long : Flag → String
  | config => "config"
  | model => "model"
  | scenario => "scenario"
  | coefficients => "coefficients"
  | constraints => "constraints"
  | workforce => "workforce"
  | output => "output"
  | reference => "reference"
  | tolerance => "tolerance"
  | json => "json"
  | help => "help"
  | version => "version"

def short? : Flag → Option Char
  | config => some 'c'
  | model => some 'm'
  | scenario => some 's'
  | output => some 'o'
  | reference => some 'r'
  | tolerance => some 't'
  | help => some 'h'
  | version => some 'V'
  | coefficients | constraints | workforce | json => none

def takesValue : Flag → Bool
  | json | help | version => false
  | _ => true

def accepts (flag : Flag) (text : String) : Bool :=
  match flag with
  | tolerance => (Text.float? text.toList).isSome
  | _ => text ≠ ""

end Flag

def topFlags : List Flag := [.config, .help, .version]

namespace Verb

def required : Verb → List Flag
  | run => [.model, .scenario]
  | benchmark => [.model, .reference]
  | showConfig => []
  | multipliers => [.model]

def optional : Verb → List Flag
  | run => [.coefficients, .constraints, .workforce, .output]
  | benchmark => [.tolerance, .json]
  | showConfig | multipliers => []

def flags (verb : Verb) : List Flag :=
  .config :: (verb.required ++ verb.optional ++ [.help])

end Verb

inductive UsageFault
  | unknownFlag (text : String)
  | unknownVerb (text : String)
  | unexpectedWord (text : String)
  | missingValue (flag : Flag)
  | unwantedValue (flag : Flag)
  | unusableValue (flag : Flag) (text : String)
  | repeatedFlag (flag : Flag)
  | missingFlags (flags : List Flag)
  | missingVerb
  deriving DecidableEq, Repr

def UsageFault.message : UsageFault → String
  | unknownFlag text => "unexpected argument '" ++ text ++ "' found"
  | unknownVerb text => "unrecognized subcommand '" ++ text ++ "'"
  | unexpectedWord text => "unexpected argument '" ++ text ++ "' found"
  | missingValue flag => "a value is required for '--" ++ flag.long ++ "' but none was supplied"
  | unwantedValue flag => "unexpected value for '--" ++ flag.long ++ "' found"
  | unusableValue flag text => "invalid value '" ++ text ++ "' for '--" ++ flag.long ++ "'"
  | repeatedFlag flag => "the argument '--" ++ flag.long ++ "' cannot be used multiple times"
  | missingFlags flags =>
    "the following required arguments were not provided: " ++
      ", ".intercalate (flags.map ("--" ++ ·.long))
  | missingVerb => "a subcommand is required but one was not provided"

structure Settled where
  values : List (Flag × String)

namespace Settled

def empty : Settled := ⟨[]⟩

def get? (s : Settled) (flag : Flag) : Option String := s.values.lookup flag

def has (s : Settled) (flag : Flag) : Bool := (s.get? flag).isSome

def give (s : Settled) (flag : Flag) (text : String) : Except UsageFault Settled :=
  if !flag.accepts text then .error (.unusableValue flag text)
  else if s.has flag then .error (.repeatedFlag flag)
  else .ok ⟨s.values ++ [(flag, text)]⟩

def raise (s : Settled) (flag : Flag) : Except UsageFault Settled :=
  if s.has flag then .error (.repeatedFlag flag) else .ok ⟨s.values ++ [(flag, "")]⟩

end Settled

inductive Token
  | divider
  | long (name : String) (value : Option String)
  | shorts (letters : List Char)
  | word (text : String)

def Token.ofText (text : String) : Token :=
  match text.toList with
  | ['-', '-'] => divider
  | '-' :: '-' :: rest =>
    let name := String.ofList (rest.takeWhile (· != '='))
    match rest.dropWhile (· != '=') with
    | _ :: value => long name (some (String.ofList value))
    | [] => long name none
  | '-' :: c :: rest => shorts (c :: rest)
  | _ => word text

inductive Progress
  | going (settled : Settled)
  | waiting (flag : Flag) (settled : Settled)
  | help
  | version

def strike (s : Settled) (flag : Flag) : Except UsageFault Progress :=
  match flag with
  | .help => .ok .help
  | .version => .ok .version
  | flag => if flag.takesValue then .ok (.waiting flag s) else (s.raise flag).map .going

def readLong (flags : List Flag) (s : Settled) (name : String) (value : Option String) :
    Except UsageFault Progress :=
  match flags.find? (·.long == name), value with
  | none, _ => .error (.unknownFlag ("--" ++ name))
  | some flag, none => strike s flag
  | some flag, some value =>
    if flag.takesValue then (s.give flag value).map .going else .error (.unwantedValue flag)

def readShorts (flags : List Flag) (s : Settled) : List Char → Except UsageFault Progress
  | [] => .ok (.going s)
  | c :: rest =>
    match flags.find? (·.short? == some c) with
    | none => .error (.unknownFlag (String.ofList ['-', c]))
    | some flag =>
      if flag.takesValue && !rest.isEmpty then
        let value := match rest with
          | '=' :: value => value
          | value => value
        (s.give flag (String.ofList value)).map .going
      else
        match strike s flag with
        | .ok (.going s) => readShorts flags s rest
        | other => other

inductive Ending
  | finished (settled : Settled)
  | atWord (settled : Settled) (text : String) (rest : List String)
  | help
  | version

def readFlags (flags : List Flag) : Progress → List String → Except UsageFault Ending
  | .help, _ => .ok .help
  | .version, _ => .ok .version
  | .going s, [] => .ok (.finished s)
  | .waiting flag _, [] => .error (.missingValue flag)
  | .waiting flag s, text :: rest =>
    match Token.ofText text with
    | .word value =>
      match s.give flag value with
      | .ok s => readFlags flags (.going s) rest
      | .error fault => .error fault
    | _ => .error (.missingValue flag)
  | .going s, text :: rest =>
    match Token.ofText text with
    | .word word => .ok (.atWord s word rest)
    | .divider =>
      match rest with
      | [] => .ok (.finished s)
      | word :: _ => .error (.unexpectedWord word)
    | .long name value =>
      match readLong flags s name value with
      | .ok progress => readFlags flags progress rest
      | .error fault => .error fault
    | .shorts letters =>
      match readShorts flags s letters with
      | .ok progress => readFlags flags progress rest
      | .error fault => .error fault

inductive Request
  | perform (verb : Verb) (config : Option String) (settled : Settled)
  | help (topic : Option Verb)
  | version

def readVerb (config : Option String) (verb : Verb) (texts : List String) :
    Except UsageFault Request := do
  match ← readFlags verb.flags (.going .empty) texts with
  | .help | .version => return .help (some verb)
  | .atWord _ text _ => throw (.unexpectedWord text)
  | .finished s =>
    match verb.required.filter (!s.has ·) with
    | [] => return .perform verb ((s.get? .config).or config) s
    | missing => throw (.missingFlags missing)

def readTopic : List String → Except UsageFault Request
  | [] => .ok (.help none)
  | [text] =>
    match Verb.ofName? text with
    | some verb => .ok (.help (some verb))
    | none => if text = Flag.help.long then .ok (.help none) else .error (.unknownVerb text)
  | _ :: text :: _ => .error (.unknownVerb text)

def read (texts : List String) : Except UsageFault Request := do
  match ← readFlags topFlags (.going .empty) texts with
  | .help => return .help none
  | .version => return .version
  | .finished _ => throw .missingVerb
  | .atWord s text rest =>
    if text = Flag.help.long then readTopic rest
    else
      match Verb.ofName? text with
      | some verb => readVerb (s.get? .config) verb rest
      | none => throw (.unknownVerb text)

end EconomicImpact.CommandLine
