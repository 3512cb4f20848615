import ConfigTables.CommandLine.Invocation

/-!
# Command-line arguments

A parser of argument lists, for programs that bring none of their own. Nothing else in the library
depends on it.

An argument list names a command, its options and its operands. Options may stand among the
operands of a command; before the command only options of the tool itself count. An option is a
word after two dashes or a letter after one; letters may be run together, and an option that takes
a value finds it in the rest of its own argument, or else in the next one, whatever that looks
like. Two dashes alone end the options.

`Invocation.ofArguments` reads an argument list. A list that cannot be read at all is a usage error
even if it asks for help; one that can, and asks for help or the version, is answered before
operands are counted and checked. No operand may have the character U+0000. Where a command should
stand and none is named, what stands there is looked at once more for options of the tool, so two
dashes do not keep help or the version from being shown.
-/

namespace ConfigTables

/-- What may be asked for in place of running a command. -/
inductive Request where
  | help
  | version
  deriving DecidableEq, Repr

/-- What the options of an argument list amount to. -/
structure ChosenOptions where
  settings : Settings := {}
  /-- What is asked for in place of running a command, in the order of the arguments. -/
  requests : List Request := []
  deriving DecidableEq, Repr

/-- Changes the settings. -/
def ChosenOptions.configure (change : Settings → Settings) (options : ChosenOptions) :
    ChosenOptions :=
  { options with settings := change options.settings }

/-- The effect of an option, which may take a value. -/
inductive OptionEffect where
  | flag (effect : ChosenOptions → ChosenOptions)
  | value (effect : String → ChosenOptions → ChosenOptions)

/-- An option: its word, its letter if it has one, and its effect. -/
structure OptionSpec where
  long : String
  short : Option Char := none
  effect : OptionEffect

namespace Arguments

/-- What is read from an option argument: its effect so far, and the effect of the next argument if
that is a value still to come. -/
structure Reading where
  update : ChosenOptions → ChosenOptions
  pending : Option (String → ChosenOptions → ChosenOptions) := none

/-- Reads an option given by its word, with the value attached to it, if any. -/
def readLong (specs : List OptionSpec) (word : String) (attached : Option String) :
    Option Reading :=
  match specs.find? fun spec ↦ spec.long == word with
  | none => none
  | some spec =>
    match spec.effect, attached with
    | .flag effect, none => some { update := effect }
    | .flag _, some _ => none
    | .value effect, some v => some { update := effect v }
    | .value effect, none => some { update := id, pending := some effect }

/-- Reads options given by their letters. -/
def readShort (specs : List OptionSpec) : List Char → Option Reading
  | [] => some { update := id }
  | c :: cs =>
    match specs.find? fun spec ↦ spec.short == some c with
    | none => none
    | some spec =>
      match spec.effect with
      | .flag effect =>
        (readShort specs cs).map fun rest ↦ { rest with update := rest.update ∘ effect }
      | .value effect =>
        if cs.isEmpty then some { update := id, pending := some effect }
        else some { update := effect (String.ofList cs) }

/-- Reads an option argument. -/
def readOption (specs : List OptionSpec) (arg : String) : Option Reading :=
  match arg.toList with
  | '-' :: '-' :: word =>
    match word.span (· != '=') with
    | (word, []) => readLong specs (String.ofList word) none
    | (word, _ :: v) => readLong specs (String.ofList word) (some (String.ofList v))
  | _ :: letters => readShort specs letters
  | [] => none

/-- Whether an argument is an option. A dash alone is an operand. -/
def isOption (arg : String) : Bool :=
  match arg.toList with
  | '-' :: _ :: _ => true
  | _ => false

/-- Reads the options of an argument list and returns the operands. If options may not stand among
the operands, everything from the first operand on is returned as it is. -/
def read (specs : List OptionSpec) (among : Bool) (options : ChosenOptions) :
    List String → Option (ChosenOptions × List String)
  | [] => some (options, [])
  | arg :: rest =>
    if arg = "--" then some (options, rest)
    else if isOption arg then
      match readOption specs arg with
      | none => none
      | some reading =>
        match reading.pending with
        | none => read specs among (reading.update options) rest
        | some effect =>
          match rest with
          | [] => none
          | v :: rest => read specs among (effect v (reading.update options)) rest
    else if among then
      (read specs among options rest).map fun result ↦ (result.1, arg :: result.2)
    else some (options, arg :: rest)

/-- The option that asks for something. -/
def requestOption (long : String) (short : Option Char) (request : Request) : OptionSpec :=
  { long, short
    effect := .flag fun options ↦ { options with requests := options.requests ++ [request] } }

/-- The option for help. -/
def helpOption : OptionSpec :=
  requestOption "help" none .help

/-- The options before the command. -/
def toolOptions : List OptionSpec :=
  [requestOption "version" (some 'V') .version, helpOption]

/-- The options of the commands that convert a directory. -/
def conversionOptions : List OptionSpec :=
  [{ long := "array-delimiter", short := some 'd'
     effect := .value fun delimiter ↦ .configure ({ · with delimiter }) },
    { long := "strict", effect := .flag (.configure ({ · with strict := true })) },
    { long := "lenient", effect := .flag (.configure ({ · with strict := false })) },
    { long := "quiet", short := some 'q', effect := .flag (.configure ({ · with quiet := true })) },
    helpOption]

/-- The options of the command that looks at one workbook. -/
def inspectOptions : List OptionSpec :=
  [helpOption]

end Arguments

namespace Invocation

open Arguments

/-- Reads the arguments of a command of which the options and the meaning of the operands are
given. -/
def ofOperands (specs : List OptionSpec) (args : List String)
    (command? : Settings → List String → Option Command) : Invocation :=
  match read specs true {} args with
  | none => .usageError
  | some (options, operands) =>
    if options.requests ≠ [] then .help
    else if operands.any (·.toList.contains '\x00') then .usageError
    else (command? options.settings operands).elim .usageError .command

/-- Reads the arguments after the name of a command, if it is one. -/
def ofCommand? (name : String) (args : List String) : Option Invocation :=
  match name with
  | "run" => some <| ofOperands conversionOptions args fun settings operands ↦
    match operands with
    | [input, output] => some (.run input output settings)
    | _ => none
  | "validate" => some <| ofOperands conversionOptions args fun settings operands ↦
    match operands with
    | [input] => some (.validate input settings)
    | _ => none
  | "inspect" => some <| ofOperands inspectOptions args fun _ operands ↦
    match operands with
    | [workbook] => some (.inspect workbook)
    | _ => none
  | _ => none

/-- The answer to what is asked for in place of running a command. The first request counts. -/
def ofRequests : List Request → Option Invocation
  | [] => none
  | .help :: _ => some .help
  | .version :: _ => some .version

/-- Reads arguments for what they ask in place of running a command. -/
def asked? (args : List String) : Option Invocation :=
  (read toolOptions false {} args).bind fun result ↦ ofRequests result.1.requests

/-- Reads an argument list. -/
def ofArguments (args : List String) : Invocation :=
  match read toolOptions false {} args with
  | none => .usageError
  | some (options, rest) =>
    match ofRequests options.requests, rest with
    | some answer, _ => answer
    | none, [] => .usageError
    | none, name :: args =>
      ((ofCommand? name args).or (asked? (name :: args))).getD .usageError

end Invocation

end ConfigTables
