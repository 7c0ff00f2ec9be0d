/-!
Command lines: what words a command takes, and reading a list of words by it. `Grammar.scan` goes
through the words from left to right up to the name of a further command. The value of an option
written as a word of its own is looked at only when the next option, an operand or the end comes, so
that of two mistakes the one found first is the one reported.
-/
namespace Metering.CommandLine

/-- Why a command line is not carried out. -/
inductive UsageError where
  | badValue (option value : String)
  | noValue (option : String)
  | unknownArgument (word : String)
  | unknownCommand (name : String)
  | missingOperand (name : String)
  | repeatedOption (option : String)
  | valueNotTaken (option value : String)
  | helpAsked
  | versionAsked
deriving DecidableEq, Repr

namespace UsageError

/-- A word for the kind of mistake. -/
def kind : UsageError → String
  | badValue .. => "ValueValidation"
  | noValue _ => "InvalidValue"
  | unknownArgument _ => "UnknownArgument"
  | unknownCommand _ => "InvalidSubcommand"
  | missingOperand _ => "MissingRequiredArgument"
  | repeatedOption _ => "ArgumentConflict"
  | valueNotTaken .. => "TooManyValues"
  | helpAsked => "DisplayHelp"
  | versionAsked => "DisplayVersion"

def message : UsageError → String
  | badValue option value => "invalid value '" ++ value ++ "' for '--" ++ option ++ "'"
  | noValue option => "a value is required for '--" ++ option ++ "' but none was supplied"
  | unknownArgument word => "unexpected argument '" ++ word ++ "' found"
  | unknownCommand name => "unrecognized subcommand '" ++ name ++ "'"
  | missingOperand name => "the required argument <" ++ name ++ "> was not provided"
  | repeatedOption option => "the argument '--" ++ option ++ "' cannot be used multiple times"
  | valueNotTaken option value =>
    "unexpected value '" ++ value ++ "' for '--" ++ option ++ "' found; no more were expected"
  | helpAsked => "help"
  | versionAsked => "version"

end UsageError

/-- What an option does with its value, if it takes one. -/
inductive Use where
  | flag
  /-- A value that passes a test, given at most once. -/
  | value (accepts : String → Bool)
  /-- A path, which is not empty, given at most once. -/
  | path
  /-- Any value, given any number of times. -/
  | values
  | help
  | version

structure Parameter where
  /-- The name after two dashes. -/
  name : String
  /-- The letter after one dash. -/
  letter : Option Char
  use : Use
  /-- The environment variable that stands in for the option. -/
  fallback : Option String

namespace Parameter

def takesValue (p : Parameter) : Bool :=
  match p.use with
  | .flag | .help | .version => false
  | .value _ | .path | .values => true

def isRepeatable (p : Parameter) : Bool :=
  match p.use with
  | .values => true
  | _ => false

/-- What is wrong with a value. -/
def valueFault? (p : Parameter) (v : String) : Option UsageError :=
  match p.use with
  | .value accepts => if accepts v then none else some (.badValue p.name v)
  | .path => if v = "" then some (.noValue p.name) else none
  | _ => none

end Parameter

structure Grammar where
  parameters : List Parameter
  /-- The name of the one word that must be given besides options, if there is one. -/
  operand : Option String
  /-- The names of further commands. -/
  commands : List String

/-- Options with their values, in the order in which they were given. -/
abbrev Given := List (String × String)

def Given.has (g : Given) (name : String) : Bool := g.any fun e => e.1 == name

def Given.all (g : Given) (name : String) : List String :=
  (g.filter fun e => e.1 == name).map (·.2)

/-- What has been read of a command line. -/
structure Reading where
  given : Given
  /-- The last option, if its value stands in a word of its own; without a value it waits for one. -/
  pending : Option (Parameter × Option String)
  operand : Option String

namespace Reading

def start : Reading := ⟨[], none, none⟩

/-- Adds an option with its value, unless it is repeated or the value is not one it takes. -/
def take (r : Reading) (p : Parameter) (v : String) : Except UsageError Reading :=
  if r.given.has p.name ∧ ¬ p.isRepeatable then .error (.repeatedOption p.name)
  else
    match p.valueFault? v with
    | some e => .error e
    | none => .ok { r with given := r.given ++ [(p.name, v)] }

/-- Takes the pending option with its value. -/
def settle (r : Reading) : Except UsageError Reading :=
  match r.pending with
  | none => .ok r
  | some (p, none) => .error (.noValue p.name)
  | some (p, some v) => { r with pending := none }.take p v

def attach (r : Reading) (p : Parameter) (v : String) : Except UsageError Reading := do
  (← r.settle).take p v

/-- An option whose value comes with the next word. -/
def await (r : Reading) (p : Parameter) : Except UsageError Reading := do
  return { (← r.settle) with pending := some (p, none) }

/-- An option without a value. -/
def raise (r : Reading) (p : Parameter) : Except UsageError Reading := do
  let r ← r.settle
  match p.use with
  | .help => .error .helpAsked
  | .version => .error .versionAsked
  | _ => r.take p "true"

/-- The option that waits for a value. -/
def waiting? (r : Reading) : Option Parameter :=
  match r.pending with
  | some (p, none) => some p
  | _ => none

end Reading

namespace Grammar

def named? (g : Grammar) (name : String) : Option Parameter :=
  g.parameters.find? fun p => p.name == name

def lettered? (g : Grammar) (c : Char) : Option Parameter :=
  g.parameters.find? fun p => p.letter == some c

/-- A name and what follows the first equals sign, if there is one. -/
def splitValue (cs : List Char) : String × Option String :=
  let name := String.ofList (cs.takeWhile fun c => c ≠ '=')
  match cs.dropWhile fun c => c ≠ '=' with
  | [] => (name, none)
  | _ :: value => (name, some (String.ofList value))

/-- The option whose name follows two dashes. -/
def longOption (g : Grammar) (r : Reading) (cs : List Char) : Except UsageError Reading :=
  let (name, value) := splitValue cs
  match g.named? name with
  | none => .error (.unknownArgument ("--" ++ name))
  | some p =>
    match p.takesValue, value with
    | true, some v => r.attach p v
    | true, none => r.await p
    | false, some v => .error (.valueNotTaken name v)
    | false, none => r.raise p

/-- The options whose letters follow one dash. What follows the letter of an option that takes a value
is that value, with or without an equals sign in front. -/
def shortOptions (g : Grammar) : Reading → List Char → Except UsageError Reading
  | r, [] => .ok r
  | r, c :: cs =>
    match g.lettered? c with
    | none => .error (.unknownArgument (String.ofList ['-', c]))
    | some p =>
      if p.takesValue then
        match cs with
        | [] => r.await p
        | '=' :: value => r.attach p (String.ofList value)
        | value => r.attach p (String.ofList value)
      else
        match r.raise p with
        | .ok r => g.shortOptions r cs
        | .error e => .error e

/-- A word that is not an option; after two dashes not even the name of a command is a command. -/
def operandWord (g : Grammar) (r : Reading) (onlyOperands : Bool) (word : String) :
    Except UsageError Reading :=
  match g.operand, r.operand with
  | some _, none => do return { (← r.settle) with operand := some word }
  | _, _ =>
    if g.commands = [] ∨ (onlyOperands ∧ word ∈ g.commands) then .error (.unknownArgument word)
    else .error (.unknownCommand word)

/-- Reads words up to the name of a command, which is answered with the words after it. -/
def scan (g : Grammar) (onlyOperands : Bool) (r : Reading) :
    List String → Except UsageError (Reading × Option (String × List String))
  | [] => .ok (r, none)
  | word :: rest =>
    if onlyOperands then do
      g.scan true (← g.operandWord r true word) rest
    else if r.waiting?.isNone ∧ word ∈ g.commands then .ok (r, some (word, rest))
    else
      match word.toList with
      | ['-', '-'] => g.scan true r rest
      | '-' :: '-' :: cs => do g.scan false (← g.longOption r cs) rest
      | '-' :: c :: cs => do g.scan false (← g.shortOptions r (c :: cs)) rest
      | _ =>
        match r.waiting? with
        | some p => g.scan false { r with pending := some (p, some word) } rest
        | none => do g.scan false (← g.operandWord r false word) rest

/-- The values that environment variables have for options that were not given. -/
def inherited (environment : String → Option String) (given : Given) :
    List Parameter → Except UsageError Given
  | [] => .ok []
  | p :: ps => do
    let value := if given.has p.name then none else p.fallback.bind environment
    match value with
    | none => inherited environment given ps
    | some v =>
      match p.valueFault? v with
      | some e => .error e
      | none => return (p.name, v) :: (← inherited environment given ps)

end Grammar

/-- What a command was given, and what the environment adds to it. -/
structure Arguments where
  given : Given
  inherited : Given
  operand : Option String

namespace Arguments

/-- The value of an option, from the environment if it was not given. -/
def value? (a : Arguments) (name : String) : Option String :=
  (a.given ++ a.inherited).lookup name

end Arguments

/-- The arguments at the end of a command line. -/
def Grammar.finish (g : Grammar) (environment : String → Option String) (r : Reading) :
    Except UsageError Arguments := do
  let r ← r.settle
  let inherited ← inherited environment r.given g.parameters
  match g.operand, r.operand with
  | some name, none => .error (.missingOperand name)
  | _, operand => return ⟨r.given, inherited, operand⟩

end Metering.CommandLine
