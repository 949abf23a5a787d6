import TableClient.Command.Basic

/-!
# Command Lines

What a list of arguments asks for.

The arguments are options of the program, the name of a command, and the
options and operands of that command in any order. They are taken from left
to right, and the first thing that ends the reading decides: a request for
help or for the version, or a mistake. An option may be given once.

Options have a long name and a letter. Letters can stand together behind one
dash. The value of an option follows it as the next argument or, behind an
equals sign or directly behind the letter, in the same one; a value of its
own does not start with a dash unless it is nothing but a dash. Behind two
dashes there are operands only.

## Main definitions

* `Switch`: The options.
* `Topic`: What there is help about.
* `Task`: What a command is to do.
* `Invocation`: What a command line asks for.
* `Invocation.ofArguments?`: What some arguments ask for.
-/

namespace TableClient

namespace Command

/-- The options. -/
inductive Switch where
  | verbose
  | help
  | version
  | selector
  | query
  | pretty
deriving DecidableEq, Repr

namespace Switch

/-- The long name of an option. -/
def name : Switch → String
  | .verbose => "verbose"
  | .help => "help"
  | .version => "version"
  | .selector => "selector"
  | .query => "query"
  | .pretty => "pretty"

/-- The letter of an option. -/
def letter : Switch → Char
  | .verbose => 'v'
  | .help => 'h'
  | .version => 'V'
  | .selector => 's'
  | .query => 'q'
  | .pretty => 'p'

/-- Whether an option has a value. -/
def hasValue : Switch → Bool
  | .selector => true
  | .query => true
  | _ => false

end Switch

/-- The commands. -/
inductive Verb where
  | render
  | check
  | find
deriving DecidableEq, Repr

namespace Verb

/-- The command a word names. -/
def ofWord? : String → Option Verb
  | "render" => some .render
  | "check" => some .check
  | "find" => some .find
  | _ => none

/-- The options of a command. -/
def switches : Verb → List Switch
  | .render => [.verbose, .help]
  | .check => [.verbose, .help]
  | .find => [.selector, .verbose, .query, .pretty, .help]

end Verb

/-- The options in front of a command. -/
def programSwitches : List Switch :=
  [.verbose, .help, .version]

/-- What there is help about. -/
inductive Topic where
  | program
  | verb (verb : Verb)
  | help
deriving DecidableEq, Repr

/-- What a command is to do. -/
inductive Task where
  | render (expression : Option String)
  | check (selector : String)
  | find (find : Find) (pretty : Bool)
deriving DecidableEq, Repr

/-- What a command line asks for. -/
inductive Invocation where
  | help (topic : Topic)
  | version
  | run (verbose : Bool) (task : Task)
deriving DecidableEq, Repr

/-- The options given so far, the last one first, and their values. -/
abbrev Given :=
  List (Switch × String)

namespace Given

/-- Whether an option was given. -/
def has (given : Given) (switch : Switch) : Bool :=
  given.any fun entry => entry.1 == switch

/-- The value of an option. -/
def value? (given : Given) (switch : Switch) : Option String :=
  (given.find? fun entry => entry.1 == switch).map (·.2)

end Given

/-- What the reading of an argument leads to. -/
inductive Step where
  /-- Options were given. -/
  | given (given : Given)
  /-- An option was given whose value is the next argument. -/
  | awaits (switch : Switch) (given : Given)
  /-- A request ends the reading. -/
  | ends (request : Invocation)

/-- What giving an option without a value leads to. An option that was given
    before is a mistake. -/
def giveFlag (topic : Topic) (given : Given) (switch : Switch) : Option Step :=
  match switch with
  | .help => some (.ends (.help topic))
  | .version => some (.ends .version)
  | switch => if given.has switch then none else some (.given ((switch, "") :: given))

/-- What giving an option with its value leads to. -/
def giveValue (given : Given) (switch : Switch) (value : String) : Option Step :=
  if given.has switch then none else some (.given ((switch, value) :: given))

/-- Reads an option by its long name, behind the two dashes. -/
def readLong (topic : Topic) (switches : List Switch) (given : Given) (text : List Char) :
    Option Step := do
  let name := text.takeWhile (· != '=')
  let switch ← switches.find? fun switch => switch.name.toList == name
  match switch.hasValue, text.dropWhile (· != '=') with
  | true, [] => some (.awaits switch given)
  | true, _ :: value => giveValue given switch (.ofList value)
  | false, [] => giveFlag topic given switch
  | false, _ :: _ => none

/-- Reads options by their letters, behind the dash. -/
def readLetters (topic : Topic) (switches : List Switch) : Given → List Char → Option Step
  | given, [] => some (.given given)
  | given, c :: rest => do
    let switch ← switches.find? fun switch => switch.letter == c
    if switch.hasValue then
      match rest with
      | [] => some (.awaits switch given)
      | '=' :: value => giveValue given switch (.ofList value)
      | value => giveValue given switch (.ofList value)
    else
      match ← giveFlag topic given switch with
      | .given given => readLetters topic switches given rest
      | step => some step

/-- Whether an argument is read as options: it starts with a dash and is more
    than that. -/
def isOption (argument : String) : Bool :=
  match argument.toList with
  | '-' :: _ :: _ => true
  | _ => false

/-- Reads an argument that consists of options. -/
def readOption (topic : Topic) (switches : List Switch) (given : Given) (argument : String) :
    Option Step :=
  match argument.toList with
  | '-' :: '-' :: name => readLong topic switches given name
  | '-' :: letters => readLetters topic switches given letters
  | _ => none

/-- The number of operands a command can have. -/
def maxOperands : Nat := 1

/-- What the options and operands of a command make it do. -/
def taskOf : Verb → Given → List String → Option Task
  | .render, _, [] => some (.render none)
  | .render, _, [expression] => some (.render (some expression))
  | .check, _, [selector] => some (.check selector)
  | .find, given, [table] =>
    some
      (.find ⟨table, given.value? .selector, given.value? .query⟩ (given.has .pretty))
  | _, _, _ => none

/-- Reads the arguments of a command, of which the options and the operands
    given so far are known. -/
def readCommand (verbose : Bool) (verb : Verb) : Given → List String → List String →
    Option Invocation
  | given, operands, [] =>
    (taskOf verb given operands).map (.run (verbose || given.has .verbose))
  | given, operands, argument :: rest =>
    if argument == "--" then
      (taskOf verb given (operands ++ rest)).map (.run (verbose || given.has .verbose))
    else if isOption argument then
      match readOption (.verb verb) verb.switches given argument with
      | none => none
      | some (.ends request) => some request
      | some (.given given) => readCommand verbose verb given operands rest
      | some (.awaits switch given) =>
        match rest with
        | [] => none
        | value :: rest =>
          if isOption value || given.has switch then none
          else readCommand verbose verb ((switch, value) :: given) operands rest
    else if operands.length < maxOperands then
      readCommand verbose verb given (operands ++ [argument]) rest
    else none

/-- The topic that words behind the command `help` name. -/
def topicOf? : List String → Option Topic
  | [] => some .program
  | ["help"] => some .help
  | [word] => (Verb.ofWord? word).map .verb
  | _ => none

/-- Reads the arguments in front of a command, of which the options given so
    far are known, and the command itself. -/
def readProgram : Given → List String → Option Invocation
  | _, [] => none
  | given, argument :: rest =>
    if argument == "--" then none
    else if isOption argument then
      match readOption .program programSwitches given argument with
      | some (.given given) => readProgram given rest
      | some (.ends request) => some request
      | _ => none
    else if argument == "help" then (topicOf? rest).map .help
    else
      match Verb.ofWord? argument with
      | none => none
      | some verb => readCommand (given.has .verbose) verb [] [] rest

/-- What some arguments ask for; `none` is a mistake in them. -/
def Invocation.ofArguments? (arguments : List String) : Option Invocation :=
  readProgram [] arguments

end Command

end TableClient
