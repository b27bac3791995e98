import PageObjects.Text.Digits
import PageObjects.Text.Quoted

/-!
# Arguments of the command line

The program has two commands, each with arguments and options of its own. Options may stand anywhere
among the arguments of their command, may be shortened as long as one option is meant, and take their
value from the next argument or after an equals sign. After `--` nothing is an option, and as a value
after an equals sign `--` is no value. The commands are those of the CLI (specification, 6).

* `Arguments.tokens`: what each argument is taken for.
* `Arguments.parse`: the command that is asked for, or help, or what is wrong.
-/

namespace PageObjects

/-- The options. -/
inductive Flag where
  | help
  | output
  | moduleName
  | packageRoot
  | workers
  deriving DecidableEq, Repr

/-- The spellings of an option. -/
def Flag.spellings : Flag → List String
  | .help => ["-h", "--help"]
  | .output => ["--output"]
  | .moduleName => ["--module"]
  | .packageRoot => ["--package-root"]
  | .workers => ["--workers"]

/-- The option in a message. -/
def Flag.label (f : Flag) : String := "/".intercalate f.spellings

/-- What the program can be asked for on its command line: the program itself and its commands. -/
inductive Topic where
  | program
  | compile
  | actions
  deriving DecidableEq, Repr

namespace Topic

/-- The name of a command. -/
def name : Topic → String
  | .program => "pagec"
  | .compile => "compile"
  | .actions => "actions"

/-- The commands. -/
def commands : List Topic := [.compile, .actions]

/-- The name in messages. -/
def title : Topic → String
  | .program => "pagec"
  | .compile => "pagec compile"
  | .actions => "pagec actions"

/-- The options of a topic. -/
def flags : Topic → List Flag
  | .compile => [.help, .output, .moduleName, .packageRoot, .workers]
  | _ => [.help]

/-- The argument that a command needs. -/
def argumentName : Topic → String
  | .compile => "source_dir"
  | _ => "interface"

end Topic

/-- What is wrong with the arguments. -/
inductive UsageFault where
  | ambiguous (argument : String) (spellings : List String)
  | ignoredValue (flag : Flag) (value : String)
  | missingValue (flag : Flag)
  | notInteger (flag : Flag) (value : String)
  | missingArgument (name : String)
  | unknownCommand (name : String)
  | unrecognized (arguments : List String)
  deriving DecidableEq, Repr

/-- The fault in words. -/
def UsageFault.message : UsageFault → String
  | .ambiguous argument spellings =>
    s!"ambiguous option: {argument} could match " ++ ", ".intercalate spellings
  | .ignoredValue flag value =>
    s!"argument {flag.label}: ignored explicit argument {Text.quoted value}"
  | .missingValue flag => s!"argument {flag.label}: expected one argument"
  | .notInteger flag value => s!"argument {flag.label}: invalid int value: {Text.quoted value}"
  | .missingArgument name => s!"the following arguments are required: {name}"
  | .unknownCommand name =>
    s!"argument command: invalid choice: {Text.quoted name} (choose from " ++
      ", ".intercalate (Topic.commands.map fun t => Text.quoted t.name) ++ ")"
  | .unrecognized arguments => "unrecognized arguments: " ++ " ".intercalate arguments

/-- A fault and the topic whose arguments it is in. -/
structure UsageError where
  topic : Topic
  fault : UsageFault
  deriving DecidableEq, Repr

/-- The error in words. -/
def UsageError.message (e : UsageError) : String := e.topic.title ++ ": error: " ++ e.fault.message

/-- What an option is given. Two dashes after its equals sign give it no value, which differs from
an option that is not there. -/
inductive Given (α : Type) where
  | absent
  | empty
  | value (a : α)
  deriving DecidableEq, Repr

/-- What is given to the options of the command `compile`. -/
structure CompileOptions where
  output : Given String := .absent
  moduleName : Given String := .absent
  packageRoot : Given String := .absent
  workers : Given Int := .absent
  deriving DecidableEq, Repr

/-- What the arguments ask for. -/
inductive Request where
  | help (topic : Topic)
  | nothing
  | compile (sourceDir : String) (options : CompileOptions)
  | actions (interface : String)
  deriving DecidableEq, Repr

namespace Arguments

/-! ## Tokens -/

/-- What an argument is taken for: a word, the two dashes that end the options, an option with the
value that is joined to it, the letters after `-h`, or an option that is not known. -/
inductive Token where
  | word (text : String)
  | dashes
  | flag (flag : Flag) (value : Option String)
  | letters (letters : List Char)
  | unknown (text : String)
  deriving DecidableEq, Repr

/-- The argument as it was given, for a word, the dashes and an unknown option. -/
def Token.text : Token → String
  | .word text => text
  | .unknown text => text
  | _ => "--"

/-- The characters without a line feed at their end. -/
def dropLineFeed (cs : List Char) : List Char :=
  if cs.getLast? == some '\n' then cs.dropLast else cs

/-- A number below zero: digits, or digits around a point; a line feed may end it. -/
def isNegativeNumber (cs : List Char) : Bool :=
  let digits (cs : List Char) : Bool := !cs.isEmpty && cs.all fun c => (Text.digitValue? c).isSome
  match dropLineFeed cs with
  | '-' :: rest =>
    let whole := rest.takeWhile (· != '.')
    match rest.drop whole.length with
    | [] => digits whole
    | _ :: fraction => (whole.isEmpty || digits whole) && digits fraction
  | _ => false

/-- The option with exactly this spelling. -/
def spelledAs? (topic : Topic) (spelling : String) : Option Flag :=
  topic.flags.find? fun f => f.spellings.contains spelling

/-- The spellings that start as given, each with its option. -/
def startingWith (topic : Topic) (start : List Char) : List (Flag × String) :=
  topic.flags.flatMap fun f =>
    (f.spellings.filter fun spelling => start.isPrefixOf spelling.toList).map fun spelling => (f, spelling)

/-- The argument before an equals sign and the value after it. -/
def splitValue (cs : List Char) : List Char × Option String :=
  let name := cs.takeWhile (· != '=')
  match cs.drop name.length with
  | [] => (name, none)
  | _ :: value => (name, some (String.ofList value))

/-- What an argument before any two dashes is taken for. -/
def token (topic : Topic) (argument : String) : Except UsageFault Token :=
  let cs := argument.toList
  let other : Token :=
    if isNegativeNumber cs || cs.contains ' ' then .word argument else .unknown argument
  match cs with
  | '-' :: '-' :: _ =>
    let (name, value) := splitValue cs
    match spelledAs? topic argument, spelledAs? topic (String.ofList name) with
    | some f, _ => .ok (.flag f none)
    | none, some f => .ok (.flag f value)
    | none, none =>
      match startingWith topic name with
      | [] => .ok other
      | [(f, _)] => .ok (.flag f value)
      | many => .error (.ambiguous argument (many.map Prod.snd))
  | ['-', 'h'] => .ok (.flag .help none)
  | '-' :: 'h' :: '=' :: letters => .ok (.letters letters)
  | '-' :: 'h' :: letters => .ok (.letters letters)
  | '-' :: _ :: _ => .ok other
  | _ => .ok (.word argument)

/-- What each argument is taken for. -/
def tokens (topic : Topic) : List String → Except UsageFault (List Token)
  | [] => .ok []
  | "--" :: rest => .ok (.dashes :: rest.map .word)
  | argument :: rest => do
    let first ← token topic argument
    let others ← tokens topic rest
    return first :: others

/-- Letters after `-h`: more of the same ask for help again, and anything else is a value that is not
taken. -/
def checkLetters : List Char → Except UsageFault Unit
  | ['h'] => .ok ()
  | 'h' :: rest => checkLetters rest
  | letters => .error (.ignoredValue .help (String.ofList letters))

/-! ## Commands -/

/-- What the arguments of a command gave so far. -/
structure State where
  argument : Option String := none
  options : CompileOptions := {}
  strange : List String := []
  deriving Repr

/-- Help is asked for, or the arguments are at fault. -/
inductive Stop where
  | help
  | fault (fault : UsageFault)
  deriving Repr

/-- What an option of the command is set to; `joined` tells that the value stands after an equals
sign. -/
def given (joined : Bool) (value : String) : Given String :=
  if joined && value == "--" then .empty else .value value

/-- A whole number given to an option. -/
def givenNumber (flag : Flag) : Given String → Except UsageFault (Given Int)
  | .absent => .ok .absent
  | .empty => .ok .empty
  | .value text =>
    match Text.wholeNumber? text with
    | some n => .ok (.value n)
    | none => .error (.notInteger flag text)

/-- Sets an option. -/
def State.set (s : State) (joined : Bool) (value : String) : Flag → Except Stop State
  | .help => .error (.fault (.ignoredValue .help value))
  | .output => .ok { s with options := { s.options with output := given joined value } }
  | .moduleName => .ok { s with options := { s.options with moduleName := given joined value } }
  | .packageRoot => .ok { s with options := { s.options with packageRoot := given joined value } }
  | .workers =>
    match givenNumber .workers (given joined value) with
    | .ok workers => .ok { s with options := { s.options with workers } }
    | .error fault => .error (.fault fault)

/-- Takes the tokens of a command one after the other. -/
def walk : State → List Token → Except Stop State
  | s, [] => .ok s
  | _, .flag .help none :: _ => .error .help
  | _, .letters letters :: _ =>
    match checkLetters letters with
    | .ok () => .error .help
    | .error fault => .error (.fault fault)
  | s, .flag f (some value) :: rest =>
    match s.set true value f with
    | .ok s => walk s rest
    | .error stop => .error stop
  | s, .flag f none :: .word value :: rest =>
    match s.set false value f with
    | .ok s => walk s rest
    | .error stop => .error stop
  | _, .flag f none :: _ => .error (.fault (.missingValue f))
  | s, .word text :: .dashes :: rest =>
    if s.argument.isNone then walk { s with argument := some text } rest
    else walk { s with strange := s.strange ++ [text, "--"] } rest
  | s, .dashes :: .word text :: rest =>
    if s.argument.isNone then walk { s with argument := some text } rest
    else walk { s with strange := s.strange ++ ["--", text] } rest
  | s, .word text :: rest =>
    if s.argument.isNone then walk { s with argument := some text } rest
    else walk { s with strange := s.strange ++ [text] } rest
  | s, other :: rest => walk { s with strange := s.strange ++ [other.text] } rest

/-- What the arguments of a command ask for; `strange` are the arguments before the command that
nobody knows. -/
def parseCommand (topic : Topic) (strange arguments : List String) : Except UsageError Request :=
  match tokens topic arguments with
  | .error fault => .error ⟨topic, fault⟩
  | .ok found =>
    match walk {} found with
    | .error .help => .ok (.help topic)
    | .error (.fault fault) => .error ⟨topic, fault⟩
    | .ok s =>
      match s.argument with
      | none => .error ⟨topic, .missingArgument topic.argumentName⟩
      | some argument =>
        if !(strange ++ s.strange).isEmpty then
          .error ⟨.program, .unrecognized (strange ++ s.strange)⟩
        else if topic == .compile then .ok (.compile argument s.options)
        else .ok (.actions argument)

/-- Takes the options before the command, then the command with all that follows it. -/
def parseFrom (strange : List String) : List (Token × String) → Except UsageError Request
  | [] => if strange.isEmpty then .ok .nothing else .error ⟨.program, .unrecognized strange⟩
  | (.flag f none, _) :: rest =>
    if f == .help then .ok (.help .program) else parseFrom strange rest
  | (.flag f (some value), _) :: _ => .error ⟨.program, .ignoredValue f value⟩
  | (.letters letters, _) :: _ =>
    match checkLetters letters with
    | .ok () => .ok (.help .program)
    | .error fault => .error ⟨.program, fault⟩
  | (.unknown text, _) :: rest => parseFrom (strange ++ [text]) rest
  | [(.dashes, text)] => .error ⟨.program, .unrecognized (strange ++ [text])⟩
  | (_, text) :: rest =>
    match Topic.commands.find? fun t => t.name == text with
    | some topic => parseCommand topic strange (rest.map Prod.snd)
    | none => .error ⟨.program, .unknownCommand text⟩

/-- What the arguments ask for. -/
def parse (arguments : List String) : Except UsageError Request :=
  match tokens .program arguments with
  | .error fault => .error ⟨.program, fault⟩
  | .ok found => parseFrom [] (found.zip arguments)

end Arguments
end PageObjects
