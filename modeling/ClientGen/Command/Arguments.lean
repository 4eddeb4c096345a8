import ClientGen.Command.Request
import ClientGen.Text.Segment

/-!
# Arguments

The arguments of a command line are options, which begin with hyphens, and one input path. An option
may take a value: behind an equals sign, directly behind its letter, or as the next argument.
Options of one letter that take no value can be written together. Behind two hyphens everything is a
path.

A value that was given is only looked at when the argument after it has been recognised, so an
unknown option is reported before a bad value in front of it.
-/

namespace ClientGen.Command

/-- What keeps arguments from making up a request. -/
inductive UsageError where
  | invalidValue
  | unknownArgument
  | missingInput
  /-- Something that can be given once was given twice. -/
  | repeatedArgument
  /-- A value for an option that takes none. -/
  | unexpectedValue
  /-- Help is asked for. -/
  | help
  | version
  deriving DecidableEq, Repr

/-- What can be given. -/
inductive Slot where
  | input
  | output
  | adapter
  | helpers
  | validation
  | layout
  | parameterStyle
  | observable
  | dumpModel
  | strict
  | verbose
  | help
  | version
  deriving DecidableEq, Repr

/-- The long names of options. -/
def longNames : List (String × Slot) :=
  [("output", .output), ("adapter", .adapter), ("helpers", .helpers), ("validation", .validation),
    ("layout", .layout), ("parameter-style", .parameterStyle), ("observable", .observable),
    ("dump-model", .dumpModel), ("strict", .strict), ("verbose", .verbose), ("help", .help),
    ("version", .version)]

/-- The letters of options. -/
def letters : List (Char × Slot) :=
  [('o', .output), ('a', .adapter), ('v', .verbose), ('h', .help), ('V', .version)]

/-- The names of conventions. -/
def conventionNames : List (String × Convention) :=
  [("mvc", .mvc), ("web-api", .webApi)]

/-- The names of ways to divide a client. -/
def layoutNames : List (String × TypeScript.Bundling) :=
  [("split", .split), ("single", .single)]

/-- The names of ways to pass parameters. -/
def styleNames : List (String × TypeScript.Passing) :=
  [("object", .object), ("positional", .positional)]

/-- The names of formats for the model. -/
def formatNames : List (String × DumpFormat) :=
  [("yaml", .yaml), ("json", .json)]

namespace Slot

/-- Whether an option takes a value. -/
def takesValue : Slot → Bool
  | .observable | .strict | .verbose | .help | .version => false
  | _ => true

/-- Whether a value will do. Paths may not be empty. -/
def accepts : Slot → String → Bool
  | .input, value | .output, value => !value.isEmpty
  | .adapter, value => (conventionNames.lookup value).isSome
  | .layout, value => (layoutNames.lookup value).isSome
  | .parameterStyle, value => (styleNames.lookup value).isSome
  | .dumpModel, value => (formatNames.lookup value).isSome
  | _, _ => true

end Slot

/-- Arguments that are being read. -/
structure Arguments where
  /-- What has been given. -/
  given : List (Slot × String) := []
  /-- What was recognised last, with its value if it has come. -/
  pending : Option (Slot × Option String) := none
  /-- Whether an input path was met. -/
  hasInput : Bool := false

namespace Arguments

/-- Looks at the value of what was recognised last. -/
def settle (arguments : Arguments) : Except UsageError Arguments :=
  match arguments.pending with
  | none => .ok arguments
  | some (_, none) => .error .invalidValue
  | some (slot, some value) =>
    if (arguments.given.lookup slot).isSome then .error .repeatedArgument
    else if slot.accepts value then
      .ok { arguments with given := (slot, value) :: arguments.given, pending := none }
    else .error .invalidValue

/-- Takes an option that has no value. -/
def flag (slot : Slot) (arguments : Arguments) : Except UsageError Arguments := do
  let arguments ← arguments.settle
  match slot with
  | .help => .error .help
  | .version => .error .version
  | slot => settle { arguments with pending := some (slot, some "") }

/-- Takes an option with its value. -/
def attach (slot : Slot) (value : String) (arguments : Arguments) :
    Except UsageError Arguments := do
  let arguments ← arguments.settle
  settle { arguments with pending := some (slot, some value) }

/-- Takes an option whose value comes next. -/
def await (slot : Slot) (arguments : Arguments) : Except UsageError Arguments := do
  let arguments ← arguments.settle
  .ok { arguments with pending := some (slot, none) }

/-- Takes an option by its long name, with a value behind an equals sign. -/
def long (text : List Char) (arguments : Arguments) : Except UsageError Arguments :=
  let name := Text.beforeFirst '=' text
  let value? := (text.drop name.length).tail?.map String.ofList
  match longNames.lookup (String.ofList name), value? with
  | none, _ => .error .unknownArgument
  | some slot, some value =>
    if slot.takesValue then arguments.attach slot value else .error .unexpectedValue
  | some slot, none => if slot.takesValue then arguments.await slot else arguments.flag slot

/-- Takes options by their letters; the first one that takes a value ends them. -/
def short : List Char → Arguments → Except UsageError Arguments
  | [], arguments => .ok arguments
  | letter :: others, arguments =>
    match letters.lookup letter with
    | none => .error .unknownArgument
    | some slot =>
      if slot.takesValue then
        match others with
        | [] => arguments.await slot
        | '=' :: value => arguments.attach slot (String.ofList value)
        | value => arguments.attach slot (String.ofList value)
      else do
        let arguments ← arguments.flag slot
        short others arguments

/-- Takes the input path; there is only one. -/
def path (text : String) (arguments : Arguments) : Except UsageError Arguments :=
  if arguments.hasInput then .error .unknownArgument
  else do
    let arguments ← arguments.settle
    .ok { arguments with pending := some (.input, some text), hasInput := true }

/-- Takes an argument that is no option: the value that is waited for, or the input path. -/
def word (text : String) (arguments : Arguments) : Except UsageError Arguments :=
  match arguments.pending with
  | some (slot, none) => .ok { arguments with pending := some (slot, some text) }
  | _ => arguments.path text

/-- Takes arguments one after the other. -/
def takeAll (onlyPaths : Bool) : List String → Arguments → Except UsageError Arguments
  | [], arguments => arguments.settle
  | text :: others, arguments =>
    if onlyPaths then do takeAll true others (← arguments.path text)
    else
      match text.toList with
      | ['-', '-'] => takeAll true others arguments
      | '-' :: '-' :: name => do takeAll false others (← arguments.long name)
      | '-' :: letter :: letters => do takeAll false others (← arguments.short (letter :: letters))
      | _ => do takeAll false others (← arguments.word text)

/-- The value of an option among names. -/
def chosen {α : Type} (arguments : Arguments) (slot : Slot) (names : List (String × α)) :
    Option α :=
  (arguments.given.lookup slot).bind fun name => names.lookup name

/-- Whether an option was given. -/
def has (arguments : Arguments) (slot : Slot) : Bool :=
  (arguments.given.lookup slot).isSome

/-- The request that arguments make up. -/
def request (arguments : Arguments) : Except UsageError Request :=
  match arguments.given.lookup .input with
  | none => .error .missingInput
  | some input =>
    let standard : Request := { input }
    let given := fun slot default => (arguments.given.lookup slot).getD default
    .ok
      { input
        output := given .output standard.output
        convention := arguments.chosen .adapter conventionNames
        options :=
          { bundling := (arguments.chosen .layout layoutNames).getD .split
            passing := (arguments.chosen .parameterStyle styleNames).getD .object
            helpersModule := given .helpers standard.options.helpersModule
            validationModule := given .validation standard.options.validationModule
            observable := arguments.has .observable }
        dump := arguments.chosen .dumpModel formatNames
        isStrict := arguments.has .strict
        isVerbose := arguments.has .verbose }

end Arguments

/-- Reads the arguments of a command line, without the name of the program. -/
def Request.ofArguments (arguments : List String) : Except UsageError Request := do
  (← Arguments.takeAll false arguments {}).request

end ClientGen.Command
