import TableAtlas.CommandLine.Command

/-!
# Command line arguments

The command line consists of general options, a command, and the arguments of
the command.  General options may stand before the command or among its
arguments, where they take precedence.  The value of an option may follow it or
be attached to it; short options may be written together.  Behind `--` there
are no options.

Words are read from left to right, and a value is checked when the next option
or argument is read.  So of several mistakes the one that is noticed first is
reported, and a mistake among the arguments of a command comes before one in
the last general option in front of it.
-/

namespace TableAtlas.CommandLine

open TableAtlas.Report

/-- Why a command line is not carried out. -/
inductive UsageError where
  | unknownArgument
  | invalidValue
  | missingArgument
  | conflict
  | tooManyValues
  | invalidCommand
  | missingCommand
  | helpOnMissing
  | help
  | version
deriving DecidableEq, Repr

namespace UsageError

def name : UsageError → String
  | unknownArgument => "UnknownArgument"
  | invalidValue => "InvalidValue"
  | missingArgument => "MissingRequiredArgument"
  | conflict => "ArgumentConflict"
  | tooManyValues => "TooManyValues"
  | invalidCommand => "InvalidSubcommand"
  | missingCommand => "MissingSubcommand"
  | helpOnMissing => "DisplayHelpOnMissingArgumentOrSubcommand"
  | help => "DisplayHelp"
  | version => "DisplayVersion"

end UsageError

/-- What a command line asks for. -/
structure Invocation where
  format : OutputFormat
  common : Option String
  verbose : Bool
  command : Command
deriving DecidableEq, Repr

inductive Flag where
  | format
  | common
  | verbose
  | filter
  | style
  | help
  | version
deriving DecidableEq, Repr

namespace Flag

def long : Flag → String
  | format => "format"
  | common => "prefix"
  | verbose => "verbose"
  | filter => "filter"
  | style => "notation"
  | help => "help"
  | version => "version"

def short? : Flag → Option Char
  | format => some 'o'
  | common => none
  | verbose => some 'v'
  | filter => some 'f'
  | style => some 'n'
  | help => some 'h'
  | version => some 'V'

def takesValue : Flag → Bool
  | format | common | filter | style => true
  | verbose | help | version => false

end Flag

/-- The arguments of commands that are not options. -/
inductive Operand where
  | table
  | path
deriving DecidableEq, Repr

inductive CommandName where
  | scan
  | diagram
  | describe
deriving DecidableEq, Repr

namespace CommandName

def ofWord? : String → Option CommandName
  | "scan" => some scan
  | "diagram" => some diagram
  | "describe" => some describe
  | _ => none

def operands : CommandName → List Operand
  | scan => [.path]
  | diagram => [.path]
  | describe => [.table, .path]

/-- The options that may stand among the arguments of a command. -/
def flags : CommandName → List Flag
  | scan => [.format, .common, .verbose, .filter, .help]
  | diagram => [.format, .common, .verbose, .style, .help]
  | describe => [.format, .common, .verbose, .help]

end CommandName

/-- The options that may stand in front of the command. -/
def generalFlags : List Flag :=
  [.format, .common, .verbose, .help, .version]

/-- The options and arguments that have been given. -/
structure Given where
  format : Option OutputFormat
  common : Option String
  verbose : Bool
  filter : Option String
  style : Option DiagramStyle
  table : Option String
  path : Option String
deriving DecidableEq, Repr

namespace Given

def none : Given :=
  ⟨.none, .none, false, .none, .none, .none, .none⟩

def has (given : Given) : Flag → Bool
  | .format => given.format.isSome
  | .common => given.common.isSome
  | .verbose => given.verbose
  | .filter => given.filter.isSome
  | .style => given.style.isSome
  | .help | .version => false

def formatOfWord : String → Except UsageError OutputFormat
  | "table" => .ok .table
  | "json" => .ok .json
  | "toon" => .ok .toon
  | _ => .error .invalidValue

def styleOfWord : String → Except UsageError DiagramStyle
  | "graph" => .ok .graph
  | "mermaid" => .ok .mermaid
  | _ => .error .invalidValue

/-- Adds an option with its value.  No option may be given twice. -/
def addValue (given : Given) (flag : Flag) (value : String) : Except UsageError Given :=
  if given.has flag then .error .conflict
  else
    match flag with
    | .format => do return { given with format := some (← formatOfWord value) }
    | .common => .ok { given with common := some value }
    | .filter => .ok { given with filter := some value }
    | .style => do return { given with style := some (← styleOfWord value) }
    | .verbose | .help | .version => .ok given

def addFlag (given : Given) (flag : Flag) : Except UsageError Given :=
  match flag with
  | .help => .error .help
  | .version => .error .version
  | .verbose => if given.verbose then .error .conflict else .ok { given with verbose := true }
  | .format | .common | .filter | .style => .ok given

/-- Adds an argument.  A path is not empty. -/
def addOperand (given : Given) (operand : Operand) (value : String) : Except UsageError Given :=
  match operand with
  | .table => .ok { given with table := some value }
  | .path => if value = "" then .error .invalidValue else .ok { given with path := some value }

end Given

/-- What has been read but not checked: an option whose value may still follow,
or an argument. -/
inductive Pending where
  | nothing
  | option (flag : Flag) (value : Option String)
  | operand (operand : Operand) (value : String)
deriving DecidableEq, Repr

/-- How far the words of one level, in front of the command or behind it, have
been read. -/
structure Progress where
  given : Given
  pending : Pending
  operands : List Operand
  optionsEnded : Bool
deriving DecidableEq, Repr

namespace Progress

/-- Nothing has been read of a level that takes the given arguments. -/
def start (operands : List Operand) : Progress :=
  ⟨.none, .nothing, operands, false⟩

def settle (progress : Progress) : Except UsageError Progress :=
  match progress.pending with
  | .nothing => .ok progress
  | .option _ none => .error .invalidValue
  | .option flag (some value) => do
      let given ← progress.given.addValue flag value
      return { progress with given := given, pending := .nothing }
  | .operand operand value => do
      let given ← progress.given.addOperand operand value
      return { progress with given := given, pending := .nothing }

/-- Reads an option with the value attached to it, if there is one. -/
def readFlag (progress : Progress) (flag : Flag) (attached : Option String) :
    Except UsageError Progress := do
  let settled ← progress.settle
  if flag.takesValue then
    match attached with
    | some value => return { settled with given := ← settled.given.addValue flag value }
    | none => return { settled with pending := .option flag none }
  else return { settled with given := ← settled.given.addFlag flag }

def readLong (progress : Progress) (flags : List Flag) (name : String)
    (attached : Option String) : Except UsageError Progress :=
  match flags.find? fun flag => flag.long == name with
  | none => .error .unknownArgument
  | some flag =>
      if attached.isSome ∧ !flag.takesValue then .error .tooManyValues
      else progress.readFlag flag attached

/-- Reads options by their short names.  The letters behind an option with a
value are that value, an equals sign in front of it aside. -/
def readShort (progress : Progress) (flags : List Flag) :
    List Char → Except UsageError Progress
  | [] => .ok progress
  | letter :: rest =>
      match flags.find? fun flag => flag.short? == some letter with
      | none => .error .unknownArgument
      | some flag =>
          if flag.takesValue then
            match rest with
            | [] => progress.readFlag flag none
            | '=' :: value => progress.readFlag flag (some (String.ofList value))
            | value => progress.readFlag flag (some (String.ofList value))
          else do
            let next ← progress.readFlag flag none
            next.readShort flags rest

def readOperand (progress : Progress) (value : String) : Except UsageError Progress :=
  match progress.operands with
  | [] => .error .unknownArgument
  | operand :: operands => do
      let settled ← progress.settle
      return { settled with pending := .operand operand value, operands := operands }

end Progress

inductive Word where
  | separator
  | long (name : String) (attached : Option String)
  | short (letters : List Char)
  | plain
deriving DecidableEq, Repr

namespace Word

/-- A long option, whose name ends at the first equals sign. -/
def longOf (letters : List Char) : Word :=
  match letters.dropWhile (· != '=') with
  | [] => long (String.ofList letters) none
  | _ :: value =>
      long (String.ofList (letters.takeWhile (· != '='))) (some (String.ofList value))

/-- The kind of a word.  A single dash is a plain word. -/
def ofText (text : String) : Word :=
  match text.toList with
  | ['-', '-'] => separator
  | '-' :: '-' :: letters => longOf letters
  | ['-'] => plain
  | '-' :: letters => short letters
  | _ => plain

end Word

def readArguments (flags : List Flag) (progress : Progress) :
    List String → Except UsageError Progress
  | [] => progress.settle
  | text :: rest =>
      if progress.optionsEnded then do
        readArguments flags (← progress.readOperand text) rest
      else
        match Word.ofText text with
        | .separator => readArguments flags { progress with optionsEnded := true } rest
        | .long name attached => do
            readArguments flags (← progress.readLong flags name attached) rest
        | .short letters => do
            readArguments flags (← progress.readShort flags letters) rest
        | .plain =>
            match progress.pending with
            | .option flag none =>
                readArguments flags { progress with pending := .option flag (some text) } rest
            | _ => do
                readArguments flags (← progress.readOperand text) rest

/-- What follows the general options. -/
inductive Continuation where
  | nothing
  | command (name : CommandName) (arguments : List String)
  | unknown (words : List String)
deriving DecidableEq, Repr

/-- The answer to a request for help on the given commands. -/
def helpOn : List String → UsageError
  | [] => .help
  | [word] =>
      if (CommandName.ofWord? word).isSome ∨ word = "help" then .help else .invalidCommand
  | _ :: _ :: _ => .invalidCommand

def readGeneral (progress : Progress) :
    List String → Except UsageError (Progress × Continuation)
  | [] => .ok (progress, .nothing)
  | text :: rest =>
      if progress.optionsEnded then .ok (progress, .unknown (text :: rest))
      else
        match Word.ofText text with
        | .separator => readGeneral { progress with optionsEnded := true } rest
        | .long name attached => do
            readGeneral (← progress.readLong generalFlags name attached) rest
        | .short letters => do
            readGeneral (← progress.readShort generalFlags letters) rest
        | .plain =>
            match progress.pending with
            | .option flag none =>
                readGeneral { progress with pending := .option flag (some text) } rest
            | _ =>
                match CommandName.ofWord? text with
                | some name => .ok (progress, .command name rest)
                | none =>
                    if text = "help" then .error (helpOn rest)
                    else .ok (progress, .unknown (text :: rest))

def defaultPath : String := "."

def commandOf (name : CommandName) (given : Given) : Except UsageError Command :=
  let path := given.path.getD defaultPath
  match name with
  | .scan => .ok (.scan path given.filter)
  | .diagram => .ok (.diagram path (given.style.getD .graph))
  | .describe =>
      match given.table with
      | some table => .ok (.describe table path)
      | none => .error .missingArgument

def parse (words : List String) : Except UsageError Invocation := do
  let (general, continuation) ← readGeneral (.start []) words
  match continuation with
  | .nothing =>
      let settled ← general.settle
      .error (if settled.given = .none then .helpOnMissing else .missingCommand)
  | .unknown words =>
      let settled ← general.settle
      let given := settled.given
      return ⟨given.format.getD .table, given.common, given.verbose, .unknown words⟩
  | .command name arguments =>
      let inner ← readArguments name.flags (.start name.operands) arguments
      let command ← commandOf name inner.given
      let outer ← general.settle
      let format := (inner.given.format.or outer.given.format).getD .table
      let common := inner.given.common.or outer.given.common
      return ⟨format, common, inner.given.verbose || outer.given.verbose, command⟩

end TableAtlas.CommandLine
