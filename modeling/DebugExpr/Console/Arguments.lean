/-!
The command line of the console: `sdb [OPTIONS] <COMMAND>`, with the options for the image and the
configuration before or after the command. An expression may start with a hyphen, and takes all
arguments after its first one.
-/

namespace DebugExpr.Console

inductive Topic where
  | console
  | eval
  | check
  | tokens
  | help
  deriving DecidableEq, Repr, Inhabited

namespace Topic

def ofName? (name : String) : Option Topic :=
  if name == "eval" then some eval
  else if name == "check" then some check
  else if name == "tokens" then some tokens
  else if name == "help" then some help
  else none

end Topic

inductive Command where
  | eval (expression : String)
  | check (file : String)
  | tokens (expression : String)
  deriving DecidableEq, Repr, Inhabited

structure Options where
  image : Option String := none
  config : Option String := none
  deriving DecidableEq, Repr, Inhabited

structure Invocation where
  options : Options
  command : Command
  deriving DecidableEq, Repr, Inhabited

inductive Request where
  | invoke (invocation : Invocation)
  | help (topic : Topic)
  | version
  | misuse
  deriving DecidableEq, Repr, Inhabited

inductive OptionName where
  | image
  | config
  deriving DecidableEq, Repr, Inhabited

inductive Argument where
  | separator
  | option (name : OptionName) (value : Option String)
  | help
  | version
  | unknownOption
  | value (text : String)
  deriving DecidableEq, Repr, Inhabited

structure Grammar where
  version : Bool := false
  hyphenValues : Bool := false

namespace Grammar

def optionLetter? (letter : Char) : Option OptionName :=
  if letter == 'i' then some .image else if letter == 'c' then some .config else none

def knowsLetter (grammar : Grammar) (letter : Char) : Bool :=
  (optionLetter? letter).isSome || letter == 'h' || (grammar.version && letter == 'V')

def readLong (grammar : Grammar) (argument : String) (body : List Char) : Argument :=
  let name := String.ofList (body.takeWhile (· != '='))
  let value := match body.dropWhile (· != '=') with
    | _ :: text => some (String.ofList text)
    | [] => none
  if name == "image" then .option .image value
  else if name == "config" then .option .config value
  else if name == "help" then (if value.isSome then .unknownOption else .help)
  else if grammar.version && name == "version" then
    (if value.isSome then .unknownOption else .version)
  else if grammar.hyphenValues then .value argument
  else .unknownOption

def readShort (grammar : Grammar) (argument : String) (letter : Char) (rest : List Char) :
    Argument :=
  if grammar.hyphenValues && !(letter :: rest).all grammar.knowsLetter then .value argument
  else if letter == 'h' then .help
  else if grammar.version && letter == 'V' then .version
  else
    match optionLetter? letter with
    | some name =>
        match rest with
        | [] => .option name none
        | '=' :: text => .option name (some (String.ofList text))
        | text => .option name (some (String.ofList text))
    | none => .unknownOption

def read (grammar : Grammar) (argument : String) : Argument :=
  match argument.toList with
  | ['-', '-'] => .separator
  | '-' :: '-' :: body => grammar.readLong argument body
  | '-' :: letter :: rest => grammar.readShort argument letter rest
  | _ => .value argument

end Grammar

namespace Options

/-- The options with one more; none may be given twice, and no file has an empty name. -/
def give? (options : Options) (name : OptionName) (file : String) : Option Options :=
  if file.isEmpty then
    none
  else
    match name with
    | .image => if options.image.isSome then none else some { options with image := some file }
    | .config => if options.config.isSome then none else some { options with config := some file }

def override (before after : Options) : Options where
  image := after.image.orElse fun _ => before.image
  config := after.config.orElse fun _ => before.config

end Options

structure Collector where
  grammar : Grammar
  topic : Topic
  takesRest : Bool
  finish : List String → Option Command

namespace Collector

def collect (collector : Collector) (outer options : Options) (values : List String) :
    List String → Request
  | [] =>
      match collector.finish values with
      | some command => .invoke ⟨outer.override options, command⟩
      | none => .misuse
  | argument :: rest =>
      match collector.grammar.read argument with
      | .separator =>
          match collector.finish (values ++ rest) with
          | some command => .invoke ⟨outer.override options, command⟩
          | none => .misuse
      | .help => .help collector.topic
      | .version => .version
      | .unknownOption => .misuse
      | .option name (some file) =>
          match options.give? name file with
          | some extended => collect collector outer extended values rest
          | none => .misuse
      | .option name none =>
          match rest with
          | [] => .misuse
          | next :: later =>
              match collector.grammar.read next with
              | .value file =>
                  match options.give? name file with
                  | some extended => collect collector outer extended values later
                  | none => .misuse
              | _ => .misuse
      | .value text =>
          if collector.takesRest then
            match collector.finish (text :: rest) with
            | some command => .invoke ⟨outer.override options, command⟩
            | none => .misuse
          else if (collector.finish (values ++ [text])).isSome then
            collect collector outer options (values ++ [text]) rest
          else
            .misuse

def expression (topic : Topic) (command : String → Command) : Collector where
  grammar := { hyphenValues := true }
  topic := topic
  takesRest := true
  finish values := if values.isEmpty then none else some (command (" ".intercalate values))

def file : Collector where
  grammar := {}
  topic := .check
  takesRest := false
  finish values := match values with
    | [name] => if name.isEmpty then none else some (.check name)
    | _ => none

end Collector

def readHelp : List String → Request
  | [] => .help .console
  | [name] =>
      match Topic.ofName? name with
      | some topic => .help topic
      | none => .misuse
  | _ => .misuse

def Topic.readCommand (topic : Topic) (options : Options) (arguments : List String) : Request :=
  match topic with
  | .eval => (Collector.expression .eval .eval).collect options {} [] arguments
  | .tokens => (Collector.expression .tokens .tokens).collect options {} [] arguments
  | .check => Collector.file.collect options {} [] arguments
  | .help => readHelp arguments
  | .console => .misuse

def readFrom (options : Options) : List String → Request
  | [] => .misuse
  | argument :: rest =>
      match Topic.ofName? argument with
      | some topic => topic.readCommand options rest
      | none =>
          match Grammar.read { version := true } argument with
          | .help => .help .console
          | .version => .version
          | .option name (some file) =>
              match options.give? name file with
              | some extended => readFrom extended rest
              | none => .misuse
          | .option name none =>
              match rest with
              | [] => .misuse
              | next :: later =>
                  match Grammar.read { version := true } next with
                  | .value file =>
                      match options.give? name file with
                      | some extended => readFrom extended later
                      | none => .misuse
                  | _ => .misuse
          | _ => .misuse

def readArguments (arguments : List String) : Request :=
  readFrom {} arguments

end DebugExpr.Console
