import OpenApiJava.Text.Basic

/-!
# Arguments

The arguments of the command are read from left to right. An option is named in full after two
dashes or by one letter after a single dash; letters may share a dash. A value follows its option,
after an equals sign for a full name and at once for a letter, or as the next argument. Of an option
that is given twice the later value counts.
-/

namespace OpenApiJava.CommandLine

/-- What the command can be asked for. -/
inductive Flag where
  | spec
  | output
  | basePackage
  | verbose
  | help
deriving DecidableEq, Repr

namespace Flag

def all : List Flag := [spec, output, basePackage, verbose, help]

/-- The full name. -/
def longName : Flag → String
  | spec => "--spec"
  | output => "--output"
  | basePackage => "--base-package"
  | verbose => "--verbose"
  | help => "--help"

def letter? : Flag → Option Char
  | output => some 'o'
  | verbose => some 'v'
  | _ => none

/-- A value belongs to the option. -/
def takesValue : Flag → Bool
  | spec => true
  | output => true
  | basePackage => true
  | verbose => false
  | help => false

end Flag

/-- Why the arguments are not understood. -/
inductive UsageFault where
  | unknownOption (name : String)
  | missingValue (name : String)
  | unexpectedValue (name : String)
  | extraArguments (arguments : List String)
  | outputIsFile (text : String)
deriving DecidableEq, Repr

/-- What is said about arguments that are not understood. -/
def UsageFault.message : UsageFault → String
  | unknownOption name => "No such option: " ++ name
  | missingValue name => "Option '" ++ name ++ "' requires an argument."
  | unexpectedValue name => "Option '" ++ name ++ "' does not take a value."
  | extraArguments [argument] => "Got unexpected extra argument (" ++ argument ++ ")"
  | extraArguments arguments =>
      "Got unexpected extra arguments (" ++ String.intercalate " " arguments ++ ")"
  | outputIsFile text =>
      "Invalid value for '-o' / '--output': Directory '" ++ text ++ "' is a file."

/-- What the arguments ask for. -/
structure Arguments where
  spec : Option String
  output : Option String
  basePackage : Option String
  verbose : Bool
  help : Bool
  extras : List String
deriving DecidableEq, Repr, Inhabited

namespace Arguments

def none : Arguments :=
  ⟨.none, .none, .none, false, false, []⟩

/-- The arguments with an option and its value. -/
def withValue (arguments : Arguments) (flag : Flag) (value : String) : Arguments :=
  match flag with
  | .spec => { arguments with spec := some value }
  | .output => { arguments with output := some value }
  | .basePackage => { arguments with basePackage := some value }
  | .verbose => { arguments with verbose := true }
  | .help => { arguments with help := true }

/-- The arguments with one that belongs to no option. -/
def withExtra (arguments : Arguments) (extra : String) : Arguments :=
  { arguments with extras := arguments.extras ++ [extra] }

end Arguments

/-- Where the reading of arguments stands. -/
inductive Stage where
  | options
  /-- The next argument is the value of an option, which was called by this name. -/
  | value (flag : Flag) (name : String)
  /-- Two dashes were read; no options follow. -/
  | rest

/-- How far the reading of arguments has come. -/
abbrev Progress := Arguments × Stage

/-- The progress once an option is read, with the value that stands next to it. -/
def takeFlag (arguments : Arguments) (flag : Flag) (name : String) (value : Option String) :
    Except UsageFault Progress :=
  match value, flag.takesValue with
  | some text, true => .ok (arguments.withValue flag text, .options)
  | some _, false => .error (.unexpectedValue name)
  | none, true => .ok (arguments, .value flag name)
  | none, false => .ok (arguments.withValue flag "", .options)

/-- The progress once options are read that share a dash. -/
def takeLetters (arguments : Arguments) : List Char → Except UsageFault Progress
  | [] => .ok (arguments, .options)
  | letter :: rest =>
      let name := String.ofList ['-', letter]
      match Flag.all.find? fun flag => flag.letter? == some letter with
      | none => .error (.unknownOption name)
      | some flag =>
          if flag.takesValue then
            takeFlag arguments flag name (if rest.isEmpty then none else some (String.ofList rest))
          else takeLetters (arguments.withValue flag "") rest

/-- The progress once an argument is read that starts with a dash. -/
def takeOption (arguments : Arguments) (argument : String) : Except UsageFault Progress :=
  let name := String.ofList (argument.toList.takeWhile (· != '='))
  let value :=
    match argument.toList.dropWhile (· != '=') with
    | [] => none
    | _ :: text => some (String.ofList text)
  match Flag.all.find? fun flag => flag.longName == name with
  | some flag => takeFlag arguments flag name value
  | none =>
      match argument.toList with
      | '-' :: '-' :: _ => .error (.unknownOption name)
      | letters => takeLetters arguments (letters.drop 1)

/-- The progress after one more argument. A dash alone is no option. -/
def step (progress : Progress) (argument : String) : Except UsageFault Progress :=
  let (arguments, stage) := progress
  match stage with
  | .value flag _ => .ok (arguments.withValue flag argument, .options)
  | .rest => .ok (arguments.withExtra argument, .rest)
  | .options =>
      match argument.toList with
      | ['-', '-'] => .ok (arguments, .rest)
      | '-' :: _ :: _ => takeOption arguments argument
      | _ => .ok (arguments.withExtra argument, .options)

/-- What a list of arguments asks for. -/
def Arguments.read (list : List String) : Except UsageFault Arguments := do
  match ← list.foldlM step (Arguments.none, Stage.options) with
  | (_, .value _ name) => .error (.missingValue name)
  | (arguments, _) => return arguments

end OpenApiJava.CommandLine
