import CuratedList.Report

/-! # The command line

Options start with two hyphens, and take their value after an equals sign or from the next argument. All
other arguments are files, and after `--` every argument is one.
-/

namespace CuratedList
set_option autoImplicit false

/-- What a command line asks for. -/
structure Options where
  files : List String := []
  config : Option String := none
  ignoreContents : Bool := false
  format : Option ReportFormat := none
  identifiers : List String := []
  deriving DecidableEq, Repr

/-- Why a command line does not start a run: it asks for information, or it is wrong. -/
inductive Stop where
  | help
  | version
  | unknownArgument
  | invalidValue
  | repeated
  | unwantedValue
  deriving DecidableEq, Repr

/-- The options that take a value. -/
inductive ValueOption where
  | config
  | format
  | identifier
  deriving DecidableEq, Repr

/-- What a name after two hyphens stands for. -/
inductive LongName where
  | value (option : ValueOption)
  | ignoreContents
  | help
  | version
  deriving DecidableEq, Repr

/-- The names that may follow two hyphens. -/
def LongName.ofText? (name : String) : Option LongName :=
  [("config", LongName.value .config), ("format", .value .format),
    ("identifier", .value .identifier), ("no-contents-scope", .ignoreContents), ("help", .help),
    ("version", .version)].lookup name

/-- An argument, as far as it can be told without the ones before it. -/
inductive Argument where
  | rest
  | long (name : String) (value : Option String)
  | short (letter : Char)
  | plain (text : String)
  deriving DecidableEq, Repr

/-- The kind of an argument. A single hyphen is a plain text. -/
def Argument.ofText (text : String) : Argument :=
  match text.toList with
  | ['-', '-'] => .rest
  | '-' :: '-' :: cs =>
    let name := String.ofList (cs.takeWhile (· != '='))
    match cs.dropWhile (· != '=') with
    | _ :: value => .long name (some (String.ofList value))
    | [] => .long name none
  | '-' :: c :: _ => .short c
  | _ => .plain text

/-! ## Values -/

/-- A format by its name. -/
def ReportFormat.ofName? (name : String) : Option ReportFormat :=
  [("text", ReportFormat.text), ("json", .json)].lookup name

/-- The options with a value given to one of them. Only identifiers may be given more than once. -/
def Options.setValue (o : Options) (option : ValueOption) (value : String) : Except Stop Options :=
  match option with
  | .config =>
    if o.config.isSome then .error .repeated
    else if value.isEmpty then .error .invalidValue
    else .ok { o with config := some value }
  | .format =>
    if o.format.isSome then .error .repeated
    else
      match ReportFormat.ofName? value with
      | some format => .ok { o with format := some format }
      | none => .error .invalidValue
  | .identifier => .ok { o with identifiers := o.identifiers ++ [value] }

/-- The options with more files. No file has an empty name. -/
def Options.addFiles (o : Options) (files : List String) : Except Stop Options :=
  if files.any String.isEmpty then .error .invalidValue else .ok { o with files := o.files ++ files }

/-! ## Arguments -/

/-- What has been read, but not yet been given to the options: files, or an option and its value if that
has been read. -/
inductive Pending where
  | files (names : List String)
  | option (option : ValueOption) (value : Option String)
  deriving DecidableEq, Repr

/-- Gives what is pending to the options. -/
def Options.settle (o : Options) : Pending → Except Stop Options
  | .files names => o.addFiles names
  | .option option (some value) => o.setValue option value
  | .option _ none => .error .invalidValue

/-- The options with one name after two hyphens taken in. -/
def Options.takeLong (o : Options) (pending : Pending) (name : LongName) (value : Option String) :
    Except Stop (Options × Pending) := do
  match name, value with
  | .value option, none => return (← o.settle pending, .option option none)
  | .value option, some value => return (← (← o.settle pending).setValue option value, .files [])
  | _, some _ => .error .unwantedValue
  | .ignoreContents, none =>
    let o ← o.settle pending
    if o.ignoreContents then .error .repeated
    else return ({ o with ignoreContents := true }, .files [])
  | .help, none =>
    let _ ← o.settle pending
    .error .help
  | .version, none =>
    let _ ← o.settle pending
    .error .version

/-- The options with one file taken in. -/
def Options.takeFile (o : Options) (pending : Pending) (name : String) :
    Except Stop (Options × Pending) :=
  match pending with
  | .files names => .ok (o, .files (names ++ [name]))
  | pending => (o.settle pending).map fun o => (o, .files [name])

/-- The options that arguments give, after `o` and what is pending. -/
def Options.read (o : Options) (pending : Pending) : List String → Except Stop Options
  | [] => o.settle pending
  | text :: texts =>
    match Argument.ofText text, pending with
    | .rest, _ => do
      let (o, pending) ← texts.foldlM (fun (o, pending) name => o.takeFile pending name) (o, pending)
      o.settle pending
    | .long name value, _ =>
      match LongName.ofText? name with
      | none => .error .unknownArgument
      | some name =>
        match o.takeLong pending name value with
        | .error stop => .error stop
        | .ok (o, pending) => o.read pending texts
    | .short letter, _ =>
      if letter = 'h' || letter = 'V' then
        match o.settle pending with
        | .error stop => .error stop
        | .ok _ => .error (if letter = 'h' then .help else .version)
      else .error .unknownArgument
    | .plain text, .option option none => o.read (.option option (some text)) texts
    | .plain text, pending =>
      match o.takeFile pending text with
      | .error stop => .error stop
      | .ok (o, pending) => o.read pending texts

/-- The options of a command line. -/
def Options.ofArguments (arguments : List String) : Except Stop Options :=
  Options.read {} (.files []) arguments

end CuratedList
