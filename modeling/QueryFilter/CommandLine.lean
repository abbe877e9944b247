import QueryFilter.Format.Settings
import QueryFilter.Search
import QueryFilter.Staff.Directory
import QueryFilter.Staff.Sample

/-!
# The command line

`CommandLine.readArguments` turns arguments into `Options`, and `CommandLine.run` carries out the
search they ask for, given the contents of the files that they name.  The `Outcome` is what goes
to the standard streams, with the exit code.
-/

namespace QueryFilter

namespace CommandLine

/-- What the arguments ask for. -/
structure Options where
  data : Option Text := none
  config : Option Text := none
  loose : Bool := false
  explain : Bool := false
  parameters : List (Text × Text) := []

/-- Why the arguments ask for no search: they are wrong, or ask for the help text or the
version. -/
inductive Halt where
  | usage
  | help
  | version

/-- What a run writes to the standard streams, with its exit code. -/
structure Outcome where
  exitCode : Nat
  output : Text
  messages : Text

/-- The text that explains the arguments. -/
def helpText : Text :=
  ("Filter employee records with operator-wrapped query values\n\n"
    ++ "Usage: valops [OPTIONS]\n\n"
    ++ "Options:\n"
    ++ "      --data <FILE>         JSON file with employee records (defaults to the built-in "
    ++ "sample)\n"
    ++ "      --config <FILE>       Engine configuration, YAML or JSON by extension\n"
    ++ "      --loose               Accept string operators (contains, startsWith, ...) on enum "
    ++ "fields\n"
    ++ "      --explain             Print the combined expression to stderr before the results\n"
    ++ "  -w, --where <NAME=VALUE>  Filter parameter; repeat a name for several values\n"
    ++ "  -h, --help                Print help\n"
    ++ "  -V, --version             Print version\n").toList

/-- The message about wrong arguments. -/
def usageMessage : Text :=
  "error: invalid arguments\n\nFor more information, try '--help'.\n".toList

/-- The text that names the version. -/
def versionText : Text := "valops 0.1.0\n".toList

/-! ### Arguments -/

/-- The options that take a value. -/
inductive Valued where
  | data
  | config
  | parameter

/-- Records the value of an option. An option other than a parameter occurs once, and its value is
not empty. -/
def Options.set? (o : Options) (valued : Valued) (value : Text) : Option Options :=
  match valued with
  | .data => if o.data.isSome || value.isEmpty then none else some { o with data := some value }
  | .config =>
    if o.config.isSome || value.isEmpty then none else some { o with config := some value }
  | .parameter =>
    (Search.parameter? value).map fun p => { o with parameters := o.parameters ++ [p] }

/-- The argument is an option rather than a value. -/
def isOption (argument : Text) : Bool :=
  match argument with
  | '-' :: _ :: _ => true
  | _ => false

/-- The option with a value that a long name means. -/
def valuedNamed? (name : Text) : Option Valued :=
  if name = "data".toList then some .data
  else if name = "config".toList then some .config
  else if name = "where".toList then some .parameter
  else none

/-- A long option without a value. -/
def plainOption (o : Options) (name : Text) : Except Halt Options :=
  if name = "loose".toList ∧ !o.loose then .ok { o with loose := true }
  else if name = "explain".toList ∧ !o.explain then .ok { o with explain := true }
  else if name = "help".toList then .error .help
  else if name = "version".toList then .error .version
  else .error .usage

/-- Records a value, or halts. -/
def setOrHalt (o : Options) (valued : Valued) (value : Text) : Except Halt Options :=
  match o.set? valued value with
  | some o => .ok o
  | none => .error .usage

/-- Reads the arguments that are left. `pending` is an option whose value is the next one. -/
def readFrom (o : Options) (pending : Option Valued) : List Text → Except Halt Options
  | [] => if pending.isSome then .error .usage else .ok o
  | argument :: rest =>
    match pending with
    | some valued =>
      if isOption argument then .error .usage
      else
        match setOrHalt o valued argument with
        | .ok o => readFrom o none rest
        | .error halt => .error halt
    | none =>
      match argument with
      | ['-', '-'] => if rest.isEmpty then .ok o else .error .usage
      | '-' :: '-' :: long =>
        let name := long.takeWhile (· != '=')
        let value := long.dropWhile (· != '=')
        match valuedNamed? name, value with
        | some valued, [] => readFrom o (some valued) rest
        | some valued, _ :: value =>
          match setOrHalt o valued value with
          | .ok o => readFrom o none rest
          | .error halt => .error halt
        | none, [] =>
          match plainOption o name with
          | .ok o => readFrom o none rest
          | .error halt => .error halt
        | none, _ :: _ => .error .usage
      | ['-', 'w'] => readFrom o (some .parameter) rest
      | '-' :: 'w' :: value =>
        match setOrHalt o .parameter ((Text.after? ['='] value).getD value) with
        | .ok o => readFrom o none rest
        | .error halt => .error halt
      | '-' :: 'h' :: _ => .error .help
      | '-' :: 'V' :: _ => .error .version
      | _ => .error .usage

/-- Reads the arguments. -/
def readArguments (arguments : List Text) : Except Halt Options := readFrom {} none arguments

/-! ### Files -/

/-- The last part of a path. -/
def fileName (path : Text) : Text :=
  (path.reverse.dropWhile (· == '/')).takeWhile (· != '/') |>.reverse

/-- What follows the last dot of a file name, which does not begin with it. -/
def extension? (path : Text) : Option Text :=
  let name := fileName path
  let after := name.reverse.takeWhile (· != '.')
  if after.length + 1 < name.length ∧ name ≠ ['.', '.'] then some after.reverse else none

/-- A failure of a run, with the causes behind it. -/
structure Error where
  message : String
  causes : List String := []

/-- A message about the file at a path. -/
def about (what : String) (path : Text) : String := what ++ " " ++ String.ofList path

/-- The settings in the file at a path, whose extension tells the format. -/
def settingsFrom (contents : Text → Option Text) (path : Text) : Except Error Settings :=
  match contents path with
  | none => .error { message := about "reading config" path }
  | some text =>
    match (extension? path).map String.ofList with
    | some "yaml" | some "yml" =>
      match Settings.readYaml? text with
      | some s => .ok s
      | none => .error { message := about "parsing YAML config" path }
    | some "json" =>
      match Settings.readJson? text with
      | some s => .ok s
      | none => .error { message := about "parsing JSON config" path }
    | _ =>
      .error { message := about "unsupported config file" path
        ++ ", expected .yaml, .yml or .json" }

/-- The settings without a file: two fields have aliases. -/
def defaultSettings : Settings :=
  (({} : Settings).withAlias "user_name".toList "username".toList).withAlias "hired_on".toList
    "hired".toList

/-- The records in the file at a path. -/
def recordsFrom (contents : Text → Option Text) (path : Text) : Except Error (List Employee) :=
  match contents path with
  | none => .error { message := about "reading data" path }
  | some text =>
    match Employee.readDirectory? text with
    | some es => .ok es
    | none => .error { message := about "parsing data" path }

/-! ### Running -/

/-- The registry that the options ask for. -/
def registryFor (o : Options) (settings : Settings) : Registry :=
  let r := Registry.ofSettings settings
  if o.loose then r.setLoose true else r

/-- A failure of a request with the cause behind it. -/
def requestError (f : RequestFailure) : Error :=
  { message := f.message, causes := (f.cause?.map (·.message)).toList }

/-- The records that satisfy an expression, all if there is none. -/
def hits (e : Option Expr) (es : List Employee) : List Employee :=
  match e with
  | some e => es.filter fun employee => e.holds employee.value
  | none => es

/-- Carries out a search: the expression, and the records that satisfy it. -/
def search (o : Options) (contents : Text → Option Text) :
    Except Error (Option Expr × List Employee) := do
  let settings ← match o.config with
    | some path => settingsFrom contents path
    | none => .ok defaultSettings
  let es ← match o.data with
    | some path => recordsFrom contents path
    | none => .ok Employee.sample
  match Search.build (registryFor o settings) Employee.fields o.parameters with
  | .ok e => .ok (e, hits e es)
  | .error failure => .error (requestError failure)

/-- The lines that report a failure. -/
def report (e : Error) : Text :=
  let causes := e.causes.flatMap fun cause => "    ".toList ++ cause.toList ++ ['\n']
  "Error: ".toList ++ e.message.toList ++ ['\n']
    ++ if causes.isEmpty then [] else "\nCaused by:\n".toList ++ causes

/-- The line that explains a search. -/
def explanation (e : Option Expr) : Text :=
  match e with
  | some e => e.render ++ ['\n']
  | none => "(no filter)\n".toList

/-- Carries out what the arguments ask for. -/
def run (arguments : List Text) (contents : Text → Option Text) : Outcome :=
  match readArguments arguments with
  | .error .usage => ⟨2, [], usageMessage⟩
  | .error .help => ⟨0, helpText, []⟩
  | .error .version => ⟨0, versionText, []⟩
  | .ok o =>
    match search o contents with
    | .error e => ⟨1, [], report e⟩
    | .ok (e, es) =>
      ⟨0, Employee.renderDirectory es ++ ['\n'], if o.explain then explanation e else []⟩

/-- The files that the arguments name. -/
def filesNamed (arguments : List Text) : List Text :=
  match readArguments arguments with
  | .ok o => o.config.toList ++ o.data.toList
  | .error _ => []

end CommandLine

end QueryFilter
