/-!
# The command line

`Invocation.parse` reads the words of a command line. There are three commands, each with options of
its own; the options for the output format and for the settings file may stand before the command or
after it, and after it they count more. A word that is no command stands for an unknown one and
takes all words after it.

An option takes its value from the same word, after an equals sign or, in the short form, at once,
or else from the next word, unless that begins with a dash. A value is checked when the next option
comes or the words of its command end; the options before a command are checked after those behind
it.
-/

namespace DocumentQuery.Command

inductive OutputFormat
  | table
  | json
  | toon
  deriving DecidableEq, Repr

def OutputFormat.name : OutputFormat → String
  | .table => "table"
  | .json => "json"
  | .toon => "toon"

def OutputFormat.ofName? (s : String) : Option OutputFormat :=
  [OutputFormat.table, .json, .toon].find? fun f => f.name == s

/-- Why a command line is not carried out: it asks for help or for the version, or it is wrong. -/
inductive UsageError
  | missingRequired
  | unknownArgument
  | invalidValue
  | tooManyValues
  | conflict
  | help
  | version
  | helpOnMissing
  | missingCommand
  | invalidCommand
  deriving DecidableEq, Repr

def UsageError.name : UsageError → String
  | .missingRequired => "MissingRequiredArgument"
  | .unknownArgument => "UnknownArgument"
  | .invalidValue => "InvalidValue"
  | .tooManyValues => "TooManyValues"
  | .conflict => "ArgumentConflict"
  | .help => "DisplayHelp"
  | .version => "DisplayVersion"
  | .helpOnMissing => "DisplayHelpOnMissingArgumentOrSubcommand"
  | .missingCommand => "MissingSubcommand"
  | .invalidCommand => "InvalidSubcommand"

inductive Name
  | compile
  | shape
  | ddl
  deriving DecidableEq, Repr

def Name.word : Name → String
  | .compile => "compile"
  | .shape => "shape"
  | .ddl => "ddl"

def Name.ofWord? (s : String) : Option Name :=
  [Name.compile, .shape, .ddl].find? fun n => n.word == s

inductive OptionName
  | format
  | config
  | schema
  | filter
  | options
  | select
  | help
  | version
  deriving DecidableEq, Repr

namespace OptionName

def long : OptionName → String
  | .format => "format"
  | .config => "config"
  | .schema => "schema"
  | .filter => "filter"
  | .options => "options"
  | .select => "select"
  | .help => "help"
  | .version => "version"

def short? : OptionName → Option Char
  | .format => some 'o'
  | .config => some 'c'
  | .schema => some 's'
  | .filter => some 'f'
  | .options => none
  | .select => none
  | .help => some 'h'
  | .version => some 'V'

def takesValue : OptionName → Bool
  | .select => false
  | .help => false
  | .version => false
  | _ => true

/-- Whether the text may be the value: a path is not empty, and a format is one of those there
are. -/
def admits : OptionName → String → Bool
  | .format, s => (OutputFormat.ofName? s).isSome
  | .config, s => s != ""
  | .schema, s => s != ""
  | _, _ => true

end OptionName

/-- The options that may stand before the command, or after it. -/
def optionsOf : Option Name → List OptionName
  | none => [.format, .config, .help, .version]
  | some .compile => [.schema, .filter, .options, .select, .format, .config, .help]
  | some .shape => [.schema, .filter, .format, .config, .help]
  | some .ddl => [.schema, .format, .config, .help]

/-- What has been read so far: the options with their values, and the last option if its value is
still to come or to be checked. -/
structure Given where
  values : List (OptionName × String) := []
  pending : Option (OptionName × Option String) := none
  deriving Repr

namespace Given

def value? (g : Given) (o : OptionName) : Option String :=
  (g.values.find? fun v => v.1 == o).map Prod.snd

def accept (g : Given) (o : OptionName) (value : String) : Except UsageError Given :=
  if (g.value? o).isSome then .error .conflict
  else if !o.admits value then .error .invalidValue
  else .ok { g with values := g.values ++ [(o, value)] }

def settle (g : Given) : Except UsageError Given :=
  match g.pending with
  | none => .ok g
  | some (_, none) => .error .invalidValue
  | some (o, some value) => { g with pending := none }.accept o value

/-- Reads an option together with the value in its word, if there is one. -/
def option (g : Given) (o : OptionName) (attached : Option String) : Except UsageError Given := do
  let g ← g.settle
  if o.takesValue then
    match attached with
    | some value => g.accept o value
    | none => return { g with pending := some (o, none) }
  else if o = .help then .error .help
  else if o = .version then .error .version
  else g.accept o ""

end Given

/-- A word as it stands on a command line. -/
inductive Word
  | plain
  | escape
  | long (name : String) (attached : Option String)
  | short (letter : Char) (attached : List Char)
  deriving Repr

/-- What kind of word it is. A dash alone is a plain word. -/
def Word.classify (s : String) : Word :=
  match s.toList with
  | ['-', '-'] => .escape
  | '-' :: '-' :: rest =>
    let name := rest.takeWhile (· != '=')
    match rest.dropWhile (· != '=') with
    | [] => .long (String.ofList name) none
    | _ :: value => .long (String.ofList name) (some (String.ofList value))
  | '-' :: letter :: rest => .short letter rest
  | _ => .plain

def readOption (allowed : List OptionName) (g : Given) : Word → Except UsageError Given
  | .long name attached =>
    match allowed.find? fun o => o.long == name with
    | none => .error .unknownArgument
    | some o =>
      if !o.takesValue && attached.isSome then .error .tooManyValues else g.option o attached
  | .short letter attached =>
    match allowed.find? fun o => o.short? == some letter with
    | none => .error .unknownArgument
    | some o =>
      g.option o (match attached with
        | [] => none
        | '=' :: value => some (String.ofList value)
        | value => some (String.ofList value))
  | _ => .ok g

/-- Reads the words after a command. No plain word may stand there but a value. -/
def readWords (allowed : List OptionName) : Given → List String → Except UsageError Given
  | g, [] => g.settle
  | g, s :: rest =>
    match Word.classify s with
    | .escape => if rest.isEmpty then g.settle else .error .unknownArgument
    | .plain =>
      match g.pending with
      | some (o, none) => readWords allowed { g with pending := some (o, some s) } rest
      | _ => .error .unknownArgument
    | word =>
      match readOption allowed g word with
      | .error e => .error e
      | .ok g => readWords allowed g rest

inductive Request
  | compile (schema filter : String) (options : Option String) (select : Bool)
  | shape (schema filter : String)
  | ddl (schema : String)
  | unknown (word : String)
  deriving DecidableEq, Repr

structure Invocation where
  format : OutputFormat
  config : Option String
  request : Request
  deriving DecidableEq, Repr

/-- The request of a command with its options. A filter that is not given matches everything. -/
def requestOf (n : Name) (g : Given) : Except UsageError Request :=
  match g.value? .schema with
  | none => .error .missingRequired
  | some schema =>
    let filter := (g.value? .filter).getD "\x7b\x7d"
    match n with
    | .compile => .ok (.compile schema filter (g.value? .options) (g.value? .select).isSome)
    | .shape => .ok (.shape schema filter)
    | .ddl => .ok (.ddl schema)

/-- The invocation of a request, with the options after the command before those in front of it. -/
def invocation (outer inner : Given) (r : Request) : Invocation where
  format := (((inner.value? .format).or (outer.value? .format)).bind OutputFormat.ofName?).getD
    .table
  config := (inner.value? .config).or (outer.value? .config)
  request := r

/-- Reads what follows the word for help: the name of a command, or nothing. -/
def helpOn : List String → UsageError
  | [] => .help
  | [s] => if (Name.ofWord? s).isSome || s == "help" then .help else .invalidCommand
  | _ => .invalidCommand

/-- Reads the words in front of the command and the command itself. The flag tells whether a double
dash has been seen, after which every word is plain and no word is a command. -/
def readLine : Bool → Given → List String → Except UsageError Invocation
  | _, g, [] => do
    let g ← g.settle
    if g.values.isEmpty then .error .helpOnMissing else .error .missingCommand
  | escaped, g, s :: rest =>
    let unknown : Except UsageError Invocation := do
      let g ← g.settle
      return invocation g {} (.unknown s)
    if escaped then unknown
    else match Word.classify s with
      | .escape => readLine true g rest
      | .plain =>
        match g.pending with
        | some (o, none) => readLine false { g with pending := some (o, some s) } rest
        | _ =>
          if s = "help" then .error (helpOn rest)
          else match Name.ofWord? s with
            | some n => do
              let inner ← readWords (optionsOf (some n)) {} rest
              let request ← requestOf n inner
              let outer ← g.settle
              return invocation outer inner request
            | none => unknown
      | word =>
        match readOption (optionsOf none) g word with
        | .error e => .error e
        | .ok g => readLine false g rest

/-- Reads a command line, without the name of the program. -/
def Invocation.parse (words : List String) : Except UsageError Invocation := readLine false {} words

end DocumentQuery.Command
