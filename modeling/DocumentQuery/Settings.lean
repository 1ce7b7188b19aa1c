import DocumentQuery.Cache.Config
import DocumentQuery.Files
import DocumentQuery.Text.Blank

/-!
# Where cache settings come from

From a settings file that is named on the command line, else from the file of the working directory,
else from two variables of the environment, else from the defaults. The first source that exists
decides, even if it cannot be read.
-/

namespace DocumentQuery

abbrev Environment := String → Option String

namespace Settings

open Json (Layout)

inductive CountFault
  | empty
  | badDigit
  | tooLarge
  deriving DecidableEq, Repr

def CountFault.message : CountFault → String
  | .empty => "cannot parse integer from empty string"
  | .badDigit => "invalid digit found in string"
  | .tooLarge => "number too large to fit in target type"

inductive Error
  | unreadable (path : String) (e : FileError)
  | notJson (path : String) (e : Json.Error)
  | badSwitch (text : String)
  | badSize (text : String) (fault : CountFault)
  deriving Repr

/-- The variable that switches the cache off. -/
def disabledVariable : String := "DOCSQL_CACHE_DISABLED"

/-- The variable for the size of the cache. -/
def sizeVariable : String := "DOCSQL_CACHE_SIZE"

/-- The settings file of the working directory. -/
def defaultPath : String := "./.docsql.json"

def Error.message : Error → String
  | .unreadable path e => "Failed to read " ++ path ++ ": " ++ e.message
  | .notJson path e => "Invalid JSON in " ++ path ++ ": " ++ e.message
  | .badSwitch text => "Invalid " ++ disabledVariable ++ ": '" ++ text ++ "'"
  | .badSize text fault =>
    "Invalid " ++ sizeVariable ++ ": '" ++ text ++ "' (" ++ fault.message ++ ")"

def layout : Layout := .record "ConfigFile" [("cache", false, Cache.Config.layout)]

/-- The settings in the value of a settings file. -/
def ofJson? : Json → Option Cache.Config
  | .object members =>
    match Json.lookup "cache" members with
    | some v => Cache.Config.ofJson? v
    | none => some {}
  | .array [] => some {}
  | .array [v] => Cache.Config.ofJson? v
  | _ => none

def toJson (c : Cache.Config) : Json := .object [("cache", c.toJson)]

/-- Reads the text of a settings file. What has the layout of one decodes. -/
def parse (text : String) : Except Json.Error Cache.Config :=
  match Json.read layout text with
  | .error e => .error e
  | .ok j =>
    match ofJson? j with
    | some c => .ok c
    | none => .error ⟨.expectedValue, 1, 0⟩

def load (files : Files) (path : String) : Except Error Cache.Config :=
  match files path with
  | .error e => .error (.unreadable path e)
  | .ok text =>
    match parse text with
    | .error e => .error (.notJson path e)
    | .ok c => .ok c

/-- Reads the settings file of the working directory, if there is one. -/
def loadDefault (files : Files) : Except Error (Option Cache.Config) :=
  match files defaultPath with
  | .error .notFound => .ok none
  | _ => (load files defaultPath).map some

/-- Reads digits on to the number before them, up to the first character that is wrong. -/
def readDigits : Nat → List Char → Except CountFault Nat
  | sum, [] => .ok sum
  | sum, c :: rest =>
    if !c.isDigit then .error .badDigit
    else
      let next := 10 * sum + (c.toNat - '0'.toNat)
      if next < UInt64.size then readDigits next rest else .error .tooLarge

/-- Reads a count: digits after an optional plus sign, below `2 ^ 64`. -/
def parseCount : List Char → Except CountFault UInt64
  | [] => .error .empty
  | ['+'] => .error .badDigit
  | '+' :: digits => (readDigits 0 digits).map UInt64.ofNat
  | digits => (readDigits 0 digits).map UInt64.ofNat

/-- The setting that the switch stands for; blanks around it and the case of letters do not
matter. -/
def parseSwitch (raw : String) : Except Error Bool :=
  let word := String.ofList ((Text.trim raw.toList).map Char.toLower)
  if word = "1" ∨ word = "true" ∨ word = "yes" then .ok false
  else if word = "0" ∨ word = "false" ∨ word = "no" ∨ word = "" then .ok true
  else .error (.badSwitch word)

/-- The settings in the environment, if a variable is set. -/
def ofEnvironment (env : Environment) : Except Error (Option Cache.Config) :=
  match env disabledVariable, env sizeVariable with
  | none, none => .ok none
  | disabled, size => do
    let enabled ← match disabled with
      | none => .ok true
      | some raw => parseSwitch raw
    let maxSize ← match size with
      | none => .ok 500
      | some raw =>
        match parseCount (Text.trim raw.toList) with
        | .ok n => .ok n
        | .error fault => .error (.badSize raw fault)
    return some { enabled, maxSize }

def resolve (files : Files) (explicit : Option String) (env : Environment) :
    Except Error Cache.Config :=
  match explicit with
  | some path => load files path
  | none => do
    match ← loadDefault files with
    | some c => return c
    | none =>
      match ← ofEnvironment env with
      | some c => return c
      | none => return {}

end Settings

end DocumentQuery
