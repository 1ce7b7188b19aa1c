import DocumentQuery.Cache.Basic
import DocumentQuery.Command.Report
import DocumentQuery.Filter.Reader
import DocumentQuery.Options.Reader
import DocumentQuery.Schema.Definition
import DocumentQuery.Schema.File
import DocumentQuery.Settings

/-!
# Carrying out commands

A command reads its schema file, then its filter, then its options, and reports the first thing that
is wrong. Only the command that compiles changes the cache.
-/

namespace DocumentQuery.Command

inductive Error
  | settings (e : Settings.Error)
  | schema (e : Schema.LoadError)
  | filter (e : Filter.ReadError)
  | options (e : Options.ReadError)
  | compile (e : CompileError)
  | unknown (word : String)
  deriving Repr

def Error.message : Error → String
  | .settings e => e.message
  | .schema e => e.message
  | .filter e => e.message
  | .options e => e.message
  | .compile e => e.message
  | .unknown word => "Unknown command: " ++ word

def parseOptions : Option String → Except Options.ReadError Options
  | none => .ok {}
  | some text => Options.parse text

/-- The SQL of a filter and its options as one query. -/
def selectReport (cache : Cache) (s : Schema) (f : Filter) (o : Options) :
    Except CompileError CompileReport × Cache :=
  let (result, cache) := cache.select s s.collection f o
  (result.map fun q => ⟨s.collection, [⟨.select, q⟩]⟩, cache)

/-- The SQL of a filter and its options as two parts; the second one only if there are any
options. -/
def partsReport (cache : Cache) (s : Schema) (f : Filter) (o : Options) :
    Except CompileError CompileReport × Cache :=
  let (result, cache) := cache.compile s f
  match result with
  | .error e => (.error e, cache)
  | .ok condition =>
    if o.isEmpty then (.ok ⟨s.collection, [⟨.where, condition⟩]⟩, cache)
    else
      ((o.compile s).map fun tail => ⟨s.collection, [⟨.where, condition⟩, ⟨.options, tail⟩]⟩, cache)

def compileReport (cache : Cache) (s : Schema) (f : Filter) (o : Options) (select : Bool) :
    Except CompileError CompileReport × Cache :=
  if select then selectReport cache s f o else partsReport cache s f o

/-- Why the template of the filter is not kept, if it is not. -/
def obstacle? (cache : Cache) (s : Schema) (f : Filter) : Option NotCached :=
  if !s.cacheable then some .schema
  else if f.hasElemMatch then some .elemMatch
  else if !cache.isEnabled then some .disabled
  else none

/-- The shape of a filter and how its values are bound. -/
def shapeReport (cache : Cache) (s : Schema) (f : Filter) : Except CompileError ShapeReport :=
  (f.tokens s).map fun ts => {
    collection := s.collection
    shape := f.shape s
    obstacle := obstacle? cache s f
    cached := cache.contains (f.shape s)
    slots := (Sql.params ts).map Sql.Param.slot }

def ddlReport (s : Schema) : DdlReport := ⟨s.collection, s.statements⟩

/-- What a compile command reads. -/
def readCompile (files : Files) (schema filter : String) (options : Option String) :
    Except Error (Schema × Filter × Options) := do
  let s ← (Schema.load files schema).mapError .schema
  let f ← (Filter.parse filter).mapError .filter
  let o ← (parseOptions options).mapError .options
  return (s, f, o)

def run (cache : Cache) (files : Files) : Request → Except Error Report × Cache
  | .compile schema filter options select =>
    match readCompile files schema filter options with
    | .error e => (.error e, cache)
    | .ok (s, f, o) =>
      let (result, cache) := compileReport cache s f o select
      ((result.mapError .compile).map .compile, cache)
  | .shape schema filter =>
    match readCompile files schema filter none with
    | .error e => (.error e, cache)
    | .ok (s, f, _) => (((shapeReport cache s f).mapError .compile).map .shape, cache)
  | .ddl schema =>
    (((Schema.load files schema).mapError .schema).map fun s => .ddl (ddlReport s), cache)
  | .unknown word => (.error (.unknown word), cache)

/-- Carries out a command line with a cache of its own, and shows the answer. -/
def runAlone (files : Files) (env : Environment) (i : Invocation) : Except Error String := do
  let config ← (Settings.resolve files i.config env).mapError .settings
  let report ← (run (.ofConfig config) files i.request).1
  return report.show i.format

end DocumentQuery.Command
