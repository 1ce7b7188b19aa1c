import DocumentQuery.Cache.Config
import DocumentQuery.Filter.Literals
import DocumentQuery.Filter.Shape
import DocumentQuery.Select

/-!
# The cache of templates

Filters that differ only in their values have the same SQL, so a template is kept for each shape.
When a filter of a known shape comes, its values are bound to the template. The cache holds a
bounded number of templates; when there are too many, the one that came first goes, however often it
was used. Filters on array elements and schemas that ask for it are always compiled afresh.
-/

namespace DocumentQuery

open Sql (Statement Slot)

/-- The SQL of a shape and the slots of its placeholders. -/
structure Template where
  shape : UInt64
  sql : String
  slots : List Slot
  deriving DecidableEq, Repr

/-- Templates by shape, the order in which they came, and counters of how often a template was found
or missing, which start again from zero when they run over. -/
structure Cache where
  config : Cache.Config
  entries : List (UInt64 × Template) := []
  /-- The shapes that are held, oldest first. -/
  order : List UInt64 := []
  hitCount : UInt64 := 0
  missCount : UInt64 := 0
  deriving Repr

namespace Cache

def ofConfig (config : Config) : Cache := { config }

def isEnabled (c : Cache) : Bool := c.config.isActive

def size (c : Cache) : Nat := c.entries.length

/-- The number of hits that the counter shows. -/
def hits (c : Cache) : Nat := c.hitCount.toNat

/-- The number of misses that the counter shows. -/
def misses (c : Cache) : Nat := c.missCount.toNat

def find (shape : UInt64) : List (UInt64 × Template) → Option Template
  | [] => none
  | (k, t) :: rest => if k = shape then some t else find shape rest

/-- The list with the entry of a shape replaced, or added at the end. -/
def put (shape : UInt64) (t : Template) : List (UInt64 × Template) → List (UInt64 × Template)
  | [] => [(shape, t)]
  | (k, u) :: rest => if k = shape then (k, t) :: rest else (k, u) :: put shape t rest

def drop (shape : UInt64) (entries : List (UInt64 × Template)) : List (UInt64 × Template) :=
  entries.filter fun e => e.1 != shape

def get? (c : Cache) (shape : UInt64) : Option Template := find shape c.entries

def contains (c : Cache) (shape : UInt64) : Bool := (c.get? shape).isSome

/-- Removes the oldest shapes until no more entries are left than the limit. -/
def evict (limit : Nat) :
    List (UInt64 × Template) → List UInt64 → List (UInt64 × Template) × List UInt64
  | entries, [] => (entries, [])
  | entries, oldest :: rest =>
    if limit < entries.length then evict limit (drop oldest entries) rest
    else (entries, oldest :: rest)

/-- Stores a template. A shape that is held already keeps its place in the order. -/
def insert (c : Cache) (t : Template) : Cache :=
  let order := if c.contains t.shape then c.order else c.order ++ [t.shape]
  let kept := evict c.config.maxSize.toNat (put t.shape t c.entries) order
  { c with entries := kept.1, order := kept.2 }

/-- Forgets all templates; what was counted stays. -/
def clear (c : Cache) : Cache := { c with entries := [], order := [] }

def admits (c : Cache) (s : Schema) (f : Filter) : Bool :=
  c.isEnabled && s.cacheable && !f.hasElemMatch

/-- Binds the values of a filter to a template. -/
def replay (c : Cache) (t : Template) (f : Filter) : Except CompileError Statement × Cache :=
  match f.literals with
  | .error e => (.error e, c)
  | .ok ps =>
    if ps.map Sql.Param.slot = t.slots then
      (.ok ⟨t.sql, ps.map Sql.Param.value⟩, { c with hitCount := c.hitCount + 1 })
    else (.error (.templateMismatch t.shape t.slots (ps.map Sql.Param.slot)), c)

/-- Compiles a filter of a shape that is not held, and stores its template. -/
def compileAndStore (c : Cache) (s : Schema) (f : Filter) (shape : UInt64) :
    Except CompileError Statement × Cache :=
  let c := { c with missCount := c.missCount + 1 }
  match f.tokens s with
  | .error e => (.error e, c)
  | .ok ts =>
    (.ok (.ofTokens ts), c.insert ⟨shape, Sql.text ts, (Sql.params ts).map Sql.Param.slot⟩)

/-- The condition of a filter, from its template if that is held. -/
def compile (c : Cache) (s : Schema) (f : Filter) : Except CompileError Statement × Cache :=
  if c.admits s f then
    match c.get? (f.shape s) with
    | some t => c.replay t f
    | none => c.compileAndStore s f (f.shape s)
  else (f.compile s, c)

/-- The query for the documents that a filter wants. Only the condition goes through the cache. -/
def select (c : Cache) (s : Schema) (table : String) (f : Filter) (o : Options) :
    Except CompileError Statement × Cache :=
  match c.compile s f with
  | (.error e, c) => (.error e, c)
  | (.ok condition, c) => (s.assembleSelect table condition o, c)

end Cache

end DocumentQuery
