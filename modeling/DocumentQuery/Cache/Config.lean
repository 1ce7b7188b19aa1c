import DocumentQuery.Json.Layout

/-!
# Cache settings

Whether templates are kept and how many. Settings are written as an object with the members
`enabled` and `max_size`, or as the list of the two; what is missing has its default.
-/

namespace DocumentQuery.Cache

/-- The settings of a cache. -/
structure Config where
  enabled : Bool := true
  maxSize : UInt64 := 500
  deriving DecidableEq, Repr, Inhabited

namespace Config

open Json (Layout)

def layout : Layout := .record "CacheConfig" [("enabled", false, .flag), ("max_size", false, .size)]

def ofJson? (j : Json) : Option Config :=
  match j with
  | .object members => fromMembers members
  | .array items =>
    if items.length ≤ 2 then fromMembers (["enabled", "max_size"].zip items) else none
  | _ => none
where
  /-- The settings that the members of a record stand for. -/
  fromMembers (members : List (String × Json)) : Option Config := do
    let enabled ← match Json.lookup "enabled" members with
      | some v => v.asBool?
      | none => some true
    let maxSize ← match Json.lookup "max_size" members with
      | some v => v.asUInt64?
      | none => some 500
    return { enabled, maxSize }

theorem fitsWord_uint64 (n : UInt64) : Json.FitsWord n.toNat := by
  have := n.toNat_lt
  constructor <;> omega

def toJson (c : Config) : Json :=
  .object [("enabled", .bool c.enabled),
    ("max_size", .number (.integer c.maxSize.toNat (fitsWord_uint64 c.maxSize)))]

/-- Whether a cache with these settings keeps anything. -/
def isActive (c : Config) : Bool := c.enabled && 0 < c.maxSize.toNat

end Config

end DocumentQuery.Cache
