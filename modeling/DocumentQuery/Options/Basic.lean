/-!
# Query options

How the wanted documents are ordered, which part of them is returned, and which fields. The sort
keys form an ordered map: a field keeps the place of its first mention and takes the direction of
its last.
-/

namespace DocumentQuery

inductive Direction
  | ascending
  | descending
  deriving DecidableEq, Repr

structure SortKey where
  field : String
  direction : Direction
  deriving DecidableEq, Repr

/-- What happens to the documents after filtering. -/
structure Options where
  sort : List SortKey := []
  limit : Option UInt64 := none
  skip : Option UInt64 := none
  /-- The fields to return in place of the whole document. -/
  projection : Option (List String) := none
  deriving DecidableEq, Repr

namespace Options

/-- Sets the direction of a field among the keys, at the end if it is new. -/
def setKey (field : String) (direction : Direction) : List SortKey → List SortKey
  | [] => [⟨field, direction⟩]
  | k :: rest =>
    if k.field = field then ⟨field, direction⟩ :: rest else k :: setKey field direction rest

/-- Sorts by a field, after the fields before it. -/
def sortBy (o : Options) (field : String) (direction : Direction) : Options :=
  { o with sort := setKey field direction o.sort }

/-- Whether there is no clause. The projection makes none. -/
def isEmpty (o : Options) : Bool := o.sort.isEmpty && o.limit.isNone && o.skip.isNone

theorem setKey_fields_of_mem {field : String} (direction : Direction) {keys : List SortKey}
    (h : field ∈ keys.map SortKey.field) :
    (setKey field direction keys).map SortKey.field = keys.map SortKey.field := by
  induction keys with
  | nil => simp at h
  | cons k rest ih =>
    by_cases hk : k.field = field
    · simp [setKey, hk]
    · simp only [List.map_cons, List.mem_cons] at h
      simp [setKey, hk, ih (h.resolve_left (Ne.symm hk))]

theorem setKey_of_not_mem {field : String} (direction : Direction) {keys : List SortKey}
    (h : field ∉ keys.map SortKey.field) :
    setKey field direction keys = keys ++ [⟨field, direction⟩] := by
  induction keys with
  | nil => rfl
  | cons k rest ih =>
    simp only [List.map_cons, List.mem_cons, not_or] at h
    simp [setKey, Ne.symm h.1, ih h.2]

end Options

end DocumentQuery
