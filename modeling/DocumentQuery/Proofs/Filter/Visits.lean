import DocumentQuery.Filter.Compile

/-!
# The parts of a filter in order

A filter is gone through from left to right, each part before the parts that it is made of. With
each part goes its depth, which says how many filters on array elements it is inside of.
-/

namespace DocumentQuery

/-- What names are resolved against inside so many filters on array elements. -/
def Root.ofDepth : Nat → Root
  | 0 => .document
  | depth + 1 => .element (depth + 1)

@[simp] theorem Root.nextDepth_ofDepth (depth : Nat) : (ofDepth depth).nextDepth = depth + 1 := by
  cases depth <;> rfl

namespace Filter

mutual

/-- The parts of a filter, with their depths. -/
def visits (depth : Nat) : Filter → List (Nat × Filter)
  | .everything => [(depth, .everything)]
  | .logical c operands => (depth, .logical c operands) :: visitsOfList depth operands
  | .test path t => [(depth, .test path t)]
  | .elemMatch path inner => (depth, .elemMatch path inner) :: inner.visits (depth + 1)

def visitsOfList (depth : Nat) : List Filter → List (Nat × Filter)
  | [] => []
  | f :: rest => f.visits depth ++ visitsOfList depth rest

end

end Filter

end DocumentQuery
