/-!
# Record kinds

What a handle names. Object and shape records have a fixed layout; property arrays and element
arrays are sequences of equal cells.
-/

namespace HandleHeap

/-- The four kinds of record in a heap. -/
inductive RecordKind
  | object
  | shape
  | propertyArray
  | elementArray
  deriving DecidableEq, Repr, Inhabited

/-- How a kind appears in messages and events. -/
def RecordKind.describe : RecordKind → String
  | .object => "Object"
  | .shape => "Shape"
  | .propertyArray => "PropertyArray"
  | .elementArray => "ElementArray"

end HandleHeap
