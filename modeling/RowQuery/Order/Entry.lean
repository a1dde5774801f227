/-! Entries of an order list. -/

namespace RowQuery

/-- An entry without a direction is not descending. -/
structure OrderEntry where
  field : String
  descending : Bool
  deriving DecidableEq, Repr

end RowQuery
