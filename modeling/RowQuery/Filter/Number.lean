import RowQuery.Decimal.Read
import RowQuery.Filter.Clause

/-! Values as numbers. A filter accepts any run of digits, points and minus signs, so this is where
a malformed number is first noticed. -/

namespace RowQuery.Value

def decimal? (v : Value) : Option Decimal :=
  v.text?.bind Decimal.read

end RowQuery.Value
