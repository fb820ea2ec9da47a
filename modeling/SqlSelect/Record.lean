import SqlSelect.OrderedMap
import SqlSelect.Value

/-!
# Rows of a result

A row lists its columns by name in the order in which the database gave them.
-/

namespace SqlSelect

/-- One row of a result. -/
abbrev Record := OrderedMap Value

end SqlSelect
