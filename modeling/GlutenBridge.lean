import GlutenBridge.Shuffle.Block
import GlutenBridge.Shuffle.Reader
import GlutenBridge.Shuffle.Batching
import GlutenBridge.Shuffle.ReadBuffer
import GlutenBridge.Shuffle.Conservation
import GlutenBridge.DB.Column
import GlutenBridge.Arrow.Array
import GlutenBridge.Convert.Readers
import GlutenBridge.Convert.Column
import GlutenBridge.Convert.Numeric
import GlutenBridge.Convert.ListOffsets
import GlutenBridge.Convert.Dictionary
import GlutenBridge.Convert.Transparency
import GlutenBridge.Convert.Decimal
import GlutenBridge.Convert.WellFormed
import GlutenBridge.Convert.Keeps
import GlutenBridge.Convert.Shape
import GlutenBridge.Convert.StringCapacity
import GlutenBridge.Convert.Accesses
import GlutenBridge.Convert.Meaning
import GlutenBridge.Convert.Errors
import GlutenBridge.Convert.Types
import GlutenBridge.Session.Conversion
import GlutenBridge.Session.MissingColumns
import GlutenBridge.Session.Table
import GlutenBridge.Session.Cache
import GlutenBridge.Session.Errors
import GlutenBridge.Session.Types
import GlutenBridge.Velox.Initializer
import GlutenBridge.Velox.InitCache
