import NativeBlock.Error
import NativeBlock.Wire.Varint
import NativeBlock.Wire.Prefixed
import NativeBlock.Wire.LittleEndian
import NativeBlock.Text.Blank
import NativeBlock.Text.Numeral
import NativeBlock.Schema.DecimalWidth
import NativeBlock.Schema.ColumnType
import NativeBlock.Schema.Parse
import NativeBlock.Decimal.Digits
import NativeBlock.Decimal.Fixed
import NativeBlock.Decimal.Decimal96
import NativeBlock.Decimal.Shortest
import NativeBlock.Decimal.Nearest
import NativeBlock.Time.Calendar
import NativeBlock.Time.Instant
import NativeBlock.Time.Zone.Table
import NativeBlock.Time.Zone
import NativeBlock.Time.Rfc3339
import NativeBlock.Codec.Basic
import NativeBlock.Codec.Rows
import NativeBlock.Codec.Dictionary
import NativeBlock.Codec.Compression
import NativeBlock.Block.Place
import NativeBlock.Block.Cursor
import NativeBlock.Block.Reader
import NativeBlock.Block.Workspace
import NativeBlock.Block.ColumnWriter
import NativeBlock.Block.Writer
import NativeBlock.Block.WriteSession
import NativeBlock.Block.ReadSession
import NativeBlock.Json.Value
import NativeBlock.Json.Read
import NativeBlock.Inspect.Report
import NativeBlock.Inspect.Sample
import NativeBlock.Inspect.Command
import NativeBlock.Main
import NativeBlock.Proofs.Framing
import NativeBlock.Proofs.Wire
import NativeBlock.Proofs.Spans
import NativeBlock.Proofs.Dictionary
import NativeBlock.Proofs.ColumnSpan
import NativeBlock.Proofs.ReadOps
import NativeBlock.Proofs.TypeText
import NativeBlock.Proofs.CanonicalType
import NativeBlock.Proofs.Skip
import NativeBlock.Proofs.InBounds
import NativeBlock.Proofs.Values
import NativeBlock.Proofs.ColumnWrite
import NativeBlock.Proofs.ColumnRead
import NativeBlock.Proofs.RoundTrip
import NativeBlock.Proofs.Prefixes
import NativeBlock.Proofs.Calls
import NativeBlock.Proofs.FailedCalls
import NativeBlock.Proofs.WriterState
import NativeBlock.Proofs.Workspace
import NativeBlock.Proofs.TypeCheck
import NativeBlock.Proofs.Rescale
import NativeBlock.Proofs.Ticks
import NativeBlock.Proofs.VarintGrammar
import NativeBlock.Proofs.DecimalColumn
import NativeBlock.Proofs.DecimalCast
import NativeBlock.Proofs.DecimalText
import NativeBlock.Proofs.DictionaryColumn
import NativeBlock.Proofs.DictionaryLayout
import NativeBlock.Proofs.RowBoundaries
import NativeBlock.Proofs.CursorProtocol
import NativeBlock.Proofs.DigitCount
import NativeBlock.Proofs.CompressedFinish
import NativeBlock.Proofs.CalendarDays
import NativeBlock.Proofs.DateColumns
import NativeBlock.Proofs.ErrorKinds
import NativeBlock.Proofs.BlockReports
