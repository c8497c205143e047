import MyLite.Library.ByteFile
import MyLite.Library.Machine
import MyLite.Library.Program
import MyLite.Library.Checked
import MyLite.Library.Rounding
import MyLite.Library.Wildcard
import MyLite.Library.BinarySearch
import MyLite.Library.Ternary
import MyLite.Library.Gregorian
import MyLite.Library.Compacted
import MyLite.Library.Snapshots
import MyLite.Library.Keyed
import MyLite.Library.Lexicographic
import MyLite.Library.Scanning
import MyLite.Library.Delimited
import MyLite.Library.Decimal
import MyLite.Library.Letters
import MyLite.Storage.FileFormat
import MyLite.Storage.OffsetVfs
import MyLite.Storage.OffsetVfsRefinement
import MyLite.Storage.Initialization
import MyLite.Storage.LifecycleDiscipline
import MyLite.Storage.Lifecycle
import MyLite.Storage.LifecycleEffects
import MyLite.Storage.LifecycleSafety
import MyLite.Numeric.IntegerArithmetic
import MyLite.Numeric.DecimalText
import MyLite.Numeric.Numeral
import MyLite.Numeric.NumeralScan
import MyLite.Numeric.DecimalRound
import MyLite.Numeric.BaseConversion
import MyLite.Numeric.BaseConversionExact
import MyLite.Numeric.DecimalExact
import MyLite.Runtime.DuplicateUpdate
import MyLite.Runtime.DuplicateCheck
import MyLite.Runtime.BatchInsert
import MyLite.Runtime.BatchAgreement
import MyLite.Library.Placeholders
import MyLite.Runtime.DuplicateParameters
import MyLite.Runtime.DuplicateAlignment
import MyLite.Runtime.LoadData
import MyLite.Runtime.LoadDataChunks
import MyLite.Runtime.LikeMatch
import MyLite.Runtime.LikeMeaning
import MyLite.Runtime.LikeAgreement
import MyLite.Runtime.ForeignKey
import MyLite.Runtime.Delete
import MyLite.Runtime.DeleteActions
import MyLite.Runtime.Replace
import MyLite.Runtime.ReplaceRows
import MyLite.Catalog.Cache
import MyLite.Catalog.Interleaving
import MyLite.Catalog.Agreement
import MyLite.Catalog.Tracking
import MyLite.Catalog.Coherence
import MyLite.Session.Transactions
import MyLite.Session.Statements
import MyLite.Session.ControlCalls
import MyLite.Session.DiagnosticsArea
import MyLite.Session.DiagnosticsRuns
import MyLite.Session.TransactionFlag
import MyLite.Session.AnsweredCalls
import MyLite.Session.SavepointRegistry
import MyLite.Session.HighWaters
import MyLite.Session.InsertCounter
import MyLite.Session.InsertRuns
import MyLite.Session.UpdateCounter
import MyLite.Session.UpdateRuns
import MyLite.Session.NamedLocks
import MyLite.Session.LockTable
import MyLite.Temporal.Calendars
import MyLite.Temporal.OneCalendar
import MyLite.Collation.UnicodeFold
import MyLite.Collation.Compare
import MyLite.Collation.SortKey
import MyLite.Collation.AsciiPath
import MyLite.Collation.DistinctKeys
import MyLite.Sql.Lexer
import MyLite.Sql.LexerTiling
import MyLite.Sql.KeywordTable
import MyLite.Sql.KeywordLookup
import MyLite.Sql.KeywordScan
import MyLite.Sql.ParserFeed
import MyLite.Sql.StatementDigest
import MyLite.Sql.DigestShape
import MyLite.Sql.TokenSpelling
import MyLite.Sql.DigestIdentity
import MyLite.Sql.LexerTokenFeed
import MyLite.Sql.VersionCommentExpansion
import MyLite.Sql.ExpansionFeed
import MyLite.Sql.ParserReceives
import MyLite.Json.Value
import MyLite.Json.Lexical
import MyLite.Json.Parse
import MyLite.Json.Validate
import MyLite.Json.Reader
import MyLite.Json.Agreement
import MyLite.Json.Emit
import MyLite.Json.Printable
import MyLite.Json.Layout
import MyLite.Json.RoundTrip
import MyLite.Json.Pretty
import MyLite.Library.Window
import MyLite.Json.Path
import MyLite.Json.PathAgreement
import MyLite.Json.SqlValue
import MyLite.Json.Mutation
import MyLite.Json.Merge
import MyLite.Json.Ordered
import MyLite.Json.Produced
import MyLite.Json.SetExtract
import MyLite.Json.SetDecomposition
import MyLite.Aggregate.Bitwise
import MyLite.Aggregate.JsonAggregate
import MyLite.Json.Contains
import MyLite.Json.ContainsRecursion
import MyLite.Json.MergePatch
import MyLite.Catalog.TemporaryCatalog
import MyLite.Catalog.TemporaryInvariant
import MyLite.Catalog.TemporaryRuns
import MyLite.Catalog.TemporaryRebuild
import MyLite.Regexp.Program
import MyLite.Regexp.Match
import MyLite.Regexp.Denotation
import MyLite.Regexp.SpanWalk
import MyLite.Regexp.Found
import MyLite.Regexp.Replace
import MyLite.Regexp.ClassFolding
import MyLite.Library.Fields
import MyLite.Session.SetVariables
import MyLite.Session.SetAtomicity
import MyLite.Session.SetRestored
import MyLite.Json.Search
import MyLite.Json.PathText
import MyLite.Json.ElementCount
import MyLite.Json.SearchLeaves
import MyLite.Library.OpenAddressing
import MyLite.Library.Utf8
import MyLite.Library.Wrapped
import MyLite.Strings.Base64
import MyLite.Library.Blockwise
import MyLite.Strings.Aes
import MyLite.Strings.AesField
import MyLite.Strings.AesRoundTrip
import MyLite.Strings.Base64RoundTrip
import MyLite.Aggregate.GroupConcat
import MyLite.Aggregate.GroupConcatTable
import MyLite.Aggregate.GroupConcatText
import MyLite.Aggregate.GroupConcatRuns
import MyLite.Catalog.StringPool
import MyLite.Catalog.StringPoolTable
import MyLite.Catalog.StringPoolInvariant
import MyLite.Catalog.StringPoolRuns
import MyLite.Library.FixedDigits
import MyLite.Temporal.DatetimeText
import MyLite.Temporal.DateInterval
import MyLite.Temporal.Instants
import MyLite.Temporal.DateIntervalExact
import MyLite.Temporal.DateIntervalMachine
import MyLite.Temporal.DateIntervalResult
import MyLite.Temporal.TimestampdiffValue
import MyLite.Temporal.TimestampdiffInverse
import MyLite.Temporal.UnixTimestampValue
import MyLite.Temporal.UnixTimestampInverse
import MyLite.Library.Weeks
import MyLite.Temporal.CalendarWeek
import MyLite.Temporal.CalendarWeekNumbers
import MyLite.Library.Progression
import MyLite.Numeric.IntegerRange
import MyLite.Numeric.UnsignedLiteral
import MyLite.Session.AutoIncrementMachine
import MyLite.Session.AutoIncrementExact
import MyLite.Library.Interleaved
import MyLite.Session.UuidText
import MyLite.Session.UuidGeneration
import MyLite.Session.UuidDistinct
import MyLite.Runtime.UpdateArithmetic
import MyLite.Runtime.UpdateArithmeticExact
import MyLite.Runtime.BitLiteral
import MyLite.Runtime.BitLiteralValue
import MyLite.Numeric.DecimalColumnExact
import MyLite.Library.Quoted
import MyLite.Sql.StringLiteral
import MyLite.Sql.StringQuoting
import MyLite.Sql.ShowCreateText
import MyLite.Runtime.EnumSetDescriptor
import MyLite.Runtime.EnumValue
import MyLite.Runtime.SetValue
