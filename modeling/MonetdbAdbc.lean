import MonetdbAdbc.Library.Machine
import MonetdbAdbc.Library.Dict
import MonetdbAdbc.Library.Query
import MonetdbAdbc.Library.Outcome
import MonetdbAdbc.Library.Delivery
import MonetdbAdbc.Library.Quoted
import MonetdbAdbc.Library.Memo
import MonetdbAdbc.Library.Effects
import MonetdbAdbc.Library.Lexer
import MonetdbAdbc.Library.Parser
import MonetdbAdbc.Library.Referential
import MonetdbAdbc.Arrow.Hint
import MonetdbAdbc.Arrow.RoundTrip
import MonetdbAdbc.Arrow.Session
import MonetdbAdbc.Cursor.Fetch
import MonetdbAdbc.Dialect.SchemaCache
import MonetdbAdbc.Dialect.CreateAll
import MonetdbAdbc.Dialect.Disconnect
import MonetdbAdbc.Dialect.Isolation
import MonetdbAdbc.Json.Extract
import MonetdbAdbc.Compiler.Literal
import MonetdbAdbc.Compiler.DdlReading
import MonetdbAdbc.Alembic.ForeignKeys
import MonetdbAdbc.Compiler.Columns
import MonetdbAdbc.Catalog.Discovery
import MonetdbAdbc.Catalog.IndexRuns
import MonetdbAdbc.Catalog.ForeignKeys
import MonetdbAdbc.Catalog.Sequences
import MonetdbAdbc.Catalog.Inspector
import MonetdbAdbc.Alembic.ServerDefault
import MonetdbAdbc.Provision.DeleteTables
