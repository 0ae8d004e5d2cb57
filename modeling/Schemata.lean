import Schemata.Database
import Schemata.Json.Reader
import Schemata.Json.Writer
import Schemata.Proofs.Json.Tables
import Schemata.Proofs.Migration.Introspection
import Schemata.Proofs.Provider.Memory
import Schemata.Proofs.Provider.SingleFlight
import Schemata.Proofs.Record.Constants
import Schemata.Proofs.Record.TypeTexts
import Schemata.Proofs.Session.DerivedColumns
import Schemata.Proofs.Session.Handles
import Schemata.Proofs.Session.Names
import Schemata.Proofs.Session.RawSelectors
import Schemata.Proofs.Session.SelectorGrammar
import Schemata.Proofs.Session.Selectors
import Schemata.Proofs.Session.Writers
import Schemata.Proofs.Sqlite.Identifiers
import Schemata.Proofs.Statement.Guard
import Schemata.Proofs.Statement.Lengths
import Schemata.Proofs.Statement.NormalForm
import Schemata.Proofs.Statement.Numbering
import Schemata.Proofs.Statement.Parentheses
import Schemata.Proofs.Statement.Portability
import Schemata.Proofs.Statement.Warnings
import Schemata.Proofs.Table.Position
import Schemata.Proofs.Type.Grammar
import Schemata.Proofs.Type.Spelling
import Schemata.Record
import Schemata.Schema.Session
import Schemata.Table.Json
