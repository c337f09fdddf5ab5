import Qaneris.Federation.Properties.Isolation
import Qaneris.Scan.Properties.Configured
import Qaneris.Runtime.Properties.Settled
import Qaneris.Runtime.Properties.Records
import Qaneris.Runtime.Properties.Queueings
import Qaneris.Runtime.Properties.Cancellation
import Qaneris.Runtime.Properties.Recovery
import Qaneris.Querying.Properties.Placeholders
import Qaneris.Querying.Properties.Native
import Qaneris.Querying.Properties.Dialects
import Qaneris.Connections.Properties.Secrets
import Qaneris.Connections.Properties.Options
import Qaneris.Semantic.Properties.Order
import Qaneris.Querying.Properties.Context
import Qaneris.Web.Properties.Sse
import Qaneris.Interfaces.Properties.Stream
import Qaneris.Application.Properties.Ask
import Qaneris.Ingestion.Properties.Imports
import Qaneris.Querying.Properties.Planner
import Qaneris.Querying.Properties.TimeRanges
import Qaneris.Semantic.Properties.Assets
import Qaneris.Connections.Properties.Documents
import Qaneris.Querying.Properties.FanOut
import Qaneris.Querying.Properties.Aggregates
import Qaneris.Querying.Properties.Identities
import Qaneris.Querying.Properties.Nested
import Qaneris.Semantic.Properties.Merge
import Qaneris.Federation.Properties.Joins
import Qaneris.Federation.Properties.Scalars
import Qaneris.Adapters.Properties.Redis
import Qaneris.Conversation.Properties.Context
import Qaneris.Adapters.Properties.Locators
import Qaneris.Scan.Properties.Graph
import Qaneris.Adapters.Properties.Schemas
import Qaneris.Infra.UrlGrammar
import Qaneris.Connections.Properties.Urls
import Qaneris.Infra.Base64
import Qaneris.Infra.Aead
import Qaneris.Connections.ManagedStore
import Qaneris.Connections.Properties.ManagedStore
import Qaneris.Infra.Regex
import Qaneris.Infra.Windows
import Qaneris.Ingestion.SheetXml
import Qaneris.Ingestion.Properties.SheetXml
import Qaneris.Answering.Composer
import Qaneris.Answering.Properties.Evidence
import Qaneris.Contracts.Prepared
import Qaneris.Querying.Documents
import Qaneris.Querying.Properties.Documents
import Qaneris.Querying.Clauses
import Qaneris.Querying.Properties.Clauses
import Qaneris.Infra.Growth
import Qaneris.Querying.Prepared
import Qaneris.Querying.Properties.Prepared
import Qaneris.Scan.Batch
import Qaneris.Scan.Properties.Batch
import Qaneris.Infra.Unions
import Qaneris.Graph.Reading
import Qaneris.Graph.Properties.Merged
import Qaneris.Infra.Chronicle
import Qaneris.Federation.Mappings
import Qaneris.Federation.Properties.Mappings
import Qaneris.Infra.Alignment
import Qaneris.Federation.Series
import Qaneris.Federation.Properties.Series
import Qaneris.Ingestion.CellTypes
import Qaneris.Ingestion.Properties.CellTypes
import Qaneris.Ingestion.Validator
import Qaneris.Ingestion.Properties.Validator
import Qaneris.Infra.Batches
import Qaneris.Ingestion.Materializer
import Qaneris.Ingestion.Properties.Materializer
