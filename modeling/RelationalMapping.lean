import RelationalMapping.Entity.Document
import RelationalMapping.Mapping.Mappers
import RelationalMapping.Mapping.Settings
import RelationalMapping.Query.Change
import RelationalMapping.Query.Document
import RelationalMapping.Query.Equality
import RelationalMapping.Query.Operation
import RelationalMapping.Query.Substitution
import RelationalMapping.Sql.Document
import RelationalMapping.Value.Geometry
import RelationalMapping.Proofs.Sql.Lacking
import RelationalMapping.Proofs.Sql.Parameters
import RelationalMapping.Proofs.Sql.Positional
import RelationalMapping.Proofs.Sql.Independence
import RelationalMapping.Proofs.Number.Rounding
import RelationalMapping.Proofs.Text.Folding
import RelationalMapping.Proofs.Value.RoundTrip
import RelationalMapping.Proofs.Entity.Construction
import RelationalMapping.Proofs.Mapping.Matching
import RelationalMapping.Proofs.Mapping.Providers
import RelationalMapping.Proofs.Mapping.Routing
import RelationalMapping.Proofs.Sql.Memo
import RelationalMapping.Proofs.Mapping.Kept
import RelationalMapping.Proofs.Mapping.Layout
import RelationalMapping.Proofs.Mapping.NestedRows
import RelationalMapping.Proofs.Mapping.StoredRows
import RelationalMapping.Proofs.Sql.Refusals
import RelationalMapping.Proofs.Sql.Filters
import RelationalMapping.Proofs.Mapping.Isolation
import RelationalMapping.Proofs.Mapping.Chains
import RelationalMapping.Proofs.Mapping.Planners
import RelationalMapping.Proofs.Mapping.Returned
import RelationalMapping.Proofs.Sql.Grouping
import RelationalMapping.Proofs.Sql.Tables
import RelationalMapping.Proofs.Sql.Lookups
import RelationalMapping.Proofs.Mapping.Sessions
import RelationalMapping.Proofs.Sql.Quoting
import RelationalMapping.Proofs.Sql.Aliases
import RelationalMapping.Proofs.Sql.Alignment
import RelationalMapping.Proofs.Sql.Plain
import RelationalMapping.Proofs.Mapping.Attribution
import RelationalMapping.Proofs.Sql.Outside
import RelationalMapping.Proofs.Mapping.BoundRows
import RelationalMapping.Proofs.Mapping.Occurrence
import RelationalMapping.Proofs.Mapping.Rearranged
import RelationalMapping.Proofs.Sql.Recording
import RelationalMapping.Proofs.Mapping.Missing
import RelationalMapping.Proofs.Sql.Scope
import RelationalMapping.Proofs.Sql.Filled
import RelationalMapping.Proofs.Mapping.Recognition
import RelationalMapping.Proofs.Query.Documents
import RelationalMapping.Proofs.Query.Replacement
import RelationalMapping.Proofs.Query.Shared
import RelationalMapping.Proofs.Value.Decoding
