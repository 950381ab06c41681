import SqlRecords.Access.Gateway
import SqlRecords.Declaration.Outline
import SqlRecords.Sample.Records
import SqlRecords.Settings.Load
import SqlRecords.Statement.Draft
import SqlRecords.Value.Json
import SqlRecords.Proofs.Filter.Placeholders
import SqlRecords.Proofs.Access.Recording
import SqlRecords.Proofs.Statement.Part
import SqlRecords.Proofs.Access.Alignment
import SqlRecords.Proofs.Access.Key
import SqlRecords.Proofs.Filter.Erasure
import SqlRecords.Proofs.Mapping.Filling
import SqlRecords.Proofs.Template.Expansion
import SqlRecords.Proofs.Mapping.Walk
import SqlRecords.Proofs.Mapping.History
import SqlRecords.Proofs.Mapping.RoundTrip
import SqlRecords.Proofs.Number.Decimal
import SqlRecords.Proofs.Value.Integers
import SqlRecords.Proofs.Access.Condition
import SqlRecords.Proofs.Access.Answers
import SqlRecords.Proofs.Access.Paged
import SqlRecords.Proofs.Access.Single
import SqlRecords.Proofs.Mapping.Names
import SqlRecords.Proofs.Statement.Contribution
import SqlRecords.Proofs.Filter.Reading
import SqlRecords.Proofs.Mapping.Accounts
import SqlRecords.Proofs.Filter.Lead
import SqlRecords.Proofs.Statement.Clauses
import SqlRecords.Proofs.Value.Stored
import SqlRecords.Proofs.Value.Doubles
import SqlRecords.Proofs.Template.Literals
import SqlRecords.Proofs.Template.Expanded
import SqlRecords.Proofs.Template.Seam
import SqlRecords.Proofs.Filter.Spelling
import SqlRecords.Proofs.Filter.Bindings
import SqlRecords.Proofs.Filter.Nulls
import SqlRecords.Proofs.Access.KeyUpdate
import SqlRecords.Proofs.Access.Assignment
import SqlRecords.Proofs.Statement.Where
import SqlRecords.Proofs.Paging.Limits
import SqlRecords.Proofs.Access.PageSize
import SqlRecords.Proofs.Paging.Navigation
import SqlRecords.Proofs.Number.Numeral
import SqlRecords.Proofs.Value.Texts
import SqlRecords.Proofs.Value.Filters
import SqlRecords.Proofs.Mapping.Order
import SqlRecords.Proofs.Mapping.InPlace
import SqlRecords.Proofs.Statement.Keys
import SqlRecords.Proofs.Row.Lists
import SqlRecords.Proofs.Settings.Address
import SqlRecords.Proofs.Paging.Callbacks
import SqlRecords.Proofs.Declaration.Identifier
import SqlRecords.Proofs.Declaration.Fields
import SqlRecords.Proofs.Declaration.Names
