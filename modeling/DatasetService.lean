import DatasetService.Config.Environment
import DatasetService.Digest
import DatasetService.Document
import DatasetService.Http.Server
import DatasetService.Script
import DatasetService.Store.Node
import DatasetService.Proofs.Reference.Grammar
import DatasetService.Proofs.History.Resolution
import DatasetService.Proofs.History.Timing
import DatasetService.Proofs.Store.Run
import DatasetService.Proofs.Store.Consistency
import DatasetService.Proofs.Store.Copies
import DatasetService.Proofs.Store.Isolation
import DatasetService.Proofs.Store.Chronology
import DatasetService.Proofs.Store.QueryText
import DatasetService.Proofs.Store.Immutability
import DatasetService.Proofs.Store.InPlace
import DatasetService.Proofs.Store.NodeCalls
import DatasetService.Proofs.Action
import DatasetService.Proofs.Http.Effect
import DatasetService.Proofs.Http.Atomicity
import DatasetService.Proofs.Http.ReadOnly
import DatasetService.Proofs.Text.Percent
import DatasetService.Proofs.Page.Link
import DatasetService.Proofs.Binding.Bounds
import DatasetService.Proofs.Binding.Links
import DatasetService.Proofs.Http.Link
import DatasetService.Proofs.History.Source
import DatasetService.Proofs.Http.Paging
import DatasetService.Proofs.Http.HistoryPages
import DatasetService.Proofs.Http.ListPages
import DatasetService.Proofs.Number.Rounding
import DatasetService.Proofs.Number.Shortest
import DatasetService.Proofs.Except
import DatasetService.Proofs.Json.Scale
import DatasetService.Proofs.Json.Numeral
import DatasetService.Proofs.Json.Quoted
import DatasetService.Proofs.Json.Depth
import DatasetService.Proofs.Json.ReadBack
import DatasetService.Proofs.Store.Tables
import DatasetService.Proofs.Store.Rendering
import DatasetService.Proofs.Http.Session
import DatasetService.Proofs.Http.Rendering
import DatasetService.Proofs.Page.Crawl
import DatasetService.Proofs.Reference.Spelling
import DatasetService.Proofs.History.Version
import DatasetService.Proofs.History.Published
import DatasetService.Proofs.Http.Publication
import DatasetService.Proofs.Format.Suffix
import DatasetService.Proofs.Binding.Stages
import DatasetService.Proofs.Binding.References
import DatasetService.Proofs.Store.Refusal
import DatasetService.Proofs.Binding.Guarantees
import DatasetService.Proofs.Binding.Overlay
import DatasetService.Proofs.Csv.ReadBack
import DatasetService.Proofs.Store.CsvUpload
import DatasetService.Proofs.Disclosure
import DatasetService.Proofs.Http.Disclosure
import DatasetService.Proofs.Store.JsonUpload
import DatasetService.Proofs.Store.Addresses
import DatasetService.Proofs.Number.ReadBack
import DatasetService.Proofs.Http.VersionAddress
import DatasetService.Proofs.Store.Reimport
import DatasetService.Proofs.Binding.PageTokens
import DatasetService.Proofs.Store.Marks
import DatasetService.Proofs.Store.Overwriting
import DatasetService.Proofs.Store.Latest
import DatasetService.Proofs.Page.Neighbours
import DatasetService.Proofs.Reference.Owner
import DatasetService.Proofs.Reference.Address
import DatasetService.Proofs.Http.CsvSpellings
import DatasetService.Proofs.Instant.Calendar
import DatasetService.Proofs.Instant.ReadBack
import DatasetService.Proofs.Json.Records
import DatasetService.Proofs.Document
import DatasetService.Proofs.Reference.Stops
import DatasetService.Proofs.Reference.Faults
import DatasetService.Proofs.Page.Backward
import DatasetService.Proofs.Text.Folding
import DatasetService.Proofs.Format.Accept
import DatasetService.Proofs.Format.Resolution
import DatasetService.Proofs.Format.Preference
import DatasetService.Proofs.Format.SuffixRemoval
import DatasetService.Proofs.Store.ListOrder
import DatasetService.Proofs.Store.QueryAgreement
import DatasetService.Proofs.Json.Selection
import DatasetService.Proofs.History.BlankRemote
import DatasetService.Proofs.Binding.Assignment
import DatasetService.Proofs.Binding.Complaints
import DatasetService.Proofs.Store.Publications
