import Gazette.Article.Text
import Gazette.Cache.Lru
import Gazette.Cache.Remote.Command
import Gazette.Cache.Remote.Url
import Gazette.Command.Run
import Gazette.Config
import Gazette.Database.Dump
import Gazette.Database.Edit
import Gazette.Database.File
import Gazette.Database.Store
import Gazette.Main
import Gazette.Service.Session
import Gazette.Store.Memory
import Gazette.Proofs.Text.Digits
import Gazette.Proofs.Time.Civil
import Gazette.Proofs.Time.Face
import Gazette.Proofs.Uuid.Text
import Gazette.Proofs.Time.Reading
import Gazette.Proofs.Json.Text
import Gazette.Proofs.Json.Written
import Gazette.Proofs.Json.Format
import Gazette.Proofs.Json.Record
import Gazette.Proofs.Cache.Codec
import Gazette.Proofs.Cache.Lru
import Gazette.Proofs.Cache.History
import Gazette.Proofs.Database.Row
import Gazette.Proofs.Store.Lists
import Gazette.Proofs.Store.Memory
import Gazette.Proofs.Database.Tables
import Gazette.Proofs.Store.Kind
import Gazette.Proofs.Service.Operation
import Gazette.Proofs.Service.Session
import Gazette.Proofs.Service.Turn
import Gazette.Proofs.Service.Transparency
import Gazette.Proofs.Service.Staleness
import Gazette.Proofs.Service.Interleaving
import Gazette.Proofs.Service.Race
import Gazette.Proofs.Service.Cancellation
import Gazette.Proofs.Service.Isolation
import Gazette.Proofs.Service.Deadline
import Gazette.Proofs.Text.Order
import Gazette.Proofs.Time.Order
import Gazette.Proofs.Store.Mirror
import Gazette.Proofs.Store.Order
import Gazette.Proofs.Store.Run
import Gazette.Proofs.Store.Creation
import Gazette.Proofs.Database.Failure
import Gazette.Proofs.Service.Attribution
import Gazette.Proofs.Article.Page
import Gazette.Proofs.Text.Case
import Gazette.Proofs.Database.Pattern
import Gazette.Proofs.Store.Lookup
import Gazette.Proofs.Store.Revision
import Gazette.Proofs.Store.Search
import Gazette.Proofs.Service.Paging
import Gazette.Proofs.Cache.Recency
import Gazette.Proofs.Service.Requests
import Gazette.Proofs.Service.Separation
import Gazette.Proofs.Service.Savings
import Gazette.Proofs.Service.Concurrency
import Gazette.Proofs.Service.Convergence
import Gazette.Proofs.Store.Readable
import Gazette.Proofs.Service.ReadOnly
import Gazette.Proofs.Command.Processes
import Gazette.Proofs.Database.Needle
import Gazette.Proofs.Text.Sigma
import Gazette.Proofs.Service.Finding
import Gazette.Proofs.Cache.Inclusion
import Gazette.Proofs.Database.SortKey
import Gazette.Proofs.Service.Repair
import Gazette.Proofs.Json.Grammar
import Gazette.Proofs.Json.Spelling
import Gazette.Proofs.Json.Skip
import Gazette.Proofs.Json.Exact
import Gazette.Proofs.Json.Members
import Gazette.Proofs.Cache.Members
import Gazette.Proofs.Article.Count
import Gazette.Proofs.Database.Columns
import Gazette.Proofs.Json.Number
import Gazette.Proofs.Json.Items
import Gazette.Proofs.Article.Format
import Gazette.Proofs.Command.Layout
import Gazette.Proofs.Json.Steady
import Gazette.Proofs.Json.Whole
import Gazette.Proofs.Service.Damage
import Gazette.Proofs.Article.Text
import Gazette.Proofs.Cache.Lifetime
