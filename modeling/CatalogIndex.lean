import CatalogIndex.Attribute
import CatalogIndex.Catalog
import CatalogIndex.Dialogue
import CatalogIndex.Document
import CatalogIndex.Error
import CatalogIndex.Field
import CatalogIndex.Generation.Columns
import CatalogIndex.Generation.Engine
import CatalogIndex.Generation.Faulty
import CatalogIndex.Generation.Memory
import CatalogIndex.Generation.Pair
import CatalogIndex.Generation.Query
import CatalogIndex.Generation.QueryReader
import CatalogIndex.Generation.Segmented
import CatalogIndex.Generation.Stored
import CatalogIndex.Index.Builder
import CatalogIndex.Index.Extension
import CatalogIndex.Index.Naming
import CatalogIndex.Index.PropertyPath
import CatalogIndex.Item
import CatalogIndex.Json.Access
import CatalogIndex.Json.Decoder
import CatalogIndex.Json.Leaves
import CatalogIndex.Json.Reader
import CatalogIndex.Json.Reread
import CatalogIndex.Json.Tree
import CatalogIndex.Json.Writer
import CatalogIndex.Number.Binary64
import CatalogIndex.Number.Layout
import CatalogIndex.Number.Reading
import CatalogIndex.Number.Scaling
import CatalogIndex.Number.Shortest
import CatalogIndex.Rebuild.Call
import CatalogIndex.Rebuild.Config
import CatalogIndex.Rebuild.Phase
import CatalogIndex.Rebuild.Progress
import CatalogIndex.Rebuild.Run
import CatalogIndex.Rebuild.World
import CatalogIndex.Rehearsal.Handler
import CatalogIndex.Rehearsal.Recorder
import CatalogIndex.Rehearsal.Sauces
import CatalogIndex.Rehearsal.Scene
import CatalogIndex.Rehearsal.Script
import CatalogIndex.Rehearsal.Shown
import CatalogIndex.Rehearsal.Stage
import CatalogIndex.Rehearsal.Tagged
import CatalogIndex.Request
import CatalogIndex.Settings.Basic
import CatalogIndex.Settings.Environment
import CatalogIndex.Settings.Files
import CatalogIndex.Settings.Key
import CatalogIndex.Settings.Leaf
import CatalogIndex.Settings.Load
import CatalogIndex.Table
import CatalogIndex.Text.Blank
import CatalogIndex.Text.Cut
import CatalogIndex.Text.Letters
import CatalogIndex.Text.Numeral
import CatalogIndex.Text.Quoted
import CatalogIndex.Text.Unprintable
import CatalogIndex.Text.Words
import CatalogIndex.Time.Civil
import CatalogIndex.Time.Instant
import CatalogIndex.Time.Stamp
import CatalogIndex.Time.Timestamp
import CatalogIndex.Toml.Basic
import CatalogIndex.Toml.Document
import CatalogIndex.Toml.Scalar
import CatalogIndex.Transaction
import CatalogIndex.Value
import CatalogIndex.Proofs.Course
import CatalogIndex.Proofs.Parts
import CatalogIndex.Proofs.Stages
import CatalogIndex.Proofs.Journal
import CatalogIndex.Proofs.Tally
import CatalogIndex.Proofs.Pages
import CatalogIndex.Proofs.Account
import CatalogIndex.Proofs.Endings
import CatalogIndex.Proofs.Within
import CatalogIndex.Proofs.Following
import CatalogIndex.Proofs.Serving
import CatalogIndex.Proofs.Protocol
import CatalogIndex.Proofs.Backing
import CatalogIndex.Proofs.Leftovers
import CatalogIndex.Proofs.Readers
import CatalogIndex.Proofs.Identity
import CatalogIndex.Proofs.Faultless
import CatalogIndex.Proofs.Outcome
import CatalogIndex.Proofs.Contents
import CatalogIndex.Proofs.Complete
import CatalogIndex.Proofs.Consulting
import CatalogIndex.Proofs.Failures
import CatalogIndex.Proofs.FirstFailure
import CatalogIndex.Proofs.Paging
import CatalogIndex.Proofs.Turns
import CatalogIndex.Proofs.Transactions
import CatalogIndex.Proofs.Attempts
import CatalogIndex.Proofs.Passage
import CatalogIndex.Proofs.Ambient
import CatalogIndex.Proofs.OnDisk
import CatalogIndex.Proofs.Acceptance
import CatalogIndex.Proofs.Reports
import CatalogIndex.Proofs.Visits
import CatalogIndex.Proofs.Checks
import CatalogIndex.Proofs.Cancellation
import CatalogIndex.Proofs.Contributions
import CatalogIndex.Proofs.Reopening
import CatalogIndex.Proofs.Calendar
import CatalogIndex.Proofs.Numerals
import CatalogIndex.Proofs.Stamps
import CatalogIndex.Proofs.Timestamps
import CatalogIndex.Proofs.JsonText
import CatalogIndex.Proofs.Decoders
import CatalogIndex.Proofs.Magnitudes
import CatalogIndex.Proofs.JsonRead
import CatalogIndex.Proofs.Shown
import CatalogIndex.Proofs.Codec
import CatalogIndex.Proofs.Restored
import CatalogIndex.Proofs.Ancestry
import CatalogIndex.Proofs.PathGrammar
import CatalogIndex.Proofs.Addresses
import CatalogIndex.Proofs.Localized
import CatalogIndex.Proofs.Interchange
import CatalogIndex.Proofs.Deletions
import CatalogIndex.Proofs.LastWriter
import CatalogIndex.Proofs.Batches
import CatalogIndex.Proofs.Ordered
import CatalogIndex.Proofs.EnvironmentTexts
import CatalogIndex.Proofs.Rounds
import CatalogIndex.Proofs.FieldNames
import CatalogIndex.Proofs.Separation
