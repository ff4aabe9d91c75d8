import DocStore.Bundle.Activation
import DocStore.Bundle.Basic
import DocStore.Bundle.Error
import DocStore.Bundle.Load
import DocStore.Bundle.Manifest
import DocStore.Decimal.Binary64
import DocStore.Decimal.Notation
import DocStore.Decimal.Shortest
import DocStore.Dict
import DocStore.Duration.Basic
import DocStore.Duration.Human
import DocStore.Files.Format
import DocStore.Files.Path
import DocStore.Files.Tree
import DocStore.Json.Doc
import DocStore.Json.Printer
import DocStore.Json.Reader
import DocStore.Json.Record
import DocStore.Path
import DocStore.Plugin.Config
import DocStore.Plugin.Error
import DocStore.Plugin.Registry
import DocStore.Plugin.Rule
import DocStore.Plugin.Status
import DocStore.Plugin.Transform
import DocStore.Proofs.Bundle.Acceptance
import DocStore.Proofs.Bundle.Coverage
import DocStore.Proofs.Bundle.Installation
import DocStore.Proofs.Bundle.Loading
import DocStore.Proofs.Bundle.Ordering
import DocStore.Proofs.Bundle.Orphans
import DocStore.Proofs.Bundle.Parts
import DocStore.Proofs.Bundle.PolicyTexts
import DocStore.Proofs.Bundle.Protection
import DocStore.Proofs.Bundle.Readback
import DocStore.Proofs.Bundle.Records
import DocStore.Proofs.Bundle.Removal
import DocStore.Proofs.Bundle.Revisions
import DocStore.Proofs.Bundle.Rows
import DocStore.Proofs.Bundle.Scratch
import DocStore.Proofs.Bundle.Tips
import DocStore.Proofs.Dict
import DocStore.Proofs.Duration
import DocStore.Proofs.Fallible
import DocStore.Proofs.Files.Documents
import DocStore.Proofs.Files.Listing
import DocStore.Proofs.Files.Lookup
import DocStore.Proofs.Files.Names
import DocStore.Proofs.Path
import DocStore.Proofs.Plugin.Alike
import DocStore.Proofs.Plugin.Exactness
import DocStore.Proofs.Plugin.Rules
import DocStore.Proofs.Plugin.Validation
import DocStore.Proofs.Session.Steps
import DocStore.Proofs.Session.Visits
import DocStore.Proofs.Source.Silence
import DocStore.Proofs.Source.Tags
import DocStore.Proofs.Store.Changes
import DocStore.Proofs.Store.Clearance
import DocStore.Proofs.Store.Contents
import DocStore.Proofs.Store.Delivery
import DocStore.Proofs.Store.Effect
import DocStore.Proofs.Store.Isolation
import DocStore.Proofs.Store.Leaves
import DocStore.Proofs.Store.Lock
import DocStore.Proofs.Store.Making
import DocStore.Proofs.Store.Patching
import DocStore.Proofs.Store.Pruning
import DocStore.Proofs.Store.Removals
import DocStore.Proofs.Store.Replacement
import DocStore.Proofs.Store.Replay
import DocStore.Proofs.Store.Schedule
import DocStore.Proofs.Store.Shaping
import DocStore.Proofs.Store.Truncation
import DocStore.Proofs.Store.Waiting
import DocStore.Proofs.System.Accounts
import DocStore.Proofs.System.Agenda
import DocStore.Proofs.System.Agreement
import DocStore.Proofs.System.Batches
import DocStore.Proofs.System.Books
import DocStore.Proofs.System.Commands
import DocStore.Proofs.System.Commitments
import DocStore.Proofs.System.Courses
import DocStore.Proofs.System.Deeds
import DocStore.Proofs.System.Departure
import DocStore.Proofs.System.Failures
import DocStore.Proofs.System.Freshness
import DocStore.Proofs.System.History
import DocStore.Proofs.System.Locking
import DocStore.Proofs.System.Meanwhile
import DocStore.Proofs.System.Moves
import DocStore.Proofs.System.Overlaps
import DocStore.Proofs.System.Parties
import DocStore.Proofs.System.Passing
import DocStore.Proofs.System.Plans
import DocStore.Proofs.System.Plays
import DocStore.Proofs.System.Preparing
import DocStore.Proofs.System.Proceeding
import DocStore.Proofs.System.Reconfigure
import DocStore.Proofs.System.Refresh
import DocStore.Proofs.System.Remaining
import DocStore.Proofs.System.Removing
import DocStore.Proofs.System.Reports
import DocStore.Proofs.System.Roster
import DocStore.Proofs.System.Service
import DocStore.Proofs.System.Serving
import DocStore.Proofs.System.Sites
import DocStore.Proofs.System.Snapshots
import DocStore.Proofs.System.Sparing
import DocStore.Proofs.System.Start
import DocStore.Proofs.System.Steady
import DocStore.Proofs.System.Stopping
import DocStore.Proofs.System.Storing
import DocStore.Proofs.System.Traffic
import DocStore.Proofs.System.Watching
import DocStore.Proofs.Text.Digits
import DocStore.Proofs.Text.Pieces
import DocStore.Proofs.Tree.Directory
import DocStore.Proofs.Tree.Merge
import DocStore.Proofs.Tree.Order
import DocStore.Proofs.Tree.Overlay
import DocStore.Proofs.Tree.Patch
import DocStore.Proofs.Tree.Reach
import DocStore.Proofs.Tree.Remainder
import DocStore.Proofs.Tree.Surface
import DocStore.Session.Basic
import DocStore.Settings.Basic
import DocStore.Settings.Parts
import DocStore.Source.Feed
import DocStore.Source.File
import DocStore.Source.Http
import DocStore.Store.Basic
import DocStore.Store.Change
import DocStore.Store.Edit
import DocStore.Store.Error
import DocStore.Store.Lock
import DocStore.Store.Subtree
import DocStore.Store.Truncate
import DocStore.System.Basic
import DocStore.System.Call
import DocStore.System.Clock
import DocStore.System.Commit
import DocStore.System.Errand
import DocStore.System.Tick
import DocStore.Text.Base64
import DocStore.Text.Blank
import DocStore.Text.Digits
import DocStore.Text.Pieces
import DocStore.Toml.Reader
import DocStore.Toml.Scalar
import DocStore.Toml.Table
import DocStore.Toml.Text
import DocStore.Tree
import DocStore.Unicode.Composition
import DocStore.Unicode.Direction
import DocStore.Unicode.Joining
import DocStore.Unicode.Mark
import DocStore.Unicode.NameMapping
import DocStore.Unicode.Normal
import DocStore.Unicode.RangeTable
import DocStore.Unicode.Visible
import DocStore.Url.Basic
import DocStore.Url.Domain
import DocStore.Url.Host
import DocStore.Url.Punycode
import DocStore.Value
import DocStore.Value.Written
import DocStore.Yaml.Char
import DocStore.Yaml.Cursor
import DocStore.Yaml.Node
import DocStore.Yaml.Scalar
import DocStore.Yaml.Tag
import DocStore.Yaml.Token
import DocStore.Yaml.Token.Lexer
import DocStore.Yaml.Value
