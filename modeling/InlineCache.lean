import InlineCache.Limits.Environment
import InlineCache.History
import InlineCache.Proofs.Shape.Publication
import InlineCache.Proofs.Shape.Slots
import InlineCache.Proofs.Store.Slots
import InlineCache.Proofs.Store.Writing
import InlineCache.Proofs.World.Frame
import InlineCache.Proofs.World.Sound
import InlineCache.Proofs.World.Writing
import InlineCache.Proofs.World.Lineage
import InlineCache.Proofs.Session.Growth
import InlineCache.Proofs.Resolution.Persistence
import InlineCache.Proofs.Session.Transparency
import InlineCache.Proofs.Session.Tokens
import InlineCache.Proofs.Session.Ledgers
import InlineCache.Proofs.Guard.Verdict
import InlineCache.Proofs.Site.Reading
import InlineCache.Proofs.Session.Sites
import InlineCache.Proofs.Session.Entries
import InlineCache.Proofs.Session.Chains
import InlineCache.Proofs.Session.Outcomes
import InlineCache.Proofs.Session.Forest
import InlineCache.Proofs.Session.Layouts
import InlineCache.Proofs.Session.Accounts
import InlineCache.Proofs.Session.Retention
import InlineCache.Proofs.Session.Convergence
import InlineCache.Proofs.Site.Erasure
import InlineCache.Proofs.Session.Indifference
import InlineCache.Proofs.Session.Tables
import InlineCache.Proofs.Session.Isolation
import InlineCache.Proofs.Site.Replay
import InlineCache.Proofs.Session.Replay
import InlineCache.Proofs.Session.DeadEntries
import InlineCache.Proofs.Session.Aggregates
import InlineCache.Proofs.Session.Failures
import InlineCache.Proofs.Session.Nearest
import InlineCache.Proofs.Session.Defects
import InlineCache.Proofs.Session.Probes
import InlineCache.Proofs.Store.Checked
import InlineCache.Proofs.Session.Stores
import InlineCache.Proofs.Store.Progress
import InlineCache.Proofs.Session.Progress
import InlineCache.Proofs.Shape.Numbering
import InlineCache.Proofs.Session.Additions
import InlineCache.Proofs.Shape.Widening
import InlineCache.Proofs.Session.Widening
import InlineCache.Proofs.Limits.Spelling
import InlineCache.Proofs.Limits.Environment
import InlineCache.Proofs.Shape.Counting
import InlineCache.Proofs.Store.Retracing
import InlineCache.Proofs.Session.Registries
import InlineCache.Proofs.Site.Links
import InlineCache.Proofs.Site.Loop
import InlineCache.Proofs.Session.Walks
import InlineCache.Proofs.Site.LinkedRead
import InlineCache.Proofs.Session.LinkedChains
