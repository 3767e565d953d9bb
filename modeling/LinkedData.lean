import LinkedData.Build
import LinkedData.Main
import LinkedData.Template
import LinkedData.Proofs.Document.Removal
import LinkedData.Proofs.Json.RoundTrip
import LinkedData.Proofs.Numeric.Notation
import LinkedData.Proofs.Page.Injection
import LinkedData.Proofs.Resolver.Guard
import LinkedData.Proofs.Resolver.Survivors
import LinkedData.Proofs.Template
import LinkedData.Proofs.Json.Obstacle
import LinkedData.Proofs.Page.Failure
import LinkedData.Proofs.Page.Batch
import LinkedData.Proofs.Page.Resolution
import LinkedData.Proofs.Page.Phases
import LinkedData.Proofs.Calendar.Range
import LinkedData.Proofs.Calendar.Timestamp
import LinkedData.Proofs.Lookup
import LinkedData.Proofs.Resolver.Failure
import LinkedData.Proofs.Build.Failure
import LinkedData.Proofs.Build.Schedule
import LinkedData.Proofs.Page.Rerun
import LinkedData.Proofs.Site.Inside
import LinkedData.Proofs.Site.Canonical
import LinkedData.Proofs.Site.Stability
import LinkedData.Proofs.Page.Markup
import LinkedData.Proofs.Reference
import LinkedData.Proofs.Resolver.Cycle
import LinkedData.Proofs.Settings.Precedence
import LinkedData.Proofs.CommandLine.Effects
import LinkedData.Proofs.Text.Terminal
import LinkedData.Proofs.CommandLine.Agreement
import LinkedData.Proofs.Resolver.Limit
import LinkedData.Proofs.Resolver.Locality
import LinkedData.Proofs.Resolver.Transparency
import LinkedData.Proofs.Resolver.Path
import LinkedData.Proofs.Value.Reordering
import LinkedData.Proofs.Resolver.Reordering
import LinkedData.Proofs.Resolver.Extension
import LinkedData.Proofs.Lookup.Chain
import LinkedData.Proofs.Reference.Spelling
import LinkedData.Proofs.Filter.Duration
import LinkedData.Proofs.Value.Merge
import LinkedData.Proofs.Wrapping.Leading
import LinkedData.Proofs.Resolver.Fixed
import LinkedData.Proofs.Resolver.Null
import LinkedData.Proofs.Resolver.Cache
import LinkedData.Proofs.LogLevel
