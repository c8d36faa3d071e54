import WeblogFront.Main
import WeblogFront.Proofs.Text.Escape
import WeblogFront.Proofs.Cache.PageKey
import WeblogFront.Proofs.Cache.Store
import WeblogFront.Proofs.Render.History
import WeblogFront.Proofs.Cache.PlanetKey
import WeblogFront.Proofs.Render.Planet
import WeblogFront.Proofs.Text.Json
import WeblogFront.Proofs.Request.Lookups
import WeblogFront.Proofs.Render.Build
import WeblogFront.Proofs.Render.Outcome
import WeblogFront.Proofs.Request.Envelope
import WeblogFront.Proofs.Request.Grammar
import WeblogFront.Proofs.Request.Classified
import WeblogFront.Proofs.Render.Transparency
import WeblogFront.Proofs.Cache.Recency
import WeblogFront.Proofs.Cache.Salts
import WeblogFront.Proofs.Cache.SaltRuns
import WeblogFront.Proofs.Request.WellFormed
import WeblogFront.Proofs.Request.Addresses
import WeblogFront.Proofs.Cache.StoreTurns
import WeblogFront.Proofs.Cache.StoreRuns
import WeblogFront.Proofs.Cache.KeyLabels
import WeblogFront.Proofs.Http.Sender
import WeblogFront.Proofs.Http.Previews
import WeblogFront.Proofs.Http.Metrics
import WeblogFront.Proofs.Request.Resolution
import WeblogFront.Proofs.Render.Failures
import WeblogFront.Proofs.Program.Classification
import WeblogFront.Proofs.Cache.StoreSizes
import WeblogFront.Proofs.Cache.StoreSignals
import WeblogFront.Proofs.Cache.LockRecovery
import WeblogFront.Proofs.Render.Confinement
import WeblogFront.Proofs.Render.Timestamp
import WeblogFront.Proofs.Settings.Precedence
import WeblogFront.Proofs.Request.PathViews
import WeblogFront.Proofs.Cache.CanonicalText
import WeblogFront.Proofs.Render.SameBody
import WeblogFront.Proofs.Cache.Counters
import WeblogFront.Proofs.Request.Parts
import WeblogFront.Proofs.Settings.Faults
import WeblogFront.Proofs.Request.TagRuns
import WeblogFront.Proofs.Text.Spelling
import WeblogFront.Proofs.Http.Identifiers
import WeblogFront.Proofs.Http.Endings
