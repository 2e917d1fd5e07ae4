import SwarmChart.Json.StringText.Lemmas
import SwarmChart.Main
import SwarmChart.Proofs.Dashboard.WellFormed
import SwarmChart.Proofs.Http.Choice
import SwarmChart.Proofs.Http.Form
import SwarmChart.Proofs.Http.Items
import SwarmChart.Proofs.Http.Selection
import SwarmChart.Proofs.Http.Spelling
import SwarmChart.Proofs.Json.Arranged
import SwarmChart.Proofs.Json.Cut
import SwarmChart.Proofs.Json.Depth
import SwarmChart.Proofs.Json.Nesting
import SwarmChart.Proofs.Json.Parts
import SwarmChart.Proofs.Json.ReadBack
import SwarmChart.Proofs.Series.Bounds
import SwarmChart.Proofs.Series.Chronology
import SwarmChart.Proofs.Series.Collapse
import SwarmChart.Proofs.Series.Completion
import SwarmChart.Proofs.Series.Recount
import SwarmChart.Proofs.Series.RegisteredCount
import SwarmChart.Proofs.Series.Rescan
import SwarmChart.Proofs.Series.Stability
import SwarmChart.Proofs.Series.Widening
import SwarmChart.Proofs.Text.Utf8
import SwarmChart.Proofs.Timestamp.RoundTrip
import SwarmChart.Proofs.Timestamp.TextOrder
import SwarmChart.Proofs.Timestamp.Zones
import SwarmChart.Proofs.Tracker.Acceptance
import SwarmChart.Proofs.Tracker.Entrywise
import SwarmChart.Proofs.Tracker.Fields
import SwarmChart.Proofs.Tracker.OtherMembers
import SwarmChart.Proofs.Tracker.TornFile
import SwarmChart.Proofs.Tracker.WrittenFile
import SwarmChart.Proofs.Window.Saturation
import SwarmChart.Timestamp.Fields.Lemmas
