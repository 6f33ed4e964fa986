import Captioning.ClockTime
import Captioning.CommandLine
import Captioning.Compositing.Blending
import Captioning.Compositing.Composition
import Captioning.Compositing.Outcome
import Captioning.Compositing.Placement
import Captioning.Compositing.Shading
import Captioning.Config.Basic
import Captioning.Config.Json
import Captioning.Config.Rule
import Captioning.Decimal.Numeral
import Captioning.Decimal.Reading
import Captioning.Decimal.Shortest
import Captioning.Dyadic
import Captioning.Error
import Captioning.Json.Decode
import Captioning.Json.Reader
import Captioning.Json.Value
import Captioning.Main
import Captioning.Overlay.Basic
import Captioning.Overlay.Flow
import Captioning.Overlay.Overflow
import Captioning.Overlay.Pairing
import Captioning.Overlay.Scheduling
import Captioning.Overlay.Session
import Captioning.Proofs.CommandLine.Arguments
import Captioning.Proofs.CommandLine.Printing
import Captioning.Proofs.Compositing.Accesses
import Captioning.Proofs.Compositing.Blending
import Captioning.Proofs.Compositing.Coverage
import Captioning.Proofs.Compositing.Filling
import Captioning.Proofs.Compositing.Placement
import Captioning.Proofs.Compositing.SampleAddresses
import Captioning.Proofs.Compositing.Shading
import Captioning.Proofs.Compositing.SharedSamples
import Captioning.Proofs.Compositing.Uniform
import Captioning.Proofs.Config.Decoding
import Captioning.Proofs.Config.Parsing
import Captioning.Proofs.Config.WrapWidth
import Captioning.Proofs.Decimal.Digits
import Captioning.Proofs.Decimal.Fractions
import Captioning.Proofs.Decimal.Layouts
import Captioning.Proofs.Decimal.Numerals
import Captioning.Proofs.Json.Fields
import Captioning.Proofs.Json.Reading
import Captioning.Proofs.Json.Scanning
import Captioning.Proofs.Json.Spelling
import Captioning.Proofs.Overlay.Admitting
import Captioning.Proofs.Overlay.Delaying
import Captioning.Proofs.Overlay.Deliberation
import Captioning.Proofs.Overlay.Looking
import Captioning.Proofs.Overlay.Overflowing
import Captioning.Proofs.Render.BlankRows
import Captioning.Proofs.Render.CellSizes
import Captioning.Proofs.Render.Depiction
import Captioning.Proofs.Render.Drawing
import Captioning.Proofs.Render.Glyphs
import Captioning.Proofs.Render.Painting
import Captioning.Proofs.Render.Pixels
import Captioning.Proofs.Render.Transparency
import Captioning.Proofs.Render.Turning
import Captioning.Proofs.Render.Wrapping
import Captioning.Proofs.Scenario.Completing
import Captioning.Proofs.Scenario.Reaching
import Captioning.Proofs.Scenario.Reloading
import Captioning.Proofs.Segment.Clipping
import Captioning.Proofs.Segment.Ends
import Captioning.Proofs.Segment.Instants
import Captioning.Proofs.Segment.Running
import Captioning.Proofs.Segment.Whole
import Captioning.Proofs.Session.Attaching
import Captioning.Proofs.Session.Billing
import Captioning.Proofs.Session.Broadcasting
import Captioning.Proofs.Session.Caching
import Captioning.Proofs.Session.Calls
import Captioning.Proofs.Session.Captions
import Captioning.Proofs.Session.Closing
import Captioning.Proofs.Session.Custody
import Captioning.Proofs.Session.Cutting
import Captioning.Proofs.Session.Delaying
import Captioning.Proofs.Session.Deliberating
import Captioning.Proofs.Session.Erasing
import Captioning.Proofs.Session.Failing
import Captioning.Proofs.Session.Gaps
import Captioning.Proofs.Session.Halting
import Captioning.Proofs.Session.Inking
import Captioning.Proofs.Session.Interleaving
import Captioning.Proofs.Session.Outlines
import Captioning.Proofs.Session.Overflowing
import Captioning.Proofs.Session.Patience
import Captioning.Proofs.Session.Playing
import Captioning.Proofs.Session.Reconfiguring
import Captioning.Proofs.Session.Screening
import Captioning.Proofs.Session.Segmented
import Captioning.Proofs.Session.Segments
import Captioning.Proofs.Session.Settings
import Captioning.Proofs.Session.Stages
import Captioning.Proofs.Session.Stepping
import Captioning.Proofs.Session.Timing
import Captioning.Proofs.Session.Tracking
import Captioning.Proofs.Session.Treatment
import Captioning.Proofs.Session.Unattended
import Captioning.Proofs.Session.Waiting
import Captioning.Proofs.Text.Clock
import Captioning.Proofs.Text.Encoding
import Captioning.Proofs.Text.Escaping
import Captioning.Proofs.Text.Repairing
import Captioning.Proofs.Text.Showing
import Captioning.Proofs.Text.Verbatim
import Captioning.Proofs.Video.Addresses
import Captioning.Proofs.Video.Colors
import Captioning.Proofs.Video.Edits
import Captioning.Proofs.Video.Grids
import Captioning.Proofs.Video.Samples
import Captioning.Render.BlockGlyphs
import Captioning.Render.Cache
import Captioning.Render.Metrics
import Captioning.Render.Raster
import Captioning.Render.Rasterizer
import Captioning.Render.Style
import Captioning.Render.Wrap
import Captioning.Scenario.Basic
import Captioning.Scenario.Json
import Captioning.Scenario.Play
import Captioning.Segment.Basic
import Captioning.Segment.Json
import Captioning.Stream
import Captioning.Text.Blank
import Captioning.Text.Markup
import Captioning.Text.Payload
import Captioning.Text.Provider
import Captioning.Text.Utf8
import Captioning.Video.Color
import Captioning.Video.Format
import Captioning.Video.Frame
import Captioning.Video.Info
import Captioning.Width
