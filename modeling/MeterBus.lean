import MeterBus.Octets
import MeterBus.Link
import MeterBus.Frame
import MeterBus.Frame.Wire
import MeterBus.Frame.Progress
import MeterBus.Frame.Reading
import MeterBus.Rate
import MeterBus.Fault
import MeterBus.Log
import MeterBus.Adapter
import MeterBus.Hooks
import MeterBus.Decoder
import MeterBus.Reception
import MeterBus.Station
import MeterBus.Probe
import MeterBus.Session
import MeterBus.Config.Token
import MeterBus.Config.Reader
import MeterBus.Config
import MeterBus.Refusal
import MeterBus.Arguments
import MeterBus.Tool
import MeterBus.Main
import MeterBus.Proofs.Frame.Completion
import MeterBus.Proofs.Frame.RoundTrip
import MeterBus.Proofs.Line.Items
import MeterBus.Proofs.Reception.Loop
import MeterBus.Proofs.Observers
import MeterBus.Proofs.Reception.Verdict
import MeterBus.Proofs.Reception.Pieces
import MeterBus.Proofs.Reception.Sound
import MeterBus.Proofs.Reception.Stream
import MeterBus.Proofs.Frame.Acceptance
import MeterBus.Proofs.Frame.Walk
import MeterBus.Proofs.Frame.Viability
import MeterBus.Proofs.Line.History
import MeterBus.Proofs.Session.Connection
import MeterBus.Proofs.Reception.Takings
import MeterBus.Proofs.Reception.Bounds
import MeterBus.Proofs.Reception.Closing
import MeterBus.Proofs.Station.Operations
import MeterBus.Proofs.Probe.Paths
import MeterBus.Proofs.Frame.Alteration
import MeterBus.Proofs.Frame.Detection
import MeterBus.Proofs.Reception.Recovery
import MeterBus.Proofs.Probe.Recovery
import MeterBus.Proofs.Reception.Misread
import MeterBus.Proofs.Session.Transmission
import MeterBus.Proofs.Session.Observation
import MeterBus.Proofs.Session.Sides
import MeterBus.Proofs.Station.Changes
import MeterBus.Proofs.Session.Closed
import MeterBus.Proofs.Config.Spelling
import MeterBus.Proofs.Config.Scanning
import MeterBus.Proofs.Config.Values
import MeterBus.Proofs.Config.Settings
import MeterBus.Proofs.Config.Texts
import MeterBus.Proofs.Frame.Encoding
import MeterBus.Proofs.Frame.Flaws
import MeterBus.Proofs.Config.Numerals
import MeterBus.Proofs.Config.Unsupported
import MeterBus.Proofs.Tool.Effective
import MeterBus.Proofs.Dump
import MeterBus.Proofs.Frame.Checked
import MeterBus.Proofs.Line.Script
