import Handheld.Main
import Handheld.Proofs.Atlas.Rasterize
import Handheld.Proofs.Breakout.Wall
import Handheld.Proofs.CommandLine.FastRun
import Handheld.Proofs.CommandLine.WrittenInput
import Handheld.Proofs.Compositor.Bars
import Handheld.Proofs.Compositor.Bounds
import Handheld.Proofs.Compositor.Layers
import Handheld.Proofs.Compositor.Overlay
import Handheld.Proofs.Compositor.Screen
import Handheld.Proofs.Deferred.Fate
import Handheld.Proofs.Definition.Assembly
import Handheld.Proofs.Display.Storage
import Handheld.Proofs.Frame.Grouped
import Handheld.Proofs.Frame.Shapes
import Handheld.Proofs.Frame.Succession
import Handheld.Proofs.Number.Fraction
import Handheld.Proofs.Number.Whole
import Handheld.Proofs.Palette.Colors
import Handheld.Proofs.Sandbox.Faults
import Handheld.Proofs.Sandbox.Lifecycle
import Handheld.Proofs.Sandbox.Realm
import Handheld.Proofs.Scheduler.Delta
import Handheld.Proofs.Scheduler.Measurement
import Handheld.Proofs.Scheduler.Overlap
import Handheld.Proofs.Scheduler.Planning
import Handheld.Proofs.Scheduler.Spacing
import Handheld.Proofs.Session.Books
import Handheld.Proofs.Session.Coherence
import Handheld.Proofs.Session.Core
import Handheld.Proofs.Session.Disposal
import Handheld.Proofs.Session.Effects
import Handheld.Proofs.Session.Faults
import Handheld.Proofs.Session.Freeze
import Handheld.Proofs.Session.FreshStart
import Handheld.Proofs.Session.History
import Handheld.Proofs.Session.HookCalls
import Handheld.Proofs.Session.HookFrames
import Handheld.Proofs.Session.LastFrame
import Handheld.Proofs.Session.Lockstep
import Handheld.Proofs.Session.PauseMark
import Handheld.Proofs.Session.Pauser
import Handheld.Proofs.Session.Poll
import Handheld.Proofs.Session.Promises
import Handheld.Proofs.Session.Replay
import Handheld.Proofs.Session.Reports
import Handheld.Proofs.Session.Restore
import Handheld.Proofs.Session.Snapshots
import Handheld.Proofs.Session.Swap
import Handheld.Proofs.Session.Ticks
import Handheld.Proofs.Sprite.Encoding
import Handheld.Proofs.Sprite.Malformed
import Handheld.Proofs.Timing.Statistics
import Handheld.Record
