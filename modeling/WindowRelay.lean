import WindowRelay.Clipboard.Clip
import WindowRelay.Clipboard.Report
import WindowRelay.Config.Basic
import WindowRelay.Config.Reader
import WindowRelay.Geometry.Layout
import WindowRelay.Geometry.Rect
import WindowRelay.Input.Action
import WindowRelay.Input.Composition
import WindowRelay.Input.Gamepads
import WindowRelay.Input.Gesture
import WindowRelay.Input.Router
import WindowRelay.Input.Sample
import WindowRelay.Input.Source
import WindowRelay.Json.Basic
import WindowRelay.Json.Printer
import WindowRelay.Json.Reader
import WindowRelay.Main
import WindowRelay.Message.Call
import WindowRelay.Message.Environment
import WindowRelay.Message.Inbound
import WindowRelay.Message.Interruption
import WindowRelay.Notice
import WindowRelay.Numeric.Binary32
import WindowRelay.Numeric.Coordinate
import WindowRelay.Numeric.Decimal
import WindowRelay.Numeric.Rounding
import WindowRelay.Proofs.Outcome
import WindowRelay.Proofs.Stacking.Alignment
import WindowRelay.Proofs.Stacking.Arrangement
import WindowRelay.Proofs.Tree.Forest
import WindowRelay.Proofs.Tree.Lifetime
import WindowRelay.Proofs.Tree.Links
import WindowRelay.Proofs.Tree.Outline
import WindowRelay.Proofs.Tree.Position
import WindowRelay.Proofs.Tree.Reparent
import WindowRelay.Proofs.Tree.Teardown
import WindowRelay.Scene.Basic
import WindowRelay.Scene.Command
import WindowRelay.Scene.View
import WindowRelay.Session.Basic
import WindowRelay.Session.Dispatch
import WindowRelay.Session.Relay
import WindowRelay.Session.Service
import WindowRelay.Startup.Gate
import WindowRelay.Text.Ascii
import WindowRelay.Text.Blank
import WindowRelay.Text.Lossy
import WindowRelay.Toml.Basic
import WindowRelay.Toml.Quoted
import WindowRelay.Toml.Reader
import WindowRelay.Toml.Scalar
import WindowRelay.Tree.Attributes
import WindowRelay.Tree.Basic
import WindowRelay.Tree.Change
import WindowRelay.Tree.Event
import WindowRelay.Tree.Lifetime
import WindowRelay.Tree.Position
import WindowRelay.Tree.Reparent
import WindowRelay.Tree.Stacking
import WindowRelay.Tree.Views
import WindowRelay.Window.Error
import WindowRelay.Window.Flags
import WindowRelay.Window.Icon
import WindowRelay.Window.Id
import WindowRelay.Window.Node
import WindowRelay.Window.Surface
import WindowRelay.Window.Table
import WindowRelay.Wire.Call
import WindowRelay.Wire.Frame
import WindowRelay.Wire.Inbound
import WindowRelay.Wire.Peer
import WindowRelay.Wire.Record
import WindowRelay.Wire.Sample
import WindowRelay.Wire.Value
import WindowRelay.Proofs.Scene.Stack
import WindowRelay.Proofs.Scene.Containers
import WindowRelay.Proofs.Tree.Attributes
import WindowRelay.Proofs.Tree.Evolution
import WindowRelay.Proofs.Tree.Records
import WindowRelay.Proofs.Desk.Runs
import WindowRelay.Proofs.Stacking.Bands
import WindowRelay.Proofs.Desk.Structure
import WindowRelay.Proofs.Desk.DesktopOrder
import WindowRelay.Proofs.Desk.Mounting
import WindowRelay.Proofs.Desk.Views
import WindowRelay.Proofs.Desk.Agreement
import WindowRelay.Proofs.Desk.Lifetime
import WindowRelay.Proofs.Desk.Moves
import WindowRelay.Proofs.Desk.Placements
import WindowRelay.Proofs.Desk.Containers
import WindowRelay.Proofs.Tree.Surfaces
import WindowRelay.Proofs.Desk.Surfaces
import WindowRelay.Proofs.Scene.Titles
import WindowRelay.Proofs.Tree.Titles
import WindowRelay.Proofs.Desk.Titles
import WindowRelay.Proofs.Session.Runs
import WindowRelay.Proofs.Session.Gestures
import WindowRelay.Proofs.Geometry.Layout
import WindowRelay.Proofs.Tree.Layouts
import WindowRelay.Proofs.Input.Router
import WindowRelay.Proofs.Session.Safety
import WindowRelay.Proofs.Startup.Gate
import WindowRelay.Proofs.Tree.Calls
import WindowRelay.Proofs.Session.Calls
import WindowRelay.Proofs.Session.Schedules
import WindowRelay.Proofs.Numeric.Binary32
import WindowRelay.Proofs.Json.Numbers
import WindowRelay.Proofs.Json.Strings
import WindowRelay.Proofs.Json.Reading
import WindowRelay.Proofs.Json.Sizes
import WindowRelay.Proofs.Wire.Record
import WindowRelay.Proofs.Wire.Values
import WindowRelay.Proofs.Wire.Calls
import WindowRelay.Proofs.Wire.Frame
import WindowRelay.Proofs.Wire.Messages
import WindowRelay.Proofs.Wire.Axes
import WindowRelay.Proofs.Session.Frames
import WindowRelay.Proofs.Scene.Faces
import WindowRelay.Proofs.Tree.Portraits
import WindowRelay.Proofs.Desk.Faces
import WindowRelay.Proofs.Desk.Spares
import WindowRelay.Proofs.Desk.Turns
import WindowRelay.Proofs.Desk.Histories
import WindowRelay.Proofs.Desk.Layouts
import WindowRelay.Proofs.Desk.ClientLayouts
import WindowRelay.Proofs.Desk.Contents
import WindowRelay.Proofs.Session.Occurrences
import WindowRelay.Proofs.Session.Startup
import WindowRelay.Proofs.Tree.Refusals
import WindowRelay.Proofs.Desk.Stepwise
import WindowRelay.Proofs.Desk.Refusals
import WindowRelay.Proofs.Since
import WindowRelay.Proofs.Tree.Stations
import WindowRelay.Proofs.Desk.MessageWindow
import WindowRelay.Proofs.Session.Agreement
import WindowRelay.Proofs.Session.Desktop
import WindowRelay.Proofs.Session.AbsentWindow
import WindowRelay.Proofs.Scene.Views
import WindowRelay.Proofs.Scene.Hiding
import WindowRelay.Proofs.Tree.Commands
import WindowRelay.Proofs.Desk.Hiding
import WindowRelay.Proofs.Session.Background
import WindowRelay.Proofs.Tree.Subtree
import WindowRelay.Proofs.Tree.Removal
import WindowRelay.Proofs.Desk.Removal
import WindowRelay.Proofs.Tree.Transfers
import WindowRelay.Proofs.Desk.Transfers
import WindowRelay.Proofs.Tree.Repositions
import WindowRelay.Proofs.Desk.Repositions
import WindowRelay.Proofs.Stacking.Directives
import WindowRelay.Proofs.Tree.Restacking
import WindowRelay.Proofs.Input.Runs
import WindowRelay.Proofs.Input.Scrolling
import WindowRelay.Proofs.Wire.Peer
import WindowRelay.Proofs.Scene.Realignment
import WindowRelay.Proofs.Scene.Operations
import WindowRelay.Proofs.Clipboard.Report
import WindowRelay.Proofs.Session.Clipboard
import WindowRelay.Proofs.Input.Gamepads
import WindowRelay.Proofs.Scene.Ranks
import WindowRelay.Proofs.Tree.Walks
import WindowRelay.Proofs.Desk.Walks
