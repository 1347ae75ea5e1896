import ComputeMonitor.Calendar.Date
import ComputeMonitor.Calendar.Moment
import ComputeMonitor.Calendar.Timestamp
import ComputeMonitor.Cell.Order
import ComputeMonitor.Cell.Text
import ComputeMonitor.Client.Decoding
import ComputeMonitor.Client.Document
import ComputeMonitor.Client.Fingerprint
import ComputeMonitor.Client.Item
import ComputeMonitor.Client.Tables
import ComputeMonitor.Client.ViewKind
import ComputeMonitor.Client.Views
import ComputeMonitor.Config.Configuration
import ComputeMonitor.Config.Duration
import ComputeMonitor.Config.Loading
import ComputeMonitor.Config.LogFilter
import ComputeMonitor.DocumentSource
import ComputeMonitor.DomainName.Direction
import ComputeMonitor.DomainName.Joining
import ComputeMonitor.DomainName.Mapping
import ComputeMonitor.DomainName.Mark
import ComputeMonitor.DomainName.Punycode
import ComputeMonitor.DomainName.Reading
import ComputeMonitor.Gateway.Answer
import ComputeMonitor.Gateway.Endpoint
import ComputeMonitor.Gateway.Host
import ComputeMonitor.Gateway.RemoteDocument
import ComputeMonitor.Gateway.ToldGateway
import ComputeMonitor.Gateway.WebAddress
import ComputeMonitor.Inspect.Client
import ComputeMonitor.Inspect.Screen
import ComputeMonitor.Inspect.Source
import ComputeMonitor.Inspect.Table
import ComputeMonitor.Json.Access
import ComputeMonitor.Json.Reader
import ComputeMonitor.Json.Record
import ComputeMonitor.Json.Value
import ComputeMonitor.Json.Writer
import ComputeMonitor.Link
import ComputeMonitor.Main
import ComputeMonitor.Number.Binary64
import ComputeMonitor.Number.Decimal
import ComputeMonitor.Number.Rounding
import ComputeMonitor.Pattern.Acceptance
import ComputeMonitor.Pattern.Atom
import ComputeMonitor.Pattern.Bracket
import ComputeMonitor.Pattern.Flags
import ComputeMonitor.Program.Arguments
import ComputeMonitor.Program.FileTree
import ComputeMonitor.Program.Launch
import ComputeMonitor.Program.Machine
import ComputeMonitor.Program.Places
import ComputeMonitor.Proofs.Calendar.Year
import ComputeMonitor.Proofs.Cell.DateTime
import ComputeMonitor.Proofs.Cell.Duration
import ComputeMonitor.Proofs.Cell.Order
import ComputeMonitor.Proofs.Cell.Scale
import ComputeMonitor.Proofs.Client.Decoding
import ComputeMonitor.Proofs.Client.EventOrder
import ComputeMonitor.Proofs.Client.MessageLog
import ComputeMonitor.Proofs.Client.Tables
import ComputeMonitor.Proofs.Config.BaseAddress
import ComputeMonitor.Proofs.Config.Duration
import ComputeMonitor.Proofs.Config.Example
import ComputeMonitor.Proofs.Gateway.FailedRefresh
import ComputeMonitor.Proofs.Gateway.LinkHistory
import ComputeMonitor.Proofs.Gateway.RemoteDocument
import ComputeMonitor.Proofs.Gateway.Replication
import ComputeMonitor.Proofs.Number.Binary64
import ComputeMonitor.Proofs.Screen.Bounds
import ComputeMonitor.Proofs.Screen.Redraw
import ComputeMonitor.Proofs.Screen.StoredLayouts
import ComputeMonitor.Proofs.Screen.Tick
import ComputeMonitor.Proofs.Settings.Bootstrap
import ComputeMonitor.Proofs.Settings.DatabasePath
import ComputeMonitor.Proofs.Settings.Store
import ComputeMonitor.Proofs.Simulation.DemoRun
import ComputeMonitor.Proofs.Simulation.Identities
import ComputeMonitor.Proofs.Table.Cache
import ComputeMonitor.Proofs.Table.CachePass
import ComputeMonitor.Proofs.Table.InPlaceSorting
import ComputeMonitor.Proofs.Table.Inside
import ComputeMonitor.Proofs.Table.LaidOut
import ComputeMonitor.Proofs.Table.Layout
import ComputeMonitor.Proofs.Table.LayoutPairs
import ComputeMonitor.Proofs.Table.Merging
import ComputeMonitor.Proofs.Table.Mirror
import ComputeMonitor.Proofs.Table.Operation
import ComputeMonitor.Proofs.Table.PollAccount
import ComputeMonitor.Proofs.Table.PollDistance
import ComputeMonitor.Proofs.Table.RepeatedFetch
import ComputeMonitor.Proofs.Table.RowOrder
import ComputeMonitor.Proofs.Table.Schedule
import ComputeMonitor.Proofs.Table.Selection
import ComputeMonitor.Proofs.Table.Sorting
import ComputeMonitor.Proofs.Table.StableOrder
import ComputeMonitor.Proofs.Table.SteadyRows
import ComputeMonitor.Proofs.Table.TiedRows
import ComputeMonitor.Proofs.Workspace.ActiveTick
import ComputeMonitor.Proofs.Workspace.Bounds
import ComputeMonitor.Proofs.Workspace.Command
import ComputeMonitor.Proofs.Workspace.LaidOut
import ComputeMonitor.Proofs.Workspace.LateTime
import ComputeMonitor.Proofs.Workspace.Mirror
import ComputeMonitor.Proofs.Workspace.Tick
import ComputeMonitor.Screen.AppState
import ComputeMonitor.Screen.Caption
import ComputeMonitor.Screen.Console
import ComputeMonitor.Screen.Frame
import ComputeMonitor.Screen.Key
import ComputeMonitor.Screen.StoredLayouts
import ComputeMonitor.Screen.TableCommand
import ComputeMonitor.Settings.Database
import ComputeMonitor.Settings.DatabasePath
import ComputeMonitor.Settings.DatabaseText
import ComputeMonitor.Settings.Store
import ComputeMonitor.Simulation.Demo
import ComputeMonitor.Simulation.FakeClient
import ComputeMonitor.Simulation.Random
import ComputeMonitor.Simulation.Script
import ComputeMonitor.Simulation.Source
import ComputeMonitor.Table.Cache
import ComputeMonitor.Table.Column
import ComputeMonitor.Table.InPlaceSorting
import ComputeMonitor.Table.Layout
import ComputeMonitor.Table.ListView
import ComputeMonitor.Table.Merging
import ComputeMonitor.Table.RowKey
import ComputeMonitor.Table.Schedule
import ComputeMonitor.Table.Schema
import ComputeMonitor.Table.Selection
import ComputeMonitor.Table.Sorting
import ComputeMonitor.Text.Blank
import ComputeMonitor.Text.CodePointOrder
import ComputeMonitor.Text.CodeTable
import ComputeMonitor.Text.CombiningClass
import ComputeMonitor.Text.Composition
import ComputeMonitor.Text.Decomposition
import ComputeMonitor.Text.Letter
import ComputeMonitor.Text.LowerCase
import ComputeMonitor.Text.Numeral
import ComputeMonitor.Text.Numeric
import ComputeMonitor.Text.Printable
import ComputeMonitor.Text.Quoted
import ComputeMonitor.Text.Utf8Slice
import ComputeMonitor.Toml.DateTime
import ComputeMonitor.Toml.Reader
import ComputeMonitor.Toml.Scalar
import ComputeMonitor.Toml.Settling
import ComputeMonitor.Toml.Value
import ComputeMonitor.Workspace
