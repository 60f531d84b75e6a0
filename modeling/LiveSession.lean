import LiveSession.Api.Basic
import LiveSession.Api.Bridge
import LiveSession.Api.Codec
import LiveSession.Api.Config
import LiveSession.Api.Doctor
import LiveSession.Api.Handle
import LiveSession.Api.Scaffold
import LiveSession.Api.Session
import LiveSession.Api.Start
import LiveSession.Api.Supervisor
import LiveSession.Api.Watch
import LiveSession.Cli.Args
import LiveSession.Cli.ConfigFile
import LiveSession.Cli.Doctor
import LiveSession.Cli.Start
import LiveSession.Compile.Event
import LiveSession.Compile.WatchConfig
import LiveSession.Compile.Watcher
import LiveSession.Config.Basic
import LiveSession.Config.Toml
import LiveSession.Context
import LiveSession.Decimal.Nearest
import LiveSession.Decimal.Shortest
import LiveSession.Error
import LiveSession.Files.Tree
import LiveSession.Files.Glob
import LiveSession.Json.Decode
import LiveSession.Json.Print
import LiveSession.Json.Read
import LiveSession.Json.Value
import LiveSession.Json5.Identifier
import LiveSession.Json5.Read
import LiveSession.Main
import LiveSession.Path
import LiveSession.Proofs.Cli.StartOrder
import LiveSession.Proofs.Compile.EventPump
import LiveSession.Proofs.Config.Reading
import LiveSession.Proofs.Config.RoundTrip
import LiveSession.Proofs.Files.GlobWalk
import LiveSession.Proofs.Files.Walk
import LiveSession.Proofs.Json.Bytes
import LiveSession.Proofs.Json.ReadScalar
import LiveSession.Proofs.Json.RoundTrip
import LiveSession.Proofs.Json5.ReadPretty
import LiveSession.Proofs.Path.Parts
import LiveSession.Proofs.Rpc.FrameRoundTrip
import LiveSession.Proofs.Scaffold.BridgeFiles
import LiveSession.Proofs.Scaffold.Discover
import LiveSession.Proofs.Scaffold.Gitignore
import LiveSession.Proofs.Scaffold.RelativeImport
import LiveSession.Proofs.Scaffold.TemplateRender
import LiveSession.Proofs.Scaffold.Tsconfig
import LiveSession.Proofs.Session.Containment
import LiveSession.Proofs.Supervisor.BridgeSlot
import LiveSession.Proofs.Supervisor.ClientRequests
import LiveSession.Proofs.Supervisor.ClientSteps
import LiveSession.Proofs.Supervisor.Coherence
import LiveSession.Proofs.Supervisor.LaunchOnce
import LiveSession.Proofs.Supervisor.MarkCoupling
import LiveSession.Proofs.Supervisor.ReloadRange
import LiveSession.Proofs.Supervisor.ReloadStatus
import LiveSession.Proofs.Supervisor.Shutdown
import LiveSession.Proofs.Supervisor.FirstAnswer
import LiveSession.Proofs.Supervisor.Loop
import LiveSession.Proofs.Toml.StringRead
import LiveSession.Proofs.Toml.DocumentRead
import LiveSession.Proofs.Toml.IntegerRange
import LiveSession.Rpc.Message
import LiveSession.Scaffold.Discover
import LiveSession.Scaffold.EnvFile
import LiveSession.Scaffold.Error
import LiveSession.Scaffold.ImportPath
import LiveSession.Scaffold.Patch
import LiveSession.Scaffold.Preflight
import LiveSession.Scaffold.Synthesis
import LiveSession.Scaffold.Template
import LiveSession.Scripted.App
import LiveSession.Scripted.Driver
import LiveSession.Session.Console
import LiveSession.Session.Repl
import LiveSession.Session.Scripted
import LiveSession.Supervisor.Bridge
import LiveSession.Supervisor.Child
import LiveSession.Supervisor.Client
import LiveSession.Supervisor.Error
import LiveSession.Supervisor.Launch
import LiveSession.Supervisor.Machine
import LiveSession.Supervisor.Output
import LiveSession.Supervisor.Reload
import LiveSession.Supervisor.Runner
import LiveSession.Text.Alphanumeric
import LiveSession.Text.Blank
import LiveSession.Text.CodeSet
import LiveSession.Text.Printable
import LiveSession.Toml.Read
import LiveSession.Toml.Value
import LiveSession.Toml.Write
