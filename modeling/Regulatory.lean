import Regulatory.Text.WhiteSpace
import Regulatory.Text.Printable
import Regulatory.Text.Quoted
import Regulatory.Text.Utf8
import Regulatory.Json
import Regulatory.CountryCode
import Regulatory.Error
import Regulatory.Request
import Regulatory.Log
import Regulatory.Registry
import Regulatory.Environment
import Regulatory.Controller.Basic
import Regulatory.Controller.Push
import Regulatory.Controller.Operation
import Regulatory.Snapshot
import Regulatory.Fleet
import Regulatory.Scenario.Controller
import Regulatory.EventLoop
import Regulatory.Scenario.Registry
import Regulatory.Scenario.Session
import Regulatory.Number.Binary64
import Regulatory.Toml.Value
import Regulatory.Toml.Text
import Regulatory.Toml.Scalar
import Regulatory.Toml.Table
import Regulatory.Toml.Statement
import Regulatory.Toml.Document
import Regulatory.Config.Basic
import Regulatory.Config.Decode
import Regulatory.Config.Load
import Regulatory.Command
import Regulatory.Arguments
import Regulatory.Daemon
import Regulatory.Main
import Regulatory.Proofs.Registry
import Regulatory.Proofs.Controller.Push
import Regulatory.Proofs.Controller.Stage
import Regulatory.Proofs.Controller.History
import Regulatory.Proofs.Controller.PushTrace
import Regulatory.Proofs.Controller.Coherence
import Regulatory.Proofs.Controller.Clock
import Regulatory.Proofs.EventLoop.History
import Regulatory.Proofs.EventLoop.Stretch
import Regulatory.Proofs.EventLoop.Linearization
import Regulatory.Proofs.EventLoop.Shutdown
import Regulatory.Proofs.Controller.Panic
import Regulatory.Proofs.Controller.Notification
import Regulatory.Proofs.Controller.Starvation
import Regulatory.Proofs.Controller.Telephony
import Regulatory.Proofs.Controller.Deferral
import Regulatory.Proofs.Controller.Isolation
import Regulatory.Proofs.Daemon.Lines
import Regulatory.Proofs.Daemon.Serving
import Regulatory.Proofs.Daemon.Session
import Regulatory.Proofs.Daemon.Configuration
import Regulatory.Proofs.Daemon.Output
import Regulatory.Proofs.Daemon.Exit
import Regulatory.Proofs.Daemon.Framing
import Regulatory.Proofs.Controller.Audit
import Regulatory.Proofs.Controller.LiveRegistry
import Regulatory.Proofs.Controller.Keeping
import Regulatory.Proofs.Snapshot.Text
import Regulatory.Proofs.Controller.Probing
import Regulatory.Proofs.Controller.Wording
import Regulatory.Proofs.Text.WhiteSpace
import Regulatory.Proofs.Command
import Regulatory.Proofs.Config.Restated
