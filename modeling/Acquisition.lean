import Acquisition.Bench.Answer
import Acquisition.Bench.Boards
import Acquisition.Bench.Bridges
import Acquisition.Bench.Buffers
import Acquisition.Bench.Configs
import Acquisition.Bench.Drivers
import Acquisition.Bench.Expanders
import Acquisition.Bench.Hosts
import Acquisition.Bench.Memories
import Acquisition.Bench.Reading
import Acquisition.Bench.Registers
import Acquisition.Bench.Request
import Acquisition.Bench.Resampling
import Acquisition.Bench.Samplers
import Acquisition.Bench.Serve
import Acquisition.Bench.Sessions
import Acquisition.Bench.Sinks
import Acquisition.Bench.Steps
import Acquisition.Bench.Telemetry
import Acquisition.Bench.Terminal
import Acquisition.Bench.Workshop
import Acquisition.Board.Basic
import Acquisition.Board.Events
import Acquisition.Board.Link
import Acquisition.Board.Store
import Acquisition.Bridge
import Acquisition.Bus
import Acquisition.Cli.Command
import Acquisition.Cli.Dispatch
import Acquisition.Cli.Flag
import Acquisition.CommandTree.Command
import Acquisition.CommandTree.Completion
import Acquisition.CommandTree.Execute
import Acquisition.CommandTree.Flag
import Acquisition.CommandTree.Help
import Acquisition.Config.Apply
import Acquisition.Config.Basic
import Acquisition.Config.File
import Acquisition.Decimal.Fixed
import Acquisition.Decimal.Literal
import Acquisition.Decimal.Notation
import Acquisition.Decimal.Shortest
import Acquisition.Driver.Basic
import Acquisition.Driver.Burst
import Acquisition.Driver.Fleet
import Acquisition.Driver.Options
import Acquisition.Driver.Threads
import Acquisition.Duration
import Acquisition.Eeprom.Header
import Acquisition.Eeprom.I2cMemory
import Acquisition.Eeprom.SpiMemory
import Acquisition.Effect
import Acquisition.Expander
import Acquisition.Fault
import Acquisition.FileTable
import Acquisition.Host
import Acquisition.Main
import Acquisition.Metrics
import Acquisition.Proofs.Effect
import Acquisition.Proofs.Config.Acceptance
import Acquisition.Proofs.Driver.Bursts
import Acquisition.Proofs.Driver.Buttons
import Acquisition.Proofs.Driver.Calls
import Acquisition.Proofs.Driver.Configuration
import Acquisition.Proofs.Driver.Counters
import Acquisition.Proofs.Driver.Discipline
import Acquisition.Proofs.Driver.Drops
import Acquisition.Proofs.Driver.Exchange
import Acquisition.Proofs.Driver.Lifecycle
import Acquisition.Proofs.Driver.Pipeline
import Acquisition.Proofs.Driver.Replies
import Acquisition.Proofs.Driver.Sessions
import Acquisition.Proofs.Driver.Teardown
import Acquisition.Proofs.Eeprom.Chunks
import Acquisition.Proofs.Eeprom.Header
import Acquisition.Proofs.Eeprom.Paging
import Acquisition.Proofs.Expander.Caches
import Acquisition.Proofs.Expander.Retries
import Acquisition.Proofs.KeyedList
import Acquisition.Proofs.Queue.Fifo
import Acquisition.Proofs.Queue.Handoff
import Acquisition.Proofs.Sample.Batches
import Acquisition.Proofs.Sample.Bounds
import Acquisition.Proofs.ShiftRegister.Pins
import Acquisition.Proofs.ShiftRegister.Serial
import Acquisition.Proofs.Board.Framing
import Acquisition.Proofs.Board.Settings
import Acquisition.Proofs.Bridge.Reports
import Acquisition.Proofs.Sample.Reading
import Acquisition.Proofs.Sample.Reference
import Acquisition.Proofs.Session.Exclusion
import Acquisition.Proofs.Tool.Register
import Acquisition.Queue.Ring
import Acquisition.Queue.Threads
import Acquisition.Sample.Batch
import Acquisition.Sample.Calibration
import Acquisition.Sample.Mode
import Acquisition.Sample.Reader
import Acquisition.Sample.Resampler
import Acquisition.Sample.SineSource
import Acquisition.Sample.Stream
import Acquisition.Session.LockFile
import Acquisition.Session.Registry
import Acquisition.ShiftRegister.Arena
import Acquisition.ShiftRegister.Dms
import Acquisition.Sim.Eeproms
import Acquisition.Sim.ExpanderChip
import Acquisition.Sim.Hid
import Acquisition.Sim.Injection
import Acquisition.Sim.Lines
import Acquisition.Sim.Machine
import Acquisition.Sim.Mcu
import Acquisition.Sim.Pin
import Acquisition.Sim.Scripted
import Acquisition.Sim.Station
import Acquisition.Sim.Stream
import Acquisition.Sink.Basic
import Acquisition.Sink.Console
import Acquisition.Sink.Mqtt
import Acquisition.Sink.Summary
import Acquisition.Sink.Wave
import Acquisition.Text.Base64
import Acquisition.Text.Blank
import Acquisition.Text.Case
import Acquisition.Text.Columns
import Acquisition.Text.Distance
import Acquisition.Text.Duration
import Acquisition.Text.Graphic
import Acquisition.Text.Integer
import Acquisition.Text.Json
import Acquisition.Text.Json.Reader
import Acquisition.Text.Path
import Acquisition.Text.Quoted
import Acquisition.Text.Utf8
import Acquisition.Text.Yaml.Decode
import Acquisition.Text.Yaml.Document
import Acquisition.Text.Yaml.Emit
import Acquisition.Text.Yaml.Event
import Acquisition.Text.Yaml.Resolve
import Acquisition.Text.Yaml.Scanner
import Acquisition.Text.Yaml.Scanner.Basic
import Acquisition.Text.Yaml.Scanner.Property
import Acquisition.Text.Yaml.Scanner.Scalar
import Acquisition.Text.Yaml.Token
import Acquisition.Tool.App
import Acquisition.Tool.Bridge
import Acquisition.Tool.Expansion
import Acquisition.Tool.Invocation
import Acquisition.Tool.Memory
import Acquisition.Tool.Record
import Acquisition.Tool.Register
import Acquisition.Tool.Run
import Acquisition.Tool.Settings
import Acquisition.Tool.Station
import Acquisition.Tool.World
import Acquisition.Wave.Sine
import Acquisition.Workshop.Commands
import Acquisition.Workshop.Tasks
