import PinballAudio.Bench.CardBench
import PinballAudio.Bench.Content
import PinballAudio.Bench.ControlBench
import PinballAudio.Bench.DacBench
import PinballAudio.Bench.FakeI2cBus
import PinballAudio.Bench.I2cRecorder
import PinballAudio.Bench.MemoryCard
import PinballAudio.Bench.RecordingDac
import PinballAudio.Bench.RecordingDelay
import PinballAudio.Bench.ScriptedLink
import PinballAudio.Bench.ScriptedTools
import PinballAudio.Bench.StreamBench
import PinballAudio.Bench.StreamSuite
import PinballAudio.Bench.TestRunner
import PinballAudio.Board
import PinballAudio.Boot
import PinballAudio.Card.Command
import PinballAudio.Card.Driver
import PinballAudio.Card.Link
import PinballAudio.Card.Simulated
import PinballAudio.Clock.Delay
import PinballAudio.Clock.Divider
import PinballAudio.Clock.SampleTimer
import PinballAudio.Control.Command
import PinballAudio.Control.Led
import PinballAudio.Dac.Mcp4725
import PinballAudio.Digest
import PinballAudio.I2c.Buffered
import PinballAudio.I2c.Transport
import PinballAudio.Image.Pack
import PinballAudio.Main
import PinballAudio.Playback.Engine
import PinballAudio.Playback.Sink
import PinballAudio.Proofs.Boot.Sequence
import PinballAudio.Proofs.Card.BringUp
import PinballAudio.Proofs.Card.Budget
import PinballAudio.Proofs.Card.Classify
import PinballAudio.Proofs.Card.Exchange
import PinballAudio.Proofs.Card.Faults
import PinballAudio.Proofs.Card.Moves
import PinballAudio.Proofs.Card.Protocol
import PinballAudio.Proofs.Card.Read
import PinballAudio.Proofs.Card.ReadFaults
import PinballAudio.Proofs.Card.Release
import PinballAudio.Proofs.Card.Validation
import PinballAudio.Proofs.Clock.Nearest
import PinballAudio.Proofs.Control.Stream
import PinballAudio.Proofs.Dac.Release
import PinballAudio.Proofs.I2c.Framing
import PinballAudio.Proofs.Image.Layout
import PinballAudio.Proofs.Platform.Polling
import PinballAudio.Proofs.Playback.Gate
import PinballAudio.Proofs.Stream.Alternation
import PinballAudio.Proofs.Stream.Cursor
import PinballAudio.Proofs.Stream.Punctual
import PinballAudio.Proofs.Stream.Queue
import PinballAudio.Proofs.Stream.Refill
import PinballAudio.Proofs.Stream.Session
import PinballAudio.Proofs.Stream.Ticks
import PinballAudio.Proofs.Tooling.Summary
import PinballAudio.Retry
import PinballAudio.Storage.Card
import PinballAudio.Storage.Device
import PinballAudio.Storage.Error
import PinballAudio.Storage.Window
import PinballAudio.Stream.Consumer
import PinballAudio.Stream.Pipeline
import PinballAudio.Stream.Producer
import PinballAudio.Stream.RefillQueue
import PinballAudio.Stream.Ring
import PinballAudio.Stream.Stats
import PinballAudio.Tooling.BuildScript
import PinballAudio.Tooling.Cli.Help
import PinballAudio.Tooling.Cli.Parse
import PinballAudio.Tooling.Cli.Program
import PinballAudio.Tooling.Cli.Spec
import PinballAudio.Tooling.Run
import PinballAudio.Tooling.Similarity
import PinballAudio.Tooling.Step
import PinballAudio.Tooling.Tasks
import PinballAudio.Tooling.TestSummary
import PinballAudio.Tooling.Workspace
