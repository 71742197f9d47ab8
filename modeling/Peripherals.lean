import Peripherals.Action
import Peripherals.Adc.Config
import Peripherals.Adc.Driver
import Peripherals.Adc.Iio
import Peripherals.Adc.Rtos
import Peripherals.Adc.Samples
import Peripherals.Adc.Scaled
import Peripherals.Adc.Simulated
import Peripherals.Assoc
import Peripherals.Attribute
import Peripherals.Bench.Basic
import Peripherals.Bench.Run
import Peripherals.Bench.Step
import Peripherals.Board.Basic
import Peripherals.Board.Configured
import Peripherals.Board.Detection
import Peripherals.Capability
import Peripherals.CommandLine.Complaint
import Peripherals.CommandLine.Console
import Peripherals.CommandLine.Invocation
import Peripherals.CommandLine.Options
import Peripherals.CommandLine.Run
import Peripherals.CommandLine.Transcript
import Peripherals.Configuration.Basic
import Peripherals.Configuration.Written
import Peripherals.Decimal.Binary
import Peripherals.Decimal.Reading
import Peripherals.Decimal.Shortest
import Peripherals.Desk.Basic
import Peripherals.Desk.Owned
import Peripherals.Document.Form
import Peripherals.Document.Format
import Peripherals.Event
import Peripherals.Fault
import Peripherals.FileSystem
import Peripherals.FileTree.Access
import Peripherals.FileTree.Basic
import Peripherals.Gpio.Config
import Peripherals.Gpio.Driver
import Peripherals.Gpio.Simulated
import Peripherals.Gpio.Switch
import Peripherals.Gpio.Sysfs
import Peripherals.Handle
import Peripherals.HandleTable
import Peripherals.IoError
import Peripherals.IoError.Numbers
import Peripherals.Json.Basic
import Peripherals.Json.Document
import Peripherals.Json.Printer
import Peripherals.Json.Reader
import Peripherals.Logging
import Peripherals.Main
import Peripherals.ModuleKind
import Peripherals.Path
import Peripherals.Platform
import Peripherals.Proofs.Action
import Peripherals.Proofs.Adc.Bank
import Peripherals.Proofs.Adc.OneShot
import Peripherals.Proofs.Adc.OpenInputs
import Peripherals.Proofs.Adc.Recording
import Peripherals.Proofs.Adc.Samples
import Peripherals.Proofs.Board.Demand
import Peripherals.Proofs.Board.Detection
import Peripherals.Proofs.Board.Exclusive
import Peripherals.Proofs.Board.Obeyed
import Peripherals.Proofs.Board.Seen
import Peripherals.Proofs.Board.Typed
import Peripherals.Proofs.Board.Uses
import Peripherals.Proofs.Board.Watched
import Peripherals.Proofs.CommandLine.AtWork
import Peripherals.Proofs.CommandLine.GivenBack
import Peripherals.Proofs.CommandLine.Seen
import Peripherals.Proofs.CommandLine.Sessions
import Peripherals.Proofs.CommandLine.WayOut
import Peripherals.Proofs.Configuration.Layers
import Peripherals.Proofs.Configuration.Leaves
import Peripherals.Proofs.Configuration.Loading
import Peripherals.Proofs.Configuration.Rendering
import Peripherals.Proofs.Configuration.Sections
import Peripherals.Proofs.Desk.Accounts
import Peripherals.Proofs.Desk.Errand
import Peripherals.Proofs.Desk.Faults
import Peripherals.Proofs.Desk.Lasting
import Peripherals.Proofs.Desk.Lifecycle
import Peripherals.Proofs.Desk.Outside
import Peripherals.Proofs.Desk.Owned
import Peripherals.Proofs.Desk.Parting
import Peripherals.Proofs.Desk.Seen
import Peripherals.Proofs.Desk.Teardown
import Peripherals.Proofs.Desk.Tended
import Peripherals.Proofs.Document.Shows
import Peripherals.Proofs.Dossier.Basic
import Peripherals.Proofs.Dossier.Desk
import Peripherals.Proofs.Dossier.Exports
import Peripherals.Proofs.Dossier.Held
import Peripherals.Proofs.Dossier.Paired
import Peripherals.Proofs.Estate.Basic
import Peripherals.Proofs.Estate.Ledger
import Peripherals.Proofs.Estate.Owners
import Peripherals.Proofs.FileTree.Basic
import Peripherals.Proofs.FileTree.Confined
import Peripherals.Proofs.FileTree.Names
import Peripherals.Proofs.Files.Apart
import Peripherals.Proofs.Files.Exporting
import Peripherals.Proofs.Files.Frame
import Peripherals.Proofs.Files.Grammar
import Peripherals.Proofs.Files.Kempt
import Peripherals.Proofs.Files.Pledges
import Peripherals.Proofs.Files.Ports
import Peripherals.Proofs.Files.Seen
import Peripherals.Proofs.Files.Shelf
import Peripherals.Proofs.Files.Territories
import Peripherals.Proofs.Files.Traced
import Peripherals.Proofs.Files.Upkeep
import Peripherals.Proofs.Files.Values
import Peripherals.Proofs.Files.Watched
import Peripherals.Proofs.Gpio.FeatureNames
import Peripherals.Proofs.Gpio.InPlace
import Peripherals.Proofs.Gpio.Levels
import Peripherals.Proofs.Gpio.Lines
import Peripherals.Proofs.Gpio.OpenLines
import Peripherals.Proofs.Gpio.Ports
import Peripherals.Proofs.Gpio.Requests
import Peripherals.Proofs.HandleTable
import Peripherals.Proofs.HandleTable.Runs
import Peripherals.Proofs.Journal.Basic
import Peripherals.Proofs.Journal.Faithful
import Peripherals.Proofs.Json.Records
import Peripherals.Proofs.Json.Rewording
import Peripherals.Proofs.Json.Shapes
import Peripherals.Proofs.Json.Spelling
import Peripherals.Proofs.Logging
import Peripherals.Proofs.Lookup
import Peripherals.Proofs.Office
import Peripherals.Proofs.Path
import Peripherals.Proofs.Pwm.Attributes
import Peripherals.Proofs.Pwm.Failure
import Peripherals.Proofs.Pwm.Following
import Peripherals.Proofs.Pwm.Legality
import Peripherals.Proofs.Pwm.Orderly
import Peripherals.Proofs.Pwm.Ports
import Peripherals.Proofs.Pwm.Record
import Peripherals.Proofs.Pwm.RegisterFile
import Peripherals.Proofs.Pwm.Turn
import Peripherals.Proofs.Pwm.Use
import Peripherals.Proofs.Pwm.Writes
import Peripherals.Proofs.Rig.Commands
import Peripherals.Proofs.Rig.Faults
import Peripherals.Proofs.Rig.Kempt
import Peripherals.Proofs.Rig.Modules
import Peripherals.Proofs.Rig.Seen
import Peripherals.Proofs.Setting.Merging
import Peripherals.Proofs.Setting.Names
import Peripherals.Proofs.Setting.Plain
import Peripherals.Proofs.Setting.Reordered
import Peripherals.Proofs.Text
import Peripherals.Proofs.Text.Lowercase
import Peripherals.Proofs.Text.Numerals
import Peripherals.Proofs.Text.Occurrences
import Peripherals.Proofs.Text.Utf8
import Peripherals.Proofs.Toml.Entries
import Peripherals.Proofs.Toml.Sections
import Peripherals.Proofs.Toml.Strings
import Peripherals.Proofs.Twin.Basic
import Peripherals.Proofs.Twin.Drivers
import Peripherals.Proofs.Twin.Excerpt
import Peripherals.Proofs.Twin.Exchange
import Peripherals.Proofs.Twin.Pins
import Peripherals.Proofs.Twin.Step
import Peripherals.Pwm.Config
import Peripherals.Pwm.Driver
import Peripherals.Pwm.Parameters
import Peripherals.Pwm.Simulated
import Peripherals.Pwm.Sysfs
import Peripherals.Recorder
import Peripherals.Rig.Basic
import Peripherals.Rig.World
import Peripherals.Setting.Basic
import Peripherals.Setting.Format
import Peripherals.Setting.Load
import Peripherals.Setting.Variable
import Peripherals.Status
import Peripherals.Text.Blank
import Peripherals.Text.Escaped
import Peripherals.Text.Lowercase
import Peripherals.Text.Numeral
import Peripherals.Text.Quoted
import Peripherals.Text.Unprintable
import Peripherals.Text.Utf8
import Peripherals.Toml.Basic
import Peripherals.Toml.Document
import Peripherals.Toml.Format
import Peripherals.Toml.Layout
import Peripherals.Toml.Moments
import Peripherals.Toml.Numbers
import Peripherals.Toml.Outline
import Peripherals.Toml.Printer
import Peripherals.Toml.Strings
import Peripherals.Toml.Values
