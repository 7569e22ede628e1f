import WordMachine.Assembly
import WordMachine.Assembly.Emission
import WordMachine.Assembly.Error
import WordMachine.Assembly.Layout
import WordMachine.Assembly.Literal
import WordMachine.Assembly.Operand
import WordMachine.Assembly.Statement
import WordMachine.Assembly.Symbols
import WordMachine.CommandLine
import WordMachine.CommandLine.Arguments
import WordMachine.CommandLine.Command
import WordMachine.Configuration
import WordMachine.Configuration.File
import WordMachine.Console
import WordMachine.Counter
import WordMachine.Debugger
import WordMachine.Debugger.Notice
import WordMachine.Debugger.Panels
import WordMachine.Emulation
import WordMachine.ExitCode
import WordMachine.Files.Directory
import WordMachine.Files.ImageFile
import WordMachine.Files.Path
import WordMachine.Image
import WordMachine.Instruction
import WordMachine.IoError
import WordMachine.Json.Codec
import WordMachine.Json.Printer
import WordMachine.Json.Reader
import WordMachine.Json.Token
import WordMachine.Json.Value
import WordMachine.Listing
import WordMachine.Machine
import WordMachine.Machine.Report
import WordMachine.Machine.ReportJson
import WordMachine.Machine.Run
import WordMachine.Machine.Step
import WordMachine.Main
import WordMachine.Memory
import WordMachine.Numeral
import WordMachine.Opcode
import WordMachine.Peripheral
import WordMachine.Radix
import WordMachine.Register
import WordMachine.Screen.Cell
import WordMachine.Screen.Panel
import WordMachine.Screen.Terminal
import WordMachine.Text
import WordMachine.Text.Blank
import WordMachine.Text.Cluster
import WordMachine.Text.Cluster.Class
import WordMachine.Text.Column
import WordMachine.Text.Emoji
import WordMachine.Text.Extending
import WordMachine.Text.Line
import WordMachine.Text.Quoted
import WordMachine.Text.Unprintable
import WordMachine.Text.Utf8
import WordMachine.Text.Width
import WordMachine.Text.Wrapped
import WordMachine.Word
import WordMachine.Proofs.Assembly.Addresses
import WordMachine.Proofs.Assembly.Disassembly
import WordMachine.Proofs.Assembly.Effect
import WordMachine.Proofs.Assembly.Encoding
import WordMachine.Proofs.Assembly.Execution
import WordMachine.Proofs.Assembly.Extension
import WordMachine.Proofs.Assembly.Instructions
import WordMachine.Proofs.Assembly.LetterCase
import WordMachine.Proofs.Assembly.Lines
import WordMachine.Proofs.Assembly.Listing
import WordMachine.Proofs.Assembly.Literal
import WordMachine.Proofs.Assembly.Operands
import WordMachine.Proofs.Assembly.Passes
import WordMachine.Proofs.Assembly.Program
import WordMachine.Proofs.Assembly.Reading
import WordMachine.Proofs.Assembly.Reference
import WordMachine.Proofs.Assembly.Refusals
import WordMachine.Proofs.Assembly.RegisterNames
import WordMachine.Proofs.Assembly.Spacing
import WordMachine.Proofs.Assembly.Writing
import WordMachine.Proofs.Configuration
import WordMachine.Proofs.Console.ReadBack
import WordMachine.Proofs.Console.Streams
import WordMachine.Proofs.Counter
import WordMachine.Proofs.Debugger
import WordMachine.Proofs.Debugger.DisassemblyPanel
import WordMachine.Proofs.Debugger.MemoryPanel
import WordMachine.Proofs.Debugger.Operations
import WordMachine.Proofs.Debugger.OutputPanel
import WordMachine.Proofs.Debugger.Panels
import WordMachine.Proofs.Debugger.Restart
import WordMachine.Proofs.Debugger.Scrolling
import WordMachine.Proofs.Directory
import WordMachine.Proofs.Emulation
import WordMachine.Proofs.Emulation.Changes
import WordMachine.Proofs.Fields
import WordMachine.Proofs.Json.Codec
import WordMachine.Proofs.Json.Grammar
import WordMachine.Proofs.Json.Printing
import WordMachine.Proofs.Json.Reading
import WordMachine.Proofs.Machine.Arithmetic
import WordMachine.Proofs.Machine.Budget
import WordMachine.Proofs.Machine.Counting
import WordMachine.Proofs.Machine.Dump
import WordMachine.Proofs.Machine.Effect
import WordMachine.Proofs.Machine.Failure
import WordMachine.Proofs.Machine.Fresh
import WordMachine.Proofs.Machine.Halting
import WordMachine.Proofs.Machine.Input
import WordMachine.Proofs.Machine.Loading
import WordMachine.Proofs.Machine.MemoryReport
import WordMachine.Proofs.Machine.Refinement
import WordMachine.Proofs.Machine.Run
import WordMachine.Proofs.Machine.Size
import WordMachine.Proofs.Machine.StraightLine
import WordMachine.Proofs.Machine.Table
import WordMachine.Proofs.Outcome
import WordMachine.Proofs.Screen
import WordMachine.Proofs.Screen.Terminal
import WordMachine.Proofs.Text
import WordMachine.Proofs.Upright
import WordMachine.Proofs.Word
import WordMachine.Proofs.Wrapping
