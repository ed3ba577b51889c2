import NotebookSlice.Grammar.Rule
import NotebookSlice.Grammar.Table
import NotebookSlice.Grammar.State
import NotebookSlice.Grammar.Tree
import NotebookSlice.Grammar.Parse
import NotebookSlice.Syntax.Rules
import NotebookSlice.Text.Word
import NotebookSlice.Syntax.Layout
import NotebookSlice.Syntax.Lexer
import NotebookSlice.Facts.NameSet
import NotebookSlice.Syntax.Node
import NotebookSlice.Facts.Usage
import NotebookSlice.Magic
import NotebookSlice.Facts.Cell
import NotebookSlice.Log
import NotebookSlice.Program
import NotebookSlice.Slice.Backward
import NotebookSlice.Decimal.Shortest
import NotebookSlice.Json.Number
import NotebookSlice.Json.Document
import NotebookSlice.Json.Reader
import NotebookSlice.Json.Decode
import NotebookSlice.Json.Value
import NotebookSlice.Codec.Cell
import NotebookSlice.Codec.Facts
import NotebookSlice.Codec.Slice
import NotebookSlice.Settings
import NotebookSlice.Codec.Transcript
import NotebookSlice.Disk
import NotebookSlice.Yaml.Cursor
import NotebookSlice.Yaml.Scalar
import NotebookSlice.Yaml.Node
import NotebookSlice.Codec.TranscriptYaml
import NotebookSlice.Command.Arguments
import NotebookSlice.Command.Machine
import NotebookSlice.Main
import NotebookSlice.Proofs.Log.Journal
import NotebookSlice.Proofs.Slice.Search
import NotebookSlice.Proofs.Slice.Timeline
import NotebookSlice.Proofs.Slice.Chronology
import NotebookSlice.Proofs.Slice.Dependencies
import NotebookSlice.Proofs.Slice.Order
import NotebookSlice.Proofs.Slice.Shape
import NotebookSlice.Proofs.Slice.Excerpt
import NotebookSlice.Proofs.Slice.Meaning
import NotebookSlice.Proofs.Slice.Stability
import NotebookSlice.Proofs.Slice.Irrelevance
import NotebookSlice.Proofs.Slice.Arrival
import NotebookSlice.Proofs.Slice.Reslicing
import NotebookSlice.Proofs.Program.Recovery
import NotebookSlice.Proofs.Slice.Lines
import NotebookSlice.Proofs.Session.Runs
import NotebookSlice.Proofs.Transcript.Replay
import NotebookSlice.Proofs.Json.Reading
import NotebookSlice.Proofs.Codec.Decoding
import NotebookSlice.Proofs.Disk.Places
import NotebookSlice.Proofs.Storage.Persistence
import NotebookSlice.Proofs.Facts.Parts
import NotebookSlice.Proofs.Facts.Scope
import NotebookSlice.Proofs.Facts.Mutation
import NotebookSlice.Proofs.Facts.Functions
import NotebookSlice.Proofs.Facts.Locals
import NotebookSlice.Proofs.Facts.Comprehensions
import NotebookSlice.Proofs.Facts.Classes
import NotebookSlice.Proofs.Facts.Accumulation
import NotebookSlice.Proofs.Facts.Rearrangement
import NotebookSlice.Proofs.Facts.Renaming
import NotebookSlice.Proofs.Facts.Layout
import NotebookSlice.Proofs.Magic.Rows
import NotebookSlice.Proofs.Facts.Ranges
import NotebookSlice.Proofs.Slice.Edges
import NotebookSlice.Proofs.Slice.Worklist
import NotebookSlice.Proofs.Magic.Bytes
import NotebookSlice.Proofs.Magic.Reading
import NotebookSlice.Proofs.Magic.Interactive
import NotebookSlice.Proofs.Magic.Stability
import NotebookSlice.Proofs.Magic.Boundaries
