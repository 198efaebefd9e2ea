import Tablesmith.Text.Characters
import Tablesmith.Text.WordRanges
import Tablesmith.Text.Lowercase
import Tablesmith.Number.Binary64
import Tablesmith.PropertyType
import Tablesmith.Grid.Sheet
import Tablesmith.Schema.Basic
import Tablesmith.Files.Workspace
import Tablesmith.Schema.Discovery
import Tablesmith.Extract.Document
import Tablesmith.Extract.Extractor
import Tablesmith.Schema.Inspector
import Tablesmith.Accessor.Code
import Tablesmith.Json.Reader
import Tablesmith.Json.Basic
import Tablesmith.Cipher.Basic
import Tablesmith.Files.Session
import Tablesmith.Settings.File
import Tablesmith.Workbook.Format
import Tablesmith.Run.Basic
import Tablesmith.Main
import Tablesmith.Proofs.Extract.Rows
import Tablesmith.Proofs.Extract.Validity
import Tablesmith.Proofs.Schema.Discovery
import Tablesmith.Proofs.Extract.Completeness
import Tablesmith.Proofs.Accessor.Agreement
import Tablesmith.Proofs.Files.FileTree
import Tablesmith.Proofs.Files.Listing
import Tablesmith.Proofs.Run.Parts
import Tablesmith.Proofs.Run.Orphans
import Tablesmith.Proofs.Run.Output
import Tablesmith.Proofs.Run.Documents
import Tablesmith.Proofs.Ooxml.Worksheet
import Tablesmith.Proofs.Zip.Stored
import Tablesmith.Proofs.Ooxml.Package
import Tablesmith.Proofs.Run.Ends
import Tablesmith.Proofs.Text.Unicode
import Tablesmith.Proofs.Biff.SharedText
import Tablesmith.Proofs.Text.Trim
import Tablesmith.Proofs.Number.Digits
import Tablesmith.Proofs.Calendar.Reading
import Tablesmith.Proofs.Accessor.Parsing
import Tablesmith.Proofs.Run.Refusals
import Tablesmith.Proofs.Run.Confinement
import Tablesmith.Proofs.Cipher.Base64
import Tablesmith.Proofs.Cipher.Blocks
import Tablesmith.Proofs.Cipher.Documents
import Tablesmith.Proofs.Biff.SharedTable
import Tablesmith.Proofs.Schema.Headers
import Tablesmith.Proofs.Schema.Layout
import Tablesmith.Proofs.Extract.Layout
import Tablesmith.Proofs.Files.Contents
import Tablesmith.Proofs.Run.Lockstep
import Tablesmith.Proofs.Run.Concealment
import Tablesmith.Proofs.Run.Encryption
import Tablesmith.Proofs.Schema.Invariant
import Tablesmith.Proofs.Extract.SheetOrder
import Tablesmith.Proofs.Files.Batches
import Tablesmith.Proofs.Run.Turns
import Tablesmith.Proofs.Run.Effects
import Tablesmith.Proofs.Run.Amendments
import Tablesmith.Proofs.Run.Rereading
import Tablesmith.Proofs.Run.Replay
import Tablesmith.Proofs.Run.Succession
import Tablesmith.Proofs.Extract.Cursor
import Tablesmith.Proofs.Extract.Reuse
import Tablesmith.Proofs.Grid.Reference
import Tablesmith.Proofs.Grid.Resolution
import Tablesmith.Proofs.Grid.Edits
import Tablesmith.Proofs.Scan
import Tablesmith.Proofs.Extract.FirstFault
import Tablesmith.Proofs.Extract.Transposition
import Tablesmith.Proofs.Extract.Widening
import Tablesmith.Proofs.Workbook.Kinds
import Tablesmith.Proofs.Biff.Book
import Tablesmith.Proofs.Workbook.Loading
import Tablesmith.Proofs.Schema.Range
import Tablesmith.Proofs.Schema.Block
import Tablesmith.Proofs.Extract.Exchange
import Tablesmith.Proofs.Schema.Inspector
import Tablesmith.Proofs.Schema.FirstFault
import Tablesmith.Proofs.Compound.Chain
import Tablesmith.Proofs.Compound.Cycles
import Tablesmith.Proofs.Compound.Directory
import Tablesmith.Proofs.Compound.Layout
import Tablesmith.Proofs.Compound.Streams
import Tablesmith.Proofs.Extract.References
import Tablesmith.Proofs.Accessor.Comments
import Tablesmith.Proofs.Accessor.Dispatch
import Tablesmith.Proofs.Accessor.Tokens
import Tablesmith.Proofs.Accessor.Names
import Tablesmith.Proofs.Biff.Framing
import Tablesmith.Proofs.Biff.Reader
import Tablesmith.Proofs.Biff.Delivery
import Tablesmith.Proofs.Biff.CellRecords
import Tablesmith.Proofs.Biff.Worksheet
import Tablesmith.Proofs.Biff.Insertion
import Tablesmith.Proofs.Xml.Writing
import Tablesmith.Proofs.Ooxml.StringItem
import Tablesmith.Proofs.Ooxml.Rows
import Tablesmith.Proofs.Grid.FormatCode
import Tablesmith.Proofs.Calendar.DayCount
import Tablesmith.Proofs.Calendar.Values
import Tablesmith.Proofs.Grid.Serial
import Tablesmith.Proofs.Number.Spelling
import Tablesmith.Proofs.Number.Printing
import Tablesmith.Proofs.Grid.NumberText
import Tablesmith.Proofs.Grid.WholeDays
import Tablesmith.Proofs.Json.Grammar
import Tablesmith.Proofs.Json.Reading
import Tablesmith.Proofs.Json.Printing
import Tablesmith.Proofs.Extract.Documents
import Tablesmith.Proofs.Settings.File
import Tablesmith.Proofs.Run.SettingsFile
import Tablesmith.Proofs.Text.Lowercase
import Tablesmith.Proofs.TypeAlias
import Tablesmith.Proofs.Run.Search
import Tablesmith.Proofs.Run.Sweep
import Tablesmith.Proofs.Schema.Collection
import Tablesmith.Proofs.Run.Collection
