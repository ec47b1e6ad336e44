import LineEditor.Action.Basic
import LineEditor.Charset.Basic
import LineEditor.Charset.Utf8
import LineEditor.CommandLine
import LineEditor.Completion
import LineEditor.Connection.Basic
import LineEditor.Connection.Reading
import LineEditor.Edit.Buffer
import LineEditor.Edit.Console
import LineEditor.Edit.KillRing
import LineEditor.Edit.Undo
import LineEditor.Editor.Accept
import LineEditor.Editor.Basic
import LineEditor.Editor.Change
import LineEditor.Editor.Motion
import LineEditor.Editor.Offer
import LineEditor.Editor.Perform
import LineEditor.Editor.Recall
import LineEditor.Engine
import LineEditor.FileSystem
import LineEditor.History.Basic
import LineEditor.History.File
import LineEditor.Key.Basic
import LineEditor.Key.Reader
import LineEditor.Key.Spec
import LineEditor.Keymap
import LineEditor.LineReader
import LineEditor.Main
import LineEditor.Proofs.Chunks
import LineEditor.Proofs.Frame
import LineEditor.Proofs.Run
import LineEditor.Screen.Cluster
import LineEditor.Screen.Escape
import LineEditor.Screen.Grid
import LineEditor.Screen.Width
import LineEditor.Session
import LineEditor.Settings.Basic
import LineEditor.Settings.Bindings
import LineEditor.Settings.Document
import LineEditor.Settings.Location
import LineEditor.Shell
import LineEditor.Text.Basic
import LineEditor.Text.Escaped
import LineEditor.Text.Quote
import LineEditor.Text.Words
import LineEditor.Text.Wrap
import LineEditor.Toml.Quoted
import LineEditor.Toml.Reading
import LineEditor.Toml.Scalar
import LineEditor.Toml.Table
import LineEditor.Unicode.Blank
import LineEditor.Unicode.Break
import LineEditor.Unicode.Case
import LineEditor.Unicode.CellWidth
import LineEditor.Unicode.Letter
import LineEditor.Unicode.Ranges
import LineEditor.Proofs.Enter
import LineEditor.Proofs.Continuation
import LineEditor.Proofs.Entry
import LineEditor.Proofs.Recall
import LineEditor.Proofs.FreshRead
import LineEditor.Proofs.Masked
import LineEditor.Proofs.Encoding
import LineEditor.Proofs.HistoryFile
import LineEditor.Proofs.Redraw
import LineEditor.Proofs.UndoAll
import LineEditor.Proofs.Decoding
import LineEditor.Proofs.OpenQuote
import LineEditor.Proofs.QuotedWords
import LineEditor.Proofs.CommandLayer
import LineEditor.Proofs.Lifetime
import LineEditor.Proofs.Listening
import LineEditor.Proofs.Handover
import LineEditor.Proofs.Output
import LineEditor.Proofs.Delivery
import LineEditor.Proofs.Access.Basic
import LineEditor.Proofs.Access.Console
import LineEditor.Proofs.Access.Scan
import LineEditor.Proofs.Access.Grid
import LineEditor.Proofs.Access.Reader
import LineEditor.Proofs.Access.Completion
import LineEditor.Proofs.Access.History
import LineEditor.Proofs.Access.Editor
import LineEditor.Proofs.Access.Session
import LineEditor.Proofs.RoundTrip
import LineEditor.Proofs.Operations
import LineEditor.Proofs.RemovedText
import LineEditor.Proofs.UndoRecord
import LineEditor.Proofs.Searching
import LineEditor.Proofs.Paste
import LineEditor.Proofs.WordContent
import LineEditor.Proofs.Stepping
import LineEditor.Proofs.TypedWord
import LineEditor.Proofs.TabCompletion
import LineEditor.Proofs.ControlSequence
import LineEditor.Proofs.KeySpelling
import LineEditor.Proofs.WrittenKeys
import LineEditor.Proofs.CompactGrid
import LineEditor.Proofs.UserBindings
import LineEditor.Proofs.WordBreaks
import LineEditor.Proofs.SelectedWord
import LineEditor.Proofs.DrawnCursor
import LineEditor.Proofs.EscapeSequences
import LineEditor.Proofs.IdleEdits
import LineEditor.Proofs.Trimming
import LineEditor.Proofs.Wrapping
