import TableLayout.Document.Printer
import TableLayout.IndexedDefinitions
import TableLayout.Files.FileTree
import TableLayout.Main
import TableLayout.Pattern.Class
import TableLayout.Pattern.Reader
import TableLayout.Program.Run
import TableLayout.Proofs.Reflection.FieldCounts
import TableLayout.Proofs.Reflection.ParentIndex
import TableLayout.Proofs.Reflection.IndexField
import TableLayout.Proofs.Text.Cutting
import TableLayout.Proofs.Alignment
import TableLayout.Proofs.BuildText
import TableLayout.Proofs.Document.WrittenLine
import TableLayout.Proofs.Document.WrittenHeading
import TableLayout.Proofs.Document.ReaderRun
import TableLayout.Proofs.Document.RoundTrip
import TableLayout.Proofs.PlainKeys
import TableLayout.Proofs.Document.Composition
import TableLayout.Proofs.Appending
import TableLayout.Proofs.Document.ReadLine
import TableLayout.Proofs.Document.NormalForm
import TableLayout.Proofs.Document.FirstFault
import TableLayout.Proofs.Outcome
import TableLayout.Proofs.Listfile
import TableLayout.Proofs.Listfile.Entries
import TableLayout.Proofs.DisplayNames.Stems
import TableLayout.Proofs.Plan
import TableLayout.Proofs.Output
import TableLayout.Proofs.Selection
import TableLayout.Proofs.Artifact.Determined
import TableLayout.Proofs.Artifact.Joined
import TableLayout.Proofs.Artifact.Options
import TableLayout.Proofs.Artifact.Coexisting
import TableLayout.Proofs.Artifact.Columns
import TableLayout.Proofs.Document.BuildLine
import TableLayout.Proofs.IndexedDefinitions
import TableLayout.Proofs.Files.Places
import TableLayout.Proofs.Files.Walks
import TableLayout.Proofs.Files.Folders
import TableLayout.Proofs.Source.Documents
import TableLayout.Proofs.Source.Addresses
import TableLayout.Proofs.Source.Stored
import TableLayout.Proofs.Source.Confined
import TableLayout.Proofs.Source.Cached
import TableLayout.Proofs.Source.Padded
import TableLayout.Proofs.Source.History
import TableLayout.Proofs.Source.Listing
import TableLayout.Proofs.Resolution
import TableLayout.Proofs.Document.FieldGrammar
import TableLayout.Proofs.Document.Padding
import TableLayout.Proofs.BuildOrder
import TableLayout.Proofs.Manifest
import TableLayout.Proofs.StatementName
