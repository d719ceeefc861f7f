import OpcodeTable.Main
import OpcodeTable.Session
import OpcodeTable.Proofs.Line
import OpcodeTable.Proofs.Blank
import OpcodeTable.Proofs.Digit
import OpcodeTable.Proofs.Cell
import OpcodeTable.Proofs.Spelling
import OpcodeTable.Proofs.Duration
import OpcodeTable.Proofs.Words
import OpcodeTable.Proofs.Reading
import OpcodeTable.Proofs.Draft
import OpcodeTable.Proofs.InstructionSet
import OpcodeTable.Proofs.Dispatch
import OpcodeTable.Proofs.RowOrder
import OpcodeTable.Proofs.RowLayout
import OpcodeTable.Proofs.SizeRemark
import OpcodeTable.Proofs.Separator
import OpcodeTable.Proofs.RecordLine
import OpcodeTable.Proofs.Listing.Lines
import OpcodeTable.Proofs.Listing.Tables
import OpcodeTable.Proofs.Listing.Rows
import OpcodeTable.Proofs.Listing.Placement
import OpcodeTable.Proofs.Listing.Print
import OpcodeTable.Proofs.Listing.Reread
import OpcodeTable.Proofs.Page
import OpcodeTable.Proofs.Build
import OpcodeTable.Proofs.Mnemonic
import OpcodeTable.Proofs.Template
import OpcodeTable.Proofs.TemplateFile
import OpcodeTable.Proofs.TemplateText
import OpcodeTable.Proofs.TemplatePiece
import OpcodeTable.Proofs.TableText
import OpcodeTable.Proofs.LineEnd
import OpcodeTable.Proofs.FileStore
import OpcodeTable.Proofs.Silent
import OpcodeTable.Proofs.Session
import OpcodeTable.Proofs.Run
import OpcodeTable.Proofs.Layout
