import RegisterMap.Device.Violation
import RegisterMap.Command.Arguments
import RegisterMap.Command.Run
import RegisterMap.Description.Attribute
import RegisterMap.Description.Parts
import RegisterMap.Description.Reading
import RegisterMap.Device.Basic
import RegisterMap.Device.WellFormed
import RegisterMap.Event
import RegisterMap.Fault
import RegisterMap.FileTree
import RegisterMap.Header.Vocabulary
import RegisterMap.Header.Basic
import RegisterMap.Header.Handle
import RegisterMap.Header.Overlay
import RegisterMap.Header.Placement
import RegisterMap.Header.Struct
import RegisterMap.Layout
import RegisterMap.Machine
import RegisterMap.Main
import RegisterMap.Markup.Cursor
import RegisterMap.Markup.Document
import RegisterMap.Markup.Element
import RegisterMap.Markup.Fault
import RegisterMap.Markup.Grammar
import RegisterMap.Markup.Passage
import RegisterMap.Markup.Reference
import RegisterMap.Markup.Tag
import RegisterMap.Numeral
import RegisterMap.Path
import RegisterMap.Selection
import RegisterMap.Source
import RegisterMap.Text.Alphabetic
import RegisterMap.Text.Pieces
import RegisterMap.Text.Literal
import RegisterMap.Text.Lower
import RegisterMap.Text.Visible
import RegisterMap.Text.Upper
import RegisterMap.Traced
import RegisterMap.Proofs.Outcome
import RegisterMap.Proofs.StableSort
import RegisterMap.Proofs.Validation
import RegisterMap.Proofs.OffsetGroup
import RegisterMap.Proofs.StructPlacement
import RegisterMap.Proofs.Reading
import RegisterMap.Proofs.Gathering
import RegisterMap.Proofs.PartAttributes
import RegisterMap.Proofs.DocumentText
import RegisterMap.Proofs.Descendants
import RegisterMap.Proofs.DocumentOrder
import RegisterMap.Proofs.ReadingFrame
import RegisterMap.Proofs.Rejection
import RegisterMap.Proofs.OpenSelection
import RegisterMap.Proofs.TypeNames
import RegisterMap.Proofs.NumberText
import RegisterMap.Proofs.HexadecimalText
import RegisterMap.Proofs.GroupedDigits
import RegisterMap.Proofs.HandleArrays
import RegisterMap.Proofs.Handles
import RegisterMap.Proofs.FirstFailure
import RegisterMap.Proofs.HeaderLines
import RegisterMap.Proofs.CodeLines
import RegisterMap.Proofs.UpperCase
import RegisterMap.Proofs.CommentLines
import RegisterMap.Proofs.Spacing
import RegisterMap.Proofs.GreedyLines
import RegisterMap.Proofs.DescriptionLines
import RegisterMap.Proofs.LineEnds
import RegisterMap.Proofs.Declarations
import RegisterMap.Proofs.Reordering
import RegisterMap.Proofs.ReorderedParts
import RegisterMap.Proofs.DeclarationOrder
import RegisterMap.Proofs.BitTiling
import RegisterMap.Proofs.Acceptance
import RegisterMap.Proofs.ByteTiling
import RegisterMap.Proofs.DeclaredNames
import RegisterMap.Proofs.LayoutWarnings
import RegisterMap.Proofs.MachineWords
import RegisterMap.Proofs.ViablePrefix
import RegisterMap.Proofs.References
import RegisterMap.Proofs.Walks
import RegisterMap.Proofs.PathIdentity
import RegisterMap.Proofs.FileWriting
import RegisterMap.Proofs.AddedCheck
import RegisterMap.Proofs.AllOrNothing
