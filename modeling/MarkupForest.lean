import MarkupForest.Attribute.Cursor
import MarkupForest.Forest.Copying
import MarkupForest.Forest.Markup
import MarkupForest.Forest.Tour
import MarkupForest.Forest.Writing
import MarkupForest.Json.Record
import MarkupForest.Proofs.Forest.Ancestry
import MarkupForest.Proofs.Forest.WellFormed
import MarkupForest.Proofs.Forest.Moves
import MarkupForest.Proofs.Forest.MovesWellFormed
import MarkupForest.Proofs.Edit.Specs
import MarkupForest.Proofs.Forest.Extension
import MarkupForest.Forest.Operation
import MarkupForest.Proofs.Copying.Queue
import MarkupForest.Proofs.Edit.Safety
import MarkupForest.Proofs.Operation.Reachable
import MarkupForest.Proofs.SiblingIndex.Bare
import MarkupForest.Proofs.SiblingIndex.Alike
import MarkupForest.Proofs.Edit.Checks
import MarkupForest.Proofs.Edit.Failure
import MarkupForest.Proofs.SiblingIndex.IndexFree
import MarkupForest.Proofs.SiblingIndex.Cache
import MarkupForest.Proofs.Reference.Escape
import MarkupForest.Proofs.Outline.Basic
import MarkupForest.Proofs.Outline.Markup
import MarkupForest.Proofs.Text.CaseFolding
import MarkupForest.Proofs.Outline.Canonical
import MarkupForest.Proofs.Token.Lexing
import MarkupForest.Proofs.Token.StartTags
import MarkupForest.Proofs.Token.Doctypes
import MarkupForest.Proofs.Outline.Tokens
import MarkupForest.Proofs.Growth.StartTagStore
import MarkupForest.Proofs.Outline.Growth
import MarkupForest.Proofs.Outline.RoundTrip
import MarkupForest.Proofs.Edit.InsertChildren
import MarkupForest.Proofs.Text.Slices
import MarkupForest.Proofs.Token.Tiling
import MarkupForest.Proofs.Outline.Append
import MarkupForest.Proofs.Growth.Document
import MarkupForest.Proofs.Text.Names
import MarkupForest.Proofs.Token.Rereadable
import MarkupForest.Proofs.Outline.OpenElements
import MarkupForest.Proofs.Outline.Rewrite
import MarkupForest.Proofs.Growth.Ranges
import MarkupForest.Proofs.Growth.RangeNesting
import MarkupForest.Proofs.Copying.Mirror
import MarkupForest.Proofs.Copying.OlderNodes
import MarkupForest.Proofs.Copying.LaterOperations
import MarkupForest.Proofs.Copying.DeepClone
import MarkupForest.Proofs.Tour.Visits
import MarkupForest.Proofs.Tour.Plans
import MarkupForest.Proofs.Tour.Pruning
import MarkupForest.Proofs.Tour.LaterSibling
import MarkupForest.Proofs.Attribute.TagMarkup
import MarkupForest.Proofs.Attribute.HiddenEntries
import MarkupForest.Proofs.Attribute.NodeStore
import MarkupForest.Proofs.Attribute.TwoParts
import MarkupForest.Proofs.Attribute.CursorReads
import MarkupForest.Proofs.Attribute.UserData
import MarkupForest.Proofs.Attribute.ConcurrentChange
import MarkupForest.Proofs.Growth.RawText
import MarkupForest.Proofs.Edit.Unwrap
import MarkupForest.Proofs.Growth.RangeTracking
import MarkupForest.Proofs.Edit.MovedNodes
import MarkupForest.Proofs.Edit.Splice
import MarkupForest.Proofs.Edit.Wrap
import MarkupForest.Proofs.Edit.InsertMarkup
import MarkupForest.Proofs.Edit.SameValue
import MarkupForest.Proofs.Walk.Recursion
import MarkupForest.Proofs.Attribute.Equality
import MarkupForest.Proofs.Reference.Unescape
import MarkupForest.Proofs.Attribute.Deduplication
import MarkupForest.Proofs.Growth.TagAttributes
import MarkupForest.Proofs.Attribute.ReadBack
import MarkupForest.Proofs.Attribute.Merge
import MarkupForest.Proofs.Attribute.SourceRanges
import MarkupForest.Proofs.Growth.AttributeKeys
import MarkupForest.Proofs.Attribute.RepeatedKeys
import MarkupForest.Proofs.Source.LinePositions
import MarkupForest.Proofs.Copying.BaseUri
import MarkupForest.Proofs.Tour.Depth
