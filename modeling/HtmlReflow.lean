import HtmlReflow.CommandLine.FileTree
import HtmlReflow.Main
import HtmlReflow.Proofs.MinifyTwice
import HtmlReflow.Proofs.PlaceholderLeak
import HtmlReflow.Proofs.SizeBound
import HtmlReflow.Proofs.ByteOrderMark
import HtmlReflow.Proofs.MarkBytes
import HtmlReflow.Proofs.DecodedMarks
import HtmlReflow.Proofs.Fed
import HtmlReflow.Proofs.BreakPlaces
import HtmlReflow.Proofs.ExpandLaw
import HtmlReflow.Proofs.FeedCounts
import HtmlReflow.Proofs.RepeatedExpansion
import HtmlReflow.Proofs.Occurrences
import HtmlReflow.Proofs.LastingBreaks
import HtmlReflow.Proofs.ExpandLayout
import HtmlReflow.Proofs.CommentGrammar
import HtmlReflow.Proofs.RejoinedComments
import HtmlReflow.Proofs.DecodedHead
import HtmlReflow.Proofs.DeclaredLabel
import HtmlReflow.Proofs.DeclaredEncoding
import HtmlReflow.Proofs.Markup
import HtmlReflow.Proofs.MarkupSpacing
import HtmlReflow.Proofs.MarkupBreaks
import HtmlReflow.Proofs.MarkupShield
import HtmlReflow.Proofs.OuterBlanks
import HtmlReflow.Proofs.NormalForm
import HtmlReflow.Proofs.Report
import HtmlReflow.Proofs.CommandRun
import HtmlReflow.Proofs.BlankRuns
import HtmlReflow.Proofs.BlockDivision
import HtmlReflow.Proofs.PlaceholderPlaces
import HtmlReflow.Proofs.CommandSpelling
import HtmlReflow.Proofs.SniffedLabels
