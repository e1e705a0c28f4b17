import Adocify.Document.Walk
import Adocify.FrontMatter.Seeding
import Adocify.Log.Threshold
import Adocify.Main
import Adocify.Proofs.LineWrapping
import Adocify.Proofs.SessionAttributes
import Adocify.Proofs.SupportedTrees
import Adocify.Proofs.ListNesting
import Adocify.Proofs.NoteCycles
import Adocify.Proofs.UnsupportedNodes
import Adocify.Proofs.FootnoteMentions
import Adocify.Proofs.EnclosingBlocks
import Adocify.Proofs.KeyCombinations
import Adocify.Proofs.ShownElements
import Adocify.Proofs.RenderTermination
import Adocify.Proofs.SectionLevels
import Adocify.Proofs.ConversionAttributes
import Adocify.Proofs.FileTrees
import Adocify.Proofs.AtomicWrites
import Adocify.Proofs.FailedSteps
import Adocify.Proofs.EncodedTexts
import Adocify.Proofs.TextEndings
import Adocify.Proofs.HeaderLines
import Adocify.Proofs.TextDelivery
import Adocify.Proofs.DocumentTitles
import Adocify.Proofs.LineBreaks
import Adocify.Proofs.SingleLines
import Adocify.Proofs.ItemContinuations
import Adocify.Proofs.LinkTargets
import Adocify.Proofs.TableColumns
import Adocify.Proofs.QuoteDelimiters
import Adocify.Proofs.DelimitedBlocks
import Adocify.Proofs.MarkEscapes
import Adocify.Proofs.MarkPairs
import Adocify.Proofs.DoubledMarks
import Adocify.Proofs.AttributeReferences
import Adocify.Proofs.LiteralTexts
import Adocify.Proofs.RecoveredTexts
import Adocify.Proofs.MacroBrackets
import Adocify.Proofs.InlineLiterals
import Adocify.Proofs.SpanMarks
import Adocify.Proofs.AdmonitionOpenings
import Adocify.Proofs.SplitTexts
import Adocify.Proofs.FrontMatterBlocks
import Adocify.Proofs.KeyRuns
import Adocify.Proofs.BookParts
import Adocify.Proofs.ImageTargets
import Adocify.Proofs.PipeRows
import Adocify.Proofs.BodyRows
import Adocify.Proofs.ContentsBlocks
import Adocify.Proofs.MetadataOutcomes
import Adocify.Proofs.PlainTexts
import Adocify.Proofs.HtmlComments
import Adocify.Proofs.CanonicalTexts
import Adocify.Proofs.UndeclaredBytes
import Adocify.Proofs.SectionIds
import Adocify.Proofs.FirstDefinitions
import Adocify.Proofs.MergedTexts
import Adocify.Proofs.DefinitionEntries
import Adocify.Proofs.WriteObstacles
