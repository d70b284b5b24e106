import ForumPost.Files.Folder
import ForumPost.Json.Settings
import ForumPost.Main
import ForumPost.Proofs.Text.Spaces
import ForumPost.Proofs.Text.Compact
import ForumPost.Proofs.Text.Strip
import ForumPost.Proofs.Lookup
import ForumPost.Proofs.Article.Tree
import ForumPost.Proofs.Article.OfPage
import ForumPost.Proofs.Article.Table
import ForumPost.Proofs.Markup.Grid
import ForumPost.Proofs.Markup.Nesting
import ForumPost.Proofs.Markup.Erasure
import ForumPost.Proofs.Markup.Reddit
import ForumPost.Proofs.Markup.RpgGeek
import ForumPost.Proofs.Transcript.Rules
import ForumPost.Proofs.Transcript.Marks
import ForumPost.Proofs.Transcript.Blocks
import ForumPost.Proofs.Transcript.Buffer
import ForumPost.Proofs.Transcript.Nesting
import ForumPost.Proofs.Transcript.Prose
import ForumPost.Proofs.Transcript.Failure
import ForumPost.Proofs.Transcript.Erasure
import ForumPost.Proofs.Post.Composition
import ForumPost.Proofs.Post.Dialects
import ForumPost.Proofs.Transcript.Unknown
import ForumPost.Proofs.Article.PageText
import ForumPost.Proofs.Json.Grammar
import ForumPost.Proofs.Json.Words
import ForumPost.Proofs.Json.Reading
import ForumPost.Proofs.Json.Spelling
import ForumPost.Proofs.Post.EmptyBlocks
import ForumPost.Proofs.Transcript.LeftOut
import ForumPost.Proofs.Json.Writing
import ForumPost.Proofs.Post.Output
import ForumPost.Proofs.Article.TableRows
import ForumPost.Proofs.Markup.PipeTable
import ForumPost.Proofs.Transcript.TableLines
import ForumPost.Proofs.Files.Folder
import ForumPost.Proofs.Text.UpperCase
import ForumPost.Proofs.Command.Arguments
import ForumPost.Proofs.Command.Run
import ForumPost.Proofs.Text.Escapes
import ForumPost.Proofs.Post.Closing
import ForumPost.Proofs.Command.Delivery
import ForumPost.Proofs.Text.Occurrences
import ForumPost.Proofs.Text.Lines
import ForumPost.Proofs.Text.Tidying
import ForumPost.Proofs.Markup.Sigils
import ForumPost.Proofs.Markup.Quotation
import ForumPost.Proofs.Transcript.ListItems
import ForumPost.Proofs.Transcript.Quotation
import ForumPost.Proofs.Largest
import ForumPost.Proofs.Pairs
import ForumPost.Proofs.Article.Places
import ForumPost.Proofs.Transcript.Padding
import ForumPost.Proofs.Text.Columns
import ForumPost.Proofs.Markup.GridLines
import ForumPost.Proofs.Markup.GridCells
import ForumPost.Proofs.Transcript.TableTidied
import ForumPost.Proofs.Article.Addresses
import ForumPost.Proofs.Transcript.Figures
import ForumPost.Proofs.Text.StraySpaces
import ForumPost.Proofs.Text.Runs
import ForumPost.Proofs.Transcript.Cleaning
