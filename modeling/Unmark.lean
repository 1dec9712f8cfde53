import Unmark.Render.Recipe
import Unmark.Render.Renderer
import Unmark.Document.Build
import Unmark.Text.Digit
import Unmark.Text.Utf8
import Unmark.Markdown.Nodes
import Unmark.Storage.Source
import Unmark.Storage.Destination
import Unmark.Markdown.Parse
import Unmark.Render.Output
import Unmark.CommandLine.Run
import Unmark.Main
import Unmark.Proofs.Render.LabelStack
import Unmark.Proofs.Render.TableText
import Unmark.Proofs.Render.Malformation
import Unmark.Proofs.Render.VisibleText
import Unmark.Proofs.Render.Delimiters
import Unmark.Proofs.Render.Discarded
import Unmark.Proofs.Document.WellFormed
import Unmark.Proofs.Markdown.Conversion
import Unmark.Proofs.Storage.Files
import Unmark.Proofs.Storage.ReadBack
import Unmark.Proofs.Render.Routes
import Unmark.Proofs.Storage.Acts
import Unmark.Proofs.Render.LiteralText
import Unmark.Proofs.Render.Sessions
import Unmark.Proofs.Render.TableRows
import Unmark.Proofs.Markdown.AlternativeText
import Unmark.Proofs.Storage.Changes
import Unmark.Proofs.CommandLine.Requests
import Unmark.Proofs.CommandLine.Stages
import Unmark.Proofs.CommandLine.Agreement
import Unmark.Proofs.CommandLine.Endings
import Unmark.Proofs.Render.ListText
import Unmark.Proofs.Render.Outline
import Unmark.Proofs.Render.Overriding
import Unmark.Proofs.Render.InlineContainers
import Unmark.Proofs.Text.Entities
import Unmark.Proofs.Render.Wrapping
import Unmark.Proofs.Render.OneLine
import Unmark.Proofs.Render.Suppressed
import Unmark.Proofs.Render.Registration
