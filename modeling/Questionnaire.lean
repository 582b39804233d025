import Questionnaire.Main
import Questionnaire.Proofs.Text.Lines
import Questionnaire.Proofs.Document.Outline
import Questionnaire.Proofs.Document.Policy
import Questionnaire.Proofs.Document.Conservation
import Questionnaire.Proofs.Document.FieldIds
import Questionnaire.Proofs.Field.Markup
import Questionnaire.Proofs.Document.Diagnostics
import Questionnaire.Proofs.Document.Gathering
import Questionnaire.Proofs.Document.Editing
import Questionnaire.Proofs.Field.HeaderLine
import Questionnaire.Proofs.Document.MarkupIds
import Questionnaire.Proofs.Field.HeaderPattern
import Questionnaire.Proofs.Text.Phrase
import Questionnaire.Proofs.Text.LowerCase
import Questionnaire.Proofs.Field.Marker
import Questionnaire.Proofs.Field.Classify
import Questionnaire.Proofs.Field.Written
import Questionnaire.Proofs.Field.MarkedSet
import Questionnaire.Proofs.Field.Tiling
import Questionnaire.Proofs.Field.OptionLine
import Questionnaire.Proofs.Field.BareList
import Questionnaire.Proofs.Field.InlineSelect
import Questionnaire.Proofs.Field.LinePattern
import Questionnaire.Proofs.Document.Fences
import Questionnaire.Proofs.Document.Recompiling
import Questionnaire.Proofs.Json.Reader
import Questionnaire.Proofs.Json.Tokens
import Questionnaire.Proofs.Json.Values
import Questionnaire.Proofs.Command.Rendering
import Questionnaire.Proofs.Json.Document
import Questionnaire.Proofs.Document.Places
import Questionnaire.Proofs.Document.Cutting
import Questionnaire.Proofs.Document.Joining
import Questionnaire.Proofs.Document.FirstFree
import Questionnaire.Proofs.Field.RuleOrder
import Questionnaire.Proofs.Text.Numeral
import Questionnaire.Proofs.Field.Size
import Questionnaire.Proofs.Field.OptionText
import Questionnaire.Proofs.Field.Wrapping
import Questionnaire.Proofs.Field.UsableChoice
import Questionnaire.Proofs.Field.Labels
import Questionnaire.Proofs.Page.Form
import Questionnaire.Proofs.Page.Section
import Questionnaire.Proofs.Text.Alphanumeric
import Questionnaire.Proofs.Document.Slug
import Questionnaire.Proofs.Document.Headings
import Questionnaire.Proofs.Document.Preface
import Questionnaire.Proofs.Json.Fields
import Questionnaire.Proofs.Settings.Extras
import Questionnaire.Proofs.Command.Arguments
import Questionnaire.Proofs.Command.Inspecting
import Questionnaire.Proofs.Command.Splitting
import Questionnaire.Proofs.Command.DefaultPart
import Questionnaire.Proofs.Format.Parameters
import Questionnaire.Proofs.Format.Registry
import Questionnaire.Proofs.Settings.Leftover
import Questionnaire.Proofs.Settings.Layers
