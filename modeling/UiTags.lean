import UiTags.Text.Class.Blank
import UiTags.Text.Class.Word
import UiTags.Text.Class.Digit
import UiTags.Text.Class.Printable
import UiTags.Text.Class.Cased
import UiTags.Text.Class.Alpha
import UiTags.Text.Case
import UiTags.Text.Upper
import UiTags.Text.Basic
import UiTags.Text.Lone
import UiTags.Text.Quoted
import UiTags.Text.Encoding
import UiTags.Text.Methods
import UiTags.Text.Wrap
import UiTags.Text.Names
import UiTags.Text.Compat
import UiTags.Number.Binary64
import UiTags.Number.Parts
import UiTags.Number.Shortest
import UiTags.Number.Power
import UiTags.Number.Places
import UiTags.Number.Notation
import UiTags.Number.Read
import UiTags.Value
import UiTags.Json.Read
import UiTags.Script.Identifier
import UiTags.Attribute.Spec
import UiTags.Failure
import UiTags.Attribute.Set
import UiTags.Tag.Table
import UiTags.Page
import UiTags.Query
import UiTags.Bind
import UiTags.Script.Literal
import UiTags.Script.StringValue
import UiTags.Random.Twister
import UiTags.Random.Sha512
import UiTags.Random.Seed
import UiTags.Ids
import UiTags.Json.Write
import UiTags.Script.Params
import UiTags.Script.Link
import UiTags.Config
import UiTags.Log
import UiTags.Frame
import UiTags.Markup.Html
import UiTags.Markup.Entities
import UiTags.Markup.Strip
import UiTags.Markup.Url
import UiTags.Markup.Pod
import UiTags.Script.Wrapper
import UiTags.Script.Grid
import UiTags.Script.Update
import UiTags.Script.Layout
import UiTags.Script.Pod
import UiTags.Script.Proxy
import UiTags.Script.Import
import UiTags.Markup.Grid
import UiTags.Markup.Layout
import UiTags.Markup.Form
import UiTags.Markup.Assets
import UiTags.Output
import UiTags.Document
import UiTags.Tree
import UiTags.Tree.Read
import UiTags.Toml.Value
import UiTags.Toml.Lexical
import UiTags.Toml.Read
import UiTags.Config.Load
import UiTags.Json.Pretty
import UiTags.Console.Table
import UiTags.Text.Integer
import UiTags.Template.Error
import UiTags.Template.Depth
import UiTags.Template.Token
import UiTags.Template.Syntax
import UiTags.Template.Parse
import UiTags.Template.Datum
import UiTags.Template.Operators
import UiTags.Template.Format
import UiTags.Template.Arguments
import UiTags.Template.Special
import UiTags.Template.Pretty
import UiTags.Template.Methods
import UiTags.Template.Filters
import UiTags.Template.Heap
import UiTags.Template.Objects
import UiTags.Template.Check
import UiTags.Template.Nesting
import UiTags.Template.Fold
import UiTags.Template.Render
import UiTags.Template.Packaged
import UiTags.Fragment
import UiTags.Command
import UiTags.Main
import UiTags.Proofs.Params
import UiTags.Proofs.Session
import UiTags.Proofs.Frames
import UiTags.Proofs.BorderAreas
import UiTags.Proofs.Slots
import UiTags.Proofs.LogBlind
import UiTags.Proofs.SlotDocument
import UiTags.Proofs.TextPlacement
import UiTags.Proofs.GridRows
import UiTags.Proofs.RenderFailures
import UiTags.Proofs.StartTags
import UiTags.Proofs.Paging
import UiTags.Proofs.Nesting
import UiTags.Proofs.ValidatedAttrs
import UiTags.Proofs.BindGrammar
import UiTags.Proofs.ScriptLiterals
import UiTags.Proofs.ElementIds
import UiTags.Proofs.IntegerTexts
import UiTags.Proofs.GridCells
import UiTags.Proofs.LoadedSettings
import UiTags.Proofs.ImportOrder
import UiTags.Proofs.ScriptNames
import UiTags.Proofs.ContainerLinks
import UiTags.Proofs.ScriptData
import UiTags.Proofs.ScriptElements
import UiTags.Proofs.RenderedScripts
import UiTags.Proofs.MarkupTokens
import UiTags.Proofs.MarkupParts
import UiTags.Proofs.ViewParts
import UiTags.Proofs.RenderedMarkup
import UiTags.Proofs.PageBar
import UiTags.Proofs.CellLinks
