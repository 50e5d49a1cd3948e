import Stencil.Calendar.Moment
import Stencil.CommandLine.Arguments
import Stencil.CommandLine.Params
import Stencil.CommandLine.Session
import Stencil.Config.Document
import Stencil.Config.Fault
import Stencil.Data.Basic
import Stencil.Decimal.Binary
import Stencil.Decimal.Format
import Stencil.Decimal.Remainder
import Stencil.Decimal.Shortest
import Stencil.Files.Path
import Stencil.Files.Search
import Stencil.Files.Tree
import Stencil.Main
import Stencil.Options.Basic
import Stencil.Options.Coerce
import Stencil.Options.Material
import Stencil.Options.Member
import Stencil.Options.Merge
import Stencil.Options.Validation
import Stencil.Program.Frame
import Stencil.Program.Keyword
import Stencil.Program.Layout
import Stencil.Program.Literal
import Stencil.Program.Margin
import Stencil.Proofs.CommandLine.Escaping
import Stencil.Proofs.CommandLine.Parameters
import Stencil.Proofs.CommandLine.Precedence
import Stencil.Proofs.Files.Finding
import Stencil.Proofs.Options.Merging
import Stencil.Proofs.Options.Overriding
import Stencil.Proofs.Options.Rereading
import Stencil.Proofs.Options.Writing
import Stencil.Proofs.Program.Balance
import Stencil.Proofs.Program.BlockErrors
import Stencil.Proofs.Program.Continuations
import Stencil.Proofs.Program.Emission
import Stencil.Proofs.Program.InPlace
import Stencil.Proofs.Program.Outdenting
import Stencil.Proofs.Program.Outline
import Stencil.Proofs.Program.Placing
import Stencil.Proofs.Program.Role
import Stencil.Proofs.Program.Schedule
import Stencil.Proofs.Program.Siblings
import Stencil.Proofs.Program.Typesetting
import Stencil.Proofs.Render.AgreeingRenders
import Stencil.Proofs.Render.Blaming
import Stencil.Proofs.Render.Bounded
import Stencil.Proofs.Render.Copying
import Stencil.Proofs.Render.Given
import Stencil.Proofs.Render.Idle
import Stencil.Proofs.Render.KeptDefaults
import Stencil.Proofs.Render.KeptUnits
import Stencil.Proofs.Render.MadeOnce
import Stencil.Proofs.Render.Making
import Stencil.Proofs.Render.Names
import Stencil.Proofs.Render.PassingOn
import Stencil.Proofs.Render.Raising
import Stencil.Proofs.Render.Running
import Stencil.Proofs.Render.Serving
import Stencil.Proofs.Render.StoreHistory
import Stencil.Proofs.Render.Strictness
import Stencil.Proofs.Render.Substitution
import Stencil.Proofs.Render.Trail
import Stencil.Proofs.Script.Adding
import Stencil.Proofs.Script.Agreeing
import Stencil.Proofs.Script.AgreeingCalls
import Stencil.Proofs.Script.Completion
import Stencil.Proofs.Script.EntryPoint
import Stencil.Proofs.Script.Failing
import Stencil.Proofs.Script.Helper
import Stencil.Proofs.Script.Indentation
import Stencil.Proofs.Script.LastLine
import Stencil.Proofs.Script.Lexing
import Stencil.Proofs.Script.Loading
import Stencil.Proofs.Script.Parsing
import Stencil.Proofs.Script.Quotation
import Stencil.Proofs.Script.Scene
import Stencil.Proofs.Script.Sparing
import Stencil.Proofs.Script.SparingCalls
import Stencil.Proofs.Script.SparingOperations
import Stencil.Proofs.Script.Standing
import Stencil.Proofs.Script.Strictness
import Stencil.Proofs.Script.Yielding
import Stencil.Proofs.Template.BlankGroups
import Stencil.Proofs.Template.Brackets
import Stencil.Proofs.Template.Comments
import Stencil.Proofs.Template.Diagnosis
import Stencil.Proofs.Template.LeadingLines
import Stencil.Proofs.Template.Lossless
import Stencil.Proofs.Template.Numbering
import Stencil.Proofs.Template.Reading
import Stencil.Proofs.Template.RoundTrip
import Stencil.Proofs.Template.SharedCursor
import Stencil.Proofs.Template.Stripping
import Stencil.Proofs.Template.Unmarked
import Stencil.Proofs.Template.WrittenTag
import Stencil.Release
import Stencil.Render.Identity
import Stencil.Render.Source
import Stencil.Render.Template
import Stencil.Render.World
import Stencil.Script.Block
import Stencil.Script.Build
import Stencil.Script.Call
import Stencil.Script.Clause
import Stencil.Script.Comparison
import Stencil.Script.Container
import Stencil.Script.ErrorClass
import Stencil.Script.Eval
import Stencil.Script.Expr
import Stencil.Script.ExprReader
import Stencil.Script.LogicalLine
import Stencil.Script.Machine
import Stencil.Script.Number
import Stencil.Script.Operation
import Stencil.Script.Parse
import Stencil.Script.Reader
import Stencil.Script.Stmt
import Stencil.Script.Symbol
import Stencil.Script.Token
import Stencil.Script.Unit
import Stencil.Script.Value
import Stencil.Script.Written
import Stencil.Store.Recency
import Stencil.Template.Chunk
import Stencil.Template.Error
import Stencil.Template.LineCursor
import Stencil.Template.Marker
import Stencil.Template.Segment
import Stencil.Template.Strip
import Stencil.Template.Tag
import Stencil.Text.Blank
import Stencil.Text.CharRange
import Stencil.Text.CodePage.Basic
import Stencil.Text.CodePage.Dos
import Stencil.Text.CodePage.Iso
import Stencil.Text.CodePage.Mac
import Stencil.Text.CodePage.Mainframe
import Stencil.Text.CodePage.National
import Stencil.Text.CodePage.Windows
import Stencil.Text.Decoding
import Stencil.Text.EastAsian
import Stencil.Text.EastAsian.Basic
import Stencil.Text.EastAsian.Japan
import Stencil.Text.EastAsian.Korea
import Stencil.Text.EastAsian.MainlandChina
import Stencil.Text.EastAsian.Switched
import Stencil.Text.EastAsian.Taiwan
import Stencil.Text.Encoding
import Stencil.Text.Escape
import Stencil.Text.Grid.Basic
import Stencil.Text.Grid.HongKong
import Stencil.Text.Grid.Japanese
import Stencil.Text.Grid.JapaneseRevised
import Stencil.Text.Grid.JapaneseSecond
import Stencil.Text.Grid.JapaneseSupplement
import Stencil.Text.Grid.JapaneseVendor
import Stencil.Text.Grid.Korean
import Stencil.Text.Grid.SimplifiedHan
import Stencil.Text.Grid.TraditionalHan
import Stencil.Text.LetterCase
import Stencil.Text.Line
import Stencil.Text.Numeral
import Stencil.Text.Pattern
import Stencil.Text.Printable
import Stencil.Text.Punycode
import Stencil.Text.Quoted
import Stencil.Text.Utf7
import Stencil.Text.Word
import Stencil.Yaml.Build
import Stencil.Yaml.Cursor
import Stencil.Yaml.Fault
import Stencil.Yaml.Load
import Stencil.Yaml.Node
import Stencil.Yaml.Scalar
import Stencil.Yaml.ScalarText
import Stencil.Yaml.Tag
import Stencil.Yaml.Token
import Stencil.Yaml.TokenStream
