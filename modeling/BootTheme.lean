import BootTheme.Color
import BootTheme.CommandLine
import BootTheme.Component.Geometry
import BootTheme.Component.Label
import BootTheme.Component.Menu
import BootTheme.Component.Tree
import BootTheme.Dictionary
import BootTheme.Disk.Basic
import BootTheme.Disk.Bytes
import BootTheme.Disk.Place
import BootTheme.Layout.Box
import BootTheme.Layout.Expr
import BootTheme.Layout.Length
import BootTheme.Layout.Rect
import BootTheme.Main
import BootTheme.Number.Binary
import BootTheme.Number.Fixed
import BootTheme.Number.Reading
import BootTheme.Number.Scalar
import BootTheme.Number.Shortest
import BootTheme.Paint.Basic
import BootTheme.Paint.DisplayList
import BootTheme.Paint.Painter
import BootTheme.Paint.StyleBox
import BootTheme.Picture.Blend
import BootTheme.Picture.Cache
import BootTheme.Picture.Font
import BootTheme.Picture.Image
import BootTheme.Picture.Resample
import BootTheme.Png.Checksum
import BootTheme.Png.Chunk
import BootTheme.Png.Inflate
import BootTheme.Png.Reading
import BootTheme.Png.Writing
import BootTheme.Preview
import BootTheme.Proofs.Color.ColorStrings
import BootTheme.Proofs.Color.Slices
import BootTheme.Proofs.Color.Spellings
import BootTheme.Proofs.Component.AlikeSettings
import BootTheme.Proofs.Component.AxesOfBoxes
import BootTheme.Proofs.Component.Boxes
import BootTheme.Proofs.Component.Building
import BootTheme.Proofs.Component.ErrorTexts
import BootTheme.Proofs.Component.FontSizes
import BootTheme.Proofs.Component.HiddenParts
import BootTheme.Proofs.Component.MenuGeometry
import BootTheme.Proofs.Component.Misfits
import BootTheme.Proofs.Component.Quiet
import BootTheme.Proofs.Layout.Arena
import BootTheme.Proofs.Layout.Culprits
import BootTheme.Proofs.Layout.ExpressionTexts
import BootTheme.Proofs.Layout.Lineage
import BootTheme.Proofs.Layout.LocalEdits
import BootTheme.Proofs.Layout.OnePass
import BootTheme.Proofs.Layout.Preorder
import BootTheme.Proofs.Layout.ScreenBound
import BootTheme.Proofs.Layout.Stacked
import BootTheme.Proofs.Layout.Walk
import BootTheme.Proofs.Number.Decimals
import BootTheme.Proofs.Number.Doubles
import BootTheme.Proofs.Number.ExactDoubles
import BootTheme.Proofs.Number.NearestWhole
import BootTheme.Proofs.Number.Packing
import BootTheme.Proofs.Number.ReadBack
import BootTheme.Proofs.Number.Rounding
import BootTheme.Proofs.Number.RoundingOrder
import BootTheme.Proofs.Number.Scientific
import BootTheme.Proofs.Number.Shortest
import BootTheme.Proofs.Outcomes
import BootTheme.Proofs.Paint.Answers
import BootTheme.Proofs.Paint.ImagesAtHand
import BootTheme.Proofs.Paint.Outlines
import BootTheme.Proofs.Paint.StyleBoxTiles
import BootTheme.Proofs.Picture.Asking
import BootTheme.Proofs.Picture.Layers
import BootTheme.Proofs.Raster.ClippedScale
import BootTheme.Proofs.Raster.Coverage
import BootTheme.Proofs.Raster.CropWindow
import BootTheme.Proofs.Raster.FarText
import BootTheme.Proofs.Raster.Fills
import BootTheme.Proofs.Raster.NaturalSize
import BootTheme.Proofs.Raster.Opacity
import BootTheme.Proofs.Raster.OutlineLayers
import BootTheme.Proofs.Raster.OutlineStrokes
import BootTheme.Proofs.Raster.PenTravel
import BootTheme.Proofs.Raster.Pixels
import BootTheme.Proofs.Settings.FileLayout
import BootTheme.Proofs.Settings.NamedColors
import BootTheme.Proofs.Settings.Records
import BootTheme.Proofs.Settings.UnknownKeys
import BootTheme.Proofs.Svg.Drawn
import BootTheme.Proofs.Svg.Elements
import BootTheme.Proofs.Svg.Escaping
import BootTheme.Proofs.Svg.Markup
import BootTheme.Proofs.Svg.Values
import BootTheme.Proofs.Svg.WellFormed
import BootTheme.Proofs.Theme.FirstOffending
import BootTheme.Proofs.Theme.Grammar
import BootTheme.Proofs.Theme.Lexing
import BootTheme.Proofs.Theme.ListingPhrases
import BootTheme.Proofs.Theme.ListingTokens
import BootTheme.Proofs.Theme.LongestMatch
import BootTheme.Proofs.Theme.Nesting
import BootTheme.Proofs.Theme.Outline
import BootTheme.Proofs.Theme.Placeless
import BootTheme.Proofs.Theme.ReaderRun
import BootTheme.Proofs.Theme.ReportedPlace
import BootTheme.Proofs.Theme.RoundTrip
import BootTheme.Proofs.Theme.SelfDelimiting
import BootTheme.Proofs.Theme.Sources
import BootTheme.Proofs.Theme.Spacing
import BootTheme.Proofs.Theme.Stretches
import BootTheme.Proofs.Theme.StringContents
import BootTheme.Proofs.Theme.Tiling
import BootTheme.Raster.Canvas
import BootTheme.Raster.Clip
import BootTheme.Raster.Text
import BootTheme.Settings.Basic
import BootTheme.Settings.Schema
import BootTheme.Svg.Document
import BootTheme.Svg.Escape
import BootTheme.Svg.Shape
import BootTheme.Text.Base64
import BootTheme.Text.Blank
import BootTheme.Text.Columns
import BootTheme.Text.Hidden
import BootTheme.Text.Measure
import BootTheme.Text.Path
import BootTheme.Text.Quoted
import BootTheme.Text.Utf8
import BootTheme.Theme.Listing
import BootTheme.Theme.Parser
import BootTheme.Theme.Piece
import BootTheme.Theme.PieceLemmas
import BootTheme.Theme.Properties
import BootTheme.Theme.Reading
import BootTheme.Theme.Report
import BootTheme.Theme.Syntax
import BootTheme.Theme.Token
import BootTheme.Toml.Excerpt
import BootTheme.Toml.Fault
import BootTheme.Toml.Key
import BootTheme.Toml.Moment
import BootTheme.Toml.Number
import BootTheme.Toml.Parser
import BootTheme.Toml.Reader
import BootTheme.Toml.Strings
import BootTheme.Toml.Tables
import BootTheme.Toml.Value
import BootTheme.Warning
