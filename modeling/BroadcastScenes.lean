import BroadcastScenes.Appearance
import BroadcastScenes.Collection.Adaptation
import BroadcastScenes.Collection.Basic
import BroadcastScenes.Decimal.Binary
import BroadcastScenes.Decimal.Cut
import BroadcastScenes.Decimal.Layout
import BroadcastScenes.Decimal.Leading
import BroadcastScenes.Decimal.Literal
import BroadcastScenes.Decimal.Numeral
import BroadcastScenes.Decimal.Shortest
import BroadcastScenes.Decimal.Steps
import BroadcastScenes.Decimal.Word
import BroadcastScenes.Disk
import BroadcastScenes.Entries
import BroadcastScenes.FieldCopy
import BroadcastScenes.Hotkey.Action
import BroadcastScenes.Hotkey.Binding
import BroadcastScenes.Hotkey.Key
import BroadcastScenes.ImportError
import BroadcastScenes.Importer
import BroadcastScenes.Json.Basic
import BroadcastScenes.Json.Printer
import BroadcastScenes.Json.Reader
import BroadcastScenes.Json.Written
import BroadcastScenes.Markup.Reader
import BroadcastScenes.Markup.Scalar
import BroadcastScenes.Markup.Tag
import BroadcastScenes.Naming
import BroadcastScenes.ObsClassic.Import
import BroadcastScenes.ObsClassic.Settings
import BroadcastScenes.ObsStudio.Import
import BroadcastScenes.Path
import BroadcastScenes.Platform
import BroadcastScenes.Program
import BroadcastScenes.Progress
import BroadcastScenes.Proofs.AssignedNames
import BroadcastScenes.Proofs.CollectionRecords
import BroadcastScenes.Proofs.FreeNames
import BroadcastScenes.Proofs.NameTables
import BroadcastScenes.ReadError
import BroadcastScenes.Scene.Item
import BroadcastScenes.SceneText.Reader
import BroadcastScenes.SceneText.Scalar
import BroadcastScenes.Session
import BroadcastScenes.Setting
import BroadcastScenes.Source.Kind
import BroadcastScenes.Source.Record
import BroadcastScenes.Source.Setup
import BroadcastScenes.Streamlabs.Import
import BroadcastScenes.Text.Base64
import BroadcastScenes.Text.Blank
import BroadcastScenes.Text.Bytes
import BroadcastScenes.Text.CaseTables
import BroadcastScenes.Text.CodeRuns
import BroadcastScenes.Text.Cut
import BroadcastScenes.Text.Entities
import BroadcastScenes.Text.Letter
import BroadcastScenes.Text.LineReader
import BroadcastScenes.Text.Lines
import BroadcastScenes.Text.LowerCase
import BroadcastScenes.Text.Slashes
import BroadcastScenes.Text.Utf8
import BroadcastScenes.Value.Basic
import BroadcastScenes.Value.Fields
import BroadcastScenes.Value.Json
import BroadcastScenes.Value.Scalar
import BroadcastScenes.XSplit.Import
import BroadcastScenes.XSplit.Settings
import BroadcastScenes.Proofs.AppendingImport
import BroadcastScenes.Proofs.PlacedScenes
import BroadcastScenes.Proofs.XSplit.Assembly
import BroadcastScenes.Proofs.DistinctNames
import BroadcastScenes.Proofs.PlacedNames
import BroadcastScenes.Proofs.WrittenEntries
import BroadcastScenes.Proofs.Streamlabs.SceneHotkeys
import BroadcastScenes.Proofs.Streamlabs.ImportedTree
import BroadcastScenes.Proofs.Streamlabs.LinkedItems
import BroadcastScenes.Proofs.Streamlabs.KeptHotkeys
import BroadcastScenes.Proofs.Text.Trimming
import BroadcastScenes.Proofs.SceneText.BlockStack
import BroadcastScenes.Proofs.Text.JoinedLines
import BroadcastScenes.Proofs.Decimal.WrittenIntegers
import BroadcastScenes.Proofs.SceneText.Document
import BroadcastScenes.Proofs.SceneText.WrittenLines
import BroadcastScenes.Proofs.SceneText.RoundTrip
import BroadcastScenes.Proofs.Markup.Writing
import BroadcastScenes.Proofs.Markup.WrittenLines
import BroadcastScenes.Proofs.Markup.RoundTrip
import BroadcastScenes.Proofs.Markup.TagStack
import BroadcastScenes.Proofs.XSplit.SharedSources
import BroadcastScenes.Proofs.KeptMembers
import BroadcastScenes.Proofs.FirstScene
import BroadcastScenes.Proofs.SameNames
import BroadcastScenes.Proofs.XSplit.Renaming
import BroadcastScenes.Proofs.Editing
import BroadcastScenes.Proofs.Sessions
import BroadcastScenes.Proofs.Dispatch
import BroadcastScenes.Proofs.RecognizedFiles
import BroadcastScenes.Proofs.DisplayedNames
import BroadcastScenes.Proofs.ObsClassic.AddedRecords
import BroadcastScenes.Proofs.XSplit.AddedRecords
import BroadcastScenes.Proofs.ItemNumbers
import BroadcastScenes.Proofs.ByteOrderMarks
import BroadcastScenes.Proofs.Decimal.Rounding
import BroadcastScenes.Proofs.Decimal.PackedDoubles
import BroadcastScenes.Proofs.Decimal.RoundedMantissas
import BroadcastScenes.Proofs.Decimal.ReadDecimals
import BroadcastScenes.Proofs.Decimal.DecimalGrids
import BroadcastScenes.Proofs.Decimal.ShortestDecimals
import BroadcastScenes.Proofs.Decimal.StepReading
import BroadcastScenes.Proofs.Decimal.Digits
import BroadcastScenes.Proofs.DistinctKeys
import BroadcastScenes.Proofs.Json.Literals
import BroadcastScenes.Proofs.Json.WrittenDoubles
import BroadcastScenes.Proofs.Json.WrittenStrings
import BroadcastScenes.Proofs.Json.WrittenValues
import BroadcastScenes.Proofs.Json.RoundTrip
import BroadcastScenes.Proofs.Value.Nesting
import BroadcastScenes.Proofs.Value.FiniteParts
import BroadcastScenes.Proofs.Value.Rereading
import BroadcastScenes.Proofs.Value.JsonTexts
import BroadcastScenes.Proofs.NestedRecords
import BroadcastScenes.Proofs.AddedDocuments
import BroadcastScenes.Proofs.SceneText.Moves
import BroadcastScenes.Proofs.SceneText.DistinctKeys
import BroadcastScenes.Proofs.ImportedDocuments
import BroadcastScenes.Proofs.Decimal.PositionalTexts
import BroadcastScenes.Proofs.Decimal.PowerEstimates
import BroadcastScenes.Proofs.Decimal.PlainTexts
import BroadcastScenes.Proofs.Markup.AttributeTexts
import BroadcastScenes.Proofs.SetupIdentifiers
import BroadcastScenes.Proofs.AdaptedRecords
import BroadcastScenes.Proofs.NativeRecords
import BroadcastScenes.Proofs.Json.FirstCharacters
import BroadcastScenes.Proofs.DetectionOrder
import BroadcastScenes.Proofs.ObsClassic.SettledEntries
import BroadcastScenes.Proofs.ObsClassic.UnsupportedEntries
import BroadcastScenes.Proofs.ObsClassic.PlacedEntries
import BroadcastScenes.Proofs.ObsClassic.SceneOrder
import BroadcastScenes.Proofs.ObsClassic.SkippedCaptures
import BroadcastScenes.Proofs.LaterLines
import BroadcastScenes.Proofs.SceneText.LinesBehind
import BroadcastScenes.Proofs.SceneText.JoinedTexts
import BroadcastScenes.Proofs.SceneText.CutTexts
import BroadcastScenes.Proofs.SceneText.Layout
import BroadcastScenes.Proofs.SceneText.MissingColons
import BroadcastScenes.Proofs.Streamlabs.NodeRecords
import BroadcastScenes.Proofs.XSplit.FirstUses
import BroadcastScenes.Proofs.CompleteImports
import BroadcastScenes.Proofs.Text.EncodedEntities
import BroadcastScenes.Proofs.XSplit.EmbeddedTags
import BroadcastScenes.Proofs.Json.SlashedStrings
import BroadcastScenes.Proofs.XSplit.Titles
import BroadcastScenes.Proofs.Markup.RootLines
import BroadcastScenes.Proofs.XSplit.RepeatedDeclarations
import BroadcastScenes.Proofs.CarriedCaptures
import BroadcastScenes.Proofs.SceneText.Outlines
import BroadcastScenes.Proofs.SceneText.RepeatedKeys
import BroadcastScenes.Proofs.ClampedTimes
import BroadcastScenes.Proofs.FoundFiles
import BroadcastScenes.Proofs.MemberwiseReading
import BroadcastScenes.Proofs.NumberSearch
import BroadcastScenes.Proofs.Text.LineReading
import BroadcastScenes.Proofs.Text.OnePass
import BroadcastScenes.Proofs.WrittenPaths
import BroadcastScenes.Proofs.Decimal.LeadingIntegers
import BroadcastScenes.Proofs.Decimal.Literals
import BroadcastScenes.Proofs.Decimal.NumberFronts
import BroadcastScenes.Proofs.Decimal.LeadingDoubles
import BroadcastScenes.Proofs.CopiedFields
