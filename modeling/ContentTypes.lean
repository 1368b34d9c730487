import ContentTypes.Decode.Options
import ContentTypes.Main
import ContentTypes.Proofs.Resolution
import ContentTypes.Proofs.SchemaContents
import ContentTypes.Proofs.Interface
import ContentTypes.Proofs.InputOrder
import ContentTypes.Proofs.CaseConversion
import ContentTypes.Proofs.DisplayNames
import ContentTypes.Proofs.Influence
import ContentTypes.Proofs.Reports
import ContentTypes.Proofs.FieldShapes
import ContentTypes.Proofs.References
import ContentTypes.Proofs.Discriminators
import ContentTypes.Proofs.Unions
import ContentTypes.Proofs.TypeGrammar
import ContentTypes.Proofs.TypeReading
import ContentTypes.Proofs.ArrayTexts
import ContentTypes.Proofs.ShownTypes
import ContentTypes.Proofs.TypeComposition
import ContentTypes.Proofs.MemberOrder
import ContentTypes.Proofs.LiteralReading
import ContentTypes.Proofs.QuotedText
import ContentTypes.Proofs.FileLines
import ContentTypes.Proofs.FileReading
import ContentTypes.Proofs.SettingsLayers
import ContentTypes.Proofs.JsonReading
import ContentTypes.Proofs.JsonText
import ContentTypes.Proofs.PrintedJson
import ContentTypes.Proofs.NestedJson
import ContentTypes.Proofs.RecordRoundTrip
import ContentTypes.Proofs.SnapshotLayouts
import ContentTypes.Proofs.ObjectReading
import ContentTypes.Proofs.NeutralKeys
import ContentTypes.Proofs.TagTexts
import ContentTypes.Proofs.YamlScalars
import ContentTypes.Proofs.YamlBlocks
import ContentTypes.Proofs.YamlEntries
import ContentTypes.Proofs.PrintedSettings
import ContentTypes.Proofs.SavedConfiguration
import ContentTypes.Proofs.OptionOrder
import ContentTypes.Proofs.Delivery
import ContentTypes.Proofs.FailedRuns
import ContentTypes.Proofs.Generation
import ContentTypes.Proofs.PrintedSchemas
import ContentTypes.Proofs.FilePlaces
