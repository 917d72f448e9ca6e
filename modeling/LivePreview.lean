import LivePreview.Baseline
import LivePreview.Channel
import LivePreview.Example.Files
import LivePreview.Example.Loader
import LivePreview.Proofs.LiteralText
import LivePreview.Proofs.Fallbacks
import LivePreview.Proofs.HostReplay
import LivePreview.Proofs.Link
import LivePreview.Proofs.MemoizedWorker
import LivePreview.Proofs.ModuleOwnership
import LivePreview.Proofs.MountIdentity
import LivePreview.Proofs.NewestStylesheet
import LivePreview.Realm.Document
import LivePreview.Registry.Address
import LivePreview.Registry.Item
import LivePreview.Session.Assembly
import LivePreview.Snippet
import LivePreview.Style.Compiler
import LivePreview.Proofs.Members
import LivePreview.Proofs.NumericHosts
import LivePreview.Proofs.StyleIsolation
import LivePreview.Proofs.Brackets
import LivePreview.Proofs.PublicHosts
import LivePreview.Proofs.RuleText
import LivePreview.Proofs.RuleOrder
import LivePreview.Proofs.DeniedImport
import LivePreview.Proofs.WireFormat
import LivePreview.Proofs.TimedEvents
import LivePreview.Proofs.BuiltIndex
import LivePreview.Proofs.CenteredModule
import LivePreview.Proofs.MappedVariables
import LivePreview.Proofs.RealmPage
import LivePreview.Proofs.BuiltTable
import LivePreview.Proofs.SnippetHistory
import LivePreview.Proofs.DeepImport
import LivePreview.Proofs.PreparedItem
import LivePreview.Proofs.CandidateParts
import LivePreview.Proofs.ClassEscapes
import LivePreview.Proofs.RuleElement
import LivePreview.Proofs.Positions
import LivePreview.Proofs.ClassFronts
import LivePreview.Proofs.ColorOrLength
import LivePreview.Proofs.NegativeClasses
import LivePreview.Proofs.RegularFamilies
import LivePreview.Proofs.NegatedKeywords
import LivePreview.Proofs.NaturalOrder
import LivePreview.Proofs.FileNames
import LivePreview.Proofs.AccountedFiles
import LivePreview.Proofs.IndexDocuments
import LivePreview.Proofs.NewestFetch
import LivePreview.Proofs.BestFile
import LivePreview.Proofs.RegistryPaths
import LivePreview.Proofs.PublishedTokens
import LivePreview.Proofs.ConsoleTail
import LivePreview.Proofs.RealmHistory
import LivePreview.Proofs.PlainHeaders
import LivePreview.Proofs.PropertyClasses
import LivePreview.Proofs.ShorthandOrder
import LivePreview.Proofs.SharedCounter
