import PartCache.Bytes
import PartCache.Digest.Sha1
import PartCache.Number.Decimal
import PartCache.Number.Binary64
import PartCache.Number.Shortest
import PartCache.Text.Blank
import PartCache.Text.Unprintable
import PartCache.Text.Quoted
import PartCache.Json.Value
import PartCache.Schema.Shape
import PartCache.Json.Reader
import PartCache.Error
import PartCache.Range
import PartCache.Object.Id
import PartCache.Object.Metadata
import PartCache.Object.Json
import PartCache.Object.Decode
import PartCache.Store.Layout
import PartCache.Store.Disk
import PartCache.Store.Files
import PartCache.Store.Objects
import PartCache.Store.Paths
import PartCache.Config
import PartCache.Eviction.Tiers
import PartCache.Eviction.Slab
import PartCache.Eviction.Script
import PartCache.Zone.Metrics
import PartCache.Zone.Upstream
import PartCache.Zone.State
import PartCache.Zone.Parts
import PartCache.Zone.Writer
import PartCache.Zone.Reader
import PartCache.Zone.Restore
import PartCache.Zone.Session
import PartCache.Yaml.Token
import PartCache.Yaml.Lexer
import PartCache.Yaml.Event
import PartCache.Yaml.Document
import PartCache.Yaml.Scalar
import PartCache.Yaml.Decode
import PartCache.Config.Yaml
import PartCache.Text.Table
import PartCache.Text.CombiningClass
import PartCache.Text.Decomposition
import PartCache.Text.Normalization
import PartCache.Text.BidiClass
import PartCache.Text.JoiningType
import PartCache.Text.Mark
import PartCache.Idna.Mapping
import PartCache.Idna.Punycode
import PartCache.Idna.Label
import PartCache.Idna.Domain
import PartCache.Http.Url
import PartCache.Http.Status
import PartCache.Http.Upstream
import PartCache.Main
import PartCache.Proofs.Validation
import PartCache.Proofs.SlabLinks
import PartCache.Proofs.SlabInvariant
import PartCache.Proofs.SlabRefinement
import PartCache.Proofs.SlabRun
import PartCache.Proofs.TierBound
import PartCache.Proofs.SlabAccounting
import PartCache.Zone.Downloads
import PartCache.Proofs.KeyedTable
import PartCache.Proofs.DownloadProtocol
import PartCache.Proofs.ObjectFiles
import PartCache.Proofs.TierMembers
import PartCache.Proofs.Publishing
import PartCache.Zone.Scheduler
import PartCache.Proofs.SchedulerProtocol
import PartCache.Proofs.SchedulerDelivery
import PartCache.Proofs.TierMoves
import PartCache.Proofs.TierPolicy
import PartCache.Proofs.WholeParts
import PartCache.Proofs.RangeReading
import PartCache.Proofs.RelatedRuns
import PartCache.Proofs.ZoneWrites
import PartCache.Proofs.RoundTrip
import PartCache.Proofs.RecentParts
import PartCache.Proofs.ObjectPaths
import PartCache.Zone.Drain
import PartCache.Proofs.DrainFiles
import PartCache.Proofs.DirectoryWalk
import PartCache.Proofs.RestoreConsistency
import PartCache.Proofs.DecimalText
import PartCache.Proofs.ContentRangeHeader
import PartCache.Proofs.PartNumbers
import PartCache.Proofs.RangeFetch
import PartCache.Proofs.SettingsCodec
import PartCache.Proofs.ZonePreparation
import PartCache.Proofs.WriterLoop
