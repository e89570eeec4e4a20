import PackageInstall.Cluster
import PackageInstall.ClusterRole
import PackageInstall.Completion
import PackageInstall.Coordinates
import PackageInstall.Decimal.Binary64
import PackageInstall.Decimal.Notation
import PackageInstall.Decimal.Numeral
import PackageInstall.Decimal.Power
import PackageInstall.Decimal.Shortest
import PackageInstall.Documents
import PackageInstall.InstallError
import PackageInstall.InstallRequest
import PackageInstall.Job
import PackageInstall.Json
import PackageInstall.Json.Fault
import PackageInstall.Json.Letters
import PackageInstall.Json.Numeral
import PackageInstall.Json.Reader
import PackageInstall.KeyMap
import PackageInstall.Level
import PackageInstall.LogBook
import PackageInstall.LogFilter
import PackageInstall.LogSink
import PackageInstall.Metadata
import PackageInstall.Note
import PackageInstall.Object
import PackageInstall.Persona
import PackageInstall.PodSpec
import PackageInstall.Provenance
import PackageInstall.Reading.Basic
import PackageInstall.Reading.Fault
import PackageInstall.Reading.Record
import PackageInstall.Resource
import PackageInstall.Selector
import PackageInstall.Settings
import PackageInstall.Settings.Environment
import PackageInstall.Settings.Fault
import PackageInstall.Settings.File
import PackageInstall.Settings.Ini
import PackageInstall.Settings.Json5
import PackageInstall.Settings.Layers
import PackageInstall.Settings.Path
import PackageInstall.Settings.Ron
import PackageInstall.Settings.Setting
import PackageInstall.Settings.Yaml.Block
import PackageInstall.Settings.Yaml.Document
import PackageInstall.Settings.Yaml.Lexer
import PackageInstall.Settings.Yaml.Property
import PackageInstall.Settings.Yaml.Scalar
import PackageInstall.Settings.Yaml.Token
import PackageInstall.Settings.Yaml.Value
import PackageInstall.Store
import PackageInstall.Sweep
import PackageInstall.Text.Blank
import PackageInstall.Text.Cased
import PackageInstall.Text.Letter
import PackageInstall.Text.Lower
import PackageInstall.Text.Name
import PackageInstall.Text.Pattern
import PackageInstall.Text.Quoted
import PackageInstall.Text.Runs
import PackageInstall.Text.Scan
import PackageInstall.Text.Shapeless
import PackageInstall.Text.Utf8
import PackageInstall.Timestamp
import PackageInstall.Timestamp.Reader
import PackageInstall.Toml.Document
import PackageInstall.Toml.Item
import PackageInstall.Toml.Scalar
import PackageInstall.UnpackJob
import PackageInstall.Yaml
import PackageInstall.Yaml.Block
import PackageInstall.Yaml.Cursor
import PackageInstall.Yaml.Lexer
import PackageInstall.Yaml.Node
import PackageInstall.Yaml.Property
import PackageInstall.Yaml.Scalar
import PackageInstall.Yaml.Source
import PackageInstall.Yaml.Tag
import PackageInstall.Yaml.Token
import PackageInstall.Yaml.Value
import PackageInstall.Proofs.KeyMap
import PackageInstall.Proofs.Reading
import PackageInstall.Proofs.Metadata
import PackageInstall.Proofs.Resource
import PackageInstall.Proofs.Cluster
import PackageInstall.Proofs.Agenda
import PackageInstall.Proofs.History
import PackageInstall.Proofs.Provenance
import PackageInstall.Proofs.Coordinates
import PackageInstall.Proofs.Making
import PackageInstall.Proofs.Origin
import PackageInstall.Proofs.Persona
import PackageInstall.Proofs.Completion
import PackageInstall.Proofs.Course
import PackageInstall.Proofs.Plan
import PackageInstall.Proofs.Effect
import PackageInstall.Proofs.Repetition
import PackageInstall.Proofs.Retry
import PackageInstall.Proofs.Record
import PackageInstall.Proofs.Deletion
import PackageInstall.Proofs.Sweep
import PackageInstall.Proofs.Chronicle
import PackageInstall.Proofs.Leftover
import PackageInstall.Proofs.StandIn
import PackageInstall.Proofs.Neighbour
import PackageInstall.Proofs.Decoding
import PackageInstall.Proofs.Lossless
import PackageInstall.Proofs.Passage
import PackageInstall.Proofs.Restoration
import PackageInstall.Proofs.Succession
import PackageInstall.Proofs.TypedStore
import PackageInstall.Proofs.Workload
import PackageInstall.Proofs.Independence
import PackageInstall.Proofs.Discovery
import PackageInstall.Proofs.Documents
import PackageInstall.Proofs.Stream
import PackageInstall.Proofs.Concatenation
import PackageInstall.Proofs.Blank
import PackageInstall.Proofs.Truncation
import PackageInstall.Proofs.Marking
import PackageInstall.Proofs.Aggregation
import PackageInstall.Proofs.Drawing
import PackageInstall.Proofs.ReadThrough
import PackageInstall.Proofs.VersionText
import PackageInstall.Proofs.RoleName
import PackageInstall.Proofs.Assignment
import PackageInstall.Proofs.Layers
import PackageInstall.Proofs.Precedence
import PackageInstall.Proofs.Order
import PackageInstall.Proofs.Numeral
import PackageInstall.Proofs.Variable
