import Worldsmith.Archive.Crc32
import Worldsmith.Archive.Deflate
import Worldsmith.Archive.Inflate
import Worldsmith.Archive.Reader
import Worldsmith.Archive.Record
import Worldsmith.Archive.Writer
import Worldsmith.Catalog.Basic
import Worldsmith.Catalog.Compile
import Worldsmith.Catalog.Naming
import Worldsmith.Catalog.Passes
import Worldsmith.CommandLine
import Worldsmith.Decimal.Shortest
import Worldsmith.Diagnostic
import Worldsmith.Entity.Id
import Worldsmith.Entity.Remap
import Worldsmith.Failure
import Worldsmith.Files.Disk
import Worldsmith.Files.Memory
import Worldsmith.Files.Path
import Worldsmith.Game.Basic
import Worldsmith.Game.Read
import Worldsmith.Json.Basic
import Worldsmith.Json.Decode
import Worldsmith.Json.Draft
import Worldsmith.Json.Fault
import Worldsmith.Json.Number
import Worldsmith.Json.Printer
import Worldsmith.Json.Reader
import Worldsmith.Json.Text
import Worldsmith.Level.Codec
import Worldsmith.Level.Data
import Worldsmith.Level.Index
import Worldsmith.Level.Sector
import Worldsmith.Main
import Worldsmith.Options.AmmoCapacity
import Worldsmith.Options.CapacityUpgrades
import Worldsmith.Options.Difficulty
import Worldsmith.Options.InvisibilityTrap
import Worldsmith.Options.PlayerOption
import Worldsmith.Options.Setting
import Worldsmith.Options.Standard
import Worldsmith.Options.StartWithMaps
import Worldsmith.Options.WorldOption
import Worldsmith.Proofs.Catalog.Conservation
import Worldsmith.Proofs.Catalog.Extension
import Worldsmith.Proofs.Catalog.Ledger
import Worldsmith.Proofs.Catalog.Locations
import Worldsmith.Proofs.Catalog.DistinctNames
import Worldsmith.Proofs.Catalog.Naming
import Worldsmith.Proofs.Catalog.Passes
import Worldsmith.Proofs.Catalog.Uniqueness
import Worldsmith.Proofs.Entity.Renumbering
import Worldsmith.Proofs.Entity.Survivors
import Worldsmith.Proofs.Level.Collection
import Worldsmith.Proofs.Level.Extension
import Worldsmith.Proofs.Outcome
import Worldsmith.Proofs.Region.Closed
import Worldsmith.Region.Document
import Worldsmith.Region.Name
import Worldsmith.Region.Resolve
import Worldsmith.Sink.Archive
import Worldsmith.Sink.Basic
import Worldsmith.Sink.Folder
import Worldsmith.Sink.Recorder
import Worldsmith.SortedMap
import Worldsmith.Text.Bytes
import Worldsmith.Text.Case
import Worldsmith.Text.Display
import Worldsmith.Text.Hidden
import Worldsmith.Text.Lines
import Worldsmith.Text.Quoted
import Worldsmith.Time
import Worldsmith.Word
import Worldsmith.World.Documents
import Worldsmith.World.Package
import Worldsmith.World.Source
import Worldsmith.Proofs.Region.Codes
import Worldsmith.Proofs.Region.Graph
import Worldsmith.Proofs.Region.Reachability
import Worldsmith.Proofs.Region.Completion
import Worldsmith.Proofs.Catalog.Items
import Worldsmith.Proofs.Region.Requirements
import Worldsmith.Proofs.Archive.Reading
import Worldsmith.Proofs.Archive.Writing
import Worldsmith.Proofs.Archive.Limits
import Worldsmith.Proofs.Catalog.Groups
import Worldsmith.Proofs.Catalog.AnyOrder
import Worldsmith.Proofs.Catalog.Frozen
import Worldsmith.Proofs.Json.Object
import Worldsmith.Proofs.World.LocationTable
import Worldsmith.Proofs.Sink.Log
import Worldsmith.Proofs.Options.Declarations
import Worldsmith.Proofs.Files.Walk
import Worldsmith.Proofs.World.Documents
import Worldsmith.Proofs.World.Paths
import Worldsmith.Proofs.Files.Operations
import Worldsmith.Proofs.Files.Recorded
import Worldsmith.Proofs.Sink.Folder
import Worldsmith.Proofs.World.Confinement
import Worldsmith.Proofs.CommandLine
import Worldsmith.Proofs.Files.Memory
import Worldsmith.Proofs.Entity.FreshIds
import Worldsmith.Proofs.Catalog.Placement
import Worldsmith.Proofs.Options.HookFields
import Worldsmith.Proofs.Json.Scalars
import Worldsmith.Proofs.Json.Grammar
import Worldsmith.Proofs.Json.Reading
import Worldsmith.Proofs.Json.RoundTrip
import Worldsmith.Proofs.Json.Records
import Worldsmith.Proofs.Level.Codec
import Worldsmith.Proofs.Entity.Reordering
import Worldsmith.Proofs.Catalog.Binding
import Worldsmith.Proofs.Level.Sectors
import Worldsmith.Proofs.Level.Outline
import Worldsmith.Proofs.Level.Convex
import Worldsmith.Proofs.Region.Connections
import Worldsmith.Proofs.Catalog.KeyCopies
import Worldsmith.Proofs.Catalog.KeySlots
import Worldsmith.Proofs.Options.Defaults
import Worldsmith.Proofs.Text.Identifier
import Worldsmith.Proofs.Text.Literal
import Worldsmith.Proofs.Options.Fields
import Worldsmith.Proofs.Options.Names
import Worldsmith.Proofs.World.OptionsSource
import Worldsmith.Proofs.Files.Faults
import Worldsmith.Proofs.Files.Scripted
import Worldsmith.Proofs.Sink.Archive
import Worldsmith.Proofs.Sink.FolderWrites
import Worldsmith.Proofs.Entity.ItemIds
import Worldsmith.Proofs.Text.SnakeCase
