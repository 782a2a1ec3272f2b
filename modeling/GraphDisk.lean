import GraphDisk.Main
import GraphDisk.Proofs.FileSystem.Leads
import GraphDisk.Proofs.FileSystem.Entry
import GraphDisk.Proofs.FileSystem.Calls
import GraphDisk.Proofs.FileSystem.MakeDirectories
import GraphDisk.Proofs.FileSystem.Growth
import GraphDisk.Proofs.Publication.StagingName
import GraphDisk.Proofs.Publication.Run
import GraphDisk.Proofs.Publication.Assembly
import GraphDisk.Proofs.Publication.Failure
import GraphDisk.Proofs.Publication.Restored
import GraphDisk.Proofs.UnorderedDisk.Publication
import GraphDisk.Proofs.Outcome
import GraphDisk.Proofs.Shard.RoundTrip
import GraphDisk.Proofs.VertexSet
import GraphDisk.Proofs.Attribute
import GraphDisk.Proofs.EdgeBundle
import GraphDisk.Proofs.Condensed
import GraphDisk.Proofs.Publication.FreePlace
import GraphDisk.Proofs.Publication.Residue
import GraphDisk.Proofs.Publication.History
import GraphDisk.Proofs.Publication.Phases
import GraphDisk.Proofs.UnorderedDisk.Failure
import GraphDisk.Proofs.UnorderedDisk.Holds
import GraphDisk.Proofs.UnorderedDisk.Attribute
import GraphDisk.Proofs.UnorderedDisk.EdgeBundle
import GraphDisk.Proofs.UnorderedDisk.VertexSet
import GraphDisk.Proofs.UnorderedDisk.Complete
import GraphDisk.Proofs.UnorderedDisk.Builder
import GraphDisk.Proofs.UnorderedDisk.NormalForm
import GraphDisk.Proofs.Text.ByteOrder
import GraphDisk.Proofs.Shard.Layout
import GraphDisk.Proofs.UnorderedDisk.Layout
import GraphDisk.Proofs.UnorderedDisk.FailedRead
import GraphDisk.Proofs.UnorderedDisk.Repeated
import GraphDisk.Proofs.UnorderedDisk.Interrupted
import GraphDisk.Proofs.UnorderedDisk.LongPath
import GraphDisk.Proofs.Columns.Indexing
import GraphDisk.Proofs.Columns.Entity
import GraphDisk.Proofs.Columns.Disk
import GraphDisk.Proofs.FileSystem.Footprint
import GraphDisk.Proofs.Publication.Footprint
import GraphDisk.Proofs.UnorderedDisk.ReadAlike
import GraphDisk.Proofs.UnorderedDisk.Independent
import GraphDisk.Proofs.Store
import GraphDisk.Proofs.UnorderedDisk.Run
import GraphDisk.Proofs.UnorderedDisk.ExternalView
import GraphDisk.Proofs.UnorderedDisk.UnsetDependency
import GraphDisk.Proofs.Shard.Nested
import GraphDisk.Proofs.Shard.Detection
import GraphDisk.Proofs.Workers
import GraphDisk.Proofs.Shard.ForeignRows
import GraphDisk.Proofs.FileSystem.WriteFile
import GraphDisk.Proofs.Shard.SavedRows
import GraphDisk.Proofs.Reordered
import GraphDisk.Proofs.UnorderedDisk.Enumeration
import GraphDisk.Proofs.Shard.RowTexts
import GraphDisk.Proofs.ShardDirectory.PartNames
import GraphDisk.Proofs.UnorderedDisk.NumberedParts
import GraphDisk.Proofs.Json.Forms
