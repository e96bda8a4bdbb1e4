import FileIndex.Disk.Step
import FileIndex.Engine.Basic
import FileIndex.Projection.Remembering
import FileIndex.Projection.Asking
import FileIndex.Proofs.Arena.WellFormed
import FileIndex.Proofs.Arena.Links
import FileIndex.Proofs.Arena.Growth
import FileIndex.Proofs.Arena.Cut
import FileIndex.Proofs.Arena.KnownPaths
import FileIndex.Proofs.Arena.Collected
import FileIndex.Proofs.Tree.Locate
import FileIndex.Proofs.Outcome
import FileIndex.Proofs.Tree.Add
import FileIndex.Proofs.Tree.Change
import FileIndex.Proofs.Index.Forest
import FileIndex.Proofs.Index.Perform
import FileIndex.Proofs.Index.Sound
import FileIndex.Proofs.Index.Mutation
import FileIndex.Proofs.Path
import FileIndex.Proofs.Query.RoundTrip
import FileIndex.Proofs.Index.Gather
import FileIndex.Proofs.Index.Merge
import FileIndex.Proofs.Index.Entries
import FileIndex.Proofs.Arena.Snapshots
import FileIndex.Proofs.Filter.Evaluate
import FileIndex.Proofs.Index.Collecting
import FileIndex.Proofs.Index.Searching
import FileIndex.Proofs.Index.Effect
import FileIndex.Proofs.Index.Run
import FileIndex.Proofs.Index.Count
import FileIndex.Proofs.Index.Feed
import FileIndex.Proofs.Filter.Compile
import FileIndex.Proofs.Tree.Views
import FileIndex.Proofs.Engine.Following
import FileIndex.Proofs.Engine.Matching
import FileIndex.Proofs.Engine.Showing
import FileIndex.Proofs.Engine.Live
import FileIndex.Proofs.Disk.Entries
import FileIndex.Proofs.Disk.Resolve
import FileIndex.Proofs.Disk.Walked
import FileIndex.Proofs.Tree.Mirrors
import FileIndex.Proofs.Tree.Stands
import FileIndex.Proofs.Index.Adopting
import FileIndex.Proofs.Index.Standing
import FileIndex.Proofs.Watch.Replay
import FileIndex.Proofs.Index.Reach
import FileIndex.Proofs.Index.Arranged
import FileIndex.Proofs.Index.Paired
import FileIndex.Proofs.Index.Tracking
import FileIndex.Proofs.Filter.Fold
import FileIndex.Proofs.Command.Serving
import FileIndex.Proofs.Index.Nested
import FileIndex.Proofs.Index.Hearing
import FileIndex.Proofs.Index.Releasing
import FileIndex.Proofs.Tree.Siblings
import FileIndex.Proofs.Tree.Growing
import FileIndex.Proofs.Index.Orderly
import FileIndex.Proofs.Index.Level
import FileIndex.Proofs.Index.Apart
import FileIndex.Proofs.Engine.Excluding
import FileIndex.Proofs.Index.Intact
import FileIndex.Proofs.Index.Answering
import FileIndex.Proofs.Index.Atomic
import FileIndex.Proofs.Tree.Landing
import FileIndex.Proofs.Index.Freshness
import FileIndex.Proofs.Tree.Naming
import FileIndex.Proofs.Index.Naming
import FileIndex.Proofs.Index.Addressing
import FileIndex.Proofs.Tree.Owning
import FileIndex.Proofs.Index.Moving
import FileIndex.Proofs.Tree.Undotted
import FileIndex.Proofs.Index.Undotted
import FileIndex.Proofs.Disk.Respelled
import FileIndex.Proofs.Tree.Renewing
import FileIndex.Proofs.Index.Gaining
import FileIndex.Proofs.Index.Spotting
import FileIndex.Proofs.Index.Remaking
import FileIndex.Proofs.Index.Restoring
import FileIndex.Proofs.Arena.Every
import FileIndex.Proofs.Tree.Every
import FileIndex.Proofs.Projection.Memo
import FileIndex.Proofs.Text.Occurrence
import FileIndex.Proofs.Filter.Word
import FileIndex.Proofs.Filter.Early
import FileIndex.Proofs.Index.Telling
import FileIndex.Proofs.Index.Marking
import FileIndex.Proofs.Query.Segments
import FileIndex.Proofs.Tree.Retitling
import FileIndex.Proofs.Arena.Kept
import FileIndex.Proofs.Tree.Branch
import FileIndex.Proofs.Index.Belonging
import FileIndex.Proofs.Index.Undoing
import FileIndex.Proofs.Index.Chart
import FileIndex.Proofs.Index.Seating
import FileIndex.Proofs.Index.Reworking
import FileIndex.Proofs.Index.Reckoning
import FileIndex.Proofs.Index.Commuting
import FileIndex.Proofs.Query.Reading
import FileIndex.Proofs.Index.Areas
import FileIndex.Proofs.Watch.Halves
import FileIndex.Proofs.Engine.Keeping
import FileIndex.Proofs.Query.Size
import FileIndex.Proofs.Query.Distance
import FileIndex.Proofs.Arena.Spread
import FileIndex.Proofs.Projection.Spellings
import FileIndex.Proofs.Arena.Handling
import FileIndex.Proofs.Index.Paths
import FileIndex.Proofs.Projection.Zeros
import FileIndex.Index.Asking
import FileIndex.Proofs.Index.Asking
import FileIndex.Proofs.Index.Forms
