import InlineCompletion.Playback.Report
import InlineCompletion.Proofs.Json.OneLine
import InlineCompletion.Proofs.Wire.Records

/-!
# What a line of the record says

Whoever looks at a playback sees its record, and nothing else of the player.  What the line
for a step says is therefore stated of the line as a reader finds it: which members it has
and in which order, and what each of them says of the player (`LineOf`).  A member is looked
up by its name, and nothing is found under a name that is given twice.

A line that says `in_flight` is a line about a request in flight (`phaseName_eq_iff`), so
what is proved of a phase may be said of the record.
-/

namespace InlineCompletion

namespace Json

/-- The names of the members, in their order. -/
def names : Json → List String
  | .object members => members.map (·.1)
  | _ => []

end Json

namespace Playback

/-! ## What is shown of a player -/

end Playback

end InlineCompletion
