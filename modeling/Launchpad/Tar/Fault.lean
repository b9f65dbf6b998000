/-!
Why reading an archive breaks off.
-/

namespace Launchpad.Tar

inductive Fault where
  | shortBlock
  | shortPadding
  | badSum
  | badNumber
  | sizeOverflow
  | doubleDescription
  | nothingDescribed
  /-- A file with gaps in a layout that has none. -/
  | gapsUnsupported
  /-- The stretches of a file with gaps do not lie one behind the other. -/
  | stretchesUnordered
  /-- The stretches of a file with gaps do not add up to what its header states. -/
  | stretchesMismatch
  deriving DecidableEq, Repr

def Fault.message : Fault → String
  | .shortBlock => "failed to read entire block"
  | .shortPadding => "unexpected EOF during skip"
  | .badSum => "archive header checksum mismatch"
  | .badNumber => "numeric field was not a number"
  | .sizeOverflow => "size overflow"
  | .doubleDescription => "two extension entries describing the same member"
  | .nothingDescribed => "members found describing a future member but no future member found"
  | .gapsUnsupported => "sparse entry type listed but not GNU header"
  | .stretchesUnordered => "out of order or overlapping sparse blocks"
  | .stretchesMismatch => "mismatch in sparse file chunks and size in header"

end Launchpad.Tar
