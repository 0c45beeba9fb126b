import Harvest.Digest
import Harvest.Text.Alphanumeric

/-!
Fingerprints of content that is absent: the digest of a clock reading and twenty drawn characters.
-/

namespace Harvest.Digest

/-- How many characters are drawn. -/
def drawnLength : Nat := 20

/-- The fingerprint that stands for no text, from the printed clock and a source of numbers. -/
def fingerprintOfNothing (clock : String) (draw : Nat → Nat) : String :=
  fingerprint (clock ++ Text.alphanumeric draw drawnLength)

end Harvest.Digest
