import Provision.Text.Blank
import Provision.Text.Decimal
import Provision.Text.Utf8

/-!
# Excerpts

The form in which a text from outside is written to the log: at most its first 200 bytes, with a note of its full
length if it is longer, and without control characters. Main statements: an excerpt has no control character
(`not_isControl_excerpt`), and that of a short text is the text without its control characters
(`excerpt_of_bytes_le`).
-/

namespace Provision.Text

/-- The most bytes of a text that are kept. -/
def excerptLimit : Nat := 200

/-- Drops the control characters. -/
def strip (s : List Char) : List Char := s.filter fun c => !isControl c

/-- What stands after a text that is cut. -/
def cutNote (total : Nat) : List Char :=
  "... [truncated, ".toList ++ Decimal.ofNat total ++ " bytes total]".toList

/-- The excerpt of a text. -/
def excerpt (s : List Char) : List Char :=
  strip (if bytes s ≤ excerptLimit then s else fitting excerptLimit s ++ cutNote (bytes s))

/-- The excerpt of a text. -/
def excerptText (s : String) : String := String.ofList (excerpt s.toList)

theorem not_isControl_excerpt {s : List Char} {c : Char} (h : c ∈ excerpt s) : isControl c = false := by
  simpa using (List.mem_filter.1 h).2

theorem excerpt_of_bytes_le {s : List Char} (h : bytes s ≤ excerptLimit) : excerpt s = strip s := by
  rw [excerpt, if_pos h]

end Provision.Text
