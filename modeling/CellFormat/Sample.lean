import CellFormat.Binary64.Basic
import CellFormat.Calendar

/-!
What a date and time format is shown for.
-/

namespace CellFormat

/-- A moment for clock formats and a duration in seconds for duration formats. -/
structure Sample where
  date : Date := ⟨2025, 10, 25, by decide, by decide, by decide⟩
  time : ClockTime := ⟨14, 30, 0, 0, by decide, by decide, by decide, by decide⟩
  duration : Binary64 := .ofNat 100000
  deriving DecidableEq

end CellFormat
