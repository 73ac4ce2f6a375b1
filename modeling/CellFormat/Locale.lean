/-!
The marks and names a preview is written with. The default is English as used in the United States.
-/

namespace CellFormat

structure Locale where
  decimalMark : Char := '.'
  groupMark : Char := ','
  am : String := "AM"
  pm : String := "PM"
  monthsShort : Vector String 12 :=
    #v["Jan", "Feb", "Mar", "Apr", "May", "Jun", "Jul", "Aug", "Sep", "Oct", "Nov", "Dec"]
  monthsFull : Vector String 12 :=
    #v["January", "February", "March", "April", "May", "June", "July", "August", "September", "October",
      "November", "December"]
  daysShort : Vector String 7 := #v["Sun", "Mon", "Tue", "Wed", "Thu", "Fri", "Sat"]
  daysFull : Vector String 7 :=
    #v["Sunday", "Monday", "Tuesday", "Wednesday", "Thursday", "Friday", "Saturday"]
  deriving DecidableEq, Repr

namespace Locale

/-- The entry of a month counted from one, and nothing for a month that is none. -/
def monthEntry (names : Vector String 12) (month : Nat) : String :=
  if month = 0 then "" else (names[month - 1]?).getD ""

def monthShort (locale : Locale) (month : Nat) : String := monthEntry locale.monthsShort month

def monthFull (locale : Locale) (month : Nat) : String := monthEntry locale.monthsFull month

/-- The first letter of the full name. -/
def monthLetter (locale : Locale) (month : Nat) : String :=
  String.ofList ((locale.monthFull month).toList.take 1)

/-- The short name of a day counted from Sunday. -/
def dayShort (locale : Locale) (weekday : Fin 7) : String := locale.daysShort[weekday]

def dayFull (locale : Locale) (weekday : Fin 7) : String := locale.daysFull[weekday]

end Locale

end CellFormat
