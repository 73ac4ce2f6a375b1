import CellFormat.Code.Literal
import CellFormat.Color
import CellFormat.Condition
import CellFormat.DateTime.Settings

/-!
Date and time formats as lists of typed parts, and their codes. The month and the minute are written
with the same letter but are parts of different kinds.
-/

namespace CellFormat

/-- Parts that read the date. A doubled number has at least two digits. -/
inductive CalendarPart
  | year2 | year4
  | month | month2 | monthShort | monthFull | monthLetter
  | day | day2 | dayShort | dayFull
  deriving DecidableEq, Repr

def CalendarPart.code : CalendarPart → String
  | year2 => "yy"
  | year4 => "yyyy"
  | month => "m"
  | month2 => "mm"
  | monthShort => "mmm"
  | monthFull => "mmmm"
  | monthLetter => "mmmmm"
  | day => "d"
  | day2 => "dd"
  | dayShort => "ddd"
  | dayFull => "dddd"

/-- Parts that read the time within the next longer unit. -/
inductive ClockPart
  | hour | hour2 | minute | minute2 | second | second2
  deriving DecidableEq, Repr

def ClockPart.code : ClockPart → String
  | hour => "h"
  | hour2 => "hh"
  | minute => "m"
  | minute2 => "mm"
  | second => "s"
  | second2 => "ss"

/-- Parts that count on without end. -/
inductive ElapsedPart
  | hours | minutes | seconds | seconds2
  deriving DecidableEq, Repr

def ElapsedPart.code : ElapsedPart → String
  | hours => "[h]"
  | minutes => "[m]"
  | seconds => "[s]"
  | seconds2 => "[ss]"

inductive FormatPart
  | locale (content : String)
  | calendar (part : CalendarPart)
  | clock (part : ClockPart)
  | subSecond (places : UInt8)
  | elapsed (part : ElapsedPart)
  | amPm (style : AmPmStyle)
  /-- Text in quotes. -/
  | literal (text : String)
  /-- Text that needs no quotes. -/
  | separator (text : String)
  deriving DecidableEq, Repr

namespace FormatPart

def code : FormatPart → String
  | locale content => "[" ++ content ++ "]"
  | calendar part => part.code
  | clock part => part.code
  | subSecond places => String.ofList ('.' :: List.replicate places.toNat '0')
  | elapsed part => part.code
  | amPm style => style.code
  | literal text => quote text
  | separator text => text

def isCalendar : FormatPart → Bool
  | calendar _ => true
  | _ => false

def isAmPm : FormatPart → Bool
  | amPm _ => true
  | _ => false

def elapsed? : FormatPart → Option ElapsedPart
  | elapsed part => some part
  | _ => none

def subSecond? : FormatPart → Option UInt8
  | subSecond places => some places
  | _ => none

end FormatPart

structure FormatSection where
  condition : Option Condition := none
  color : Option Color := none
  parts : List FormatPart
  deriving DecidableEq, Repr

namespace FormatSection

def code (block : FormatSection) : String :=
  (match block.condition with | some condition => condition.tag | none => "") ++ Color.tag block.color ++
    String.join (block.parts.map FormatPart.code)

def hasAmPm (block : FormatSection) : Bool := block.parts.any FormatPart.isAmPm

/-- The first unit that counts on without end. -/
def elapsed? (block : FormatSection) : Option ElapsedPart := block.parts.findSome? FormatPart.elapsed?

/-- The places after the second, as its first such part has them. -/
def subSecondPlaces (block : FormatSection) : UInt8 := (block.parts.findSome? FormatPart.subSecond?).getD 0

end FormatSection

structure DateTimeFormat where
  sections : List FormatSection
  deriving DecidableEq, Repr

namespace DateTimeFormat

def code (format : DateTimeFormat) : String := ";".intercalate (format.sections.map FormatSection.code)

def parts (format : DateTimeFormat) : List FormatPart := format.sections.flatMap FormatSection.parts

def hasCalendarParts (format : DateTimeFormat) : Bool := format.parts.any FormatPart.isCalendar

def isElapsed (format : DateTimeFormat) : Bool := format.parts.any fun part => part.elapsed?.isSome

def isEmpty (format : DateTimeFormat) : Bool := format.sections.all fun block => block.parts.isEmpty

end DateTimeFormat

end CellFormat
