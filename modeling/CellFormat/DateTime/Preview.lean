import CellFormat.Binary64.Arithmetic
import CellFormat.DateTime.Build
import CellFormat.Decimal
import CellFormat.Locale
import CellFormat.Sample
import CellFormat.Text.Case

/-!
What a date and time format shows for a sample. Calendar parts read the sample's date; the others read a
number of seconds, which is the time of day in clock mode and the length of the duration in duration
mode.
-/

namespace CellFormat

structure TimeFields where
  hours : Nat
  minutes : Nat
  seconds : Nat
  /-- The decimals of the second, as a whole number of `precision` digits. -/
  fraction : Nat
  places : UInt8
  /-- The decimals that are counted; those after them are zeros. -/
  precision : Nat
  deriving DecidableEq, Repr

/-- The most decimals of a second that are counted. -/
def maxPrecision : Nat := 9

def ClockTime.seconds (time : ClockTime) : Binary64 :=
  .ofNat time.secondsFromMidnight + .ofNat time.nano / .ofNat 1000000000

namespace Sample

/-- The seconds that a mode reads, without their sign; an endless duration counts as none. -/
def seconds (sample : Sample) : DateTimeMode → Binary64
  | .clock => sample.time.seconds
  | .duration => if sample.duration.isFinite then sample.duration.abs else .zero

/-- Whether a mode reads a negative time. -/
def isNegative (sample : Sample) : DateTimeMode → Bool
  | .clock => false
  | .duration => sample.duration.isFinite && sample.duration.lt .zero

end Sample

namespace FormatSection

/-- How many decimals of the second a section counts. -/
def precision (block : FormatSection) : Nat := min block.subSecondPlaces.toNat maxPrecision

def ticksPerSecond (block : FormatSection) : Nat := Nat.pow 10 block.precision

/-- The smallest steps of time a section counts. Decimals are rounded, whole seconds cut off. -/
def ticks (block : FormatSection) (seconds : Binary64) : Nat :=
  if 0 < block.precision then (seconds * .ofNat block.ticksPerSecond).round.toWord
  else seconds.truncate.toWord

/-- The numbers a section shows. The unit that counts on takes in all longer ones; without such a unit
only a clock starts anew after a day. -/
def timeFields (block : FormatSection) (mode : DateTimeMode) (seconds : Binary64) : TimeFields :=
  let ticks := block.ticks seconds
  let whole := ticks / block.ticksPerSecond
  let (hours, minutes, seconds) := match block.elapsed?, mode with
    | some .hours, _ => (whole / 3600, whole / 60 % 60, whole % 60)
    | some .minutes, _ => (0, whole / 60, whole % 60)
    | some .seconds, _ | some .seconds2, _ => (0, 0, whole)
    | none, .clock => (whole / 3600 % 24, whole / 60 % 60, whole % 60)
    | none, .duration => (whole / 3600, whole / 60 % 60, whole % 60)
  { hours, minutes, seconds
    fraction := ticks % block.ticksPerSecond
    places := block.subSecondPlaces
    precision := block.precision }

end FormatSection

def hourOfTwelve (hour : Nat) : Nat :=
  if hour = 0 then 12 else if hour ≤ 12 then hour else hour - 12

/-- A year with at least four characters, the sign being one of them. -/
def yearText (year : Int) : List Char :=
  if year < 0 then '-' :: paddedDigits 3 year.natAbs else paddedDigits 4 year.natAbs

def CalendarPart.preview (part : CalendarPart) (locale : Locale) (date : Date) : String :=
  match part with
  | .year2 => String.ofList (paddedDigits 2 (date.year % 100).toNat)
  | .year4 => String.ofList (yearText date.year)
  | .month => String.ofList (decimalDigits date.month)
  | .month2 => String.ofList (paddedDigits 2 date.month)
  | .monthShort => locale.monthShort date.month
  | .monthFull => locale.monthFull date.month
  | .monthLetter => locale.monthLetter date.month
  | .day => String.ofList (decimalDigits date.day)
  | .day2 => String.ofList (paddedDigits 2 date.day)
  | .dayShort => locale.dayShort date.weekday
  | .dayFull => locale.dayFull date.weekday

namespace TimeFields

def clockDigits (fields : TimeFields) (hasAmPm : Bool) : ClockPart → List Char :=
  let hour := if hasAmPm then hourOfTwelve fields.hours else fields.hours
  fun
    | .hour => decimalDigits hour
    | .hour2 => paddedDigits 2 hour
    | .minute => decimalDigits fields.minutes
    | .minute2 => paddedDigits 2 fields.minutes
    | .second => decimalDigits fields.seconds
    | .second2 => paddedDigits 2 fields.seconds

def elapsedDigits (fields : TimeFields) : ElapsedPart → List Char
  | .hours => decimalDigits fields.hours
  | .minutes => decimalDigits fields.minutes
  | .seconds => decimalDigits fields.seconds
  | .seconds2 => paddedDigits 2 fields.seconds

/-- The decimals of the second. A part of other places than the first one has no digits but zeros. -/
def subSecondText (fields : TimeFields) (locale : Locale) (places : UInt8) : List Char :=
  if places = 0 then []
  else if places = fields.places then
    locale.decimalMark :: paddedDigits fields.precision fields.fraction ++
      List.replicate (places.toNat - fields.precision) '0'
  else locale.decimalMark :: List.replicate places.toNat '0'

def amPmText (fields : TimeFields) (locale : Locale) (style : AmPmStyle) : String :=
  let marker := if 12 ≤ fields.hours then locale.pm else locale.am
  let letter := String.ofList (marker.toList.take 1)
  match style with
  | .upper => uppercase marker
  | .lower => lowercase marker
  | .shortUpper => uppercase letter
  | .shortLower => lowercase letter

end TimeFields

def FormatPart.preview (part : FormatPart) (locale : Locale) (date : Date) (fields : TimeFields)
    (hasAmPm : Bool) : String :=
  match part with
  | .locale _ => ""
  | .calendar part => part.preview locale date
  | .clock part => String.ofList (fields.clockDigits hasAmPm part)
  | .subSecond places => String.ofList (fields.subSecondText locale places)
  | .elapsed part => String.ofList (fields.elapsedDigits part)
  | .amPm style => fields.amPmText locale style
  | .literal text => text
  | .separator text => text

def FormatSection.preview (block : FormatSection) (locale : Locale) (date : Date) (fields : TimeFields) :
    String :=
  String.join (block.parts.map fun part => part.preview locale date fields block.hasAmPm)

namespace DateTimeFormat

/-- The section that shows a sample: of two, the first is for durations of less than an hour. -/
def section? (format : DateTimeFormat) (mode : DateTimeMode) (sample : Sample) : Option FormatSection :=
  match format.sections with
  | [] => none
  | [only] => some only
  | underHour :: overHour :: _ =>
    if mode = .duration ∧ sample.duration.abs.lt (.ofNat 3600) then some underHour else some overHour

def preview (format : DateTimeFormat) (mode : DateTimeMode) (locale : Locale) (sample : Sample) : String :=
  match format.section? mode sample with
  | none => ""
  | some block =>
    let fields := block.timeFields mode (sample.seconds mode)
    let body := block.preview locale sample.date fields
    if sample.isNegative mode then "-" ++ body else body

end DateTimeFormat

def DateTimeSettings.preview (settings : DateTimeSettings) (locale : Locale) (sample : Sample) : String :=
  settings.format.preview settings.mode locale sample

end CellFormat
