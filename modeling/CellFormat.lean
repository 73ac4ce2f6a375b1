import CellFormat.Code.Issue
import CellFormat.DateTime.Preview
import CellFormat.Json.DateTime
import CellFormat.Json.Number
import CellFormat.Json.Rule
import CellFormat.Number.Code
import CellFormat.Number.Preview
import CellFormat.Proofs.FormatTokens
import CellFormat.Proofs.NumberCodeUnique
import CellFormat.Warning
import CellFormat.Proofs.Grammar
import CellFormat.Proofs.LocaleTag
import CellFormat.Proofs.Spans
import CellFormat.Proofs.FormatCodeUnique
import CellFormat.Proofs.Recovery
import CellFormat.Rule.Edit
import CellFormat.Proofs.NumberReading
import CellFormat.Proofs.RuleEdits
import CellFormat.Proofs.ConditionTag
import CellFormat.Proofs.RuleSections
import CellFormat.Proofs.CleanCodes
import CellFormat.Proofs.ZoneDisplay
import CellFormat.Proofs.RoundingError
import CellFormat.Proofs.TimePreview
import CellFormat.Proofs.DurationPreview
import CellFormat.Proofs.ClockPreview
import CellFormat.Proofs.UnitHierarchy
import CellFormat.DateTime.Edit
import CellFormat.Proofs.DateTimeEdits
import CellFormat.Proofs.Validation
import CellFormat.Proofs.SettingsJson
import CellFormat.Proofs.IntegerDigits
import CellFormat.Proofs.LongDurations
import CellFormat.Proofs.SectionAdvice
import CellFormat.Proofs.AdviceSpans
import CellFormat.Proofs.RuleOrder
import CellFormat.Proofs.SampleReading
import CellFormat.Proofs.SubSeconds
import CellFormat.Proofs.EmptyFormats
import CellFormat.Proofs.ClockReading
import CellFormat.Proofs.Complement
import CellFormat.Proofs.EditedSettings
import CellFormat.Proofs.ZoneColors
import CellFormat.Proofs.LocaleNormalForm
import CellFormat.Proofs.Resuming
import CellFormat.Proofs.DigitGroups
