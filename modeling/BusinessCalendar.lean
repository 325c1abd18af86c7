import BusinessCalendar.Call.FiscalYear
import BusinessCalendar.Call.Gregorian
import BusinessCalendar.Call.Locale
import BusinessCalendar.Call.Navigation
import BusinessCalendar.Call.Provider
import BusinessCalendar.Call.Quarter
import BusinessCalendar.Call.Table
import BusinessCalendar.Call.Week
import BusinessCalendar.Call.Weekend
import BusinessCalendar.Moment.Reader
import BusinessCalendar.Proofs.Diagnostic.Rendering
import BusinessCalendar.Proofs.FiscalYear.Chain
import BusinessCalendar.Proofs.FiscalYear.Derivation
import BusinessCalendar.Proofs.FiscalYear.Division
import BusinessCalendar.Proofs.FiscalYear.Drift
import BusinessCalendar.Proofs.FiscalYear.Length
import BusinessCalendar.Proofs.FiscalYear.Rebuilding
import BusinessCalendar.Proofs.FiscalYear.WeekYear
import BusinessCalendar.Proofs.Gregorian.Correspondence
import BusinessCalendar.Proofs.Gregorian.Counting
import BusinessCalendar.Proofs.Gregorian.MonthLine
import BusinessCalendar.Proofs.Gregorian.MonthSearch
import BusinessCalendar.Proofs.Locale.Fallback
import BusinessCalendar.Proofs.Locale.History
import BusinessCalendar.Proofs.Moment.Clock
import BusinessCalendar.Proofs.Moment.Movement
import BusinessCalendar.Proofs.Moment.Search
import BusinessCalendar.Proofs.Occurrence.Month
import BusinessCalendar.Proofs.Occurrence.Quarter
import BusinessCalendar.Proofs.Occurrence.Window
import BusinessCalendar.Proofs.Quarter.Alignment
import BusinessCalendar.Proofs.Quarter.Bounds
import BusinessCalendar.Proofs.Quarter.Chronology
import BusinessCalendar.Proofs.Quarter.Line
import BusinessCalendar.Proofs.Quarter.Provider
import BusinessCalendar.Proofs.Quarter.Refusal
import BusinessCalendar.Proofs.Quarter.Resolution
import BusinessCalendar.Proofs.Quarter.Tiling
import BusinessCalendar.Proofs.Recurrence
import BusinessCalendar.Proofs.Sorting
import BusinessCalendar.Proofs.Validation
import BusinessCalendar.Proofs.Week.Count
import BusinessCalendar.Proofs.Week.Extent
import BusinessCalendar.Proofs.Week.Inversion
import BusinessCalendar.Proofs.Week.Iso
import BusinessCalendar.Proofs.Week.IsoConvention
import BusinessCalendar.Proofs.Week.Line
import BusinessCalendar.Proofs.Week.Month
import BusinessCalendar.Proofs.Week.Partition
import BusinessCalendar.Proofs.Week.Succession
import BusinessCalendar.Proofs.Week.Turns
import BusinessCalendar.Proofs.Weekend.Days
import BusinessCalendar.Proofs.Weekend.WorkingDay
