import Clawhip.Lib.Lines

/-!
# Cron schedules

The schedules of `src/cron.rs`: five fields, each a list of values, ranges and steps.
-/

namespace Clawhip.Cron

/-- `CronField`; the allowed values are a set. -/
structure CronField where
  any : Bool
  allowed : List ℕ
deriving DecidableEq

structure CronSchedule where
  minute : CronField
  hour : CronField
  day_of_month : CronField
  month : CronField
  day_of_week : CronField

/-- What a schedule reads of an `OffsetDateTime`; the weekday is that of `weekday_to_cron`. -/
structure LocalTime where
  minute : ℕ
  hour : ℕ
  day : ℕ
  month : ℕ
  weekday : ℕ

/-! ## Parsing -/

/-- `str::split_whitespace`. -/
def splitWhitespace (value : String) : List String :=
  ((value.toList.splitOnP Text.isWhitespace).filter (!·.isEmpty)).map String.ofList

/-- `str::parse::<u8>`. -/
def parseU8 (value : String) : Option ℕ := (Text.parseU64 value).filter fun n => decide (n < 256)

def parseFieldValue (raw : String) (min max : ℕ) : Except String ℕ :=
  match parseU8 (Text.trim raw) with
  | none => .error s!"invalid cron value '{raw}'"
  | some value =>
    if min ≤ value ∧ value ≤ max then .ok value
    else .error s!"cron value '{raw}' is outside {min}..={max}"

def normalizeFieldValue (value : ℕ) (wrap_sunday : Bool) : ℕ :=
  if wrap_sunday && value == 7 then 0 else value

/-- The base and the step of a part. -/
def parseStep (part : String) : Except String (String × ℕ) :=
  match Text.splitOnce part '/' with
  | none => .ok (part, 1)
  | some (base, step) =>
    match parseU8 step with
    | none => .error s!"invalid cron step '{step}'"
    | some 0 => .error s!"cron step must be at least 1 in '{part}'"
    | some step => .ok (base, step)

/-- The range of a part's base. -/
def parseRange (base : String) (min max : ℕ) : Except String (ℕ × ℕ) :=
  if base = "*" then .ok (min, max)
  else
    match Text.splitOnce base '-' with
    | some (start, stop) => do
      let start ← parseFieldValue start min max
      let stop ← parseFieldValue stop min max
      return (start, stop)
    | none => do
      let value ← parseFieldValue base min max
      return (value, value)

/-- The values of a part. -/
def parsePart (spec raw_part : String) (min max : ℕ) (wrap_sunday : Bool) : Except String (List ℕ) := do
  let part := Text.trim raw_part
  if part.isEmpty then throw s!"invalid cron field '{spec}'"
  let (base, step) ← parseStep part
  let (start, stop) ← parseRange base min max
  if stop < start then throw s!"invalid descending cron range '{part}'"
  return (List.range ((stop - start) / step + 1)).map fun i =>
    normalizeFieldValue (start + i * step) wrap_sunday

def CronField.parse (spec : String) (min max : ℕ) (wrap_sunday : Bool) : Except String CronField := do
  let spec := Text.trim spec
  if spec.isEmpty then throw "empty cron field"
  if spec = "*" then return { any := true, allowed := [] }
  let allowed ← (Text.split spec ",").mapM fun raw_part => parsePart spec raw_part min max wrap_sunday
  if allowed.flatten.isEmpty then throw s!"cron field '{spec}' resolved to no values"
  return { any := false, allowed := allowed.flatten }

def CronField.contains (field : CronField) (value : ℕ) : Bool := field.any || field.allowed.contains value

def CronSchedule.parse (spec : String) : Except String CronSchedule :=
  match splitWhitespace spec with
  | [minute, hour, day_of_month, month, day_of_week] => do
    return {
      minute := ← CronField.parse minute 0 59 false
      hour := ← CronField.parse hour 0 23 false
      day_of_month := ← CronField.parse day_of_month 1 31 false
      month := ← CronField.parse month 1 12 false
      day_of_week := ← CronField.parse day_of_week 0 7 true }
  | _ => .error (s!"cron schedule '{spec}' must have exactly 5 fields " ++
      "(minute hour day-of-month month day-of-week)")

def CronSchedule.matches (schedule : CronSchedule) (timestamp : LocalTime) : Bool :=
  let day_matches :=
    if schedule.day_of_month.any || schedule.day_of_week.any then
      schedule.day_of_month.contains timestamp.day &&
        schedule.day_of_week.contains timestamp.weekday
    else
      schedule.day_of_month.contains timestamp.day || schedule.day_of_week.contains timestamp.weekday
  schedule.minute.contains timestamp.minute && schedule.hour.contains timestamp.hour &&
    schedule.month.contains timestamp.month && day_matches

example : (CronSchedule.parse "*/20 8-9 * * 1,7").map (fun schedule =>
    (schedule.minute.allowed, schedule.hour.allowed, schedule.day_of_week.allowed)) =
    .ok ([0, 20, 40], [8, 9], [1, 0]) := by
  decide +kernel

end Clawhip.Cron
