import Pagewalk.Script.Operators
import Pagewalk.Text.Quoted

/-!
# Dates

A date is a time in milliseconds from the first moment of 1970, which is also the moment at which the clock of a
realm stands. It lies within a hundred million days around that moment, or is no number. Times of day are those of
the meridian of zero.
-/

namespace Pagewalk.Script

open Text

/-! ### The calendar -/

/-- The milliseconds of a day. -/
def dayLength : Int := 86400000

/-- The year, month and day of a day that is counted from the first day of 1970. -/
def civilDay (day : Int) : Int × Int × Int :=
  let z := day + 719468
  let era := z.fdiv 146097
  let doe := z - era * 146097
  let yoe := (doe - doe / 1460 + doe / 36524 - doe / 146096) / 365
  let doy := doe - (365 * yoe + yoe / 4 - yoe / 100)
  let mp := (5 * doy + 2) / 153
  let d := doy - (153 * mp + 2) / 5 + 1
  let m := if mp < 10 then mp + 3 else mp - 9
  let y := yoe + era * 400
  (if m ≤ 2 then y + 1 else y, m, d)

/-- The day, counted from the first day of 1970, of a year, a month and a day of that month. -/
def dayOfCivil (year month day : Int) : Int :=
  let y := if month ≤ 2 then year - 1 else year
  let era := y.fdiv 400
  let yoe := y - era * 400
  let mp := if month > 2 then month - 3 else month + 9
  let doy := (153 * mp + 2) / 5 + day - 1
  let doe := yoe * 365 + yoe / 4 - yoe / 100 + doy
  era * 146097 + doe - 719468

/-- A time taken apart. -/
structure Moment where
  year : Int
  month : Int
  date : Int
  weekday : Int
  hours : Int
  minutes : Int
  seconds : Int
  milliseconds : Int

/-- The parts of a time. -/
def Moment.ofTime (n : Int) : Moment :=
  let day := n.fdiv dayLength
  let rest := n - day * dayLength
  let (y, m, d) := civilDay day
  ⟨y, m, d, (day + 4).fmod 7, rest / 3600000, rest / 60000 % 60, rest / 1000 % 60, rest % 1000⟩

/-- A time held within what dates can tell, without the fraction of a millisecond. -/
def timeWithin (x : Float) : Float :=
  if x.isNaN || x.abs > 8.64e15 then Number.nan else Number.toInteger x + 0.0

/-! ### Written dates -/

/-- Two figures. -/
def two (n : Int) : String := Text.digits 10 2 n.toNat

namespace Moment

/-- The name of the day of the week. -/
def dayName (m : Moment) : String :=
  (["Sun", "Mon", "Tue", "Wed", "Thu", "Fri", "Sat"][m.weekday.toNat]?).getD ""

/-- The name of the month. -/
def monthName (m : Moment) : String :=
  (["Jan", "Feb", "Mar", "Apr", "May", "Jun", "Jul", "Aug", "Sep", "Oct", "Nov", "Dec"][(m.month - 1).toNat]?).getD ""

/-- The year in words has four figures at least. -/
def yearText (m : Moment) : String := (if m.year < 0 then "-" else "") ++ Text.digits 10 4 m.year.natAbs

/-- The time of day. -/
def clock (m : Moment) : String := two m.hours ++ ":" ++ two m.minutes ++ ":" ++ two m.seconds

/-- The written form. -/
def written (m : Moment) (form : DateForm) : String :=
  let day := m.dayName ++ " " ++ m.monthName ++ " " ++ two m.date ++ " " ++ m.yearText
  let time := m.clock ++ " GMT+0000"
  match form with
  | .figures =>
    let year := if 0 ≤ m.year && m.year ≤ 9999 then Text.digits 10 4 m.year.toNat
      else (if m.year < 0 then "-" else "+") ++ Text.digits 10 6 m.year.natAbs
    year ++ "-" ++ two m.month ++ "-" ++ two m.date ++ "T" ++ m.clock ++ "." ++
      Text.digits 10 3 m.milliseconds.toNat ++ "Z"
  | .words => day ++ " " ++ time
  | .dayWords => day
  | .timeWords => time
  | .common =>
    m.dayName ++ ", " ++ two m.date ++ " " ++ m.monthName ++ " " ++ m.yearText ++ " " ++ m.clock ++ " GMT"

/-- A part as scripts count it: months and days of the week from zero. -/
def part (m : Moment) : DatePart → Int
  | .year => m.year
  | .month => m.month - 1
  | .date => m.date
  | .day => m.weekday
  | .hours => m.hours
  | .minutes => m.minutes
  | .seconds => m.seconds
  | .milliseconds => m.milliseconds
  | .offset => 0

end Moment

/-! ### Dates that are read -/

/-- The time of a year, a month from zero, a day, hours, minutes, seconds and milliseconds, each of which may lie
outside its usual bounds; what is missing comes first in its span. -/
def timeOfParts (xs : List Float) : Float :=
  if xs.any fun x => x.isNaN || x.isInf then Number.nan
  else
    let part (i missing : Nat) : Int := (xs[i]?.elim missing fun x => (Number.toInteger x).toInt64.toInt)
    let year := part 0 1970
    let year := if 0 ≤ year && year ≤ 99 then 1900 + year else year
    let month := part 1 0
    let day := dayOfCivil (year + month.fdiv 12) (month.fmod 12 + 1) 1 + (part 2 1 - 1)
    timeWithin (Float.ofInt
      (day * dayLength + part 3 0 * 3600000 + part 4 0 * 60000 + part 5 0 * 1000 + part 6 0))

/-- A number of just so many figures at the start of characters. -/
def figures? (count : Nat) (cs : List Char) : Option (Int × List Char) :=
  let ds := cs.take count
  if ds.length = count && ds.all Char.isDigit then
    some (ds.foldl (fun (n : Int) c => n * 10 + (c.toNat - '0'.toNat : Nat)) 0, cs.drop count)
  else none

/-- A number of two figures after a mark; where the mark is missing, a number given for that. -/
def markedFigures? (mark : Char) (missing : Int) (cs : List Char) : Option (Int × List Char) :=
  match cs with
  | c :: rest => if c == mark then figures? 2 rest else some (missing, cs)
  | [] => some (missing, [])

/-- The year at the start of characters: four figures, or a sign and six. -/
def yearFigures? (cs : List Char) : Option (Int × List Char) :=
  match cs with
  | '+' :: rest => figures? 6 rest
  | '-' :: rest => (figures? 6 rest).map fun (y, rest) => (-y, rest)
  | cs => figures? 4 cs

/-- The milliseconds after a time of day. -/
def fraction? (cs : List Char) : Option (Int × List Char) :=
  match cs with
  | '.' :: rest => figures? 3 rest
  | cs => some (0, cs)

/-- The distance of a written zone from the meridian, in minutes. -/
def zone? (cs : List Char) : Option Int :=
  match cs with
  | [] => some 0
  | ['Z'] => some 0
  | sign :: rest =>
    match figures? 2 rest with
    | some (h, ':' :: rest) =>
      match figures? 2 rest with
      | some (m, []) =>
        if sign == '+' then some (h * 60 + m) else if sign == '-' then some (-(h * 60 + m)) else none
      | _ => none
    | _ => none

/-- The time that figures write. -/
def timeOfText? (s : String) : Option Float := do
  let (year, rest) ← yearFigures? s.toList
  let (month, rest) ← markedFigures? '-' 1 rest
  let (day, rest) ← markedFigures? '-' 1 rest
  let (time, zone) ← match rest with
    | [] => some (0, 0)
    | 'T' :: rest => do
      let (h, rest) ← figures? 2 rest
      let (m, rest) ← match rest with
        | ':' :: rest => figures? 2 rest
        | _ => none
      let (s, rest) ← markedFigures? ':' 0 rest
      let (ms, rest) ← fraction? rest
      if h > 24 || m > 59 || s > 59 || (h = 24 && (m > 0 || s > 0 || ms > 0)) then none
      else some (h * 3600000 + m * 60000 + s * 1000 + ms, ← zone? rest)
    | _ => none
  if month < 1 || month > 12 || day < 1 || day > 31 then none
  else some (timeWithin (Float.ofInt (dayOfCivil year month day * dayLength + time - zone * 60000)))

/-! ### The functions of dates -/

/-- The time that the arguments of a maker tell. -/
def Kernel.timeOf (k : Kernel) (args : List Value) : Run Float := do
  match args with
  | [] => return 0.0
  | [v] =>
    let held ← match v with
      | .object r =>
        match (← object r).shape with
        | .date ms => pure (some ms)
        | _ => pure none
      | _ => pure none
    match held with
    | some ms => return ms
    | none =>
      match ← k.simple v with
      | .text s => return (timeOfText? s.toLossyText).getD Number.nan
      | v => return timeWithin (numberOfSimple v)
  | vs => return timeOfParts (← (vs.take 7).mapM k.toNumber)

/-- Makes a date. -/
def Kernel.makeDate (k : Kernel) (args : List Value) : Run Value := do
  return .object (← allocate (.ofShape (some Intrinsic.dates.ref) (.date (← k.timeOf args))))

/-- The time of the date that a value has to be. -/
def timeHeld (v : Value) : Run Float := do
  match v with
  | .object r =>
    match (← object r).shape with
    | .date ms => return ms
    | _ => typeFault "'this' is not a Date"
  | _ => typeFault "'this' is not a Date"

/-- The written form of a time; one that is no number has none. -/
def writtenTime (ms : Float) (form : DateForm) : String := (Moment.ofTime ms.toInt64.toInt).written form

/-- What the functions of dates do. -/
def Kernel.dateFunction (k : Kernel) (f : DateFunction) (this : Value) (args : List Value) : Run Value := do
  match f with
  | .make => return .string (writtenTime 0.0 .words)
  | .now => return .number 0.0
  | .ofParts => return .number (timeOfParts (← (args.take 7).mapM k.toNumber))
  | .read => return .number ((timeOfText? (← k.toText (argument args 0)).toLossyText).getD Number.nan)
  | .value => return .number (← timeHeld this)
  | .part p =>
    let ms ← timeHeld this
    return .number (if ms.isNaN then ms else Float.ofInt ((Moment.ofTime ms.toInt64.toInt).part p))
  | .text .figures =>
    let ms ← timeHeld this
    if ms.isNaN then fail .range "Invalid time value"
    return .string (writtenTime ms .figures)
  | .text form =>
    let ms ← timeHeld this
    return .string (if ms.isNaN then "Invalid Date" else writtenTime ms form)
  | .data =>
    let r ← toObject this
    match ← k.simpleNumber (.object r) with
    | .number x => if x.isNaN || x.isInf then return .null else k.invoke (.object r) "toISOString" []
    | _ => k.invoke (.object r) "toISOString" []

end Pagewalk.Script
