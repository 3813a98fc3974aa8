import RunRadar.Number.Reading
import RunRadar.Text.Blank

/-!
# RunRadar.Instant

Instants of **universal time** with nanoseconds, their calendar form and the time between
two of them. An instant inside a leap second keeps the second before it and counts its
nanoseconds on from `1_000_000_000`; it is the only kind of instant with so many of them.

Years reach from `-262143` to `262142`. Adding milliseconds can leave that range, and then
there is no result.
-/

namespace RunRadar

/-! ### The calendar -/

/-- A date of the Gregorian calendar, extended to all years. -/
structure Date where
  year : Int
  month : Nat
  day : Nat
deriving DecidableEq

namespace Date

/-- Days from the first of January 1970 to a date. Years are counted from March, in cycles
of four hundred years. -/
def days (date : Date) : Int :=
  let y := if date.month ≤ 2 then date.year - 1 else date.year
  let cycle := y.fdiv 400
  let yearOfCycle := y - cycle * 400
  let monthFromMarch : Int := if 2 < date.month then date.month - 3 else date.month + 9
  let dayOfYear := (153 * monthFromMarch + 2) / 5 + date.day - 1
  let dayOfCycle := yearOfCycle * 365 + yearOfCycle / 4 - yearOfCycle / 100 + dayOfYear
  cycle * 146097 + dayOfCycle - 719468

/-- The date so many days after the first of January 1970. -/
def ofDays (days : Int) : Date :=
  let z := days + 719468
  let cycle := z.fdiv 146097
  let dayOfCycle := z - cycle * 146097
  let yearOfCycle :=
    (dayOfCycle - dayOfCycle / 1460 + dayOfCycle / 36524 - dayOfCycle / 146096) / 365
  let dayOfYear := dayOfCycle - (365 * yearOfCycle + yearOfCycle / 4 - yearOfCycle / 100)
  let monthFromMarch := (5 * dayOfYear + 2) / 153
  let day := dayOfYear - (153 * monthFromMarch + 2) / 5 + 1
  let month := if monthFromMarch < 10 then monthFromMarch + 3 else monthFromMarch - 9
  let year := yearOfCycle + cycle * 400 + if month ≤ 2 then 1 else 0
  ⟨year, month.toNat, day.toNat⟩

def isLeapYear (year : Int) : Bool :=
  year % 4 = 0 && (year % 100 ≠ 0 || year % 400 = 0)

/-- The number of days in a month. -/
def monthLength (year : Int) (month : Nat) : Nat :=
  if month = 2 then if isLeapYear year then 29 else 28
  else if month = 4 ∨ month = 6 ∨ month = 9 ∨ month = 11 then 30
  else 31

def minYear : Int := -262143

def maxYear : Int := 262142

/-- Whether there is such a date. -/
def isValid (date : Date) : Bool :=
  minYear ≤ date.year && date.year ≤ maxYear && 1 ≤ date.month && date.month ≤ 12 &&
    1 ≤ date.day && date.day ≤ monthLength date.year date.month

/-- A number with leading zeros up to a width. -/
def padded (width n : Nat) : String :=
  let digits := toString n
  String.ofList (List.replicate (width - digits.length) '0') ++ digits

/-- The written form. Years of other than four digits carry a sign. -/
def text (date : Date) : String :=
  let sign :=
    if date.year < 0 then "-" else if 9999 < date.year then "+" else ""
  sign ++ padded 4 date.year.natAbs ++ "-" ++ padded 2 date.month ++ "-" ++ padded 2 date.day

end Date

/-! ### Instants -/

/-- An instant: seconds since the start of 1970, and nanoseconds. -/
structure Instant where
  seconds : Int
  nanos : Nat
  nanos_lt : nanos < 2_000_000_000
deriving DecidableEq

namespace Instant

/-- The first and the last second that instants reach. -/
def minSeconds : Int := (Date.mk Date.minYear 1 1).days * 86400

def maxSeconds : Int := (Date.mk Date.maxYear 12 31).days * 86400 + 86399

/-- Whether an instant lies in the range of years. -/
def InRange (t : Instant) : Prop := minSeconds ≤ t.seconds ∧ t.seconds ≤ maxSeconds

instance (t : Instant) : Decidable t.InRange := inferInstanceAs (Decidable (_ ∧ _))

/-- Whether an instant lies inside a leap second. -/
def isLeap (t : Instant) : Bool := 1_000_000_000 ≤ t.nanos

/-- Whether an instant is not later than another. -/
def le (s t : Instant) : Bool :=
  s.seconds < t.seconds || (s.seconds = t.seconds && s.nanos ≤ t.nanos)

/-- Seconds since midnight. -/
def secondOfDay (t : Instant) : Int := t.seconds.fmod 86400

/-! ### Durations -/

/-- Nanoseconds from `start` to `t`. A leap second between two times of day counts as one
second more. -/
def nanosSince (t start : Instant) : Int :=
  let leap : Int :=
    if start.secondOfDay < t.secondOfDay then if start.isLeap then 1 else 0
    else if t.secondOfDay < start.secondOfDay then if t.isLeap then -1 else 0
    else 0
  (t.seconds - start.seconds + leap) * 1_000_000_000 + ((t.nanos : Int) - start.nanos)

/-- Whole milliseconds from `start` to `t`; what is left of a millisecond is dropped. -/
def millisSince (t start : Instant) : Int := (t.nanosSince start).tdiv 1_000_000

/-- The instant with the given seconds and nanoseconds, if the years reach that far. -/
def make? (seconds : Int) (nanos : Nat) : Option Instant :=
  if h : nanos < 2_000_000_000 then
    let t : Instant := ⟨seconds, nanos, h⟩
    if t.InRange then some t else none
  else none

/-- The instant `millis` milliseconds later. Going on from inside a leap second leaves it,
unless the result still lies in it. -/
def addMillis? (t : Instant) (millis : Int) : Option Instant :=
  if -0x7FFF_FFFF_FFFF_FFFF ≤ millis ∧ millis ≤ 0x7FFF_FFFF_FFFF_FFFF then
    let seconds := millis.tdiv 1000
    let nanos := millis.tmod 1000 * 1_000_000
    let after := (t.nanos : Int) + nanos
    let stays := t.isLeap ∧ seconds = 0 ∧ after < 2_000_000_000
    if stays then make? t.seconds after.toNat
    else
      let (start, nanos) : Int × Int :=
        if t.isLeap then
          if 0 < seconds ∨ 2_000_000_000 ≤ after then (t.seconds, after - 1_000_000_000)
          else (t.seconds + 1, after - 1_000_000_000)
        else (t.seconds, after)
      make? (start + seconds + nanos.fdiv 1_000_000_000) (nanos.fmod 1_000_000_000).toNat
  else none

/-- The instant cut to whole microseconds, counted from the start of 2000. -/
def toMicros (t : Instant) : Instant :=
  let epoch : Int := (Date.mk 2000 1 1).days * 86400
  let micros := ((t.seconds - epoch) * 1_000_000_000 + t.nanos).tdiv 1000
  let nanos := (micros.fmod 1_000_000).toNat * 1000
  if h : nanos < 2_000_000_000 then ⟨epoch + micros.fdiv 1_000_000, nanos, h⟩ else t

/-! ### Writing -/

/-- The fraction of a second in as many of three, six or nine digits as it needs. -/
def fractionText (nanos : Nat) : String :=
  if nanos = 0 then ""
  else if nanos % 1_000_000 = 0 then "." ++ Date.padded 3 (nanos / 1_000_000)
  else if nanos % 1000 = 0 then "." ++ Date.padded 6 (nanos / 1000)
  else "." ++ Date.padded 9 nanos

/-- The written form, in universal time. -/
def text (t : Instant) : String :=
  let date := Date.ofDays (t.seconds.fdiv 86400)
  let second := t.secondOfDay.toNat
  let (leap, nanos) := if t.isLeap then (1, t.nanos - 1_000_000_000) else (0, t.nanos)
  date.text ++ "T" ++ Date.padded 2 (second / 3600) ++ ":" ++
    Date.padded 2 (second / 60 % 60) ++ ":" ++ Date.padded 2 (second % 60 + leap) ++
    fractionText nanos ++ "Z"

/-! ### Reading -/

/-- What stands behind blanks. -/
def skipBlanks (cs : List Char) : List Char := cs.dropWhile Text.isBlank

/-- At most `width` digits, at least one, behind blanks. -/
def readField? (width : Nat) (cs : List Char) : Option (Nat × List Char) :=
  let cs := skipBlanks cs
  let digits := (cs.take width).takeWhile Char.isDigit
  if digits = [] then none else some (digitsValue digits, cs.drop digits.length)

/-- A year: four digits, or any number of them behind a sign. -/
def readYear? (cs : List Char) : Option (Int × List Char) :=
  let signed (sign : Int) (cs : List Char) : Option (Int × List Char) :=
    let (digits, rest) := spanDigits cs
    if digits = [] then none else some (sign * digitsValue digits, rest)
  match skipBlanks cs with
  | '-' :: cs => signed (-1) cs
  | '+' :: cs => signed 1 cs
  | cs => (readField? 4 cs).map fun (year, rest) => ((year : Int), rest)

/-- A character behind blanks. -/
def readMark? (mark : Char) (cs : List Char) : Option (List Char) :=
  match skipBlanks cs with
  | c :: rest => if c = mark then some rest else none
  | [] => none

/-- A year, a month and a day with hyphens between them. -/
def readDate? (cs : List Char) : Option (Date × List Char) := do
  let (year, cs) ← readYear? cs
  let cs ← readMark? '-' cs
  let (month, cs) ← readField? 2 cs
  let cs ← readMark? '-' cs
  let (day, cs) ← readField? 2 cs
  return (⟨year, month, day⟩, cs)

/-- The fraction of a second, in nanoseconds. Digits beyond the ninth are dropped. -/
def readFraction? (cs : List Char) : Option (Nat × List Char) :=
  match cs with
  | '.' :: cs =>
    let (digits, rest) := spanDigits cs
    if digits = [] then none
    else
      let kept := digits.take 9
      some (digitsValue (kept.rightpad 9 '0'), rest)
  | cs => some (0, cs)

/-- An offset from universal time, in seconds: `Z`, the word `UTC`, or a sign, two digits for
hours and two for minutes, perhaps with colons or blanks between them. -/
def readOffset? (cs : List Char) : Option (Int × List Char) :=
  let signed (sign : Int) (cs : List Char) : Option (Int × List Char) :=
    match cs with
    | a :: b :: cs =>
      match cs.dropWhile fun c => c = ':' || Text.isBlank c with
      | c :: d :: rest =>
        if a.isDigit ∧ b.isDigit ∧ c.isDigit ∧ d.isDigit ∧ c ≤ '5' then
          let hours : Int := digitsValue [a, b]
          let minutes : Int := digitsValue [c, d]
          if hours < 24 then some (sign * (hours * 3600 + minutes * 60), rest) else none
        else none
      | _ => none
    | _ => none
  match cs with
  | 'Z' :: rest | 'z' :: rest => some (0, rest)
  | '+' :: cs => signed 1 cs
  | '-' :: cs | '−' :: cs => signed (-1) cs
  | a :: b :: c :: rest =>
    if [a, b, c].map Char.toUpper = ['U', 'T', 'C'] then some (0, rest) else none
  | _ => none

/-- Reads a date, a time of day and an offset from universal time. A sixtieth second is a
leap second. -/
def read? (text : String) : Option Instant := do
  let (date, cs) ← readDate? text.toList
  let cs ← match cs with
    | 'T' :: cs | 't' :: cs | ' ' :: cs => some cs
    | _ => none
  let (hour, cs) ← readField? 2 cs
  let cs ← readMark? ':' cs
  let (minute, cs) ← readField? 2 cs
  let cs ← readMark? ':' cs
  let (second, cs) ← readField? 2 cs
  let (fraction, cs) ← readFraction? cs
  let (offset, cs) ← readOffset? (skipBlanks cs)
  if skipBlanks cs = [] ∧ date.isValid ∧ hour < 24 ∧ minute < 60 ∧ second ≤ 60 then
    let (second, nanos) :=
      if second = 60 then (59, fraction + 1_000_000_000) else (second, fraction)
    make? (date.days * 86400 + hour * 3600 + minute * 60 + second - offset) nanos
  else none

end Instant

/-- Reads a date. -/
def Date.read? (text : String) : Option Date :=
  match Instant.readDate? text.toList with
  | some (date, rest) => if Instant.skipBlanks rest = [] ∧ date.isValid then some date else none
  | none => none

end RunRadar
