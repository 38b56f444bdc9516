import NetInventory.Text.Blank
import NetInventory.Text.Decimal
import NetInventory.Time.Calendar
import NetInventory.Time.Unit
import NetInventory.Json.Codec

/-! Points in time as they are written in messages: date, time of day and offset from universal
time by the internet date and time format. Reading is lenient about blanks and about digits that
are left out; writing has one form.
-/

namespace NetInventory.Time

/-- A point in time. Within a leap second the nanoseconds go on counting. -/
structure DateTime where
  /-- Seconds since the epoch in universal time. -/
  seconds : Int
  nanos : Nat
deriving DecidableEq, Repr

/-- Whether a year can be told. -/
def isYear (year : Int) : Bool :=
  -262143 ≤ year && year ≤ 262142

namespace DateTime

/-- The point in time that is a number of nanoseconds from the epoch. -/
def ofNanos (nanos : Int) : DateTime :=
  ⟨nanos / secondNanos, (nanos % secondNanos).toNat⟩

/-- The text of a year: four digits, and beyond them a sign and at least four digits. -/
def yearText (year : Int) : String :=
  if 0 ≤ year && year ≤ 9999 then Text.padded 4 year.natAbs
  else if 0 ≤ year then "+" ++ Text.padded 4 year.natAbs
  else "-" ++ Text.padded 4 year.natAbs

/-- The text of a fraction of a second: none, or as many groups of three digits as it needs. -/
def fractionText (nanos : Nat) : String :=
  if nanos = 0 then ""
  else if nanos % 1000000 = 0 then "." ++ Text.padded 3 (nanos / 1000000)
  else if nanos % 1000 = 0 then "." ++ Text.padded 6 (nanos / 1000)
  else "." ++ Text.padded 9 nanos

/-- The date and the time of day in universal time. -/
def universalText (time : DateTime) : String :=
  let date := Date.ofDays (time.seconds / daySeconds)
  let ofDay := (time.seconds % daySeconds).toNat
  let leap := if secondNanos ≤ time.nanos then 1 else 0
  yearText date.year ++ "-" ++ Text.padded 2 date.month ++ "-" ++ Text.padded 2 date.day
    ++ "T" ++ Text.padded 2 (ofDay / 3600) ++ ":" ++ Text.padded 2 (ofDay / 60 % 60)
    ++ ":" ++ Text.padded 2 (ofDay % 60 + leap) ++ fractionText (time.nanos % secondNanos)

/-- The text of a point in time, in universal time. -/
def text (time : DateTime) : String :=
  time.universalText ++ "Z"

/-- The text of a point in time with the offset of universal time in digits. -/
def offsetText (time : DateTime) : String :=
  time.universalText ++ "+00:00"

/-- Reads a number of at least one and at most `width` digits, with white space in front. -/
def number? (width : Nat) (text : List Char) : Option (Nat × List Char) :=
  let text := Text.trimStart text
  match (text.take width).takeWhile Char.isDigit with
  | [] => none
  | digits => some (Text.digitsValue digits, text.drop digits.length)

/-- Reads a year: up to four digits, or a sign and any number of digits. -/
def year? (text : List Char) : Option (Int × List Char) :=
  match Text.trimStart text with
  | '-' :: rest => if (rest.head?.any Char.isDigit) then
      (number? rest.length rest).map fun (n, rest) => (-(n : Int), rest) else none
  | '+' :: rest => if (rest.head?.any Char.isDigit) then
      (number? rest.length rest).map fun (n, rest) => ((n : Int), rest) else none
  | text => (number? 4 text).map fun (n, rest) => ((n : Int), rest)

/-- Reads a mark, with white space in front. -/
def mark? (mark : Char) (text : List Char) : Option (List Char) :=
  match Text.trimStart text with
  | c :: rest => if c = mark then some rest else none
  | [] => none

/-- Reads an optional fraction of a second as nanoseconds; digits behind the ninth do not count. -/
def fraction? : List Char → Option (Nat × List Char)
  | '.' :: rest =>
    let digits := rest.takeWhile Char.isDigit
    if digits.isEmpty then none
    else
      let kept := digits.take 9
      some (Text.digitsValue kept * Nat.pow 10 (9 - kept.length), rest.dropWhile Char.isDigit)
  | rest => some (0, rest)

/-- Reads two digits. -/
def twoDigits? : List Char → Option (Nat × List Char)
  | high :: low :: rest =>
    if high.isDigit && low.isDigit then some (Text.digitsValue [high, low], rest) else none
  | _ => none

/-- Reads hours and minutes of an offset, with any colons and white space between, as seconds. -/
def offsetAmount? (text : List Char) : Option (Nat × List Char) := do
  let (hours, rest) ← twoDigits? text
  let (minutes, rest) ← twoDigits? (rest.dropWhile fun c => c = ':' || Text.isBlank c)
  if minutes < 60 then return (hours * 3600 + minutes * 60, rest) else none

/-- Reads an offset from universal time in seconds. -/
def offset? (text : List Char) : Option (Int × List Char) :=
  match text with
  | 'Z' :: rest | 'z' :: rest => some (0, rest)
  | '+' :: rest => (offsetAmount? rest).map fun (amount, rest) => ((amount : Int), rest)
  | '-' :: rest | '\u2212' :: rest =>
    (offsetAmount? rest).map fun (amount, rest) => (-(amount : Int), rest)
  | u :: t :: c :: rest =>
    if [u.toUpper, t.toUpper, c.toUpper] = ['U', 'T', 'C'] then some (0, rest) else none
  | _ => none

/-- Reads a point in time. Date and time of day are divided by a letter T or a blank, and nothing
but white space may follow.
-/
def ofText? (text : String) : Option DateTime := do
  let (year, rest) ← year? text.toList
  let (month, rest) ← number? 2 (← mark? '-' rest)
  let (day, rest) ← number? 2 (← mark? '-' rest)
  let rest ←
    match rest with
    | 't' :: rest | 'T' :: rest | ' ' :: rest => some rest
    | _ => none
  let (hour, rest) ← number? 2 rest
  let (minute, rest) ← number? 2 (← mark? ':' rest)
  let (second, rest) ← number? 2 (← mark? ':' rest)
  let (fraction, rest) ← fraction? rest
  let (offset, rest) ← offset? (Text.trimStart rest)
  let date : Date := ⟨year, month, day⟩
  guard (Text.trimStart rest).isEmpty
  guard (isYear year && date.isValid)
  guard (hour ≤ 23 && minute ≤ 59 && second ≤ 60)
  guard (offset.natAbs < daySeconds.natAbs)
  let ofDay := hour * 3600 + minute * 60 + min second 59
  let seconds := date.toDays * daySeconds + ofDay - offset
  guard (isYear (Date.ofDays (seconds / daySeconds)).year)
  return ⟨seconds, if second = 60 then fraction + secondNanos else fraction⟩

/-- The JSON form of a point in time. -/
def codec : Json.Codec DateTime where
  encode time := .string time.text
  decode depth draft :=
    match Json.Codec.string.decode depth draft with
    | .error fault => .error fault
    | .ok text =>
      match ofText? text with
      | some time => .ok time
      | none => .error .mismatch

end DateTime

end NetInventory.Time
