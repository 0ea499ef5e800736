import RequestChain.Time.Calendar

/-! # Formatting instants

A format is literal text with directives that begin with a percent sign. A numeric directive may
carry a mark that changes how its number is padded. A format with a directive that does not exist,
or with a mark on one that is not a single number, has no rendering.
-/

namespace RequestChain.Time

/-- What stands in front of a number that is too short. -/
inductive Padding where
  | none
  | zeros
  | spaces
  deriving DecidableEq, Repr

/-- The names of the days of the week, from Sunday. -/
def weekdayNames : List String :=
  ["Sunday", "Monday", "Tuesday", "Wednesday", "Thursday", "Friday", "Saturday"]

/-- The names of the months. -/
def monthNames : List String :=
  ["January", "February", "March", "April", "May", "June", "July", "August", "September",
    "October", "November", "December"]

/-- A number of at least `width` characters. -/
def padded (padding : Padding) (width : Nat) (n : Nat) : String :=
  let digits := Nat.toDigits 10 n
  let missing := width - digits.length
  match padding with
  | .none => String.ofList digits
  | .zeros => String.ofList (List.replicate missing '0' ++ digits)
  | .spaces => String.ofList (List.replicate missing ' ' ++ digits)

/-- The hour on a clock of twelve hours. -/
def hour12 (hour : Nat) : Nat :=
  if hour % 12 = 0 then 12 else hour % 12

/-- The numeric directives: usual padding, width and value. -/
def numeric? (instant : Instant) (directive : Char) : Option (Padding × Nat × Nat) :=
  let now := instant.dateTime
  let weekday := weekdayFromSunday instant.days
  match directive with
  | 'Y' => some (.zeros, 4, now.date.year)
  | 'C' => some (.zeros, 2, now.date.year / 100)
  | 'y' => some (.zeros, 2, now.date.year % 100)
  | 'G' => some (.zeros, 4, (isoWeek instant).1)
  | 'g' => some (.zeros, 2, (isoWeek instant).1 % 100)
  | 'q' => some (.none, 1, (now.date.month + 2) / 3)
  | 'm' => some (.zeros, 2, now.date.month)
  | 'd' => some (.zeros, 2, now.date.day)
  | 'e' => some (.spaces, 2, now.date.day)
  | 'j' => some (.zeros, 3, now.date.ordinal)
  | 'U' => some (.zeros, 2, weekOfYear instant false)
  | 'W' => some (.zeros, 2, weekOfYear instant true)
  | 'V' => some (.zeros, 2, (isoWeek instant).2)
  | 'u' => some (.none, 1, if weekday = 0 then 7 else weekday)
  | 'w' => some (.none, 1, weekday)
  | 'H' => some (.zeros, 2, now.hour)
  | 'k' => some (.spaces, 2, now.hour)
  | 'I' => some (.zeros, 2, hour12 now.hour)
  | 'l' => some (.spaces, 2, hour12 now.hour)
  | 'M' => some (.zeros, 2, now.minute)
  | 'S' => some (.zeros, 2, now.second)
  | 'f' => some (.zeros, 9, now.nanosecond)
  | 's' => some (.none, 9, instant.seconds)
  | _ => none

/-- The text of a numeric directive with its usual padding. -/
def number (instant : Instant) (directive : Char) : String :=
  match numeric? instant directive with
  | some (padding, width, value) => padded padding width value
  | none => ""

/-- A fraction of a second behind a point: nothing, or as many groups of three digits as it
needs. -/
def fraction (nanosecond : Nat) : String :=
  if nanosecond = 0 then ""
  else if nanosecond % 1000000 = 0 then "." ++ padded .zeros 3 (nanosecond / 1000000)
  else if nanosecond % 1000 = 0 then "." ++ padded .zeros 6 (nanosecond / 1000)
  else "." ++ padded .zeros 9 nanosecond

/-- Year, month and day. -/
def isoDate (instant : Instant) : String :=
  number instant 'Y' ++ "-" ++ number instant 'm' ++ "-" ++ number instant 'd'

/-- Hour, minute and second. -/
def timeOfDay (instant : Instant) : String :=
  number instant 'H' ++ ":" ++ number instant 'M' ++ ":" ++ number instant 'S'

/-- The date and the time of day, with the letter of universal time. -/
def isoTimestamp (instant : Instant) : String :=
  isoDate instant ++ "T" ++ timeOfDay instant ++ "Z"

/-- The directives that are not one number. -/
def composed? (instant : Instant) (directive : Char) : Option String :=
  let now := instant.dateTime
  let weekday := weekdayNames.getD (weekdayFromSunday instant.days) ""
  let month := monthNames.getD (now.date.month - 1) ""
  let short (name : String) := String.ofList (name.toList.take 3)
  let afternoon := 12 ≤ now.hour
  match directive with
  | 'A' => some weekday
  | 'a' => some (short weekday)
  | 'B' => some month
  | 'b' | 'h' => some (short month)
  | 'D' | 'x' => some (number instant 'm' ++ "/" ++ number instant 'd' ++ "/" ++
      number instant 'y')
  | 'F' => some (isoDate instant)
  | 'v' => some (number instant 'e' ++ "-" ++ short month ++ "-" ++ number instant 'Y')
  | 'R' => some (number instant 'H' ++ ":" ++ number instant 'M')
  | 'T' | 'X' => some (timeOfDay instant)
  | 'r' => some (number instant 'I' ++ ":" ++ number instant 'M' ++ ":" ++ number instant 'S' ++
      " " ++ (if afternoon then "PM" else "AM"))
  | 'c' => some (short weekday ++ " " ++ short month ++ " " ++ number instant 'e' ++ " " ++
      timeOfDay instant ++ " " ++ number instant 'Y')
  | 'p' => some (if afternoon then "PM" else "AM")
  | 'P' => some (if afternoon then "pm" else "am")
  | 'Z' => some "UTC"
  | 'z' => some "+0000"
  | '+' => some (isoDate instant ++ "T" ++ timeOfDay instant ++ fraction now.nanosecond ++
      "+00:00")
  | 'n' => some "\n"
  | 't' => some "\t"
  | '%' => some "%"
  | _ => none

/-- The directives of several characters, by what follows the percent sign, and the text behind
them. -/
def long? (instant : Instant) : List Char → Option (String × List Char)
  | ':' :: ':' :: ':' :: 'z' :: rest => some ("+00", rest)
  | ':' :: ':' :: 'z' :: rest => some ("+00:00:00", rest)
  | ':' :: 'z' :: rest => some ("+00:00", rest)
  | '.' :: 'f' :: rest => some (fraction instant.nanoseconds, rest)
  | '.' :: '3' :: 'f' :: rest =>
    some ("." ++ padded .zeros 3 (instant.nanoseconds / 1000000), rest)
  | '.' :: '6' :: 'f' :: rest => some ("." ++ padded .zeros 6 (instant.nanoseconds / 1000), rest)
  | '.' :: '9' :: 'f' :: rest => some ("." ++ padded .zeros 9 instant.nanoseconds, rest)
  | '3' :: 'f' :: rest => some (padded .zeros 3 (instant.nanoseconds / 1000000), rest)
  | '6' :: 'f' :: rest => some (padded .zeros 6 (instant.nanoseconds / 1000), rest)
  | '9' :: 'f' :: rest => some (padded .zeros 9 instant.nanoseconds, rest)
  | _ => none

/-- The padding that a mark asks for. -/
def paddingMark? : Char → Option Padding
  | '-' => some .none
  | '0' => some .zeros
  | '_' => some .spaces
  | _ => none

/-- The directive behind a percent sign, and the text behind it. -/
def directive? (instant : Instant) (text : List Char) : Option (String × List Char) :=
  match text with
  | [] => none
  | mark :: rest =>
    match paddingMark? mark, rest with
    | some padding, directive :: behind =>
      (numeric? instant directive).map fun (_, width, value) =>
        (padded padding width value, behind)
    | some _, [] => none
    | none, _ =>
      match numeric? instant mark with
      | some (padding, width, value) => some (padded padding width value, rest)
      | none =>
        match composed? instant mark with
        | some written => some (written, rest)
        | none => long? instant text

/-- An instant in a format. The first number bounds how many characters are read. -/
def formatWithin (instant : Instant) : Nat → List Char → Option String
  | 0, _ => some ""
  | _ + 1, [] => some ""
  | bound + 1, '%' :: rest => do
    let (written, rest) ← directive? instant rest
    return written ++ (← formatWithin instant bound rest)
  | bound + 1, c :: rest => do
    return String.ofList [c] ++ (← formatWithin instant bound rest)

/-- An instant in a format, if the format is one. -/
def Instant.format? (instant : Instant) (format : String) : Option String :=
  formatWithin instant (format.toList.length + 1) format.toList

end RequestChain.Time
