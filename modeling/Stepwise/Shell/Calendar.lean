import Stepwise.Text.Lines

/-!
Dates and times of day: seconds since the beginning of 1970, in Greenwich. Dates are read in the forms
that people write, and written in a format.
-/

namespace Stepwise.Shell.Calendar

/-- A date and a time of day. -/
structure Moment where
  year : Int
  month : Nat
  day : Nat
  hour : Nat
  minute : Nat
  second : Nat
  deriving DecidableEq, Repr

/-- The days from the beginning of 1970 to a date. Years are taken to begin in March. -/
def daysOf (year : Int) (month day : Nat) : Int :=
  let y := if month ≤ 2 then year - 1 else year
  let era := y.fdiv 400
  let m : Int := (month + 9) % 12
  let inYear := (153 * m + 2) / 5 + day - 1
  let inEra := (y - era * 400) * 365 + (y - era * 400) / 4 - (y - era * 400) / 100 + inYear
  era * 146097 + inEra - 719468

/-- The date that is a number of days after the beginning of 1970. -/
def dateOf (days : Int) : Int × Nat × Nat :=
  let z := days + 719468
  let era := z.fdiv 146097
  let inEra := z - era * 146097
  let y := (inEra - inEra / 1460 + inEra / 36524 - inEra / 146096) / 365
  let inYear := inEra - (365 * y + y / 4 - y / 100)
  let m := (5 * inYear + 2) / 153
  let day := (inYear - (153 * m + 2) / 5 + 1).toNat
  let month := if m < 10 then (m + 3).toNat else (m - 9).toNat
  (y + era * 400 + (if month ≤ 2 then 1 else 0), month, day)

/-- The length of a month. -/
def monthLength (year : Int) (month : Nat) : Nat :=
  let next := if month = 12 then daysOf (year + 1) 1 1 else daysOf year (month + 1) 1
  (next - daysOf year month 1).toNat

namespace Moment

/-- The seconds since the beginning of 1970. -/
def seconds (m : Moment) : Int :=
  daysOf m.year m.month m.day * 86400 + m.hour * 3600 + m.minute * 60 + m.second

/-- The moment that is a number of seconds after the beginning of 1970. -/
def ofSeconds (s : Int) : Moment :=
  let days := s.fdiv 86400
  let rest := (s - days * 86400).toNat
  let (year, month, day) := dateOf days
  ⟨year, month, day, rest / 3600, rest / 60 % 60, rest % 60⟩

/-- The day of the week, Sunday being 0. -/
def weekday (m : Moment) : Nat := ((daysOf m.year m.month m.day + 4).fmod 7).toNat

/-- The day of the year, from 0 on. -/
def yearday (m : Moment) : Nat := (daysOf m.year m.month m.day - daysOf m.year 1 1).toNat

end Moment

/-- The names of the months. -/
def months : List String :=
  ["January", "February", "March", "April", "May", "June", "July", "August", "September", "October",
    "November", "December"]

/-- The names of the days of the week. -/
def weekdays : List String :=
  ["Sunday", "Monday", "Tuesday", "Wednesday", "Thursday", "Friday", "Saturday"]

/-- A number with at least `width` digits. -/
def padded (fill : Char) (width n : Nat) : String :=
  let s := toString n
  String.ofList (List.replicate (width - s.length) fill) ++ s

/-- The week of a date that begins on Monday and has most of its days in the year, and that year. -/
def standardWeek (m : Moment) : Int × Nat :=
  let days := daysOf m.year m.month m.day
  let thursday := days - ((m.weekday + 6) % 7 : Nat) + 3
  let year := (dateOf thursday).1
  (year, ((thursday - daysOf year 1 1) / 7 + 1).toNat)

/-- What a letter of a format stands for; `nanos` are parts of a second. -/
def field (m : Moment) (nanos : Nat) (c : Char) : Option String :=
  let two := fun (n : Nat) => padded '0' 2 n
  let hour12 := if m.hour % 12 = 0 then 12 else m.hour % 12
  let time := two m.hour ++ ":" ++ two m.minute ++ ":" ++ two m.second
  let year := padded '0' 4 m.year.natAbs
  let month := months.getD (m.month - 1) ""
  let weekday := weekdays.getD m.weekday ""
  let short := fun (s : String) => String.ofList (s.toList.take 3)
  match c with
  | 'Y' => some year
  | 'm' => some (two m.month)
  | 'd' => some (two m.day)
  | 'e' => some (padded ' ' 2 m.day)
  | 'H' => some (two m.hour)
  | 'k' => some (padded ' ' 2 m.hour)
  | 'I' => some (two hour12)
  | 'l' => some (padded ' ' 2 hour12)
  | 'M' => some (two m.minute)
  | 'S' => some (two m.second)
  | 'N' => some (padded '0' 9 nanos)
  | 's' => some (toString m.seconds)
  | 'j' => some (padded '0' 3 (m.yearday + 1))
  | 'y' => some (two (m.year.natAbs % 100))
  | 'C' => some (two (m.year.natAbs / 100))
  | 'a' => some (short weekday)
  | 'A' => some weekday
  | 'b' => some (short month)
  | 'h' => some (short month)
  | 'B' => some month
  | 'p' => some (if m.hour < 12 then "AM" else "PM")
  | 'P' => some (if m.hour < 12 then "am" else "pm")
  | 'u' => some (toString (if m.weekday = 0 then 7 else m.weekday))
  | 'w' => some (toString m.weekday)
  | 'q' => some (toString ((m.month - 1) / 3 + 1))
  | 'T' => some time
  | 'X' => some time
  | 'R' => some (two m.hour ++ ":" ++ two m.minute)
  | 'r' => some (two hour12 ++ ":" ++ two m.minute ++ ":" ++ two m.second ++ " " ++
      if m.hour < 12 then "AM" else "PM")
  | 'D' => some (two m.month ++ "/" ++ two m.day ++ "/" ++ two (m.year.natAbs % 100))
  | 'x' => some (two m.month ++ "/" ++ two m.day ++ "/" ++ two (m.year.natAbs % 100))
  | 'F' => some (year ++ "-" ++ two m.month ++ "-" ++ two m.day)
  | 'c' => some (short weekday ++ " " ++ short month ++ " " ++ padded ' ' 2 m.day ++ " " ++ time ++ " " ++ year)
  | 'Z' => some "UTC"
  | 'z' => some "+0000"
  | 'U' => some (two ((m.yearday + 7 - m.weekday) / 7))
  | 'W' => some (two ((m.yearday + 7 - (m.weekday + 6) % 7) / 7))
  | 'V' => some (two (standardWeek m).2)
  | 'G' => some (toString (standardWeek m).1)
  | 'g' => some (two ((standardWeek m).1.natAbs % 100))
  | 'n' => some "\n"
  | 't' => some "\t"
  | '%' => some "%"
  | _ => none

/-- A moment in a format; a minus sign takes zeros and blanks off a number, and an underscore has blanks
in the place of zeros. -/
def formatted (m : Moment) (nanos : Nat) : List Char → List Char
  | '%' :: '-' :: c :: rest =>
    let s := ((field m nanos c).getD "").toList
    let cut := s.dropWhile fun d => d == '0' || d == ' '
    (if cut.isEmpty then s.drop (s.length - 1) else cut) ++ formatted m nanos rest
  | '%' :: '_' :: c :: rest =>
    let s := ((field m nanos c).getD "").toList
    let zeros := (s.takeWhile (· == '0')).length
    let zeros := if zeros = s.length then zeros - 1 else zeros
    List.replicate zeros ' ' ++ s.drop zeros ++ formatted m nanos rest
  | '%' :: '^' :: c :: rest =>
    ((field m nanos c).getD "").toList.map Char.toUpper ++ formatted m nanos rest
  | '%' :: ':' :: 'z' :: rest => "+00:00".toList ++ formatted m nanos rest
  | '%' :: '3' :: 'N' :: rest => (padded '0' 9 nanos).toList.take 3 ++ formatted m nanos rest
  | '%' :: c :: rest =>
    match field m nanos c with
    | some s => s.toList ++ formatted m nanos rest
    | none => '%' :: c :: formatted m nanos rest
  | c :: rest => c :: formatted m nanos rest
  | [] => []

/-! ### Reading -/

/-- What is known of a moment while it is read: the date, the time of day with parts of a second in
microseconds, whether it was given, what is added to it by units, and the seconds to be taken off for a
place other than Greenwich. -/
structure Draft where
  date : Option (Int × Nat × Nat)
  time : Option (Nat × Nat × Nat × Nat)
  whole : Option Int
  months : Int
  days : Int
  seconds : Int
  weekday : Option Nat
  deriving Repr

/-- A number of digits only. -/
def numeral? (cs : List Char) : Option Nat :=
  if !cs.isEmpty && cs.all Char.isDigit then some (cs.foldl (fun n c => n * 10 + (c.toNat - 48)) 0) else none

/-- The place of a word among names that it shortens to at least three letters. -/
def nameIndex? (names : List String) (w : List Char) : Option Nat :=
  if w.length < 3 then none
  else names.findIdx? fun n => w.isPrefixOf (n.toList.map Char.toLower)

/-- A time of day written with colons, in microseconds after its seconds. -/
def clock? (w : List Char) : Option (Nat × Nat × Nat × Nat) :=
  let parts := Text.splitAt ':' w
  let second? (s : List Char) : Option (Nat × Nat) :=
    let whole := s.takeWhile (· != '.')
    let part := s.drop (whole.length + 1)
    match numeral? whole with
    | some n =>
      if whole.length = s.length then some (n, 0)
      else (numeral? part).map fun _ =>
        (n, ((part ++ List.replicate 6 '0').take 6).foldl (fun n c => n * 10 + (c.toNat - 48)) 0)
    | none => none
  let checked (h m s u : Nat) : Option (Nat × Nat × Nat × Nat) :=
    if h < 24 ∧ m < 60 ∧ s < 61 then some (h, m, s, u) else none
  match parts with
  | [h, m] => do checked (← numeral? h) (← numeral? m) 0 0
  | [h, m, s] => do
    let (s, u) ← second? s
    checked (← numeral? h) (← numeral? m) s u
  | _ => none

/-- The offset that a word such as `+02:00` tells, in seconds. -/
def offset? (w : List Char) : Option Int :=
  match w with
  | ['Z'] => some 0
  | ['z'] => some 0
  | sign :: rest =>
    if sign = '+' ∨ sign = '-' then
      let digits := rest.filter (· != ':')
      let n? := numeral? digits
      n?.bind fun n =>
        let s? : Option Int :=
          if digits.length ≤ 2 then some (n * 3600)
          else if digits.length = 4 then some (n / 100 * 3600 + n % 100 * 60)
          else none
        s?.map fun s => if sign = '-' then -s else s
    else none
  | [] => none

/-- A date written with dashes or slashes, or as eight digits. -/
def day? (w : List Char) : Option (Int × Nat × Nat) :=
  let checked (y m d : Nat) : Option (Int × Nat × Nat) :=
    if 1 ≤ m ∧ m ≤ 12 ∧ 1 ≤ d ∧ d ≤ monthLength y m then some (y, m, d) else none
  let full (w : List Char) (y : Nat) : Nat := if w.length ≤ 2 then (if y < 69 then 2000 + y else 1900 + y) else y
  match Text.splitAt '-' w, Text.splitAt '/' w, numeral? w with
  | [y, m, d], _, _ => do checked (full y (← numeral? y)) (← numeral? m) (← numeral? d)
  | _, [m, d, y], _ => do checked (full y (← numeral? y)) (← numeral? m) (← numeral? d)
  | _, _, some n => if w.length = 8 then checked (n / 10000) (n / 100 % 100) (n % 100) else none
  | _, _, none => none

/-- The draft with a number of units added. -/
def Draft.add? (d : Draft) (n : Int) (unit : List Char) : Option Draft :=
  let unit := if unit.getLast? == some 's' then unit.dropLast else unit
  match String.ofList unit with
  | "year" => some { d with months := d.months + 12 * n }
  | "month" => some { d with months := d.months + n }
  | "fortnight" => some { d with days := d.days + 14 * n }
  | "week" => some { d with days := d.days + 7 * n }
  | "day" => some { d with days := d.days + n }
  | "hour" => some { d with seconds := d.seconds + 3600 * n }
  | "minute" => some { d with seconds := d.seconds + 60 * n }
  | "min" => some { d with seconds := d.seconds + 60 * n }
  | "second" => some { d with seconds := d.seconds + n }
  | "sec" => some { d with seconds := d.seconds + n }
  | _ => none

/-- A number with a sign. -/
def signed? (w : List Char) : Option Int :=
  match w with
  | '+' :: rest => (numeral? rest).map Int.ofNat
  | '-' :: rest => (numeral? rest).map fun n => -(n : Int)
  | _ => (numeral? w).map Int.ofNat

/-- Reads at most `n` words into a draft; `today` is the date now. -/
def readWords : Nat → Draft → List (List Char) → Option Draft
  | 0, _, _ => none
  | _, d, [] => some d
  | n + 1, d, w :: rest =>
    let lower := w.map Char.toLower
    let word := String.ofList lower
    let ago (rest : List (List Char)) : Bool := rest.head?.any fun w => String.ofList (w.map Char.toLower) == "ago"
    let counted (count : Int) (unit : List Char) (rest : List (List Char)) : Option Draft :=
      if ago rest then (d.add? (-count) unit).bind fun d => readWords n d (rest.drop 1)
      else (d.add? count unit).bind fun d => readWords n d rest
    if word = "now" ∨ word = "utc" ∨ word = "gmt" ∨ word = "z" ∨ word = "today" ∨ word = "," then readWords n d rest
    else if word = "yesterday" then readWords n { d with days := d.days - 1 } rest
    else if word = "tomorrow" then readWords n { d with days := d.days + 1 } rest
    else if word = "midnight" then readWords n { d with time := some (0, 0, 0, 0) } rest
    else if word = "noon" then readWords n { d with time := some (12, 0, 0, 0) } rest
    else if word = "am" ∨ word = "pm" then
      match d.time with
      | some (h, m, s, u) =>
        readWords n { d with time := some (h % 12 + (if word = "pm" then 12 else 0), m, s, u) } rest
      | none => none
    else
      match clock? (lower.takeWhile fun c => c.isDigit || c == ':' || c == '.') with
      | some t =>
        let zone := lower.dropWhile fun c => c.isDigit || c == ':' || c == '.'
        let d := { d with time := some t }
        if zone.isEmpty then readWords n d rest
        else if zone = ['a', 'm'] ∨ zone = ['p', 'm'] then readWords n d (zone :: rest)
        else (offset? (zone.map Char.toUpper)).bind fun o => readWords n { d with seconds := d.seconds - o } rest
      | none =>
        match day? lower with
        | some date => readWords n { d with date := some date } rest
        | none =>
          let date := lower.takeWhile (· != 't')
          match day? date, lower.drop (date.length + 1) with
          | some day, time :: more => readWords n { d with date := some day } ((time :: more) :: rest)
          | _, _ =>
            match nameIndex? months (lower.filter (· != ',')), rest with
            | some m, day :: year :: more =>
              match numeral? (day.filter (· != ',')), numeral? year with
              | some day, some y => readWords n { d with date := some (y, m + 1, day) } more
              | _, _ => none
            | some _, _ => none
            | none, _ =>
              match nameIndex? weekdays (lower.filter (· != ',')) with
              | some i => readWords n { d with weekday := some i } rest
              | none =>
                match signed? lower, rest with
                | some count, unit :: more =>
                  match nameIndex? months (unit.map Char.toLower), more with
                  | some m, year :: more =>
                    match numeral? year with
                    | some y => readWords n { d with date := some (y, m + 1, count.toNat) } more
                    | none => none
                  | _, _ => counted count (unit.map Char.toLower) more
                | some _, [] => none
                | none, unit :: more =>
                  if word = "next" then counted 1 (unit.map Char.toLower) more
                  else if word = "last" then counted (-1) (unit.map Char.toLower) more
                  else if ago rest then (d.add? (-1) lower).bind fun d => readWords n d more
                  else (d.add? 1 lower).bind fun d => readWords n d rest
                | none, [] => (d.add? 1 lower)

/-- The time that a text tells, in microseconds; `now` is the present one. -/
def read? (now : Int) (s : String) : Option Int :=
  let words := (Text.splitAt ' ' (s.toList.map fun c => if c = '\t' ∨ c = '\n' then ' ' else c)).filter (!·.isEmpty)
  match words with
  | ['@' :: n] => (signed? n).map (· * 1000000)
  | _ => do
    let d ← readWords (4 * s.length + 4) ⟨none, none, none, 0, 0, 0, none⟩ words
    let present := Moment.ofSeconds (now.fdiv 1000000)
    let (year, month, day) := d.date.getD (present.year, present.month, present.day)
    let given := d.date.isSome || d.time.isSome || d.weekday.isSome || words.isEmpty
    let (hour, minute, second, micros) := d.time.getD
      (if given then (0, 0, 0, 0) else (present.hour, present.minute, present.second, (now.fmod 1000000).toNat))
    let count := year * 12 + ((month - 1 : Nat) : Int) + d.months
    let year := count.fdiv 12
    let month := (count - year * 12).toNat + 1
    let base := daysOf year month day + d.days
    let forward := match d.weekday with
      | some w => (((w : Int) - (base + 4)).fmod 7)
      | none => 0
    let seconds := (base + forward) * 86400 + hour * 3600 + minute * 60 + second + d.seconds
    pure (seconds * 1000000 + micros)

/-- The time of a stamp of digits, two for each unit, the seconds coming after a point. -/
def stamp? (now : Int) (s : String) : Option Int := do
  let cs := s.toList
  let main := cs.takeWhile (· != '.')
  let second ← if main.length = cs.length then some 0 else numeral? (cs.drop (main.length + 1))
  let n ← numeral? main
  let present := Moment.ofSeconds (now.fdiv 1000000)
  let year : Int ←
    if main.length = 8 then some present.year
    else if main.length = 10 then
      let y := n / 100000000
      some ((if y < 69 then 2000 + y else 1900 + y : Nat) : Int)
    else if main.length = 12 then some ((n / 100000000 : Nat) : Int)
    else none
  let m : Moment := ⟨year, n / 1000000 % 100, n / 10000 % 100, n / 100 % 100, n % 100, second⟩
  if 1 ≤ m.month ∧ m.month ≤ 12 ∧ 1 ≤ m.day ∧ m.day ≤ monthLength year m.month ∧ m.hour < 24 ∧ m.minute < 60 ∧
      m.second < 61 then some (m.seconds * 1000000)
  else none

end Stepwise.Shell.Calendar
