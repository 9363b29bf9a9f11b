import Regulatory.Toml.Text

/-!
Numbers, truth values, dates and times of a TOML document.
-/

namespace Regulatory.Toml

/-- The rest of a run of digits, in which an underscore may stand between two digits. -/
def moreDigits (isDigit : Char → Bool) : List Char → List Char × List Char
  | '_' :: d :: rest =>
    if isDigit d then
      let more := moreDigits isDigit rest
      (d :: more.1, more.2)
    else ([], '_' :: d :: rest)
  | d :: rest =>
    if isDigit d then
      let more := moreDigits isDigit rest
      (d :: more.1, more.2)
    else ([], d :: rest)
  | [] => ([], [])

/-- Reads a run of digits and returns them without underscores. -/
def digits? (isDigit : Char → Bool) : Reader (List Char)
  | d :: rest =>
    if isDigit d then
      let more := moreDigits isDigit rest
      some (d :: more.1, more.2)
    else none
  | [] => none

/-- Reads a sign, which may be missing. The flag says whether it was a minus. -/
def sign : List Char → Bool × List Char
  | '-' :: rest => (true, rest)
  | '+' :: rest => (false, rest)
  | s => (false, s)

def ofDigits (base : Nat) (digits : List Char) : Nat :=
  digits.foldl (fun n d => base * n + (hexDigit? d).getD 0) 0

/-- Reads a whole number in decimal. A zero may only stand alone. -/
def decimal? (s : List Char) : Option ((Bool × List Char) × List Char) :=
  let signed := sign s
  match signed.2 with
  | '0' :: rest => some ((signed.1, ['0']), rest)
  | rest => (digits? Char.isDigit rest).map fun x => ((signed.1, x.1), x.2)

def exponent? : Reader Int
  | e :: rest =>
    if e == 'e' || e == 'E' then
      let signed := sign rest
      (digits? Char.isDigit signed.2).map fun x =>
        let n : Int := ofDigits 10 x.1
        (if signed.1 then -n else n, x.2)
    else none
  | [] => none

/-- Reads a number with a fraction or an exponent. One too great for any double is refused, unless
it is negative. -/
def fractional? (s : List Char) : Option (Number.Binary64 × List Char) := do
  let ((negative, whole), rest) ← decimal? s
  let (fraction, exponent, rest) ←
    match rest with
    | '.' :: afterPoint => do
      let (fraction, rest) ← digits? Char.isDigit afterPoint
      match exponent? rest with
      | some (e, rest) => some (fraction, e, rest)
      | none => some (fraction, 0, rest)
    | _ => (exponent? rest).map fun x => ([], x.1, x.2)
  let digits := ofDigits 10 (whole ++ fraction)
  let number := Number.Binary64.ofDecimal negative digits (exponent - fraction.length)
  if number = .infinite false then none else some (number, rest)

def special? (s : List Char) : Option (Number.Binary64 × List Char) :=
  let signed := sign s
  match signed.2 with
  | 'i' :: 'n' :: 'f' :: rest => some (.infinite signed.1, rest)
  | 'n' :: 'a' :: 'n' :: rest => some (.nan, rest)
  | _ => none

/-- A whole number has to fit in 64 bits with a sign. -/
def inRange (n : Int) : Bool :=
  -0x8000000000000000 ≤ n && n < 0x8000000000000000

def integer? (s : List Char) : Option (Int × List Char) := do
  let inBase (base : Nat) (rest : List Char) : Option (Int × List Char) :=
    let isDigit (c : Char) : Bool := (hexDigit? c).any fun d => d < base
    (digits? isDigit rest).map fun x => ((ofDigits base x.1 : Int), x.2)
  let (n, rest) ←
    match s with
    | '0' :: 'x' :: rest => inBase 16 rest
    | '0' :: 'o' :: rest => inBase 8 rest
    | '0' :: 'b' :: rest => inBase 2 rest
    | _ =>
      (decimal? s).map fun x =>
        let n : Int := ofDigits 10 x.1.2
        (if x.1.1 then -n else n, x.2)
  if inRange n then some (n, rest) else none

def fixedDigits? (count : Nat) (s : List Char) : Option (Nat × List Char) :=
  let front := s.take count
  if front.length = count && front.all Char.isDigit then some (ofDigits 10 front, s.drop count)
  else none

def expect (c : Char) : List Char → Option (List Char)
  | [] => none
  | d :: rest => if c == d then some rest else none

def isLeapYear (year : Nat) : Bool :=
  year % 4 == 0 && (year % 100 != 0 || year % 400 == 0)

def daysInMonth (year month : Nat) : Nat :=
  match month with
  | 2 => if isLeapYear year then 29 else 28
  | 4 | 6 | 9 | 11 => 30
  | _ => 31

/-- Reads a date of the calendar and returns what follows. -/
def date? (s : List Char) : Option (List Char) := do
  let (year, rest) ← fixedDigits? 4 s
  let (month, rest) ← fixedDigits? 2 (← expect '-' rest)
  let (day, rest) ← fixedDigits? 2 (← expect '-' rest)
  if 1 ≤ month && month ≤ 12 && 1 ≤ day && day ≤ daysInMonth year month then some rest else none

/-- Reads hours and minutes and returns what follows. -/
def hoursMinutes? (s : List Char) : Option (List Char) := do
  let (hours, rest) ← fixedDigits? 2 s
  let (minutes, rest) ← fixedDigits? 2 (← expect ':' rest)
  if hours ≤ 23 && minutes ≤ 59 then some rest else none

/-- Reads a time of day, which may have a leap second and a fraction, and returns what follows. -/
def time? (s : List Char) : Option (List Char) := do
  let (seconds, rest) ← fixedDigits? 2 (← expect ':' (← hoursMinutes? s))
  if 60 < seconds then none
  else
    match rest with
    | '.' :: d :: more => if d.isDigit then some (more.dropWhile Char.isDigit) else some rest
    | _ => some rest

/-- Reads an offset from universal time, which may be missing, and returns what follows. -/
def skipOffset (s : List Char) : List Char :=
  match s with
  | c :: rest =>
    if c == 'Z' || c == 'z' then rest
    else if c == '+' || c == '-' then (hoursMinutes? rest).getD s
    else s
  | [] => []

/-- Reads a date, a time, or a date with a time, which a blank may set apart. -/
def dateTime? (s : List Char) : Option (String × List Char) := do
  let rest ←
    match date? s with
    | none => time? s
    | some afterDate =>
      match afterDate with
      | c :: more =>
        if c == 'T' || c == 't' || c == ' ' then
          match time? more with
          | some rest => some (skipOffset rest)
          | none => some afterDate
        else some afterDate
      | [] => some []
  some (String.ofList (s.take (s.length - rest.length)), rest)

/-- Reads a value that holds no others. -/
def scalarValue? (s : List Char) : Option (Value × List Char) :=
  match s with
  | [] => none
  | 't' :: 'r' :: 'u' :: 'e' :: rest => some (.boolean true, rest)
  | 'f' :: 'a' :: 'l' :: 's' :: 'e' :: rest => some (.boolean false, rest)
  | c :: _ =>
    if c == '"' || c == '\'' then (string? s).map fun x => (.string x.1, x.2)
    else
      ((dateTime? s).map fun x => (.dateTime x.1, x.2)) <|>
      ((fractional? s).map fun x => (.float x.1, x.2)) <|>
      ((special? s).map fun x => (.float x.1, x.2)) <|>
      ((integer? s).map fun x => (.integer x.1, x.2))

end Regulatory.Toml
