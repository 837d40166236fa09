import TypedMvc.Data.Value

/-!
# Numbers, dates and truth values in configuration documents

Everything that is written without quotation marks: truth values, whole numbers in four bases,
numbers with a fraction or an exponent, dates and times. Between digits there may be underscores.
-/

namespace TypedMvc.Toml

open Data

/-- The digits of a base up to sixteen. -/
def isDigitOf (base : Nat) (c : Char) : Bool :=
  (c.isDigit && c.toNat - 48 < base) ||
    (base == 16 && (('a' ≤ c && c ≤ 'f') || ('A' ≤ c && c ≤ 'F')))

/-- The value of a digit. -/
def digitValue (c : Char) : Nat :=
  if c.isDigit then c.toNat - 48
  else if 'a' ≤ c then c.toNat - 87
  else c.toNat - 55

/-- The digits of a number without the underscores between them; none if there is anything else,
or an underscore that is not between two digits. -/
def digits? (base : Nat) : List Char → Option (List Char)
  | [] => none
  | [c] => if isDigitOf base c then some [c] else none
  | c :: '_' :: rest =>
    if isDigitOf base c then (digits? base rest).map (c :: ·) else none
  | c :: rest => if isDigitOf base c then (digits? base rest).map (c :: ·) else none

/-- The number with some digits. -/
def numberOf (base : Nat) (digits : List Char) : Nat :=
  digits.foldl (fun value c => base * value + digitValue c) 0

/-- A sign and what follows it. -/
def sign : List Char → Bool × List Char
  | '-' :: rest => (true, rest)
  | '+' :: rest => (false, rest)
  | text => (false, text)

/-- Digits that do not begin with a zero unless it is the only one. -/
def decimalDigits? (text : List Char) : Option (List Char) :=
  (digits? 10 text).bind fun digits =>
    match digits with
    | '0' :: _ :: _ => none
    | digits => some digits

/-- A whole number that fits into 128 bits. -/
def inRange? (n : Int) : Option Int :=
  if -(Nat.pow 2 127 : Int) ≤ n ∧ n < (Nat.pow 2 128 : Int) then some n else none

/-- A whole number. -/
def integer? (text : List Char) : Option Int :=
  match text with
  | '0' :: 'x' :: rest => (digits? 16 rest).bind fun ds => inRange? (numberOf 16 ds)
  | '0' :: 'o' :: rest => (digits? 8 rest).bind fun ds => inRange? (numberOf 8 ds)
  | '0' :: 'b' :: rest => (digits? 2 rest).bind fun ds => inRange? (numberOf 2 ds)
  | _ =>
    let (negative, rest) := sign text
    (decimalDigits? rest).bind fun ds =>
      let n : Int := numberOf 10 ds
      inRange? (if negative then -n else n)

/-- Whether a number with some digits and an exponent is too large for a double. -/
def overflows (digits : List Char) (exponent : Int) : Bool :=
  let significant := digits.dropWhile (· == '0')
  let magnitude := exponent + significant.length
  -- The largest double has 309 digits in front of the point, so only numbers of about that size
  -- have to be compared with it.
  if significant.isEmpty || magnitude < 308 then false
  else if 310 < magnitude then true
  else
    let limit := Nat.pow 2 1024 - Nat.pow 2 970
    let n := numberOf 10 significant
    if 0 ≤ exponent then limit ≤ n * Nat.pow 10 exponent.toNat
    else limit * Nat.pow 10 (-exponent).toNat ≤ n

/-- A number with a fraction or an exponent. -/
def isFloat (text : List Char) : Bool :=
  let (_, rest) := sign text
  if rest == ['i', 'n', 'f'] || rest == ['n', 'a', 'n'] then true
  else
    let isExponentMark (c : Char) : Bool := c == 'e' || c == 'E'
    let mantissa := rest.takeWhile fun c => !isExponentMark c
    let power := (rest.dropWhile fun c => !isExponentMark c).drop 1
    let whole := mantissa.takeWhile (· ≠ '.')
    let fraction := (mantissa.dropWhile (· ≠ '.')).drop 1
    let hasPower := mantissa.length < rest.length
    let hasFraction := whole.length < mantissa.length
    match decimalDigits? whole,
        if hasFraction then digits? 10 fraction else some [],
        if hasPower then digits? 10 (sign power).2 else some [] with
    | some wholeDigits, some fractionDigits, some powerDigits =>
      let power : Int := numberOf 10 powerDigits
      let power := if (sign ((rest.dropWhile fun c => !isExponentMark c).drop 1)).1 then -power
        else power
      (hasFraction || hasPower) &&
        !overflows (wholeDigits ++ fractionDigits) (power - fractionDigits.length)
    | _, _, _ => false

/-! ## Dates and times -/

/-- A number of a fixed count of digits, and what follows it. -/
def fixed? (count : Nat) (text : List Char) : Option (Nat × List Char) :=
  let taken := text.take count
  if taken.length == count && taken.all Char.isDigit then some (numberOf 10 taken, text.drop count)
  else none

/-- What follows a character that has to be there. -/
def expect? (c : Char) : List Char → Option (List Char)
  | d :: rest => if c = d then some rest else none
  | [] => none

/-- How many days a month has. -/
def daysIn (year month : Nat) : Nat :=
  if month = 2 then
    if year % 4 = 0 ∧ (year % 100 ≠ 0 ∨ year % 400 = 0) then 29 else 28
  else if month = 4 ∨ month = 6 ∨ month = 9 ∨ month = 11 then 30
  else 31

/-- What follows a date. -/
def afterDate? (text : List Char) : Option (List Char) := do
  let (year, text) ← fixed? 4 text
  let (month, text) ← fixed? 2 (← expect? '-' text)
  let (day, text) ← fixed? 2 (← expect? '-' text)
  guard (1 ≤ month ∧ month ≤ 12 ∧ 1 ≤ day ∧ day ≤ daysIn year month)
  return text

/-- What follows seconds and the fraction of a second behind them. -/
def afterSeconds? (text : List Char) : Option (List Char) := do
  let (second, text) ← fixed? 2 text
  guard (second ≤ 60)
  match text with
  | '.' :: rest =>
    guard (rest.head?.any Char.isDigit)
    return rest.dropWhile Char.isDigit
  | _ => return text

/-- What follows a time of day. The seconds may be left out. -/
def afterTime? (text : List Char) : Option (List Char) := do
  let (hour, text) ← fixed? 2 text
  let (minute, text) ← fixed? 2 (← expect? ':' text)
  guard (hour ≤ 23 ∧ minute ≤ 59)
  match text with
  | ':' :: rest => afterSeconds? rest
  | _ => return text

/-- Whether a text is the distance of a time zone. -/
def isOffset : List Char → Bool
  | ['Z'] | ['z'] => true
  | '+' :: rest | '-' :: rest =>
    match fixed? 2 rest with
    | some (hour, ':' :: rest) =>
      match fixed? 2 rest with
      | some (minute, []) => hour ≤ 23 && minute ≤ 59
      | _ => false
    | _ => false
  | _ => false

/-- Whether a text is a date, a time, or a date and a time with or without a time zone. -/
def isDateTime (text : List Char) : Bool :=
  match afterDate? text with
  | some [] => true
  | some (mark :: rest) =>
    if mark == 'T' || mark == 't' || mark == ' ' then
      match afterTime? rest with
      | some [] => true
      | some zone => isOffset zone
      | none => false
    else false
  | none => afterTime? text == some []

/-- The value that is written without quotation marks. A date or a time is an object of its own
sort. -/
def scalar? (text : List Char) : Option Value :=
  if text == "true".toList then some (.boolean true)
  else if text == "false".toList then some (.boolean false)
  else
    match integer? text with
    | some n => some (.number n)
    | none =>
      if isFloat text then some (.decimal (String.ofList text))
      else if isDateTime text then some (.object [("datetime", .text (String.ofList text))])
      else none

end TypedMvc.Toml
