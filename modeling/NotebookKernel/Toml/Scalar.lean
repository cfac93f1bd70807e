import NotebookKernel.Decimal.Binary64
import NotebookKernel.Toml.Basic

/-! # Numbers, dates and times

Numbers, truth values, dates and times are written without quotes.  `scalar` says what the
whole of such a token means.
-/

namespace NotebookKernel.Toml

/-! ## Digits -/

def digitValue (c : Char) : Option Nat :=
  if '0' ≤ c ∧ c ≤ '9' then some (c.toNat - '0'.toNat)
  else if 'a' ≤ c ∧ c ≤ 'f' then some (c.toNat - 'a'.toNat + 10)
  else if 'A' ≤ c ∧ c ≤ 'F' then some (c.toNat - 'A'.toNat + 10)
  else none

def isDigitOf (base : Nat) (c : Char) : Bool :=
  (digitValue c).any (· < base)

def numberOf (base : Nat) (digits : List Char) : Nat :=
  digits.foldl (fun n c => n * base + (digitValue c).getD 0) 0

/-- The digits of a number, in which underscores may stand between two digits. -/
def digits? (base : Nat) : List Char → Option (List Char)
  | [] => none
  | [c] => if isDigitOf base c then some [c] else none
  | c :: '_' :: rest =>
    if isDigitOf base c then (digits? base rest).map (c :: ·) else none
  | c :: rest => if isDigitOf base c then (digits? base rest).map (c :: ·) else none

/-- The digits of a whole number in decimal notation; zero leads no other digit. -/
def wholeDigits? (token : List Char) : Option (List Char) :=
  (digits? 10 token).filter fun _ => token.head? != some '0' || token.length == 1

def splitSign : List Char → Bool × List Char
  | '+' :: rest => (false, rest)
  | '-' :: rest => (true, rest)
  | token => (false, token)

/-! ## Numbers -/

def isInteger64 (i : Int) : Bool :=
  -Int.pow 2 63 ≤ i && i < Int.pow 2 63

def integer? (token : List Char) : Option Int :=
  let i : Option Int :=
    match token with
    | '0' :: 'x' :: rest => (digits? 16 rest).map fun ds => numberOf 16 ds
    | '0' :: 'o' :: rest => (digits? 8 rest).map fun ds => numberOf 8 ds
    | '0' :: 'b' :: rest => (digits? 2 rest).map fun ds => numberOf 2 ds
    | _ =>
      let (negative, rest) := splitSign token
      (wholeDigits? rest).map fun ds =>
        if negative then -(numberOf 10 ds : Int) else numberOf 10 ds
  i.filter isInteger64

/-- Whether `significand · 10 ^ exponent` is nearest to a finite double. -/
def isFinite (significand : Nat) (exponent : Int) : Bool :=
  let places : Int := (toString significand).length + exponent
  -- the number of digits before the point decides, except close to the greatest double
  if significand = 0 || places ≤ 308 then true
  else if 309 < places then false
  else
    let (num, den) :=
      if 0 ≤ exponent then (significand * Nat.pow 10 exponent.toNat, 1)
      else (significand, Nat.pow 10 (-exponent).toNat)
    (Decimal.roundRatio num den).isSome

def exponent? (token : List Char) : Option Int :=
  let (negative, rest) := splitSign token
  (digits? 10 rest).map fun ds =>
    if negative then -(numberOf 10 ds : Int) else numberOf 10 ds

def isExponentMark (c : Char) : Bool :=
  c = 'e' || c = 'E'

/-- Whether a token denotes a number with a fraction or an exponent.  Only a negative number
    may be too great for a double. -/
def isFloat (token : List Char) : Bool :=
  let (negative, rest) := splitSign token
  if rest = ['i', 'n', 'f'] || rest = ['n', 'a', 'n'] then true
  else
    let whole := rest.takeWhile fun c => c != '.' && !isExponentMark c
    let rest := rest.drop whole.length
    let (fraction, rest) := match rest with
      | '.' :: rest =>
        let fraction := rest.takeWhile (!isExponentMark ·)
        (digits? 10 fraction, rest.drop fraction.length)
      | _ => (some [], rest)
    let exponent := match rest with
      | _ :: rest => exponent? rest
      -- a token with neither a fraction nor an exponent is no float
      | [] => if fraction = some [] then none else some 0
    match wholeDigits? whole, fraction, exponent with
    | some ds, some fs, some e => negative || isFinite (numberOf 10 (ds ++ fs)) (e - fs.length)
    | _, _, _ => false

/-! ## Dates and times -/

def fixedNumber (width : Nat) (token : List Char) : Option (Nat × List Char) :=
  let ds := token.take width
  if ds.length = width && ds.all (isDigitOf 10) then some (numberOf 10 ds, token.drop width)
  else none

def expectChar (c : Char) : List Char → Option (List Char)
  | d :: rest => if d = c then some rest else none
  | [] => none

def daysIn (year month : Nat) : Nat :=
  if month = 2 then
    if year % 4 = 0 && (year % 100 ≠ 0 || year % 400 = 0) then 29 else 28
  else if month = 4 || month = 6 || month = 9 || month = 11 then 30
  else 31

def date (token : List Char) : Option (List Char) := do
  let (year, rest) ← fixedNumber 4 token
  let rest ← expectChar '-' rest
  let (month, rest) ← fixedNumber 2 rest
  let rest ← expectChar '-' rest
  let (day, rest) ← fixedNumber 2 rest
  if 1 ≤ month && month ≤ 12 && 1 ≤ day && day ≤ daysIn year month then some rest else none

def hoursAndMinutes (token : List Char) : Option (List Char) := do
  let (hour, rest) ← fixedNumber 2 token
  let rest ← expectChar ':' rest
  let (minute, rest) ← fixedNumber 2 rest
  if hour ≤ 23 && minute ≤ 59 then some rest else none

/-- Consume a time; a minute may have a leap second. -/
def time (token : List Char) : Option (List Char) := do
  let rest ← hoursAndMinutes token
  let rest ← expectChar ':' rest
  let (second, rest) ← fixedNumber 2 rest
  if 60 < second then none
  else
    match rest with
    | '.' :: d :: rest => if isDigitOf 10 d then some (rest.dropWhile (isDigitOf 10)) else none
    | _ => some rest

/-- Whether nothing or the offset of a time zone is left of a token. -/
def isOffset : List Char → Bool
  | [] => true
  | ['Z'] => true
  | ['z'] => true
  | c :: rest => (c = '+' || c = '-') && hoursAndMinutes rest == some []

/-- Whether a token is a date, a time, or both.  Only both together have an offset. -/
def isMoment (token : List Char) : Bool :=
  match date token with
  | some [] => true
  | some (c :: rest) => (c = 'T' || c = 't' || c = ' ') && (time rest).any isOffset
  | none => time token == some []

/-! ## Tokens -/

def scalar (token : List Char) : Option Value :=
  if token = "true".toList then some (.bool true)
  else if token = "false".toList then some (.bool false)
  else
    match integer? token with
    | some i => some (.integer i)
    | none =>
      if isFloat token then some .float
      else if isMoment token then some .moment
      else none

def isTokenChar (c : Char) : Bool :=
  c.isAlphanum || c = '_' || c = '+' || c = '-' || c = '.' || c = ':'

/-- The characters of the token that begins here.  A date can be followed by a blank and a
    time. -/
def tokenSpan (text : List Char) : List Char :=
  let token := text.takeWhile isTokenChar
  if date token == some [] then
    match text.drop token.length with
    | ' ' :: c :: rest =>
      if isDigitOf 10 c then token ++ ' ' :: (c :: rest).takeWhile isTokenChar else token
    | _ => token
  else token

end NotebookKernel.Toml
