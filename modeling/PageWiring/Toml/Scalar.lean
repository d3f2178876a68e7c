import PageWiring.Toml.Value

/-!
TOML values that are written without quotes: numbers, dates, times, truth values.
-/
namespace PageWiring.Toml

/-- May a character stand in an unquoted value? -/
def isScalarChar (c : Char) : Bool :=
  Text.isAsciiAlphanumeric c || c == '_' || c == '+' || c == '-' || c == '.' || c == ':'

/-- Digits without the underscores that may stand between them. -/
def digits? (isDigit : Char → Bool) (cs : List Char) : Option (List Char) :=
  let groups := Text.splitAt '_' cs
  if groups.all (fun g => !g.isEmpty && g.all isDigit) then some groups.flatten else none

def digitNumber (base : Nat) (cs : List Char) : Nat :=
  cs.foldl (fun n c =>
    let d := if Text.isAsciiDigit c then c.toNat - 48 else c.toLower.toNat - 87
    n * base + d) 0

/-- The sign of a number and what follows it. -/
def sign : List Char → Bool × List Char
  | '-' :: cs => (true, cs)
  | '+' :: cs => (false, cs)
  | cs => (false, cs)

/-- A decimal number without superfluous zeros. -/
def decimal? (cs : List Char) : Option Nat :=
  match cs with
  | '0' :: _ :: _ => none
  | cs => (digits? Text.isAsciiDigit cs).map (digitNumber 10)

private def isHexDigit (c : Char) : Bool :=
  Text.isAsciiDigit c || ('a' ≤ c && c ≤ 'f') || ('A' ≤ c && c ≤ 'F')

/-- An integer of 64 bits. -/
def integer? (cs : List Char) : Option Int := do
  let limit : Nat := Nat.pow 2 63
  let based (isDigit : Char → Bool) (base : Nat) (cs : List Char) : Option Int := do
    let n := digitNumber base (← digits? isDigit cs)
    if n < limit then some n else none
  match cs with
  | '0' :: 'x' :: cs => based isHexDigit 16 cs
  | '0' :: 'o' :: cs => based (fun c => '0' ≤ c && c ≤ '7') 8 cs
  | '0' :: 'b' :: cs => based (fun c => c == '0' || c == '1') 2 cs
  | cs =>
    let (negative, body) := sign cs
    let n ← decimal? body
    if negative then (if n ≤ limit then some (-n : Int) else none)
    else if n < limit then some n
    else none

/-- Is `mantissa * 10 ^ exponent` too big for a double? -/
def overflows (mantissa : Nat) (exponent : Int) : Bool :=
  let bound := Nat.pow 2 1024 - Nat.pow 2 970
  let size := (Nat.toDigits 10 mantissa).length + exponent
  if mantissa = 0 then false
  else if size > 310 then true
  else if size < 300 then false
  else if exponent ≥ 0 then mantissa * Nat.pow 10 exponent.toNat ≥ bound
  else mantissa ≥ bound * Nat.pow 10 (-exponent).toNat

/-- The digits behind the exponent mark, as a number. -/
def exponent? : List Char → Option Int
  | [] => some 0
  | _ :: cs => do
    let (negative, body) := sign cs
    let n := digitNumber 10 (← digits? Text.isAsciiDigit body)
    some (if negative then -n else n)

/-- A number with a fraction or an exponent. Only below zero may it be too big. -/
def isFraction (cs : List Char) : Bool :=
  let (negative, body) := sign cs
  if body == "inf".toList || body == "nan".toList then true
  else
    let isMark (c : Char) : Bool := c == 'e' || c == 'E'
    let whole := body.takeWhile fun c => c != '.' && !isMark c
    let rest := body.drop whole.length
    let checked : Option Bool := do
      let w ← decimal? whole
      match rest with
      | [] => none
      | '.' :: rest =>
        let fraction := rest.takeWhile fun c => !isMark c
        let f ← digits? Text.isAsciiDigit fraction
        let e ← exponent? (rest.drop fraction.length)
        some (negative || !overflows (w * Nat.pow 10 f.length + digitNumber 10 f) (e - f.length))
      | rest =>
        let e ← exponent? rest
        some (negative || !overflows w e)
    checked.getD false

/-- A number of exactly `width` digits between two bounds. -/
def field? (width low high : Nat) (cs : List Char) : Option Nat :=
  if cs.length == width && cs.all Text.isAsciiDigit then
    let n := digitNumber 10 cs
    if low ≤ n && n ≤ high then some n else none
  else none

def daysInMonth (year month : Nat) : Nat :=
  let leap := year % 4 == 0 && (year % 100 != 0 || year % 400 == 0)
  if month == 2 then (if leap then 29 else 28)
  else if [4, 6, 9, 11].contains month then 30
  else 31

def isDate (cs : List Char) : Bool :=
  match Text.splitAt '-' cs with
  | [y, m, d] =>
    match field? 4 0 9999 y, field? 2 1 12 m, field? 2 1 31 d with
    | some y, some m, some d => d ≤ daysInMonth y m
    | _, _, _ => false
  | _ => false

/-- A time of day, perhaps with a fraction of a second. -/
def isTime (cs : List Char) : Bool :=
  match Text.splitAt ':' cs with
  | [h, m, s] =>
    let whole := s.take 2
    let fraction := s.drop 2
    (field? 2 0 23 h).isSome && (field? 2 0 59 m).isSome && (field? 2 0 60 whole).isSome &&
      match fraction with
      | [] => true
      | '.' :: ds => !ds.isEmpty && ds.all Text.isAsciiDigit
      | _ => false
  | _ => false

/-- A time that may be followed by its distance from universal time. -/
def isZonedTime (cs : List Char) : Bool :=
  let time := cs.takeWhile fun c => Text.isAsciiDigit c || c == ':' || c == '.'
  isTime time &&
    match cs.drop time.length with
    | [] => true
    | ['Z'] => true
    | ['z'] => true
    | c :: zone =>
      (c == '+' || c == '-') &&
        match Text.splitAt ':' zone with
        | [h, m] => (field? 2 0 23 h).isSome && (field? 2 0 59 m).isSome
        | _ => false

/-- A date with or without a time, or a time alone. -/
def isMoment (cs : List Char) : Bool :=
  isTime cs || isDate cs ||
    (isDate (cs.take 10) &&
      match cs.drop 10 with
      | c :: time => (c == 'T' || c == 't') && isZonedTime time
      | [] => false)

def scalar? (cs : List Char) : Option Value :=
  if cs == "true".toList then some (.boolean true)
  else if cs == "false".toList then some (.boolean false)
  else if isMoment cs then some .moment
  else if isFraction cs then some .fraction
  else (integer? cs).map .integer

end PageWiring.Toml
