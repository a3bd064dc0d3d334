import Verdict.Number.Decimal

/-!
# Dates and times of TOML

A date, a time of day, or both, and then perhaps the offset from universal time.

## Main definitions

* `Verdict.Toml.DateTime` — a date, a time, or both.
* `Verdict.Toml.DateTime.text` — its only written form.
* `Verdict.Toml.dateTime?` — a date or time at the start of a text.

## Design

Digits can start a number as well. A date is one from its first dash on and a time from its first
colon on. So a reader has three answers: something else stands here, which is `some none`; something
that has begun as a date or time is none, which is `none`; or there it is.
-/

namespace Verdict.Toml

/-- A day of the calendar. -/
structure Date where
  year : Nat
  month : Nat
  day : Nat
  deriving Repr, DecidableEq

/-- A time of day. -/
structure Time where
  hour : Nat
  minute : Nat
  second : Nat
  nanosecond : Nat
  deriving Repr, DecidableEq

/-- A date, a time, or both. -/
structure DateTime where
  date? : Option Date := none
  time? : Option Time := none
  /-- The minutes that the time is ahead of universal time; none for universal time itself. -/
  offset? : Option (Option Int) := none
  deriving Repr, DecidableEq

/-! ### The written form -/

/-- A number with at least some digits. -/
def padded (width n : Nat) : String :=
  let digits := Nat.toDigits 10 n
  String.ofList (List.replicate (width - digits.length) '0' ++ digits)

/-- The written form of a date. -/
def Date.text (d : Date) : String :=
  padded 4 d.year ++ "-" ++ padded 2 d.month ++ "-" ++ padded 2 d.day

/-- The written form of a time; the fraction has no zeros at its end. -/
def Time.text (t : Time) : String :=
  let fraction := (((padded 9 t.nanosecond).toList.reverse.dropWhile (· == '0')).reverse)
  padded 2 t.hour ++ ":" ++ padded 2 t.minute ++ ":" ++ padded 2 t.second ++
    (if fraction.isEmpty then "" else "." ++ String.ofList fraction)

/-- The written form of an offset. -/
def offsetText : Option Int → String
  | none => "Z"
  | some minutes =>
    (if minutes < 0 then "-" else "+") ++ padded 2 (minutes.natAbs / 60) ++ ":" ++
      padded 2 (minutes.natAbs % 60)

/-- The written form of a date, a time, or both. -/
def DateTime.text (d : DateTime) : String :=
  ((d.date?.map Date.text).getD "") ++
    (if d.date?.isSome && d.time?.isSome then "T" else "") ++
    ((d.time?.map Time.text).getD "") ++ ((d.offset?.map offsetText).getD "")

/-! ### Reading -/

/-- A number of a definite count of digits, within bounds. -/
def field? (count least greatest : Nat) (cs : List Char) : Option (Nat × List Char) :=
  let digits := cs.take count
  let n := digitsValue digits
  if digits.length = count ∧ digits.all isDigit ∧ least ≤ n ∧ n ≤ greatest then
    some (n, cs.drop count)
  else none

/-- Skip a character that has to be there. -/
def mark? (mark : Char) : List Char → Option (List Char)
  | c :: rest => if c = mark then some rest else none
  | [] => none

/-- The number of days of a month. -/
def daysIn (year month : Nat) : Nat :=
  let leap := year % 4 = 0 ∧ (year % 100 ≠ 0 ∨ year % 400 = 0)
  if month = 2 then (if leap then 29 else 28)
  else if [4, 6, 9, 11].contains month then 30
  else 31

/-- A date at the start of a text. -/
def date? (cs : List Char) : Option (Option (Date × List Char)) :=
  match (field? 4 0 9999 cs).bind fun (year, rest) => (mark? '-' rest).map fun rest => (year, rest)
    with
  | none => some none
  | some (year, rest) =>
    (field? 2 1 12 rest).bind fun (month, rest) => (mark? '-' rest).bind fun rest =>
      (field? 2 1 (daysIn year month) rest).map fun (day, rest) => some (⟨year, month, day⟩, rest)

/-- The billionths of a fraction, if one is written; further digits do not count. -/
def nanoseconds (cs : List Char) : Nat × List Char :=
  match cs with
  | '.' :: rest =>
    let digits := rest.takeWhile isDigit
    if digits.isEmpty then (0, cs)
    else
      let digits := digits.take 9
      (digitsValue digits * 10 ^ (9 - digits.length), rest.dropWhile isDigit)
  | _ => (0, cs)

/-- A time at the start of a text. -/
def time? (cs : List Char) : Option (Option (Time × List Char)) :=
  match (field? 2 0 23 cs).bind fun (hour, rest) => (mark? ':' rest).map fun rest => (hour, rest)
    with
  | none => some none
  | some (hour, rest) =>
    (field? 2 0 59 rest).bind fun (minute, rest) => (mark? ':' rest).bind fun rest =>
      (field? 2 0 60 rest).map fun (second, rest) =>
        let (nanosecond, rest) := nanoseconds rest
        some (⟨hour, minute, second, nanosecond⟩, rest)

/-- An offset at the start of a text, if one is written. -/
def offset? (cs : List Char) : Option (Option (Option Int) × List Char) :=
  let ahead? (rest : List Char) : Option (Nat × List Char) :=
    (field? 2 0 23 rest).bind fun (hours, rest) => (mark? ':' rest).bind fun rest =>
      (field? 2 0 59 rest).map fun (minutes, rest) => (60 * hours + minutes, rest)
  match cs with
  | 'Z' :: rest | 'z' :: rest => some (some none, rest)
  | '+' :: rest => (ahead? rest).map fun (n, rest) => (some (some (n : Int)), rest)
  | '-' :: rest => (ahead? rest).map fun (n, rest) => (some (some (-(n : Int))), rest)
  | _ => some (none, cs)

/-- A date or time at the start of a text. -/
def dateTime? (cs : List Char) : Option (Option (DateTime × List Char)) :=
  (date? cs).bind fun
    | none => (time? cs).map fun found => found.map fun (time, rest) => ({ time? := time }, rest)
    | some (date, rest) =>
      let alone : DateTime × List Char := ({ date? := date }, rest)
      match rest with
      | c :: after =>
        if c = 'T' ∨ c = 't' ∨ c = ' ' then
          (time? after).bind fun
            | none => some (some alone)
            | some (time, rest) =>
              (offset? rest).map fun (offset, rest) =>
                some ({ date? := date, time? := time, offset? := offset }, rest)
        else some (some alone)
      | [] => some (some alone)

end Verdict.Toml
