import AttestedUplink.Text.Reading
import AttestedUplink.Der

namespace AttestedUplink

/-!
# Times in certificates

A time is written with a year of two or of four digits. It is kept as the number of seconds since
the Unix epoch, which may be negative; fractions of a second are dropped.
-/

namespace CertificateTime

structure Civil where
  year : Nat
  month : Nat
  day : Nat
  hour : Nat
  minute : Nat
  second : Nat
  deriving Repr, DecidableEq

def isLeap (year : Nat) : Bool := year % 4 = 0 && (year % 100 ≠ 0 || year % 400 = 0)

def monthLens (year : Nat) : List Nat :=
  [31, if isLeap year then 29 else 28, 31, 30, 31, 30, 31, 31, 30, 31, 30, 31]

def Civil.isValid (t : Civil) : Bool :=
  1 ≤ t.month && t.month ≤ 12 && 1 ≤ t.day && t.day ≤ (monthLens t.year).getD (t.month - 1) 0 &&
    t.hour ≤ 23 && t.minute ≤ 59 && t.second ≤ 59

def daysBeforeYear (year : Nat) : Nat :=
  365 * year + (year + 3) / 4 - (year + 99) / 100 + (year + 399) / 400

def Civil.days (t : Civil) : Nat :=
  daysBeforeYear t.year + ((monthLens t.year).take (t.month - 1)).foldl (· + ·) 0 + (t.day - 1)

/-- The days from the first of January of the year zero to the Unix epoch. -/
def epochDays : Nat := 719528

def Civil.toSeconds (t : Civil) : Int :=
  ((t.days : Int) - epochDays) * 86400 + (t.hour * 3600 + t.minute * 60 + t.second : Nat)

def twoDigits? : List Char → Option (Nat × List Char)
  | a :: b :: rest => do
    let a ← Numeral.digit? a
    let b ← Numeral.digit? b
    return (10 * a + b, rest)
  | _ => none

/-- Takes the second, which may be left out if no more than one character follows. -/
def second? (cs : List Char) : Option (Nat × List Char) :=
  if 2 ≤ cs.length then twoDigits? cs else some (0, cs)

def civil? (year : Nat) (cs : List Char) : Option (Civil × List Char) := do
  let (month, cs) ← twoDigits? cs
  let (day, cs) ← twoDigits? cs
  let (hour, cs) ← twoDigits? cs
  let (minute, cs) ← twoDigits? cs
  let (second, cs) ← second? cs
  let t : Civil := { year, month, day, hour, minute, second }
  guard t.isValid
  return (t, cs)

def maxOffsetHours : Nat := 25

/-- Reads a difference to universal time, in seconds: `Z`, or a sign with hours and minutes. The
sign is that of the hours, and the minutes have it only if there are any hours. -/
def offset? : List Char → Option Int
  | ['Z'] => some 0
  | sign :: cs => do
    let (hours, cs) ← twoDigits? cs
    let (minutes, cs) ← twoDigits? cs
    guard (cs.isEmpty ∧ hours ≤ maxOffsetHours ∧ minutes ≤ 59)
    let seconds : Int := (hours * 3600 + minutes * 60 : Nat)
    if sign = '+' then return seconds
    else if sign = '-' then return if hours = 0 then seconds else -seconds
    else none
  | [] => none

/-- The full year of one of two digits: the second half of a century belongs to the twentieth. -/
def century (year : Nat) : Nat := if year < 50 then 2000 + year else 1900 + year

def utc? (cs : List Char) : Option Int := do
  let (year, cs) ← twoDigits? cs
  let (t, cs) ← civil? (century year) cs
  let offset ← offset? cs
  return t.toSeconds - offset

/-- Whether the rest of a time is `Z`, after a point and up to three digits or not. -/
def isZulu : List Char → Bool
  | ['Z'] => true
  | '.' :: cs =>
    match cs.reverse with
    | 'Z' :: digits =>
      digits.length ≤ 3 && digits.all fun c => (Numeral.digit? c).isSome
    | _ => false
  | _ => false

def generalized? (cs : List Char) : Option Int := do
  let (high, cs) ← twoDigits? cs
  let (low, cs) ← twoDigits? cs
  let (t, cs) ← civil? (100 * high + low) cs
  guard (isZulu cs)
  return t.toSeconds

def reader : Der.Reader Int := do
  let e ← Der.element
  let cs := e.content.map fun b => Char.ofNat b.toNat
  if e.tagNumber = Der.utcTimeType then StateT.lift (utc? cs)
  else if e.tagNumber = Der.generalizedTimeType then StateT.lift (generalized? cs)
  else failure

end CertificateTime

end AttestedUplink
