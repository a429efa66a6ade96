import TelemetryStreams.Duration.Basic
import TelemetryStreams.Text.Blank

/-!
# Durations as people write them

A duration is written as a sum of parts, such as `2h 37m` or `1day 12h`, each a count and a unit.
Years have 365.25 days and months 30.44. `Human.render` writes the parts from the largest unit down and
leaves out those that are zero; `Human.read` takes parts in any order, with blanks anywhere but
inside a unit, and a decimal fraction where it comes to a whole number of the unit's base.

All sums are made in 64 bits. A sum that does not fit is unreadable, with one exception: a carry
out of exactly one second of nanoseconds at the greatest number of seconds, which `read` reports as
an overflow.
-/
namespace TelemetryStreams.Human

/-- What a part of a duration counts. -/
inductive TimeUnit where
  | nanosecond | microsecond | millisecond | second | minute | hour | day | week | month | year
  deriving DecidableEq, Repr

def TimeUnit.spellings : TimeUnit → List String
  | .nanosecond => ["nanos", "nsec", "ns"]
  | .microsecond => ["usec", "us", "µs"]
  | .millisecond => ["millis", "msec", "ms"]
  | .second => ["seconds", "second", "secs", "sec", "s"]
  | .minute => ["minutes", "minute", "min", "mins", "m"]
  | .hour => ["hours", "hour", "hrs", "hr", "h"]
  | .day => ["days", "day", "d"]
  | .week => ["weeks", "week", "wks", "wk", "w"]
  | .month => ["months", "month", "M"]
  | .year => ["years", "year", "yrs", "yr", "y"]

def TimeUnit.all : List TimeUnit :=
  [.nanosecond, .microsecond, .millisecond, .second, .minute, .hour, .day, .week, .month, .year]

def TimeUnit.ofName? (name : String) : Option TimeUnit :=
  TimeUnit.all.find? fun unit => unit.spellings.contains name

/-- The seconds and the nanoseconds that one whole unit comes to. One of the two is zero. -/
def TimeUnit.size : TimeUnit → Nat × Nat
  | .nanosecond => (0, 1)
  | .microsecond => (0, 1000)
  | .millisecond => (0, 1000000)
  | .second => (1, 0)
  | .minute => (60, 0)
  | .hour => (3600, 0)
  | .day => (86400, 0)
  | .week => (604800, 0)
  | .month => (2630016, 0)
  | .year => (31557600, 0)

/-- The seconds and the nanoseconds that a fraction of the unit is measured in. A nanosecond has no
fraction; seconds and minutes are divided to the nanosecond, longer units to the second. -/
def TimeUnit.divisible : TimeUnit → Option (Nat × Nat)
  | .nanosecond => none
  | .microsecond => some (0, 1000)
  | .millisecond => some (0, 1000000)
  | .second => some (0, 1000000000)
  | .minute => some (0, 60000000000)
  | .hour => some (3600, 0)
  | .day => some (86400, 0)
  | .week => some (604800, 0)
  | .month => some (2630016, 0)
  | .year => some (31557600, 0)

/-- Why a text gives no duration. -/
inductive Fault where
  | unreadable
  /-- The last carry does not fit. -/
  | overflow
  deriving DecidableEq, Repr

def word (n : Nat) : Except Fault Nat := if n < UInt64.size then .ok n else .error .unreadable

def digit? (c : Char) : Option Nat := if '0' ≤ c ∧ c ≤ '9' then some (c.toNat - 48) else none

def isLetter (c : Char) : Bool :=
  ('a' ≤ c && c ≤ 'z') || ('A' ≤ c && c ≤ 'Z') || c == 'µ'

/-- The digits after a decimal point, up to the unit: numerator and denominator so far, and the
rest. Blanks are passed over. -/
def fractionDigits (num den : Nat) : List Char → Except Fault ((Nat × Nat) × List Char)
  | [] => .ok ((num, den), [])
  | c :: rest =>
    match digit? c with
    | some d => do
      let den ← word (10 * den)
      let num ← word (10 * num + d)
      fractionDigits num den rest
    | none =>
      if Text.isBlank c then fractionDigits num den rest
      else if isLetter c then .ok ((num, den), c :: rest)
      else .error .unreadable

/-- The rest of a count up to the unit, after `n` has been read: the count, its fraction, and the
rest. -/
def count (n : Nat) : List Char → Except Fault (Nat × Option (Nat × Nat) × List Char)
  | [] => .ok (n, none, [])
  | c :: rest =>
    match digit? c with
    | some d => do
      let n ← word (10 * n + d)
      count n rest
    | none =>
      if Text.isBlank c then count n rest
      else if isLetter c then .ok (n, none, c :: rest)
      else if c = '.' then do
        let ((num, den), rest) ← fractionDigits 0 1 rest
        if den = 1 then throw .unreadable else pure (n, some (num, den), rest)
      else .error .unreadable

/-- The letters of a unit, and what comes after them and after the blank that may end them. A unit
ends before a digit, which is left in place, after a blank, or with the text. -/
def unitName : List Char → Except Fault (List Char × List Char)
  | [] => .ok ([], [])
  | c :: rest =>
    if (digit? c).isSome then .ok ([], c :: rest)
    else if Text.isBlank c then .ok ([], rest)
    else if isLetter c then do
      let (name, rest) ← unitName rest
      pure (c :: name, rest)
    else .error .unreadable

/-- The first digit of the next part, past blanks. -/
def nextDigit : List Char → Except Fault (Option (Nat × List Char))
  | [] => .ok none
  | c :: rest =>
    match digit? c with
    | some d => .ok (some (d, rest))
    | none => if Text.isBlank c then nextDigit rest else .error .unreadable

/-- Adds seconds and nanoseconds. More than one second of nanoseconds is carried. -/
def add (total : Duration) (seconds nanoseconds : Nat) : Except Fault Duration := do
  let n ← word (total.nanoseconds.val + nanoseconds)
  let (s, n) ←
    if 1000000000 < n then do
      let s ← word (seconds + n / 1000000000)
      pure (s, n % 1000000000)
    else pure (seconds, n)
  let s ← word (total.seconds.toNat + s)
  if n < 1000000000 then pure (Duration.ofParts s n)
  else if s + 1 < UInt64.size then pure (Duration.ofParts (s + 1) 0)
  else throw .overflow

def addPart (total : Duration) (n : Nat) (fraction : Option (Nat × Nat)) (unit : TimeUnit) :
    Except Fault Duration := do
  let seconds ← word (n * unit.size.1)
  let nanoseconds ← word (n * unit.size.2)
  let total ← add total seconds nanoseconds
  match fraction with
  | none => pure total
  | some (num, den) =>
    match unit.divisible with
    | none => throw .unreadable
    | some (s, ns) =>
      let s ← word (num * s)
      let ns ← word (num * ns)
      if s % den ≠ 0 ∨ ns % den ≠ 0 then throw .unreadable
      else add total (s / den) (ns / den)

/-- Reads parts, of which the first has begun with the digit `n`, with fuel for each character. -/
def parts : (fuel n : Nat) → List Char → Duration → Except Fault Duration
  | 0, _, _, _ => .error .unreadable
  | fuel + 1, n, text, total => do
    let (n, fraction, text) ← count n text
    let (name, text) ← unitName text
    match TimeUnit.ofName? (String.ofList name) with
    | none => throw .unreadable
    | some unit =>
      let total ← addPart total n fraction unit
      match ← nextDigit text with
      | none => pure total
      | some (d, text) => parts fuel d text total

def read (text : String) : Except Fault Duration := do
  match ← nextDigit text.toList with
  | none => throw .unreadable
  | some (d, rest) => parts (text.toList.length + 1) d rest Duration.zero

/-- The counts of a duration and the names of their units, from the largest down, those that are zero
left out. Only the three largest units have a plural. -/
def items (d : Duration) : List String :=
  let s := d.seconds.toNat
  let n := d.nanoseconds.val
  let inYear := s % 31557600
  let inMonth := inYear % 2630016
  let inDay := inMonth % 86400
  let plural (count : Nat) (name : String) : Option String :=
    if count = 0 then none
    else some (toString count ++ name ++ (if 1 < count then "s" else ""))
  let plain (count : Nat) (name : String) : Option String :=
    if count = 0 then none else some (toString count ++ name)
  [plural (s / 31557600) "year", plural (inYear / 2630016) "month", plural (inMonth / 86400) "day",
   plain (inDay / 3600) "h", plain (inDay % 3600 / 60) "m", plain (inDay % 60) "s",
   plain (n / 1000000) "ms", plain (n / 1000 % 1000) "us", plain (n % 1000) "ns"].filterMap id

def render (d : Duration) : String :=
  match items d with
  | [] => "0s"
  | parts => " ".intercalate parts

end TelemetryStreams.Human
