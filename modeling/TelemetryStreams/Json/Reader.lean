import TelemetryStreams.Decimal.Scaled
import TelemetryStreams.Json.Fault
import TelemetryStreams.Text.Octets

/-!
# Reading JSON text

A reader takes what it needs off the front of the text and leaves the rest. It meets the text from
left to right and stops at the first fault, so a field that is not known is reported even if the
text breaks off after it. Integers that fit 64 bits stay integers, all other numbers become
doubles.
-/
namespace TelemetryStreams.Json

/-- Takes a value off the front of a text. -/
abbrev Reader := StateT (List Char) (Except Fault)

namespace Reader

def fail (fault : Fault) : Reader α := throw fault

def misfit (what : Mismatch) : Reader α := throw (.mismatch what)

/-- The white space that may stand between the parts of a JSON text. -/
def isBlank (c : Char) : Bool := c == ' ' || c == '\n' || c == '\t' || c == '\r'

def peek : Reader (Option Char) := fun text =>
  let rest := text.dropWhile isBlank
  .ok (rest.head?, rest)

def skip : Reader Unit := modify List.tail

/-- The rest of a literal such as `null`. -/
def word : List Char → Reader Unit
  | [] => pure ()
  | expected :: more => fun text =>
    match text with
    | [] => .error .truncated
    | c :: rest => if c = expected then word more rest else .error .malformed

/-! ### Numbers -/

/-- A number as it is read. -/
inductive Number where
  | natural (value : Nat)
  | negative (value : Int)
  | double (bits : UInt64)
  deriving DecidableEq, Repr

/-- A number as it is named in a message. -/
def Number.found : Number → Found
  | .natural value => .integer value
  | .negative value => .integer value
  | .double bits => .double bits

def digit? (c : Char) : Option Nat := if '0' ≤ c ∧ c ≤ '9' then some (c.toNat - 48) else none

/-- The run of digits in front, and the rest. -/
def digits : List Char → List Nat × List Char
  | [] => ([], [])
  | c :: rest => match digit? c with
    | some d => let (ds, tail) := digits rest; (d :: ds, tail)
    | none => ([], c :: rest)

/-- Appends digits to a significand while it fits 64 bits, and returns how many did not. -/
def gather : (significand : Nat) → List Nat → Nat × Nat
  | s, [] => (s, 0)
  | s, d :: ds => if 10 * s + d < UInt64.size then gather (10 * s + d) ds else (s, ds.length + 1)

/-- The double of a signed decimal, or a fault if it is out of range. -/
def double (negative : Bool) (significand : Nat) (exponent : Int) : Except Fault Number :=
  match Decimal.doubleBits? negative (UInt64.ofNat significand) exponent with
  | some bits => .ok (.double bits)
  | none => .error .malformed

/-- The exponent of a number, read after its `e`. An exponent past 31 bits leaves zero, or is out of
range if the number would be large. -/
def exponent (negative : Bool) (significand : Nat) (scale : Int) :
    List Char → Except Fault (Number × List Char) := fun text =>
  let (down, text) := match text with
    | '+' :: rest => (false, rest)
    | '-' :: rest => (true, rest)
    | _ => (false, text)
  match digits text with
  | ([], []) => .error .truncated
  | ([], _ :: _) => .error .malformed
  | (ds, rest) =>
    let e : Nat := ds.foldl (fun n d => 10 * n + d) 0
    if e < Nat.pow 2 31 then do
      let number ← double negative significand (if down then scale - (e : Int) else scale + (e : Int))
      pure (number, rest)
    else if significand ≠ 0 ∧ !down then .error .malformed
    else do
      let number ← double negative 0 0
      pure (number, rest)

/-- What may follow the integer digits of a number: a fraction, an exponent, or nothing. `dropped`
digits did not fit the significand. -/
def afterInteger (negative : Bool) (significand dropped : Nat) :
    List Char → Except Fault (Number × List Char)
  | '.' :: rest =>
    match digits rest with
    | ([], []) => .error .truncated
    | ([], _ :: _) => .error .malformed
    | (ds, rest) =>
      let (s, left) := gather significand ds
      let scale : Int := Int.subNatNat dropped (ds.length - left)
      match rest with
      | 'e' :: rest => exponent negative s scale rest
      | 'E' :: rest => exponent negative s scale rest
      | _ => do
        let number ← double negative s scale
        pure (number, rest)
  | 'e' :: rest => exponent negative significand dropped rest
  | 'E' :: rest => exponent negative significand dropped rest
  | rest =>
    if dropped ≠ 0 then do
      let number ← double negative significand dropped
      pure (number, rest)
    else if !negative then .ok (.natural significand, rest)
    else if significand = 0 ∨ Nat.pow 2 63 < significand then do
      let number ← double true significand 0
      pure (number, rest)
    else .ok (.negative (-significand), rest)

/-- A number, read after its sign. A leading zero stands alone. -/
def unsigned (negative : Bool) : List Char → Except Fault (Number × List Char) := fun text =>
  match digits text with
  | ([], []) => .error .truncated
  | ([], _ :: _) => .error .malformed
  | (0 :: _ :: _, _) => .error .malformed
  | (ds, rest) =>
    let (s, dropped) := gather 0 ds
    afterInteger negative s dropped rest

def number : Reader Number := fun text =>
  match text with
  | '-' :: rest => unsigned true rest
  | _ => unsigned false text

/-! ### Strings -/

/-- The value of four hexadecimal digits. Fewer than four octets left mean that the text ends too
early. -/
def fourHex (text : List Char) : Except Fault (Nat × List Char) :=
  match text.take 4 |>.mapM Octets.hexValue? with
  | some [a, b, c, d] => .ok (4096 * a + 256 * b + 16 * c + d, text.drop 4)
  | _ => if (String.ofList (text.take 4)).utf8ByteSize < 4 then .error .truncated else .error .malformed

/-- The character of a `\u` escape, read after the `u`. A leading surrogate takes the trailing one
with it; neither may stand alone. -/
def unicodeEscape (text : List Char) : Except Fault (Char × List Char) := do
  let (n, rest) ← fourHex text
  if 0xDC00 ≤ n ∧ n ≤ 0xDFFF then throw .malformed
  else if n < 0xD800 ∨ 0xDBFF < n then pure (Char.ofNat n, rest)
  else match rest with
    | [] => throw .truncated
    | '\\' :: [] => throw .truncated
    | '\\' :: 'u' :: rest =>
      let (m, rest) ← fourHex rest
      if m < 0xDC00 ∨ 0xDFFF < m then throw .malformed
      else pure (Char.ofNat (0x10000 + (n - 0xD800) * 0x400 + (m - 0xDC00)), rest)
    | _ => throw .malformed

def escaped : List Char → Except Fault (Char × List Char)
  | [] => .error .truncated
  | '"' :: rest => .ok ('"', rest)
  | '\\' :: rest => .ok ('\\', rest)
  | '/' :: rest => .ok ('/', rest)
  | 'b' :: rest => .ok ('\x08', rest)
  | 'f' :: rest => .ok ('\x0c', rest)
  | 'n' :: rest => .ok ('\n', rest)
  | 'r' :: rest => .ok ('\r', rest)
  | 't' :: rest => .ok ('\t', rest)
  | 'u' :: rest => unicodeEscape rest
  | _ :: _ => .error .malformed

/-- The characters up to the closing quote, with fuel for each character of the text. -/
def stringBody : (fuel : Nat) → List Char → Except Fault (List Char × List Char)
  | 0, _ => .error .truncated
  | _ + 1, [] => .error .truncated
  | fuel + 1, c :: rest =>
    if c = '"' then .ok ([], rest)
    else if c = '\\' then do
      let (d, rest) ← escaped rest
      let (ds, rest) ← stringBody fuel rest
      pure (d :: ds, rest)
    else if c.toNat < 0x20 then .error .malformed
    else do
      let (ds, rest) ← stringBody fuel rest
      pure (c :: ds, rest)

def string : Reader String := fun text => do
  let (cs, rest) ← stringBody (text.length + 1) text
  pure (String.ofList cs, rest)

/-! ### Values of a wanted kind -/

/-- Names what stands at the front of the text instead of what was expected. -/
def wrongType (expected : String) : Reader α := do
  let refuse (found : Found) : Reader α := misfit (.wrongType found expected)
  match ← peek with
  | some 'n' => skip; word "ull".toList; refuse .null
  | some 't' => skip; word "rue".toList; refuse (.boolean true)
  | some 'f' => skip; word "alse".toList; refuse (.boolean false)
  | some '"' => skip; refuse (.string (← string))
  | some '[' => refuse .sequence
  | some '\x7b' => refuse .map
  | some c =>
    if c = '-' ∨ (digit? c).isSome then refuse (← number).found else fail .malformed
  | none => fail .malformed

def front : Reader Char := do
  match ← peek with
  | some c => pure c
  | none => fail .truncated

def natural (expected : String) : Reader UInt64 := do
  let c ← front
  if c = '-' ∨ (digit? c).isSome then
    match ← number with
    | .natural value => pure (UInt64.ofNat value)
    | .negative value => misfit (.wrongValue (.integer value) expected)
    | .double bits => misfit (.wrongType (.double bits) expected)
  else wrongType expected

def boolean : Reader Bool := do
  match ← front with
  | 't' => skip; word "rue".toList; pure true
  | 'f' => skip; word "alse".toList; pure false
  | _ => wrongType "a boolean"

def text (expected : String) : Reader String := do
  match ← front with
  | '"' => skip; string
  | _ => wrongType expected

/-- A name: the key of a field or of a choice. -/
def name : Reader String := text "variant identifier"

def null : Reader Unit := do
  match ← front with
  | 'n' => skip; word "ull".toList
  | _ => wrongType "unit"

def colon : Reader Unit := do
  match ← peek with
  | some ':' => skip
  | some _ => fail .malformed
  | none => fail .truncated

/-! ### Sequences and objects -/

/-- Whether another element follows in a sequence whose bracket has been read. -/
def anotherElement (first : Bool) : Reader Bool := do
  match ← front with
  | ']' => pure false
  | ',' =>
    if first then pure true
    else
      skip
      match ← front with
      | ']' => fail .malformed
      | _ => pure true
  | _ => if first then pure true else fail .malformed

/-- The end of a sequence of which all wanted elements have been read. -/
def endSequence : Reader Unit := do
  match ← front with
  | ']' => skip
  | _ => fail .malformed

/-- Whether another field follows in an object whose brace has been read. -/
def anotherField (first : Bool) : Reader Bool := do
  match ← front with
  | '\x7d' => pure false
  | ',' =>
    if first then fail .malformed
    else
      skip
      match ← front with
      | '"' => pure true
      | _ => fail .malformed
  | c => if first ∧ c = '"' then pure true else fail .malformed

/-- Reads a whole text: after the value only white space may follow. -/
def whole (reader : Reader α) (text : String) : Except Fault α := do
  let (value, rest) ← reader.run text.toList
  match (← peek rest) with
  | (none, _) => pure value
  | (some _, _) => throw .malformed

end Reader

end TelemetryStreams.Json
