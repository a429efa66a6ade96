import TelemetryStreams.Hpack.Integer
import TelemetryStreams.Hpack.Table

/-!
# Writing header blocks

A field that stands in the table is written as its place. A field of which only the name does is
written as the place of the name, the last one that has it, and the value; it adds no entry. Any
other field is written in full and becomes an entry. Texts are never Huffman-coded.
-/
namespace TelemetryStreams.Hpack

/-- How a field is written. -/
inductive Form where
  | place (place : Nat)
  | namePlace (place : Nat) (value : Octets)
  | full (field : Field)
  deriving DecidableEq, Repr

/-- The places of the entries that satisfy a test, in order. -/
def places (test : Field → Bool) (fields : List Field) : List Nat :=
  (fields.zipIdx 1).filterMap fun row => if test row.1 then some row.2 else none

/-- The form in which a field is written. -/
def Table.form (table : Table) (field : Field) : Form :=
  match (places (· = field) table.fields).head? with
  | some place => .place place
  | none => match (places (·.name = field.name) table.fields).getLast? with
    | some place => .namePlace place field.value
    | none => .full field

def Table.afterForm (table : Table) : Form → Table
  | .full field => table.add field
  | _ => table

def string (octets : Octets) : Octets := integer 0 7 octets.length ++ octets

def Form.encode : Form → Octets
  | .place k => integer 0x80 7 k
  | .namePlace k value => integer 0 4 k ++ string value
  | .full field => 0x40 :: string field.name ++ string field.value

def encode (table : Table) : List Field → Octets × Table
  | [] => ([], table)
  | field :: fields =>
    let form := table.form field
    let (octets, table) := encode (table.afterForm form) fields
    (form.encode ++ octets, table)

end TelemetryStreams.Hpack
