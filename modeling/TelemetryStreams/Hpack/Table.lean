import TelemetryStreams.Text.Utf8

/-!
# Header tables

A header block names fields by their place in one table: the static entries first, from place one
on, and after them the entries that the blocks so far have added, the newest first. The added
entries share a room of limited size; an entry takes 32 octets more than its name and its value, and
the oldest entries leave first. `size_fit` says that what remains fits.
-/
namespace TelemetryStreams.Hpack

/-- A header field: octets on both sides. -/
structure Field where
  name : Octets
  value : Octets
  deriving DecidableEq, Repr

def Field.ofTexts (name value : String) : Field := ⟨Utf8.encode name, Utf8.encode value⟩

def Field.size (field : Field) : Nat := field.name.length + field.value.length + 32

def staticTexts : List (String × String) :=
  [(":authority", ""), (":method", "GET"), (":method", "POST"), (":path", "/"),
   (":path", "/index.html"), (":scheme", "http"), (":scheme", "https"), (":status", "200"),
   (":status", "204"), (":status", "206"), (":status", "304"), (":status", "400"),
   (":status", "404"), (":status", "500"), ("accept-", ""), ("accept-encoding", "gzip, deflate"),
   ("accept-language", ""), ("accept-ranges", ""), ("accept", ""),
   ("access-control-allow-origin", ""), ("age", ""), ("allow", ""), ("authorization", ""),
   ("cache-control", ""), ("content-disposition", ""), ("content-encoding", ""),
   ("content-language", ""), ("content-length", ""), ("content-location", ""),
   ("content-range", ""), ("content-type", ""), ("cookie", ""), ("date", ""), ("etag", ""),
   ("expect", ""), ("expires", ""), ("from", ""), ("host", ""), ("if-match", ""),
   ("if-modified-since", ""), ("if-none-match", ""), ("if-range", ""),
   ("if-unmodified-since", ""), ("last-modified", ""), ("link", ""), ("location", ""),
   ("max-forwards", ""), ("proxy-authenticate", ""), ("proxy-authorization", ""), ("range", ""),
   ("referer", ""), ("refresh", ""), ("retry-after", ""), ("server", ""), ("set-cookie", ""),
   ("strict-transport-security", ""), ("transfer-encoding", ""), ("user-agent", ""), ("vary", ""),
   ("via", ""), ("www-authenticate", "")]

def staticFields : List Field := staticTexts.map fun row => Field.ofTexts row.1 row.2

/-- The entries that fit a room: the longest run from the newest on. -/
def fit : (room : Nat) → List Field → List Field
  | _, [] => []
  | room, field :: older =>
    if field.size ≤ room then field :: fit (room - field.size) older else []

def totalSize : List Field → Nat
  | [] => 0
  | field :: older => field.size + totalSize older

theorem size_fit (room : Nat) (fields : List Field) : totalSize (fit room fields) ≤ room := by
  fun_induction fit room fields with
  | case1 => simp [totalSize]
  | case2 room field older h ih =>
    simp only [totalSize]
    omega
  | case3 => simp [totalSize]

/-- The entries that blocks have added, newest first, and the room for them. -/
structure Table where
  added : List Field := []
  capacity : Nat := 4096
  deriving DecidableEq, Repr

namespace Table

def fields (table : Table) : List Field := staticFields ++ table.added

def field? (table : Table) : Nat → Option Field
  | 0 => none
  | place + 1 => table.fields[place]?

/-- Adds a field as the newest entry. A field larger than the whole room empties the table. -/
def add (table : Table) (field : Field) : Table :=
  { table with added := fit table.capacity (field :: table.added) }

def resize (table : Table) (capacity : Nat) : Table :=
  { added := fit capacity table.added, capacity := capacity }

end Table

end TelemetryStreams.Hpack
