import TelemetryStreams.Text.Octets

/-!
# Huffman-coded text in header blocks

Each octet has a code of five to thirty bits, and one more code marks the end of a text. The codes
are fixed by their lengths alone: going through the symbols by length and then by number, each takes
the first free leaf of a binary tree. A text is filled up to whole octets with at most seven ones;
the end mark itself may not stand in it.
-/
namespace TelemetryStreams.Hpack.Huffman

/-- The lengths of the codes of the octets, in bits. -/
def lengths : List Nat :=
  [13, 23, 28, 28, 28, 28, 28, 28, 28, 24, 30, 28, 28, 30, 28, 28, 28, 28, 28, 28, 28, 28, 30, 28,
   28, 28, 28, 28, 28, 28, 28, 28, 6, 10, 10, 12, 13, 6, 8, 11, 10, 10, 8, 11, 8, 6, 6, 6, 5, 5,
   5, 6, 6, 6, 6, 6, 6, 6, 7, 8, 15, 6, 12, 10, 13, 6, 7, 7, 7, 7, 7, 7, 7, 7, 7, 7, 7, 7, 7, 7,
   7, 7, 7, 7, 7, 7, 7, 7, 8, 7, 8, 13, 19, 13, 14, 6, 15, 5, 6, 5, 6, 5, 6, 6, 6, 5, 7, 7, 6, 6,
   6, 5, 6, 7, 6, 5, 5, 6, 7, 7, 7, 7, 7, 15, 11, 14, 13, 28, 20, 22, 20, 20, 22, 22, 22, 23, 22,
   23, 23, 23, 23, 23, 24, 23, 24, 24, 22, 23, 24, 23, 23, 23, 23, 21, 22, 23, 22, 23, 23, 24, 22,
   21, 20, 22, 22, 23, 23, 21, 23, 22, 22, 24, 21, 22, 23, 23, 21, 21, 22, 21, 23, 22, 23, 23, 20,
   22, 22, 22, 23, 22, 22, 23, 26, 26, 20, 19, 22, 23, 22, 25, 26, 26, 26, 27, 27, 26, 24, 25, 19,
   21, 26, 27, 27, 26, 27, 24, 21, 21, 26, 26, 28, 27, 27, 27, 20, 24, 20, 21, 22, 21, 21, 23, 22,
   22, 25, 25, 24, 24, 26, 23, 26, 27, 26, 26, 27, 27, 27, 27, 27, 28, 27, 27, 27, 27, 27, 26]

def endLength : Nat := 30

/-- What a code stands for. -/
inductive Symbol where
  | octet (value : UInt8)
  | endMark
  deriving DecidableEq, Repr

/-- Every symbol with the length of its code, by length and then by number. -/
def symbols : List (Nat × Symbol) :=
  let ofLength (length : Nat) : List (Nat × Symbol) :=
    (lengths.zipIdx.filter (·.1 = length)).map fun row => (length, .octet (UInt8.ofNat row.2))
  (List.range (endLength + 1)).flatMap ofLength ++ [(endLength, .endMark)]

/-- A binary tree of codes: a zero bit leads to the left. -/
inductive Tree where
  | empty
  | leaf (symbol : Symbol)
  | node (left right : Tree)
  deriving Repr

/-- Fills the tree under a node at `depth`, and returns the symbols that are left over. -/
def grow : (fuel depth : Nat) → List (Nat × Symbol) → Tree × List (Nat × Symbol)
  | _, _, [] => (.empty, [])
  | 0, _, row :: rows => (.empty, row :: rows)
  | fuel + 1, depth, row :: rows =>
    if row.1 ≤ depth then (.leaf row.2, rows)
    else
      let (left, rows) := grow fuel (depth + 1) (row :: rows)
      let (right, rows) := grow fuel (depth + 1) rows
      (.node left right, rows)

def codes : Tree := (grow (endLength + 1) 0 symbols).1

/-- Why a text cannot be read. -/
inductive Fault where
  | endInside
  | paddingTooLong
  | paddingNotOnes
  deriving DecidableEq, Repr

/-- The bits of an octet, the most significant first. -/
def bits (b : UInt8) : List Bool := (List.range 8).map fun i => b.toNat.testBit (7 - i)

/-- Follows bits down the tree. `pending` holds the bits since the last leaf. -/
def follow : (here : Tree) → (pending : List Bool) → List Bool → Except Fault Octets
  | _, pending, [] =>
    if 7 < pending.length then .error .paddingTooLong
    else if pending.all id then .ok []
    else .error .paddingNotOnes
  | here, pending, bit :: rest =>
    let next := match here with
      | .node left right => if bit then right else left
      | other => other
    match next with
    | .leaf (.octet b) => do
      let text ← follow codes [] rest
      pure (b :: text)
    | .leaf .endMark => .error .endInside
    | next => follow next (bit :: pending) rest

def decode (octets : Octets) : Except Fault Octets := follow codes [] (octets.flatMap bits)

end TelemetryStreams.Hpack.Huffman
