/-
# Packed tables of code points

Large tables of character properties are kept as rows of hexadecimal words.  The
entries of a table come in ascending order, and each gives its distance to the
one before it rather than its own code point.
-/

namespace ServiceReadiness
namespace PackedTable

/-- The value of a hexadecimal digit. -/
def hexValue (c : Char) : Nat := if c ≤ '9' then c.toNat - 48 else c.toNat - 87

/-- The words of a row, with `acc` for the word being read. -/
def words (acc : Nat) : List Char → List Nat
  | [] => [acc]
  | ' ' :: rest => acc :: words 0 rest
  | c :: rest => words (acc * 16 + hexValue c) rest

/-- The words of all rows. -/
def unpack (rows : List String) : List Nat := rows.flatMap fun row => words 0 row.toList

/-- Runs of code points from pairs of gap and length, after `last`. -/
def ranges (last : Nat) : List Nat → List (Nat × Nat)
  | gap :: length :: rest => (last + gap, last + gap + length) :: ranges (last + gap + length) rest
  | _ => []

/-- A run of code points with a common value. -/
structure Valued where
  first : Nat
  last : Nat
  value : Nat
  deriving Repr

/-- Runs with a value from triples of gap, length and value. -/
def valued (last : Nat) : List Nat → List Valued
  | gap :: length :: value :: rest =>
    ⟨last + gap, last + gap + length, value⟩ :: valued (last + gap + length) rest
  | _ => []

/-- A run of code points, every `step`-th of which moves by a shift.  The shift of
a word `2 * n` is `n`, that of `2 * n + 1` is `-(n + 1)`. -/
structure Shifted where
  first : Nat
  last : Nat
  step : Nat
  shift : Nat
  deriving Repr

/-- Runs with a shift from quadruples of gap, length, step and shift. -/
def shifted (last : Nat) : List Nat → List Shifted
  | gap :: length :: step :: shift :: rest =>
    ⟨last + gap, last + gap + length, step, shift⟩ :: shifted (last + gap + length) rest
  | _ => []

/-- A code point lies in a run with a shift. -/
def Shifted.holds (r : Shifted) (n : Nat) : Bool :=
  r.first ≤ n && n ≤ r.last && (r.step == 0 || (n - r.first) % r.step == 0)

/-- The code point that one of a run moves to. -/
def Shifted.image (r : Shifted) (n : Nat) : Nat :=
  let base := if r.step == 0 then r.first else n
  if r.shift % 2 == 0 then base + r.shift / 2 else base - (r.shift / 2 + 1)

/-- Code points with a list of others, each from its gap, a count and so many
words.  Reads at most `fuel` entries. -/
def expansionsUpTo : (fuel last : Nat) → List Nat → List (Nat × List Nat)
  | fuel + 1, last, gap :: count :: rest =>
    (last + gap, rest.take count) :: expansionsUpTo fuel (last + gap) (rest.drop count)
  | _, _, _ => []

/-- Code points with a list of others, each from its gap, a count and so many
words. -/
def expansions (last : Nat) (words : List Nat) : List (Nat × List Nat) :=
  expansionsUpTo words.length last words

/-- Code points with a pair of others, from triples of gap and pair. -/
def pairs (last : Nat) : List Nat → List (Nat × Nat × Nat)
  | gap :: left :: right :: rest => (last + gap, left, right) :: pairs (last + gap) rest
  | _ => []

/-- A code point lies in one of the runs. -/
def inRanges (runs : Array (Nat × Nat)) (n : Nat) : Bool :=
  runs.any fun r => r.1 ≤ n && n ≤ r.2

/-- The value of a code point, zero outside all runs. -/
def valueIn (runs : Array Valued) (n : Nat) : Nat :=
  match runs.find? (fun r => r.first ≤ n && n ≤ r.last) with
  | some r => r.value
  | none => 0

/-- Two rows with three runs. -/
example : ranges 0 (unpack ["61 19 10 2", "5 0"]) = [(0x61, 0x7a), (0x8a, 0x8c), (0x91, 0x91)] := by
  decide

end PackedTable
end ServiceReadiness
