/-!
# The deflate format

`Inflate.bytes?` expands deflated data. Data are read as bits, the lowest bit of each byte first.
They form blocks; a block holds bytes as they are, or symbols in a prefix code. A symbol is a byte,
the end of the block, or a copy of earlier output given by length and distance. Prefix codes are
canonical: the lengths of the code words determine them.
-/

namespace JsonSchema.Inflate

/-- The bits of some bytes, lowest first. -/
def bitsOf (bytes : List UInt8) : List Bool :=
  bytes.flatMap fun b => (List.range 8).map fun i => b.toNat.testBit i

/-- The number that `n` bits write, lowest first, and the bits after it. -/
def number? : Nat → List Bool → Option (Nat × List Bool)
  | 0, bits => some (0, bits)
  | n + 1, bit :: rest => (number? n rest).map fun (k, rest) => (2 * k + bit.toNat, rest)
  | _ + 1, [] => none

/-- A canonical prefix code: how many code words have each length from 1 on, and the symbols in the
order of their code words. -/
structure Code where
  counts : List Nat
  symbols : List Nat

/-- The code in which symbol `i` has a code word of the length `lengths[i]`; 0 stands for no code
word. -/
def Code.ofLengths (lengths : List Nat) : Code :=
  let sizes := (List.range 15).map (· + 1)
  let withSize (size : Nat) :=
    lengths.zipIdx.filterMap fun (n, symbol) => if n = size then some symbol else none
  ⟨sizes.map fun size => (withSize size).length, sizes.flatMap withSize⟩

/-- Reads a code word. `first` is the least code word of the current length. -/
def symbolFrom? : List Nat → List Nat → Nat → Nat → List Bool → Option (Nat × List Bool)
  | count :: counts, symbols, first, word, bit :: rest =>
    let first := 2 * first
    let word := 2 * word + bit.toNat
    if word < first + count then (symbols[word - first]?).map fun symbol => (symbol, rest)
    else symbolFrom? counts (symbols.drop count) (first + count) word rest
  | _, _, _, _, _ => none

/-- Reads a symbol. -/
def Code.symbol? (code : Code) (bits : List Bool) : Option (Nat × List Bool) :=
  symbolFrom? code.counts code.symbols 0 0 bits

/-- The code of bytes, ends and lengths that needs no description. -/
def fixedLiterals : Code :=
  .ofLengths (List.replicate 144 8 ++ List.replicate 112 9 ++ List.replicate 24 7 ++
    List.replicate 8 8)

/-- The code of distances that needs no description. -/
def fixedDistances : Code :=
  .ofLengths (List.replicate 30 5)

/-- The least length of a copy, and the number of bits that add to it, by symbol from 257 on. -/
def copyLengths : List (Nat × Nat) :=
  [(3, 0), (4, 0), (5, 0), (6, 0), (7, 0), (8, 0), (9, 0), (10, 0), (11, 1), (13, 1), (15, 1),
    (17, 1), (19, 2), (23, 2), (27, 2), (31, 2), (35, 3), (43, 3), (51, 3), (59, 3), (67, 4),
    (83, 4), (99, 4), (115, 4), (131, 5), (163, 5), (195, 5), (227, 5), (258, 0)]

/-- The least distance of a copy, and the number of bits that add to it, by symbol. -/
def copyDistances : List (Nat × Nat) :=
  [(1, 0), (2, 0), (3, 0), (4, 0), (5, 1), (7, 1), (9, 2), (13, 2), (17, 3), (25, 3), (33, 4),
    (49, 4), (65, 5), (97, 5), (129, 6), (193, 6), (257, 7), (385, 7), (513, 8), (769, 8),
    (1025, 9), (1537, 9), (2049, 10), (3073, 10), (4097, 11), (6145, 11), (8193, 12), (12289, 12),
    (16385, 13), (24577, 13)]

/-- The order in which the lengths of the code for code lengths are given. -/
def lengthOrder : List Nat :=
  [16, 17, 18, 0, 8, 7, 9, 6, 10, 5, 11, 4, 12, 3, 13, 2, 14, 1, 15]

/-- A value from a table of least values and additional bits. -/
def tabled? (table : List (Nat × Nat)) (i : Nat) (bits : List Bool) :
    Option (Nat × List Bool) := do
  let (least, extra) ← table[i]?
  let (more, bits) ← number? extra bits
  return (least + more, bits)

/-- Repeats the bytes that start `distance` before the end of the output. -/
def copy (distance : Nat) : Nat → Array UInt8 → Array UInt8
  | 0, out => out
  | n + 1, out => copy distance n (out.push (out.getD (out.size - distance) 0))

/-- Expands the symbols of a block; there are at most as many as bits. -/
def symbols? (literals distances : Code) :
    Nat → Array UInt8 → List Bool → Option (Array UInt8 × List Bool)
  | 0, _, _ => none
  | fuel + 1, out, bits => do
    let (symbol, bits) ← literals.symbol? bits
    if symbol < 256 then
      symbols? literals distances fuel (out.push symbol.toUInt8) bits
    else if symbol = 256 then
      return (out, bits)
    else
      let (length, bits) ← tabled? copyLengths (symbol - 257) bits
      let (symbol, bits) ← distances.symbol? bits
      let (distance, bits) ← tabled? copyDistances symbol bits
      if out.size < distance then none
      else symbols? literals distances fuel (copy distance length out) bits

/-- Reads `n` code lengths, the last ones first in `lengths`. -/
def codeLengths? (code : Code) : Nat → Nat → List Nat → List Bool → Option (List Nat × List Bool)
  | 0, _, _, _ => none
  | fuel + 1, n, lengths, bits =>
    if lengths.length = n then some (lengths.reverse, bits)
    else if n < lengths.length then none
    else do
      let (symbol, bits) ← code.symbol? bits
      match symbol with
      | 16 =>
        let last ← lengths.head?
        let (more, bits) ← number? 2 bits
        codeLengths? code fuel n (List.replicate (3 + more) last ++ lengths) bits
      | 17 =>
        let (more, bits) ← number? 3 bits
        codeLengths? code fuel n (List.replicate (3 + more) 0 ++ lengths) bits
      | 18 =>
        let (more, bits) ← number? 7 bits
        codeLengths? code fuel n (List.replicate (11 + more) 0 ++ lengths) bits
      | length => codeLengths? code fuel n (length :: lengths) bits

/-- Reads `n` numbers of three bits. -/
def triples? : Nat → List Bool → Option (List Nat × List Bool)
  | 0, bits => some ([], bits)
  | n + 1, bits => do
    let (first, bits) ← number? 3 bits
    let (rest, bits) ← triples? n bits
    return (first :: rest, bits)

/-- Reads the description of the two codes of a block. -/
def codes? (bits : List Bool) : Option ((Code × Code) × List Bool) := do
  let (literals, bits) ← number? 5 bits
  let (distances, bits) ← number? 5 bits
  let (given, bits) ← number? 4 bits
  let (sizes, bits) ← triples? (given + 4) bits
  let sizeOf (symbol : Nat) := ((lengthOrder.zip sizes).lookup symbol).getD 0
  let code := Code.ofLengths ((List.range 19).map sizeOf)
  let (lengths, bits) ←
    codeLengths? code (bits.length + 1) (literals + 257 + (distances + 1)) [] bits
  let (first, second) := lengths.splitAt (literals + 257)
  return ((.ofLengths first, .ofLengths second), bits)

/-- Reads `n` bytes. -/
def verbatim? : Nat → Array UInt8 → List Bool → Option (Array UInt8 × List Bool)
  | 0, out, bits => some (out, bits)
  | n + 1, out, bits => do
    let (byte, bits) ← number? 8 bits
    verbatim? n (out.push byte.toUInt8) bits

/-- Expands a block whose kind is given. -/
def block? (kind : Nat) (out : Array UInt8) (bits : List Bool) :
    Option (Array UInt8 × List Bool) :=
  match kind with
  | 0 => do
    let (length, bits) ← number? 16 (bits.drop (bits.length % 8))
    let (check, bits) ← number? 16 bits
    if length + check ≠ 0xFFFF then none
    else verbatim? length out bits
  | 1 => symbols? fixedLiterals fixedDistances (bits.length + 1) out bits
  | 2 => do
    let ((literals, distances), bits) ← codes? bits
    symbols? literals distances (bits.length + 1) out bits
  | _ => none

/-- Expands blocks up to the one that says that it is the last. -/
def blocks? : Nat → Array UInt8 → List Bool → Option (Array UInt8)
  | 0, _, _ => none
  | fuel + 1, out, bits => do
    let (last, bits) ← number? 1 bits
    let (kind, bits) ← number? 2 bits
    let (out, bits) ← block? kind out bits
    if last = 1 then some out else blocks? fuel out bits

/-- The bytes that deflated data stand for. -/
def bytes? (data : List UInt8) : Option (List UInt8) :=
  (blocks? (8 * data.length + 1) #[] (bitsOf data)).map Array.toList

end JsonSchema.Inflate
