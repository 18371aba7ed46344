import CompactHttp.Compression.PrefixCode
import CompactHttp.Compression.Production
import CompactHttp.Compression.Repeats
import CompactHttp.Compression.ValueTable

/-! # Deflate

The packed format inside gzip: blocks of bytes that are stored, or packed with a prefix
code that is fixed, or packed with one that the block describes. A packed block is a
sequence of bytes, of repeats at a distance of up to 32 KiB, and a mark for its end.

`inflate` reads all three kinds. `deflate` writes one block with the fixed code.
-/

namespace CompactHttp

namespace Deflate

/-- The least length of a repeat with a given length symbol (less 257), and how many bits
follow that are added to it. -/
def lengthTable : ValueTable :=
  #[(3, 0), (4, 0), (5, 0), (6, 0), (7, 0), (8, 0), (9, 0), (10, 0), (11, 1), (13, 1), (15, 1),
    (17, 1), (19, 2), (23, 2), (27, 2), (31, 2), (35, 3), (43, 3), (51, 3), (59, 3), (67, 4),
    (83, 4), (99, 4), (115, 4), (131, 5), (163, 5), (195, 5), (227, 5), (258, 0)]

/-- The least distance of a repeat with a given distance symbol, and how many bits follow that
are added to it. -/
def distanceTable : ValueTable :=
  #[(1, 0), (2, 0), (3, 0), (4, 0), (5, 1), (7, 1), (9, 2), (13, 2), (17, 3), (25, 3), (33, 4),
    (49, 4), (65, 5), (97, 5), (129, 6), (193, 6), (257, 7), (385, 7), (513, 8), (769, 8),
    (1025, 9), (1537, 9), (2049, 10), (3073, 10), (4097, 11), (6145, 11), (8193, 12),
    (12289, 12), (16385, 13), (24577, 13)]

/-- The symbol that ends a block. -/
def endOfBlock : Nat := 256

/-- The longest codeword of bytes, lengths and distances. -/
def maxCodeLength : Nat := 15

/-- The lengths of the fixed codewords of bytes and lengths. -/
def fixedLengths : List Nat :=
  List.replicate 144 8 ++ List.replicate 112 9 ++ List.replicate 24 7 ++ List.replicate 8 8

/-- The fixed code of bytes and lengths. -/
def fixedSymbols : PrefixCode := .ofLengths maxCodeLength fixedLengths

/-- The fixed code of distances. -/
def fixedDistances : PrefixCode := .ofLengths maxCodeLength (List.replicate 32 5)

/-- How far inflating has come: what has been put out, and what is left or why it stopped. -/
structure Inflated where
  output : Array UInt8
  result : Except Halt BitSource

/-- Length and distance of the repeat with a length symbol. -/
def readRepeat (distances : PrefixCode) (symbol : Nat) (source : BitSource) :
    Except Halt (Nat × Nat × BitSource) := do
  let (length, source) ← ValueTable.read lengthTable (symbol - endOfBlock - 1) source
  let (symbol, source) ← distances.read source
  let (distance, source) ← ValueTable.read distanceTable symbol source
  return (length, distance, source)

/-- Reads the symbols of a block up to its end. The fuel is at least the number of bits that
are left, since every symbol takes one. -/
def inflateSymbols (symbols distances : PrefixCode) :
    (fuel : Nat) → BitSource → Array UInt8 → Inflated
  | 0, _, output => ⟨output, .error .truncated⟩
  | fuel + 1, source, output =>
    match symbols.read source with
    | .error halt => ⟨output, .error halt⟩
    | .ok (symbol, source) =>
      if symbol < endOfBlock then
        inflateSymbols symbols distances fuel source (output.push (Bytes.byte symbol))
      else if symbol = endOfBlock then ⟨output, .ok source⟩
      else
        match readRepeat distances symbol source with
        | .error halt => ⟨output, .error halt⟩
        | .ok (length, distance, source) =>
          inflateSymbols symbols distances fuel source (Repeats.copyBack distance length output)

/-- The order in which a block gives the codeword lengths of the code for codeword lengths. -/
def lengthOrder : List Nat := [16, 17, 18, 0, 8, 7, 9, 6, 10, 5, 11, 4, 12, 3, 13, 2, 14, 1, 15]

/-- Reads several numbers of three bits. -/
def threeBitNumbers : (count : Nat) → BitSource → Except Halt (List Nat × BitSource)
  | 0, source => .ok ([], source)
  | count + 1, source => do
    let (number, source) ← source.number 3
    let (numbers, source) ← threeBitNumbers count source
    return (number :: numbers, source)

/-- Reads `wanted` codeword lengths behind those already read (last first). Runs of one length
are abbreviated, and no run may pass the end. The fuel is at least the number wanted. -/
def codeLengths (code : PrefixCode) :
    (fuel wanted : Nat) → List Nat → BitSource → Except Halt (List Nat × BitSource)
  | _, 0, read, source => .ok (read.reverse, source)
  | 0, _ + 1, _, _ => .error .corrupt
  | fuel + 1, wanted + 1, read, source => do
    let (symbol, source) ← code.read source
    if symbol < 16 then codeLengths code fuel wanted (symbol :: read) source
    else
      let (length, least, extra) ←
        if symbol = 16 then
          match read with
          | length :: _ => pure (length, 3, 2)
          | [] => throw .corrupt
        else if symbol = 17 then pure (0, 3, 3)
        else pure (0, 11, 7)
      let (more, source) ← source.number extra
      let count := least + more
      if wanted + 1 < count then throw .corrupt
      codeLengths code fuel (wanted + 1 - count) (List.replicate count length ++ read) source

/-- The codes for bytes and lengths and for distances that a block describes. -/
def blockCodes (source : BitSource) : Except Halt (PrefixCode × PrefixCode × BitSource) := do
  let (symbolCount, source) ← source.number 5
  let (distanceCount, source) ← source.number 5
  let (lengthCount, source) ← source.number 4
  let symbolCount := symbolCount + 257
  let distanceCount := distanceCount + 1
  if 286 < symbolCount ∨ 30 < distanceCount then throw .corrupt
  let (given, source) ← threeBitNumbers (lengthCount + 4) source
  let lengths := (List.range 19).map fun symbol => ((lengthOrder.zip given).lookup symbol).getD 0
  let code := PrefixCode.ofLengths 7 lengths
  if !code.isSound then throw .corrupt
  let total := symbolCount + distanceCount
  let (lengths, source) ← codeLengths code total total [] source
  let symbols := PrefixCode.ofLengths maxCodeLength (lengths.take symbolCount)
  let distances := PrefixCode.ofLengths maxCodeLength (lengths.drop symbolCount)
  if !symbols.isSound || !distances.isSound then throw .corrupt
  return (symbols, distances, source)

/-- Reads a stored block. What is there of a block that is cut off is put out. -/
def inflateStored (source : BitSource) (output : Array UInt8) : Inflated :=
  match source.aligned.take 4 with
  | .error halt => ⟨output, .error halt⟩
  | .ok (sizes, source) =>
    let size := ofLittleEndian (sizes.take 2)
    if size + ofLittleEndian (sizes.drop 2) ≠ 0xFFFF then ⟨output, .error .corrupt⟩
    else
      match source.take size with
      | .error halt => ⟨output ++ source.bytes, .error halt⟩
      | .ok (bytes, source) => ⟨output ++ bytes, .ok source⟩

/-- Reads a block of the given kind. -/
def inflateBlock (kind : Nat) (source : BitSource) (output : Array UInt8) : Inflated :=
  if kind = 0 then inflateStored source output
  else if kind = 1 then
    inflateSymbols fixedSymbols fixedDistances (source.size + 1) source output
  else if kind = 2 then
    match blockCodes source with
    | .error halt => ⟨output, .error halt⟩
    | .ok (symbols, distances, source) =>
      inflateSymbols symbols distances (source.size + 1) source output
  else ⟨output, .error .corrupt⟩

/-- Reads blocks up to the last one. The fuel is at least the number of bits that are left. -/
def inflateBlocks : (fuel : Nat) → BitSource → Array UInt8 → Inflated
  | 0, _, output => ⟨output, .error .truncated⟩
  | fuel + 1, source, output =>
    match (source.number 1, source.number 3) with
    | (.ok (last, _), .ok (header, source)) =>
      let block := inflateBlock (header / 2) source output
      match block.result with
      | .ok source => if last = 1 then block else inflateBlocks fuel source block.output
      | .error _ => block
    | _ => ⟨output, .error .truncated⟩

/-- Unpacks the blocks at the front of data. -/
def inflate (data : Bytes) : Inflated :=
  let source := BitSource.ofBytes data
  inflateBlocks (source.size + 1) source #[]

/-- The fixed codeword of a symbol. -/
def fixedCodeword (symbol : Nat) : List Bool :=
  if symbol < 144 then codewordBits 8 (0x30 + symbol)
  else if symbol < 256 then codewordBits 9 (0x190 + (symbol - 144))
  else if symbol < 280 then codewordBits 7 (symbol - 256)
  else codewordBits 8 (0xC0 + (symbol - 280))

/-- The bits of one repeat. -/
def repeatBits (distance length : Nat) : List Bool :=
  let (lengthSymbol, lengthExtra) := ValueTable.split lengthTable length
  let (distanceSymbol, distanceExtra) := ValueTable.split distanceTable distance
  fixedCodeword (endOfBlock + 1 + lengthSymbol) ++ lengthExtra ++
    codewordBits 5 distanceSymbol ++ distanceExtra

/-- The bits of a repeat of any length from three on, in parts of at most 258 bytes. No part is
shorter than three. The fuel is at least the number of parts. -/
def longRepeatBits (distance : Nat) : (fuel length : Nat) → List Bool
  | 0, _ => []
  | fuel + 1, length =>
    if length ≤ 258 then repeatBits distance length
    else
      let part := min 258 (length - 3)
      repeatBits distance part ++ longRepeatBits distance fuel (length - part)

/-- The bits of a piece. -/
def pieceBits : Piece → List Bool
  | .literal bytes => bytes.flatMap fun byte => fixedCodeword byte.toNat
  | .repeated distance length => longRepeatBits distance length length

/-- The shortest repeat that is worth announcing. -/
def minRepeat : Nat := 4

/-- Packs bytes into one block with the fixed code. -/
def deflate (data : Bytes) : Bytes :=
  packBits ([true] ++ numberBits 2 1 ++ (Repeats.cut minRepeat data).flatMap pieceBits ++
    fixedCodeword endOfBlock)

end Deflate

end CompactHttp
