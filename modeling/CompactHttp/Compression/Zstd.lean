import CompactHttp.Compression.Checksum
import CompactHttp.Compression.Production
import CompactHttp.Compression.Repeats
import CompactHttp.Compression.ValueTable

/-! # Zstandard

A sequence of frames. A frame says how large its content is or how far back it refers, and
holds blocks: bytes as they are, one byte many times over, or a block of sequences, each
of which takes some bytes from a list of literals and repeats earlier output. Frames
that hold something else are skipped over.

Blocks of sequences are supported in their plainest form, in which literals are given as
they are or as one byte many times over, and all sequences of a block share one symbol
for each of their three numbers. `encode` writes nothing else.
-/

namespace CompactHttp

namespace Zstd

/-- The most bytes that a block of any frame holds. -/
def maxBlockSize : Nat := 131072

/-- The largest window that is accepted. -/
def maxWindowSize : Nat := Nat.pow 2 27 + 1

/-- What the header of a frame says. -/
structure FrameHeader where
  contentSize : Option Nat
  blockLimit : Nat
  hasChecksum : Bool
deriving DecidableEq, Repr

/-- The size of a window in the form in which frames give it. -/
def windowSize (descriptor : Nat) : Nat :=
  let base := Nat.pow 2 (descriptor / 8 + 10)
  base + base / 8 * (descriptor % 8)

/-- The next `count` bytes. -/
def takeBytes (count : Nat) (data : Bytes) : Except Halt (Bytes × Bytes) :=
  if data.length < count then .error .truncated else .ok (data.take count, data.drop count)

/-- The number in the next `count` bytes. -/
def takeNumber (count : Nat) (data : Bytes) : Except Halt (Nat × Bytes) := do
  let (bytes, rest) ← takeBytes count data
  return (ofLittleEndian bytes, rest)

/-- Reads the header of a frame after its magic number. No dictionary is known. -/
def frameHeader (data : Bytes) : Except Halt (FrameHeader × Bytes) := do
  let (descriptor, data) ← takeNumber 1 data
  if descriptor.testBit 3 then throw .corrupt
  let single := descriptor.testBit 5
  let (window, data) ← if single then pure (0, data) else takeNumber 1 data
  let (dictionary, data) ← takeNumber (#[0, 1, 2, 4][descriptor % 4]?.getD 0) data
  if dictionary ≠ 0 then throw .corrupt
  let (contentSize, data) ←
    match descriptor / 64 with
    | 0 =>
      if single then do
        let (size, data) ← takeNumber 1 data
        pure (some size, data)
      else pure (none, data)
    | 1 => do
      let (size, data) ← takeNumber 2 data
      pure (some (size + 256), data)
    | 2 => do
      let (size, data) ← takeNumber 4 data
      pure (some size, data)
    | _ => do
      let (size, data) ← takeNumber 8 data
      pure (some size, data)
  let window := if single then contentSize.getD 0 else windowSize window
  if maxWindowSize < window then throw .corrupt
  return (⟨contentSize, min window maxBlockSize, descriptor.testBit 2⟩, data)

/-- The literals of a block of sequences. -/
def literals (data : Bytes) : Except Halt (Bytes × Bytes) := do
  let (first, _) ← takeNumber 1 data
  let (width, shift) :=
    match first / 4 % 4 with
    | 1 => (2, 4)
    | 3 => (3, 4)
    | _ => (1, 3)
  let (header, data) ← takeNumber width data
  let size := header / Nat.pow 2 shift
  match first % 4 with
  | 0 => takeBytes size data
  | 1 => do
    let (byte, data) ← takeBytes 1 data
    return ((List.replicate size byte).flatten, data)
  | _ => throw .corrupt

/-- The least length of the literals of a sequence with a given symbol, and how many bits
follow that are added to it. -/
def literalLengthTable : ValueTable :=
  ((List.range 16).map fun length => (length, 0)).toArray ++
    #[(16, 1), (18, 1), (20, 1), (22, 1), (24, 2), (28, 2), (32, 3), (40, 3), (48, 4), (64, 6),
      (128, 7), (256, 8), (512, 9), (1024, 10), (2048, 11), (4096, 12), (8192, 13), (16384, 14),
      (32768, 15), (65536, 16)]

/-- The least length of the repeat of a sequence with a given symbol, and how many bits follow
that are added to it. -/
def matchLengthTable : ValueTable :=
  ((List.range 32).map fun symbol => (symbol + 3, 0)).toArray ++
    #[(35, 1), (37, 1), (39, 1), (41, 1), (43, 2), (47, 2), (51, 3), (59, 3), (67, 4), (83, 4),
      (99, 5), (131, 7), (259, 8), (515, 9), (1027, 10), (2051, 11), (4099, 12), (8195, 13),
      (16387, 14), (32771, 15), (65539, 16)]

/-- The number that the next `count` of the bits make, highest first. -/
def takeBits : (count : Nat) → List Bool → Except Halt (Nat × List Bool)
  | 0, bits => .ok (0, bits)
  | _ + 1, [] => .error .corrupt
  | count + 1, bit :: bits => do
    let (low, bits) ← takeBits count bits
    return (bit.toNat * Nat.pow 2 count + low, bits)

/-- The bits of sequences, which are read from the end: the highest set bit of the last byte
only marks where they begin. -/
def backwardBits (data : Bytes) : Except Halt (List Bool) :=
  match (data.flatMap BitSource.bitsOf).reverse.dropWhile (!·) with
  | _ :: bits => .ok bits
  | [] => .error .corrupt

/-- The three distances that were used last, the last one first. -/
abbrev RecentDistances := Nat × Nat × Nat

/-- The distance of a repeat with an offset value, and the recent distances after it. The first
three values stand for recent distances; without literals before it, a repeat takes the one
after, and at last one less than the last. -/
def resolveDistance (recent : RecentDistances) (value : Nat) (plain : Bool) :
    Nat × RecentDistances :=
  let (last, second, third) := recent
  if 3 < value then (value - 3, (value - 3, last, second))
  else
    match value + if plain then 1 else 0 with
    | 1 => (last, recent)
    | 2 => (second, (second, last, third))
    | 3 => (third, (third, last, second))
    | _ => (last - 1, (last - 1, last, second))

/-- What executing sequences has to keep. -/
structure Execution where
  output : Array UInt8
  literals : Bytes
  recent : RecentDistances

/-- The symbols shared by all sequences of a block. -/
structure SharedSymbols where
  literalLength : Nat
  offset : Nat
  matchLength : Nat

/-- Executes the sequences of a block, then appends the literals that are left. -/
def execute (symbols : SharedSymbols) : (count : Nat) → List Bool → Execution →
    Except Halt Execution
  | 0, bits, state =>
    if bits.isEmpty then .ok { state with output := state.output ++ state.literals, literals := [] }
    else .error .corrupt
  | count + 1, bits, state => do
    let some (leastLiterals, literalBits) := literalLengthTable[symbols.literalLength]?
      | throw .corrupt
    let some (leastMatch, matchBits) := matchLengthTable[symbols.matchLength]? | throw .corrupt
    let (offset, bits) ← takeBits symbols.offset bits
    let (moreMatch, bits) ← takeBits matchBits bits
    let (moreLiterals, bits) ← takeBits literalBits bits
    let literalLength := leastLiterals + moreLiterals
    if state.literals.length < literalLength then throw .corrupt
    let (distance, recent) :=
      resolveDistance state.recent (Nat.pow 2 symbols.offset + offset) (literalLength == 0)
    let output := state.output ++ state.literals.take literalLength
    if distance = 0 ∨ output.size < distance then throw .corrupt
    execute symbols count bits
      ⟨Repeats.copyBack distance (leastMatch + moreMatch) output,
        state.literals.drop literalLength, recent⟩

/-- How many sequences a block has. -/
def sequenceCount (data : Bytes) : Except Halt (Nat × Bytes) := do
  let (first, data) ← takeNumber 1 data
  if first < 128 then return (first, data)
  else if first < 255 then do
    let (second, data) ← takeNumber 1 data
    return ((first - 128) * 256 + second, data)
  else do
    let (count, data) ← takeNumber 2 data
    return (count + 0x7F00, data)

/-- The byte that says that each of the three numbers has one symbol for all sequences. -/
def sharedModes : Nat := 0x54

/-- The output after a block of sequences. -/
def executeBlock (block : Bytes) (output : Array UInt8) (recent : RecentDistances) :
    Except Halt Execution := do
  let (given, data) ← literals block
  let (count, data) ← sequenceCount data
  if count = 0 then
    if data.isEmpty then return ⟨output ++ given, [], recent⟩ else throw .corrupt
  let (modes, data) ← takeNumber 1 data
  if modes ≠ sharedModes then throw .corrupt
  let (literalLength, data) ← takeNumber 1 data
  let (offset, data) ← takeNumber 1 data
  let (matchLength, data) ← takeNumber 1 data
  if 31 < offset then throw .corrupt
  execute ⟨literalLength, offset, matchLength⟩ count (← backwardBits data) ⟨output, given, recent⟩

/-- What reading a block of a frame leads to: the output so far, the bytes after the block and
whether it was the last. -/
structure BlockResult where
  output : Array UInt8
  recent : RecentDistances
  rest : Bytes
  isLast : Bool

/-- Whether running out of bytes inside a block counts as broken data: it does not. -/
def withinBlock {α : Type} : Except Halt α → Except Halt α
  | .error _ => .error .corrupt
  | .ok value => .ok value

/-- Reads a block. -/
def readBlock (limit : Nat) (output : Array UInt8) (recent : RecentDistances) (data : Bytes) :
    Except Halt BlockResult := do
  let (header, data) ← takeNumber 3 data
  let size := header / 8
  let isLast := header % 2 = 1
  match header / 2 % 4 with
  | 0 => do
    if limit < size then throw .corrupt
    let (bytes, rest) ← takeBytes size data
    return ⟨output ++ bytes, recent, rest, isLast⟩
  | 1 => do
    if limit < 1 then throw .corrupt
    let (bytes, rest) ← takeBytes 1 data
    if limit < size then throw .corrupt
    return ⟨output ++ (List.replicate size bytes).flatten, recent, rest, isLast⟩
  | 2 => do
    if limit < size then throw .corrupt
    let (block, rest) ← takeBytes size data
    let state ← withinBlock (executeBlock block output recent)
    if output.size + limit < state.output.size then throw .corrupt
    return ⟨state.output, state.recent, rest, isLast⟩
  | _ => throw .corrupt

/-- What stands at the end of a frame: the size that was announced has to be that of the output,
and so has the checksum if there is one. -/
def frameEnd (header : FrameHeader) (output : Array UInt8) (data : Bytes) : Except Halt Bytes := do
  if header.contentSize.any (· != output.size) then throw .corrupt
  if header.hasChecksum then do
    let (checksum, data) ← takeNumber 4 data
    if checksum ≠ (Checksum.xxh64 output.toList).toNat % Nat.pow 2 32 then throw .corrupt
    return data
  else return data

/-- The recent distances at the start of a frame. -/
def initialDistances : RecentDistances := (1, 4, 8)

/-- What a frame produces from a block on that has been read, and after it what `next` produces
from the bytes after the frame. The block adds to an output of `size` bytes. The fuel is at
least the number of bytes that are left. -/
def decodeBlocks (header : FrameHeader) (next : Bytes → Production) :
    (fuel size : Nat) → BlockResult → Production
  | 0, _, _ => .failed .truncated
  | fuel + 1, size, block =>
    let piece := (block.output.extract size block.output.size).toList
    if block.isLast then
      .lookingAhead piece (frameEnd header block.output block.rest) next
    else
      .lookingAhead piece (readBlock header.blockLimit block.output block.recent block.rest)
        fun following => decodeBlocks header next fuel block.output.size following

/-- What a frame produces from its header on, and after it what `next` produces from the bytes
after the frame. -/
def decodeFrame (next : Bytes → Production) (data : Bytes) : Production :=
  let start := do
    let (header, rest) ← frameHeader data
    let block ← readBlock header.blockLimit #[] initialDistances rest
    return (header, block)
  match start with
  | .error halt => .failed halt
  | .ok (header, block) => decodeBlocks header next data.length 0 block

/-- The number that starts a frame. -/
def magic : Nat := 0xFD2FB528

/-- The numbers that start a frame to be skipped, up to the last hexadecimal digit. -/
def skippableMagic : Nat := 0x184D2A5

/-- What unpacking the frames of data produces. The fuel is at least the number of bytes. -/
def decodeFrames : (fuel : Nat) → Bytes → Production
  | _, [] => .finished
  | 0, _ :: _ => .failed .truncated
  | fuel + 1, data =>
    match takeNumber 4 data with
    | .error halt => .failed halt
    | .ok (number, rest) =>
      if number = magic then decodeFrame (decodeFrames fuel) rest
      else if number / 16 = skippableMagic then
        match takeNumber 4 rest with
        | .error halt => .failed halt
        | .ok (size, rest) =>
          if rest.length < size then .failed .truncated else decodeFrames fuel (rest.drop size)
      else .failed .corrupt

/-- What unpacking produces. -/
def decode (data : Bytes) : Production := decodeFrames data.length data

/-- A block: whether it is the last of its frame, what kind it is, its size and its content. -/
structure Block where
  kind : Nat
  size : Nat
  content : Bytes

/-- The bytes of a block. -/
def blockBytes (isLast : Bool) (block : Block) : Bytes :=
  littleEndian 3 (isLast.toNat + 2 * block.kind + 8 * block.size) ++ block.content

/-- The content of a block that is one repeat and no literals. -/
def repeatContent (distance length : Nat) : Bytes :=
  let (matchSymbol, matchExtra) := ValueTable.split matchLengthTable length
  let offset := distance + 3
  let offsetSymbol := offset.log2
  let bits := matchExtra ++ numberBits offsetSymbol offset ++ [true]
  [0, 1, Bytes.byte sharedModes, 0, Bytes.byte offsetSymbol, Bytes.byte matchSymbol] ++
    packBits bits

/-- Bytes cut into parts of at most `limit` bytes. The fuel is at least the number of parts. -/
def split (limit : Nat) : (fuel : Nat) → Bytes → List Bytes
  | 0, _ => []
  | fuel + 1, bytes =>
    if bytes.length ≤ limit then [bytes] else bytes.take limit :: split limit fuel (bytes.drop limit)

/-- The blocks of a piece that starts at a position of the data. -/
def pieceBlocks (data : Array UInt8) (position : Nat) : Piece → List Block
  | .literal bytes =>
    (split 65536 bytes.length bytes).map fun part => ⟨0, part.length, part⟩
  | .repeated distance length =>
    if distance = 1 then [⟨1, length, [data[position - 1]?.getD 0]⟩]
    else
      let content := repeatContent distance length
      [⟨2, content.length, content⟩]

/-- The blocks of the pieces from a position of the data on. -/
def blocksFrom (data : Array UInt8) : (position : Nat) → List Piece → List Block
  | _, [] => []
  | position, piece :: pieces =>
    pieceBlocks data position piece ++ blocksFrom data (position + piece.length) pieces

/-- The bytes of blocks, of which the last is marked as such. -/
def blocksBytes : List Block → Bytes
  | [] => blockBytes true ⟨0, 0, []⟩
  | [block] => blockBytes true block
  | block :: blocks => blockBytes false block ++ blocksBytes blocks

/-- The shortest repeat that is worth announcing. -/
def minRepeat : Nat := 16

/-- The header of a frame that says how large its content is. -/
def frameStart (size : Nat) : Bytes :=
  if size < 256 then 0x20 :: littleEndian 1 size
  else if size < 65792 then 0x60 :: littleEndian 2 (size - 256)
  else 0xA0 :: littleEndian 4 size

/-- Packs bytes into one frame. -/
def encode (data : Bytes) : Bytes :=
  littleEndian 4 magic ++ frameStart data.length ++
    blocksBytes (blocksFrom data.toArray 0 (Repeats.cut minRepeat data))

end Zstd

end CompactHttp
