import CompactHttp.Compression.PrefixCode
import CompactHttp.Compression.Production
import CompactHttp.Compression.Repeats
import CompactHttp.Compression.ValueTable

/-! # Brotli

A stream starts with the size of its window and holds meta-blocks: bytes as they are, bytes
to be skipped, or commands packed with prefix codes, each of which inserts some bytes and
repeats earlier output.

Packed meta-blocks are supported in their plainest form: one kind of blocks, one code for
each of bytes, commands and distances, each code with at most four symbols, and no words
from the common dictionary. `encode` writes nothing else.
-/

namespace CompactHttp

namespace Brotli

/-- The exponent of the size of the window. -/
def windowBits (source : BitSource) : Except Halt (Nat × BitSource) := do
  let (first, source) ← source.number 1
  if first = 0 then return (16, source)
  let (next, source) ← source.number 3
  if next ≠ 0 then return (17 + next, source)
  let (last, source) ← source.number 3
  match last with
  | 0 => return (17, source)
  | 1 => throw .corrupt
  | _ => return (8 + last, source)

/-- Passes over the rest of a byte that has been begun. It has to be zero. -/
def align (source : BitSource) : Except Halt BitSource :=
  if source.pending.any id then .error .corrupt else .ok source.aligned

/-- A code with few symbols. -/
inductive Code where
  /-- The symbol takes no bits. -/
  | single (symbol : Nat)
  /-- Symbols with codewords. -/
  | several (code : PrefixCode)

/-- Reads a symbol. -/
def Code.read : Code → BitSource → Except Halt (Nat × BitSource)
  | single symbol, source => .ok (symbol, source)
  | several code, source => code.read source

/-- How many bits it takes to name one of so many symbols. -/
def symbolBits (count : Nat) : Nat := (count - 1).log2 + 1

/-- Reads several different symbols out of `size` many. -/
def readSymbols (size : Nat) :
    (count : Nat) → BitSource → Except Halt (List Nat × BitSource)
  | 0, source => .ok ([], source)
  | count + 1, source => do
    let (symbol, source) ← source.number (symbolBits size)
    let (symbols, source) ← readSymbols size count source
    if size ≤ symbol ∨ symbol ∈ symbols then throw .corrupt
    return (symbol :: symbols, source)

/-- The code in which the given symbols have codewords of the given lengths. -/
def codeOf (size : Nat) (symbols lengths : List Nat) : Code :=
  .several (.ofLengths 3 ((List.range size).map fun symbol =>
    ((symbols.zip lengths).lookup symbol).getD 0))

/-- Reads the description of a code for `size` symbols. -/
def readCode (size : Nat) (source : BitSource) : Except Halt (Code × BitSource) := do
  let (form, source) ← source.number 2
  if form ≠ 1 then throw .corrupt
  let (more, source) ← source.number 2
  let (symbols, source) ← readSymbols size (more + 1) source
  match symbols with
  | [symbol] => return (.single symbol, source)
  | [_, _] => return (codeOf size symbols [1, 1], source)
  | [_, _, _] => return (codeOf size symbols [1, 2, 2], source)
  | _ => do
    let (shape, source) ← source.number 1
    return (codeOf size symbols (if shape = 0 then [2, 2, 2, 2] else [1, 2, 3, 3]), source)

/-- The least number of bytes inserted by a command with a given insert symbol, and how many
bits follow that are added to it. -/
def insertTable : ValueTable :=
  #[(0, 0), (1, 0), (2, 0), (3, 0), (4, 0), (5, 0), (6, 1), (8, 1), (10, 2), (14, 2), (18, 3),
    (26, 3), (34, 4), (50, 4), (66, 5), (98, 5), (130, 6), (194, 7), (322, 8), (578, 9),
    (1090, 10), (2114, 12), (6210, 14), (22594, 24)]

/-- The least number of bytes repeated by a command with a given copy symbol, and how many bits
follow that are added to it. -/
def copyTable : ValueTable :=
  #[(2, 0), (3, 0), (4, 0), (5, 0), (6, 0), (7, 0), (8, 0), (9, 0), (10, 1), (12, 1), (14, 2),
    (18, 2), (22, 3), (30, 3), (38, 4), (54, 4), (70, 5), (102, 5), (134, 6), (198, 7),
    (326, 8), (582, 9), (1094, 10), (2118, 24)]

/-- The first insert symbol and the first copy symbol of each group of sixty-four command
symbols. -/
def commandGroups : Array (Nat × Nat) :=
  #[(0, 0), (0, 8), (0, 0), (0, 8), (8, 0), (8, 8), (0, 16), (16, 0), (8, 16), (16, 8), (16, 16)]

/-- How many command symbols there are. -/
def commandCount : Nat := 704

/-- The distances used last, the last one first. -/
abbrev RecentDistances := Array Nat

/-- The distances that count as used at the start. -/
def initialDistances : RecentDistances := #[4, 11, 15, 16]

/-- For the sixteen symbols that refer to recent distances: which of them, and what is added to
it. -/
def recentTable : Array (Nat × Int) :=
  #[(0, 0), (1, 0), (2, 0), (3, 0), (0, -1), (0, 1), (0, -2), (0, 2), (0, -3), (0, 3), (1, -1),
    (1, 1), (1, -2), (1, 2), (1, -3), (1, 3)]

/-- How the distances of a meta-block are written. -/
structure DistanceForm where
  postfixBits : Nat
  direct : Nat

/-- How many distance symbols there are. -/
def DistanceForm.symbolCount (form : DistanceForm) : Nat :=
  16 + form.direct + 48 * Nat.pow 2 form.postfixBits

/-- The distance with a symbol. -/
def readDistance (form : DistanceForm) (recent : RecentDistances) (symbol : Nat)
    (source : BitSource) : Except Halt (Nat × BitSource) :=
  match recentTable[symbol]? with
  | some (which, change) =>
    let distance := ((recent[which]?.getD 0 : Nat) : Int) + change
    if distance ≤ 0 then .error .corrupt else .ok (distance.toNat, source)
  | none => do
    if symbol < 16 + form.direct then return (symbol - 15, source)
    let index := symbol - form.direct - 16
    let high := index / Nat.pow 2 form.postfixBits
    let low := index % Nat.pow 2 form.postfixBits
    let count := 1 + high / 2
    let (more, source) ← source.number count
    let offset := (2 + high % 2) * Nat.pow 2 count - 4
    return ((offset + more) * Nat.pow 2 form.postfixBits + low + form.direct + 1, source)

/-- The codes of a packed meta-block. -/
structure Codes where
  literals : Code
  commands : Code
  distances : Code
  form : DistanceForm

/-- How far unpacking has come: what has been put out, and what is left or why it stopped. -/
structure Unpacked where
  output : Array UInt8
  result : Except Halt (RecentDistances × BitSource)

/-- Appends `count` bytes that are read with a code. -/
def insertBytes (code : Code) :
    (count : Nat) → BitSource → Array UInt8 → Array UInt8 × Except Halt BitSource
  | 0, source, output => (output, .ok source)
  | count + 1, source, output =>
    match code.read source with
    | .ok (symbol, source) => insertBytes code count source (output.push (Bytes.byte symbol))
    | .error halt => (output, .error halt)

/-- Reads a command: how many bytes it inserts, how many it repeats, and whether the last
distance is used again. -/
def readCommand (codes : Codes) (source : BitSource) :
    Except Halt (Nat × Nat × Bool × BitSource) := do
  let (symbol, source) ← codes.commands.read source
  let (insertBase, copyBase) := commandGroups[symbol / 64]?.getD (0, 0)
  let (insert, source) ← ValueTable.read insertTable (insertBase + symbol / 8 % 8) source
  let (copy, source) ← ValueTable.read copyTable (copyBase + symbol % 8) source
  return (insert, copy, symbol < 128, source)

/-- Reads the distance of a command, and the recent distances after it. -/
def commandDistance (codes : Codes) (again : Bool) (recent : RecentDistances)
    (source : BitSource) : Except Halt (Nat × RecentDistances × BitSource) := do
  let (symbol, source) ← if again then pure (0, source) else codes.distances.read source
  let (distance, source) ← readDistance codes.form recent symbol source
  return (distance, if symbol = 0 then recent else (#[distance] ++ recent).take 4, source)

/-- Executes commands until `wanted` bytes have been put out. The fuel is at least that number,
since every command puts out a byte. -/
def runCommands (codes : Codes) : (fuel wanted : Nat) → RecentDistances → BitSource →
    Array UInt8 → Unpacked
  | _, 0, recent, source, output => ⟨output, .ok (recent, source)⟩
  | 0, _ + 1, _, _, output => ⟨output, .error .corrupt⟩
  | fuel + 1, wanted, recent, source, output =>
    match readCommand codes source with
    | .error halt => ⟨output, .error halt⟩
    | .ok (insert, copy, again, source) =>
      if wanted < insert then ⟨output, .error .corrupt⟩
      else
        match insertBytes codes.literals insert source output with
        | (output, .error halt) => ⟨output, .error halt⟩
        | (output, .ok source) =>
          let wanted := wanted - insert
          if wanted = 0 then ⟨output, .ok (recent, source)⟩
          else
            match commandDistance codes again recent source with
            | .error halt => ⟨output, .error halt⟩
            | .ok (distance, recent, source) =>
              if wanted < copy ∨ output.size < distance then ⟨output, .error .corrupt⟩
              else
                runCommands codes fuel (wanted - copy) recent source
                  (Repeats.copyBack distance copy output)

/-- Reads the description of the codes of a packed meta-block. -/
def readCodes (source : BitSource) : Except Halt (Codes × BitSource) := do
  let (kinds, source) ← source.number 3
  let (postfixBits, source) ← source.number 2
  let (direct, source) ← source.number 4
  let (_, source) ← source.number 2
  let (trees, source) ← source.number 2
  if kinds ≠ 0 ∨ trees ≠ 0 then throw .corrupt
  let form : DistanceForm := ⟨postfixBits, direct * Nat.pow 2 postfixBits⟩
  let (literals, source) ← readCode 256 source
  let (commands, source) ← readCode commandCount source
  let (distances, source) ← readCode form.symbolCount source
  return (⟨literals, commands, distances, form⟩, source)

/-- What the header of a meta-block announces. -/
inductive Header where
  /-- The end of the stream. -/
  | streamEnd
  /-- Bytes to be skipped. -/
  | skip (count : Nat)
  /-- Bytes as they are. -/
  | plain (count : Nat)
  /-- Packed bytes. -/
  | packed (count : Nat)

/-- A number of some groups of bits, of which the last may not be zero if there are more than
`least` groups. -/
def readGroups (width least count : Nat) (source : BitSource) :
    Except Halt (Nat × BitSource) := do
  let (value, source) ← source.number (width * count)
  if least < count ∧ value < Nat.pow 2 (width * (count - 1)) then throw .corrupt
  return (value, source)

/-- Reads the header of a meta-block, and whether the stream ends with it. -/
def readHeader (source : BitSource) : Except Halt (Header × Bool × BitSource) := do
  let (last, source) ← source.number 1
  let isLast := last = 1
  let (empty, source) ← if isLast then source.number 1 else pure (0, source)
  if empty = 1 then return (.streamEnd, true, source)
  let (groups, source) ← source.number 2
  if groups = 3 then
    let (reserved, source) ← source.number 1
    if reserved = 1 then throw .corrupt
    let (bytes, source) ← source.number 2
    let (size, source) ← readGroups 8 1 bytes source
    return (.skip (if bytes = 0 then 0 else size + 1), isLast, source)
  else
    let (size, source) ← readGroups 4 4 (groups + 4) source
    let (plain, source) ← if isLast then pure (0, source) else source.number 1
    return (if plain = 1 then .plain (size + 1) else .packed (size + 1), isLast, source)

/-- Reads the content of a meta-block. What is there of bytes that are cut off is put out. -/
def readContent (header : Header) (recent : RecentDistances) (source : BitSource)
    (output : Array UInt8) : Unpacked :=
  match header with
  | .streamEnd => ⟨output, .ok (recent, source)⟩
  | .skip count =>
    ⟨output, do
      let (_, source) ← (← align source).take count
      return (recent, source)⟩
  | .plain count =>
    match align source with
    | .error halt => ⟨output, .error halt⟩
    | .ok source =>
      match source.take count with
      | .error halt => ⟨output ++ source.bytes, .error halt⟩
      | .ok (bytes, source) => ⟨output ++ bytes, .ok (recent, source)⟩
  | .packed count =>
    match readCodes source with
    | .error halt => ⟨output, .error halt⟩
    | .ok (codes, source) => runCommands codes count count recent source output

/-- Reads meta-blocks up to the end of the stream. The fuel is at least the number of bits that
are left. -/
def readMetaBlocks : (fuel : Nat) → RecentDistances → BitSource → Array UInt8 → Unpacked
  | 0, _, _, output => ⟨output, .error .truncated⟩
  | fuel + 1, recent, source, output =>
    match readHeader source with
    | .error halt => ⟨output, .error halt⟩
    | .ok (header, isLast, source) =>
      let content := readContent header recent source output
      match content.result with
      | .error _ => content
      | .ok (recent, source) =>
        if isLast then ⟨content.output, (align source).map fun source => (recent, source)⟩
        else readMetaBlocks fuel recent source content.output

/-- What unpacking produces. Bytes after the end of the stream are not looked at. -/
def decode (data : Bytes) : Production :=
  match windowBits (BitSource.ofBytes data) with
  | .error halt => .failed halt
  | .ok (bits, source) =>
    let unpacked := readMetaBlocks (source.size + 1) initialDistances source #[]
    let halt :=
      match unpacked.result with
      | .ok _ => none
      | .error halt => some halt
    Production.windowed (Nat.pow 2 bits) unpacked.output.toList halt

/-- Zeros that fill up a byte of which `used` bits are used. -/
def fill (used : Nat) : List Bool := List.replicate ((8 - used % 8) % 8) false

/-- The header of a meta-block of at most 65536 bytes that is not the last. -/
def headerBits (plain : Bool) (size : Nat) : List Bool :=
  [false] ++ numberBits 2 0 ++ numberBits 16 (size - 1) ++ [plain]

/-- The description of a code with one symbol of `width` bits. -/
def singleCodeBits (width symbol : Nat) : List Bool :=
  numberBits 2 1 ++ numberBits 2 0 ++ numberBits width symbol

/-- The symbol of a distance that is not taken from the recent ones, and its additional bits. -/
def splitDistance (distance : Nat) : Nat × List Bool :=
  let value := distance + 3
  let count := value.log2 - 1
  (16 + 2 * (count - 1) + value / Nat.pow 2 count % 2, numberBits count value)

/-- A meta-block that is one repeat. -/
def repeatBits (distance length : Nat) : List Bool :=
  let (copySymbol, copyExtra) := ValueTable.split copyTable length
  let command :=
    if copySymbol < 8 then 128 + copySymbol
    else if copySymbol < 16 then 192 + (copySymbol - 8)
    else 384 + (copySymbol - 16)
  let (distanceSymbol, distanceExtra) := splitDistance distance
  headerBits false length ++ numberBits 13 0 ++ singleCodeBits 8 0 ++ singleCodeBits 10 command ++
    singleCodeBits 6 distanceSymbol ++ copyExtra ++ distanceExtra

/-- Bytes cut into parts of at most `limit` bytes. The fuel is at least the number of parts. -/
def parts (limit : Nat) : (fuel : Nat) → Bytes → List Bytes
  | 0, _ => []
  | fuel + 1, bytes =>
    if bytes.length ≤ limit then [bytes] else bytes.take limit :: parts limit fuel (bytes.drop limit)

/-- A meta-block of bytes as they are, after a byte of which `used` bits are used. -/
def plainBits (used : Nat) (bytes : Bytes) : List Bool :=
  let header := headerBits true bytes.length
  header ++ fill (used + header.length) ++ bytes.flatMap BitSource.bitsOf

/-- The meta-blocks of byte strings as they are, after a byte of which `used` bits are used. -/
def plainBlocks (used : Nat) : List Bytes → List Bool
  | [] => []
  | bytes :: others => plainBits used bytes ++ plainBlocks 0 others

/-- The meta-blocks of a piece. -/
def pieceBits (used : Nat) : Piece → List Bool
  | .literal bytes => plainBlocks used (parts 65536 bytes.length bytes)
  | .repeated distance length => repeatBits distance length

/-- The meta-blocks of pieces, behind the bits already `written` in parts (last first). -/
def piecesBits (written : List (List Bool)) (used : Nat) : List Piece → List (List Bool)
  | [] => written.reverse
  | piece :: pieces =>
    let bits := pieceBits used piece
    piecesBits (bits :: written) ((used + bits.length) % 8) pieces

/-- The shortest repeat that is worth announcing. -/
def minRepeat : Nat := 24

/-- Packs bytes into a stream with a window of 2 ^ 22 bytes. -/
def encode (data : Bytes) : Bytes :=
  let start := [true] ++ numberBits 3 5
  packBits (start ++ (piecesBits [] start.length (Repeats.cut minRepeat data)).flatten ++ [true, true])

end Brotli

end CompactHttp
