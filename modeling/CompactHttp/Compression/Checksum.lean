import CompactHttp.Compression.Bits

/-! # Checksums

The two checksums by which compressed data are verified: the cyclic redundancy check of
thirty-two bits, and the sixty-four bit hash of four interleaved lanes.
-/

namespace CompactHttp

namespace Checksum

/-- One bit of the cyclic redundancy check. -/
def crcBit (crc : UInt32) : UInt32 :=
  if crc &&& 1 = 1 then (crc >>> 1) ^^^ 0xEDB88320 else crc >>> 1

/-- One byte of the cyclic redundancy check. -/
def crcByte (crc : UInt32) (byte : UInt8) : UInt32 :=
  (List.range 8).foldl (fun crc _ => crcBit crc) (crc ^^^ byte.toUInt32)

/-- The cyclic redundancy check of a byte string. -/
def crc32 (data : Bytes) : UInt32 := data.foldl crcByte 0xFFFFFFFF ^^^ 0xFFFFFFFF

/-- The first of the five constants of the hash. -/
def prime1 : UInt64 := 0x9E3779B185EBCA87

/-- The second of the five constants of the hash. -/
def prime2 : UInt64 := 0xC2B2AE3D27D4EB4F

/-- The third of the five constants of the hash. -/
def prime3 : UInt64 := 0x165667B19E3779F9

/-- The fourth of the five constants of the hash. -/
def prime4 : UInt64 := 0x85EBCA77C2B2AE63

/-- The fifth of the five constants of the hash. -/
def prime5 : UInt64 := 0x27D4EB2F165667C5

/-- A word turned left by some bits. -/
def rotate (word : UInt64) (count : UInt64) : UInt64 :=
  (word <<< count) ||| (word >>> (64 - count))

/-- The word of eight bytes at the front of data. -/
def word64 (data : Bytes) : UInt64 := UInt64.ofNat (ofLittleEndian (data.take 8))

/-- Mixes a word into a lane. -/
def mixLane (lane input : UInt64) : UInt64 := rotate (lane + input * prime2) 31 * prime1

/-- Joins a lane to the hash. -/
def joinLane (hash lane : UInt64) : UInt64 := (hash ^^^ mixLane 0 lane) * prime1 + prime4

/-- The four lanes after all whole stripes of thirty-two bytes, and the bytes left over. The
fuel is at least the number of stripes. -/
def stripes : (fuel : Nat) → (lane1 lane2 lane3 lane4 : UInt64) → Bytes →
    (UInt64 × UInt64 × UInt64 × UInt64) × Bytes
  | fuel + 1, lane1, lane2, lane3, lane4, data =>
    if (data.drop 31).isEmpty then ((lane1, lane2, lane3, lane4), data)
    else
      stripes fuel (mixLane lane1 (word64 data)) (mixLane lane2 (word64 (data.drop 8)))
        (mixLane lane3 (word64 (data.drop 16))) (mixLane lane4 (word64 (data.drop 24)))
        (data.drop 32)
  | 0, lane1, lane2, lane3, lane4, data => ((lane1, lane2, lane3, lane4), data)

/-- Mixes the bytes after the last whole stripe into the hash. The fuel is at least their
number. -/
def tail : (fuel : Nat) → (hash : UInt64) → Bytes → UInt64
  | 0, hash, _ => hash
  | fuel + 1, hash, data =>
    if 8 ≤ data.length then
      tail fuel (rotate (hash ^^^ mixLane 0 (word64 data)) 27 * prime1 + prime4) (data.drop 8)
    else if 4 ≤ data.length then
      let word := UInt64.ofNat (ofLittleEndian (data.take 4))
      tail fuel (rotate (hash ^^^ (word * prime1)) 23 * prime2 + prime3) (data.drop 4)
    else
      match data with
      | [] => hash
      | byte :: rest => tail fuel (rotate (hash ^^^ (byte.toUInt64 * prime5)) 11 * prime1) rest

/-- Spreads every bit of the hash over all of it. -/
def avalanche (hash : UInt64) : UInt64 :=
  let hash := (hash ^^^ (hash >>> 33)) * prime2
  let hash := (hash ^^^ (hash >>> 29)) * prime3
  hash ^^^ (hash >>> 32)

/-- The sixty-four bit hash of a byte string. -/
def xxh64 (data : Bytes) : UInt64 :=
  let size := UInt64.ofNat data.length
  if (data.drop 31).isEmpty then avalanche (tail data.length (prime5 + size) data)
  else
    let ((lane1, lane2, lane3, lane4), rest) :=
      stripes data.length (prime1 + prime2) prime2 0 (0 - prime1) data
    let hash := rotate lane1 1 + rotate lane2 7 + rotate lane3 12 + rotate lane4 18
    let hash := joinLane (joinLane (joinLane (joinLane hash lane1) lane2) lane3) lane4
    avalanche (tail rest.length (hash + size) rest)

end Checksum

end CompactHttp
