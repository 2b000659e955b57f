/-
The deflate format of compressed bytes.

* `store` writes bytes as blocks without compression;
* `inflate?` reads any stream: stored blocks and blocks of symbols under fixed or
  transmitted codes. A stream that ends early gives the bytes it held, and a
  malformed stream gives nothing.
-/
import Scaffold.Bytes

namespace Scaffold.Deflate

/-! ### Writing -/

/-- What one stored block holds at most. -/
def blockSize : Nat := 65535

/-- One stored block; `last` marks the final one. -/
def storedBlock (last : Bool) (bytes : ByteArray) : ByteArray :=
  Bytes.fields [(1, if last then 1 else 0), (2, bytes.size), (2, 65535 - bytes.size)] ++ bytes

/-- Bytes as stored blocks. -/
def store (bytes : ByteArray) : ByteArray :=
  let count := (bytes.size - 1) / blockSize
  (List.range (count + 1)).foldl (fun out i =>
    out ++ storedBlock (i == count) (bytes.extract (i * blockSize) ((i + 1) * blockSize))) .empty

/-! ### Codes -/

/-- A prefix code: how many words each length from one on has, and the symbols in
the order of their words. -/
structure Code where
  counts : List Nat
  symbols : Array Nat

/-- How many words of the greatest length stay unused; none if there are too many
words. -/
def unused? : Nat → List Nat → Option Nat
  | free, [] => some free
  | free, count :: counts => if 2 * free < count then none else unused? (2 * free - count) counts

/-- The code in which symbol `i` has the `i`th length, zero for no word. It has no
word too many, and none too few unless it has a single word. -/
def Code.ofLengths? (lengths : List Nat) : Option Code :=
  let counts := (List.range 15).map fun n => lengths.count (n + 1)
  let symbols := (List.range 15).flatMap fun n =>
    (lengths.zipIdx.filter (·.1 == n + 1)).map Prod.snd
  match unused? 1 counts with
  | none => none
  | some 0 => some ⟨counts, symbols.toArray⟩
  | some _ => if symbols.length ≤ 1 then some ⟨counts, symbols.toArray⟩ else none

/-- The fixed code of literals and lengths. -/
def fixedLiterals : Code :=
  (Code.ofLengths? (List.replicate 144 8 ++ List.replicate 112 9 ++ List.replicate 24 7
    ++ List.replicate 8 8)).getD ⟨[], #[]⟩

/-- The fixed code of distances. -/
def fixedDistances : Code :=
  (Code.ofLengths? (List.replicate 32 5)).getD ⟨[], #[]⟩

/-- The least length and the extra bits of each length symbol. -/
def lengthTable : Array (Nat × Nat) :=
  #[(3, 0), (4, 0), (5, 0), (6, 0), (7, 0), (8, 0), (9, 0), (10, 0), (11, 1), (13, 1), (15, 1),
    (17, 1), (19, 2), (23, 2), (27, 2), (31, 2), (35, 3), (43, 3), (51, 3), (59, 3), (67, 4),
    (83, 4), (99, 4), (115, 4), (131, 5), (163, 5), (195, 5), (227, 5), (258, 0)]

/-- The least distance and the extra bits of each distance symbol. -/
def distanceTable : Array (Nat × Nat) :=
  #[(1, 0), (2, 0), (3, 0), (4, 0), (5, 1), (7, 1), (9, 2), (13, 2), (17, 3), (25, 3), (33, 4),
    (49, 4), (65, 5), (97, 5), (129, 6), (193, 6), (257, 7), (385, 7), (513, 8), (769, 8),
    (1025, 9), (1537, 9), (2049, 10), (3073, 10), (4097, 11), (6145, 11), (8193, 12),
    (12289, 12), (16385, 13), (24577, 13)]

/-- The order in which the lengths of the code of lengths are sent. -/
def lengthOrder : List Nat :=
  [16, 17, 18, 0, 8, 7, 9, 6, 10, 5, 11, 4, 12, 3, 13, 2, 14, 1, 15]

/-! ### Reading -/

/-- Why reading stops before the final block is complete. -/
inductive Stop where
  | ended
  | malformed
  deriving DecidableEq

/-- The next bit, and the bytes written so far. -/
structure Progress where
  place : Nat
  written : ByteArray

/-- Reading bits of some bytes while writing others. -/
abbrev Reader := ReaderT ByteArray (ExceptT Stop (StateM Progress))

namespace Reader

/-- The next bit. -/
def bit : Reader Nat := do
  let place := (← get).place
  match (← read)[place / 8]? with
  | none => throw .ended
  | some b =>
    modify fun s => { s with place := place + 1 }
    return b.toNat / Nat.pow 2 (place % 8) % 2

/-- The number given by the next bits, the first one least significant. -/
def bits : Nat → Reader Nat
  | 0 => return 0
  | count + 1 => return (← bit) + 2 * (← bits count)

/-- The number of bits that are left. -/
def bitsLeft : Reader Nat := do
  return 8 * (← read).size - (← get).place

/-- Appends a byte. -/
def emit (b : UInt8) : Reader Unit :=
  modify fun s => { s with written := s.written.push b }

/-- Appends bytes that were written before, some distance back. -/
def copyBack (distance : Nat) : Nat → Reader Unit
  | 0 => return
  | count + 1 => do
    let written := (← get).written
    emit (written[written.size - distance]?.getD 0)
    copyBack distance count

/-- The symbol whose word comes next. `word` and `first` are the bits read so far
and the first word of their length, `index` the symbols with shorter words. -/
def symbolIn (symbols : Array Nat) (word first index : Nat) : List Nat → Reader Nat
  | [] => throw .malformed
  | count :: counts => do
    let word := 2 * word + (← bit)
    let first := 2 * first
    if word < first + count then
      match symbols[index + (word - first)]? with
      | some symbol => return symbol
      | none => throw .malformed
    else symbolIn symbols word (first + count) (index + count) counts

/-- The symbol whose word comes next. -/
def symbol (code : Code) : Reader Nat :=
  symbolIn code.symbols 0 0 0 code.counts

/-- A value of a table with its extra bits. -/
def extended (table : Array (Nat × Nat)) (symbol : Nat) : Reader Nat :=
  match table[symbol]? with
  | some (least, count) => return least + (← bits count)
  | none => throw .malformed

/-- The symbols of a block up to its end mark. Each takes at least a bit, so that
as many bits as are left bound their number. -/
def symbols (literals distances : Code) : Nat → Reader Unit
  | 0 => throw .ended
  | bound + 1 => do
    let s ← symbol literals
    if s < 256 then
      emit (UInt8.ofNat s)
      symbols literals distances bound
    else if s == 256 then return
    else
      let length ← extended lengthTable (s - 257)
      let distance ← extended distanceTable (← symbol distances)
      if (← get).written.size < distance then throw .malformed
      copyBack distance length
      symbols literals distances bound

/-- The lengths of a transmitted code, newest first, until there are `count`. -/
def lengths (code : Code) (count : Nat) : Nat → List Nat → Reader (List Nat)
  | 0, _ => throw .malformed
  | bound + 1, acc =>
    if count == acc.length then return acc
    else if count < acc.length then throw .malformed
    else do
      match ← symbol code with
      | 16 =>
        match acc with
        | [] => throw .malformed
        | length :: _ => lengths code count bound (List.replicate ((← bits 2) + 3) length ++ acc)
      | 17 => lengths code count bound (List.replicate ((← bits 3) + 3) 0 ++ acc)
      | 18 => lengths code count bound (List.replicate ((← bits 7) + 11) 0 ++ acc)
      | length => lengths code count bound (length :: acc)

/-- The code with the given lengths. -/
def codeOf (lengths : List Nat) : Reader Code :=
  match Code.ofLengths? lengths with
  | some code => return code
  | none => throw .malformed

/-- The transmitted codes of a block. -/
def codes : Reader (Code × Code) := do
  let literals := (← bits 5) + 257
  let distances := (← bits 5) + 1
  let sent := (← bits 4) + 4
  if 286 < literals || 30 < distances then throw .malformed
  let widths ← (lengthOrder.take sent).mapM fun i => return (i, ← bits 3)
  let code ← codeOf ((List.range 19).map fun i => (widths.lookup i).getD 0)
  let total := literals + distances
  let all := (← lengths code total (total + 1) []).reverse
  return (← codeOf (all.take literals), ← codeOf (all.drop literals))

/-- A stored block. -/
def stored : Reader Unit := do
  modify fun s => { s with place := (s.place + 7) / 8 * 8 }
  let size ← bits 16
  if size + (← bits 16) != 65535 then throw .malformed
  let start := (← get).place / 8
  let held := (← read).extract start (start + size)
  modify fun s => ⟨s.place + 8 * held.size, s.written ++ held⟩
  if held.size < size then throw .ended

/-- The blocks of a stream. -/
def blocks : Nat → Reader Unit
  | 0 => throw .ended
  | bound + 1 => do
    let last ← bit
    match ← bits 2 with
    | 0 => stored
    | 1 => symbols fixedLiterals fixedDistances ((← bitsLeft) + 1)
    | 2 =>
      let (literals, distances) ← codes
      symbols literals distances ((← bitsLeft) + 1)
    | _ => throw .malformed
    if last == 0 then blocks bound

end Reader

/-- The bytes that a stream stands for. -/
def inflate? (bytes : ByteArray) : Option ByteArray :=
  match (Reader.blocks (8 * bytes.size + 1)).run bytes |>.run.run ⟨0, .empty⟩ with
  | (.error .malformed, _) => none
  | (_, s) => some s.written

end Scaffold.Deflate
