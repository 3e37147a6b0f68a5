/-
# Deflated data

Deflated data is a sequence of blocks of symbols, written bit by bit with the lowest bit of a
byte first.  A symbol is a byte of the output, or says that a stretch of the output so far is
repeated.  `inflate` produces the output up to a bound and says how it ended.

The symbols of a block are coded by codewords of differing lengths.  Such a code is canonical:
it is determined by the lengths of its codewords alone.
-/
import Intercept.Bytes

namespace Intercept.Inflate

/-! ### Bits -/

/-- The data that is left: some bits of a byte already begun, and whole bytes. -/
structure Bits where
  /-- The bits of the byte begun, as a number. -/
  current : Nat
  /-- How many bits of the byte begun are left. -/
  left : Nat
  bytes : Bytes
deriving Repr, Inhabited

/-- The next bit. -/
def Bits.bit? (bits : Bits) : Option (Nat × Bits) :=
  match bits.left, bits.bytes with
  | left + 1, _ => some (bits.current % 2, ⟨bits.current / 2, left, bits.bytes⟩)
  | 0, b :: rest => some (b.toNat % 2, ⟨b.toNat / 2, 7, rest⟩)
  | 0, [] => none

/-- The number that the next `n` bits write, the lowest bit first. -/
def Bits.number? : Nat → Bits → Option (Nat × Bits)
  | 0, bits => some (0, bits)
  | n + 1, bits => do
    let (b, bits) ← bits.bit?
    let (high, bits) ← number? n bits
    pure (b + 2 * high, bits)

/-- The bytes behind the byte begun, whose further bits are skipped. -/
def Bits.aligned (bits : Bits) : Bytes := bits.bytes

/-! ### Codes -/

/-- A canonical code. -/
structure Code where
  /-- How many codewords have one bit, two bits, and so on. -/
  counts : List Nat
  /-- The symbols by the length of their codewords, and of one length in increasing order. -/
  symbols : Array Nat
deriving Repr, Inhabited

/-- The longest codeword. -/
def maxLength : Nat := 15

/-- The code whose codeword for the `i`-th symbol has the `i`-th of the lengths; a symbol of
length zero has no codeword. -/
def Code.ofLengths (lengths : List Nat) : Code :=
  let byLength := (List.range maxLength).map fun l =>
    (lengths.zipIdx.filter fun (length, _) => length == l + 1).map Prod.snd
  ⟨byLength.map List.length, byLength.flatten.toArray⟩

/-- Twice the room that codewords of the given numbers leave at the next length; nothing if
there are more codewords than words. -/
def room? : List Nat → Nat → Option Nat
  | [], room => some room
  | count :: more, room => if count ≤ room then room? more (2 * (room - count)) else none

/-- Whether a code is complete, or has one codeword at most. -/
def Code.isValid (code : Code) : Bool :=
  room? code.counts 2 == some 0 || (code.symbols.size ≤ 1 && (room? code.counts 2).isSome)

/-- Follows the bits of a codeword.  `first` is the first codeword of the current length, `index`
the place of its symbol, and `word` the bits so far. -/
def readSymbol (symbols : Array Nat) : List Nat → Nat → Nat → Nat → Bits → Option (Nat × Bits)
  | [], _, _, _, _ => none
  | count :: more, first, index, word, bits =>
    match bits.bit? with
    | none => none
    | some (b, bits) =>
      let word := word + b
      if word < first + count then (symbols[index + (word - first)]?).map fun s => (s, bits)
      else readSymbol symbols more (2 * (first + count)) (index + count) (2 * word) bits

/-- The next symbol. -/
def Code.symbol? (code : Code) (bits : Bits) : Option (Nat × Bits) :=
  readSymbol code.symbols code.counts 0 0 0 bits

/-- The two codes of a block: of bytes and lengths, and of distances. -/
structure Codes where
  literals : Code
  distances : Code
deriving Repr, Inhabited

/-- The codes of a block that does not bring its own. -/
def fixedCodes : Codes where
  literals := .ofLengths (List.replicate 144 8 ++ List.replicate 112 9 ++ List.replicate 24 7
    ++ List.replicate 8 8)
  distances := .ofLengths (List.replicate 30 5)

/-- The order in which the lengths of the code for lengths are written. -/
def lengthOrder : List Nat := [16, 17, 18, 0, 8, 7, 9, 6, 10, 5, 11, 4, 12, 3, 13, 2, 14, 1, 15]

/-- Reads `n` numbers of three bits. -/
def threeBits? : Nat → Bits → Option (List Nat × Bits)
  | 0, bits => some ([], bits)
  | n + 1, bits => do
    let (first, bits) ← bits.number? 3
    let (rest, bits) ← threeBits? n bits
    pure (first :: rest, bits)

/-- Reads lengths of codewords up to `total` of them; `done` holds those read, the last first.
Each step adds at least one length, so `total` steps are enough. -/
def lengths? (code : Code) (total : Nat) : Nat → List Nat → Bits → Option (List Nat × Bits)
  | 0, done, bits => if done.length = total then some (done.reverse, bits) else none
  | fuel + 1, done, bits =>
    if total ≤ done.length then
      if done.length = total then some (done.reverse, bits) else none
    else do
      let (symbol, bits) ← code.symbol? bits
      if symbol < 16 then lengths? code total fuel (symbol :: done) bits
      else if symbol = 16 then
        let previous ← done.head?
        let (n, bits) ← bits.number? 2
        lengths? code total fuel (List.replicate (n + 3) previous ++ done) bits
      else if symbol = 17 then
        let (n, bits) ← bits.number? 3
        lengths? code total fuel (List.replicate (n + 3) 0 ++ done) bits
      else
        let (n, bits) ← bits.number? 7
        lengths? code total fuel (List.replicate (n + 11) 0 ++ done) bits

/-- The codes that a block brings. -/
def ownCodes? (bits : Bits) : Option (Codes × Bits) := do
  let (literals, bits) ← bits.number? 5
  let (distances, bits) ← bits.number? 5
  let (count, bits) ← bits.number? 4
  let literals := literals + 257
  let distances := distances + 1
  if 286 < literals ∨ 30 < distances then none else
  let (found, bits) ← threeBits? (count + 4) bits
  let order := lengthOrder.zip found
  let code := Code.ofLengths ((List.range 19).map fun symbol => (order.lookup symbol).getD 0)
  if ¬ code.isValid then none else
  let total := literals + distances
  let (lengths, bits) ← lengths? code total total [] bits
  let codes : Codes := ⟨.ofLengths (lengths.take literals), .ofLengths (lengths.drop literals)⟩
  if codes.literals.isValid ∧ codes.distances.isValid then some (codes, bits) else none

/-! ### Output -/

/-- The base and the number of further bits of the length that a symbol above 256 says. -/
def lengthRule (symbol : Nat) : Option (Nat × Nat) :=
  #[(3, 0), (4, 0), (5, 0), (6, 0), (7, 0), (8, 0), (9, 0), (10, 0), (11, 1), (13, 1), (15, 1),
    (17, 1), (19, 2), (23, 2), (27, 2), (31, 2), (35, 3), (43, 3), (51, 3), (59, 3), (67, 4),
    (83, 4), (99, 4), (115, 4), (131, 5), (163, 5), (195, 5), (227, 5), (258, 0)][symbol - 257]?

/-- The base and the number of further bits of the distance that a symbol says. -/
def distanceRule (symbol : Nat) : Option (Nat × Nat) :=
  #[(1, 0), (2, 0), (3, 0), (4, 0), (5, 1), (7, 1), (9, 2), (13, 2), (17, 3), (25, 3), (33, 4),
    (49, 4), (65, 5), (97, 5), (129, 6), (193, 6), (257, 7), (385, 7), (513, 8), (769, 8),
    (1025, 9), (1537, 9), (2049, 10), (3073, 10), (4097, 11), (6145, 11), (8193, 12),
    (12289, 12), (16385, 13), (24577, 13)][symbol]?

/-- Repeats `n` bytes from `distance` bytes back.  Before the first byte stand zeros. -/
def repeated (distance : Nat) : Nat → Array UInt8 → Array UInt8
  | 0, output => output
  | n + 1, output =>
    let b := if distance ≤ output.size then output.getD (output.size - distance) 0 else 0
    repeated distance n (output.push b)

/-- How data ended. -/
inductive Ending where
  /-- After its last block. -/
  | complete
  /-- At the bound on the output. -/
  | bounded
  /-- In the middle, or at something that no deflated data holds. -/
  | broken
deriving DecidableEq, Repr, Inhabited

/-- What data inflates to. -/
structure Inflated where
  output : Array UInt8
  ending : Ending
deriving Repr, Inhabited

/-- What a length symbol and the distance behind it say. -/
def stretch? (codes : Codes) (symbol : Nat) (bits : Bits) : Option (Nat × Nat × Bits) := do
  let (base, extra) ← lengthRule symbol
  let (more, bits) ← bits.number? extra
  let (symbol, bits) ← codes.distances.symbol? bits
  let (distance, extra) ← distanceRule symbol
  let (further, bits) ← bits.number? extra
  pure (base + more, distance + further, bits)

/-- Where the reading of data stands. -/
inductive Position where
  /-- Before a block. -/
  | between
  /-- Before a symbol of a block.  The flag says whether the block is the last one. -/
  | within (codes : Codes) (last : Bool)
deriving Inhabited

/-- What comes of reading on by one step. -/
inductive Step where
  /-- There is more to be read. -/
  | more (position : Position) (output : Array UInt8) (bits : Bits)
  /-- The data has ended. -/
  | done (inflated : Inflated)
deriving Inhabited

/-- Reads a symbol of a block. -/
def symbolStep (bound : Nat) (codes : Codes) (last : Bool) (output : Array UInt8) (bits : Bits) :
    Step :=
  match codes.literals.symbol? bits with
  | none => .done ⟨output, .broken⟩
  | some (symbol, bits) =>
    if symbol < 256 then .more (.within codes last) (output.push (UInt8.ofNat symbol)) bits
    else if symbol = 256 then
      if last then .done ⟨output, .complete⟩ else .more .between output bits
    else
      match stretch? codes symbol bits with
      | none => .done ⟨output, .broken⟩
      | some (length, distance, bits) =>
        .more (.within codes last) (repeated distance (min length (bound - output.size)) output) bits

/-- Reads a block whose bytes stand there as they are. -/
def plainStep (bound : Nat) (last : Bool) (output : Array UInt8) : Bytes → Step
  | a :: b :: c :: d :: rest =>
    let length := a.toNat + 256 * b.toNat
    if length + (c.toNat + 256 * d.toNat) ≠ 65535 then .done ⟨output, .broken⟩
    else
      let plain := rest.take length
      let output := output ++ (plain.take (bound - output.size)).toArray
      if bound ≤ output.size ∧ 0 < length then .done ⟨output, .bounded⟩
      else if plain.length < length then .done ⟨output, .broken⟩
      else if last then .done ⟨output, .complete⟩
      else .more .between output ⟨0, 0, rest.drop length⟩
  | _ => .done ⟨output, .broken⟩

/-- Reads the beginning of a block, or all of it if its bytes stand there as they are. -/
def blockStep (bound : Nat) (output : Array UInt8) (bits : Bits) : Step :=
  match bits.bit? with
  | none => .done ⟨output, .broken⟩
  | some (last, bits) =>
    match bits.number? 2 with
    | none => .done ⟨output, .broken⟩
    | some (kind, bits) =>
      if kind = 0 then plainStep bound (last == 1) output bits.aligned
      else if kind = 1 then .more (.within fixedCodes (last == 1)) output bits
      else if kind = 2 then
        match ownCodes? bits with
        | some (codes, bits) => .more (.within codes (last == 1)) output bits
        | none => .done ⟨output, .broken⟩
      else .done ⟨output, .broken⟩

/-- Reads on by one step. -/
def step (bound : Nat) : Position → Array UInt8 → Bits → Step
  | .between, output, bits => blockStep bound output bits
  | .within codes last, output, bits => symbolStep bound codes last output bits

/-- Reads on to the end.  Every step takes at least one bit, so as many steps as there are bits are
enough. -/
def steps (bound : Nat) : Nat → Position → Array UInt8 → Bits → Inflated
  | 0, _, output, _ => ⟨output, .broken⟩
  | fuel + 1, position, output, bits =>
    if bound ≤ output.size then ⟨output, .bounded⟩
    else
      match step bound position output bits with
      | .more position output bits => steps bound fuel position output bits
      | .done inflated => inflated

/-- Inflates data, but to no more than `bound` bytes. -/
def inflate (bound : Nat) (data : Bytes) : Inflated :=
  steps bound (8 * data.length + 1) .between #[] ⟨0, 0, data⟩

end Intercept.Inflate
