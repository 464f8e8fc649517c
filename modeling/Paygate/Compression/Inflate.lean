import Paygate.Compression.Huffman

/-!
# Deflated data

Deflated data are blocks: stored bytes, or literals and references to earlier output in prefix
codes that are fixed or described in front of the block. `inflate` gives all output up to the end of
the data, also if the data stop early.
-/

namespace Paygate.Compression

/-! ## Codes -/

def fixedLiterals : Code :=
  .ofLengths (List.replicate 144 8 ++ List.replicate 112 9 ++ List.replicate 24 7 ++
    List.replicate 8 8)

def fixedDistances : Code := .ofLengths (List.replicate 32 5)

/-- Base and extra bits of the lengths of references. -/
def lengthBases : List (Nat × Nat) :=
  [(3, 0), (4, 0), (5, 0), (6, 0), (7, 0), (8, 0), (9, 0), (10, 0), (11, 1), (13, 1), (15, 1),
   (17, 1), (19, 2), (23, 2), (27, 2), (31, 2), (35, 3), (43, 3), (51, 3), (59, 3), (67, 4),
   (83, 4), (99, 4), (115, 4), (131, 5), (163, 5), (195, 5), (227, 5), (258, 0)]

/-- Base and extra bits of the distances of references. -/
def distanceBases : List (Nat × Nat) :=
  [(1, 0), (2, 0), (3, 0), (4, 0), (5, 1), (7, 1), (9, 2), (13, 2), (17, 3), (25, 3), (33, 4),
   (49, 4), (65, 5), (97, 5), (129, 6), (193, 6), (257, 7), (385, 7), (513, 8), (769, 8),
   (1025, 9), (1537, 9), (2049, 10), (3073, 10), (4097, 11), (6145, 11), (8193, 12), (12289, 12),
   (16385, 13), (24577, 13)]

/-- The order in which the lengths of the codes of lengths are written. -/
def lengthOrder : List Nat := [16, 17, 18, 0, 8, 7, 9, 6, 10, 5, 11, 4, 12, 3, 13, 2, 14, 1, 15]

/-! ## Descriptions of codes -/

/-- Numbers of three bits each. -/
def readTriples : (count : Nat) → Bits → Step Bits (List Nat)
  | 0, bits => .done [] bits
  | count + 1, bits =>
    (bits.number 3).andThen fun n bits =>
      (readTriples count bits).andThen fun ns bits => .done (n :: ns) bits

/-- A run of lengths that a symbol above 15 stands for: the length and how often it comes. -/
def readRun (symbol : Nat) (last : Option Nat) (bits : Bits) : Step Bits (Nat × Nat) :=
  match symbol with
  | 16 => (bits.number 2).andThen fun n bits =>
    match last with
    | some length => .done (length, 3 + n) bits
    | none => .error .lengthRepeat
  | 17 => (bits.number 3).andThen fun n bits => .done (0, 3 + n) bits
  | _ => (bits.number 7).andThen fun n bits => .done (0, 11 + n) bits

/-- The lengths of `count` codes; `done` are those before, in reverse. A code without symbols
stands for the length 0. -/
def readLengths (code : Code) (count : Nat) : (fuel : Nat) → (done : List Nat) → Bits →
    Step Bits (List Nat)
  | 0, _, _ => .ended
  | fuel + 1, done, bits =>
    if done.length ≥ count then .done done.reverse bits
    else
      (code.read bits).andThen fun symbol bits =>
        let symbol := symbol.getD 0
        if symbol < 16 then readLengths code count fuel (symbol :: done) bits
        else
          (readRun symbol done.head? bits).andThen fun (length, times) bits =>
            .check (done.length + times ≤ count) .lengthRepeat
              (readLengths code count fuel (List.replicate times length ++ done) bits)

/-- The two codes of a block that describes them. -/
def readCodes (bits : Bits) : Step Bits (Code × Code) :=
  (bits.number 5).andThen fun literals bits =>
  (bits.number 5).andThen fun distances bits =>
  (bits.number 4).andThen fun triples bits =>
    let literals := literals + 257
    let distances := distances + 1
    .check (literals ≤ 286 && distances ≤ 30) .tooManySymbols <|
    (readTriples (triples + 4) bits).andThen fun written bits =>
      let pairs := lengthOrder.zip written
      let lengths := (List.range 19).map fun symbol => (pairs.lookup symbol).getD 0
      .check (isComplete lengths || isUnused lengths) .codeLengths <|
      (readLengths (.ofLengths lengths) (literals + distances) (bits.length + 1) [] bits).andThen
        fun lengths bits =>
          let (literals, distances) := lengths.splitAt literals
          .check (literals.getD 256 0 ≠ 0) .noEndOfBlock <|
          .check (isComplete literals || isSingle literals) .literalCodes <|
          .check (isComplete distances || isSingle distances || isUnused distances) .distanceCodes <|
          .done (.ofLengths literals, .ofLengths distances) bits

/-! ## Blocks -/

/-- The output so far, and how reading went on. -/
structure Progress where
  output : Array UInt8
  step : Step Bits Unit

/-- Repeat bytes from a distance before the end. -/
def copyBack (distance : Nat) : (length : Nat) → Array UInt8 → Array UInt8
  | 0, output => output
  | length + 1, output =>
    copyBack distance length (output.push (output.getD (output.size - distance) 0))

/-- A base and its extra bits. -/
def readExtended (bases : List (Nat × Nat)) (symbol : Nat) (cause : Error) (bits : Bits) :
    Step Bits Nat :=
  match bases[symbol]? with
  | none => .error cause
  | some (base, width) => (bits.number width).andThen fun extra bits => .done (base + extra) bits

/-- A reference whose length has been told by `symbol`: length and distance. -/
def readReference (distances : Code) (symbol size : Nat) (bits : Bits) : Step Bits (Nat × Nat) :=
  (readExtended lengthBases (symbol - 257) .literalCode bits).andThen fun length bits =>
  (distances.read bits).andThen fun symbol bits =>
    match symbol with
    | none => .error .distanceCode
    | some symbol =>
      (readExtended distanceBases symbol .distanceCode bits).andThen fun distance bits =>
        .check (distance ≤ size) .distanceTooFar (.done (length, distance) bits)

/-- Literals and references up to the end of a block. -/
def readSymbols (literals distances : Code) : (fuel : Nat) → Array UInt8 → Bits → Progress
  | 0, output, _ => ⟨output, .ended⟩
  | fuel + 1, output, bits =>
    match literals.read bits with
    | .error cause => ⟨output, .error cause⟩
    | .ended => ⟨output, .ended⟩
    | .done none _ => ⟨output, .error .literalCode⟩
    | .done (some symbol) bits =>
      if symbol < 256 then readSymbols literals distances fuel (output.push (UInt8.ofNat symbol)) bits
      else if symbol = 256 then ⟨output, .done () bits⟩
      else
        match readReference distances symbol output.size bits with
        | .error cause => ⟨output, .error cause⟩
        | .ended => ⟨output, .ended⟩
        | .done (length, distance) bits =>
          readSymbols literals distances fuel (copyBack distance length output) bits

/-- Bytes as they stand. -/
def readStored : (length : Nat) → Array UInt8 → Bits → Progress
  | 0, output, bits => ⟨output, .done () bits⟩
  | length + 1, output, bits =>
    match bits.number 8 with
    | .error cause => ⟨output, .error cause⟩
    | .ended => ⟨output, .ended⟩
    | .done b bits => readStored length (output.push (UInt8.ofNat b)) bits

/-- The content of a block of one of the four kinds. -/
def readBlock (kind : Nat) (output : Array UInt8) (bits : Bits) : Progress :=
  match kind with
  | 0 =>
    match (bits.aligned.number 16).andThen fun length bits =>
        (bits.number 16).andThen fun check bits =>
          .check (length + check = 65535) .storedLengths (.done length bits) with
    | .error cause => ⟨output, .error cause⟩
    | .ended => ⟨output, .ended⟩
    | .done length bits => readStored length output bits
  | 1 => readSymbols fixedLiterals fixedDistances (bits.length + 1) output bits
  | 2 =>
    match readCodes bits with
    | .error cause => ⟨output, .error cause⟩
    | .ended => ⟨output, .ended⟩
    | .done (literals, distances) bits =>
      readSymbols literals distances (bits.length + 1) output bits
  | _ => ⟨output, .error .blockType⟩

/-- All blocks up to the last one. -/
def readBlocks : (fuel : Nat) → Array UInt8 → Bits → Progress
  | 0, output, _ => ⟨output, .ended⟩
  | fuel + 1, output, bits =>
    match (bits.number 1).andThen fun last bits =>
        (bits.number 2).andThen fun kind bits => .done (last == 1, kind) bits with
    | .error cause => ⟨output, .error cause⟩
    | .ended => ⟨output, .ended⟩
    | .done (last, kind) bits =>
      match readBlock kind output bits with
      | ⟨output, .done () bits⟩ =>
        if last then ⟨output, .done () bits⟩ else readBlocks fuel output bits
      | progress => progress

/-- Inflate data from a bit on. -/
def inflateBits (bits : Bits) : Progress := readBlocks (bits.length + 1) #[] bits

end Paygate.Compression
