/-!
# Decompression

Compressed data is a sequence of blocks, each a copy of bytes or a sequence of symbols in two prefix
codes: bytes, and references to bytes that came out before. Every symbol takes at least one bit, so
the number of bits bounds the number of steps.

A prefix code is given by the length of the code of every symbol. Codes of one length are consecutive numbers in the order
of their symbols, and shorter codes come first.
-/

namespace Tablesmith.Zip

/-- The number of codes of each length from 1 to 15, and the symbols in the order of their codes. -/
structure PrefixCode where
  counts : List Nat
  symbols : Array Nat

namespace PrefixCode

def greatestLength : Nat := 15

def codeLengths : List Nat :=
  (List.range greatestLength).map (· + 1)

/-- The symbols whose codes have a length. -/
def symbolsOfLength (lengths : List Nat) (length : Nat) : List Nat :=
  (List.range lengths.length).filter fun symbol => lengths[symbol]? = some length

/-- The code in which every symbol has the given length; length 0 is for symbols without code. -/
def ofLengths (lengths : List Nat) : PrefixCode where
  counts := codeLengths.map fun length => (symbolsOfLength lengths length).length
  symbols := (codeLengths.flatMap (symbolsOfLength lengths)).toArray

/-- The codes of the greatest length that are left over, fewer than none if there are too many. -/
def slack (code : PrefixCode) : Int :=
  code.counts.foldl (fun (free : Int) (count : Nat) => 2 * free - count) 1

/-- There are more codes than their lengths allow, at some length. -/
def isCrowded (code : PrefixCode) : Bool :=
  (code.counts.foldl
    (fun (state : Int × Bool) (count : Nat) =>
      let free := 2 * state.1 - count
      (free, state.2 || free < 0))
    (1, false)).2

/-- Every sequence of bits begins with a code. -/
def isComplete (code : PrefixCode) : Bool :=
  code.slack = 0

/-- No code is longer than a single bit. -/
def isSingleBit (code : PrefixCode) : Bool :=
  (code.counts.drop 1).all (· = 0)

end PrefixCode

/-- Why decompression stops before its end. -/
inductive InflateStop
  | corrupt
  | exhausted
deriving DecidableEq

/-- The bits that are left and the bytes that came out. -/
structure InflateState where
  bits : List Bool
  output : Array UInt8

/-- A step of decompression; what came out stays when it stops. -/
abbrev Inflating : Type → Type :=
  ExceptT InflateStop (StateM InflateState)

/-- The bits of a byte, the lowest first. -/
def byteBits (byte : UInt8) : List Bool :=
  (List.range 8).map fun i => byte.toNat.testBit i

def takeBit : Inflating Nat := do
  match (← get).bits with
  | [] => throw .exhausted
  | bit :: rest =>
    modify fun state => { state with bits := rest }
    return bit.toNat

/-- Takes a number of so many bits, the lowest first. -/
def takeBits : Nat → Inflating Nat
  | 0 => return 0
  | count + 1 => do
    let low ← takeBit
    let high ← takeBits count
    return low + 2 * high

def putByte (byte : UInt8) : Inflating Unit :=
  modify fun state => { state with output := state.output.push byte }

/-- Puts out so many bytes again, each the one that came out `distance` bytes before. -/
def repeatBytes (distance : Nat) : Nat → Inflating Unit
  | 0 => return ()
  | count + 1 => do
    let output := (← get).output
    match output[output.size - distance]? with
    | some byte => putByte byte
    | none => throw .corrupt
    repeatBytes distance count

/-- Takes a symbol. `value` is the code read so far and `first` the first code of its length, whose
symbol has the place `place`. -/
def takeSymbolFrom (symbols : Array Nat) (value first place : Nat) : List Nat → Inflating Nat
  | [] => throw .corrupt
  | count :: longer => do
    let value := 2 * value + (← takeBit)
    let first := 2 * first
    if value < first + count then
      match symbols[place + (value - first)]? with
      | some symbol => return symbol
      | none => throw .corrupt
    else takeSymbolFrom symbols value (first + count) (place + count) longer

def takeSymbol (code : PrefixCode) : Inflating Nat :=
  takeSymbolFrom code.symbols 0 0 0 code.counts

/-- The least length of each length symbol from 257 on. -/
def lengthBases : Array Nat :=
  #[3, 4, 5, 6, 7, 8, 9, 10, 11, 13, 15, 17, 19, 23, 27, 31, 35, 43, 51, 59, 67, 83, 99, 115, 131,
    163, 195, 227, 258]

/-- The number of further bits of each length symbol from 257 on. -/
def lengthBits : Array Nat :=
  #[0, 0, 0, 0, 0, 0, 0, 0, 1, 1, 1, 1, 2, 2, 2, 2, 3, 3, 3, 3, 4, 4, 4, 4, 5, 5, 5, 5, 0]

/-- The least distance of each distance symbol. -/
def distanceBases : Array Nat :=
  #[1, 2, 3, 4, 5, 7, 9, 13, 17, 25, 33, 49, 65, 97, 129, 193, 257, 385, 513, 769, 1025, 1537, 2049,
    3073, 4097, 6145, 8193, 12289, 16385, 24577]

/-- The number of further bits of each distance symbol. -/
def distanceBits : Array Nat :=
  #[0, 0, 0, 0, 1, 1, 2, 2, 3, 3, 4, 4, 5, 5, 6, 6, 7, 7, 8, 8, 9, 9, 10, 10, 11, 11, 12, 12, 13, 13]

def endSymbol : Nat := 256

/-- The value of a symbol: its base and the number in its further bits. -/
def takeValue (bases bits : Array Nat) (symbol : Nat) : Inflating Nat := do
  match bases[symbol]?, bits[symbol]? with
  | some base, some count => return base + (← takeBits count)
  | _, _ => throw .corrupt

/-- Takes the reference of a length symbol and follows it. -/
def takeReference (distances : PrefixCode) (symbol : Nat) : Inflating Unit := do
  let length ← takeValue lengthBases lengthBits (symbol - endSymbol - 1)
  let distance ← takeValue distanceBases distanceBits (← takeSymbol distances)
  if (← get).output.size < distance then throw .corrupt
  repeatBytes distance length

/-- Takes the symbols of a block up to its end. -/
def takeSymbols (literals distances : PrefixCode) : Nat → Inflating Unit
  | 0 => throw .exhausted
  | fuel + 1 => do
    let symbol ← takeSymbol literals
    if symbol = endSymbol then return ()
    else if symbol < endSymbol then putByte (UInt8.ofNat symbol)
    else takeReference distances symbol
    takeSymbols literals distances fuel

/-- The code of literals and lengths that needs no description. -/
def fixedLiterals : PrefixCode :=
  .ofLengths (List.replicate 144 8 ++ List.replicate 112 9 ++ List.replicate 24 7
    ++ List.replicate 8 8)

/-- The code of distances that needs no description. -/
def fixedDistances : PrefixCode :=
  .ofLengths (List.replicate 32 5)

/-- The order in which the lengths of the code for lengths are written. -/
def lengthOrder : List Nat :=
  [16, 17, 18, 0, 8, 7, 9, 6, 10, 5, 11, 4, 12, 3, 13, 2, 14, 1, 15]

/-- Takes so many numbers of three bits. -/
def takeTriples : Nat → Inflating (List Nat)
  | 0 => return []
  | count + 1 => do
    let first ← takeBits 3
    let rest ← takeTriples count
    return first :: rest

/-- The code for lengths, which must use all its bits. -/
def lengthCode (written : List Nat) : Inflating PrefixCode := do
  let lengths := (List.range 19).map fun symbol =>
    ((lengthOrder.zip written).lookup symbol).getD 0
  let code := PrefixCode.ofLengths lengths
  if code.isCrowded ∨ ¬code.isComplete then throw .corrupt
  return code

/-- Takes the lengths of codes until there are `count`; `taken` holds those that are there, the last
first. -/
def takeLengths (code : PrefixCode) (count : Nat) : Nat → List Nat → Inflating (List Nat)
  | 0, _ => throw .corrupt
  | fuel + 1, taken => do
    if taken.length = count then return taken.reverse
    else
      let symbol ← takeSymbol code
      let (length, times) ←
        if symbol < 16 then pure (symbol, 1)
        else if symbol = 16 then
          match taken with
          | last :: _ => pure (last, 3 + (← takeBits 2))
          | [] => throw .corrupt
        else if symbol = 17 then pure (0, 3 + (← takeBits 3))
        else pure (0, 11 + (← takeBits 7))
      if count < taken.length + times then throw .corrupt
      takeLengths code count fuel (List.replicate times length ++ taken)

/-- A code is sound if it uses all its bits, or if it has a single bit or none at all. -/
def checkCode (code : PrefixCode) : Inflating Unit :=
  if code.isCrowded ∨ ¬(code.isComplete ∨ code.isSingleBit) then throw .corrupt else return ()

/-- Takes the description of the codes of a block. -/
def takeCodes : Inflating (PrefixCode × PrefixCode) := do
  let literalCount := 257 + (← takeBits 5)
  let distanceCount := 1 + (← takeBits 5)
  let written ← takeTriples (4 + (← takeBits 4))
  if 286 < literalCount ∨ 30 < distanceCount then throw .corrupt
  let code ← lengthCode written
  let count := literalCount + distanceCount
  let lengths ← takeLengths code count (count + 1) []
  if lengths[endSymbol]? = some 0 then throw .corrupt
  let literals := PrefixCode.ofLengths (lengths.take literalCount)
  let distances := PrefixCode.ofLengths (lengths.drop literalCount)
  checkCode literals
  checkCode distances
  return (literals, distances)

def copyBytes : Nat → Inflating Unit
  | 0 => return ()
  | count + 1 => do
    putByte (UInt8.ofNat (← takeBits 8))
    copyBytes count

/-- Takes a block of copied bytes, which begins at the next whole byte. -/
def takeCopy : Inflating Unit := do
  modify fun state => { state with bits := state.bits.drop (state.bits.length % 8) }
  let count ← takeBits 16
  let complement ← takeBits 16
  if count + complement ≠ 0xffff then throw .corrupt
  copyBytes count

/-- Takes a block of one of the three types. -/
def takeBlock : Inflating Unit := do
  let fuel := (← get).bits.length
  match ← takeBits 2 with
  | 0 => takeCopy
  | 1 => takeSymbols fixedLiterals fixedDistances fuel
  | 2 =>
    let (literals, distances) ← takeCodes
    takeSymbols literals distances fuel
  | _ => throw .corrupt

/-- Takes blocks up to the one that is marked as the last. -/
def takeBlocks : Nat → Inflating Unit
  | 0 => throw .exhausted
  | fuel + 1 => do
    let isLast ← takeBit
    takeBlock
    if isLast = 1 then return () else takeBlocks fuel

/-- Decompresses bytes: what came out, and why it stopped early, if it did. -/
def inflate (bytes : List UInt8) : Array UInt8 × Option InflateStop :=
  let bits := bytes.flatMap byteBits
  let result := (takeBlocks (bits.length + 1)).run.run ⟨bits, #[]⟩
  (result.2.output, match result.1 with
    | .ok _ => none
    | .error stop => some stop)

end Tablesmith.Zip
