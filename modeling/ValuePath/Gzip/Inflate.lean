import ValuePath.Gzip.Code

/-!
Compressed data: blocks of bytes as they are, or of symbols, which stand for
bytes and for repetitions of what came before.
-/
namespace ValuePath.Gzip

/-- The codes of a block: for bytes and lengths, and for distances. -/
structure BlockCodes where
  symbols : Code
  distances : Code

/-- Pairs a series of least numbers with the counts of the bits that add to them. -/
def ranges (start : Nat) : List Nat → List (Nat × Nat)
  | [] => []
  | extra :: rest => (start, extra) :: ranges (start + Nat.pow 2 extra) rest

/-- The lengths that the symbols from 257 on stand for. -/
def lengthRanges : List (Nat × Nat) :=
  ranges 3 ([0, 0, 0, 0] ++ ((List.range 6).flatMap fun extra => List.replicate 4 extra)) ++
    [(258, 0)]

/-- The distances that the symbols of the other code stand for. -/
def distanceRanges : List (Nat × Nat) :=
  ranges 1 ([0, 0] ++ ((List.range 14).flatMap fun extra => [extra, extra]))

/-- Reads the bits that a symbol takes along. -/
def readRange? (table : List (Nat × Nat)) (symbol : Nat) (bits : List Bool) :
    Option (Nat × List Bool) := do
  let (start, extra) ← table[symbol]?
  let (more, rest) ← takeNumber? extra bits
  return (start + more, rest)

/-- Repeats bytes from some distance back; they may be among those put there just now. -/
def repeatBack : (count : Nat) → (distance : Nat) → Array UInt8 → Option (Array UInt8)
  | 0, _, output => some output
  | count + 1, distance, output =>
    if output.size < distance then none
    else
      match output[output.size - distance]? with
      | some byte => repeatBack count distance (output.push byte)
      | none => none

/-- Reads symbols up to the end of a block. -/
def readSymbols? (codes : BlockCodes) : (fuel : Nat) → Array UInt8 → List Bool →
    Option (Array UInt8 × List Bool)
  | 0, _, _ => none
  | fuel + 1, output, bits => do
    let (symbol, rest) ← codes.symbols.decode? bits
    if symbol < 256 then readSymbols? codes fuel (output.push (UInt8.ofNat symbol)) rest
    else if symbol = 256 then some (output, rest)
    else
      let (length, rest) ← readRange? lengthRanges (symbol - 257) rest
      let (distanceSymbol, rest) ← codes.distances.decode? rest
      let (distance, rest) ← readRange? distanceRanges distanceSymbol rest
      readSymbols? codes fuel (← repeatBack length distance output) rest

/-- The codes of blocks that do not bring their own. -/
def fixedCodes? : Option BlockCodes := do
  let symbols ← Code.ofLengths? (List.replicate 144 8 ++ List.replicate 112 9 ++
    List.replicate 24 7 ++ List.replicate 8 8)
  let distances ← Code.ofLengths? (List.replicate 32 5)
  return ⟨symbols, distances⟩

/-- Reads `count` lengths of words. Three symbols stand for repetitions: of the
length before, and of zero. The lengths read so far are in reverse. -/
def readLengths? (code : Code) (count : Nat) : (fuel : Nat) → List Nat → List Bool →
    Option (List Nat × List Bool)
  | 0, _, _ => none
  | fuel + 1, lengths, bits =>
    if count < lengths.length then none
    else if lengths.length = count then some (lengths.reverse, bits)
    else do
      let (symbol, rest) ← code.decode? bits
      if symbol < 16 then readLengths? code count fuel (symbol :: lengths) rest
      else
        let length ← if symbol = 16 then lengths.head? else some 0
        let (width, least) :=
          if symbol = 16 then (2, 3) else if symbol = 17 then (3, 3) else (7, 11)
        let (more, rest) ← takeNumber? width rest
        readLengths? code count fuel (List.replicate (least + more) length ++ lengths) rest

/-- The order in which the lengths of the words for lengths stand. -/
def lengthOrder : List Nat := [16, 17, 18, 0, 8, 7, 9, 6, 10, 5, 11, 4, 12, 3, 13, 2, 14, 1, 15]

/-- Reads some numbers of three bits. -/
def readTriples? : (count : Nat) → List Bool → Option (List Nat × List Bool)
  | 0, bits => some ([], bits)
  | count + 1, bits => do
    let (number, rest) ← takeNumber? 3 bits
    let (numbers, rest) ← readTriples? count rest
    return (number :: numbers, rest)

/-- Reads the codes that a block brings along. -/
def readCodes? (bits : List Bool) : Option (BlockCodes × List Bool) := do
  let (symbolCount, rest) ← takeNumber? 5 bits
  let (distanceCount, rest) ← takeNumber? 5 rest
  let (orderCount, rest) ← takeNumber? 4 rest
  let symbolCount := symbolCount + 257
  let distanceCount := distanceCount + 1
  if 286 < symbolCount ∨ 30 < distanceCount then none
  else
    let (ordered, rest) ← readTriples? (orderCount + 4) rest
    let found := lengthOrder.zip ordered
    let code ← Code.ofLengths? ((List.range 19).map fun symbol =>
      ((found.find? fun entry => entry.1 = symbol).map Prod.snd).getD 0)
    let total := symbolCount + distanceCount
    let (lengths, rest) ← readLengths? code total (total + 1) [] rest
    let symbols ← Code.ofLengths? (lengths.take symbolCount)
    let distances ← Code.ofLengths? (lengths.drop symbolCount)
    return (⟨symbols, distances⟩, rest)

/-- Reads a block of bytes as they are. Their count stands there twice, the second
time with every bit turned round. -/
def readStored? (output : Array UInt8) (bits : List Bool) : Option (Array UInt8 × List Bool) := do
  let (count, rest) ← takeNumber? 16 (align bits)
  let (check, rest) ← takeNumber? 16 rest
  if count + check ≠ 0xFFFF then none
  else
    let (bytes, rest) ← takeBytes? count rest
    return (output ++ bytes.toArray, rest)

/-- Reads blocks up to the last one. -/
def readBlocks? : (fuel : Nat) → Array UInt8 → List Bool → Option (Array UInt8 × List Bool)
  | 0, _, _ => none
  | fuel + 1, output, bits => do
    let (last, rest) ← takeNumber? 1 bits
    let (kind, rest) ← takeNumber? 2 rest
    let (output, rest) ←
      match kind with
      | 0 => readStored? output rest
      | 1 => do readSymbols? (← fixedCodes?) (rest.length + 1) output rest
      | 2 => do
        let (codes, rest) ← readCodes? rest
        readSymbols? codes (rest.length + 1) output rest
      | _ => none
    if last = 1 then some (output, rest) else readBlocks? fuel output rest

/-- The data at the front of some bits, and the bits behind it. -/
def inflate? (bits : List Bool) : Option (List UInt8 × List Bool) :=
  (readBlocks? (bits.length + 1) #[] bits).map fun (output, rest) => (output.toList, rest)

end ValuePath.Gzip
