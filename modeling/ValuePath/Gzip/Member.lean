import ValuePath.Gzip.Inflate

/-!
Compressed files: a header, data, and a checksum with the size of the data.
-/
namespace ValuePath.Gzip

/-- One bit of the checksum. -/
def checksumStep (sum : UInt32) : UInt32 :=
  if sum &&& 1 = 1 then (sum >>> 1) ^^^ 0xEDB88320 else sum >>> 1

/-- The checksum of some bytes: the remainder of a polynomial division. -/
def checksum (bytes : List UInt8) : UInt32 :=
  let final := bytes.foldl (fun sum byte =>
    Nat.repeat checksumStep 8 (sum ^^^ byte.toUInt32)) (0xFFFFFFFF : UInt32)
  final ^^^ 0xFFFFFFFF

/-- The number that bytes spell, the least significant one first. -/
def littleEndian : List UInt8 → Nat
  | [] => 0
  | byte :: rest => byte.toNat + 256 * littleEndian rest

/-- The two bytes that a compressed file begins with. -/
def magic : List UInt8 := [0x1F, 0x8B]

/-- Passes over a text with a zero behind it. -/
def skipText? : List UInt8 → Option (List UInt8)
  | [] => none
  | byte :: rest => if byte = 0 then some rest else skipText? rest

/-- Passes over a field that has its size in two bytes before it. -/
def skipSized? : List UInt8 → Option (List UInt8)
  | a :: b :: rest =>
    let size := littleEndian [a, b]
    if size ≤ rest.length then some (rest.drop size) else none
  | _ => none

/-- Passes over the header. Its flags say which parts there are beyond ten bytes. -/
def skipHeader? (bytes : List UInt8) : Option (List UInt8) :=
  match bytes with
  | 0x1F :: 0x8B :: 8 :: flags :: _ :: _ :: _ :: _ :: _ :: _ :: rest => do
    let has (bit : Nat) : Bool := flags.toNat.testBit bit
    if has 5 || has 6 || has 7 then none
    else
      let rest ← if has 2 then skipSized? rest else some rest
      let rest ← if has 3 then skipText? rest else some rest
      let rest ← if has 4 then skipText? rest else some rest
      if has 1 then
        let header := bytes.take (bytes.length - rest.length)
        match rest with
        | a :: b :: rest =>
          if littleEndian [a, b] = (checksum header).toNat % UInt16.size then some rest else none
        | _ => none
      else some rest
  | _ => none

/-- The data of the first part of a compressed file, with its checksum and size
verified. What follows that part does not count. -/
def decompress? (bytes : List UInt8) : Option (List UInt8) := do
  let body ← skipHeader? bytes
  let (data, rest) ← inflate? (bitsOf body)
  let (sum, rest) ← takeBytes? 4 (align rest)
  let (size, _) ← takeBytes? 4 rest
  if littleEndian sum = (checksum data).toNat ∧ littleEndian size = data.length % UInt32.size then
    some data
  else none

end ValuePath.Gzip
