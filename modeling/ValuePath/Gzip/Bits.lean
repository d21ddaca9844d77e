/-!
Bytes as runs of bits, the least significant bit of each byte first.
-/
namespace ValuePath.Gzip

/-- The bits of a byte. -/
def byteBits (byte : UInt8) : List Bool := (List.range 8).map byte.toNat.testBit

/-- The bits of some bytes. -/
def bitsOf (bytes : List UInt8) : List Bool := bytes.flatMap byteBits

/-- The number that bits spell, the least significant one first. -/
def numberOf : List Bool → Nat
  | [] => 0
  | bit :: rest => bit.toNat + 2 * numberOf rest

/-- Takes a number of this many bits off the front. -/
def takeNumber? (width : Nat) (bits : List Bool) : Option (Nat × List Bool) :=
  let field := bits.take width
  if field.length = width then some (numberOf field, bits.drop width) else none

/-- Goes on with the next whole byte, given that the bits end with one. -/
def align (bits : List Bool) : List Bool := bits.drop (bits.length % 8)

/-- Takes some bytes off the front. -/
def takeBytes? : (count : Nat) → List Bool → Option (List UInt8 × List Bool)
  | 0, bits => some ([], bits)
  | count + 1, bits => do
    let (byte, rest) ← takeNumber? 8 bits
    let (bytes, rest) ← takeBytes? count rest
    return (UInt8.ofNat byte :: bytes, rest)

end ValuePath.Gzip
