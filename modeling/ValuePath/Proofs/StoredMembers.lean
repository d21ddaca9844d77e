import Mathlib.Algebra.Group.Nat.Defs
import ValuePath.Proofs.GzipMembers

/-! Compressed files that hold their data as they are. They are the simplest members
there are, and every data has one, cut into blocks in any way. -/
namespace ValuePath.StoredMembers
open Gzip GzipMembers

/-- A number in this many bytes, the least significant one first. -/
def spread : (width : Nat) → Nat → List UInt8
  | 0, _ => []
  | width + 1, n => UInt8.ofNat n :: spread width (n / 256)

/-- A block of bytes as they are: its bits for the last block and for its kind, up to
the end of their byte, the count twice, and the bytes. -/
def storedBlock (last : Bool) (chunk : List UInt8) : List UInt8 :=
  UInt8.ofNat last.toNat :: (spread 2 chunk.length ++ (spread 2 (0xFFFF - chunk.length) ++ chunk))

/-- Blocks for some chunks, and an empty last one. -/
def storedBlocks : List (List UInt8) → List UInt8
  | [] => storedBlock true []
  | chunk :: rest => storedBlock false chunk ++ storedBlocks rest

/-- A header without any parts. -/
def plainHeader : List UInt8 := [0x1F, 0x8B, 8, 0, 0, 0, 0, 0, 0, 0xFF]

/-- A member that holds the bytes of these chunks. -/
def storedMember (chunks : List (List UInt8)) : List UInt8 :=
  plainHeader ++ (storedBlocks chunks ++
    (spread 4 (checksum chunks.flatten).toNat ++
      spread 4 (chunks.flatten.length % UInt32.size)))

/-! ## Numbers -/

theorem length_spread (width n : Nat) : (spread width n).length = width := by
  induction width generalizing n with
  | zero => rfl
  | succ width ih => rw [spread, List.length_cons, ih]

theorem littleEndian_spread (width n : Nat) : littleEndian (spread width n) = n % 256 ^ width := by
  induction width generalizing n with
  | zero => simp [spread, littleEndian, Nat.mod_one]
  | succ width ih =>
    rw [spread, littleEndian, ih, Nat.pow_succ', Nat.mod_mul, UInt8.toNat_ofNat']

theorem numberOf_bits (width n : Nat) :
    numberOf ((List.range width).map n.testBit) = n % 2 ^ width := by
  induction width generalizing n with
  | zero => simp [numberOf, Nat.mod_one]
  | succ width ih =>
    have shifted : (List.range width).map (fun place => n.testBit (place + 1)) =
        (List.range width).map (n / 2).testBit := by
      simp only [Nat.testBit_succ]
    rw [List.range_succ_eq_map, List.map_cons, List.map_map]
    change numberOf (n.testBit 0 :: (List.range width).map fun place => n.testBit (place + 1)) = _
    rw [numberOf, shifted, ih, Nat.pow_succ', Nat.mod_mul, Nat.testBit_zero]
    have bit := Nat.mod_two_eq_zero_or_one n
    rcases bit with even | odd
    · simp [even]
    · simp [odd]

theorem length_byteBits (byte : UInt8) : (byteBits byte).length = 8 := by simp [byteBits]

theorem numberOf_byteBits (byte : UInt8) : numberOf (byteBits byte) = byte.toNat := by
  rw [byteBits, numberOf_bits]
  exact Nat.mod_eq_of_lt byte.toNat_lt

theorem numberOf_append (front back : List Bool) :
    numberOf (front ++ back) = numberOf front + 2 ^ front.length * numberOf back := by
  induction front with
  | nil => simp [numberOf]
  | cons bit rest ih =>
    rw [List.cons_append, numberOf, numberOf, ih, List.length_cons, Nat.pow_succ', Nat.mul_add,
      Nat.mul_assoc, Nat.add_assoc]

theorem numberOf_bitsOf (bytes : List UInt8) : numberOf (bitsOf bytes) = littleEndian bytes := by
  induction bytes with
  | nil => rfl
  | cons byte rest ih =>
    have eight : 2 ^ 8 = 256 := by decide
    rw [bitsOf, List.flatMap_cons, numberOf_append, numberOf_byteBits, length_byteBits, eight,
      littleEndian, ← ih, bitsOf]

/-! ## Reading bytes -/

section
variable {more : List Bool}

theorem takeNumber_append (front : List Bool) {width : Nat} (counted : front.length = width) :
    takeNumber? width (front ++ more) = some (numberOf front, more) := by
  subst counted
  simp [takeNumber?]

/-- A number that stands in two bytes. -/
theorem takeNumber_spread {n : Nat} (fits : n < 65536) :
    takeNumber? 16 (bitsOf (spread 2 n) ++ more) = some (n, more) := by
  have counted : (bitsOf (spread 2 n)).length = 16 := by rw [length_bitsOf, length_spread]
  have square : 256 ^ 2 = 65536 := by decide
  rw [takeNumber_append _ counted, numberOf_bitsOf, littleEndian_spread, square,
    Nat.mod_eq_of_lt fits]

theorem takeBytes_bitsOf (bytes : List UInt8) :
    takeBytes? bytes.length (bitsOf bytes ++ more) = some (bytes, more) := by
  induction bytes with
  | nil => rfl
  | cons byte rest ih =>
    have parts : bitsOf (byte :: rest) ++ more = byteBits byte ++ (bitsOf rest ++ more) := by
      rw [bitsOf, List.flatMap_cons, List.append_assoc, bitsOf]
    rw [List.length_cons, takeBytes?, parts, takeNumber_append _ (length_byteBits byte),
      numberOf_byteBits]
    simp [ih]

theorem takeBytes_spread (n : Nat) :
    takeBytes? 4 (bitsOf (spread 4 n) ++ more) = some (spread 4 n, more) := by
  have read : takeBytes? (spread 4 n).length (bitsOf (spread 4 n) ++ more) =
      some (spread 4 n, more) := takeBytes_bitsOf _
  rwa [length_spread] at read

/-- Whole bytes stand at the place of a whole byte. -/
theorem align_whole (whole : more.length % 8 = 0) : align more = more := by
  rw [align, whole, List.drop_zero]

/-- A block is read as its bytes behind the bits of its head. -/
theorem readStored_block {chunk : List UInt8} (fits : chunk.length < 65536)
    (whole : more.length % 8 = 0) (head : List Bool) (rest : head.length < 8)
    (output : Array UInt8) :
    readStored? output (head ++ (bitsOf (spread 2 chunk.length ++
      (spread 2 (0xFFFF - chunk.length) ++ chunk)) ++ more)) =
        some (output ++ chunk.toArray, more) := by
  have aligned (bits : List Bool) (whole : bits.length % 8 = 0) : align (head ++ bits) = bits := by
    have remains : (head ++ bits).length % 8 = head.length := by
      rw [List.length_append]
      omega
    rw [align, remains, List.drop_left]
  have check : 0xFFFF - chunk.length < 65536 := by omega
  have total : chunk.length + (0xFFFF - chunk.length) = 0xFFFF := by omega
  rw [readStored?, aligned]
  · simp only [bitsOf_append, List.append_assoc, Option.bind_eq_bind, takeNumber_spread fits,
      takeNumber_spread check, Option.bind_some, total, ne_eq, not_true_eq_false, if_false,
      takeBytes_bitsOf]
    rfl
  · rw [List.length_append, length_bitsOf]
    omega

end

/-! ## Members -/

/-- A block is read, and those behind it if it is not the last one. -/
theorem readBlocks_block {more : List Bool} (whole : more.length % 8 = 0) (last : Bool)
    {chunk : List UInt8} (fits : chunk.length < 65536) (fuel : Nat) (output : Array UInt8) :
    readBlocks? (fuel + 1) output (bitsOf (storedBlock last chunk) ++ more) =
      if last then some (output ++ chunk.toArray, more)
      else readBlocks? fuel (output ++ chunk.toArray) more := by
  have head : bitsOf (storedBlock last chunk) = [last] ++ ([false, false] ++
      (List.replicate 5 false ++ bitsOf (spread 2 chunk.length ++
        (spread 2 (0xFFFF - chunk.length) ++ chunk)))) := by
    rw [storedBlock, bitsOf, List.flatMap_cons, ← bitsOf]
    cases last <;> rfl
  have block := readStored_block fits whole (List.replicate 5 false) (by simp) output
  simp only [head, List.append_assoc] at block ⊢
  rw [readBlocks?]
  simp only [Option.bind_eq_bind, takeNumber_append [last] (rfl : _ = 1),
    takeNumber_append [false, false] (rfl : _ = 2), Option.bind_some]
  have kind : numberOf [false, false] = 0 := rfl
  rw [kind]
  simp only [block, Option.bind_some]
  cases last <;> rfl

/-- Blocks are read up to the last one, which is empty. -/
theorem readBlocks_stored {more : List Bool} (whole : more.length % 8 = 0)
    (chunks : List (List UInt8)) (fit : ∀ chunk ∈ chunks, chunk.length < 65536) {fuel : Nat}
    (enough : chunks.length < fuel) (output : Array UInt8) :
    readBlocks? fuel output (bitsOf (storedBlocks chunks) ++ more) =
      some (output ++ chunks.flatten.toArray, more) := by
  induction chunks generalizing fuel output with
  | nil =>
    obtain ⟨fuel, rfl⟩ := Nat.exists_eq_add_of_le' (Nat.one_le_of_lt enough)
    rw [storedBlocks, readBlocks_block whole true (by simp) fuel output]
    rfl
  | cons chunk rest ih =>
    obtain ⟨fuel, rfl⟩ := Nat.exists_eq_add_of_le' (Nat.one_le_of_lt enough)
    obtain ⟨first, others⟩ := List.forall_mem_cons.mp fit
    have behind : (bitsOf (storedBlocks rest) ++ more).length % 8 = 0 := by
      rw [List.length_append, length_bitsOf]
      omega
    rw [storedBlocks, bitsOf_append, List.append_assoc, readBlocks_block behind false first,
      if_neg Bool.false_ne_true, ih others (Nat.lt_of_succ_lt_succ enough)]
    simp

theorem length_storedBlocks (chunks : List (List UInt8)) :
    chunks.length < (storedBlocks chunks).length := by
  induction chunks with
  | nil => simp [storedBlocks, storedBlock]
  | cons chunk rest ih =>
    rw [storedBlocks, List.length_append, List.length_cons]
    have head : 1 ≤ (storedBlock false chunk).length := by simp [storedBlock]
    omega

/-- The member of some chunks holds their bytes. -/
theorem storedMember_holds (chunks : List (List UInt8))
    (fit : ∀ chunk ∈ chunks, chunk.length < 65536) :
    Member (storedMember chunks) chunks.flatten := by
  have header (body : List UInt8) : skipHeader? (plainHeader ++ body) = some body := by
    rw [plainHeader]
    simp only [List.cons_append, List.nil_append, skipHeader_eq]
    rfl
  have whole (bytes : List UInt8) : (bitsOf bytes).length % 8 = 0 := by
    rw [length_bitsOf]
    omega
  have blocks (trailer : List UInt8) : inflate? (bitsOf (storedBlocks chunks ++ trailer)) =
      some (chunks.flatten, bitsOf trailer) := by
    have enough : chunks.length <
        (bitsOf (storedBlocks chunks) ++ bitsOf trailer).length + 1 := by
      rw [List.length_append, length_bitsOf]
      have shorter := length_storedBlocks chunks
      omega
    rw [inflate?, bitsOf_append, readBlocks_stored (whole trailer) chunks fit enough]
    simp
  have sum : littleEndian (spread 4 (checksum chunks.flatten).toNat) =
      (checksum chunks.flatten).toNat := by
    rw [littleEndian_spread]
    exact Nat.mod_eq_of_lt (checksum chunks.flatten).toNat_lt
  have size : littleEndian (spread 4 (chunks.flatten.length % UInt32.size)) =
      chunks.flatten.length % UInt32.size := by
    rw [littleEndian_spread]
    exact Nat.mod_mod _ _
  have last : bitsOf (spread 4 (chunks.flatten.length % UInt32.size)) =
      bitsOf (spread 4 (chunks.flatten.length % UInt32.size)) ++ [] := (List.append_nil _).symm
  rw [Member, readMember?, storedMember, header]
  simp only [Option.bind_eq_bind, Option.bind_some, blocks, align_whole (whole _)]
  rw [bitsOf_append, takeBytes_spread, Option.bind_some, last, takeBytes_spread, Option.bind_some,
    if_pos ⟨sum, size⟩]

/-- What fits into one block has a member of one block and the last, empty one. -/
theorem singleMember_holds {data : List UInt8} (fits : data.length < 65536) :
    Member (storedMember [data]) data := by
  have holds := storedMember_holds [data] (by simpa using fits)
  rwa [List.flatten_singleton] at holds

/-- Every data has a member that holds it. -/
theorem member_exists (data : List UInt8) : ∃ member, Member member data := by
  refine ⟨storedMember (data.map fun byte => [byte]), ?_⟩
  have holds := storedMember_holds (data.map fun byte => [byte]) (by simp)
  rwa [← List.flatMap_def, List.flatMap_singleton'] at holds

end ValuePath.StoredMembers
