import ValuePath.Gzip.Member

/-! The members of a compressed file. A file is a series of members, one behind the
other, and the bits of a member say where it ends: whatever stands behind it, the
same bits are read in the same way. So the data of a file are those of its first
member. -/
namespace ValuePath.GzipMembers
open Gzip

/-! ## Readers of bits -/

/-- The reader reads the same with these bits behind its own, and leaves them there. -/
def ReadsBefore {α : Type} (more : List Bool) (read : List Bool → Option (α × List Bool)) : Prop :=
  ∀ ⦃bits : List Bool⦄ ⦃value : α⦄ ⦃rest : List Bool⦄, read bits = some (value, rest) →
    read (bits ++ more) = some (value, rest ++ more)

section
variable {more : List Bool}

theorem takeNumber_before (width : Nat) : ReadsBefore more (takeNumber? width) := by
  intro bits value rest read
  simp only [takeNumber?, List.length_take] at read ⊢
  split at read
  · have within : width ≤ bits.length := by omega
    cases read
    rw [if_pos (by rw [List.length_append]; omega), List.take_append_of_le_length within,
      List.drop_append_of_le_length within]
  · cases read

theorem takeBytes_before (count : Nat) : ReadsBefore more (takeBytes? count) := by
  induction count with
  | zero =>
    intro bits value rest read
    cases read
    rfl
  | succ count ih =>
    intro bits value rest read
    simp only [takeBytes?, Option.bind_eq_bind, Option.bind_eq_some_iff, Prod.exists,
      Option.pure_def] at read ⊢
    obtain ⟨byte, behind, first, bytes, last, others, result⟩ := read
    cases result
    exact ⟨byte, _, takeNumber_before 8 first, bytes, _, ih others, rfl⟩

theorem decodeFrom_before (levels : List (List Nat)) (word first : Nat) :
    ReadsBefore more (Code.decodeFrom levels word first) := by
  induction levels generalizing word first with
  | nil =>
    intro bits value rest read
    cases read
  | cons level levels ih =>
    intro bits value rest read
    cases bits with
    | nil => cases read
    | cons bit bits =>
      simp only [List.cons_append, Code.decodeFrom] at read ⊢
      split at read
      · rename_i inside
        obtain ⟨symbol, found, result⟩ := Option.map_eq_some_iff.mp read
        cases result
        rw [if_pos inside, found]
        rfl
      · rename_i outside
        rw [if_neg outside]
        exact ih _ _ read

theorem decode_before (code : Code) : ReadsBefore more code.decode? :=
  decodeFrom_before code.levels 0 0

theorem readRange_before (table : List (Nat × Nat)) (symbol : Nat) :
    ReadsBefore more (readRange? table symbol) := by
  intro bits value rest read
  simp only [readRange?, Option.bind_eq_bind, Option.bind_eq_some_iff, Prod.exists,
    Option.pure_def] at read ⊢
  obtain ⟨start, extra, found, added, behind, taken, result⟩ := read
  cases result
  exact ⟨start, extra, found, added, _, takeNumber_before extra taken, rfl⟩

/-- Symbols are read before other bits with at least the same fuel. -/
theorem readSymbols_before (codes : BlockCodes) {fuel fuel' : Nat} (enough : fuel ≤ fuel')
    {output result : Array UInt8} {bits rest : List Bool}
    (read : readSymbols? codes fuel output bits = some (result, rest)) :
    readSymbols? codes fuel' output (bits ++ more) = some (result, rest ++ more) := by
  induction fuel generalizing fuel' output bits with
  | zero => cases read
  | succ fuel ih =>
    obtain ⟨fuel', rfl⟩ := Nat.exists_eq_add_of_le' (Nat.le_of_add_left_le enough : 1 ≤ fuel')
    have fewer : fuel ≤ fuel' := Nat.le_of_succ_le_succ enough
    simp only [readSymbols?, Option.bind_eq_bind, Option.bind_eq_some_iff, Prod.exists] at read ⊢
    obtain ⟨symbol, behind, decoded, read⟩ := read
    refine ⟨symbol, _, decode_before codes.symbols decoded, ?_⟩
    split at read
    · rename_i literal
      rw [if_pos literal]
      exact ih fewer read
    · rename_i noLiteral
      rw [if_neg noLiteral]
      split at read
      · rename_i ends
        cases read
        rw [if_pos ends]
      · rename_i goesOn
        rw [if_neg goesOn]
        simp only [Option.bind_eq_some_iff, Prod.exists] at read ⊢
        obtain ⟨length, behindLength, ranged, distanceSymbol, behindSymbol, distanced, distance,
          behindDistance, measured, extended, repeated, read⟩ := read
        exact ⟨length, _, readRange_before _ _ ranged, distanceSymbol, _,
          decode_before codes.distances distanced, distance, _, readRange_before _ _ measured,
          extended, repeated, ih fewer read⟩

theorem readLengths_before (code : Code) (count fuel : Nat) (lengths : List Nat) :
    ReadsBefore more (readLengths? code count fuel lengths) := by
  induction fuel generalizing lengths with
  | zero =>
    intro bits value rest read
    cases read
  | succ fuel ih =>
    intro bits value rest read
    simp only [readLengths?] at read ⊢
    split at read
    · cases read
    · rename_i room
      rw [if_neg room]
      split at read
      · rename_i full
        cases read
        rw [if_pos full]
      · rename_i open'
        rw [if_neg open']
        simp only [Option.bind_eq_bind, Option.bind_eq_some_iff, Prod.exists] at read ⊢
        obtain ⟨symbol, behind, decoded, read⟩ := read
        refine ⟨symbol, _, decode_before code decoded, ?_⟩
        split at read
        · rename_i plain
          rw [if_pos plain]
          exact ih _ read
        · rename_i repeats
          rw [if_neg repeats]
          generalize (if symbol = 16 then (2, 3) else if symbol = 17 then (3, 3) else (7, 11) :
            Nat × Nat) = range at read ⊢
          have repeated {length : Nat}
              (read : ((takeNumber? range.1 behind).bind fun found => readLengths? code count fuel
                (List.replicate (range.2 + found.1) length ++ lengths) found.2) =
                  some (value, rest)) :
              ((takeNumber? range.1 (behind ++ more)).bind fun found =>
                readLengths? code count fuel
                  (List.replicate (range.2 + found.1) length ++ lengths) found.2) =
                    some (value, rest ++ more) := by
            simp only [Option.bind_eq_some_iff, Prod.exists] at read ⊢
            obtain ⟨times, behindTimes, taken, read⟩ := read
            exact ⟨times, _, takeNumber_before range.1 taken, ih _ read⟩
          split at read
          · rename_i again
            rw [if_pos again]
            obtain ⟨length, held, read⟩ := Option.bind_eq_some_iff.mp read
            exact Option.bind_eq_some_iff.mpr ⟨length, held, repeated read⟩
          · rename_i zeros
            rw [if_neg zeros]
            exact repeated read

theorem readTriples_before (count : Nat) : ReadsBefore more (readTriples? count) := by
  induction count with
  | zero =>
    intro bits value rest read
    cases read
    rfl
  | succ count ih =>
    intro bits value rest read
    simp only [readTriples?, Option.bind_eq_bind, Option.bind_eq_some_iff, Prod.exists,
      Option.pure_def] at read ⊢
    obtain ⟨number, behind, first, numbers, last, others, result⟩ := read
    cases result
    exact ⟨number, _, takeNumber_before 3 first, numbers, _, ih others, rfl⟩

theorem readCodes_before : ReadsBefore more readCodes? := by
  intro bits value rest read
  simp only [readCodes?, Option.bind_eq_bind, Option.bind_eq_some_iff, Prod.exists] at read ⊢
  obtain ⟨symbolCount, behindSymbols, symbols, distanceCount, behindDistances, distances,
    orderCount, behindOrder, orders, read⟩ := read
  refine ⟨symbolCount, _, takeNumber_before 5 symbols, distanceCount, _,
    takeNumber_before 5 distances, orderCount, _, takeNumber_before 4 orders, ?_⟩
  split at read
  · cases read
  · rename_i room
    rw [if_neg room]
    simp only [Option.bind_eq_some_iff, Prod.exists, Option.pure_def] at read ⊢
    obtain ⟨ordered, behindTriples, triples, code, coded, lengths, behindLengths, listed,
      symbolCode, symbolsCoded, distanceCode, distancesCoded, result⟩ := read
    cases result
    exact ⟨ordered, _, readTriples_before _ triples, code, coded, lengths, _,
      readLengths_before _ _ _ _ listed, symbolCode, symbolsCoded, distanceCode, distancesCoded,
      rfl⟩

/-- Whole bytes behind some bits leave the place of the next whole byte as it is. -/
theorem align_before (whole : more.length % 8 = 0) (bits : List Bool) :
    align (bits ++ more) = align bits ++ more := by
  have same : (bits.length + more.length) % 8 = bits.length % 8 := by omega
  rw [align, List.length_append, same, List.drop_append_of_le_length (Nat.mod_le _ _), align]

theorem readStored_before (whole : more.length % 8 = 0) (output : Array UInt8) :
    ReadsBefore more (readStored? output) := by
  intro bits value rest read
  simp only [readStored?, Option.bind_eq_bind, Option.bind_eq_some_iff, Prod.exists,
    align_before whole] at read ⊢
  obtain ⟨count, behindCount, counted, check, behindCheck, checked, read⟩ := read
  refine ⟨count, _, takeNumber_before 16 counted, check, _, takeNumber_before 16 checked, ?_⟩
  split at read
  · cases read
  · rename_i sound
    rw [if_neg sound]
    simp only [Option.bind_eq_some_iff, Prod.exists, Option.pure_def] at read ⊢
    obtain ⟨bytes, last, taken, result⟩ := read
    cases result
    exact ⟨bytes, _, takeBytes_before count taken, rfl⟩

/-- Blocks are read before whole bytes with at least the same fuel. -/
theorem readBlocks_before (whole : more.length % 8 = 0) {fuel fuel' : Nat} (enough : fuel ≤ fuel')
    {output result : Array UInt8} {bits rest : List Bool}
    (read : readBlocks? fuel output bits = some (result, rest)) :
    readBlocks? fuel' output (bits ++ more) = some (result, rest ++ more) := by
  induction fuel generalizing fuel' output bits with
  | zero => cases read
  | succ fuel ih =>
    obtain ⟨fuel', rfl⟩ := Nat.exists_eq_add_of_le' (Nat.le_of_add_left_le enough : 1 ≤ fuel')
    have fewer : fuel ≤ fuel' := Nat.le_of_succ_le_succ enough
    simp only [readBlocks?, Option.bind_eq_bind, Option.bind_eq_some_iff, Prod.exists] at read ⊢
    obtain ⟨last, behindLast, ended, kind, behindKind, sort, read⟩ := read
    refine ⟨last, _, takeNumber_before 1 ended, kind, _, takeNumber_before 2 sort, ?_⟩
    have longer (bits : List Bool) : bits.length + 1 ≤ (bits ++ more).length + 1 := by
      rw [List.length_append]
      omega
    have onward {extended : Array UInt8} {behind : List Bool}
        (read : (if last = 1 then some (extended, behind) else readBlocks? fuel extended behind) =
          some (result, rest)) :
        (if last = 1 then some (extended, behind ++ more)
          else readBlocks? fuel' extended (behind ++ more)) = some (result, rest ++ more) := by
      split at read
      · rename_i final
        cases read
        rw [if_pos final]
      · rename_i between
        rw [if_neg between]
        exact ih fewer read
    split at read
    · simp only [Option.bind_eq_some_iff, Prod.exists] at read ⊢
      obtain ⟨extended, behind, block, read⟩ := read
      exact ⟨extended, _, readStored_before whole _ block, onward read⟩
    · simp only [Option.bind_eq_some_iff, Prod.exists] at read ⊢
      obtain ⟨codes, fixed, extended, behind, block, read⟩ := read
      exact ⟨codes, fixed, extended, _, readSymbols_before codes (longer _) block, onward read⟩
    · simp only [Option.bind_eq_some_iff, Prod.exists] at read ⊢
      obtain ⟨codes, behindCodes, own, extended, behind, block, read⟩ := read
      exact ⟨codes, _, readCodes_before own, extended, _,
        readSymbols_before codes (longer _) block, onward read⟩
    · cases read

theorem inflate_before (whole : more.length % 8 = 0) : ReadsBefore more inflate? := by
  intro bits value rest read
  simp only [inflate?, Option.map_eq_some_iff, Prod.exists] at read ⊢
  obtain ⟨output, behind, blocks, result⟩ := read
  cases result
  refine ⟨output, _, readBlocks_before whole ?_ blocks, rfl⟩
  rw [List.length_append]
  omega

end

/-! ## Members -/

/-- The data of the member at the front of a file, and the bits behind the member. -/
def readMember? (bytes : List UInt8) : Option (List UInt8 × List Bool) := do
  let body ← skipHeader? bytes
  let (data, rest) ← inflate? (bitsOf body)
  let (sum, rest) ← takeBytes? 4 (align rest)
  let (size, rest) ← takeBytes? 4 rest
  if littleEndian sum = (checksum data).toNat ∧ littleEndian size = data.length % UInt32.size then
    some (data, rest)
  else none

/-- A member that holds these data: reading it takes all of its bits. -/
def Member (member data : List UInt8) : Prop := readMember? member = some (data, [])

/-- The data of a file are those of the member at its front. -/
theorem decompress_eq (bytes : List UInt8) :
    decompress? bytes = (readMember? bytes).map Prod.fst := by
  simp only [decompress?, readMember?, Option.bind_eq_bind]
  cases skipHeader? bytes with
  | none => rfl
  | some body =>
    simp only [Option.bind_some]
    cases inflate? (bitsOf body) with
    | none => rfl
    | some inflated =>
      obtain ⟨data, rest⟩ := inflated
      simp only [Option.bind_some]
      cases takeBytes? 4 (align rest) with
      | none => rfl
      | some summed =>
        simp only [Option.bind_some]
        cases takeBytes? 4 summed.2 with
        | none => rfl
        | some sized =>
          simp only [Option.bind_some]
          split <;> rfl

theorem bitsOf_append (bytes more : List UInt8) :
    bitsOf (bytes ++ more) = bitsOf bytes ++ bitsOf more := List.flatMap_append

theorem length_bitsOf (bytes : List UInt8) : (bitsOf bytes).length = 8 * bytes.length := by
  induction bytes with
  | nil => rfl
  | cons byte rest ih =>
    rw [bitsOf, List.flatMap_cons, List.length_append, List.length_cons]
    rw [bitsOf] at ih
    simp only [byteBits, List.length_map, List.length_range, ih]
    omega

theorem skipText_before {bytes rest : List UInt8} (more : List UInt8)
    (skipped : skipText? bytes = some rest) : skipText? (bytes ++ more) = some (rest ++ more) := by
  induction bytes with
  | nil => cases skipped
  | cons byte others ih =>
    simp only [skipText?, List.cons_append] at skipped ⊢
    split at skipped
    · rename_i ends
      cases skipped
      rw [if_pos ends]
    · rename_i goesOn
      rw [if_neg goesOn]
      exact ih skipped

theorem skipSized_before {bytes rest : List UInt8} (more : List UInt8)
    (skipped : skipSized? bytes = some rest) :
    skipSized? (bytes ++ more) = some (rest ++ more) := by
  match bytes with
  | [] | [_] => cases skipped
  | a :: b :: others =>
    simp only [skipSized?, List.cons_append] at skipped ⊢
    split at skipped
    · rename_i room
      cases skipped
      rw [if_pos (by rw [List.length_append]; omega), List.drop_append_of_le_length room]
    · cases skipped

/-- Passes over a part of the header that may be missing. -/
def skipPart (present : Bool) (skip : List UInt8 → Option (List UInt8)) (bytes : List UInt8) :
    Option (List UInt8) :=
  if present then skip bytes else some bytes

/-- Passes over the checksum of the header, if there is one, and verifies it. -/
def skipCheck (present : Bool) (bytes rest : List UInt8) : Option (List UInt8) :=
  if present then
    match rest with
    | a :: b :: behind =>
      if littleEndian [a, b] =
          (checksum (bytes.take (bytes.length - rest.length))).toNat % UInt16.size then
        some behind
      else none
    | _ => none
  else some rest

private theorem same_on_bytes {α : Type} {f g : List UInt8 → α} (none : f [] = g [])
    (one : ∀ a, f [a] = g [a]) (more : ∀ a b rest, f (a :: b :: rest) = g (a :: b :: rest)) :
    f = g := by
  funext bytes
  match bytes with
  | [] => exact none
  | [a] => exact one a
  | a :: b :: rest => exact more a b rest

/-- A header is ten bytes and the parts that its flags name, in their order. -/
theorem skipHeader_eq (flags a b c d e f : UInt8) (body : List UInt8) :
    skipHeader? (0x1F :: 0x8B :: 8 :: flags :: a :: b :: c :: d :: e :: f :: body) =
      if flags.toNat.testBit 5 || flags.toNat.testBit 6 || flags.toNat.testBit 7 then none
      else
        (skipPart (flags.toNat.testBit 2) skipSized? body).bind fun rest =>
          (skipPart (flags.toNat.testBit 3) skipText? rest).bind fun rest =>
            (skipPart (flags.toNat.testBit 4) skipText? rest).bind fun rest =>
              skipCheck (flags.toNat.testBit 1)
                (0x1F :: 0x8B :: 8 :: flags :: a :: b :: c :: d :: e :: f :: body) rest := by
  -- the check is the same function of what stands before it, seen by the count of its bytes
  have ends {found : Option (List UInt8)} {f g : List UInt8 → Option (List UInt8)}
      (same : f = g) : found.bind f = found.bind g := by rw [same]
  simp only [skipHeader?]
  refine ite_congr rfl (fun _ => rfl) fun _ => ?_
  cases flags.toNat.testBit 2 <;> cases flags.toNat.testBit 3 <;>
    cases flags.toNat.testBit 4 <;>
    simp only [skipPart, if_true, Bool.false_eq_true, if_false, Option.bind_eq_bind]
  all_goals
    refine ends (funext fun rest => ends (funext fun rest => ends ?_))
    exact same_on_bytes rfl (fun _ => rfl) fun _ _ _ => rfl

theorem skipPart_before {present : Bool} {skip : List UInt8 → Option (List UInt8)}
    {bytes rest : List UInt8} (more : List UInt8)
    (before : skip bytes = some rest → skip (bytes ++ more) = some (rest ++ more))
    (skipped : skipPart present skip bytes = some rest) :
    skipPart present skip (bytes ++ more) = some (rest ++ more) := by
  cases present with
  | false =>
    cases skipped
    rfl
  | true => exact before skipped

theorem skipCheck_before {present : Bool} {bytes rest behind : List UInt8} (more : List UInt8)
    (skipped : skipCheck present bytes rest = some behind) :
    skipCheck present (bytes ++ more) (rest ++ more) = some (behind ++ more) := by
  cases present with
  | false =>
    cases skipped
    rfl
  | true =>
    have header : (bytes ++ more).take ((bytes ++ more).length - (rest ++ more).length) =
        bytes.take (bytes.length - rest.length) := by
      rw [List.length_append, List.length_append, Nat.add_sub_add_right,
        List.take_append_of_le_length (Nat.sub_le _ _)]
    match rest with
    | [] | [_] => cases skipped
    | a :: b :: others =>
      rw [List.cons_append, List.cons_append] at header ⊢
      simp only [skipCheck, if_true, header] at skipped ⊢
      split at skipped
      · rename_i sound
        cases skipped
        rw [if_pos sound]
      · cases skipped

/-- A header is passed over in the same way whatever stands behind it. -/
theorem skipHeader_before {bytes rest : List UInt8} (more : List UInt8)
    (skipped : skipHeader? bytes = some rest) :
    skipHeader? (bytes ++ more) = some (rest ++ more) := by
  have shape : ∃ flags a b c d e f body,
      bytes = 0x1F :: 0x8B :: 8 :: flags :: a :: b :: c :: d :: e :: f :: body := by
    unfold skipHeader? at skipped
    split at skipped
    · exact ⟨_, _, _, _, _, _, _, _, rfl⟩
    · cases skipped
  obtain ⟨flags, a, b, c, d, e, f, body, rfl⟩ := shape
  rw [skipHeader_eq] at skipped
  simp only [List.cons_append]
  rw [skipHeader_eq]
  split at skipped
  · cases skipped
  · rename_i usual
    rw [if_neg usual]
    simp only [Option.bind_eq_some_iff] at skipped ⊢
    obtain ⟨first, extra, second, name, third, comment, check⟩ := skipped
    have checked := skipCheck_before more check
    exact ⟨first ++ more, skipPart_before more (skipSized_before more) extra, second ++ more,
      skipPart_before more (skipText_before more) name, third ++ more,
      skipPart_before more (skipText_before more) comment, checked⟩

/-- The member at the front of a file is read in the same way whatever stands behind. -/
theorem readMember_before {bytes data : List UInt8} {rest : List Bool} (more : List UInt8)
    (read : readMember? bytes = some (data, rest)) :
    readMember? (bytes ++ more) = some (data, rest ++ bitsOf more) := by
  have whole : (bitsOf more).length % 8 = 0 := by
    rw [length_bitsOf]
    omega
  simp only [readMember?, Option.bind_eq_bind, Option.bind_eq_some_iff, Prod.exists] at read ⊢
  obtain ⟨body, header, inflated, behindData, compressed, sum, behindSum, summed, size,
    behindSize, sized, sound⟩ := read
  refine ⟨body ++ more, skipHeader_before more header, inflated, behindData ++ bitsOf more, ?_, sum,
    behindSum ++ bitsOf more, ?_, size, behindSize ++ bitsOf more, takeBytes_before 4 sized, ?_⟩
  · rw [bitsOf_append]
    exact inflate_before whole compressed
  · rw [align_before whole]
    exact takeBytes_before 4 summed
  · split at sound
    · rename_i verified
      cases sound
      rw [if_pos verified]
    · cases sound

/-- The data of a file are those of its first member, whatever stands behind it. -/
theorem decompress_first {member data : List UInt8} (holds : Member member data)
    (more : List UInt8) : decompress? (member ++ more) = some data := by
  rw [decompress_eq, readMember_before more holds]
  rfl

/-- A member begins with the bytes that compressed data are known by. -/
theorem magic_of_member {member data : List UInt8} (holds : Member member data)
    (more : List UInt8) : magic.isPrefixOf (member ++ more) = true := by
  simp only [Member, readMember?, Option.bind_eq_bind, Option.bind_eq_some_iff] at holds
  obtain ⟨body, header, -⟩ := holds
  unfold skipHeader? at header
  split at header
  · simp [magic, List.isPrefixOf]
  · cases header

end ValuePath.GzipMembers
