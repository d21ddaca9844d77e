import ValuePath.Proofs.FlowScalars
import ValuePath.Yaml.Scan

/-! How a YAML text without blocks is taken apart, one token after the other. A
scan outside of blocks never needs a key, so that it can give up every possible
key; what it has read is known by the level of its brackets and by its tokens. -/
namespace ValuePath.ScanSteps
open Yaml FlowScalars JsonGrammar

/-- The scan stands outside of blocks before the rest of a text, inside of this
many brackets and behind these tokens, where a key may begin or not. -/
structure Spot (scan : Scan) (allowed : Bool) (level : Nat) (rest : List Char)
    (tokens : List Token) : Prop where
  before : scan.cursor.rest = rest
  readable : scan.readable = none
  long : rest.length ≤ scan.size
  indent : scan.indent = -1
  indents : scan.indents = []
  keyAllowed : scan.keyAllowed = allowed
  nested : scan.keys.length = level + 1
  optional : ∀ key ∈ scan.keys, ∀ possible ∈ key, possible.required = false
  behind : scan.tokens.toList = tokens

/-- A possible key, unless it reaches too far. -/
def fresh (mark : Mark) (key : Option PossibleKey) : Option PossibleKey :=
  if key.any (Scan.isStale mark) then none else key

/-- The scan without the possible keys that reach too far. -/
def refreshed (scan : Scan) : Scan :=
  { scan with keys := scan.keys.map (fresh scan.cursor.mark) }

/-- The scan behind some blanks. -/
def moved (scan : Scan) (blanks tail : List Char) : Scan :=
  { scan with cursor := ⟨scan.cursor.mark.forward blanks, tail⟩ }

/-- Blanks that are passed over: spaces, and tabs where no key may begin. -/
def Passable (allowed : Bool) (level : Nat) (blanks : List Char) : Prop :=
  ∀ c ∈ blanks, c = ' ' ∨ (c = '\t' ∧ (0 < level ∨ allowed = false))

/-- What a token may begin with. -/
def Visible (tail : List Char) : Prop :=
  ∀ c ∈ tail.head?, isGap c = false ∧ c ≠ '#' ∧ c ≠ byteOrderMark

section Steps
variable {scan : Scan} {allowed : Bool} {level : Nat} {rest : List Char} {tokens : List Token}

theorem Spot.inFlow (spot : Spot scan allowed level rest tokens) :
    scan.inFlow = decide (0 < level) := by
  rw [Scan.inFlow, spot.nested]
  simp

theorem Spot.size (spot : Spot scan allowed level rest tokens) :
    scan.tokens.size = tokens.length := by
  rw [scan.tokens.size_eq, ← spot.behind, TokenLog.toList, List.length_reverse]

theorem Spot.latest {token : Token} (spot : Spot scan allowed level rest (tokens ++ [token])) :
    scan.tokens.latest.head? = some token := by
  have reversed := congrArg List.reverse spot.behind
  rw [TokenLog.toList, List.reverse_reverse, List.reverse_append] at reversed
  rw [reversed]
  rfl

theorem Spot.canRead (spot : Spot scan allowed level rest tokens) (count : Nat) :
    scan.canRead count = true := by
  rw [Scan.canRead, spot.readable]
  rfl

theorem fresh_optional {mark : Mark} {key : Option PossibleKey}
    (optional : ∀ possible ∈ key, possible.required = false) :
    ∀ possible ∈ fresh mark key, possible.required = false := by
  unfold fresh
  split
  · simp
  · exact optional

theorem Spot.refreshed (spot : Spot scan allowed level rest tokens) :
    Spot (refreshed scan) allowed level rest tokens :=
  { spot with
    nested := by rw [ScanSteps.refreshed, List.length_map, spot.nested]
    optional := by
      intro key member
      obtain ⟨held, before, rfl⟩ := List.mem_map.mp member
      exact fresh_optional (spot.optional held before) }

theorem Spot.moved {blanks tail : List Char}
    (spot : Spot scan allowed level (blanks ++ tail) tokens) :
    Spot (moved scan blanks tail) allowed level tail tokens :=
  { spot with
    before := rfl
    long := by
      have long := spot.long
      rw [List.length_append] at long
      exact Nat.le_of_add_left_le long }

/-- Keys outside of blocks are given up without harm. -/
theorem dropStaleKeys_eq (spot : Spot scan allowed level rest tokens) :
    scan.dropStaleKeys = some (refreshed scan) := by
  have harmless : (scan.keys.any fun key =>
      key.any (Scan.isStale scan.cursor.mark) && key.any (·.required)) = false := by
    rw [List.any_eq_false]
    intro key member
    cases key with
    | none => simp
    | some possible => simp [spot.optional _ member possible rfl]
  rw [Scan.dropStaleKeys]
  simp only [harmless]
  rfl

theorem refreshed_of_drop {next : Scan} (dropped : scan.dropStaleKeys = some next) :
    next = refreshed scan := by
  rw [Scan.dropStaleKeys] at dropped
  split at dropped
  · cases dropped
  · cases dropped
    rfl

theorem closeBlocks_eq (spot : Spot scan allowed level rest tokens) (column : Int) :
    scan.closeBlocks column = scan := by
  rw [Scan.closeBlocks]
  split
  · rfl
  · rw [spot.indent, spot.indents, Scan.closeFrom, ← spot.indent, ← spot.indents]

/-- The blanks before a token are passed over, and no more. -/
theorem skipBlanks_eq {blanks tail : List Char}
    (spot : Spot scan allowed level (blanks ++ tail) tokens)
    (passable : Passable allowed level blanks) (visible : Visible tail) :
    scan.cursor.skipWhile (fun c => c == ' ' || (c == '\t' && (scan.inFlow || !scan.keyAllowed))) =
      ⟨scan.cursor.mark.forward blanks, tail⟩ := by
  have taken : scan.cursor.rest.takeWhile
      (fun c => c == ' ' || (c == '\t' && (scan.inFlow || !scan.keyAllowed))) = blanks := by
    rw [spot.before, spot.inFlow, spot.keyAllowed]
    rw [List.takeWhile_append_of_pos]
    · cases tail with
      | nil => simp
      | cons c more =>
        have gap := (visible c rfl).1
        simp only [isGap, isSpaceOrTab, Bool.or_eq_false_iff] at gap
        simp [gap.1.1, gap.1.2]
    · intro c member
      rcases passable c member with rfl | ⟨rfl, inside | unkeyed⟩
      · simp
      · simp [inside]
      · simp [unkeyed]
  rw [Cursor.skipWhile, Cursor.takeWhile, taken]
  exact skip_append spot.before

theorem toNextToken_eq {blanks tail : List Char}
    (spot : Spot scan allowed level (blanks ++ tail) tokens)
    (passable : Passable allowed level blanks) (visible : Visible tail) (fuel : Nat) :
    scan.toNextToken (fuel + 1) = moved scan blanks tail := by
  have unmarked : scan.cursor.sees byteOrderMark = false := by
    rw [Cursor.sees, spot.before]
    cases blanks with
    | nil =>
      cases tail with
      | nil => rfl
      | cons c more => simpa using (visible c rfl).2.2
    | cons c more =>
      rcases passable c List.mem_cons_self with rfl | ⟨rfl, -⟩ <;> rfl
  have uncommented : Cursor.sees ⟨scan.cursor.mark.forward blanks, tail⟩ '#' = false := by
    cases tail with
    | nil => rfl
    | cons c more => simpa [Cursor.sees] using (visible c rfl).2.1
  have unbroken : tail.head?.any isBreak = false := by
    cases tail with
    | nil => rfl
    | cons c more =>
      have gap := (visible c rfl).1
      rw [isGap, Bool.or_eq_false_iff] at gap
      simpa using gap.2
  rw [Scan.toNextToken]
  simp only [unmarked, Bool.and_false, Bool.false_eq_true, if_false,
    skipBlanks_eq spot passable visible, uncommented, unbroken]
  rfl

/-- A token is fetched from behind the blanks before it. -/
theorem fetch_eq {blanks tail : List Char}
    (spot : Spot scan allowed level (blanks ++ tail) tokens)
    (passable : Passable allowed level blanks) (visible : Visible tail) {next : Scan}
    (here : (refreshed (moved scan blanks tail)).fetchHere = some next)
    (arrived : Spot next allowed' level' rest' tokens') : scan.fetch = some (refreshed next) := by
  have placed := spot.moved
  have ready := placed.refreshed
  rw [Scan.fetch, toNextToken_eq spot passable visible, dropStaleKeys_eq placed]
  simp [ready.canRead, closeBlocks_eq ready, here, arrived.canRead, dropStaleKeys_eq arrived]

/-! ## Changes of a scan -/

theorem Spot.push (spot : Spot scan allowed level rest tokens) (token : Token) :
    Spot (scan.push token) allowed level rest (tokens ++ [token]) :=
  { spot with behind := by rw [Scan.push, TokenLog.toList_push, spot.behind] }

theorem Spot.skip {c : Char} {more : List Char}
    (spot : Spot scan allowed level (c :: more) tokens) :
    Spot (scan.skip 1) allowed level more tokens := by
  have skipped : scan.cursor.skip 1 = ⟨scan.cursor.mark.forward [c], more⟩ := by
    rw [Cursor.skip, spot.before]
    rfl
  have long := spot.long
  exact { spot with
    before := by rw [Scan.skip, skipped]
    long := Nat.le_of_succ_le long }

theorem Spot.setKey {key : Option PossibleKey} (spot : Spot scan allowed level rest tokens)
    (optional : ∀ possible ∈ key, possible.required = false) :
    Spot (scan.setKey key) allowed level rest tokens :=
  { spot with
    nested := by
      have nested := spot.nested
      rw [Scan.setKey, List.length_cons, List.length_tail]
      omega
    optional := by
      intro other member
      rcases List.mem_cons.mp member with rfl | outer
      · exact optional
      · exact spot.optional other (List.mem_of_mem_tail outer) }

theorem Spot.allow (spot : Spot scan allowed level rest tokens) (now : Bool) :
    Spot { scan with keyAllowed := now } now level rest tokens :=
  { spot with keyAllowed := rfl }

/-- Outside of blocks a possible key can always be given up. -/
theorem dropKey_exists (spot : Spot scan allowed level rest tokens) :
    ∃ next, scan.dropKey = some next ∧ Spot next allowed level rest tokens ∧
      next.cursor = scan.cursor ∧ next.size = scan.size := by
  cases current : scan.currentKey with
  | none => exact ⟨scan, by rw [Scan.dropKey, current], spot, rfl, rfl⟩
  | some key =>
    have member : some key ∈ scan.keys := by
      rw [Scan.currentKey, Option.join_eq_some_iff] at current
      exact List.mem_of_mem_head? current
    have optional := spot.optional _ member key rfl
    refine ⟨scan.setKey none, ?_, spot.setKey (by simp), rfl, rfl⟩
    rw [Scan.dropKey, current]
    simp [optional]

/-- A key that may begin here is noted with its place. -/
theorem noteKey_exists (spot : Spot scan allowed level rest tokens) :
    ∃ next, scan.noteKey = some next ∧ Spot next allowed level rest tokens ∧
      next.cursor = scan.cursor ∧ next.size = scan.size ∧
      (allowed = true → next.currentKey = some ⟨false, tokens.length, scan.cursor.mark⟩) := by
  have optional : (!scan.inFlow && scan.indent == (scan.column : Int)) = false := by
    have outside : (scan.indent == (scan.column : Int)) = false := by
      rw [spot.indent, beq_eq_false_iff_ne]
      omega
    rw [outside, Bool.and_false]
  cases allowed with
  | false =>
    exact ⟨scan, by rw [Scan.noteKey, spot.keyAllowed]; rfl, spot, rfl, rfl, by simp⟩
  | true =>
    obtain ⟨dropped, drops, kept, cursor, size⟩ := dropKey_exists spot
    refine ⟨dropped.setKey (some ⟨false, tokens.length, scan.cursor.mark⟩), ?_,
      kept.setKey (by simp), cursor, size, fun _ => rfl⟩
    rw [Scan.noteKey, spot.keyAllowed, drops, optional, spot.size]
    rfl

/-! ## Tokens -/

/-- A bracket that opens, with its token. -/
inductive Opens : Char → Token → Prop where
  | sequence : Opens '[' .flowSequenceStart
  | mapping : Opens '\x7b' .flowMappingStart

/-- A bracket that closes, with its token. -/
inductive Closes : Char → Token → Prop where
  | sequence : Closes ']' .flowSequenceEnd
  | mapping : Closes '\x7d' .flowMappingEnd

theorem fetchHere_opening {c : Char} {token : Token} {more : List Char} (opens : Opens c token)
    (spot : Spot scan allowed level (c :: more) tokens) :
    ∃ next, scan.fetchHere = some next ∧ Spot next true (level + 1) more (tokens ++ [token]) := by
  obtain ⟨noted, notes, kept, cursor, -, -⟩ := noteKey_exists spot
  have inner : Spot { noted with keys := none :: noted.keys, keyAllowed := true } true (level + 1)
      (c :: more) tokens :=
    { kept with
      keyAllowed := rfl
      nested := by rw [List.length_cons, kept.nested]
      optional := List.forall_mem_cons.mpr ⟨by simp, kept.optional⟩ }
  refine ⟨_, ?_, (inner.push token).skip⟩
  have fetches : scan.fetchHere = scan.fetchFlowStart token := by
    cases opens <;> simp [Scan.fetchHere, spot.before, Cursor.seesMarker]
  rw [fetches, Scan.fetchFlowStart, notes]
  rfl

theorem fetchHere_closing {c : Char} {token : Token} {more : List Char} (closes : Closes c token)
    (spot : Spot scan allowed (level + 1) (c :: more) tokens) :
    ∃ next, scan.fetchHere = some next ∧ Spot next false level more (tokens ++ [token]) := by
  obtain ⟨dropped, drops, kept, cursor, -⟩ := dropKey_exists spot
  have outer : Spot { dropped with keys := dropped.keys.tail, keyAllowed := false } false level
      (c :: more) tokens :=
    { kept with
      keyAllowed := rfl
      nested := by rw [List.length_tail, kept.nested, Nat.add_sub_cancel]
      optional := fun key member => kept.optional key (List.mem_of_mem_tail member) }
  refine ⟨_, ?_, (outer.push token).skip⟩
  have fetches : scan.fetchHere = scan.fetchFlowEnd token := by
    cases closes <;> simp [Scan.fetchHere, spot.before, Cursor.seesMarker]
  have inFlow : dropped.inFlow = true := by simp [kept.inFlow]
  rw [fetches, Scan.fetchFlowEnd, drops]
  simp only [Option.bind_eq_bind, Option.bind_some, inFlow, if_true]
  rfl

theorem fetchHere_comma {more : List Char} (spot : Spot scan allowed level (',' :: more) tokens) :
    ∃ next, scan.fetchHere = some next ∧ Spot next true level more (tokens ++ [.flowEntry]) := by
  obtain ⟨dropped, drops, kept, cursor, -⟩ := dropKey_exists spot
  refine ⟨_, ?_, ((kept.allow true).push .flowEntry).skip⟩
  have fetches : scan.fetchHere = scan.fetchFlowEntry := by
    simp [Scan.fetchHere, spot.before, Cursor.seesMarker]
  rw [fetches, Scan.fetchFlowEntry, drops]
  rfl

theorem length_le_text (pieces : List Piece) :
    pieces.length ≤ (pieces.flatMap Piece.text).length := by
  induction pieces with
  | nil => exact Nat.le_refl _
  | cons piece others ih =>
    have positive : 1 ≤ piece.text.length := by cases piece <;> simp [Piece.text]
    rw [List.flatMap_cons, List.length_append, List.length_cons]
    omega

/-- A string is read whole, and its place is kept where a key may begin. -/
theorem fetchHere_quoted {pieces : List Piece} (shared : ∀ piece ∈ pieces, Shared piece)
    {more : List Char} (spot : Spot scan allowed level (quoted pieces ++ more) tokens) :
    ∃ next, scan.fetchHere = some next ∧
      Spot next false level more (tokens ++ [.scalar false (spelt pieces)]) ∧
      next.cursor.mark = scan.cursor.mark.forward (quoted pieces) ∧
      (allowed = true → next.currentKey = some ⟨false, tokens.length, scan.cursor.mark⟩) := by
  obtain ⟨noted, notes, kept, cursor, size, key⟩ := noteKey_exists spot
  have enough : pieces.length < noted.size + 1 := by
    have long := kept.long
    have longer := length_le_text pieces
    simp only [quoted, List.cons_append, List.length_cons, List.length_append] at long
    omega
  have read := readQuoted_pieces pieces shared kept.before enough
  have after : Spot { noted with
      cursor := ⟨noted.cursor.mark.forward (quoted pieces), more⟩, keyAllowed := false }
      false level more tokens := (kept.moved).allow false
  refine ⟨_, ?_, after.push (.scalar false (spelt pieces)), by rw [← cursor]; rfl, key⟩
  have fetches : scan.fetchHere = scan.fetchQuoted false := by
    simp [Scan.fetchHere, spot.before, quoted, Cursor.seesMarker]
  rw [fetches, Scan.fetchQuoted, notes]
  simp only [Option.bind_eq_bind, Option.bind_some, read]
  rfl

/-- What a word that stands plain begins with: a character that means nothing by
itself, or a dash before one that is no dash. -/
inductive StartsPlain : List Char → Prop where
  | char {c : Char} {rest : List Char} (gap : isGap c = false) (indicator : isIndicator c = false)
      (dot : c ≠ '.') : StartsPlain (c :: rest)
  | dash {d : Char} {rest : List Char} (gap : isGap d = false) (other : d ≠ '-') :
      StartsPlain ('-' :: d :: rest)

theorem StartsPlain.nonempty {word : List Char} (starts : StartsPlain word) : word ≠ [] := by
  cases starts <;> simp

theorem StartsPlain.unmarked {word more : List Char} (starts : StartsPlain word) {cursor : Cursor}
    (rest : cursor.rest = word ++ more) (c : Char) (marker : c = '-' ∨ c = '.') :
    cursor.seesMarker c = false := by
  rw [Cursor.seesMarker, rest]
  cases starts with
  | @char d rest gap indicator dot =>
    rcases marker with rfl | rfl
    · have dash : d ≠ '-' := by
        rintro rfl
        cases indicator
      simp [dash]
    · simp [dot]
  | dash gap other =>
    rcases marker with rfl | rfl <;> simp [other]

/-- A character that means nothing by itself begins a plain scalar, where no marker stands. -/
theorem fetchHere_char {c : Char} {more : List Char} (gap : isGap c = false)
    (indicator : isIndicator c = false) (before : scan.cursor.rest = c :: more)
    (dashes : scan.cursor.seesMarker '-' = false) (dots : scan.cursor.seesMarker '.' = false) :
    scan.fetchHere = scan.fetchPlain := by
  have apart := indicator
  simp only [isIndicator, List.contains_eq_mem, decide_eq_false_iff_not, List.mem_cons,
    List.not_mem_nil, or_false, not_or] at apart
  have plain : Scan.startsPlain scan.inFlow c more = true := by
    simp [Scan.startsPlain, gap, indicator]
  rw [Scan.fetchHere]
  simp only [before, dashes, dots]
  split <;> simp_all

theorem fetchHere_starts {word more : List Char} (starts : StartsPlain word)
    (spot : Spot scan allowed level (word ++ more) tokens) :
    scan.fetchHere = scan.fetchPlain := by
  have dashes := starts.unmarked spot.before '-' (.inl rfl)
  have dots := starts.unmarked spot.before '.' (.inr rfl)
  cases starts with
  | char gap indicator => exact fetchHere_char gap indicator spot.before dashes dots
  | @dash d rest gap other =>
    have together : atGap (d :: (rest ++ more)) = false := gap
    have unblank : isSpaceOrTab d = false := by
      rw [isGap, Bool.or_eq_false_iff] at gap
      exact gap.1
    simp [Scan.fetchHere, spot.before, dashes, dots, together, Scan.startsPlain, unblank]

/-- A word that stands plain is read with the blanks behind it. -/
theorem fetchHere_plain {word blanks tail : List Char} (starts : StartsPlain word)
    (solid : ∀ c ∈ word, Solid c) (all : ∀ c ∈ blanks, isSpaceOrTab c = true)
    (stops : Stops (decide (0 < level)) tail)
    (spot : Spot scan allowed level (word ++ (blanks ++ tail)) tokens) :
    ∃ next, scan.fetchHere = some next ∧
      Spot next false level tail (tokens ++ [.scalar true (String.ofList word)]) := by
  obtain ⟨noted, notes, kept, cursor, -, -⟩ := noteKey_exists spot
  have nonempty := starts.nonempty
  have unmarked : noted.cursor.seesAnyMarker = false := by
    rw [Cursor.seesAnyMarker, starts.unmarked kept.before '-' (.inl rfl),
      starts.unmarked kept.before '.' (.inr rfl), Bool.or_self]
  have enough : 2 ≤ noted.size + 1 := by
    have positive := List.length_pos_iff.mpr nonempty
    have long := kept.long
    rw [List.length_append] at long
    omega
  have read := readPlain_word nonempty solid all stops kept.before unmarked enough
  rw [← List.append_assoc] at kept
  have after : Spot { noted with
      cursor := ⟨noted.cursor.mark.forward (word ++ blanks), tail⟩, keyAllowed := false }
      false level tail tokens := (kept.moved).allow false
  refine ⟨_, ?_, after.push (.scalar true (String.ofList word))⟩
  have column : (noted.indent + 1).toNat = 0 := by
    rw [kept.indent]
    rfl
  rw [fetchHere_starts starts spot, Scan.fetchPlain, notes]
  simp only [Option.bind_eq_bind, Option.bind_some, column, kept.inFlow, read]
  rfl

/-- A colon behind a possible key makes it one. -/
theorem fetchHere_colon {before : List Token} {token : Token} {mark : Mark} {more : List Char}
    (spot : Spot scan allowed (level + 1) (':' :: more) (before ++ [token]))
    (current : scan.currentKey = some ⟨false, before.length, mark⟩) :
    ∃ next, scan.fetchHere = some next ∧
      Spot next false (level + 1) more (before ++ [.key, token, .value]) := by
  have inFlow : scan.inFlow = true := by simp [spot.inFlow]
  have inserted : (scan.tokens.insertAt before.length .key).toList = before ++ [.key, token] := by
    rw [TokenLog.toList_insertAt, spot.behind, List.take_left, List.drop_left]
  have keyed : Spot (scan.insertAt before.length .key) allowed (level + 1) (':' :: more)
      (before ++ [.key, token]) := { spot with behind := inserted }
  have cleared : Spot ((scan.insertAt before.length .key).setKey none) allowed (level + 1)
      (':' :: more) (before ++ [.key, token]) := keyed.setKey (by simp)
  have closed := (cleared.allow false).push .value
  rw [List.append_assoc] at closed
  refine ⟨_, ?_, closed.skip⟩
  have fetches : scan.fetchHere = scan.fetchValue := by
    simp [Scan.fetchHere, spot.before, Cursor.seesMarker, inFlow]
  have unopened : (scan.insertAt before.length .key).openBlock mark.column before.length
      .blockMappingStart = scan.insertAt before.length .key := by
    rw [Scan.openBlock, keyed.inFlow]
    simp
  rw [fetches, Scan.fetchValue, current]
  simp only [unopened]

/-- Nothing is left but the end of the text. -/
theorem fetchHere_end (spot : Spot scan allowed level [] tokens) :
    ∃ next, scan.fetchHere = some next ∧
      Spot next allowed level [] (tokens ++ [.streamEnd]) := by
  obtain ⟨dropped, drops, kept, -, -⟩ := dropKey_exists spot
  refine ⟨_, ?_, kept.push .streamEnd⟩
  rw [Scan.fetchHere, spot.before]
  simp only [Scan.fetchStreamEnd, closeBlocks_eq spot, drops]
  rfl

/-! ## Runs -/

/-- A run goes on from the one scan with the other, after no more rounds than
there are characters between them. -/
def Reaches (scan next : Scan) : Prop :=
  ∃ rounds, rounds + next.cursor.rest.length ≤ scan.cursor.rest.length ∧
    ∀ fuel, scan.run (rounds + fuel) = next.run fuel

theorem Reaches.trans {first second third : Scan} (front : Reaches first second)
    (back : Reaches second third) : Reaches first third := by
  obtain ⟨some_rounds, short, run⟩ := front
  obtain ⟨more_rounds, shorter, run'⟩ := back
  refine ⟨some_rounds + more_rounds, by omega, fun fuel => ?_⟩
  rw [Nat.add_assoc, run, run']

theorem reaches_of_fetch {next : Scan} {token : Token} (fetched : scan.fetch = some next)
    (spot : Spot scan allowed level rest tokens)
    (arrived : Spot next allowed' level' rest' (tokens' ++ [token]))
    (inside : token ≠ .streamEnd) (shorter : rest'.length < rest.length) : Reaches scan next := by
  refine ⟨1, ?_, fun fuel => ?_⟩
  · rw [spot.before, arrived.before]
    omega
  · rw [Nat.add_comm, Scan.run, fetched]
    simp [arrived.latest, inside]

/-- A token behind some blanks is fetched where it can be read. -/
theorem reaches_here {blanks tail : List Char} {token : Token}
    (spot : Spot scan allowed level (blanks ++ tail) tokens)
    (passable : Passable allowed level blanks) (visible : Visible tail)
    (here : ∀ placed, Spot placed allowed level tail tokens → ∃ next,
      placed.fetchHere = some next ∧ Spot next allowed' level' rest' (tokens' ++ [token]))
    (inside : token ≠ .streamEnd) (shorter : rest'.length < tail.length) :
    ∃ next, Reaches scan next ∧ Spot next allowed' level' rest' (tokens' ++ [token]) := by
  obtain ⟨next, fetched, arrived⟩ := here _ spot.moved.refreshed
  refine ⟨refreshed next, reaches_of_fetch (fetch_eq spot passable visible fetched arrived) spot
    arrived.refreshed inside ?_, arrived.refreshed⟩
  rw [List.length_append]
  omega

theorem reaches_opening {blanks more : List Char} {c : Char} {token : Token}
    (opens : Opens c token) (spot : Spot scan allowed level (blanks ++ c :: more) tokens)
    (passable : Passable allowed level blanks) :
    ∃ next, Reaches scan next ∧ Spot next true (level + 1) more (tokens ++ [token]) := by
  refine reaches_here spot passable ?_ (fun _ => fetchHere_opening opens) ?_ (by simp)
  · rintro _ ⟨⟩
    cases opens <;> decide
  · cases opens <;> simp

theorem reaches_closing {blanks more : List Char} {c : Char} {token : Token}
    (closes : Closes c token) (spot : Spot scan allowed (level + 1) (blanks ++ c :: more) tokens)
    (passable : Passable allowed (level + 1) blanks) :
    ∃ next, Reaches scan next ∧ Spot next false level more (tokens ++ [token]) := by
  refine reaches_here spot passable ?_ (fun _ => fetchHere_closing closes) ?_ (by simp)
  · rintro _ ⟨⟩
    cases closes <;> decide
  · cases closes <;> simp

theorem reaches_comma {blanks more : List Char}
    (spot : Spot scan allowed level (blanks ++ ',' :: more) tokens)
    (passable : Passable allowed level blanks) :
    ∃ next, Reaches scan next ∧ Spot next true level more (tokens ++ [.flowEntry]) := by
  refine reaches_here spot passable ?_ (fun _ => fetchHere_comma) (by simp) (by simp)
  rintro _ ⟨⟩
  decide

theorem not_stale (mark : Mark) {chars : List Char} (short : byteCount chars ≤ 1024)
    (position : Nat) : Scan.isStale (mark.forward chars) ⟨false, position, mark⟩ = false := by
  rw [Scan.isStale, forward_line, forward_index]
  simp
  omega

theorem currentKey_refreshed {key : PossibleKey} (current : scan.currentKey = some key)
    (near : Scan.isStale scan.cursor.mark key = false) :
    (refreshed scan).currentKey = some key := by
  cases keys : scan.keys with
  | nil => simp [Scan.currentKey, keys] at current
  | cons first outer =>
    have first_eq : first = some key := by simpa [Scan.currentKey, keys] using current
    simp [Scan.currentKey, refreshed, keys, first_eq, fresh, near]

/-- A string that a colon follows within 1024 bytes is a key. -/
theorem reaches_key {pieces : List Piece} (shared : ∀ piece ∈ pieces, Shared piece)
    {before beforeColon more : List Char}
    (spot : Spot scan true (level + 1) (before ++ (quoted pieces ++ (beforeColon ++ ':' :: more)))
      tokens)
    (passable : Passable true (level + 1) before)
    (passableColon : Passable false (level + 1) beforeColon)
    (short : byteCount (quoted pieces ++ beforeColon) ≤ 1024) :
    ∃ next, Reaches scan next ∧ Spot next false (level + 1) more
      (tokens ++ [.key, .scalar false (spelt pieces), .value]) := by
  have shortQuoted : byteCount (quoted pieces) ≤ 1024 := by
    rw [byteCount_append] at short
    exact Nat.le_of_add_right_le short
  -- The string is read, and its place stays that of a possible key.
  have visible : Visible (quoted pieces ++ (beforeColon ++ ':' :: more)) := by
    rintro _ ⟨⟩
    decide
  obtain ⟨string, stringHere, atString, mark, key⟩ :=
    fetchHere_quoted shared spot.moved.refreshed
  have stringFetched := fetch_eq spot passable visible stringHere atString
  have kept := currentKey_refreshed (key rfl) (by rw [mark]; exact not_stale _ shortQuoted _)
  -- The colon makes it a key.
  have visibleColon : Visible (':' :: more) := by
    rintro _ ⟨⟩
    decide
  have current : (refreshed (moved (refreshed string) beforeColon (':' :: more))).currentKey =
      some ⟨false, tokens.length, _⟩ :=
    currentKey_refreshed kept (by
      change Scan.isStale (string.cursor.mark.forward beforeColon) _ = false
      rw [mark, ← forward_append]
      exact not_stale _ short _)
  obtain ⟨colon, colonHere, atColon⟩ := fetchHere_colon atString.refreshed.moved.refreshed current
  have colonFetched := fetch_eq atString.refreshed passableColon visibleColon colonHere atColon
  have toString := reaches_of_fetch stringFetched spot atString.refreshed (by simp) (by
    simp only [List.length_append, quoted, List.length_cons]
    omega)
  have atValue : Spot (refreshed colon) false (level + 1) more
      ((tokens ++ [.key, .scalar false (spelt pieces)]) ++ [.value]) := by
    simpa using atColon.refreshed
  have toColon := reaches_of_fetch colonFetched atString.refreshed atValue (by simp) (by
    simp only [List.length_append, List.length_cons]
    omega)
  exact ⟨refreshed colon, toString.trans toColon, atColon.refreshed⟩

/-- At the end of a text the run gives all tokens. -/
theorem run_end {blanks : List Char} (spot : Spot scan allowed level blanks tokens)
    (passable : Passable allowed level blanks) (fuel : Nat) :
    scan.run (fuel + 1) = tokens ++ [.streamEnd] := by
  rw [← List.append_nil blanks] at spot
  obtain ⟨next, here, arrived⟩ := fetchHere_end spot.moved.refreshed
  have fetched := fetch_eq spot passable (by simp [Visible]) here arrived
  rw [Scan.run, fetched]
  simp [arrived.refreshed.latest, arrived.refreshed.behind]

end Steps

theorem readableEnd_none {text : List Char} (allowed : ∀ c ∈ text, isAllowed c = true)
    (start size : Nat) : readableEnd? start size text = none := by
  induction text generalizing start size with
  | nil => rfl
  | cons c rest ih =>
    have others := ih fun d member => allowed d (List.mem_cons_of_mem c member)
    rw [readableEnd?, allowed c List.mem_cons_self]
    split <;> simp [others]

/-- A text of allowed characters is scanned from its start. -/
theorem spot_start {text : List Char} (allowed : ∀ c ∈ text, isAllowed c = true) :
    Spot (Scan.start text) true 0 text [] where
  before := rfl
  readable := readableEnd_none allowed 0 0
  long := Nat.le_refl _
  indent := rfl
  indents := rfl
  keyAllowed := rfl
  nested := rfl
  optional := by simp [Scan.start]
  behind := rfl

/-- The tokens of a text are those up to a place behind which nothing but blanks
is left, and the end. -/
theorem tokens_of_reaches {text : List Char} {final : Scan} {allowed : Bool} {level : Nat}
    {blanks : List Char} {tokens : List Token} (reaches : Reaches (Scan.start text) final)
    (spot : Spot final allowed level blanks tokens) (passable : Passable allowed level blanks) :
    Token.ofText text = tokens ++ [.streamEnd] := by
  obtain ⟨rounds, short, run⟩ := reaches
  have length : (Scan.start text).cursor.rest.length = text.length := rfl
  obtain ⟨fuel, enough⟩ : ∃ fuel, text.length + 2 = rounds + (fuel + 1) :=
    ⟨text.length + 1 - rounds, by omega⟩
  rw [Token.ofText, enough, run, run_end spot passable]

end ValuePath.ScanSteps
