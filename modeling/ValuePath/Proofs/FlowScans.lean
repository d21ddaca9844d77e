import ValuePath.Proofs.FlowValues
import ValuePath.Proofs.ScalarRests
import ValuePath.Proofs.ScanLimits

/-! How far JSON text is scanned as YAML, whatever it holds. A run may stop anywhere, since not
all that JSON allows is YAML; but as long as it goes on, brackets, strings and words become the
tokens of a value. -/
namespace ValuePath.FlowScans
open Yaml JsonGrammar FlowScalars ScanSteps ScanLimits ScalarRests FlowValues
open JsonTokens (Parts isWord visible_source word_source)

/-- A run of the scan either never comes to the end of the text, or goes on from a scan
of this kind. -/
def Leads (scan : Scan) (arrives : Scan → Prop) : Prop :=
  ∀ fuel, .streamEnd ∉ scan.run fuel ∨ ∃ next rounds, arrives next ∧ scan.run fuel = next.run rounds

theorem Leads.bind {scan : Scan} {between arrives : Scan → Prop} (leads : Leads scan between)
    (later : ∀ next, between next → Leads next arrives) : Leads scan arrives := by
  intro fuel
  rcases leads fuel with unended | ⟨next, rounds, reached, same⟩
  · exact .inl unended
  · rcases later next reached rounds with unended | ⟨last, fewer, reaches, again⟩
    · exact .inl (same ▸ unended)
    · exact .inr ⟨last, fewer, reaches, same.trans again⟩

theorem Leads.imp {scan : Scan} {arrives further : Scan → Prop} (leads : Leads scan arrives)
    (weaker : ∀ next, arrives next → further next) : Leads scan further := by
  intro fuel
  rcases leads fuel with unended | ⟨next, rounds, reached, same⟩
  · exact .inl unended
  · exact .inr ⟨next, rounds, weaker next reached, same⟩

/-- Tokens that are given up in favour of a broken one do not end the text. -/
theorem unended_broken {scan : Scan} (unended : .streamEnd ∉ scan.tokens.toList) :
    .streamEnd ∉ scan.settled ++ [.broken] := by
  intro member
  rcases List.mem_append.mp member with settled | broken
  · exact unended (List.mem_of_mem_take settled)
  · cases List.mem_singleton.mp broken

/-- One token is fetched, if any can be. -/
theorem leads_of_fetch {scan : Scan} {arrives : Scan → Prop}
    (unended : .streamEnd ∉ scan.tokens.toList)
    (step : ∀ next, scan.fetch = some next →
      next.tokens.latest.head? ≠ some .streamEnd ∧ arrives next) : Leads scan arrives := by
  intro fuel
  cases fuel with
  | zero => exact .inl (unended_broken unended)
  | succ fuel =>
    rw [Scan.run]
    cases fetched : scan.fetch with
    | none => exact .inl (unended_broken unended)
    | some next =>
      obtain ⟨inside, reached⟩ := step next fetched
      exact .inr ⟨next, fuel, reached, by simp [inside]⟩

/-! ## Gaps before a token -/

section
variable {scan : Scan} {allowed : Bool} {level : Nat} {rest : List Char} {tokens : List Token}

/-- No token begins at a gap. -/
theorem fetchHere_gap {c : Char} (gap : isGap c = true) (begins : scan.cursor.rest = c :: rest) :
    scan.fetchHere = none := by
  have letters : c = ' ' ∨ c = '\t' ∨ c = '\n' ∨ c = '\r' ∨ c = '\u0085' ∨ c = '\u2028' ∨
      c = '\u2029' := by
    simpa [isGap, isSpaceOrTab, isBreak, or_assoc] using gap
  rw [Scan.fetchHere]
  rcases letters with rfl | rfl | rfl | rfl | rfl | rfl | rfl <;>
    simp [begins, Cursor.seesMarker, Scan.startsPlain, isGap, isSpaceOrTab, isBreak]

/-- What follows a gap is no comment and no byte order mark. -/
theorem head_of_gaps {gaps tail : List Char} (all : ∀ c ∈ gaps, isGap c = true)
    (visible : Visible tail) : ∀ c ∈ (gaps ++ tail).head?, c ≠ '#' ∧ c ≠ byteOrderMark := by
  cases gaps with
  | nil => exact fun c first => (visible c first).2
  | cons c others =>
    rintro _ ⟨⟩
    have gap := all c List.mem_cons_self
    constructor <;> (rintro rfl; cases gap)

theorem sees_of_gaps {gaps tail : List Char} (all : ∀ c ∈ gaps, isGap c = true)
    (visible : Visible tail) {cursor : Cursor} (rest : cursor.rest = gaps ++ tail) :
    cursor.sees '#' = false ∧ cursor.sees byteOrderMark = false := by
  have head := head_of_gaps all visible
  rw [← rest] at head
  rw [Cursor.sees, Cursor.sees]
  cases first : cursor.rest.head? with
  | none => exact ⟨rfl, rfl⟩
  | some c =>
    rw [first] at head
    exact ⟨by simpa using (head c rfl).1, by simpa using (head c rfl).2⟩

/-- The gaps that pass a test are passed over, if all that pass it are blanks. -/
theorem skipWhile_gaps {gaps tail : List Char} (visible : Visible tail) {test : Char → Bool}
    (narrow : ∀ c, test c = true → isSpaceOrTab c = true) {cursor : Cursor}
    (rest : cursor.rest = gaps ++ tail) :
    cursor.skipWhile test =
      ⟨cursor.mark.forward (gaps.takeWhile test), gaps.dropWhile test ++ tail⟩ := by
  have stops : tail.takeWhile test = [] := by
    cases tail with
    | nil => rfl
    | cons c more =>
      refine List.takeWhile_cons_of_neg fun blank => ?_
      have gap := (visible c rfl).1
      rw [isGap, narrow c blank] at gap
      cases gap
  have taken : (gaps ++ tail).takeWhile test = gaps.takeWhile test := by
    rw [List.takeWhile_append]
    split
    next whole =>
      rw [stops, List.append_nil]
      exact ((List.takeWhile_prefix test).eq_of_length whole).symm
    next => rfl
  have apart : gaps ++ tail = gaps.takeWhile test ++ (gaps.dropWhile test ++ tail) := by
    rw [← List.append_assoc, List.takeWhile_append_dropWhile]
  rw [Cursor.skipWhile, Cursor.takeWhile, rest, taken]
  exact skip_append (rest.trans apart)

/-- The blanks of one line are passed over, up to the end of the line, to what is no gap, or to
a tab that stands for an indentation. -/
theorem lineRest_eq {gaps tail : List Char}
    (spot : Spot scan allowed level (gaps ++ tail) tokens) (all : ∀ c ∈ gaps, isGap c = true)
    (visible : Visible tail) :
    ∃ blanks left, gaps = blanks ++ left ∧ (∀ c ∈ blanks, isSpaceOrTab c = true) ∧
      lineRest scan = ⟨scan.cursor.mark.forward blanks, left ++ tail⟩ := by
  let test (c : Char) : Bool := c == ' ' || (c == '\t' && (scan.inFlow || !scan.keyAllowed))
  have narrow (c : Char) (blank : test c = true) : isSpaceOrTab c = true := by
    simp only [test, Bool.or_eq_true, Bool.and_eq_true, beq_iff_eq] at blank
    rcases blank with rfl | ⟨rfl, -⟩ <;> rfl
  have passed := skipWhile_gaps visible narrow spot.before
  have unmarked := (sees_of_gaps all visible spot.before).2
  have uncommented := (sees_of_gaps
    (fun c member => all c ((List.dropWhile_suffix test).subset member)) visible
    (show (Cursor.mk (scan.cursor.mark.forward (gaps.takeWhile test))
      (gaps.dropWhile test ++ tail)).rest = _ from rfl)).1
  refine ⟨gaps.takeWhile test, gaps.dropWhile test, List.takeWhile_append_dropWhile.symm,
    fun c member => narrow c (List.mem_takeWhile_imp member), ?_⟩
  rw [lineRest]
  simp only [unmarked, Bool.and_false, Bool.false_eq_true, if_false]
  change (if (scan.cursor.skipWhile test).sees '#' then _ else scan.cursor.skipWhile test) = _
  rw [passed, uncommented]
  rfl

/-- A line break before what is no gap stands among the gaps. -/
theorem break_in_gaps {gaps tail : List Char} (visible : Visible tail)
    (ends : (gaps ++ tail).head?.any isBreak = true) :
    ∃ c later, gaps = c :: later ∧ isBreak c = true := by
  cases gaps with
  | cons c later => exact ⟨c, later, rfl, ends⟩
  | nil =>
    cases tail with
    | nil => cases ends
    | cons c more =>
      have gap := (visible c rfl).1
      rw [isGap, Bool.or_eq_false_iff] at gap
      have broken : isBreak c = true := ends
      rw [gap.2] at broken
      cases broken

/-- A line break among gaps leads to later ones. -/
theorem skipBreak_gaps {c : Char} (ends : isBreak c = true) {later tail : List Char}
    (visible : Visible tail) {cursor : Cursor} (rest : cursor.rest = c :: (later ++ tail)) :
    ∃ left, left <:+ later ∧ cursor.skipBreak.rest = left ++ tail := by
  rw [Cursor.skipBreak.eq_def, rest]
  split
  next same =>
    injection same with first same
    cases later with
    | nil =>
      have gap := (visible '\n' (by rw [show tail = _ from same]; rfl)).1
      cases gap
    | cons d others =>
      injection same with second same
      exact ⟨others, List.suffix_cons _ _, same.symm⟩
  next same =>
    injection same with first same
    subst first same
    exact ⟨later, List.suffix_rfl, by rw [if_pos ends]⟩
  next same => cases same

/-- Gaps are passed over, unless a tab stands for an indentation or the fuel does not suffice. A
key may begin behind them if it may begin before, and outside of brackets in every later line. -/
theorem toNextToken_gaps (fuel : Nat) {gaps tail : List Char}
    (spot : Spot scan allowed level (gaps ++ tail) tokens) (all : ∀ c ∈ gaps, isGap c = true)
    (visible : Visible tail) :
    ∃ left now, left <:+ gaps ∧ Spot (scan.toNextToken fuel) now level (left ++ tail) tokens ∧
      (scan.toNextToken fuel).keys = scan.keys ∧
      (allowed = true ∨ left = [] ∧ level = 0 ∧ gaps.any isBreak = true → now = true) := by
  induction fuel generalizing scan allowed gaps with
  | zero =>
    refine ⟨gaps, allowed, List.suffix_rfl, spot, rfl, ?_⟩
    rintro (same | ⟨rfl, -, ends⟩)
    · exact same
    · cases ends
  | succ fuel ih =>
    obtain ⟨blanks, left, rfl, blank, line⟩ := lineRest_eq spot all visible
    have unbroken : blanks.any isBreak = false := by
      rw [List.any_eq_false]
      intro c member ends
      rcases spaceOrTab_cases (blank c member) with rfl | rfl <;> cases ends
    have shorter : (left ++ tail).length ≤ scan.size := by
      have long := spot.long
      simp only [List.length_append] at long ⊢
      omega
    rw [toNextToken_succ, line]
    split
    next ends =>
      obtain ⟨c, later, rfl, broken⟩ := break_in_gaps visible ends
      obtain ⟨next, suffix, skipped⟩ := skipBreak_gaps broken visible
        (show (lineRest scan).rest = _ by rw [line]; rfl)
      have within : next <:+ blanks ++ c :: later :=
        suffix.trans ((List.suffix_cons c later).trans (List.suffix_append _ _))
      have below : Spot (inNextLine scan) (allowed || !decide (0 < level)) level (next ++ tail)
          tokens :=
        { spot with
          before := skipped
          long := by
            have less := suffix.length_le
            simp only [List.length_append, List.length_cons, inNextLine] at shorter ⊢
            omega
          keyAllowed := by rw [inNextLine, spot.keyAllowed, spot.inFlow] }
      obtain ⟨left, now, short, reached, keys, keyed⟩ :=
        ih below (fun d member => all d (within.subset member))
      refine ⟨left, now, short.trans within, reached, keys, ?_⟩
      rintro (same | ⟨-, rfl, -⟩)
      · exact keyed (.inl (by rw [same]; rfl))
      · exact keyed (.inl (by simp))
    next =>
      have here : Spot { scan with cursor := ⟨scan.cursor.mark.forward blanks, left ++ tail⟩ }
          allowed level (left ++ tail) tokens := { spot with before := rfl, long := shorter }
      refine ⟨left, allowed, List.suffix_append _ _, here, rfl, ?_⟩
      rintro (same | ⟨rfl, -, ends⟩)
      · exact same
      · rw [List.append_nil, unbroken] at ends
        cases ends

/-- No possible key is new when some are given up. -/
theorem currentKey_of_refreshed {key : PossibleKey}
    (current : key ∈ (refreshed scan).currentKey) : key ∈ scan.currentKey := by
  rw [Scan.currentKey, refreshed, List.head?_map] at current
  rw [Scan.currentKey]
  cases first : scan.keys.head? with
  | none =>
    rw [first] at current
    cases current
  | some held =>
    rw [first, Option.map_some, Option.join_some, fresh] at current
    split at current
    · cases current
    · exact current

/-- The token behind some gaps is fetched as it is read there. -/
theorem fetch_here {gaps tail : List Char} (spot : Spot scan allowed level (gaps ++ tail) tokens)
    (all : ∀ c ∈ gaps, isGap c = true) (visible : Visible tail) {next : Scan}
    (fetched : scan.fetch = some next) :
    ∃ placed arrived now, Spot placed now level tail tokens ∧
      placed.fetchHere = some arrived ∧ next = refreshed arrived ∧
      (∀ key ∈ placed.currentKey, key ∈ scan.currentKey) ∧
      (allowed = true ∨ level = 0 ∧ gaps.any isBreak = true → now = true) := by
  obtain ⟨left, now, short, reached, keys, keyed⟩ :=
    toNextToken_gaps (scan.size + 1) spot all visible
  have ready := reached.refreshed
  rw [Scan.fetch, dropStaleKeys_eq reached] at fetched
  simp only [Option.bind_eq_bind, Option.bind_some, ready.canRead, Bool.not_true,
    Bool.false_eq_true, if_false, closeBlocks_eq ready] at fetched
  obtain ⟨arrived, here, later⟩ := Option.bind_eq_some_iff.mp fetched
  cases left with
  | cons c others =>
    rw [fetchHere_gap (all c (short.subset List.mem_cons_self)) ready.before] at here
    cases here
  | nil =>
    refine ⟨_, arrived, now, ready, here, ?_, ?_, ?_⟩
    · split at later
      · exact refreshed_of_drop later
      · cases later
    · intro key member
      have kept := currentKey_of_refreshed member
      rw [Scan.currentKey, keys] at kept
      exact kept
    · rintro (same | ⟨rfl, ends⟩)
      · exact keyed (.inl same)
      · exact keyed (.inr ⟨rfl, rfl, ends⟩)

/-! ## One token after the other -/

/-- The scan stands at this place, and the text has not ended. -/
structure Stand (scan : Scan) (allowed : Bool) (level : Nat) (rest : List Char)
    (tokens : List Token) : Prop extends Spot scan allowed level rest tokens where
  unended : .streamEnd ∉ tokens

theorem Stand.push {next : Scan} {allowed' : Bool} {level' : Nat} {rest' : List Char}
    {token : Token} (stand : Stand scan allowed level rest tokens)
    (spot : Spot next allowed' level' rest' (tokens ++ [token])) (inside : token ≠ .streamEnd) :
    next.tokens.latest.head? ≠ some .streamEnd ∧
      Stand (refreshed next) allowed' level' rest' (tokens ++ [token]) := by
  refine ⟨fun ends => inside (Option.some.inj (spot.latest.symm.trans ends)), spot.refreshed, ?_⟩
  intro member
  rcases List.mem_append.mp member with before | same
  · exact stand.unended before
  · exact inside (List.mem_singleton.mp same).symm

/-- What is read behind some gaps is what a run goes on from. -/
theorem leads_here {gaps tail : List Char} {arrives : Scan → Prop}
    (stand : Stand scan allowed level (gaps ++ tail) tokens) (all : ∀ c ∈ gaps, isGap c = true)
    (visible : Visible tail)
    (here : ∀ placed arrived now, Spot placed now level tail tokens →
      (allowed = true → now = true) → (∀ key ∈ placed.currentKey, key ∈ scan.currentKey) →
      placed.fetchHere = some arrived →
      arrived.tokens.latest.head? ≠ some .streamEnd ∧ arrives (refreshed arrived)) :
    Leads scan arrives := by
  refine leads_of_fetch (stand.behind ▸ stand.unended) fun next fetched => ?_
  obtain ⟨placed, arrived, now, spot, reads, rfl, keys, keyed⟩ :=
    fetch_here stand.toSpot all visible fetched
  exact here placed arrived now spot (fun same => keyed (.inl same)) keys reads

theorem leads_opening {gaps more : List Char} {c : Char} {token : Token} (opens : Opens c token)
    (stand : Stand scan allowed level (gaps ++ c :: more) tokens)
    (all : ∀ c ∈ gaps, isGap c = true) :
    Leads scan (Stand · true (level + 1) more (tokens ++ [token])) := by
  refine leads_here stand all ?_ fun placed arrived now spot _ _ reads => ?_
  · rintro _ ⟨⟩
    cases opens <;> decide
  · obtain ⟨next, fetches, reached⟩ := fetchHere_opening opens spot
    cases fetches.symm.trans reads
    exact stand.push reached (by cases opens <;> simp)

theorem leads_closing {gaps more : List Char} {c : Char} {token : Token} (closes : Closes c token)
    (stand : Stand scan allowed (level + 1) (gaps ++ c :: more) tokens)
    (all : ∀ c ∈ gaps, isGap c = true) :
    Leads scan (Stand · false level more (tokens ++ [token])) := by
  refine leads_here stand all ?_ fun placed arrived now spot _ _ reads => ?_
  · rintro _ ⟨⟩
    cases closes <;> decide
  · obtain ⟨next, fetches, reached⟩ := fetchHere_closing closes spot
    cases fetches.symm.trans reads
    exact stand.push reached (by cases closes <;> simp)

theorem leads_comma {gaps more : List Char}
    (stand : Stand scan allowed level (gaps ++ ',' :: more) tokens)
    (all : ∀ c ∈ gaps, isGap c = true) :
    Leads scan (Stand · true level more (tokens ++ [.flowEntry])) := by
  refine leads_here stand all ?_ fun placed arrived now spot _ _ reads => ?_
  · rintro _ ⟨⟩
    decide
  · obtain ⟨next, fetches, reached⟩ := fetchHere_comma spot
    cases fetches.symm.trans reads
    exact stand.push reached (by simp)

/-- The blanks of JSON are gaps. -/
theorem gap_of_blanks (blanks : Blanks) : ∀ c ∈ blanks.val, isGap c = true := by
  intro c member
  have blank := blanks.property c member
  simp only [Json.isSeparator, Bool.or_eq_true, beq_iff_eq] at blank
  rcases blank with ((rfl | rfl) | rfl) | rfl <;> rfl

/-- A string that can be read becomes one token, and a key may have begun at its place only. -/
theorem fetchHere_string {pieces : List Piece} {more : List Char} {next : Scan}
    (spot : Spot scan allowed level (quoted pieces ++ more) tokens)
    (reads : scan.fetchHere = some next) :
    ∃ text, Spot next false level more (tokens ++ [.scalar false text]) ∧
      (allowed = true → ∀ key ∈ next.currentKey, key.position = tokens.length) := by
  obtain ⟨noted, notes, kept, -, -, keyed⟩ := noteKey_exists spot
  have fetches : scan.fetchHere = scan.fetchQuoted false := by
    simp [Scan.fetchHere, spot.before, quoted, Cursor.seesMarker]
  rw [fetches, Scan.fetchQuoted, notes, Option.bind_eq_bind, Option.bind_some] at reads
  obtain ⟨⟨text, after⟩, read, same⟩ := Option.bind_eq_some_iff.mp reads
  cases same
  have passed : Spot { noted with cursor := after, keyAllowed := false } false level more tokens :=
    { kept with
      before := readQuoted_rest kept.before read
      long := by
        have long := kept.long
        rw [List.length_append] at long
        exact Nat.le_of_add_left_le long
      keyAllowed := rfl }
  refine ⟨String.ofList text, passed.push _, fun same key member => ?_⟩
  cases (keyed same).symm.trans member
  rfl

/-- A word that can be read becomes one token. -/
theorem fetchHere_word {word gaps tail : List Char} {next : Scan} (starts : StartsPlain word)
    (solid : ∀ c ∈ word, Solid c) (all : ∀ c ∈ gaps, isGap c = true) (stops : Stops true tail)
    (spot : Spot scan allowed (level + 1) (word ++ (gaps ++ tail)) tokens)
    (reads : scan.fetchHere = some next) :
    ∃ text now, Spot next now (level + 1) tail (tokens ++ [.scalar true text]) := by
  obtain ⟨noted, notes, kept, -, -, -⟩ := noteKey_exists spot
  have unmarked : noted.cursor.seesAnyMarker = false := by
    rw [Cursor.seesAnyMarker, starts.unmarked kept.before '-' (.inl rfl),
      starts.unmarked kept.before '.' (.inr rfl), Bool.or_self]
  have inFlow : noted.inFlow = true := by simp [kept.inFlow]
  rw [fetchHere_starts starts spot, Scan.fetchPlain, notes, Option.bind_eq_bind,
    Option.bind_some] at reads
  obtain ⟨⟨text, after, ended⟩, read, same⟩ := Option.bind_eq_some_iff.mp reads
  cases same
  rw [inFlow] at read
  have passed : Spot { noted with cursor := after, keyAllowed := ended } ended (level + 1) tail
      tokens :=
    { kept with
      before := readPlain_rest solid all stops unmarked kept.before starts.nonempty read
      long := by
        have long := kept.long
        simp only [List.length_append] at long
        change tail.length ≤ noted.size
        omega
      keyAllowed := rfl }
  exact ⟨String.ofList text, ended, passed.push _⟩

/-- A colon makes a key of the string before it, if the string still may be one. -/
theorem fetchHere_keyColon {text : String} {more : List Char}
    (spot : Spot scan allowed (level + 1) (':' :: more) (tokens ++ [.scalar false text]))
    (placed : ∀ key ∈ scan.currentKey, key.position = tokens.length) :
    ∃ next key, scan.fetchHere = some next ∧ FlowKey key ∧
      Spot next false (level + 1) more ((tokens ++ key) ++ [.value]) := by
  cases current : scan.currentKey with
  | some key =>
    have member : some key ∈ scan.keys := by
      rw [Scan.currentKey, Option.join_eq_some_iff] at current
      exact List.mem_of_mem_head? current
    have optional : key.required = false := spot.optional _ member key rfl
    have position : key.position = tokens.length := placed key current
    obtain ⟨required, position', mark⟩ := key
    cases optional
    cases position
    obtain ⟨next, fetches, reached⟩ := fetchHere_colon spot current
    exact ⟨next, _, fetches, .marked text, by simpa using reached⟩
  | none =>
    have inFlow : scan.inFlow = true := by simp [spot.inFlow]
    have fetches : scan.fetchHere = scan.fetchValue := by
      simp [Scan.fetchHere, spot.before, Cursor.seesMarker, inFlow]
    have unopened : scan.openBlock scan.column scan.tokens.size .blockMappingStart = scan := by
      simp [Scan.openBlock, inFlow]
    refine ⟨_, _, ?_, .unmarked text, ((spot.allow false).push .value).skip⟩
    rw [fetches, Scan.fetchValue, current]
    simp [inFlow, unopened]

theorem leads_string {pieces : List Piece} {gaps more : List Char}
    (stand : Stand scan allowed level (gaps ++ (quoted pieces ++ more)) tokens)
    (all : ∀ c ∈ gaps, isGap c = true) :
    Leads scan fun next => ∃ text, Stand next false level more (tokens ++ [.scalar false text]) ∧
      (allowed = true → ∀ key ∈ next.currentKey, key.position = tokens.length) := by
  refine leads_here stand all (visible_source (.string pieces) more)
    fun placed arrived now spot keyed _ reads => ?_
  obtain ⟨text, reached, keys⟩ := fetchHere_string spot reads
  obtain ⟨inside, stands⟩ := stand.push reached (by simp)
  exact ⟨inside, text, stands, fun same key member =>
    keys (keyed same) key (currentKey_of_refreshed member)⟩

/-- A string and a colon become a key, known as one or not. -/
theorem leads_key {pieces : List Piece} {before beforeColon : Blanks} {more : List Char}
    (stand : Stand scan true (level + 1)
      (before.val ++ (quoted pieces ++ (beforeColon.val ++ ':' :: more))) tokens) :
    Leads scan fun next => ∃ key, FlowKey key ∧
      Stand next false (level + 1) more (tokens ++ key ++ [.value]) := by
  refine (leads_string stand (gap_of_blanks before)).bind ?_
  rintro next ⟨text, stands, placed⟩
  refine leads_here stands (gap_of_blanks beforeColon) ?_ fun _ arrived now spot _ keys reads => ?_
  · rintro _ ⟨⟩
    decide
  · obtain ⟨last, key, fetches, named, reached⟩ :=
      fetchHere_keyColon spot fun key member => placed rfl key (keys key member)
    cases fetches.symm.trans reads
    have before : .streamEnd ∉ tokens ++ key := by
      intro member
      rcases List.mem_append.mp member with earlier | same
      · exact stand.unended earlier
      · cases named <;> simp at same
    refine ⟨fun ends => ?_, key, named, reached.refreshed, fun member => ?_⟩
    · cases reached.latest.symm.trans ends
    · rcases List.mem_append.mp member with earlier | same
      · exact before earlier
      · cases List.mem_singleton.mp same

/-- Wherever the value stands, no run ends in it, and behind it its tokens are those of a value. -/
def Encloses (source : Source) : Prop :=
  ∀ ⦃scan : Scan⦄ ⦃allowed : Bool⦄ ⦃level : Nat⦄ ⦃before rest : List Char⦄ ⦃tokens : List Token⦄,
    Stand scan allowed level (before ++ (source.text ++ rest)) tokens →
    (∀ c ∈ before, isGap c = true) → Leads scan fun next => ∃ value, FlowValue value ∧
      Stand next false level rest (tokens ++ value)

/-- An item is scanned up to what parts it from the next one or closes the array. -/
theorem leads_item {before after : Blanks} {item : Source} {c : Char}
    (encloses : isWord item = false → Encloses item) (parts : Parts c)
    (stand : Stand scan allowed (level + 1) (before.val ++ (item.text ++ (after.val ++ c :: rest)))
      tokens) :
    Leads scan fun next => ∃ now gaps value, FlowValue value ∧ (∀ c ∈ gaps, isGap c = true) ∧
      Stand next now (level + 1) (gaps ++ c :: rest) (tokens ++ value) := by
  cases word : isWord item with
  | false =>
    refine (encloses word stand (gap_of_blanks before)).imp ?_
    rintro next ⟨value, flow, stands⟩
    exact ⟨false, after.val, value, flow, gap_of_blanks after, stands⟩
  | true =>
    obtain ⟨starts, solid, -⟩ := word_source word
    refine leads_here stand (gap_of_blanks before) (visible_source item _)
      fun placed arrived now spot _ _ reads => ?_
    obtain ⟨text, ended, reached⟩ :=
      fetchHere_word starts solid (gap_of_blanks after) (.inr ⟨rfl, c, rest, rfl, parts⟩) spot reads
    obtain ⟨inside, stands⟩ := stand.push reached (by simp)
    exact ⟨inside, ended, [], _, .scalar true text, by simp, stands⟩

/-- A pair is scanned up to what parts it from the next one or closes the object. -/
theorem leads_pair {before beforeColon afterColon after : Blanks} {key : List Piece}
    {value : Source} {c : Char} (encloses : isWord value = false → Encloses value) (parts : Parts c)
    (stand : Stand scan true (level + 1) (before.val ++ (quoted key ++ (beforeColon.val ++ ':' ::
      (afterColon.val ++ (value.text ++ (after.val ++ c :: rest)))))) tokens) :
    Leads scan fun next => ∃ now gaps name value, FlowKey name ∧ FlowValue value ∧
      (∀ c ∈ gaps, isGap c = true) ∧ Stand next now (level + 1) (gaps ++ c :: rest)
        (tokens ++ (name ++ .value :: value)) := by
  refine (leads_key stand).bind ?_
  rintro keyed ⟨name, named, stands⟩
  refine (leads_item encloses parts stands).imp ?_
  rintro next ⟨now, gaps, value, flow, all, arrived⟩
  exact ⟨now, gaps, name, value, named, flow, all, by simpa using arrived⟩

end

mutual
/-- Values that are no words are scanned up to their end. -/
theorem leads_source : (source : Source) → isWord source = false → Encloses source
  | .string pieces, _ => by
    intro scan allowed level before rest tokens stand all
    refine (leads_string stand all).imp ?_
    rintro next ⟨text, stands, -⟩
    exact ⟨_, .scalar false text, stands⟩
  | .emptyArray inside, _ => by
    intro scan allowed level before rest tokens stand all
    rw [Source.text, List.cons_append, List.append_assoc, List.singleton_append] at stand
    refine (leads_opening .sequence stand all).bind fun opened within => ?_
    refine (leads_closing .sequence within (gap_of_blanks inside)).imp fun next stands => ?_
    exact ⟨_, .emptySequence, by simpa using stands⟩
  | .array items, _ => by
    intro scan allowed level before rest tokens stand all
    rw [Source.text, List.cons_append, List.append_assoc, List.singleton_append] at stand
    refine (leads_opening .sequence stand all).bind fun opened within => ?_
    refine (leads_items items within).imp ?_
    rintro next ⟨inside, flow, stands⟩
    exact ⟨_, .sequence flow, by simpa using stands⟩
  | .emptyObject inside, _ => by
    intro scan allowed level before rest tokens stand all
    rw [Source.text, List.cons_append, List.append_assoc, List.singleton_append] at stand
    refine (leads_opening .mapping stand all).bind fun opened within => ?_
    refine (leads_closing .mapping within (gap_of_blanks inside)).imp fun next stands => ?_
    exact ⟨_, .emptyMapping, by simpa using stands⟩
  | .object pairs, _ => by
    intro scan allowed level before rest tokens stand all
    rw [Source.text, List.cons_append, List.append_assoc, List.singleton_append] at stand
    refine (leads_opening .mapping stand all).bind fun opened within => ?_
    refine (leads_pairs pairs within).imp ?_
    rintro next ⟨inside, flow, stands⟩
    exact ⟨_, .mapping flow, by simpa using stands⟩

/-- The items of an array are scanned up to its end. -/
theorem leads_items : (items : Items) → {scan : Scan} → {level : Nat} → {rest : List Char} →
    {tokens : List Token} → Stand scan true (level + 1) (items.text ++ ']' :: rest) tokens →
    Leads scan fun next => ∃ inside, FlowItems inside ∧
      Stand next false level rest (tokens ++ (inside ++ [.flowSequenceEnd]))
  | .last before item after, scan, level, rest, tokens, stand => by
    rw [Items.text, List.append_assoc, List.append_assoc] at stand
    refine (leads_item (leads_source item) (.inr (.inl rfl)) stand).bind ?_
    rintro read ⟨now, gaps, value, flow, all, stands⟩
    refine (leads_closing .sequence stands all).imp fun next arrived => ?_
    exact ⟨value, .last flow, by simpa using arrived⟩
  | .more before item after others, scan, level, rest, tokens, stand => by
    simp only [Items.text, List.append_assoc, List.cons_append] at stand
    refine (leads_item (leads_source item) (.inl rfl) stand).bind ?_
    rintro read ⟨now, gaps, value, flow, all, stands⟩
    refine (leads_comma stands all).bind fun parted behind => ?_
    refine (leads_items others behind).imp ?_
    rintro next ⟨inside, flows, arrived⟩
    exact ⟨_, .more flow flows, by simpa using arrived⟩

/-- The pairs of an object are scanned up to its end. -/
theorem leads_pairs : (pairs : Pairs) → {scan : Scan} → {level : Nat} → {rest : List Char} →
    {tokens : List Token} → Stand scan true (level + 1) (pairs.text ++ '\x7d' :: rest) tokens →
    Leads scan fun next => ∃ inside, FlowPairs inside ∧
      Stand next false level rest (tokens ++ (inside ++ [.flowMappingEnd]))
  | .last before key beforeColon afterColon value after, scan, level, rest, tokens, stand => by
    simp only [Pairs.text, List.append_assoc, List.cons_append] at stand
    refine (leads_pair (leads_source value) (.inr (.inr rfl)) stand).bind ?_
    rintro read ⟨now, gaps, name, value, named, flow, all, stands⟩
    refine (leads_closing .mapping stands all).imp fun next arrived => ?_
    exact ⟨_, .last named flow, by simpa using arrived⟩
  | .more before key beforeColon afterColon value after others, scan, level, rest, tokens,
      stand => by
    simp only [Pairs.text, List.append_assoc, List.cons_append] at stand
    refine (leads_pair (leads_source value) (.inl rfl) stand).bind ?_
    rintro read ⟨now, gaps, name, value, named, flow, all, stands⟩
    refine (leads_comma stands all).bind fun parted behind => ?_
    refine (leads_pairs others behind).imp ?_
    rintro next ⟨inside, flows, arrived⟩
    exact ⟨_, .more named flow flows, by simpa using arrived⟩
end

end ValuePath.FlowScans
