import ValuePath.Yaml.Scan

/-! What a text holds that cannot be read. Nothing but the question whether the next
characters can be read depends on it, so that it only cuts a scan short. -/
namespace ValuePath.ScanLimits
open Yaml

/-- The scan as if its text could be read to the end. -/
def unlimited (scan : Scan) : Scan := { scan with readable := none }

/-- The place behind blanks and a comment, in the same line. -/
def lineRest (scan : Scan) : Cursor :=
  let unmarked :=
    if scan.column = 0 && scan.cursor.sees byteOrderMark then scan.cursor.skip 1 else scan.cursor
  let afterBlanks := unmarked.skipWhile fun c =>
    c == ' ' || (c == '\t' && (scan.inFlow || !scan.keyAllowed))
  if afterBlanks.sees '#' then afterBlanks.skipWhile (!isBreak ·) else afterBlanks

/-- The scan in the next line, where a key may begin unless brackets are open. -/
def inNextLine (scan : Scan) : Scan :=
  { scan with
    cursor := (lineRest scan).skipBreak
    keyAllowed := scan.keyAllowed || !scan.inFlow }

theorem toNextToken_succ (fuel : Nat) (scan : Scan) : scan.toNextToken (fuel + 1) =
    if (lineRest scan).rest.head?.any isBreak then (inNextLine scan).toNextToken fuel
    else { scan with cursor := lineRest scan } := rfl

/-- The step does not ask what of the text can be read. -/
def Blind (step : Scan → Option Scan) : Prop :=
  ∀ scan, step (unlimited scan) = (step scan).map unlimited

theorem Blind.bind {first second : Scan → Option Scan} (blind : Blind first)
    (blindly : Blind second) : Blind fun scan => first scan >>= second := by
  intro scan
  dsimp only
  rw [blind scan]
  cases first scan with
  | none => rfl
  | some next => exact blindly next

theorem blind_of_change {change : Scan → Scan}
    (same : ∀ scan, change (unlimited scan) = unlimited (change scan)) :
    Blind fun scan => some (change scan) := fun scan => congrArg some (same scan)

/-- Some of the text is read at the cursor, and the scan is changed accordingly. -/
theorem blind_of_read {α : Type} {read : Scan → Option α} {change : Scan → α → Scan}
    (reads : ∀ scan, read (unlimited scan) = read scan)
    (same : ∀ scan found, change (unlimited scan) found = unlimited (change scan found)) :
    Blind fun scan => do
      let found ← read scan
      return change scan found := by
  intro scan
  dsimp only
  rw [reads scan]
  cases read scan with
  | none => rfl
  | some found => exact congrArg some (same scan found)

theorem blind_of_refusal {refuses : Scan → Bool} {step : Scan → Option Scan} (blind : Blind step)
    (same : ∀ scan, refuses (unlimited scan) = refuses scan) :
    Blind fun scan => if refuses scan then none else step scan := by
  intro scan
  dsimp only
  rw [same scan]
  cases refuses scan with
  | true => rfl
  | false => exact blind scan

/-- A change before a step. -/
theorem Blind.after {step : Scan → Option Scan} (blind : Blind step) {change : Scan → Scan}
    (same : ∀ scan, change (unlimited scan) = unlimited (change scan)) :
    Blind fun scan => step (change scan) := by
  intro scan
  dsimp only
  rw [same scan]
  exact blind (change scan)

/-! ## Steps -/

theorem toNextToken_unlimited (scan : Scan) (fuel : Nat) :
    (unlimited scan).toNextToken fuel = unlimited (scan.toNextToken fuel) := by
  induction fuel generalizing scan with
  | zero => rfl
  | succ fuel ih =>
    have same : lineRest (unlimited scan) = lineRest scan := rfl
    rw [toNextToken_succ, toNextToken_succ, same]
    split
    · exact ih (inNextLine scan)
    · rfl

theorem dropKey_blind : Blind Scan.dropKey := by
  intro scan
  have same : (unlimited scan).currentKey = scan.currentKey := rfl
  rw [Scan.dropKey, Scan.dropKey, same]
  split
  · split <;> rfl
  · rfl

theorem noteKey_blind : Blind Scan.noteKey := by
  intro scan
  rw [Scan.noteKey, Scan.noteKey, dropKey_blind]
  split
  next allowed =>
    rw [if_pos (show scan.keyAllowed = true from allowed)]
    cases scan.dropKey <;> rfl
  next unkeyed =>
    rw [if_neg (show ¬scan.keyAllowed = true from unkeyed)]
    rfl

theorem dropStaleKeys_blind : Blind Scan.dropStaleKeys := by
  intro scan
  rw [Scan.dropStaleKeys, Scan.dropStaleKeys, apply_ite (Option.map unlimited)]
  rfl

theorem closeBlocks_unlimited (column : Int) (scan : Scan) :
    (unlimited scan).closeBlocks column = unlimited (scan.closeBlocks column) := by
  rw [Scan.closeBlocks, Scan.closeBlocks, apply_ite unlimited]
  rfl

theorem openBlock_unlimited (scan : Scan) (column position : Nat) (token : Token) :
    (unlimited scan).openBlock column position token =
      unlimited (scan.openBlock column position token) := by
  rw [Scan.openBlock, Scan.openBlock, apply_ite unlimited]
  rfl

/-- Between documents all blocks are closed first. -/
theorem dropOutermost_blind : Blind fun scan => (scan.closeBlocks (-1)).dropKey :=
  Blind.after dropKey_blind (closeBlocks_unlimited (-1))

theorem fetchStreamEnd_blind : Blind Scan.fetchStreamEnd :=
  Blind.bind dropOutermost_blind (blind_of_change fun _ => rfl)

theorem fetchDirective_blind : Blind Scan.fetchDirective :=
  Blind.bind dropOutermost_blind (blind_of_read (fun _ => rfl) fun _ _ => rfl)

theorem fetchMarker_blind (token : Token) : Blind (Scan.fetchMarker · token) :=
  Blind.bind dropOutermost_blind (blind_of_change fun _ => rfl)

theorem fetchFlowStart_blind (token : Token) : Blind (Scan.fetchFlowStart · token) :=
  Blind.bind noteKey_blind (blind_of_change fun _ => rfl)

theorem fetchFlowEnd_blind (token : Token) : Blind (Scan.fetchFlowEnd · token) :=
  Blind.bind dropKey_blind (blind_of_change fun _ => rfl)

theorem fetchFlowEntry_blind : Blind Scan.fetchFlowEntry :=
  Blind.bind dropKey_blind (blind_of_change fun _ => rfl)

theorem fetchBlockEntry_blind : Blind Scan.fetchBlockEntry :=
  blind_of_refusal (Blind.bind
    (Blind.after dropKey_blind fun scan => openBlock_unlimited scan _ _ _)
    (blind_of_change fun _ => rfl)) fun _ => rfl

theorem fetchKey_blind : Blind Scan.fetchKey :=
  blind_of_refusal (Blind.bind
    (Blind.after dropKey_blind fun scan => openBlock_unlimited scan _ _ _)
    (blind_of_change fun _ => rfl)) fun _ => rfl

theorem fetchAnchor_blind (token : String → Token) : Blind (Scan.fetchAnchor · token) :=
  Blind.bind noteKey_blind (blind_of_read (fun _ => rfl) fun _ _ => rfl)

theorem fetchTag_blind : Blind Scan.fetchTag :=
  Blind.bind noteKey_blind (blind_of_read (fun _ => rfl) fun _ _ => rfl)

theorem fetchBlockScalar_blind (literal : Bool) : Blind (Scan.fetchBlockScalar · literal) :=
  Blind.bind dropKey_blind (blind_of_read (fun _ => rfl) fun _ _ => rfl)

theorem fetchQuoted_blind (single : Bool) : Blind (Scan.fetchQuoted · single) :=
  Blind.bind noteKey_blind (blind_of_read (fun _ => rfl) fun _ _ => rfl)

theorem fetchPlain_blind : Blind Scan.fetchPlain :=
  Blind.bind noteKey_blind (blind_of_read (fun _ => rfl) fun _ _ => rfl)

theorem fetchValue_blind : Blind Scan.fetchValue := by
  intro scan
  have same : (unlimited scan).currentKey = scan.currentKey := rfl
  rw [Scan.fetchValue, Scan.fetchValue, same]
  split
  next key _ =>
    have opened :=
      openBlock_unlimited (scan.insertAt key.position .key) key.mark.column key.position
      .blockMappingStart
    exact congrArg (fun opened : Scan =>
      some (({ opened.setKey none with keyAllowed := false }.push .value).skip 1)) opened
  next =>
    have opened := openBlock_unlimited scan scan.column scan.tokens.size .blockMappingStart
    rw [apply_ite (Option.map unlimited)]
    refine ite_congr rfl (fun _ => rfl) fun _ => ?_
    exact congrArg (fun opened : Scan =>
      some (({ opened with keyAllowed := !opened.inFlow }.push .value).skip 1)) opened

theorem fetchHere_blind : Blind Scan.fetchHere := by
  intro placed
  have cursor : (unlimited placed).cursor = placed.cursor := rfl
  have column : (unlimited placed).column = placed.column := rfl
  have inFlow : (unlimited placed).inFlow = placed.inFlow := rfl
  rw [Scan.fetchHere, Scan.fetchHere]
  simp only [cursor, column, inFlow]
  split
  · exact fetchStreamEnd_blind placed
  · simp only [apply_ite (Option.map unlimited)]
    refine ite_congr rfl (fun _ => fetchDirective_blind _) fun _ => ?_
    refine ite_congr rfl (fun _ => fetchMarker_blind _ _) fun _ => ?_
    refine ite_congr rfl (fun _ => fetchMarker_blind _ _) fun _ => ?_
    split
    · exact fetchFlowStart_blind _ _
    · exact fetchFlowStart_blind _ _
    · exact fetchFlowEnd_blind _ _
    · exact fetchFlowEnd_blind _ _
    · exact fetchFlowEntry_blind _
    · exact fetchAnchor_blind _ _
    · exact fetchAnchor_blind _ _
    · exact fetchTag_blind _
    · exact fetchQuoted_blind _ _
    · exact fetchQuoted_blind _ _
    · simp only [apply_ite (Option.map unlimited)]
      refine ite_congr rfl (fun _ => fetchBlockEntry_blind _) fun _ => ?_
      refine ite_congr rfl (fun _ => fetchKey_blind _) fun _ => ?_
      refine ite_congr rfl (fun _ => fetchValue_blind _) fun _ => ?_
      refine ite_congr rfl (fun _ => fetchBlockScalar_blind _ _) fun _ => ?_
      refine ite_congr rfl (fun _ => fetchBlockScalar_blind _ _) fun _ => ?_
      exact ite_congr rfl (fun _ => fetchPlain_blind _) fun _ => rfl

/-- Where a token is fetched, it is fetched without the limit as well. -/
theorem fetch_unlimited {scan next : Scan} (fetched : scan.fetch = some next) :
    (unlimited scan).fetch = some (unlimited next) := by
  have unread (scan : Scan) (count : Nat) : (unlimited scan).canRead count = true := rfl
  rw [Scan.fetch] at fetched ⊢
  obtain ⟨fresh, dropped, fetched⟩ := Option.bind_eq_some_iff.mp fetched
  have freshly := dropStaleKeys_blind (scan.toNextToken (scan.size + 1))
  rw [← toNextToken_unlimited, dropped] at freshly
  split at fetched
  · cases fetched
  · obtain ⟨placed, here, fetched⟩ := Option.bind_eq_some_iff.mp fetched
    split at fetched
    · have hereToo := fetchHere_blind (fresh.closeBlocks fresh.column)
      rw [← closeBlocks_unlimited, here] at hereToo
      have last := dropStaleKeys_blind placed
      rw [fetched] at last
      change ((unlimited scan).toNextToken (scan.size + 1)).dropStaleKeys.bind _ = _
      rw [freshly]
      simp only [Option.map_some, Option.bind_some, unread, Bool.not_true, Bool.false_eq_true,
        if_false]
      change (((unlimited fresh).closeBlocks fresh.column).fetchHere).bind _ = _
      rw [hereToo]
      simp [unread, last]
    · cases fetched

/-- A run gives what it would give without the limit after no more rounds. -/
theorem run_unlimited (fuel : Nat) (scan : Scan) :
    ∃ rounds, scan.run fuel = (unlimited scan).run rounds := by
  induction fuel generalizing scan with
  | zero => exact ⟨0, rfl⟩
  | succ fuel ih =>
    rw [Scan.run]
    cases fetched : scan.fetch with
    | none => exact ⟨0, rfl⟩
    | some next =>
      have fetchedToo := fetch_unlimited fetched
      have latest : (unlimited next).tokens = next.tokens := rfl
      by_cases ends : next.tokens.latest.head? = some .streamEnd
      · refine ⟨1, ?_⟩
        rw [Scan.run, fetchedToo]
        simp [ends, latest]
      · obtain ⟨rounds, same⟩ := ih next
        refine ⟨rounds + 1, ?_⟩
        rw [Scan.run, fetchedToo]
        simpa [ends, latest] using same

end ValuePath.ScanLimits
