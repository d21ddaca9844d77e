import ValuePath.Proofs.FlowValues
import ValuePath.Proofs.ScanLimits

/-! Tokens that no later step touches. Tokens are put in at the places of possible keys only, so
what stands in front of all these places stays there, and what stands next to it never parts
documents. -/
namespace ValuePath.TokenFronts
open Yaml FlowValues ScanLimits
open ScanSteps (refreshed refreshed_of_drop)

/-- These tokens stand in front of all possible keys, and behind them a token that does not stand
between documents. -/
structure Beyond (front : List Token) (scan : Scan) : Prop where
  behind : ∃ token more, scan.tokens.toList = front ++ token :: more ∧ isBoundary token = false
  keys : ∀ key ∈ scan.keys, ∀ possible ∈ key, front.length ≤ possible.position

section
variable {front : List Token} {scan : Scan}

theorem Beyond.size (beyond : Beyond front scan) : front.length ≤ scan.tokens.size := by
  obtain ⟨token, more, split, -⟩ := beyond.behind
  have length := congrArg List.length split
  rw [TokenLog.toList, List.length_reverse, ← scan.tokens.size_eq, List.length_append] at length
  omega

/-- Tokens that come behind all others leave the front as it is. -/
theorem Beyond.extend {next : Scan} (beyond : Beyond front scan) {later : List Token}
    (tokens : next.tokens.toList = scan.tokens.toList ++ later) (keys : next.keys = scan.keys) :
    Beyond front next where
  behind := by
    obtain ⟨token, more, split, inner⟩ := beyond.behind
    refine ⟨token, more ++ later, ?_, inner⟩
    rw [tokens, split, List.append_assoc, List.cons_append]
  keys := keys ▸ beyond.keys

theorem Beyond.push {next : Scan} (beyond : Beyond front scan) {token : Token}
    (tokens : next.tokens = scan.tokens.push token) (keys : next.keys = scan.keys) :
    Beyond front next :=
  beyond.extend (tokens ▸ TokenLog.toList_push scan.tokens token) keys

theorem Beyond.insertAt (beyond : Beyond front scan) {position : Nat} {token : Token}
    (later : front.length ≤ position) (inner : isBoundary token = false) :
    Beyond front (scan.insertAt position token) where
  behind := by
    obtain ⟨next, more, split, inner'⟩ := beyond.behind
    have inserted := TokenLog.toList_insertAt scan.tokens position token
    obtain ⟨further, rfl⟩ := Nat.le.dest later
    rw [split, List.take_length_add_append, List.drop_length_add_append] at inserted
    cases further with
    | zero => exact ⟨token, next :: more, by simpa [Scan.insertAt] using inserted, inner⟩
    | succ further =>
      exact ⟨next, more.take further ++ token :: more.drop further,
        by simpa [Scan.insertAt] using inserted, inner'⟩
  keys := beyond.keys

theorem Beyond.setKey (beyond : Beyond front scan) {key : Option PossibleKey}
    (later : ∀ possible ∈ key, front.length ≤ possible.position) :
    Beyond front (scan.setKey key) where
  behind := beyond.behind
  keys := by
    intro other member
    rcases List.mem_cons.mp member with rfl | outer
    · exact later
    · exact beyond.keys other (List.mem_of_mem_tail outer)

theorem Beyond.refreshed (beyond : Beyond front scan) : Beyond front (refreshed scan) where
  behind := beyond.behind
  keys := by
    intro key member possible held
    obtain ⟨before, among, rfl⟩ := List.mem_map.mp member
    rw [ScanSteps.fresh] at held
    split at held
    · cases held
    · exact beyond.keys before among possible held

theorem Beyond.openBlock (beyond : Beyond front scan) (column : Nat) {position : Nat}
    {token : Token} (later : front.length ≤ position) (inner : isBoundary token = false) :
    Beyond front (scan.openBlock column position token) := by
  rw [Scan.openBlock]
  split
  · have inserted := beyond.insertAt later inner
    exact ⟨inserted.behind, inserted.keys⟩
  · exact beyond

theorem closeFrom_tokens (column indent : Int) (indents : List Int) (tokens : TokenLog) :
    ∃ later, (Scan.closeFrom column indent indents tokens).2.2.toList = tokens.toList ++ later := by
  induction indents generalizing indent tokens with
  | nil => exact ⟨[], (List.append_nil _).symm⟩
  | cons outer rest ih =>
    rw [Scan.closeFrom]
    split
    · obtain ⟨later, closed⟩ := ih outer (tokens.push .blockEnd)
      rw [TokenLog.toList_push, List.append_assoc] at closed
      exact ⟨_, closed⟩
    · exact ⟨[], (List.append_nil _).symm⟩

theorem Beyond.closeBlocks (beyond : Beyond front scan) (column : Int) :
    Beyond front (scan.closeBlocks column) := by
  rw [Scan.closeBlocks]
  split
  · exact beyond
  · obtain ⟨later, closed⟩ := closeFrom_tokens column scan.indent scan.indents scan.tokens
    exact beyond.extend closed rfl

theorem Beyond.toNextToken (beyond : Beyond front scan) (fuel : Nat) :
    Beyond front (scan.toNextToken fuel) := by
  induction fuel generalizing scan with
  | zero => exact beyond
  | succ fuel ih =>
    rw [toNextToken_succ]
    split
    · have below : Beyond front (inNextLine scan) := ⟨beyond.behind, beyond.keys⟩
      exact ih below
    · exact ⟨beyond.behind, beyond.keys⟩

end

/-! ## Steps -/

/-- The step leaves the front as it is. -/
def Keeps (front : List Token) (step : Scan → Option Scan) : Prop :=
  ∀ scan, Beyond front scan → ∀ next ∈ step scan, Beyond front next

section
variable {front : List Token}

theorem Keeps.bind {first second : Scan → Option Scan} (keeps : Keeps front first)
    (further : Keeps front second) : Keeps front fun scan => first scan >>= second := by
  intro scan beyond next done
  obtain ⟨between, one, two⟩ := Option.bind_eq_some_iff.mp done
  exact further between (keeps scan beyond between one) next two

theorem keeps_of_change {change : Scan → Scan}
    (stays : ∀ scan, Beyond front scan → Beyond front (change scan)) :
    Keeps front fun scan => some (change scan) := by
  rintro scan beyond _ ⟨⟩
  exact stays scan beyond

theorem keeps_of_read {α : Type} {read : Scan → Option α} {change : Scan → α → Scan}
    (stays : ∀ scan found, Beyond front scan → Beyond front (change scan found)) :
    Keeps front fun scan => do
      let found ← read scan
      return change scan found := by
  intro scan beyond next done
  obtain ⟨found, -, same⟩ := Option.bind_eq_some_iff.mp done
  cases same
  exact stays scan found beyond

theorem keeps_of_refusal {refuses : Scan → Bool} {step : Scan → Option Scan}
    (keeps : Keeps front step) :
    Keeps front fun scan => if refuses scan then none else step scan := by
  intro scan beyond next done
  dsimp only at done
  split at done
  · cases done
  · exact keeps scan beyond next done

theorem Keeps.after {step : Scan → Option Scan} (keeps : Keeps front step) {change : Scan → Scan}
    (stays : ∀ scan, Beyond front scan → Beyond front (change scan)) :
    Keeps front fun scan => step (change scan) :=
  fun scan beyond next done => keeps (change scan) (stays scan beyond) next done

theorem dropKey_keeps : Keeps front Scan.dropKey := by
  intro scan beyond next done
  rw [Scan.dropKey] at done
  split at done
  · split at done
    · cases done
    · cases done
      exact beyond.setKey (by simp)
  · cases done
    exact beyond

theorem noteKey_keeps : Keeps front Scan.noteKey := by
  intro scan beyond next done
  rw [Scan.noteKey] at done
  split at done
  · obtain ⟨dropped, drops, same⟩ := Option.map_eq_some_iff.mp done
    cases same
    refine (dropKey_keeps scan beyond dropped drops).setKey ?_
    rintro _ ⟨⟩
    exact beyond.size
  · cases done
    exact beyond

theorem dropStaleKeys_keeps : Keeps front Scan.dropStaleKeys := by
  intro scan beyond next done
  rw [refreshed_of_drop done]
  exact beyond.refreshed

/-- Between documents all blocks are closed first. -/
theorem dropOutermost_keeps : Keeps front fun scan => (scan.closeBlocks (-1)).dropKey :=
  Keeps.after dropKey_keeps fun _ beyond => beyond.closeBlocks (-1)

/-! ## Tokens -/

theorem fetchStreamEnd_keeps : Keeps front Scan.fetchStreamEnd :=
  Keeps.bind dropOutermost_keeps (keeps_of_change fun _ beyond => beyond.push rfl rfl)

theorem fetchDirective_keeps : Keeps front Scan.fetchDirective :=
  Keeps.bind dropOutermost_keeps (keeps_of_read fun _ _ beyond => beyond.push rfl rfl)

theorem fetchMarker_keeps (token : Token) : Keeps front (Scan.fetchMarker · token) :=
  Keeps.bind dropOutermost_keeps (keeps_of_change fun _ beyond => beyond.push rfl rfl)

theorem fetchFlowStart_keeps (token : Token) : Keeps front (Scan.fetchFlowStart · token) :=
  Keeps.bind noteKey_keeps (keeps_of_change fun scan beyond =>
    have inner : Beyond front { scan with keys := none :: scan.keys } :=
      ⟨beyond.behind, List.forall_mem_cons.mpr ⟨by simp, beyond.keys⟩⟩
    inner.push rfl rfl)

theorem fetchFlowEnd_keeps (token : Token) : Keeps front (Scan.fetchFlowEnd · token) :=
  Keeps.bind dropKey_keeps (keeps_of_change fun scan beyond =>
    have outer : Beyond front
        { scan with keys := if scan.inFlow then scan.keys.tail else scan.keys } := by
      refine ⟨beyond.behind, fun key member => ?_⟩
      dsimp only at member
      split at member
      · exact beyond.keys key (List.mem_of_mem_tail member)
      · exact beyond.keys key member
    outer.push rfl rfl)

theorem fetchFlowEntry_keeps : Keeps front Scan.fetchFlowEntry :=
  Keeps.bind dropKey_keeps (keeps_of_change fun _ beyond => beyond.push rfl rfl)

theorem fetchBlockEntry_keeps : Keeps front Scan.fetchBlockEntry :=
  keeps_of_refusal (Keeps.bind
    (Keeps.after dropKey_keeps fun _ beyond => beyond.openBlock _ beyond.size rfl)
    (keeps_of_change fun _ beyond => beyond.push rfl rfl))

theorem fetchKey_keeps : Keeps front Scan.fetchKey :=
  keeps_of_refusal (Keeps.bind
    (Keeps.after dropKey_keeps fun _ beyond => beyond.openBlock _ beyond.size rfl)
    (keeps_of_change fun _ beyond => beyond.push rfl rfl))

/-- The token of a key is put in at its place, which lies behind the front. -/
theorem fetchValue_keeps : Keeps front Scan.fetchValue := by
  intro scan beyond next done
  rw [Scan.fetchValue] at done
  split at done
  next key current =>
    cases done
    have later : front.length ≤ key.position := by
      rw [Scan.currentKey, Option.join_eq_some_iff] at current
      exact beyond.keys _ (List.mem_of_mem_head? current) key rfl
    have keyed : Beyond front (((scan.insertAt key.position .key).openBlock key.mark.column
        key.position .blockMappingStart).setKey none) :=
      ((beyond.insertAt later rfl).openBlock _ later rfl).setKey (by simp)
    exact keyed.push rfl rfl
  next =>
    split at done
    · cases done
    · cases done
      have opened : Beyond front
          (scan.openBlock scan.column scan.tokens.size .blockMappingStart) :=
        beyond.openBlock _ beyond.size rfl
      exact opened.push rfl rfl

theorem fetchAnchor_keeps (token : String → Token) : Keeps front (Scan.fetchAnchor · token) :=
  Keeps.bind noteKey_keeps (keeps_of_read fun _ _ beyond => beyond.push rfl rfl)

theorem fetchTag_keeps : Keeps front Scan.fetchTag :=
  Keeps.bind noteKey_keeps (keeps_of_read fun _ _ beyond => beyond.push rfl rfl)

theorem fetchBlockScalar_keeps (literal : Bool) : Keeps front (Scan.fetchBlockScalar · literal) :=
  Keeps.bind dropKey_keeps (keeps_of_read fun _ _ beyond => beyond.push rfl rfl)

theorem fetchQuoted_keeps (single : Bool) : Keeps front (Scan.fetchQuoted · single) :=
  Keeps.bind noteKey_keeps (keeps_of_read fun _ _ beyond => beyond.push rfl rfl)

theorem fetchPlain_keeps : Keeps front Scan.fetchPlain :=
  Keeps.bind noteKey_keeps (keeps_of_read fun _ _ beyond => beyond.push rfl rfl)

theorem fetchHere_keeps : Keeps front Scan.fetchHere := by
  intro placed beyond next done
  rw [Scan.fetchHere] at done
  split at done
  · exact fetchStreamEnd_keeps placed beyond next done
  · repeat' split at done
    · exact fetchDirective_keeps placed beyond next done
    · exact fetchMarker_keeps _ placed beyond next done
    · exact fetchMarker_keeps _ placed beyond next done
    · exact fetchFlowStart_keeps _ placed beyond next done
    · exact fetchFlowStart_keeps _ placed beyond next done
    · exact fetchFlowEnd_keeps _ placed beyond next done
    · exact fetchFlowEnd_keeps _ placed beyond next done
    · exact fetchFlowEntry_keeps placed beyond next done
    · exact fetchAnchor_keeps _ placed beyond next done
    · exact fetchAnchor_keeps _ placed beyond next done
    · exact fetchTag_keeps placed beyond next done
    · exact fetchQuoted_keeps _ placed beyond next done
    · exact fetchQuoted_keeps _ placed beyond next done
    · exact fetchBlockEntry_keeps placed beyond next done
    · exact fetchKey_keeps placed beyond next done
    · exact fetchValue_keeps placed beyond next done
    · exact fetchBlockScalar_keeps _ placed beyond next done
    · exact fetchBlockScalar_keeps _ placed beyond next done
    · exact fetchPlain_keeps placed beyond next done
    · cases done

theorem fetch_keeps : Keeps front Scan.fetch := by
  intro scan beyond next done
  rw [Scan.fetch] at done
  obtain ⟨fresh, dropped, done⟩ := Option.bind_eq_some_iff.mp done
  have freshly := dropStaleKeys_keeps _ (beyond.toNextToken _) fresh dropped
  split at done
  · cases done
  · obtain ⟨arrived, here, done⟩ := Option.bind_eq_some_iff.mp done
    have reached := fetchHere_keeps _ (freshly.closeBlocks _) arrived here
    split at done
    · exact dropStaleKeys_keeps arrived reached next done
    · cases done

/-! ## Runs -/

/-- No place of a possible key lies in front of them all. -/
theorem first_position {keys : List (Option PossibleKey)} {bound size : Nat} (least : bound ≤ size)
    (later : ∀ key ∈ keys, ∀ possible ∈ key, bound ≤ possible.position) :
    bound ≤ keys.foldl (fun first key => (key.map (·.position)).elim first (min first)) size := by
  induction keys generalizing size with
  | nil => exact least
  | cons key others ih =>
    rw [List.foldl_cons]
    refine ih ?_ fun other member => later other (List.mem_cons_of_mem _ member)
    cases key with
    | none => exact least
    | some possible => exact le_min least (later _ List.mem_cons_self possible rfl)

/-- The front is final, so that a run that is given up keeps it. -/
theorem settled_behind {scan : Scan} (beyond : Beyond front scan) :
    ∃ token more, scan.settled ++ [.broken] = front ++ token :: more ∧
      isBoundary token = false := by
  obtain ⟨token, more, split, inner⟩ := beyond.behind
  have first := first_position beyond.size beyond.keys
  rw [Scan.settled, split]
  obtain ⟨further, count⟩ := Nat.le.dest first
  rw [← count, List.take_length_add_append]
  cases further with
  | zero => exact ⟨.broken, [], by simp, rfl⟩
  | succ further => exact ⟨token, more.take further ++ [.broken], by simp, inner⟩

/-- A run never puts a mark between documents behind the front. -/
theorem run_behind (fuel : Nat) {scan : Scan} (beyond : Beyond front scan) :
    ∃ token more, scan.run fuel = front ++ token :: more ∧ isBoundary token = false := by
  induction fuel generalizing scan with
  | zero => exact settled_behind beyond
  | succ fuel ih =>
    rw [Scan.run]
    cases fetched : scan.fetch with
    | none => exact settled_behind beyond
    | some next =>
      have further := fetch_keeps scan beyond next fetched
      dsimp only
      split
      · exact further.behind
      · exact ih further

end

end ValuePath.TokenFronts
