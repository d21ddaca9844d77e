import ValuePath.Yaml.Document

/-! What the readers of contents leave of the tokens they are given. It is always an end of these,
so that tokens without the end of the stream never come to an end of the documents. -/
namespace ValuePath.ContentRests
open Yaml

/-- Whatever the reader leaves, if it reads anything at all, is of this kind. -/
def Leaves {α : Type} (result : Option (α × Anchors × List Token)) (left : List Token → Prop) :
    Prop :=
  ∀ content anchors rest, result = some (content, anchors, rest) → left rest

section
variable {α β : Type} {left right : List Token → Prop}
  {result : Option (α × Anchors × List Token)}

theorem leaves_none : Leaves (none : Option (α × Anchors × List Token)) left := nofun

theorem leaves_some {content : α} {anchors : Anchors} {rest : List Token} (holds : left rest) :
    Leaves (some (content, anchors, rest)) left := by
  rintro _ _ _ ⟨⟩
  exact holds

theorem Leaves.bind {next : α × Anchors × List Token → Option (β × Anchors × List Token)}
    (first : Leaves result left)
    (later : ∀ content anchors rest, left rest → Leaves (next (content, anchors, rest)) right) :
    Leaves (result.bind next) right := by
  intro content anchors rest given
  obtain ⟨⟨before, known, tokens⟩, read, last⟩ := Option.bind_eq_some_iff.mp given
  exact later before known tokens (first _ _ _ read) _ _ _ last

theorem Leaves.map {change : α × Anchors × List Token → β × Anchors × List Token}
    (first : Leaves result left) (weaker : ∀ rest, left rest → right rest)
    (same : ∀ given, (change given).2.2 = given.2.2) : Leaves (result.map change) right := by
  intro content anchors rest given
  obtain ⟨⟨before, known, tokens⟩, read, last⟩ := Option.map_eq_some_iff.mp given
  have kept := same (before, known, tokens)
  rw [last] at kept
  obtain rfl : rest = tokens := kept
  exact weaker rest (first _ _ _ read)

theorem Leaves.imp (first : Leaves result left) (weaker : ∀ rest, left rest → right rest) :
    Leaves result right :=
  fun content anchors rest read => weaker rest (first content anchors rest read)

end

/-! ## Readers leave an end of their tokens -/

/-- All readers with this fuel leave an end of the tokens they are given. -/
structure LeaveEnds (prefixes : Prefixes) (fuel : Nat) : Prop where
  content : ∀ block indentless anchors tokens,
    Leaves (Content.read? prefixes fuel block indentless anchors tokens) (· <:+ tokens)
  optional : ∀ block indentless ends anchors tokens,
    Leaves (Content.readOptional? prefixes fuel block indentless ends anchors tokens) (· <:+ tokens)
  blockItems : ∀ anchors tokens,
    Leaves (Content.readBlockItems? prefixes fuel anchors tokens) (· <:+ tokens)
  indentless : ∀ anchors tokens,
    Leaves (Content.readIndentless? prefixes fuel anchors tokens) (· <:+ tokens)
  blockEntries : ∀ anchors tokens,
    Leaves (Content.readBlockEntries? prefixes fuel anchors tokens) (· <:+ tokens)
  blockValue : ∀ anchors tokens,
    Leaves (Content.readBlockValue? prefixes fuel anchors tokens) (· <:+ tokens)
  flowItems : ∀ first anchors tokens,
    Leaves (Content.readFlowItems? prefixes fuel first anchors tokens) (· <:+ tokens)
  flowPair : ∀ anchors tokens,
    Leaves (Content.readFlowPair? prefixes fuel anchors tokens) (· <:+ tokens)
  flowValue : ∀ ends anchors tokens,
    Leaves (Content.readFlowValue? prefixes fuel ends anchors tokens) (· <:+ tokens)
  flowEntries : ∀ first anchors tokens,
    Leaves (Content.readFlowEntries? prefixes fuel first anchors tokens) (· <:+ tokens)

theorem properties_suffix (tokens : List Token) : (Properties.read tokens).2 <:+ tokens := by
  unfold Properties.read
  split <;> simp [List.suffix_cons_iff]

/-- What is read behind the comma between two entries. -/
theorem behind_comma {first : Bool} {tokens body : List Token}
    (given : (if first then some tokens else
      match tokens with
      | .flowEntry :: rest => some rest
      | _ => none) = some body) : body <:+ tokens := by
  split at given
  · cases given
    exact List.suffix_rfl
  · split at given
    · cases given
      exact List.suffix_cons _ _
    · cases given

section
variable {prefixes : Prefixes} {fuel : Nat} (inner : LeaveEnds prefixes fuel)
include inner

theorem content_ends (block indentless : Bool) (anchors : Anchors) (tokens : List Token) :
    Leaves (Content.read? prefixes (fuel + 1) block indentless anchors tokens) (· <:+ tokens) := by
  by_cases known : ∃ name rest, tokens = .alias name :: rest
  · obtain ⟨name, rest, rfl⟩ := known
    rw [Content.read?]
    intro content after left given
    obtain ⟨number, -, same⟩ := Option.map_eq_some_iff.mp given
    cases same
    exact List.suffix_cons _ _
  · have short := properties_suffix tokens
    rw [Content.read?.eq_3 _ _ _ _ _ _ fun name rest same => known ⟨name, rest, same⟩]
    generalize Properties.read tokens = read at short ⊢
    obtain ⟨properties, body⟩ := read
    have notWritten {held : Content} {known : Anchors} (written : Bool) :
        Leaves (if written then some (held, known, body) else none) (· <:+ tokens) := by
      cases written
      · exact leaves_none
      · exact leaves_some short
    have inside {later : List Token} (within : later <:+ body) (rest : List Token)
        (less : rest <:+ later) : rest <:+ tokens := less.trans (within.trans short)
    dsimp only
    split
    · exact leaves_none
    · split
      · exact leaves_some ((List.suffix_cons _ _).trans short)
      · exact Leaves.map (inner.flowItems _ _ _) (inside (List.suffix_cons _ _)) fun _ => rfl
      · exact Leaves.map (inner.flowEntries _ _ _) (inside (List.suffix_cons _ _)) fun _ => rfl
      · split
        · exact Leaves.map (inner.indentless _ _) (inside List.suffix_rfl) fun _ => rfl
        · exact notWritten _
      · split
        · exact Leaves.map (inner.blockItems _ _) (inside (List.suffix_cons _ _)) fun _ => rfl
        · exact notWritten _
      · split
        · exact Leaves.map (inner.blockEntries _ _) (inside (List.suffix_cons _ _)) fun _ => rfl
        · exact notWritten _
      · exact leaves_none
      · exact notWritten _

theorem optional_ends (block indentless : Bool) (ends : List Token) (anchors : Anchors)
    (tokens : List Token) :
    Leaves (Content.readOptional? prefixes (fuel + 1) block indentless ends anchors tokens)
      (· <:+ tokens) := by
  rw [Content.readOptional?]
  split
  · exact leaves_some List.suffix_rfl
  · exact inner.content _ _ _ _

theorem blockItems_ends (anchors : Anchors) (tokens : List Token) :
    Leaves (Content.readBlockItems? prefixes (fuel + 1) anchors tokens) (· <:+ tokens) := by
  unfold Content.readBlockItems?
  split
  case h_1 => exact leaves_none
  case h_2 => exact leaves_some (List.suffix_cons _ _)
  case h_3 same =>
    cases same
    refine Leaves.bind (inner.optional _ _ _ _ _) fun item known rest short => ?_
    refine Leaves.bind (inner.blockItems _ _) fun items known rest' shorter => ?_
    exact leaves_some (shorter.trans (short.trans (List.suffix_cons _ _)))
  case h_4 => exact leaves_none

theorem indentless_ends (anchors : Anchors) (tokens : List Token) :
    Leaves (Content.readIndentless? prefixes (fuel + 1) anchors tokens) (· <:+ tokens) := by
  unfold Content.readIndentless?
  split
  case h_1 => exact leaves_none
  case h_2 same =>
    cases same
    refine Leaves.bind (inner.optional _ _ _ _ _) fun item known rest short => ?_
    refine Leaves.bind (inner.indentless _ _) fun items known rest' shorter => ?_
    exact leaves_some (shorter.trans (short.trans (List.suffix_cons _ _)))
  case h_3 => exact leaves_none
  case h_4 => exact leaves_some List.suffix_rfl

theorem blockEntries_ends (anchors : Anchors) (tokens : List Token) :
    Leaves (Content.readBlockEntries? prefixes (fuel + 1) anchors tokens) (· <:+ tokens) := by
  unfold Content.readBlockEntries?
  split
  case h_1 => exact leaves_none
  case h_2 => exact leaves_some (List.suffix_cons _ _)
  case h_3 same =>
    cases same
    refine Leaves.bind (inner.optional _ _ _ _ _) fun key known rest short => ?_
    refine Leaves.bind (inner.blockValue _ _) fun value known rest' shorter => ?_
    refine Leaves.bind (inner.blockEntries _ _) fun entries known rest'' shortest => ?_
    exact leaves_some (shortest.trans (shorter.trans (short.trans (List.suffix_cons _ _))))
  case h_4 => exact leaves_none

theorem blockValue_ends (anchors : Anchors) (tokens : List Token) :
    Leaves (Content.readBlockValue? prefixes (fuel + 1) anchors tokens) (· <:+ tokens) := by
  unfold Content.readBlockValue?
  split
  case h_1 => exact leaves_none
  case h_2 same =>
    cases same
    exact (inner.optional _ _ _ _ _).imp fun _ less => less.trans (List.suffix_cons _ _)
  case h_3 => exact leaves_none
  case h_4 => exact leaves_some List.suffix_rfl

theorem flowItems_ends (first : Bool) (anchors : Anchors) (tokens : List Token) :
    Leaves (Content.readFlowItems? prefixes (fuel + 1) first anchors tokens) (· <:+ tokens) := by
  unfold Content.readFlowItems?
  split
  case h_1 => exact leaves_none
  case h_2 => exact leaves_some (List.suffix_cons _ _)
  case h_3 same _ =>
    cases same
    dsimp only
    split
    case h_1 => exact leaves_none
    case h_2 body =>
      exact leaves_some ((List.suffix_cons _ _).trans (behind_comma body))
    case h_3 body =>
      refine Leaves.bind (inner.flowPair _ _) fun entry known rest short => ?_
      refine Leaves.bind (inner.flowItems _ _ _) fun items known rest' shorter => ?_
      exact leaves_some (shorter.trans (short.trans
        ((List.suffix_cons _ _).trans (behind_comma body))))
    case h_4 body =>
      refine Leaves.bind (inner.content _ _ _ _) fun item known rest short => ?_
      refine Leaves.bind (inner.flowItems _ _ _) fun items known rest' shorter => ?_
      exact leaves_some (shorter.trans (short.trans (behind_comma body)))

/-- The value of a pair leaves an end of what the key left. -/
theorem pairValue_ends {tokens rest : List Token} (key : Content) (anchors : Anchors)
    (short : rest <:+ tokens) :
    Leaves (do
      let (value, anchors, rest) ←
        Content.readFlowValue? prefixes fuel [.flowEntry, .flowSequenceEnd] anchors rest
      return ((key, value), anchors, rest)) (· <:+ tokens) :=
  Leaves.bind (inner.flowValue _ _ _) fun _ _ _ shorter => leaves_some (shorter.trans short)

theorem flowPair_ends (anchors : Anchors) (tokens : List Token) :
    Leaves (Content.readFlowPair? prefixes (fuel + 1) anchors tokens) (· <:+ tokens) := by
  rw [Content.readFlowPair?]
  dsimp only
  split
  · exact pairValue_ends inner _ _ (List.tail_suffix _)
  · exact Leaves.bind (inner.content _ _ _ _) fun key known _ short =>
      pairValue_ends inner key known short

theorem flowValue_ends (ends : List Token) (anchors : Anchors) (tokens : List Token) :
    Leaves (Content.readFlowValue? prefixes (fuel + 1) ends anchors tokens) (· <:+ tokens) := by
  unfold Content.readFlowValue?
  split
  case h_1 => exact leaves_none
  case h_2 same =>
    cases same
    exact (inner.optional _ _ _ _ _).imp fun _ less => less.trans (List.suffix_cons _ _)
  case h_3 => exact leaves_none
  case h_4 => exact leaves_some List.suffix_rfl

theorem flowEntries_ends (first : Bool) (anchors : Anchors) (tokens : List Token) :
    Leaves (Content.readFlowEntries? prefixes (fuel + 1) first anchors tokens) (· <:+ tokens) := by
  unfold Content.readFlowEntries?
  split
  case h_1 => exact leaves_none
  case h_2 => exact leaves_some (List.suffix_cons _ _)
  case h_3 same _ =>
    cases same
    dsimp only
    split
    case h_1 => exact leaves_none
    case h_2 body =>
      exact leaves_some ((List.suffix_cons _ _).trans (behind_comma body))
    case h_3 body =>
      refine Leaves.bind (inner.optional _ _ _ _ _) fun key known rest short => ?_
      refine Leaves.bind (inner.flowValue _ _ _) fun value known rest' shorter => ?_
      refine Leaves.bind (inner.flowEntries _ _ _) fun entries known rest'' shortest => ?_
      exact leaves_some (shortest.trans (shorter.trans (short.trans
        ((List.suffix_cons _ _).trans (behind_comma body)))))
    case h_4 body =>
      refine Leaves.bind (inner.content _ _ _ _) fun key known rest short => ?_
      refine Leaves.bind (inner.flowEntries _ _ _) fun entries known rest' shorter => ?_
      exact leaves_some (shorter.trans (short.trans (behind_comma body)))

end

/-- Every reader leaves an end of its tokens, however long it may read. -/
theorem leaveEnds (prefixes : Prefixes) (fuel : Nat) : LeaveEnds prefixes fuel := by
  induction fuel with
  | zero => constructor <;> intros <;> exact leaves_none
  | succ fuel inner =>
    exact ⟨content_ends inner, optional_ends inner, blockItems_ends inner, indentless_ends inner,
      blockEntries_ends inner, blockValue_ends inner, flowItems_ends inner, flowPair_ends inner,
      flowValue_ends inner, flowEntries_ends inner⟩

/-! ## Documents -/

theorem readDirectives_suffix (versioned : Bool) (prefixes : Prefixes) (tokens : List Token)
    {known : Prefixes} {rest : List Token}
    (read : Document.readDirectives? versioned prefixes tokens = some (known, rest)) :
    rest <:+ tokens := by
  fun_induction Document.readDirectives? versioned prefixes tokens with
  | case1 _ _ _ _ _ _ ih => exact (ih read).trans (List.suffix_cons _ _)
  | case2 => cases read
  | case3 => cases read
  | case4 _ _ _ _ _ _ ih => exact (ih read).trans (List.suffix_cons _ _)
  | case5 =>
    cases read
    exact List.suffix_rfl

theorem skipEnds_suffix (tokens : List Token) : Document.skipEnds tokens <:+ tokens := by
  fun_induction Document.skipEnds tokens with
  | case1 rest ih => exact ih.trans (List.suffix_cons _ _)
  | case2 => exact List.suffix_rfl

/-- A document with this content, and what is left behind the marker of its end. -/
def closed : Content × Anchors × List Token → Option (Document × List Token)
  | (_, _, .broken :: _) => none
  | (content, anchors, .documentEnd :: rest) => some (⟨content, anchors⟩, rest)
  | (content, anchors, rest) => some (⟨content, anchors⟩, rest)

theorem closed_suffix {content : Content} {anchors : Anchors} {tokens rest : List Token}
    {document : Document} (ends : closed (content, anchors, tokens) = some (document, rest)) :
    rest <:+ tokens := by
  rw [closed.eq_def] at ends
  split at ends
  · cases ends
  · rename_i same
    cases same
    cases ends
    exact List.suffix_cons _ _
  · rename_i same
    cases same
    cases ends
    exact List.suffix_rfl

section
variable {fuel : Nat} {first : Bool} {tokens : List Token}

theorem closing (read : Option (Content × Anchors × List Token)) :
    (do
      let (content, anchors, rest) ← read
      match rest with
      | .broken :: _ => none
      | .documentEnd :: rest => some (Document.mk content anchors, rest)
      | rest => some (Document.mk content anchors, rest)) = read.bind closed := by
  refine congrArg _ (funext fun (content, anchors, rest) => ?_)
  rw [closed.eq_def]
  rcases rest with _ | ⟨token, rest⟩
  · rfl
  · cases token <;> rfl

theorem read_bare (bare : (first && Document.isBare tokens) = true) :
    Document.read? fuel first tokens =
      (Content.read? Document.usualPrefixes fuel true false Anchors.empty tokens).bind closed := by
  rw [Document.read?, if_pos bare]
  exact closing _

theorem read_marked (marked : (first && Document.isBare tokens) = false) :
    Document.read? fuel first tokens =
      (Document.readDirectives? false [] tokens).bind fun (prefixes, body) =>
        match body with
        | .documentStart :: rest => (Document.readMarked? fuel prefixes rest).bind closed
        | _ => none := by
  rw [Document.read?, if_neg (by simp [marked])]
  cases Document.readDirectives? false [] tokens with
  | none => rfl
  | some given =>
    obtain ⟨prefixes, _ | ⟨token, rest⟩⟩ := given
    · rfl
    · cases token
      case documentStart => exact closing _
      all_goals rfl

theorem readMarked_ends (prefixes : Prefixes) (tokens : List Token) :
    Leaves (Document.readMarked? fuel prefixes tokens) (· <:+ tokens) := by
  rw [Document.readMarked?]
  split
  · exact leaves_some List.suffix_rfl
  · exact (leaveEnds _ _).content _ _ _ _

/-- A document leaves an end of the tokens, like the contents. -/
theorem document_suffix {rest : List Token} {document : Document}
    (read : Document.read? fuel first tokens = some (document, rest)) : rest <:+ tokens := by
  cases bare : first && Document.isBare tokens with
  | true =>
    rw [read_bare bare] at read
    obtain ⟨⟨content, anchors, left⟩, found, ends⟩ := Option.bind_eq_some_iff.mp read
    exact (closed_suffix ends).trans ((leaveEnds _ _).content _ _ _ _ _ _ _ found)
  | false =>
    rw [read_marked bare] at read
    obtain ⟨⟨prefixes, body⟩, directives, later⟩ := Option.bind_eq_some_iff.mp read
    dsimp only at later
    split at later
    case h_1 =>
      obtain ⟨⟨content, anchors, left⟩, found, ends⟩ := Option.bind_eq_some_iff.mp later
      exact (closed_suffix ends).trans ((readMarked_ends _ _ _ _ _ found).trans
        ((List.suffix_cons _ _).trans (readDirectives_suffix _ _ _ directives)))
    case h_2 => cases later

end

/-- Without the end of the stream there is no end of the documents either, so that one of them
breaks the rules. -/
theorem readFrom_unended (size fuel : Nat) (first : Bool) (tokens : List Token)
    (unended : .streamEnd ∉ tokens) :
    none ∈ Document.readFrom size fuel first tokens := by
  induction fuel generalizing first tokens with
  | zero => exact List.mem_singleton_self _
  | succ fuel ih =>
    have start : (if first then tokens else Document.skipEnds tokens) <:+ tokens := by
      cases first
      · exact skipEnds_suffix tokens
      · exact List.suffix_rfl
    have going : (if first then tokens else Document.skipEnds tokens).head? ≠ some .streamEnd :=
      fun ends => unended (start.subset (List.mem_of_mem_head? ends))
    rw [Document.readFrom]
    simp only [if_neg going]
    split
    · exact List.mem_singleton_self _
    · rename_i document rest read
      have less := (document_suffix read).trans start
      exact List.mem_cons_of_mem _ (ih false rest fun member => unended (less.subset member))

end ValuePath.ContentRests
