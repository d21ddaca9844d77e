import Mathlib.Data.List.Induction
import Mathlib.Data.String.Basic
import ValuePath.Json.Reader

/-! Associations in which no key stands twice. Putting entries in order keeps
them so, an association without repeated keys is what results from its own
entries, and the entries of a JSON object stand in the order of their keys. -/
namespace ValuePath.DistinctKeys

variable {κ α : Type}

theorem keys_cons (key : κ) (value : α) (entries : List (κ × α)) :
    Entries.keys ((key, value) :: entries) = key :: Entries.keys entries := rfl

variable [DecidableEq κ]

theorem mem_keys_insert {key sought : κ} {value : α} {entries : List (κ × α)} :
    sought ∈ Entries.keys (Entries.insert key value entries) ↔
      sought = key ∨ sought ∈ Entries.keys entries := by
  induction entries with
  | nil => simp [Entries.insert, Entries.keys]
  | cons entry rest ih =>
    obtain ⟨other, held⟩ := entry
    rw [Entries.insert]
    split
    · rename_i same
      simp [keys_cons, same]
    · rw [keys_cons, keys_cons, List.mem_cons, ih, List.mem_cons, or_left_comm]

theorem distinct_insert {entries : List (κ × α)} (distinct : Entries.Distinct entries)
    (key : κ) (value : α) : Entries.Distinct (Entries.insert key value entries) := by
  induction entries with
  | nil => simp [Entries.insert, Entries.Distinct, Entries.keys]
  | cons entry rest ih =>
    obtain ⟨other, held⟩ := entry
    obtain ⟨fresh, others⟩ := List.nodup_cons.mp distinct
    rw [Entries.insert]
    split
    · exact distinct
    · rename_i apart
      refine List.nodup_cons.mpr ⟨?_, ih others⟩
      intro member
      rcases mem_keys_insert.mp member with same | later
      · exact apart same
      · exact fresh later

/-- What every insertion keeps holds of the association of all pairs. -/
theorem ofPairs_induction {kept : List (κ × α) → Prop} (none : kept [])
    (pairs : List (κ × α)) (step : ∀ entries, kept entries → ∀ pair ∈ pairs,
      kept (Entries.insert pair.1 pair.2 entries)) : kept (Entries.ofPairs pairs) :=
  List.foldlRecOn pairs _ none step

theorem distinct_ofPairs (pairs : List (κ × α)) : Entries.Distinct (Entries.ofPairs pairs) := by
  have empty : Entries.Distinct ([] : List (κ × α)) := List.nodup_nil
  exact ofPairs_induction empty pairs fun _ distinct _ _ => distinct_insert distinct _ _

/-- A new key takes its place at the end. -/
theorem insert_fresh {key : κ} {entries : List (κ × α)} (fresh : key ∉ Entries.keys entries)
    (value : α) : Entries.insert key value entries = entries ++ [(key, value)] := by
  induction entries with
  | nil => rfl
  | cons entry rest ih =>
    obtain ⟨other, held⟩ := entry
    rw [keys_cons, List.mem_cons, not_or] at fresh
    rw [Entries.insert, if_neg (Ne.symm fresh.1), ih fresh.2, List.cons_append]

theorem ofPairs_concat (pairs : List (κ × α)) (pair : κ × α) :
    Entries.ofPairs (pairs ++ [pair]) = Entries.insert pair.1 pair.2 (Entries.ofPairs pairs) :=
  List.foldl_append

theorem ofPairs_of_distinct {pairs : List (κ × α)} (distinct : Entries.Distinct pairs) :
    Entries.ofPairs pairs = pairs := by
  induction pairs using List.reverseRecOn with
  | nil => rfl
  | append_singleton earlier pair ih =>
    rw [Entries.Distinct, Entries.keys, List.map_append, List.nodup_append] at distinct
    obtain ⟨before, -, apart⟩ := distinct
    have fresh : pair.1 ∉ Entries.keys earlier := fun member =>
      apart pair.1 member pair.1 List.mem_cons_self rfl
    rw [ofPairs_concat, ih before, insert_fresh fresh]

theorem find_of_mem {key : κ} {value : α} {entries : List (κ × α)}
    (distinct : Entries.Distinct entries) (member : (key, value) ∈ entries) :
    Entries.find? key entries = some value := by
  induction entries with
  | nil => cases member
  | cons entry rest ih =>
    obtain ⟨other, held⟩ := entry
    obtain ⟨fresh, others⟩ := List.nodup_cons.mp distinct
    rcases List.mem_cons.mp member with same | later
    · cases same
      exact if_pos rfl
    · have apart : other ≠ key := by
        rintro rfl
        exact fresh (List.mem_map.mpr ⟨_, later, rfl⟩)
      rw [Entries.find?, if_neg apart]
      exact ih others later

theorem mem_of_find {key : κ} {value : α} {entries : List (κ × α)}
    (found : Entries.find? key entries = some value) : (key, value) ∈ entries := by
  induction entries with
  | nil => cases found
  | cons entry rest ih =>
    obtain ⟨other, held⟩ := entry
    rw [Entries.find?] at found
    split at found
    · rename_i same
      cases found
      exact same ▸ List.mem_cons_self
    · exact List.mem_cons_of_mem _ (ih found)

theorem find_isSome_iff {key : κ} {entries : List (κ × α)} :
    (Entries.find? key entries).isSome ↔ key ∈ Entries.keys entries := by
  induction entries with
  | nil => simp [Entries.find?, Entries.keys]
  | cons entry rest ih =>
    obtain ⟨other, held⟩ := entry
    rw [Entries.find?, keys_cons, List.mem_cons, ← ih]
    split
    · rename_i same
      simp [same]
    · rename_i apart
      simp [Ne.symm apart]

theorem find_append (key : κ) (front back : List (κ × α)) :
    Entries.find? key (front ++ back) = (Entries.find? key front).or (Entries.find? key back) := by
  induction front with
  | nil => rfl
  | cons entry rest ih =>
    obtain ⟨other, held⟩ := entry
    rw [List.cons_append, Entries.find?, Entries.find?, ih]
    split
    · rfl
    · rfl

/-- Distinct keys in one order, with one value under each, make one association. -/
theorem eq_of_same_keys {entries others : List (κ × α)} (distinct : Entries.Distinct entries)
    (same : Entries.keys entries = Entries.keys others)
    (agree : ∀ key value, (key, value) ∈ entries → Entries.find? key others = some value) :
    entries = others := by
  induction entries generalizing others with
  | nil => exact (List.map_eq_nil_iff.mp same.symm).symm
  | cons entry rest ih =>
    obtain ⟨key, value⟩ := entry
    obtain ⟨fresh, apart⟩ := List.nodup_cons.mp distinct
    cases others with
    | nil => cases same
    | cons other others =>
      obtain ⟨name, held⟩ := other
      obtain ⟨rfl, behind⟩ := List.cons.inj same
      have here := agree key value List.mem_cons_self
      rw [Entries.find?, if_pos rfl] at here
      cases here
      refine congrArg ((key, value) :: ·) (ih apart behind fun later found member => ?_)
      have moved : key ≠ later := by
        rintro rfl
        exact fresh (List.mem_map.mpr ⟨_, member, rfl⟩)
      rw [← agree later found (List.mem_cons_of_mem _ member), Entries.find?, if_neg moved]

/-! ## Keys in order of insertion -/

/-- A name that is mentioned once more does not count, unless it is new. -/
theorem eraseDups_concat (names : List κ) (name : κ) : (names ++ [name]).eraseDups =
    if name ∈ names then names.eraseDups else names.eraseDups ++ [name] := by
  rw [List.eraseDups_append]
  by_cases known : name ∈ names
  · simp [List.removeAll, known]
  · simp [List.removeAll, known, List.eraseDups_cons]

theorem eraseDups_sublist (names : List κ) : names.eraseDups.Sublist names := by
  induction names using List.reverseRecOn with
  | nil => exact .slnil
  | append_singleton earlier name ih =>
    rw [eraseDups_concat]
    split
    · exact ih.trans (List.sublist_append_left _ _)
    · exact ih.append_right _

theorem keys_update (key : κ) (initial : α) (change : α → α) (entries : List (κ × α)) :
    Entries.keys (Entries.update key initial change entries) =
      if key ∈ Entries.keys entries then Entries.keys entries
      else Entries.keys entries ++ [key] := by
  induction entries with
  | nil => rfl
  | cons entry rest ih =>
    obtain ⟨other, held⟩ := entry
    rw [Entries.update, keys_cons]
    by_cases here : other = key
    · simp [keys_cons, here]
    · rw [if_neg here, keys_cons, ih]
      by_cases later : key ∈ Entries.keys rest
      · simp [later]
      · simp [later, Ne.symm here]

/-- To insert a value is to change whatever there is into it. -/
theorem insert_eq_update (key : κ) (value : α) (entries : List (κ × α)) :
    Entries.insert key value entries = Entries.update key value (fun _ => value) entries := by
  induction entries with
  | nil => rfl
  | cons entry rest ih => rw [Entries.insert, Entries.update, ih]

theorem find_insert (key sought : κ) (value : α) (entries : List (κ × α)) :
    Entries.find? sought (Entries.insert key value entries) =
      if key = sought then some value else Entries.find? sought entries := by
  induction entries with
  | nil => rfl
  | cons entry rest ih =>
    obtain ⟨other, held⟩ := entry
    rw [Entries.insert]
    by_cases here : other = key
    · subst here
      by_cases same : other = sought
      · simp [Entries.find?, same]
      · simp [Entries.find?, same]
    · rw [if_neg here, Entries.find?, Entries.find?, ih]
      by_cases same : other = sought
      · subst same
        simp [Ne.symm here]
      · simp [same]

/-- The keys of all pairs, each one where it stood first. -/
theorem keys_ofPairs (pairs : List (κ × α)) :
    Entries.keys (Entries.ofPairs pairs) = (Entries.keys pairs).eraseDups := by
  induction pairs using List.reverseRecOn with
  | nil => rfl
  | append_singleton earlier pair ih =>
    have names : Entries.keys (earlier ++ [pair]) = Entries.keys earlier ++ [pair.1] :=
      List.map_append
    rw [ofPairs_concat, insert_eq_update, keys_update, ih, names, eraseDups_concat]
    simp only [List.mem_eraseDups]

/-- Every pair keeps a place of its own just if no two of them have one key. -/
theorem length_ofPairs_iff {pairs : List (κ × α)} :
    (Entries.ofPairs pairs).length = pairs.length ↔ Entries.Distinct pairs := by
  constructor
  · intro count
    have distinct := distinct_ofPairs pairs
    have all : (Entries.keys pairs).eraseDups = Entries.keys pairs := by
      refine (eraseDups_sublist _).eq_of_length ?_
      rw [← keys_ofPairs, Entries.keys, Entries.keys, List.length_map, List.length_map, count]
    rwa [Entries.Distinct, keys_ofPairs, all] at distinct
  · intro distinct
    rw [ofPairs_of_distinct distinct]

/-- The value that was put under a key last. -/
theorem find_ofPairs (key : κ) (pairs : List (κ × α)) :
    Entries.find? key (Entries.ofPairs pairs) = Entries.find? key pairs.reverse := by
  induction pairs using List.reverseRecOn with
  | nil => rfl
  | append_singleton earlier pair ih =>
    rw [ofPairs_concat, find_insert, ih, List.reverse_append]
    rfl

/-! ## Objects of JSON -/

/-- The keys stand in increasing order. -/
def Sorted (entries : List (String × α)) : Prop := (Entries.keys entries).Pairwise (· < ·)

theorem Sorted.distinct {entries : List (String × α)} (sorted : Sorted entries) :
    Entries.Distinct entries := sorted.imp fun less same => by
  subst same
  exact String.lt_irrefl _ less

theorem mem_keys_insertSorted {key sought : String} {value : Json}
    {entries : List (String × Json)} :
    sought ∈ Entries.keys (Json.insertSorted key value entries) ↔
      sought = key ∨ sought ∈ Entries.keys entries := by
  induction entries with
  | nil => simp [Json.insertSorted, Entries.keys]
  | cons entry rest ih =>
    obtain ⟨other, held⟩ := entry
    rw [Json.insertSorted]
    split
    · rename_i same
      simp [keys_cons, same]
    · split
      · simp [keys_cons]
      · rw [keys_cons, keys_cons, List.mem_cons, ih, List.mem_cons, or_left_comm]

theorem sorted_insertSorted {entries : List (String × Json)} (sorted : Sorted entries)
    (key : String) (value : Json) : Sorted (Json.insertSorted key value entries) := by
  induction entries with
  | nil => simp [Json.insertSorted, Sorted, Entries.keys]
  | cons entry rest ih =>
    obtain ⟨other, held⟩ := entry
    obtain ⟨least, later⟩ := List.pairwise_cons.mp sorted
    rw [Json.insertSorted]
    split
    · rename_i same
      subst same
      exact sorted
    · rename_i apart
      split
      · rename_i less
        refine List.pairwise_cons.mpr ⟨?_, sorted⟩
        intro sought member
        rcases List.mem_cons.mp member with rfl | behind
        · exact less
        · exact String.lt_trans less (least sought behind)
      · rename_i notLess
        refine List.pairwise_cons.mpr ⟨?_, ih later⟩
        intro sought member
        rcases mem_keys_insertSorted.mp member with rfl | behind
        · exact lt_of_le_of_ne (not_lt.mp notLess) (Ne.symm apart)
        · exact least sought behind

/-- A new key is put among the others, which all stay. -/
theorem perm_insertSorted {key : String} {entries : List (String × Json)}
    (fresh : key ∉ Entries.keys entries) (value : Json) :
    (Json.insertSorted key value entries).Perm ((key, value) :: entries) := by
  induction entries with
  | nil => exact .refl _
  | cons entry rest ih =>
    obtain ⟨other, held⟩ := entry
    rw [keys_cons, List.mem_cons, not_or] at fresh
    rw [Json.insertSorted, if_neg fresh.1]
    split
    · exact .refl _
    · exact ((ih fresh.2).cons _).trans (.swap _ _ _)

/-- The entries of an object in the order of their keys. -/
def arranged (entries : List (String × Json)) : List (String × Json) :=
  entries.foldl (fun sorted (key, value) => Json.insertSorted key value sorted) []

/-- What every insertion keeps holds of the arranged entries. -/
theorem arranged_induction {kept : List (String × Json) → Prop} (none : kept [])
    (entries : List (String × Json)) (step : ∀ sorted, kept sorted → ∀ entry ∈ entries,
      kept (Json.insertSorted entry.1 entry.2 sorted)) : kept (arranged entries) :=
  List.foldlRecOn entries _ none step

theorem sorted_arranged (entries : List (String × Json)) : Sorted (arranged entries) := by
  have empty : Sorted ([] : List (String × Json)) := List.Pairwise.nil
  exact arranged_induction empty entries fun _ sorted _ _ => sorted_insertSorted sorted _ _

theorem perm_arranged {entries : List (String × Json)} (distinct : Entries.Distinct entries) :
    (arranged entries).Perm entries := by
  induction entries using List.reverseRecOn with
  | nil => exact .refl _
  | append_singleton earlier entry ih =>
    rw [Entries.Distinct, Entries.keys, List.map_append, List.nodup_append] at distinct
    obtain ⟨before, -, apart⟩ := distinct
    have perm := ih before
    have fresh : entry.1 ∉ Entries.keys (arranged earlier) := fun member =>
      apart entry.1 ((perm.map Prod.fst).mem_iff.mp member) entry.1 List.mem_cons_self rfl
    have last : arranged (earlier ++ [entry]) =
        Json.insertSorted entry.1 entry.2 (arranged earlier) := List.foldl_append
    rw [last]
    exact ((perm_insertSorted fresh entry.2).trans (perm.cons entry)).trans
      (List.perm_append_singleton entry earlier).symm

end ValuePath.DistinctKeys
