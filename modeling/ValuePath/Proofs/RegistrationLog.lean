import Mathlib.Data.List.Perm.Basic
import ValuePath.Proofs.MemberTables
import ValuePath.Proofs.OverloadDispatch
import ValuePath.Proofs.QuotedNames

/-! A member table is what its log of registrations says. A field stands where its
name was registered first and is read as it was registered last; the methods of one
name and number of parameters are those that were registered with them, in their
order, so that every registered method stands in just one place. -/
namespace ValuePath.RegistrationLog
open DistinctKeys MemberTables QuotedNames
open OverloadDispatch (declared methods_build build_name)

variable {τ : Type}

/-- The supertypes that a log declares, in order. -/
def supertypes (log : List (Registration τ)) : List String :=
  log.filterMap fun
    | .supertype name => some name
    | _ => none

/-- The names under which a log registers fields, in order and with repetitions. -/
def fieldNames (log : List (Registration τ)) : List String :=
  log.filterMap fun
    | .field name _ => some name
    | _ => none

/-- The names under which a log registers methods, in order and with repetitions. -/
def methodNames (log : List (Registration τ)) : List String :=
  log.filterMap fun
    | .method name _ _ => some name
    | _ => none

/-- The getters that a log registers under a name, in order. -/
def getters (name : String) (log : List (Registration τ)) : List (τ → Value) :=
  log.filterMap fun
    | .field other read => if other = name then some read else none
    | _ => none

/-- The field that reads its receiver through this getter. -/
def reader (receiver : Value → Option τ) (name : String) (read : τ → Value) : Field :=
  ⟨name, fun value => (receiver value).map read⟩

/-- What the parts of a table hold once a log is registered. -/
structure Represents (receiver : Value → Option τ) (log : List (Registration τ))
    (info : TypeInfo) : Prop where
  supertypes : info.supertypes = supertypes log
  fieldNames : Entries.keys info.fieldTable = (fieldNames log).eraseDups
  field : ∀ name, info.field? name = (getters name log).getLast?.map (reader receiver name)
  methodNames : Entries.keys info.methodTable = (methodNames log).eraseDups

/-- The summary of a type tells its name and its supertypes, and each name of a field and of a
method once, in the order of the first registrations. -/
def Tells (summary typeName : String) (log : List (Registration τ)) : Prop :=
  ∃ own supers fields methods, Quotes own typeName ∧ Lists supers (supertypes log) ∧
    Lists fields (fieldNames log).eraseDups ∧ Lists methods (methodNames log).eraseDups ∧
    summary = "TypeInfo \x7b name: " ++ own ++ ", supertypes: " ++ supers ++
      ", fields: " ++ fields ++ ", methods: " ++ methods ++ " \x7d"

/-! ## One registration after the other -/

section Registering
variable {receiver : Value → Option τ} {log : List (Registration τ)} {info : TypeInfo}

theorem represents_register (represents : Represents receiver log info)
    (registration : Registration τ) :
    Represents receiver (log ++ [registration]) (info.register receiver registration) := by
  obtain ⟨supers, fields, field, methods⟩ := represents
  cases registration with
  | supertype name =>
    have noGetter (sought : String) : getters sought (log ++ [.supertype name]) =
        getters sought log := by simp [getters]
    refine ⟨?_, ?_, fun sought => ?_, ?_⟩
    · simp [TypeInfo.register, supertypes, supers]
    · simpa [fieldNames, TypeInfo.register] using fields
    · rw [noGetter]
      exact field sought
    · simpa [methodNames, TypeInfo.register] using methods
  | field name read =>
    refine ⟨?_, ?_, fun sought => ?_, ?_⟩
    · simpa [supertypes, TypeInfo.register] using supers
    · have names : fieldNames (log ++ [.field name read]) = fieldNames log ++ [name] := by
        simp [fieldNames]
      rw [names, eraseDups_concat, TypeInfo.register, insert_eq_update, keys_update, fields]
      simp only [List.mem_eraseDups]
    · rw [TypeInfo.field?, TypeInfo.register, find_insert]
      by_cases same : name = sought
      · simp [getters, same, reader]
      · have noGetter : getters sought (log ++ [.field name read]) = getters sought log := by
          simp [getters, same]
        rw [if_neg same, noGetter]
        exact field sought
    · simpa [methodNames, TypeInfo.register] using methods
  | method name params body =>
    have noGetter (sought : String) : getters sought (log ++ [.method name params body]) =
        getters sought log := by simp [getters]
    refine ⟨?_, ?_, fun sought => ?_, ?_⟩
    · simpa [supertypes, TypeInfo.register] using supers
    · simpa [fieldNames, TypeInfo.register] using fields
    · rw [noGetter]
      exact field sought
    · have names : methodNames (log ++ [.method name params body]) = methodNames log ++ [name] := by
        simp [methodNames]
      rw [names, eraseDups_concat, TypeInfo.register, keys_update, methods]
      simp only [List.mem_eraseDups]

/-- A table that represents a log represents it with what is registered later. -/
theorem represents_later (represents : Represents receiver log info)
    (later : List (Registration τ)) :
    Represents receiver (log ++ later) (later.foldl (TypeInfo.register receiver) info) := by
  induction later generalizing log info with
  | nil => rwa [List.append_nil]
  | cons registration rest ih =>
    have next := ih (represents_register represents registration)
    rwa [List.append_assoc, List.singleton_append] at next

theorem represents_build (typeName : String) (receiver : Value → Option τ)
    (log : List (Registration τ)) :
    Represents receiver log (TypeInfo.build typeName receiver log) := by
  have empty : Represents receiver [] (TypeInfo.empty typeName) :=
    ⟨rfl, rfl, fun _ => rfl, rfl⟩
  exact represents_later empty log

end Registering

/-! ## Fields and methods -/

/-- A table lists its fields under their own names, and finds each one under its name. -/
theorem fields_listed (typeName : String) (receiver : Value → Option τ)
    (log : List (Registration τ)) :
    let info := TypeInfo.build typeName receiver log
    info.fields.map Field.name = Entries.keys info.fieldTable ∧
      ∀ field ∈ info.fields, info.field? field.name = some field := by
  intro info
  have registered := build_fields typeName receiver log
  constructor
  · rw [TypeInfo.fields, Entries.values, List.map_map]
    exact List.map_congr_left fun entry member => (registered entry member).1
  · intro field member
    obtain ⟨entry, present, rfl⟩ := List.mem_map.mp member
    rw [(registered entry present).1]
    exact find_of_mem (build_distinct typeName receiver log) present

/-- There is one text that tells what a log registers. -/
theorem tells_iff {typeName : String} {receiver : Value → Option τ}
    {log : List (Registration τ)} {info : TypeInfo} (named : info.name = typeName)
    (represents : Represents receiver log info) {text : String} :
    Tells text typeName log ↔ text = info.summary := by
  unfold TypeInfo.summary
  rw [named, represents.supertypes, represents.fieldNames, represents.methodNames]
  constructor
  · rintro ⟨own, supers, fields, methods, first, second, third, fourth, rfl⟩
    rw [quotes_iff.mp first, lists_iff.mp second, lists_iff.mp third, lists_iff.mp fourth]
  · rintro rfl
    exact ⟨_, _, _, _, quotes_iff.mpr rfl, lists_iff.mpr rfl, lists_iff.mpr rfl,
      lists_iff.mpr rfl, rfl⟩

/-- Items that are looked up under all of their keys, each key once, are all found once. -/
theorem perm_of_filters {α κ : Type} [DecidableEq κ] (key : α → κ) (keys : List κ)
    (distinct : keys.Nodup) (items : List α) (covered : ∀ item ∈ items, key item ∈ keys) :
    (keys.flatMap fun sought => items.filter fun item => key item = sought).Perm items := by
  induction keys generalizing items with
  | nil =>
    cases items with
    | nil => exact .refl _
    | cons item rest => cases covered item List.mem_cons_self
  | cons first rest ih =>
    obtain ⟨fresh, others⟩ := List.nodup_cons.mp distinct
    -- The other keys find nothing among the items of the first one.
    have apart : ∀ sought ∈ rest, (items.filter fun item => key item = sought) =
        (items.filter fun item => !decide (key item = first)).filter fun item =>
          key item = sought := by
      intro sought member
      rw [List.filter_filter]
      apply List.filter_congr
      intro item _
      by_cases here : key item = sought
      · have other : sought ≠ first := fun same => fresh (same ▸ member)
        simp [here, other]
      · simp [here]
    have later := ih others (items.filter fun item => !decide (key item = first)) <| by
      intro item member
      obtain ⟨present, notFirst⟩ := List.mem_filter.mp member
      have known := List.mem_cons.mp (covered item present)
      exact known.resolve_left (by simpa using notFirst)
    rw [List.flatMap_cons, List.flatMap_congr apart]
    exact (later.append_left _).trans (List.filter_append_perm _ items)

/-- A member table represents the log of its registrations. It lists every field once,
in the order of the first registrations of their names, and reads it as it was
registered last. Under a name and a number of parameters it finds the methods that
were registered with them, in order, so that no method is lost or found twice. It is
the type of its own name and of the supertypes in the log, and its summary tells the
names of fields and methods once each, in the order of their first registrations. -/
theorem table_represents_log (typeName : String) (receiver : Value → Option τ)
    (log : List (Registration τ)) :
    let info := TypeInfo.build typeName receiver log
    let methods := declared typeName receiver log
    info.fields.map Field.name = (fieldNames log).eraseDups ∧
    (∀ field ∈ info.fields, info.field? field.name = some field) ∧
    (∀ name, info.field? name = (getters name log).getLast?.map (reader receiver name)) ∧
    (∀ name arity, info.methods name arity =
      methods.filter fun method => method.name = name ∧ method.params.length = arity) ∧
    (∀ keys : List (String × Nat), keys.Nodup →
      (∀ method ∈ methods, (method.name, method.params.length) ∈ keys) →
      (keys.flatMap fun key => info.methods key.1 key.2).Perm methods) ∧
    (∀ name, info.isA name = true ↔ name = typeName ∨ name ∈ supertypes log) ∧
    ∀ text, Tells text typeName log ↔ text = info.summary := by
  intro info methods
  have represents := represents_build typeName receiver log
  obtain ⟨listed, found⟩ := fields_listed typeName receiver log
  refine ⟨listed.trans represents.fieldNames, found, represents.field,
    methods_build typeName receiver log, ?_, ?_, ?_⟩
  · intro keys distinct covered
    have buckets : (keys.flatMap fun key => info.methods key.1 key.2) =
        keys.flatMap fun key => methods.filter fun method =>
          (method.name, method.params.length) = key := by
      apply List.flatMap_congr
      rintro ⟨name, arity⟩ -
      simp only [Prod.mk.injEq]
      exact methods_build typeName receiver log name arity
    rw [buckets]
    exact perm_of_filters _ keys distinct methods covered
  · intro name
    simp only [TypeInfo.isA, info, build_name, represents.supertypes, Bool.or_eq_true, beq_iff_eq,
      List.contains_iff_mem]
    exact or_congr_left eq_comm
  · exact fun text => tells_iff (build_name typeName receiver log) represents

/-- The members of a point, in no good order; one field is registered twice. -/
def point : List (Registration ObjectId) :=
  [ .method "scale" [.primitive .int] fun _ _ => .ok (.string "by an int")
  , .field "x" fun _ => .int 1
  , .supertype "Shape"
  , .method "sum" [] fun _ _ => .ok (.int 3)
  , .field "y" fun _ => .int 2
  , .method "scale" [.object] fun _ _ => .ok (.string "by something")
  , .field "x" fun _ => .int 4 ]

theorem point_table_represents_log :
    let info := TypeInfo.build "Point" Value.asObject? point
    let methods := declared "Point" Value.asObject? point
    let keys : List (String × Nat) := [("sum", 0), ("scale", 1)]
    keys.Nodup ∧ (∀ method ∈ methods, (method.name, method.params.length) ∈ keys) ∧
      (keys.flatMap fun key => info.methods key.1 key.2).Perm methods ∧
      info.fields.map Field.name = ["x", "y"] ∧
      (∀ field ∈ info.fields, info.field? field.name = some field) ∧
      (info.field? "x").bind (·.read (.object 0)) = some (.int 4) ∧
      (info.methods "scale" 1).map Method.params = [[.primitive .int], [.object]] ∧
      info.isA "Shape" = true ∧
      info.summary = "TypeInfo \x7b name: \"Point\", supertypes: [\"Shape\"], " ++
        "fields: [\"x\", \"y\"], methods: [\"scale\", \"sum\"] \x7d" ∧
      Tells info.summary "Point" point := by
  intro info methods keys
  obtain ⟨listed, found, -, -, complete, kinds, tells⟩ :=
    table_represents_log "Point" Value.asObject? point
  have distinct : keys.Nodup := by simp [keys]
  have covered : ∀ method ∈ methods, (method.name, method.params.length) ∈ keys := by
    simp [methods, keys, declared, point, OverloadDispatch.handle]
  exact ⟨distinct, covered, complete keys distinct covered, listed, found, rfl, rfl,
    (kinds "Shape").mpr (.inr List.mem_cons_self), by decide, (tells _).mpr rfl⟩

end ValuePath.RegistrationLog
