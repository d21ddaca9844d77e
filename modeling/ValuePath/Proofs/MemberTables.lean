import ValuePath.Records
import ValuePath.Proofs.DistinctKeys

/-! What a member table holds after its registrations: every readable field
stands under its own name and reads its receiver through the function that the
table was built with. -/
namespace ValuePath.MemberTables

/-- A handle under its own name that reads the receivers of one type. -/
def Registered (receiver : Value → Option τ) (entry : String × Field) : Prop :=
  entry.2.name = entry.1 ∧
    ∃ read : τ → Value, entry.2.read = fun value => (receiver value).map read

private theorem mem_insert {entries : List (String × Field)} {added : Field}
    (member : entry ∈ Entries.insert key added entries) :
    entry = (key, added) ∨ entry ∈ entries := by
  induction entries with
  | nil => simpa [Entries.insert] using member
  | cons first rest ih =>
    obtain ⟨other, held⟩ := first
    rw [Entries.insert] at member
    split at member
    · rename_i same
      subst same
      rcases List.mem_cons.mp member with rfl | later
      · exact .inl rfl
      · exact .inr (List.mem_cons_of_mem _ later)
    · rcases List.mem_cons.mp member with rfl | later
      · exact .inr List.mem_cons_self
      · exact (ih later).imp id (List.mem_cons_of_mem _)

/-- One registration keeps all handles of a table as they should be. -/
theorem register_keeps_fields {receiver : Value → Option τ} {info : TypeInfo}
    (kept : ∀ entry ∈ info.fieldTable, Registered receiver entry)
    (registration : Registration τ) :
    ∀ entry ∈ (info.register receiver registration).fieldTable, Registered receiver entry := by
  cases registration with
  | supertype name => exact kept
  | method name params body => exact kept
  | field name read =>
    intro entry member
    rcases mem_insert member with rfl | before
    · exact ⟨rfl, read, rfl⟩
    · exact kept entry before

theorem build_fields (name : String) (receiver : Value → Option τ) (log : List (Registration τ)) :
    ∀ entry ∈ (TypeInfo.build name receiver log).fieldTable, Registered receiver entry := by
  have run : ∀ info : TypeInfo, (∀ entry ∈ info.fieldTable, Registered receiver entry) →
      ∀ entry ∈ (log.foldl (TypeInfo.register receiver) info).fieldTable,
        Registered receiver entry := by
    induction log with
    | nil => exact fun _ kept => kept
    | cons registration later ih =>
      exact fun info kept => ih _ (register_keeps_fields kept registration)
  apply run
  intro entry member
  cases member

/-- A member table holds each of its fields once. -/
theorem build_distinct (name : String) (receiver : Value → Option τ)
    (log : List (Registration τ)) :
    Entries.Distinct (TypeInfo.build name receiver log).fieldTable := by
  have run : ∀ info : TypeInfo, Entries.Distinct info.fieldTable →
      Entries.Distinct (log.foldl (TypeInfo.register receiver) info).fieldTable := by
    induction log with
    | nil => exact fun _ distinct => distinct
    | cons registration later ih =>
      intro info distinct
      apply ih
      cases registration with
      | supertype name => exact distinct
      | method name params body => exact distinct
      | field name read => exact DistinctKeys.distinct_insert distinct name _
  exact run (TypeInfo.empty name) List.nodup_nil

/-- The member table of every object was built for a type that the object is
a receiver of. -/
def OwnTables (objects : Objects) : Prop :=
  ∀ id, ∃ (τ : Type) (receiver : Value → Option τ) (name : String) (log : List (Registration τ)),
    (objects id).info = TypeInfo.build name receiver log ∧ (receiver (.object id)).isSome

/-- An object can be read through every handle of its own table. -/
theorem own_field_reads {objects : Objects} (own : OwnTables objects) (id : ObjectId) :
    ∀ entry ∈ (objects id).info.fieldTable,
      entry.2.name = entry.1 ∧ ∃ value, entry.2.read (.object id) = some value := by
  obtain ⟨τ, receiver, name, log, built, known⟩ := own id
  obtain ⟨this, seen⟩ := Option.isSome_iff_exists.mp known
  intro entry member
  rw [built] at member
  obtain ⟨named, read, reads⟩ := build_fields name receiver log entry member
  exact ⟨named, read this, by simp [reads, seen]⟩

/-- Objects that are described by records have tables of their own. -/
theorem record_tables_own (records : List Record) : OwnTables (Record.objects records) := by
  intro id
  cases found : records[id]? with
  | none =>
    exact ⟨Unit, fun _ => some (), "Object", [], by simp [Record.objects, found]; rfl, rfl⟩
  | some record =>
    refine ⟨Record, Record.receiver records record.concreteType, record.typeName,
      record.registrations, ?_, ?_⟩
    · simp [Record.objects, found, Record.view]
    · simp [Record.receiver, Value.asObject?, found]

end ValuePath.MemberTables
