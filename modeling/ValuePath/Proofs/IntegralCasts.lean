import Mathlib.Algebra.Order.Ring.Int
import Mathlib.Data.Int.ModEq
import ValuePath.Lookup.Get
import ValuePath.Proofs.MemberCalls

/-! Two ways from a value to an integer: the conversion of a result into an integral type, which
takes a number only where it fits, and the members of scalars, which widen or wrap around. They
agree wherever both have the number. -/
namespace ValuePath.IntegralCasts
open MemberCalls OverloadDispatch

/-- The value is an integral scalar, and this is its number. -/
inductive Integral : Value → Int → Prop where
  | byte (n : Int8) : Integral (.byte n) n.toInt
  | short (n : Int16) : Integral (.short n) n.toInt
  | int (n : Int32) : Integral (.int n) n.toInt
  | long (n : Int64) : Integral (.long n) n.toInt

/-- A signed integer of this width can hold the number. -/
def Within (width : Nat) (n : Int) : Prop := -2 ^ (width - 1) ≤ n ∧ n < 2 ^ (width - 1)

/-- A lookup gives this number, as a scalar of the requested type. -/
def Gives (objects : Objects) (target : CastTarget) (n : Int)
    (result : Except CastError (Option Value)) : Prop :=
  ∃ value, result = .ok (some value) ∧ Integral value n ∧
    value.typeName objects = target.expectedName

/-! ## Conversions -/

theorem integral_iff {value : Value} {n : Int} :
    Integral value n ↔ ∃ m, value.asInt64? = some m ∧ m.toInt = n := by
  constructor
  · rintro (m | m | m | m)
    · exact ⟨_, rfl, Int8.toInt_toInt64 m⟩
    · exact ⟨_, rfl, Int16.toInt_toInt64 m⟩
    · exact ⟨_, rfl, Int32.toInt_toInt64 m⟩
    · exact ⟨m, rfl, rfl⟩
  · rintro ⟨m, held, rfl⟩
    cases value with
    | byte n =>
      cases held
      exact (Int8.toInt_toInt64 n).symm ▸ .byte n
    | short n =>
      cases held
      exact (Int16.toInt_toInt64 n).symm ▸ .short n
    | int n =>
      cases held
      exact (Int32.toInt_toInt64 n).symm ▸ .int n
    | long n =>
      cases held
      exact .long m
    | _ => cases held

theorem fitsWidth_iff {width : Nat} {n : Int} : fitsWidth width n = true ↔ Within width n := by
  have power : (Nat.pow 2 (width - 1) : Int) = 2 ^ (width - 1) := by
    rw [Nat.pow_eq]
    push_cast
    rfl
  rw [fitsWidth, Bool.and_eq_true, decide_eq_true_iff, decide_eq_true_iff, power, Within]

/-- The scalar that an integral type holds a number as. -/
def scalarOf (target : CastTarget) (n : Int64) : Value :=
  match target with
  | .byte => .byte n.toInt8
  | .short => .short n.toInt16
  | .int => .int n.toInt32
  | _ => .long n

section
variable {target : CastTarget} {width : Nat} {value : Value} {n : Int} (objects : Objects)

theorem convert_integral (integral : target.integralWidth? = some width) :
    value.convert? objects target = (value.integralWithin? width).map (scalarOf target) := by
  cases target with
  | byte | short | int | long =>
    cases integral
    rfl
  | _ => cases integral

/-- A number that fits is not changed by narrowing. -/
theorem bmod_within {bits : Nat} (within : Within (bits + 1) n) : n.bmod (2 ^ (bits + 1)) = n := by
  obtain ⟨low, high⟩ := within
  rw [Nat.add_sub_cancel] at low high
  apply Int.bmod_eq_of_le_mul_two <;>
  · push_cast
    rw [pow_succ]
    omega

theorem integral_scalarOf (integral : target.integralWidth? = some width) {m : Int64}
    (within : Within width m.toInt) :
    Integral (scalarOf target m) m.toInt ∧
      (scalarOf target m).typeName objects = target.expectedName := by
  cases target with
  | byte =>
    cases integral
    have same : m.toInt8.toInt = m.toInt := (Int64.toInt_toInt8 m).trans (bmod_within within)
    exact ⟨same ▸ .byte _, rfl⟩
  | short =>
    cases integral
    have same : m.toInt16.toInt = m.toInt := (Int64.toInt_toInt16 m).trans (bmod_within within)
    exact ⟨same ▸ .short _, rfl⟩
  | int =>
    cases integral
    have same : m.toInt32.toInt = m.toInt := (Int64.toInt_toInt32 m).trans (bmod_within within)
    exact ⟨same ▸ .int _, rfl⟩
  | long => exact ⟨.long m, rfl⟩
  | _ => cases integral

theorem cast_within (integral : target.integralWidth? = some width) (number : Integral value n)
    (within : Within width n) :
    ∃ converted, value.cast objects target = .ok converted ∧ Integral converted n ∧
      converted.typeName objects = target.expectedName := by
  obtain ⟨m, held, rfl⟩ := integral_iff.mp number
  have kept : value.integralWithin? width = some m := by
    rw [Value.integralWithin?, held, Option.filter_some, if_pos (fitsWidth_iff.mpr within)]
  refine ⟨scalarOf target m, ?_, integral_scalarOf objects integral within⟩
  rw [Value.cast, convert_integral objects integral, kept]
  rfl

/-- Without a number that fits there is nothing to convert. -/
theorem cast_beyond (integral : target.integralWidth? = some width)
    (beyond : ∀ m, Integral value m → ¬ Within width m) :
    value.cast objects target = .error ⟨target.expectedName, value.typeName objects⟩ := by
  have none : value.integralWithin? width = none := by
    rw [Value.integralWithin?, Option.filter_eq_none_iff]
    intro m held fits
    exact beyond m.toInt (integral_iff.mpr ⟨m, held, rfl⟩) (fitsWidth_iff.mp fits)
  rw [Value.cast, convert_integral objects integral, none]
  rfl

theorem Integral.unique {m : Int} (number : Integral value n) (other : Integral value m) :
    m = n := by
  cases number <;> cases other <;> rfl

/-- A wider integer can hold what a narrower one can. -/
theorem Within.mono {wider : Nat} (within : Within width n) (less : width ≤ wider) :
    Within wider n := by
  have grows : (2 : Int) ^ (width - 1) ≤ 2 ^ (wider - 1) :=
    pow_le_pow_right₀ (by decide) (Nat.sub_le_sub_right less 1)
  exact ⟨(neg_le_neg grows).trans within.1, within.2.trans_le grows⟩

end

section Lookups
variable {objects : Objects} {root : Value} {path : PathForm} {args : List Value} {value : Value}
  {target : CastTarget} {width : Nat} {n : Int}

theorem getAs_found (found : get objects root path args = some value) :
    getAs objects root path args target = (value.cast objects target).map some := by
  rw [getAs, found]

theorem gives_iff (found : get objects root path args = some value) (number : Integral value n)
    (integral : target.integralWidth? = some width) :
    Gives objects target n (getAs objects root path args target) ↔ Within width n := by
  rw [getAs_found found]
  constructor
  · rintro ⟨converted, given, -⟩
    by_contra beyond
    rw [cast_beyond objects integral fun m other => number.unique other ▸ beyond] at given
    cases given
  · intro within
    obtain ⟨converted, given, held, typed⟩ := cast_within objects integral number within
    exact ⟨converted, by rw [given]; rfl, held, typed⟩

theorem getAs_beyond (found : get objects root path args = some value)
    (integral : target.integralWidth? = some width)
    (beyond : ∀ m, Integral value m → ¬ Within width m) :
    getAs objects root path args target =
      .error ⟨target.expectedName, value.typeName objects⟩ := by
  rw [getAs_found found, cast_beyond objects integral beyond]
  rfl

/-- What one integral type takes, each wider one takes too, as the same number. -/
theorem gives_wider (found : get objects root path args = some value) (number : Integral value n)
    (integral : target.integralWidth? = some width) {wider : CastTarget} {larger : Nat}
    (other : wider.integralWidth? = some larger) (less : width ≤ larger) {result : Option Value}
    (taken : getAs objects root path args target = .ok result) :
    Gives objects target n (getAs objects root path args target) ∧
      Gives objects wider n (getAs objects root path args wider) := by
  have within : Within width n := by
    by_contra beyond
    rw [getAs_beyond found integral fun m held => number.unique held ▸ beyond] at taken
    cases taken
  exact ⟨(gives_iff found number integral).mpr within,
    (gives_iff found number other).mpr (within.mono less)⟩

end Lookups

/-! ## Members -/

section Members
variable {value : Value} {n : Int}

/-- Numbers have the conversions of their kind. -/
theorem typeInfo_of_integral (objects : Objects) (number : Integral value n) :
    ∃ kind, Kind.isNumeric kind = true ∧
      value.typeInfo? objects = some (ScalarMembers.table objects kind) := by
  cases number with
  | byte => exact ⟨.byte, rfl, rfl⟩
  | short => exact ⟨.short, rfl, rfl⟩
  | int => exact ⟨.int, rfl, rfl⟩
  | long => exact ⟨.long, rfl, rfl⟩

theorem truncated_of_integral (number : Integral value n) :
    ∃ m, value.truncated? = some m ∧ m.toInt = n := by
  obtain ⟨m, held, same⟩ := integral_iff.mp number
  exact ⟨m, by rw [Value.truncated?, held], same⟩

/-- A member without parameters that converts its receiver gives what the conversion gives. -/
theorem conversion_call (evaluator : Evaluator) (number : Integral value n) {name : String}
    (conversion : Value → Option Value) {result : Value}
    (only : ∀ kind, Kind.isNumeric kind = true →
      (ScalarMembers.table evaluator.objects kind).methods name 0 =
        [handle kind.boxedName some name [] fun this _ =>
          ScalarMembers.required "Number" (conversion this)])
    (converts : conversion value = some result) :
    evaluator.step value (.method name []) = .ok result := by
  obtain ⟨kind, numeric, typed⟩ := typeInfo_of_integral evaluator.objects number
  have accepted : signatureAccepts evaluator.objects [] [] = true := rfl
  have supplied : Supplied evaluator.args [] [] := .nil
  have called : evaluator.step value (.method name []) = .ok result ↔
      ScalarMembers.required "Number" (conversion value) = .ok result :=
    supplied_call_ok_iff typed rfl (by exact only kind numeric) accepted supplied
  rw [called, converts]
  rfl

/-- The long of a number is the number. -/
theorem longValue_answers (evaluator : Evaluator) (number : Integral value n) :
    ∃ m : Int64, evaluator.step value (.method "longValue" []) = .ok (.long m) ∧ m.toInt = n := by
  obtain ⟨m, truncated, same⟩ := truncated_of_integral number
  refine ⟨m, conversion_call evaluator number (fun this => this.truncated?.map .long) ?_
    (by simp only [truncated, Option.map_some]), same⟩
  intro kind numeric
  cases kind with
  | boolean | char => cases numeric
  | _ => rfl

/-- The int of a number is the number, up to multiples of 2^32. -/
theorem intValue_answers (evaluator : Evaluator) (number : Integral value n) :
    ∃ m : Int32, evaluator.step value (.method "intValue" []) = .ok (.int m) ∧
      m.toInt = n.bmod (2 ^ 32) := by
  obtain ⟨m, truncated, same⟩ := truncated_of_integral number
  refine ⟨m.toInt32, conversion_call evaluator number
    (fun this => this.truncated?.map fun m => .int m.toInt32) ?_
    (by simp only [truncated, Option.map_some]), same ▸ Int64.toInt_toInt32 m⟩
  intro kind numeric
  cases kind with
  | boolean | char => cases numeric
  | _ => rfl

/-- Wrapping around to an int leaves exactly the numbers that an int can hold. -/
theorem wrapped_eq_iff {m : Int32} (wrapped : m.toInt = n.bmod (2 ^ 32)) :
    Within 32 n ↔ m.toInt = n := by
  constructor
  · intro within
    exact wrapped.trans (bmod_within within)
  · rintro rfl
    exact ⟨m.le_toInt, m.toInt_lt⟩

end Members

/-- A lookup converts an integral scalar into an integral type exactly if the type can hold the
number, and then also into each wider type; every other value is an error that names both types.
The member `longValue` always has the number, and `intValue` what is left of it modulo 2^32, so
that it still has the number exactly where the lookup of an int does. -/
theorem integral_casts_agree {objects : Objects} {root : Value} {path : PathForm}
    {args : List Value} {value : Value} (found : get objects root path args = some value) :
    (∀ n, Integral value n →
      (∀ target width, target.integralWidth? = some width →
        (Gives objects target n (getAs objects root path args target) ↔ Within width n) ∧
        (¬ Within width n → getAs objects root path args target =
          .error ⟨target.expectedName, value.typeName objects⟩)) ∧
      (∀ target width wider larger result, target.integralWidth? = some width →
        wider.integralWidth? = some larger → width ≤ larger →
        getAs objects root path args target = .ok result →
          Gives objects target n (getAs objects root path args target) ∧
          Gives objects wider n (getAs objects root path args wider)) ∧
      ∀ evaluator : Evaluator,
        (∃ m : Int64, evaluator.step value (.method "longValue" []) = .ok (.long m) ∧
          m.toInt = n) ∧
        ∃ m : Int32, evaluator.step value (.method "intValue" []) = .ok (.int m) ∧
          m.toInt ≡ n [ZMOD 2 ^ 32] ∧
          (Gives objects .int n (getAs objects root path args .int) ↔ m.toInt = n)) ∧
    ((∀ n, ¬ Integral value n) → ∀ target width, target.integralWidth? = some width →
      getAs objects root path args target =
        .error ⟨target.expectedName, value.typeName objects⟩) := by
  refine ⟨fun n number => ⟨fun target width integral => ⟨gives_iff found number integral, ?_⟩,
    fun target width wider larger result integral other less taken =>
      gives_wider found number integral other less taken,
    fun evaluator => ⟨longValue_answers evaluator number, ?_⟩⟩,
    fun none target width integral =>
      getAs_beyond found integral fun n number => (none n number).elim⟩
  · intro beyond
    exact getAs_beyond found integral fun m other => number.unique other ▸ beyond
  · obtain ⟨m, called, wrapped⟩ := intValue_answers evaluator number
    have congruent : m.toInt ≡ n [ZMOD 2 ^ 32] := by
      rw [wrapped]
      exact Int.bmod_emod
    exact ⟨m, called, congruent, (gives_iff found number rfl).trans (wrapped_eq_iff wrapped)⟩

/-- The long 2^32 + 5 is no int, though `intValue` gives 5 for it. -/
theorem integral_casts_agree_beyond_int :
    let value : Value := .long 4294967301
    get .empty value .absent [] = some value ∧
      getAs .empty value .absent [] .int = .error ⟨"Integer", "Long"⟩ ∧
      Gives .empty .long 4294967301 (getAs .empty value .absent [] .long) := by
  intro value
  have found : get .empty value .absent [] = some value := rfl
  obtain ⟨inside, -⟩ := integral_casts_agree found
  obtain ⟨converted, -, -⟩ := inside 4294967301 (.long 4294967301)
  exact ⟨found, (converted .int 32 rfl).2 (by unfold Within; decide),
    (converted .long 64 rfl).1.mpr (by unfold Within; decide)⟩

end ValuePath.IntegralCasts
