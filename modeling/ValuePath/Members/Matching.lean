import ValuePath.Members.Objects

/-!
Which arguments a declared parameter accepts. The first rule that applies
decides: no declared type rejects, null satisfies every type but the unboxed
ones, the type of every value accepts, an instance is accepted, a scalar
matches its own kind boxed or unboxed, and otherwise the types must be equal.
-/
namespace ValuePath

variable (objects : Objects)

/-- Whether a parameter of the declared type accepts a value that is supplied
as a value of the supplied type. -/
def accepts (declared supplied : Option TypeRef) (value : Value) : Bool :=
  match declared with
  | none => false
  | some declared =>
    if !declared.isPrimitive && (supplied.isNone || value.isNull) then true
    else if declared == .object then true
    else if value.isInstanceOf objects declared then true
    else
      match supplied with
      | none => false
      | some supplied =>
        match declared.kind? with
        | some kind => supplied.kind? == some kind
        | none => declared == supplied

/-- Whether the counts agree and every parameter accepts the argument at its
position. -/
def signatureAccepts (params : List TypeRef) (args : List Value) : Bool :=
  params.length == args.length &&
    (params.zip args).all fun (param, arg) =>
      accepts objects (some param) (arg.runtimeType? objects) arg

end ValuePath
