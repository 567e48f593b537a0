import TypedTemplate.Proofs.Expr.Cause
import TypedTemplate.Proofs.Ty.Refused

namespace TypedTemplate

namespace Expr

-- A fault that is laid to something with the unknown type: to a key in brackets, to an operand,
-- to what is accessed, to what a loop runs over or to an argument.
inductive BlamesUnknown (typeOf : Nat → Option Ty) : Expr → Fault → Prop
  | key {node : Node} {base key : Expr} {nullSafe : Bool} {expected found : String}
    (unknown : typeOf key.id = some .unknown) :
    BlamesUnknown typeOf (.index node base key nullSafe) (.invalidKeyType expected found)
  | operand {node : Node} {operator : UnaryOperator} {operand : Expr} {symbol operands : String}
    (unknown : typeOf operand.id = some .unknown) (own : symbol ≠ "foreach") :
    BlamesUnknown typeOf (.unary node operator operand) (.badOperandType symbol operands)
  | left {node : Node} {operator : BinaryOperator} {left right : Expr} {symbol operands : String}
    (unknown : typeOf left.id = some .unknown) (own : symbol ≠ "foreach") :
    BlamesUnknown typeOf (.binary node operator left right) (.badOperandType symbol operands)
  | right {node : Node} {operator : BinaryOperator} {left right : Expr} {symbol operands : String}
    (unknown : typeOf right.id = some .unknown) (own : symbol ≠ "foreach") :
    BlamesUnknown typeOf (.binary node operator left right) (.badOperandType symbol operands)
  | field {node : Node} {base : Expr} {name : String} {nullSafe : Bool} {fault : Fault}
    (unknown : typeOf base.id = some .unknown) (own : fault.isOwn) :
    BlamesUnknown typeOf (.field node base name nullSafe) fault
  | index {node : Node} {base key : Expr} {nullSafe : Bool} {fault : Fault}
    (unknown : typeOf base.id = some .unknown) (own : fault.isOwn) :
    BlamesUnknown typeOf (.index node base key nullSafe) fault
  | iterable {expr : Expr} {operands : String} (unknown : typeOf expr.id = some .unknown) :
    BlamesUnknown typeOf expr (.badOperandType "foreach" operands)
  | argument {expr : Expr} {expected received : String} (unknown : typeOf expr.id = some .unknown) :
    BlamesUnknown typeOf expr (.argumentTypeMismatch expected received)

theorem BlamesUnknown.of_loop {typeOf : Nat → Option Ty} {expr : Expr} {operands : String}
    (blames : expr.BlamesUnknown typeOf (.badOperandType "foreach" operands)) : typeOf expr.id = some .unknown := by
  cases blames with
  | iterable unknown => exact unknown
  | operand _ own | left _ own | right _ own => exact absurd rfl own
  | field _ own | index _ own => cases own

-- Brackets behind a record, or a union with one in it: a key that is no literal is refused there
-- whatever type it has.
inductive NeedsLiteral (typeOf : Nat → Option Ty) : Expr → Fault → Prop
  | intro {node : Node} {base key : Expr} {nullSafe : Bool} {expected found : String} {type : Ty}
    (typed : typeOf base.id = some type) (record : type.HasRecord)
    (refused : ∀ keyType, Ty.Refused (access type (.value keyType) nullSafe) keyType) :
    NeedsLiteral typeOf (.index node base key nullSafe) (.invalidKeyType expected found)

theorem access_known {base : Ty} {key : IndexKey} {nullSafe : Bool} {fault : Fault}
    (failed : access base key nullSafe = .error fault) : base ≠ .unknown := by
  rintro rfl
  cases nullSafe <;> cases failed

theorem unaryType_known {modern : Bool} {operator : UnaryOperator} {operand : Ty} {fault : Fault}
    (failed : unaryType modern operator operand = .error fault) : operand ≠ .unknown := by
  rintro rfl
  cases operator <;> cases failed

theorem arithmetic_known {operator : BinaryOperator} {left right : Ty} {fault : Fault}
    (failed : Ty.arithmetic operator left right = .error fault) : left ≠ .unknown ∧ right ≠ .unknown := by
  rw [Ty.arithmetic_eq] at failed
  split at failed
  · cases failed
  · rename_i known
    rwa [not_or] at known

theorem binaryType_known {modern : Bool} {operator : BinaryOperator} {left right : Ty} {fault : Fault}
    (failed : binaryType modern operator left right = .error fault) : left ≠ .unknown ∧ right ≠ .unknown := by
  cases operator with
  | plus =>
    rw [binaryType, Ty.plus_eq] at failed
    split at failed
    · cases failed
    · exact arithmetic_known failed
  | minus | times | divide | modulo => exact arithmetic_known failed
  | _ => cases failed

theorem refused_of_unknown {type : Ty} {nullSafe : Bool} {expected found : String}
    (failed : access type (.value .unknown) nullSafe = .error (.invalidKeyType expected found)) :
    type.HasRecord ∧ ∀ keyType, Ty.Refused (access type (.value keyType) nullSafe) keyType := by
  unfold access at failed ⊢
  split at failed
  · cases failed
  rename_i present
  simp only [if_neg present]
  split at failed
  · cases failed
  rename_i fault refused
  cases failed
  cases type.index_bracketing with
  | takes unknown _ =>
    rw [refused] at unknown
    cases unknown
  | refuses record each =>
    refine ⟨record, fun keyType => ?_⟩
    obtain ⟨expected, found⟩ := each keyType
    exact ⟨expected, by rw [found]⟩
  | fails unknown other =>
    rw [refused] at unknown
    cases unknown
    exact absurd rfl (other _ _)

namespace Cause

variable {modern : Bool} {typeOf : Nat → Option Ty} {expr : Expr} {fault : Fault}

theorem known (cause : expr.Cause modern (fun id type => typeOf id = some type) fault) (used : fault.isOwn = false)
    (unique : ∀ name, fault ≠ .duplicateKey name) : typeOf expr.id ≠ some .unknown := by
  cases cause with
  | var own | call own => exact absurd own (Bool.eq_false_iff.mp used)
  | field _ failed | index _ _ _ failed => exact absurd (access_own failed) (Bool.eq_false_iff.mp used)
  | unary _ failed => exact absurd (unaryType_own failed) (Bool.eq_false_iff.mp used)
  | binary _ _ failed => exact absurd (binaryType_own failed) (Bool.eq_false_iff.mp used)
  | key => exact absurd rfl (unique _)
  | argument typed known =>
    rw [typed]
    exact fun same => known (Option.some.inj same)

theorem spares_unknown (cause : expr.Cause modern (fun id type => typeOf id = some type) fault)
    (blames : expr.BlamesUnknown typeOf fault) : expr.NeedsLiteral typeOf fault := by
  cases blames with
  | @key node base keyExpr nullSafe expected found unknown =>
    cases cause with
    | index typed keyTyped literal failed =>
      have same := Option.some.inj (keyTyped.symm.trans unknown)
      subst same
      have written : keyExpr.stringLiteral? = none :=
        Option.eq_none_iff_forall_not_mem.mpr fun name named => nomatch literal name named
      rw [indexKey, written] at failed
      obtain ⟨record, refused⟩ := refused_of_unknown failed
      exact .intro typed record refused
  | operand unknown own =>
    cases cause with
    | unary typed failed => exact absurd (Option.some.inj (typed.symm.trans unknown)) (unaryType_known failed)
  | left unknown own =>
    cases cause with
    | binary typed _ failed => exact absurd (Option.some.inj (typed.symm.trans unknown)) (binaryType_known failed).1
  | right unknown own =>
    cases cause with
    | binary _ typed failed => exact absurd (Option.some.inj (typed.symm.trans unknown)) (binaryType_known failed).2
  | field unknown own =>
    cases cause with
    | field typed failed => exact absurd (Option.some.inj (typed.symm.trans unknown)) (access_known failed)
    | key | argument => cases own
  | index unknown own =>
    cases cause with
    | index typed _ _ failed => exact absurd (Option.some.inj (typed.symm.trans unknown)) (access_known failed)
    | key | argument => cases own
  | iterable => exact absurd cause.ofExpr Bool.false_ne_true
  | argument unknown => exact absurd unknown (cause.known rfl nofun)

end Cause
end Expr
end TypedTemplate
