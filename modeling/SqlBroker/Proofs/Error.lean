import SqlBroker.Error
import SqlBroker.Proofs.Except

/-!
# Kinds of errors

An error tells by its kind how far a request has come: a malformed request is noticed before all
else, what means nothing is noticed when its operation is planned, and what a database reports comes
last.
-/

namespace SqlBroker.Error

/-- Whether a request is malformed. -/
def isShape : Error → Bool
  | .requestShape _ => true
  | _ => false

/-- Whether an operation means nothing. -/
def isMeaning : Error → Bool
  | .unsupportedValueType _ => true
  | .valueFormat _ _ _ => true
  | .arity _ _ _ => true
  | .unknownField _ => true
  | .unknownOperator _ => true
  | _ => false

/-- Whether the operands of a rule are not what its operator or their types ask for. -/
def isOfOperands : Error → Bool
  | .unsupportedValueType _ => true
  | .valueFormat _ _ _ => true
  | .arity _ _ _ => true
  | _ => false

theorem isMeaning_of_isOfOperands {e : Error} (h : e.isOfOperands = true) : e.isMeaning = true := by
  cases e with
  | unsupportedValueType _ => rfl
  | valueFormat _ _ _ => rfl
  | arity _ _ _ => rfl
  | _ => exact nomatch h

/-- Whether a database, or the way to it, has failed. -/
def isOfDatabase : Error → Bool
  | .authenticationExpired _ => true
  | .execution _ => true
  | _ => false

end SqlBroker.Error
