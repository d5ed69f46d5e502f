import IpoOne.Lib.Fallible

/-!
# Domain errors

`DomainError` of the domain package, and the type of a domain function that may throw one.
-/

set_option autoImplicit false

namespace IpoOne

/-- `new DomainError(code, message, details)`. -/
structure DomainError where
  code : String
  message : String
  details : List (String × String) := []
  deriving DecidableEq, Repr

/-- A domain function that returns an `α` or throws. -/
abbrev Domain (α : Type) : Type := Except DomainError α

/-- `if (c) fail(code, message)` -/
def throwIf (c : Prop) [Decidable c] (code message : String) : Domain Unit :=
  Fallible.failIf c { code, message }

@[simp] theorem throwIf_eq_ok {c : Prop} [Decidable c] {code message : String} {u : Unit} :
    throwIf c code message = .ok u ↔ ¬ c :=
  Fallible.failIf_eq_ok

theorem errorsIn_throwIf {P : DomainError → Prop} {c : Prop} [Decidable c] {code message : String}
    (h : P { code, message }) : Fallible.ErrorsIn P (throwIf c code message) :=
  Fallible.errorsIn_failIf h

end IpoOne
