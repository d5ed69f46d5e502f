import IpoOne.Domain.Errors
import IpoOne.Domain.StableSerialize
import Mathlib

/-!
# The domain's validators

The checks of `validators.js` on values whose type does not rule out what they look for.
-/

set_option autoImplicit false

namespace IpoOne

open NumberText (Text)
open JsonText (isHigh isLow)
open StableSerialize (ascii)

/-- What `String.prototype.trim` takes off. -/
def isWhiteSpace (c : Char) : Bool :=
  let n := c.toNat
  (9 ≤ n && n ≤ 13) || (0x2000 ≤ n && n ≤ 0x200a) ||
    [0x20, 0xa0, 0x1680, 0x2028, 0x2029, 0x202f, 0x205f, 0x3000, 0xfeff].contains n

/-- The characters of `[A-Za-z0-9]`. -/
def isAlphanumeric (c : Char) : Bool :=
  ('A' ≤ c && c ≤ 'Z') || ('a' ≤ c && c ≤ 'z') || ('0' ≤ c && c ≤ '9')

/-- `value.length`: a character outside the basic plane counts twice. -/
def utf16Length (value : String) : ℕ :=
  (value.toList.map fun c ↦ if 0x10000 ≤ c.toNat then 2 else 1).sum

/-- The longest text that is accepted, in UTF-16 units. -/
def maxDomainStringLength : ℕ := 2048

/-- A text that is neither blank nor too long. -/
def assertNonEmptyString (name value : String) : Domain Unit :=
  throwIf (value.toList.all isWhiteSpace = true ∨ maxDomainStringLength < utf16Length value)
    "invalid_string" (name ++ " must be a non-empty string")

/-- The most digits that an amount may have. -/
def maxMinorUnitDigits : ℕ := 78

/-- `toMinorUnitBigInt` of a decimal text, which has no sign. -/
def toMinorUnitBigInt (value : ℤ) (name : String) : Domain ℤ := do
  throwIf (value < 0 ∨ 10 ^ maxMinorUnitDigits ≤ value) "invalid_minor_units"
    (name ++ " must be an unsigned integer string")
  pure value

/-- An amount above 0. -/
def assertPositiveMinorUnits (value : ℤ) (name : String) : Domain ℤ := do
  let parsed ← toMinorUnitBigInt value name
  throwIf (parsed ≤ 0) "invalid_minor_units" (name ++ " must be greater than zero")
  pure parsed

theorem assertPositiveMinorUnits_ok {value parsed : ℤ} {name : String}
    (h : assertPositiveMinorUnits value name = .ok parsed) : parsed = value ∧ 0 < value := by
  simp only [assertPositiveMinorUnits, toMinorUnitBigInt, Fallible.bind_eq_ok, throwIf_eq_ok,
    Fallible.pure_eq_ok] at h
  obtain ⟨_, ⟨_, _, rfl⟩, _, hpos, rfl⟩ := h
  exact ⟨rfl, Int.not_le.1 hpos⟩

/-! ## Data of any shape -/

/-- `BANNED_PII_KEYS` -/
def bannedPiiKeys : List String :=
  ["ssn", "passport", "passportnumber", "idnumber", "nationalid", "phonenumber", "rawkyc",
    "accountnumber", "bankaccount", "bankaccountnumber", "routingnumber", "iban", "privatekey",
    "apikey", "accesstoken", "refreshtoken", "password", "clientsecret", "webhooksecret",
    "credentials", "seedphrase", "mnemonic", "secret"]

/-- What `toLowerCase` makes of a code unit, if it is a Latin letter or a digit: besides the capital
letters there are the sign of the unit kelvin and the dotted capital i. -/
def lowerAlphanumeric (unit : ℕ) : Option ℕ :=
  let lower := if unit = 0x212a then 107 else if unit = 0x130 then 105
    else if 65 ≤ unit ∧ unit ≤ 90 then unit + 32 else unit
  if 97 ≤ lower ∧ lower ≤ 122 ∨ 48 ≤ lower ∧ lower ≤ 57 then some lower else none

/-- `BANNED_PII_KEYS.has(key.toLowerCase().replace(/[^a-z0-9]/g, ""))` -/
def isBannedPiiKey (key : Text) : Bool :=
  (bannedPiiKeys.map ascii).contains (key.filterMap lowerAlphanumeric)

/-- The characters of a text.  Half of a pair alone, which is no character, is replaced. -/
def characters : Text → List Char
  | [] => []
  | [unit] => [character unit]
  | high :: low :: rest =>
    if isHigh high && isLow low then
      Char.ofNat (0x10000 + (high - 0xd800) * 0x400 + (low - 0xdc00)) :: characters rest
    else character high :: characters (low :: rest)
where
  character (unit : ℕ) : Char := if isHigh unit || isLow unit then '\ufffd' else Char.ofNat unit

mutual

/-- The properties of an object are in the order of `Object.entries`, and the keys of an array are
its indices, which are never banned. -/
def assertNoRawPiiReference (path : String) : JsValue → Domain Unit
  | .array items => assertNoRawPiiItems path 0 items
  | .object properties => assertNoRawPiiProperties path properties
  | _ => pure ()

/-- The loop of `assertNoRawPiiReference`, over an array from `index` on. -/
def assertNoRawPiiItems (path : String) (index : ℕ) : List JsValue → Domain Unit
  | [] => pure ()
  | nested :: rest => do
    assertNoRawPiiReference (path ++ "." ++ toString index) nested
    assertNoRawPiiItems path (index + 1) rest

/-- The loop of `assertNoRawPiiReference`, over an object. -/
def assertNoRawPiiProperties (path : String) : List (Text × JsValue) → Domain Unit
  | [] => pure ()
  | (key, nested) :: rest => do
    let nestedPath := path ++ "." ++ String.ofList (characters key)
    Fallible.failIf (isBannedPiiKey key = true)
      { code := "raw_pii_prohibited"
        message := "raw PII, KYC, or secrets are prohibited"
        details := [("path", nestedPath)] }
    assertNoRawPiiReference nestedPath nested
    assertNoRawPiiProperties path rest

end

/-! ## Dates -/

/-- The last millisecond that a `Date` can stand for. -/
def maxDateMs : ℕ := 8640000000000000

/-- `toISOString` of the date at `value`, which throws where there is none. -/
def toISOString (value : ℕ) : Domain ℕ := do
  throwIf (maxDateMs < value) "RangeError" "Invalid time value"
  pure value

@[simp] theorem toISOString_eq_ok {value date : ℕ} :
    toISOString value = .ok date ↔ value ≤ maxDateMs ∧ value = date := by
  simp only [toISOString, Fallible.bind_eq_ok, throwIf_eq_ok, Fallible.pure_eq_ok, exists_const,
    Nat.not_lt]

/-! ## State machines -/

/-- `assertTransition`, for a machine given by what may follow each status. -/
def assertTransition {S : Type} [DecidableEq S] (machineName : String) (transitions : S → List S)
    (text : S → String) (source target : S) : Domain Unit :=
  throwIf (target ∉ transitions source) "invalid_state_transition"
    (machineName ++ " cannot transition from " ++ text source ++ " to " ++ text target)

/-- `Number.isSafeInteger` of a natural number. -/
def isSafeInteger (n : ℕ) : Prop := n ≤ 2 ^ 53 - 1

instance (n : ℕ) : Decidable (isSafeInteger n) := inferInstanceAs (Decidable (_ ≤ _))

end IpoOne
