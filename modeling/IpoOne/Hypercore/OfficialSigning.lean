import IpoOne.Domain.Validators
import IpoOne.Lib.MessagePack
import Mathlib

/-!
# The bytes that are signed

The encoder of `hypercore-official-signing.js`, and the bytes that
`computeOfficialHyperliquidActionHash` hashes.  What is encoded is read back by any reader of
MessagePack, and is the shortest text that is (`Written`); after the action come the nonce, the
vault and the expiry, which are told apart by what is left to read (`officialActionBytes_inj`).
-/

set_option autoImplicit false

namespace IpoOne
namespace Hypercore

open Fallible MessagePack

/-! ## The encoder -/

/-- A value that may be given to the encoder. -/
inductive ActionValue where
  | null
  | bool (value : Bool)
  /-- A number; `none` is one that is not an integer. -/
  | number (value : Option ℤ)
  | string (value : String)
  | array (items : List ActionValue)
  /-- A plain object, with its own properties in their order. -/
  | object (entries : List (String × ActionValue))
  /-- Anything else: `undefined`, a function, an object of a class, .. -/
  | other

/-- The most bytes that are signed. -/
def maxMessagePackBytes : ℕ := 64 * 1024

/-- The most bytes of a text. -/
def maxStringBytes : ℕ := 16 * 1024

/-- The most items of an array, and entries of an object. -/
def maxContainerItems : ℕ := 64

/-- The deepest nesting. -/
def maxDepth : ℕ := 20

/-- Refuses an input that meets the condition. -/
def invalidInput (c : Prop) [Decidable c] (message : String) : Domain Unit :=
  throwIf c "invalid_hypercore_official_signing_input" message

/-- Refuses a payload that meets the condition as too large. -/
def payloadTooLarge (c : Prop) [Decidable c] (message : String) : Domain Unit :=
  throwIf c "hypercore_signing_payload_too_large" message

/-- The number, where it is a safe integer of at least `least`. -/
def safeUint64 (name : String) (value : Option ℤ) (least : ℕ) : Domain ℕ :=
  match value with
  | none => .error
      { code := "invalid_hypercore_official_signing_input"
        message := name ++ " must be a safe uint64" }
  | some value => do
    invalidInput (value.natAbs > 2 ^ 53 - 1 ∨ value < least) (name ++ " must be a safe uint64")
    pure value.toNat

/-- The parts one after the other, within the bound on the bytes. -/
def join (parts : List Bytes) : Domain Bytes := do
  payloadTooLarge (maxMessagePackBytes < (parts.map List.length).sum)
    "official signing payload exceeds the fixed byte bound"
  pure parts.flatten

/-- A head: its format byte, and a number of `width` bytes. -/
def prefixWithLength (first : UInt8) (value width : ℕ) : Bytes :=
  first :: bigEndian width value

/-- A safe integer from 0 on, in the shortest format that holds it. -/
def unsignedInteger (value : Option ℤ) : Domain Bytes := do
  let value ← safeUint64 "MessagePack integer" value 0
  pure
    (if value ≤ 0x7f then [UInt8.ofNat value]
    else if value ≤ 0xff then [0xcc, UInt8.ofNat value]
    else if value ≤ 0xffff then prefixWithLength 0xcd value 2
    else if value ≤ 0xffffffff then prefixWithLength 0xce value 4
    else prefixWithLength 0xcf value 8)

/-- `new TextEncoder().encode(value)` -/
def utf8 (value : String) : Bytes := value.toUTF8.data.toList

/-- A text, in the shortest format that holds its length. -/
def encodeString (value : String) : Domain Bytes := do
  let bytes := utf8 value
  payloadTooLarge (maxStringBytes < bytes.length) "MessagePack string is too large"
  let first :=
    if bytes.length ≤ 31 then [UInt8.ofNat (0xa0 ||| bytes.length)]
    else if bytes.length ≤ 0xff then prefixWithLength 0xd9 bytes.length 1
    else prefixWithLength 0xda bytes.length 2
  join [first, bytes]

mutual

/-- The bytes of a value at `depth`. -/
def encodeMessagePack (value : ActionValue) (depth : ℕ) : Domain Bytes := do
  throwIf (maxDepth < depth) "hypercore_signing_payload_too_deep" "MessagePack payload is too deep"
  match value with
  | .null => pure [0xc0]
  | .bool false => pure [0xc2]
  | .bool true => pure [0xc3]
  | .number value => unsignedInteger value
  | .string value => encodeString value
  | .array items =>
    payloadTooLarge (maxContainerItems < items.length) "MessagePack array is too large"
    let first :=
      if items.length ≤ 15 then [UInt8.ofNat (0x90 ||| items.length)]
      else prefixWithLength 0xdc items.length 2
    let parts ← encodeItems items (depth + 1)
    join (first :: parts)
  | .object entries =>
    payloadTooLarge (maxContainerItems < entries.length) "MessagePack map is too large"
    let first :=
      if entries.length ≤ 15 then [UInt8.ofNat (0x80 ||| entries.length)]
      else prefixWithLength 0xde entries.length 2
    let parts ← encodeEntries entries (depth + 1)
    join (first :: parts)
  | .other => .error { code := "invalid_hypercore_official_signing_input"
                       message := "MessagePack input contains an unsupported value" }

/-- The bytes of each item of an array. -/
def encodeItems (items : List ActionValue) (depth : ℕ) : Domain (List Bytes) :=
  match items with
  | [] => pure []
  | item :: items => do
    let part ← encodeMessagePack item depth
    let parts ← encodeItems items depth
    pure (part :: parts)

/-- The keys and the values, one after the other. -/
def encodeEntries (entries : List (String × ActionValue)) (depth : ℕ) : Domain (List Bytes) :=
  match entries with
  | [] => pure []
  | (key, value) :: entries => do
    let first ← encodeString key
    let second ← encodeMessagePack value depth
    let parts ← encodeEntries entries depth
    pure (first :: second :: parts)

end

/-! ## What is signed -/

/-- A number as 8 bytes, the most significant one first. -/
def uint64Bytes (value : ℕ) : Bytes := bigEndian 8 value

/-- The value of a digit of `Buffer.from(_, "hex")`. -/
def hexDigit (c : Char) : Option ℕ :=
  if '0' ≤ c ∧ c ≤ '9' then some (c.toNat - '0'.toNat)
  else if 'a' ≤ c ∧ c ≤ 'f' then some (c.toNat - 'a'.toNat + 10)
  else if 'A' ≤ c ∧ c ≤ 'F' then some (c.toNat - 'A'.toNat + 10)
  else none

/-- `Buffer.from(_, "hex")`, which stops where a digit is missing. -/
def hexBytes : List Char → Bytes
  | high :: low :: rest =>
    match hexDigit high, hexDigit low with
    | some high, some low => UInt8.ofNat (16 * high + low) :: hexBytes rest
    | _, _ => []
  | _ => []

/-- The bytes of an address. -/
def addressBytes (value : String) : Bytes := hexBytes (value.toList.drop 2)

/-- The address that nobody has. -/
def zeroAddress : String := "0x0000000000000000000000000000000000000000"

/-- `address`, given the package's `isAddress` -/
def address (isAddress : String → Bool) (name : String) (value : Option String) :
    Domain (Option String) :=
  match value with
  | none => pure none
  | some value => do
    invalidInput (value ≠ value.toLower ∨ isAddress value = false ∨ value = zeroAddress)
      (name ++ " must be a non-zero lowercase EVM address")
    pure (some value)

/-- What `computeOfficialHyperliquidActionHash` is given. -/
structure OfficialAction where
  action : ActionValue
  vaultAddress : Option String
  nonce : Option ℤ
  /-- `none` where there is no expiry, and `some none` where it is not an integer. -/
  expiresAfter : Option (Option ℤ)

/-- `expiresAfter`, which may be left out -/
def expiry (value : Option (Option ℤ)) : Domain (Option ℕ) :=
  match value with
  | none => pure none
  | some value => do
    let value ← safeUint64 "expiresAfter" value 1
    pure (some value)

/-- A byte that says whether there is a vault, and the vault's address. -/
def vaultBytes (trustedVault : Option String) : Domain Bytes :=
  match trustedVault with
  | none => pure [0]
  | some vault => join [[1], addressBytes vault]

/-- A zero byte and the expiry, if there is one. -/
def expiryParts (expiresAfter : Option ℕ) : List Bytes :=
  match expiresAfter with
  | none => []
  | some expiresAfter => [[0], uint64Bytes expiresAfter]

/-- The bytes that `computeOfficialHyperliquidActionHash` hashes. -/
def officialActionBytes (isAddress : String → Bool) (input : OfficialAction) : Domain Bytes := do
  invalidInput (¬ (input.action matches .object _)) "action must be an object"
  let trustedVault ← address isAddress "vaultAddress" input.vaultAddress
  let nonce ← safeUint64 "nonce" input.nonce 0
  let expiresAfter ← expiry input.expiresAfter
  let encoded ← encodeMessagePack input.action 0
  let vault ← vaultBytes trustedVault
  join ([encoded, uint64Bytes nonce, vault] ++ expiryParts expiresAfter)

/-- The hash of those bytes, given the package's `keccak256`. -/
def computeOfficialHyperliquidActionHash {H : Type} (keccak256 : Bytes → H)
    (isAddress : String → Bool) (input : OfficialAction) : Domain H :=
  keccak256 <$> officialActionBytes isAddress input

/-! ## What is encoded is read back -/

mutual

/-- The value that a reader should find, if there is one. -/
def ActionValue.toMessagePack : ActionValue → Option Value
  | .null => some .nil
  | .bool value => some (.bool value)
  | .number value => value.map .int
  | .string value => some (.str (utf8 value))
  | .array items => (itemsToMessagePack items).map .array
  | .object entries => (entriesToMessagePack entries).map .map
  | .other => none

/-- The values of an array's items. -/
def itemsToMessagePack : List ActionValue → Option (List Value)
  | [] => some []
  | item :: items => do
    let first ← item.toMessagePack
    let rest ← itemsToMessagePack items
    pure (first :: rest)

/-- The values of an object's entries; a key is a text. -/
def entriesToMessagePack : List (String × ActionValue) → Option (List (Value × Value))
  | [] => some []
  | (key, value) :: entries => do
    let first ← value.toMessagePack
    let rest ← entriesToMessagePack entries
    pure ((.str (utf8 key), first) :: rest)

end

theorem utf8_injective : Function.Injective utf8 := by
  intro s t h
  rw [utf8, utf8, String.toUTF8_eq_toByteArray, String.toUTF8_eq_toByteArray] at h
  have hdata := Array.toList_inj.1 h
  exact String.toByteArray_inj.1 (ByteArray.ext hdata)

mutual

/-- **Different values are different for a reader.** -/
theorem toMessagePack_injective : ∀ (v w : ActionValue) {value : Value},
    v.toMessagePack = some value → w.toMessagePack = some value → v = w
  | .null, w, value, hv, hw => by
    cases hv
    cases w <;> simp_all [ActionValue.toMessagePack]
  | .bool b, w, value, hv, hw => by
    cases hv
    cases w <;> simp_all [ActionValue.toMessagePack]
  | .number n, w, value, hv, hw => by
    obtain ⟨n, rfl, rfl⟩ := Option.map_eq_some_iff.1 hv
    cases w <;> simp_all [ActionValue.toMessagePack]
  | .string s, w, value, hv, hw => by
    cases hv
    cases w with
    | string t =>
      have hutf8 := Value.str.inj (Option.some.inj hw)
      rw [utf8_injective hutf8]
    | _ => simp_all [ActionValue.toMessagePack]
  | .array items, w, value, hv, hw => by
    obtain ⟨values, hitems, rfl⟩ := Option.map_eq_some_iff.1 hv
    cases w with
    | array items' =>
      obtain ⟨values', hitems', heq⟩ := Option.map_eq_some_iff.1 hw
      rw [Value.array.inj heq] at hitems'
      rw [itemsToMessagePack_injective items items' hitems hitems']
    | _ => simp_all [ActionValue.toMessagePack]
  | .object entries, w, value, hv, hw => by
    obtain ⟨values, hentries, rfl⟩ := Option.map_eq_some_iff.1 hv
    cases w with
    | object entries' =>
      obtain ⟨values', hentries', heq⟩ := Option.map_eq_some_iff.1 hw
      rw [Value.map.inj heq] at hentries'
      rw [entriesToMessagePack_injective entries entries' hentries hentries']
    | _ => simp_all [ActionValue.toMessagePack]

theorem itemsToMessagePack_injective : ∀ (items items' : List ActionValue) {values : List Value},
    itemsToMessagePack items = some values → itemsToMessagePack items' = some values →
      items = items'
  | [], items', values, h, h' => by
    cases h
    cases items' with
    | nil => rfl
    | cons item items' => simp [itemsToMessagePack, Option.bind_eq_some_iff] at h'
  | item :: items, items', values, h, h' => by
    simp only [itemsToMessagePack, Option.bind_eq_bind, Option.bind_eq_some_iff, Option.pure_def,
      Option.some.injEq] at h
    obtain ⟨first, hfirst, rest, hrest, rfl⟩ := h
    cases items' with
    | nil => cases h'
    | cons item' items' =>
      simp only [itemsToMessagePack, Option.bind_eq_bind, Option.bind_eq_some_iff, Option.pure_def,
        Option.some.injEq, List.cons.injEq] at h'
      obtain ⟨_, hfirst', _, hrest', rfl, rfl⟩ := h'
      rw [toMessagePack_injective item item' hfirst hfirst',
        itemsToMessagePack_injective items items' hrest hrest']

theorem entriesToMessagePack_injective :
    ∀ (entries entries' : List (String × ActionValue)) {values : List (Value × Value)},
      entriesToMessagePack entries = some values → entriesToMessagePack entries' = some values →
        entries = entries'
  | [], entries', values, h, h' => by
    cases h
    cases entries' with
    | nil => rfl
    | cons entry entries' => simp [entriesToMessagePack, Option.bind_eq_some_iff] at h'
  | (key, value) :: entries, entries', values, h, h' => by
    simp only [entriesToMessagePack, Option.bind_eq_bind, Option.bind_eq_some_iff, Option.pure_def,
      Option.some.injEq] at h
    obtain ⟨first, hfirst, rest, hrest, rfl⟩ := h
    cases entries' with
    | nil => cases h'
    | cons entry' entries' =>
      obtain ⟨key', value'⟩ := entry'
      simp only [entriesToMessagePack, Option.bind_eq_bind, Option.bind_eq_some_iff,
        Option.pure_def, Option.some.injEq, List.cons.injEq, Prod.mk.injEq, Value.str.injEq] at h'
      obtain ⟨_, hfirst', _, hrest', ⟨hkey, rfl⟩, rfl⟩ := h'
      rw [utf8_injective hkey, toMessagePack_injective value value' hfirst hfirst',
        entriesToMessagePack_injective entries entries' hrest hrest']

end

/-- The bytes are read as the value, whatever follows them, and nothing shorter is. -/
structure Written (bytes : Bytes) (value : Value) : Prop where
  reads : ∀ fuel rest, bytes.length ≤ fuel → read fuel (bytes ++ rest) = some (value, rest)
  shortest : bytes.length = value.shortest

/-- A list of values, each after the other. -/
structure WrittenItems (bytes : Bytes) (values : List Value) : Prop where
  reads : ∀ fuel rest, bytes.length ≤ fuel →
    readMany (read fuel) values.length (bytes ++ rest) = some (values, rest)
  shortest : bytes.length = shortestItems values

/-- The same for the entries of a map. -/
structure WrittenEntries (bytes : Bytes) (entries : List (Value × Value)) : Prop where
  reads : ∀ fuel rest, bytes.length ≤ fuel →
    readMany (readPair (read fuel)) entries.length (bytes ++ rest) = some (entries, rest)
  shortest : bytes.length = shortestEntries entries

/-- Some bytes that are a head and then a body. -/
theorem Written.of_head {byte : UInt8} {digits body : Bytes} {head : Head} {value : Value}
    (hhead : ∀ rest, readHead (byte :: digits ++ rest) = some (head, rest))
    (hbody : ∀ fuel rest, body.length ≤ fuel →
      readBody (read fuel) head (body ++ rest) = some (value, rest))
    (hshortest : digits.length + 1 + body.length = value.shortest) :
    Written (byte :: digits ++ body) value := by
  refine ⟨fun fuel rest hfuel ↦ ?_, by rw [List.length_append, List.length_cons, hshortest]⟩
  rw [List.length_append, List.length_cons] at hfuel
  obtain ⟨fuel, rfl⟩ : ∃ n, fuel = n + 1 := ⟨fuel - 1, by omega⟩
  rw [List.append_assoc, read_succ (hhead _)]
  exact hbody fuel rest (by omega)

/-- Some bytes that are a head, which is all of the value. -/
theorem Written.of_whole {byte : UInt8} {digits : Bytes} {head : Head} {value : Value}
    (hhead : ∀ rest, readHead (byte :: digits ++ rest) = some (head, rest))
    (hbody : ∀ next rest, readBody next head rest = some (value, rest))
    (hshortest : digits.length + 1 = value.shortest) : Written (byte :: digits) value := by
  have hwritten : Written (byte :: digits ++ []) value :=
    .of_head hhead (fun _ _ _ ↦ hbody _ _) hshortest
  rwa [List.append_nil] at hwritten

theorem join_ok {parts : List Bytes} {bytes : Bytes} (h : join parts = .ok bytes) :
    bytes = parts.flatten := by
  simp only [join, payloadTooLarge, bind_eq_ok, throwIf_eq_ok, pure_eq_ok] at h
  obtain ⟨_, _, rfl⟩ := h
  rfl

theorem safeUint64_ok {name : String} {value : Option ℤ} {least n : ℕ}
    (h : safeUint64 name value least = .ok n) :
    value = some (n : ℤ) ∧ least ≤ n ∧ n < 2 ^ 53 := by
  cases value with
  | none => cases h
  | some value =>
    simp only [safeUint64, invalidInput, bind_eq_ok, throwIf_eq_ok, pure_eq_ok] at h
    obtain ⟨_, hrange, rfl⟩ := h
    refine ⟨congrArg some ?_, by omega, by omega⟩
    omega

theorem written_unsignedInteger {value : Option ℤ} {bytes : Bytes}
    (h : unsignedInteger value = .ok bytes) :
    ∃ n : ℤ, value = some n ∧ Written bytes (.int n) := by
  simp only [unsignedInteger, bind_eq_ok, pure_eq_ok] at h
  obtain ⟨n, hvalue, rfl⟩ := h
  obtain ⟨rfl, _, hlt⟩ := safeUint64_ok hvalue
  refine ⟨n, rfl, ?_⟩
  split_ifs with h7 h8 h16 h32
  · refine .of_whole (fun rest ↦ readHead_fixint rest (by omega)) (fun _ _ ↦ rfl) ?_
    rw [Value.shortest, shortestInt, if_pos (by omega), List.length_nil]
  · have hdigits : [UInt8.ofNat n] = bigEndian 1 n := by
      rw [bigEndian, bigEndian, pow_zero, Nat.div_one]
    rw [hdigits]
    refine .of_whole (fun rest ↦ readHead_uint8 rest (by omega)) (fun _ _ ↦ rfl) ?_
    rw [Value.shortest, shortestInt, if_neg (by omega), if_pos (by omega), length_bigEndian]
  · refine .of_whole (fun rest ↦ readHead_uint16 rest (by omega)) (fun _ _ ↦ rfl) ?_
    rw [Value.shortest, shortestInt, if_neg (by omega), if_neg (by omega), if_pos (by omega),
      length_bigEndian]
  · refine .of_whole (fun rest ↦ readHead_uint32 rest (by omega)) (fun _ _ ↦ rfl) ?_
    rw [Value.shortest, shortestInt, if_neg (by omega), if_neg (by omega), if_neg (by omega),
      if_pos (by omega), length_bigEndian]
  · refine .of_whole (fun rest ↦ readHead_uint64 rest (by omega)) (fun _ _ ↦ rfl) ?_
    rw [Value.shortest, shortestInt, if_neg (by omega), if_neg (by omega), if_neg (by omega),
      if_neg (by omega), length_bigEndian]

theorem or_of_lt_32 : ∀ n < 32, 0xa0 ||| n = 0xa0 + n := by decide

theorem or_array_of_lt_16 : ∀ n < 16, 0x90 ||| n = 0x90 + n := by decide

theorem or_map_of_lt_16 : ∀ n < 16, 0x80 ||| n = 0x80 + n := by decide

theorem written_encodeString {value : String} {bytes : Bytes} (h : encodeString value = .ok bytes) :
    Written bytes (.str (utf8 value)) := by
  simp only [encodeString, payloadTooLarge, bind_eq_ok, throwIf_eq_ok] at h
  obtain ⟨_, hmax, hjoin⟩ := h
  rw [join_ok hjoin, List.flatten_cons, List.flatten_cons, List.flatten_nil, List.append_nil]
  have hbody : ∀ fuel rest, (utf8 value).length ≤ fuel →
      readBody (read fuel) (.str (utf8 value).length) (utf8 value ++ rest)
        = some (.str (utf8 value), rest) := by
    intro fuel rest _
    rw [readBody, takeBytes_append, Option.map_some]
  rw [maxStringBytes] at hmax
  split_ifs with h5 h8
  · rw [or_of_lt_32 _ (by omega)]
    refine .of_head (fun rest ↦ readHead_fixstr rest (by omega)) hbody ?_
    rw [Value.shortest, shortestText, if_pos (by omega), List.length_nil]
  · refine .of_head (fun rest ↦ readHead_str8 rest (by omega)) hbody ?_
    rw [Value.shortest, shortestText, if_neg (by omega), if_pos (by omega), length_bigEndian]
  · refine .of_head (fun rest ↦ readHead_str16 rest (by omega)) hbody ?_
    rw [Value.shortest, shortestText, if_neg (by omega), if_neg (by omega), if_pos (by omega),
      length_bigEndian]

theorem WrittenItems.nil : WrittenItems [] [] := ⟨fun _ _ _ ↦ rfl, rfl⟩

theorem WrittenItems.cons {part parts : Bytes} {value : Value} {values : List Value}
    (h : Written part value) (hparts : WrittenItems parts values) :
    WrittenItems (part ++ parts) (value :: values) := by
  refine ⟨fun fuel rest hfuel ↦ ?_, ?_⟩
  · rw [List.length_append] at hfuel
    rw [List.append_assoc]
    exact readMany_cons (h.reads fuel _ (by omega)) (hparts.reads fuel rest (by omega))
  · rw [List.length_append, h.shortest, hparts.shortest]
    rfl

theorem WrittenEntries.nil : WrittenEntries [] [] := ⟨fun _ _ _ ↦ rfl, rfl⟩

theorem WrittenEntries.cons {first second parts : Bytes} {key value : Value}
    {entries : List (Value × Value)} (hkey : Written first key) (hvalue : Written second value)
    (hparts : WrittenEntries parts entries) :
    WrittenEntries (first ++ (second ++ parts)) ((key, value) :: entries) := by
  refine ⟨fun fuel rest hfuel ↦ ?_, ?_⟩
  · rw [List.length_append, List.length_append] at hfuel
    rw [List.append_assoc, List.append_assoc]
    have hpair := readPair_eq (hkey.reads fuel _ (by omega))
      (hvalue.reads fuel (parts ++ rest) (by omega))
    exact readMany_cons hpair (hparts.reads fuel rest (by omega))
  · rw [List.length_append, List.length_append, hkey.shortest, hvalue.shortest, hparts.shortest,
      ← add_assoc]
    rfl

mutual

/-- **What is encoded is read back**, and is the shortest text that is. -/
theorem written_encodeMessagePack : ∀ (v : ActionValue) {depth : ℕ} {bytes : Bytes},
    encodeMessagePack v depth = .ok bytes →
      ∃ value, v.toMessagePack = some value ∧ Written bytes value
  | .null, depth, bytes, h => by
    simp only [encodeMessagePack, bind_eq_ok, pure_eq_ok] at h
    obtain ⟨_, _, rfl⟩ := h
    exact ⟨.nil, rfl, .of_whole (fun _ ↦ rfl) (fun _ _ ↦ rfl) rfl⟩
  | .bool false, depth, bytes, h => by
    simp only [encodeMessagePack, bind_eq_ok, pure_eq_ok] at h
    obtain ⟨_, _, rfl⟩ := h
    exact ⟨.bool false, rfl, .of_whole (fun _ ↦ rfl) (fun _ _ ↦ rfl) rfl⟩
  | .bool true, depth, bytes, h => by
    simp only [encodeMessagePack, bind_eq_ok, pure_eq_ok] at h
    obtain ⟨_, _, rfl⟩ := h
    exact ⟨.bool true, rfl, .of_whole (fun _ ↦ rfl) (fun _ _ ↦ rfl) rfl⟩
  | .number n, depth, bytes, h => by
    simp only [encodeMessagePack, bind_eq_ok] at h
    obtain ⟨_, _, hnumber⟩ := h
    obtain ⟨n, rfl, hwritten⟩ := written_unsignedInteger hnumber
    exact ⟨.int n, rfl, hwritten⟩
  | .string s, depth, bytes, h => by
    simp only [encodeMessagePack, bind_eq_ok] at h
    obtain ⟨_, _, hstring⟩ := h
    exact ⟨.str (utf8 s), rfl, written_encodeString hstring⟩
  | .array items, depth, bytes, h => by
    simp only [encodeMessagePack, payloadTooLarge, bind_eq_ok, throwIf_eq_ok] at h
    obtain ⟨_, _, _, hcount, parts, hparts, hjoin⟩ := h
    obtain ⟨values, hvalues, hlength, hwritten⟩ := written_encodeItems items hparts
    refine ⟨.array values, by rw [ActionValue.toMessagePack, hvalues, Option.map_some], ?_⟩
    rw [join_ok hjoin, List.flatten_cons]
    have hbody : ∀ fuel rest, parts.flatten.length ≤ fuel →
        readBody (read fuel) (.array items.length) (parts.flatten ++ rest)
          = some (.array values, rest) := by
      intro fuel rest hfuel
      rw [readBody, hlength, hwritten.reads fuel rest hfuel, Option.map_some]
    rw [maxContainerItems] at hcount
    split_ifs with h4
    · rw [or_array_of_lt_16 _ (by omega)]
      refine .of_head (fun rest ↦ readHead_fixarray rest (by omega)) hbody ?_
      rw [Value.shortest, shortestCount, if_pos (by omega), List.length_nil, hwritten.shortest]
    · refine .of_head (fun rest ↦ readHead_array16 rest (by omega)) hbody ?_
      rw [Value.shortest, shortestCount, if_neg (by omega), if_pos (by omega), length_bigEndian,
        hwritten.shortest]
  | .object entries, depth, bytes, h => by
    simp only [encodeMessagePack, payloadTooLarge, bind_eq_ok, throwIf_eq_ok] at h
    obtain ⟨_, _, _, hcount, parts, hparts, hjoin⟩ := h
    obtain ⟨values, hvalues, hlength, hwritten⟩ := written_encodeEntries entries hparts
    refine ⟨.map values, by rw [ActionValue.toMessagePack, hvalues, Option.map_some], ?_⟩
    rw [join_ok hjoin, List.flatten_cons]
    have hbody : ∀ fuel rest, parts.flatten.length ≤ fuel →
        readBody (read fuel) (.map entries.length) (parts.flatten ++ rest)
          = some (.map values, rest) := by
      intro fuel rest hfuel
      rw [readBody, hlength, hwritten.reads fuel rest hfuel, Option.map_some]
    rw [maxContainerItems] at hcount
    split_ifs with h4
    · rw [or_map_of_lt_16 _ (by omega)]
      refine .of_head (fun rest ↦ readHead_fixmap rest (by omega)) hbody ?_
      rw [Value.shortest, shortestCount, if_pos (by omega), List.length_nil, hwritten.shortest]
    · refine .of_head (fun rest ↦ readHead_map16 rest (by omega)) hbody ?_
      rw [Value.shortest, shortestCount, if_neg (by omega), if_pos (by omega), length_bigEndian,
        hwritten.shortest]
  | .other, depth, bytes, h => by
    simp only [encodeMessagePack, bind_eq_ok] at h
    obtain ⟨_, _, herror⟩ := h
    cases herror

theorem written_encodeItems : ∀ (items : List ActionValue) {depth : ℕ} {parts : List Bytes},
    encodeItems items depth = .ok parts → ∃ values, itemsToMessagePack items = some values ∧
      items.length = values.length ∧ WrittenItems parts.flatten values
  | [], depth, parts, h => by
    cases h
    exact ⟨[], rfl, rfl, .nil⟩
  | item :: items, depth, parts, h => by
    simp only [encodeItems, bind_eq_ok, pure_eq_ok] at h
    obtain ⟨part, hpart, others, hothers, rfl⟩ := h
    obtain ⟨value, hvalue, hwritten⟩ := written_encodeMessagePack item hpart
    obtain ⟨values, hvalues, hlength, hrest⟩ := written_encodeItems items hothers
    refine ⟨value :: values, ?_, by rw [List.length_cons, List.length_cons, hlength],
      .cons hwritten hrest⟩
    simp only [itemsToMessagePack, hvalue, hvalues, Option.bind_eq_bind, Option.bind_some,
      Option.pure_def]

theorem written_encodeEntries :
    ∀ (entries : List (String × ActionValue)) {depth : ℕ} {parts : List Bytes},
      encodeEntries entries depth = .ok parts →
        ∃ values, entriesToMessagePack entries = some values ∧ entries.length = values.length ∧
          WrittenEntries parts.flatten values
  | [], depth, parts, h => by
    cases h
    exact ⟨[], rfl, rfl, .nil⟩
  | (key, value) :: entries, depth, parts, h => by
    simp only [encodeEntries, bind_eq_ok, pure_eq_ok] at h
    obtain ⟨first, hfirst, second, hsecond, others, hothers, rfl⟩ := h
    obtain ⟨found, hfound, hwritten⟩ := written_encodeMessagePack value hsecond
    obtain ⟨values, hvalues, hlength, hrest⟩ := written_encodeEntries entries hothers
    refine ⟨(.str (utf8 key), found) :: values, ?_,
      by rw [List.length_cons, List.length_cons, hlength],
      .cons (written_encodeString hfirst) hwritten hrest⟩
    simp only [entriesToMessagePack, hfound, hvalues, Option.bind_eq_bind, Option.bind_some,
      Option.pure_def]

end

/-! ## What is signed can be told apart -/

/-- `0x` and 40 hexadecimal digits -/
def IsHexAddress (value : String) : Prop :=
  ∃ digits : List Char, value.toList = '0' :: 'x' :: digits ∧ digits.length = 40 ∧
    ∀ c ∈ digits, (hexDigit c).isSome

/-- A digit that `toLowerCase` leaves as it is. -/
def IsLowerHex (c : Char) : Prop := (hexDigit c).isSome ∧ c.toLower = c

theorem char_le_iff {c d : Char} : c ≤ d ↔ c.toNat ≤ d.toNat := Iff.rfl

theorem hexDigit_lt {c : Char} {n : ℕ} (h : hexDigit c = some n) : n < 16 := by
  simp only [hexDigit, char_le_iff] at h
  split_ifs at h with h0 ha hA
  · have hle : c.toNat ≤ 57 := h0.2
    have heq : c.toNat - 48 = n := Option.some.inj h
    omega
  · have hle : c.toNat ≤ 102 := ha.2
    have heq : c.toNat - 97 + 10 = n := Option.some.inj h
    omega
  · have hle : c.toNat ≤ 70 := hA.2
    have heq : c.toNat - 65 + 10 = n := Option.some.inj h
    omega

/-- The two ranges of the digits. -/
theorem hexDigit_lower {c : Char} {n : ℕ} (hc : c.toLower = c) (h : hexDigit c = some n) :
    (n < 10 ∧ c.toNat = n + 48) ∨ (10 ≤ n ∧ c.toNat = n + 87) := by
  simp only [hexDigit, char_le_iff] at h
  split_ifs at h with h0 ha hA
  · have hle : 48 ≤ c.toNat ∧ c.toNat ≤ 57 := h0
    have heq : c.toNat - 48 = n := Option.some.inj h
    omega
  · have hle : 97 ≤ c.toNat ∧ c.toNat ≤ 102 := ha
    have heq : c.toNat - 97 + 10 = n := Option.some.inj h
    omega
  · -- these are the letters that `toLowerCase` changes
    have hle : 65 ≤ c.toNat ∧ c.toNat ≤ 70 := hA
    have hchar := Char.ofNat_toNat c
    have hupper : ∀ m, 65 ≤ m → m ≤ 70 → (Char.ofNat m).toLower ≠ Char.ofNat m := by
      intro m hm hm'
      interval_cases m <;> decide
    rw [← hchar] at hc
    exact absurd hc (hupper _ hle.1 hle.2)

theorem hexDigit_inj {c d : Char} (hc : IsLowerHex c) (hd : IsLowerHex d)
    (h : hexDigit c = hexDigit d) : c = d := by
  obtain ⟨n, hn⟩ := Option.isSome_iff_exists.1 hc.1
  have hcases := hexDigit_lower hc.2 hn
  have hcases' := hexDigit_lower hd.2 (h ▸ hn)
  exact Char.toNat_inj.1 (by omega)

theorem hexBytes_cons {high low : Char} {m n : ℕ} (hhigh : hexDigit high = some m)
    (hlow : hexDigit low = some n) (rest : List Char) :
    hexBytes (high :: low :: rest) = UInt8.ofNat (16 * m + n) :: hexBytes rest := by
  rw [hexBytes, hhigh, hlow]

/-- **Digits can be told apart by their bytes.** -/
theorem hexBytes_inj : ∀ (k : ℕ) {xs ys : List Char}, xs.length = 2 * k → ys.length = 2 * k →
    (∀ c ∈ xs, IsLowerHex c) → (∀ c ∈ ys, IsLowerHex c) → hexBytes xs = hexBytes ys → xs = ys := by
  intro k
  induction k with
  | zero =>
    intro xs ys hx hy _ _ _
    rw [List.length_eq_zero_iff.1 hx, List.length_eq_zero_iff.1 hy]
  | succ k ih =>
    intro xs ys hx hy hxs hys h
    obtain _ | ⟨a, _ | ⟨b, xs⟩⟩ := xs
    · cases hx
    · rw [List.length_singleton] at hx
      omega
    obtain _ | ⟨c, _ | ⟨d, ys⟩⟩ := ys
    · cases hy
    · rw [List.length_singleton] at hy
      omega
    simp only [List.forall_mem_cons] at hxs hys
    obtain ⟨ha, hb, hxs⟩ := hxs
    obtain ⟨hc, hd, hys⟩ := hys
    obtain ⟨a', ha'⟩ := Option.isSome_iff_exists.1 ha.1
    obtain ⟨b', hb'⟩ := Option.isSome_iff_exists.1 hb.1
    obtain ⟨c', hc'⟩ := Option.isSome_iff_exists.1 hc.1
    obtain ⟨d', hd'⟩ := Option.isSome_iff_exists.1 hd.1
    rw [hexBytes_cons ha' hb', hexBytes_cons hc' hd', List.cons.injEq] at h
    obtain ⟨hbyte, hrest⟩ := h
    have hnat := congrArg UInt8.toNat hbyte
    have := hexDigit_lt ha'
    have := hexDigit_lt hb'
    have := hexDigit_lt hc'
    have := hexDigit_lt hd'
    rw [toNat_ofNat_of_lt (by omega), toNat_ofNat_of_lt (by omega)] at hnat
    have hac : a = c := hexDigit_inj ha hc (by rw [ha', hc']; congr 1; omega)
    have hbd : b = d := hexDigit_inj hb hd (by rw [hb', hd']; congr 1; omega)
    have hlength : xs.length = 2 * k ∧ ys.length = 2 * k := by
      rw [List.length_cons, List.length_cons] at hx hy
      omega
    rw [hac, hbd, ih hlength.1 hlength.2 hxs hys hrest]

theorem length_hexBytes : ∀ (k : ℕ) {xs : List Char}, xs.length = 2 * k →
    (∀ c ∈ xs, (hexDigit c).isSome) → (hexBytes xs).length = k := by
  intro k
  induction k with
  | zero =>
    intro xs hx _
    rw [List.length_eq_zero_iff.1 hx]
    rfl
  | succ k ih =>
    intro xs hx hxs
    obtain _ | ⟨a, _ | ⟨b, xs⟩⟩ := xs
    · cases hx
    · rw [List.length_singleton] at hx
      omega
    simp only [List.forall_mem_cons] at hxs
    obtain ⟨ha, hb, hxs⟩ := hxs
    obtain ⟨a', ha'⟩ := Option.isSome_iff_exists.1 ha
    obtain ⟨b', hb'⟩ := Option.isSome_iff_exists.1 hb
    rw [List.length_cons, List.length_cons] at hx
    rw [hexBytes_cons ha' hb', List.length_cons, ih (by omega) hxs]

theorem address_ok {isAddress : String → Bool} {name value : String} {result : Option String}
    (h : address isAddress name (some value) = .ok result) :
    result = some value ∧ value.toLower = value ∧ isAddress value = true := by
  simp only [address, invalidInput, bind_eq_ok, throwIf_eq_ok, pure_eq_ok, not_or, not_not,
    Bool.not_eq_false] at h
  obtain ⟨_, ⟨hlower, haddress, _⟩, rfl⟩ := h
  exact ⟨rfl, hlower.symm, haddress⟩

/-- The digits of an address that is accepted. -/
theorem digits_of_address {isAddress : String → Bool}
    (haddress : ∀ value, isAddress value = true → IsHexAddress value) {value : String}
    (hlower : value.toLower = value) (h : isAddress value = true) :
    ∃ digits, value.toList = '0' :: 'x' :: digits ∧ digits.length = 40 ∧
      ∀ c ∈ digits, IsLowerHex c := by
  obtain ⟨digits, hlist, hlength, hdigits⟩ := haddress value h
  refine ⟨digits, hlist, hlength, fun c hc ↦ ⟨hdigits c hc, ?_⟩⟩
  have hmap : value.toList.map Char.toLower = value.toList := by
    rw [← String.toList_map]
    exact congrArg String.toList hlower
  have hmem : c ∈ value.toList := by
    rw [hlist]
    exact List.mem_cons_of_mem _ (List.mem_cons_of_mem _ hc)
  have hmap' : value.toList.map Char.toLower = value.toList.map id := by
    rw [hmap, List.map_id]
  exact List.map_inj_left.1 hmap' c hmem

/-- What is hashed, part by part. -/
structure SignedParts (isAddress : String → Bool) (input : OfficialAction) (bytes : Bytes) where
  value : Value
  encoded : Bytes
  nonce : ℕ
  vault : Bytes
  expiry : Bytes
  bytes_eq : bytes = encoded ++ (bigEndian 8 nonce ++ (vault ++ expiry))
  action : input.action.toMessagePack = some value
  written : Written encoded value
  nonce_eq : input.nonce = some (nonce : ℤ)
  nonce_lt : nonce < 256 ^ 8
  vault_eq : (input.vaultAddress = none ∧ vault = [0]) ∨
    ∃ address, input.vaultAddress = some address ∧ vault = 1 :: addressBytes address ∧
      address.toLower = address ∧ isAddress address = true
  expiry_eq : (input.expiresAfter = none ∧ expiry = []) ∨
    ∃ n : ℕ, input.expiresAfter = some (some (n : ℤ)) ∧ n < 256 ^ 8 ∧ expiry = 0 :: bigEndian 8 n

theorem signedParts {isAddress : String → Bool} {input : OfficialAction} {bytes : Bytes}
    (h : officialActionBytes isAddress input = .ok bytes) :
    Nonempty (SignedParts isAddress input bytes) := by
  obtain ⟨action, vaultAddress, nonceValue, expiresAfter⟩ := input
  simp only [officialActionBytes, invalidInput, bind_eq_ok, throwIf_eq_ok] at h
  obtain ⟨_, _, trustedVault, haddress, nonce, hnonce, expiresAt, hexpiry, encoded, hencoded, vault,
    hvault, hjoin⟩ := h
  obtain ⟨hnonceValue, _, hnonceLt⟩ := safeUint64_ok hnonce
  obtain ⟨value, hvalue, hwritten⟩ := written_encodeMessagePack action hencoded
  have hvaultParts : (vaultAddress = none ∧ vault = [0]) ∨
      ∃ address, vaultAddress = some address ∧ vault = 1 :: addressBytes address ∧
        address.toLower = address ∧ isAddress address = true := by
    cases vaultAddress with
    | none =>
      cases haddress
      exact .inl ⟨rfl, (Except.ok.inj hvault).symm⟩
    | some address =>
      obtain ⟨rfl, hlower, his⟩ := address_ok haddress
      refine .inr ⟨address, rfl, ?_, hlower, his⟩
      rw [join_ok hvault]
      simp only [List.flatten_cons, List.flatten_nil, List.append_nil, List.cons_append,
        List.nil_append]
  cases expiresAfter with
  | none =>
    cases hexpiry
    refine ⟨⟨value, encoded, nonce, vault, [], ?_, hvalue, hwritten, hnonceValue, by omega,
      hvaultParts, .inl ⟨rfl, rfl⟩⟩⟩
    rw [join_ok hjoin]
    simp only [uint64Bytes, expiryParts, List.append_nil, List.flatten_cons, List.flatten_nil]
  | some expiresAfter =>
    simp only [Hypercore.expiry, bind_eq_ok, pure_eq_ok] at hexpiry
    obtain ⟨n, hsafe, rfl⟩ := hexpiry
    obtain ⟨rfl, _, hlt⟩ := safeUint64_ok hsafe
    refine ⟨⟨value, encoded, nonce, vault, 0 :: bigEndian 8 n, ?_, hvalue, hwritten, hnonceValue,
      by omega, hvaultParts, .inr ⟨n, rfl, by omega, rfl⟩⟩⟩
    rw [join_ok hjoin]
    simp only [uint64Bytes, expiryParts, List.append_nil, List.flatten_cons, List.flatten_nil,
      List.cons_append, List.nil_append]

/-- Two parts that are read off the front are the same. -/
theorem written_unique {bytes bytes' rest rest' : Bytes} {value value' : Value}
    (h : Written bytes value) (h' : Written bytes' value') (heq : bytes ++ rest = bytes' ++ rest') :
    value = value' ∧ rest = rest' := by
  have hread := h.reads (bytes.length + bytes'.length) rest (by omega)
  have hread' := h'.reads (bytes.length + bytes'.length) rest' (by omega)
  rw [heq, hread'] at hread
  obtain ⟨rfl, rfl⟩ := Prod.mk.inj (Option.some.inj hread)
  exact ⟨rfl, rfl⟩

/-- The vault and the expiry are told apart by what is left to read. -/
theorem vault_expiry_inj {isAddress : String → Bool}
    (haddress : ∀ value, isAddress value = true → IsHexAddress value) {a b : OfficialAction}
    {bytes bytes' : Bytes} (p : SignedParts isAddress a bytes) (q : SignedParts isAddress b bytes')
    (h : p.vault ++ p.expiry = q.vault ++ q.expiry) :
    a.vaultAddress = b.vaultAddress ∧ a.expiresAfter = b.expiresAfter := by
  have hexpiry : p.expiry = q.expiry → a.expiresAfter = b.expiresAfter := by
    intro heq
    rcases p.expiry_eq with ⟨ha, hp⟩ | ⟨m, ha, hm, hp⟩ <;>
      rcases q.expiry_eq with ⟨hb, hq⟩ | ⟨n, hb, hn, hq⟩ <;> rw [hp, hq] at heq
    · rw [ha, hb]
    · cases heq
    · cases heq
    · rw [ha, hb, bigEndian_injective hm hn (List.cons.inj heq).2]
  rcases p.vault_eq with ⟨ha, hp⟩ | ⟨address, ha, hp, hlower, his⟩ <;>
    rcases q.vault_eq with ⟨hb, hq⟩ | ⟨address', hb, hq, hlower', his'⟩ <;>
    rw [hp, hq] at h
  · rw [List.singleton_append, List.singleton_append, List.cons.injEq] at h
    exact ⟨ha.trans hb.symm, hexpiry h.2⟩
  · cases (List.cons.inj h).1
  · cases (List.cons.inj h).1
  · obtain ⟨digits, hlist, hlength, hdigits⟩ := digits_of_address haddress hlower his
    obtain ⟨digits', hlist', hlength', hdigits'⟩ := digits_of_address haddress hlower' his'
    have hbytes : addressBytes address = hexBytes digits := by
      rw [addressBytes, hlist]
      rfl
    have hbytes' : addressBytes address' = hexBytes digits' := by
      rw [addressBytes, hlist']
      rfl
    have hsize := length_hexBytes 20 hlength fun c hc ↦ (hdigits c hc).1
    have hsize' := length_hexBytes 20 hlength' fun c hc ↦ (hdigits' c hc).1
    rw [List.cons_append, List.cons_append, List.cons.injEq, hbytes, hbytes'] at h
    obtain ⟨hsame, hrest⟩ := List.append_inj h.2 (by rw [hsize, hsize'])
    have hdigitsEq := hexBytes_inj 20 hlength hlength' hdigits hdigits' hsame
    have hstring : address = address' := by
      apply String.toList_inj.1
      rw [hlist, hlist', hdigitsEq]
    exact ⟨by rw [ha, hb, hstring], hexpiry hrest⟩

/-- **What is signed determines what was asked for.** -/
theorem officialActionBytes_inj {isAddress : String → Bool}
    (haddress : ∀ value, isAddress value = true → IsHexAddress value) {a b : OfficialAction}
    {bytes : Bytes} (ha : officialActionBytes isAddress a = .ok bytes)
    (hb : officialActionBytes isAddress b = .ok bytes) : a = b := by
  obtain ⟨p⟩ := signedParts ha
  obtain ⟨q⟩ := signedParts hb
  obtain ⟨hvalue, hrest⟩ := written_unique p.written q.written (p.bytes_eq.symm.trans q.bytes_eq)
  have hlength : (bigEndian 8 p.nonce).length = (bigEndian 8 q.nonce).length := by
    rw [length_bigEndian, length_bigEndian]
  obtain ⟨hnonce, htail⟩ := List.append_inj hrest hlength
  have hnonce := bigEndian_injective p.nonce_lt q.nonce_lt hnonce
  obtain ⟨hvault, hexpiry⟩ := vault_expiry_inj haddress p q htail
  have haction := toMessagePack_injective a.action b.action (hvalue ▸ p.action) q.action
  have hnonceEq : a.nonce = b.nonce := by
    rw [p.nonce_eq, q.nonce_eq, hnonce]
  obtain ⟨⟩ := a
  obtain ⟨⟩ := b
  rw [OfficialAction.mk.injEq]
  exact ⟨haction, hvault, hnonceEq, hexpiry⟩

/-- **The bytes that are signed are unambiguous.**  Whatever the encoder accepts is read back from
its bytes, all of them, as that value and no other, and no shorter bytes are; and the bytes that are
hashed determine the action, the vault, the nonce and the expiry. -/
theorem signed_bytes_unambiguous (isAddress : String → Bool)
    (haddress : ∀ value, isAddress value = true → IsHexAddress value) :
    (∀ (v : ActionValue) (depth : ℕ) (bytes : Bytes), encodeMessagePack v depth = .ok bytes →
      ∃ value, v.toMessagePack = some value ∧ decode bytes = some (value, []) ∧
        (∀ w : ActionValue, w.toMessagePack = some value → w = v) ∧
        ∀ other, decode other = some (value, []) → bytes.length ≤ other.length) ∧
    ∀ (a b : OfficialAction) (bytes : Bytes), officialActionBytes isAddress a = .ok bytes →
      officialActionBytes isAddress b = .ok bytes → a = b := by
  refine ⟨fun v depth bytes h ↦ ?_, fun a b bytes ha hb ↦ officialActionBytes_inj haddress ha hb⟩
  obtain ⟨value, hvalue, hwritten⟩ := written_encodeMessagePack v h
  have hread := hwritten.reads bytes.length [] le_rfl
  rw [List.append_nil] at hread
  refine ⟨value, hvalue, hread, fun w hw ↦ toMessagePack_injective w v hw hvalue,
    fun other hother ↦ ?_⟩
  have hshortest := shortest_le_of_read hother
  rw [hwritten.shortest]
  exact hshortest

namespace Sample

/-- The addresses that are `0x` and 40 digits. -/
def isAddress (value : String) : Bool :=
  match value.toList with
  | '0' :: 'x' :: digits => digits.length = 40 && digits.all fun c ↦ (hexDigit c).isSome
  | _ => false

theorem isHexAddress (value : String) (h : isAddress value = true) : IsHexAddress value := by
  rw [isAddress] at h
  split at h
  · rename_i digits hlist
    rw [Bool.and_eq_true, decide_eq_true_eq, List.all_eq_true] at h
    exact ⟨digits, hlist, h.1, h.2⟩
  · cases h

/-- The cancellation of an order, on behalf of a vault. -/
def cancel : OfficialAction where
  action := .object [("type", .string "cancel"),
    ("cancels", .array [.object [("a", .number (some 4)), ("o", .number (some 70000))]])]
  vaultAddress := some "0x1719884eb866cb12b2287399b15f7db5e7d775ea"
  nonce := some 1700000000000
  expiresAfter := some (some 1700000060000)

end Sample

/-- The bytes of a cancellation are those of no other action. -/
theorem signed_bytes_unambiguous_cancel :
    ∃ bytes, officialActionBytes Sample.isAddress Sample.cancel = .ok bytes ∧
      ∀ other, officialActionBytes Sample.isAddress other = .ok bytes → other = Sample.cancel := by
  have hok : (officialActionBytes Sample.isAddress Sample.cancel).isOk = true := by
    decide +kernel
  obtain ⟨bytes, hbytes⟩ := isOk_iff.1 hok
  exact ⟨bytes, hbytes, fun other hother ↦
    (signed_bytes_unambiguous Sample.isAddress Sample.isHexAddress).2 other Sample.cancel bytes
      hother hbytes⟩

end Hypercore
end IpoOne
