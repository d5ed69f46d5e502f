import Mathlib

/-!
# MessagePack

The values of the format, and its reader.  A value starts with a *head*, which its first byte and at
most eight more make up (`readHead`): either the head is the whole value, or it announces how many
bytes or values follow.  `read fuel` reads one value off the front of some bytes, with at most
`fuel` containers inside each other.

The format has several heads for one value.  `Head.shortest` and `Value.shortest` are the numbers of
bytes that a value takes at least, and `shortest_le_of_read` says that nothing that is read as the
value is shorter.
-/

set_option autoImplicit false

namespace MessagePack

/-- A string of bytes. -/
abbrev Bytes : Type := List UInt8

/-- The values of MessagePack; a text is its UTF-8 bytes. -/
inductive Value where
  | nil
  | bool (value : Bool)
  | int (value : ℤ)
  | float (bits : Bytes)
  | str (utf8 : Bytes)
  | bin (data : Bytes)
  | ext (type : UInt8) (data : Bytes)
  | array (items : List Value)
  | map (entries : List (Value × Value))

/-- What the first bytes of a value say. -/
inductive Head where
  | nil
  | bool (value : Bool)
  | int (value : ℤ)
  | float (width : ℕ)
  | str (length : ℕ)
  | bin (length : ℕ)
  | ext (length : ℕ)
  | array (length : ℕ)
  | map (length : ℕ)

/-! ## Numbers -/

/-- The last `width` bytes of a number, the highest one first. -/
def bigEndian : ℕ → ℕ → Bytes
  | 0, _ => []
  | width + 1, n => UInt8.ofNat (n / 256 ^ width) :: bigEndian width n

/-- The number that some bytes stand for after `high`. -/
def ofBigEndian (high : ℕ) (bytes : Bytes) : ℕ :=
  bytes.foldl (fun n byte ↦ 256 * n + byte.toNat) high

@[simp] theorem length_bigEndian (width n : ℕ) : (bigEndian width n).length = width := by
  induction width with
  | zero => rfl
  | succ width ih => rw [bigEndian, List.length_cons, ih]

theorem ofBigEndian_bigEndian_mod (width n high : ℕ) :
    ofBigEndian high (bigEndian width n) = high * 256 ^ width + n % 256 ^ width := by
  induction width generalizing high with
  | zero =>
    rw [bigEndian, ofBigEndian, List.foldl_nil]
    omega
  | succ width ih =>
    have hbyte : (UInt8.ofNat (n / 256 ^ width)).toNat = n / 256 ^ width % 256 := UInt8.toNat_ofNat'
    have hsplit : n % 256 ^ (width + 1)
        = n % 256 ^ width + 256 ^ width * (n / 256 ^ width % 256) := by
      rw [pow_succ, Nat.mod_mul]
    have hstep := ih (256 * high + (UInt8.ofNat (n / 256 ^ width)).toNat)
    rw [ofBigEndian] at hstep
    rw [bigEndian, ofBigEndian, List.foldl_cons, hstep, hbyte, hsplit]
    ring

theorem ofBigEndian_bigEndian {width n : ℕ} (h : n < 256 ^ width) :
    ofBigEndian 0 (bigEndian width n) = n := by
  rw [ofBigEndian_bigEndian_mod, Nat.zero_mul, Nat.zero_add, Nat.mod_eq_of_lt h]

theorem bigEndian_injective {width m n : ℕ} (hm : m < 256 ^ width) (hn : n < 256 ^ width)
    (h : bigEndian width m = bigEndian width n) : m = n := by
  rw [← ofBigEndian_bigEndian hm, h, ofBigEndian_bigEndian hn]

theorem ofBigEndian_lt (bytes : Bytes) (high : ℕ) :
    ofBigEndian high bytes < (high + 1) * 256 ^ bytes.length := by
  induction bytes generalizing high with
  | nil =>
    rw [ofBigEndian, List.foldl_nil, List.length_nil]
    omega
  | cons byte bytes ih =>
    have hbyte : byte.toNat < 256 := byte.toNat_lt
    have hhigh : (256 * high + byte.toNat + 1) * 256 ^ bytes.length
        ≤ (high + 1) * 256 ^ (bytes.length + 1) := by
      rw [pow_succ, mul_comm (256 ^ bytes.length) 256, ← mul_assoc]
      exact Nat.mul_le_mul_right _ (by omega)
    exact (ih (256 * high + byte.toNat)).trans_le hhigh

/-! ## The reader -/

/-- The first `n` bytes, and the others. -/
def takeBytes (n : ℕ) (bytes : Bytes) : Option (Bytes × Bytes) :=
  if n ≤ bytes.length then some (bytes.take n, bytes.drop n) else none

/-- Reads an unsigned number of `width` bytes, the most significant one first. -/
def readUInt (width : ℕ) (bytes : Bytes) : Option (ℕ × Bytes) :=
  (takeBytes width bytes).map fun (digits, rest) ↦ (ofBigEndian 0 digits, rest)

/-- A head that a number of `width` bytes completes. -/
def sized (width : ℕ) (head : ℕ → Head) (bytes : Bytes) : Option (Head × Bytes) :=
  (readUInt width bytes).map fun (n, rest) ↦ (head n, rest)

/-- The two's complement of `width` bytes. -/
def signed (width n : ℕ) : ℤ := if n < 256 ^ width / 2 then n else n - (256 ^ width : ℕ)

/-- Reads one head: the format byte and the number or length that follows it. -/
def readHead : Bytes → Option (Head × Bytes)
  | [] => none
  | byte :: rest =>
    let code := byte.toNat
    if code < 0x80 then some (.int code, rest)
    else if code < 0x90 then some (.map (code - 0x80), rest)
    else if code < 0xa0 then some (.array (code - 0x90), rest)
    else if code < 0xc0 then some (.str (code - 0xa0), rest)
    else if 0xe0 ≤ code then some (.int (code - 256), rest)
    else match code with
      | 0xc0 => some (.nil, rest)
      | 0xc2 => some (.bool false, rest)
      | 0xc3 => some (.bool true, rest)
      | 0xc4 => sized 1 .bin rest
      | 0xc5 => sized 2 .bin rest
      | 0xc6 => sized 4 .bin rest
      | 0xc7 => sized 1 .ext rest
      | 0xc8 => sized 2 .ext rest
      | 0xc9 => sized 4 .ext rest
      | 0xca => some (.float 4, rest)
      | 0xcb => some (.float 8, rest)
      | 0xcc => sized 1 (fun n ↦ .int n) rest
      | 0xcd => sized 2 (fun n ↦ .int n) rest
      | 0xce => sized 4 (fun n ↦ .int n) rest
      | 0xcf => sized 8 (fun n ↦ .int n) rest
      | 0xd0 => sized 1 (fun n ↦ .int (signed 1 n)) rest
      | 0xd1 => sized 2 (fun n ↦ .int (signed 2 n)) rest
      | 0xd2 => sized 4 (fun n ↦ .int (signed 4 n)) rest
      | 0xd3 => sized 8 (fun n ↦ .int (signed 8 n)) rest
      | 0xd4 => some (.ext 1, rest)
      | 0xd5 => some (.ext 2, rest)
      | 0xd6 => some (.ext 4, rest)
      | 0xd7 => some (.ext 8, rest)
      | 0xd8 => some (.ext 16, rest)
      | 0xd9 => sized 1 .str rest
      | 0xda => sized 2 .str rest
      | 0xdb => sized 4 .str rest
      | 0xdc => sized 2 .array rest
      | 0xdd => sized 4 .array rest
      | 0xde => sized 2 .map rest
      | 0xdf => sized 4 .map rest
      | _ => none

/-- `n` values, one after the other. -/
def readMany {α : Type} (next : Bytes → Option (α × Bytes)) : ℕ → Bytes → Option (List α × Bytes)
  | 0, bytes => some ([], bytes)
  | n + 1, bytes => do
    let (item, rest) ← next bytes
    let (items, rest) ← readMany next n rest
    pure (item :: items, rest)

/-- Reads an entry of a map: a key, then its value. -/
def readPair (next : Bytes → Option (Value × Bytes)) (bytes : Bytes) :
    Option ((Value × Value) × Bytes) := do
  let (key, rest) ← next bytes
  let (value, rest) ← next rest
  pure ((key, value), rest)

/-- What follows a head. -/
def readBody (next : Bytes → Option (Value × Bytes)) : Head → Bytes → Option (Value × Bytes)
  | .nil, bytes => some (.nil, bytes)
  | .bool value, bytes => some (.bool value, bytes)
  | .int value, bytes => some (.int value, bytes)
  | .float width, bytes => (takeBytes width bytes).map fun (bits, rest) ↦ (.float bits, rest)
  | .str length, bytes => (takeBytes length bytes).map fun (utf8, rest) ↦ (.str utf8, rest)
  | .bin length, bytes => (takeBytes length bytes).map fun (data, rest) ↦ (.bin data, rest)
  | .ext _, [] => none
  | .ext length, type :: bytes =>
    (takeBytes length bytes).map fun (data, rest) ↦ (.ext type data, rest)
  | .array length, bytes =>
    (readMany next length bytes).map fun (items, rest) ↦ (.array items, rest)
  | .map length, bytes =>
    (readMany (readPair next) length bytes).map fun (entries, rest) ↦ (.map entries, rest)

/-- Read one value off the front. -/
def read : ℕ → Bytes → Option (Value × Bytes)
  | 0, _ => none
  | fuel + 1, bytes => do
    let (head, rest) ← readHead bytes
    readBody (read fuel) head rest

/-- The value that some bytes are.  No value has more containers inside each other than bytes. -/
def decode (bytes : Bytes) : Option (Value × Bytes) := read bytes.length bytes

/-! ## Reading what was written -/

theorem takeBytes_append (bytes rest : Bytes) :
    takeBytes bytes.length (bytes ++ rest) = some (bytes, rest) := by
  have hle : bytes.length ≤ (bytes ++ rest).length := by
    rw [List.length_append]
    omega
  rw [takeBytes, if_pos hle, List.take_left, List.drop_left]

theorem readUInt_append {width n : ℕ} (h : n < 256 ^ width) (rest : Bytes) :
    readUInt width (bigEndian width n ++ rest) = some (n, rest) := by
  have htake := takeBytes_append (bigEndian width n) rest
  rw [length_bigEndian] at htake
  rw [readUInt, htake, Option.map_some]
  dsimp only
  rw [ofBigEndian_bigEndian h]

theorem sized_append {width n : ℕ} (h : n < 256 ^ width) (head : ℕ → Head) (rest : Bytes) :
    sized width head (bigEndian width n ++ rest) = some (head n, rest) := by
  rw [sized, readUInt_append h, Option.map_some]

section Fixed

variable {n : ℕ} (rest : Bytes)

theorem toNat_ofNat_of_lt (h : n < 256) : (UInt8.ofNat n).toNat = n := by
  rw [UInt8.toNat_ofNat']
  omega

theorem readHead_fixint (h : n < 128) :
    readHead (UInt8.ofNat n :: rest) = some (.int n, rest) := by
  have hbyte := toNat_ofNat_of_lt (show n < 256 by omega)
  simp only [readHead, hbyte, if_pos h]

theorem readHead_fixmap (h : n < 16) :
    readHead (UInt8.ofNat (0x80 + n) :: rest) = some (.map n, rest) := by
  have hbyte := toNat_ofNat_of_lt (show 0x80 + n < 256 by omega)
  simp only [readHead, hbyte]
  rw [if_neg (by omega), if_pos (by omega), Nat.add_sub_cancel_left]

theorem readHead_fixarray (h : n < 16) :
    readHead (UInt8.ofNat (0x90 + n) :: rest) = some (.array n, rest) := by
  have hbyte := toNat_ofNat_of_lt (show 0x90 + n < 256 by omega)
  simp only [readHead, hbyte]
  rw [if_neg (by omega), if_neg (by omega), if_pos (by omega), Nat.add_sub_cancel_left]

theorem readHead_fixstr (h : n < 32) :
    readHead (UInt8.ofNat (0xa0 + n) :: rest) = some (.str n, rest) := by
  have hbyte := toNat_ofNat_of_lt (show 0xa0 + n < 256 by omega)
  simp only [readHead, hbyte]
  rw [if_neg (by omega), if_neg (by omega), if_neg (by omega), if_pos (by omega),
    Nat.add_sub_cancel_left]

theorem readHead_uint8 (h : n < 256 ^ 1) :
    readHead (0xcc :: bigEndian 1 n ++ rest) = some (.int n, rest) :=
  sized_append h (fun n ↦ .int n) rest

theorem readHead_uint16 (h : n < 256 ^ 2) :
    readHead (0xcd :: bigEndian 2 n ++ rest) = some (.int n, rest) :=
  sized_append h (fun n ↦ .int n) rest

theorem readHead_uint32 (h : n < 256 ^ 4) :
    readHead (0xce :: bigEndian 4 n ++ rest) = some (.int n, rest) :=
  sized_append h (fun n ↦ .int n) rest

theorem readHead_uint64 (h : n < 256 ^ 8) :
    readHead (0xcf :: bigEndian 8 n ++ rest) = some (.int n, rest) :=
  sized_append h (fun n ↦ .int n) rest

theorem readHead_str8 (h : n < 256 ^ 1) :
    readHead (0xd9 :: bigEndian 1 n ++ rest) = some (.str n, rest) :=
  sized_append h .str rest

theorem readHead_str16 (h : n < 256 ^ 2) :
    readHead (0xda :: bigEndian 2 n ++ rest) = some (.str n, rest) :=
  sized_append h .str rest

theorem readHead_array16 (h : n < 256 ^ 2) :
    readHead (0xdc :: bigEndian 2 n ++ rest) = some (.array n, rest) :=
  sized_append h .array rest

theorem readHead_map16 (h : n < 256 ^ 2) :
    readHead (0xde :: bigEndian 2 n ++ rest) = some (.map n, rest) :=
  sized_append h .map rest

end Fixed

theorem readMany_cons {α : Type} {next : Bytes → Option (α × Bytes)} {n : ℕ} {item : α}
    {items : List α} {bytes middle rest : Bytes} (hitem : next bytes = some (item, middle))
    (hitems : readMany next n middle = some (items, rest)) :
    readMany next (n + 1) bytes = some (item :: items, rest) := by
  simp only [readMany, hitem, hitems, Option.bind_eq_bind, Option.bind_some, Option.pure_def]

theorem readPair_eq {next : Bytes → Option (Value × Bytes)} {key value : Value}
    {bytes middle rest : Bytes} (hkey : next bytes = some (key, middle))
    (hvalue : next middle = some (value, rest)) :
    readPair next bytes = some ((key, value), rest) := by
  simp only [readPair, hkey, hvalue, Option.bind_eq_bind, Option.bind_some, Option.pure_def]

theorem read_succ {fuel : ℕ} {bytes body : Bytes} {head : Head}
    (h : readHead bytes = some (head, body)) :
    read (fuel + 1) bytes = readBody (read fuel) head body := by
  simp only [read, h, Option.bind_eq_bind, Option.bind_some]

/-! ## The shortest form -/

/-- How many bytes announce `n` bytes of text, at least. -/
def shortestText (n : ℕ) : ℕ :=
  if n < 32 then 1 else if n < 256 then 2 else if n < 65536 then 3 else 5

/-- How many bytes announce `n` values, at least. -/
def shortestCount (n : ℕ) : ℕ := if n < 16 then 1 else if n < 65536 then 3 else 5

/-- How many bytes hold an integer that is not negative, at least. -/
def shortestInt (n : ℤ) : ℕ :=
  if n < 128 then 1 else if n < 256 then 2 else if n < 65536 then 3
  else if n < 4294967296 then 5 else 9

/-- The fewest bytes that can hold a head. -/
def Head.shortest : Head → ℕ
  | .int n => shortestInt n
  | .str length => shortestText length
  | .array length => shortestCount length
  | .map length => shortestCount length
  | _ => 1

mutual

/-- How many bytes a value takes at least, where it is built of nil, booleans, integers that are not
negative, texts, arrays and maps. -/
def Value.shortest : Value → ℕ
  | .int n => shortestInt n
  | .str utf8 => shortestText utf8.length + utf8.length
  | .array items => shortestCount items.length + shortestItems items
  | .map entries => shortestCount entries.length + shortestEntries entries
  | _ => 1

/-- The fewest bytes of a list of values. -/
def shortestItems : List Value → ℕ
  | [] => 0
  | item :: items => item.shortest + shortestItems items

/-- The fewest bytes of a map's entries. -/
def shortestEntries : List (Value × Value) → ℕ
  | [] => 0
  | (key, value) :: entries => key.shortest + value.shortest + shortestEntries entries

end

theorem takeBytes_eq_some {n : ℕ} {bytes taken rest : Bytes} :
    takeBytes n bytes = some (taken, rest) ↔ taken.length = n ∧ bytes = taken ++ rest := by
  rw [takeBytes]
  constructor
  · intro h
    split at h
    · rename_i hle
      obtain ⟨rfl, rfl⟩ := Prod.mk.inj (Option.some.inj h)
      exact ⟨List.length_take_of_le hle, (List.take_append_drop n bytes).symm⟩
    · cases h
  · rintro ⟨rfl, rfl⟩
    have htake := takeBytes_append taken rest
    rwa [takeBytes] at htake

theorem readUInt_eq_some {width n : ℕ} {bytes rest : Bytes}
    (h : readUInt width bytes = some (n, rest)) :
    n < 256 ^ width ∧ width + rest.length = bytes.length := by
  obtain ⟨⟨digits, rest'⟩, htake, heq⟩ := Option.map_eq_some_iff.1 h
  obtain ⟨rfl, rfl⟩ := Prod.mk.inj heq
  obtain ⟨rfl, rfl⟩ := takeBytes_eq_some.1 htake
  have hlt := ofBigEndian_lt digits 0
  rw [Nat.zero_add, Nat.one_mul] at hlt
  exact ⟨hlt, (List.length_append).symm⟩

/-- A head that a number completes takes as many bytes as the number, and one. -/
theorem sized_shortest {width : ℕ} {make : ℕ → Head} {bytes rest : Bytes} {head : Head}
    (hmake : ∀ n, n < 256 ^ width → (make n).shortest ≤ width + 1)
    (h : sized width make bytes = some (head, rest)) :
    head.shortest + rest.length ≤ bytes.length + 1 := by
  obtain ⟨⟨n, rest'⟩, hread, heq⟩ := Option.map_eq_some_iff.1 h
  obtain ⟨rfl, rfl⟩ := Prod.mk.inj heq
  obtain ⟨hlt, hlength⟩ := readUInt_eq_some hread
  have hhead := hmake n hlt
  omega

theorem signed_lt {width n : ℕ} (h : n < 256 ^ width) : signed width n < (256 ^ width : ℕ) := by
  rw [signed]
  split_ifs <;> omega

/-- **No head is shorter than the shortest.** -/
theorem shortest_le_of_readHead {bytes rest : Bytes} {head : Head}
    (h : readHead bytes = some (head, rest)) : head.shortest + rest.length ≤ bytes.length := by
  have htext : ∀ n, (Head.str n).shortest = shortestText n := fun _ ↦ rfl
  have harray : ∀ n, (Head.array n).shortest = shortestCount n := fun _ ↦ rfl
  have hmap : ∀ n, (Head.map n).shortest = shortestCount n := fun _ ↦ rfl
  have hint : ∀ n, (Head.int n).shortest = shortestInt n := fun _ ↦ rfl
  cases bytes with
  | nil => cases h
  | cons byte bytes =>
    have hbyte : byte.toNat < 256 := byte.toNat_lt
    rw [List.length_cons]
    simp only [readHead] at h
    split at h
    · cases h
      rw [hint, shortestInt, if_pos (by omega)]
      omega
    split at h
    · cases h
      rw [hmap, shortestCount, if_pos (by omega)]
      omega
    split at h
    · cases h
      rw [harray, shortestCount, if_pos (by omega)]
      omega
    split at h
    · cases h
      rw [htext, shortestText, if_pos (by omega)]
      omega
    split at h
    · cases h
      rw [hint, shortestInt, if_pos (by omega)]
      omega
    -- the bytes from `0xc0` to `0xdf`
    split at h
    all_goals first
      | contradiction
      | (cases h; simp only [Head.shortest]; omega)
      | refine sized_shortest (fun n hn ↦ ?_) h
    all_goals simp only [Head.shortest, shortestText, shortestCount, shortestInt]
    all_goals first
      | omega
      | (split_ifs <;> omega)
      | (have hlt := signed_lt hn; split_ifs <;> omega)

/-- What is read as one of many values takes its bytes. -/
theorem shortest_le_of_readMany {α : Type} {next : Bytes → Option (α × Bytes)} {size : α → ℕ}
    {sizes : List α → ℕ} (hnil : sizes [] = 0)
    (hcons : ∀ item items, sizes (item :: items) = size item + sizes items)
    (hnext : ∀ {bytes rest : Bytes} {item : α}, next bytes = some (item, rest) →
      size item + rest.length ≤ bytes.length) :
    ∀ {n : ℕ} {bytes rest : Bytes} {items : List α}, readMany next n bytes = some (items, rest) →
      items.length = n ∧ sizes items + rest.length ≤ bytes.length := by
  intro n
  induction n with
  | zero =>
    intro bytes rest items h
    obtain ⟨rfl, rfl⟩ := Prod.mk.inj (Option.some.inj h)
    exact ⟨rfl, by omega⟩
  | succ n ih =>
    intro bytes rest items h
    simp only [readMany, Option.bind_eq_bind, Option.bind_eq_some_iff, Option.pure_def,
      Option.some.injEq, Prod.mk.injEq, Prod.exists] at h
    obtain ⟨item, middle, hitem, others, last, hothers, rfl, rfl⟩ := h
    obtain ⟨hlength, hsizes⟩ := ih hothers
    have hsize := hnext hitem
    refine ⟨by rw [List.length_cons, hlength], ?_⟩
    rw [hcons]
    omega

theorem takeBytes_le {n : ℕ} {bytes taken rest : Bytes}
    (h : takeBytes n bytes = some (taken, rest)) :
    taken.length = n ∧ n + rest.length = bytes.length := by
  obtain ⟨rfl, rfl⟩ := takeBytes_eq_some.1 h
  exact ⟨rfl, (List.length_append).symm⟩

section

variable {next : Bytes → Option (Value × Bytes)}
  (hnext : ∀ {bytes rest : Bytes} {value : Value}, next bytes = some (value, rest) →
    value.shortest + rest.length ≤ bytes.length)
  {n : ℕ} {bytes rest : Bytes}

include hnext

theorem shortest_items_of_readMany {items : List Value}
    (h : readMany next n bytes = some (items, rest)) :
    items.length = n ∧ shortestItems items + rest.length ≤ bytes.length :=
  shortest_le_of_readMany rfl (fun _ _ ↦ rfl) hnext h

theorem shortest_readPair {entry : Value × Value} (h : readPair next bytes = some (entry, rest)) :
    (entry.1.shortest + entry.2.shortest) + rest.length ≤ bytes.length := by
  simp only [readPair, Option.bind_eq_bind, Option.bind_eq_some_iff, Option.pure_def,
    Option.some.injEq, Prod.mk.injEq, Prod.exists] at h
  obtain ⟨key, middle, hkey, value, last, hvalue, rfl, rfl⟩ := h
  have hfirst := hnext hkey
  have hsecond := hnext hvalue
  dsimp only
  omega

theorem shortest_entries_of_readMany {entries : List (Value × Value)}
    (h : readMany (readPair next) n bytes = some (entries, rest)) :
    entries.length = n ∧ shortestEntries entries + rest.length ≤ bytes.length :=
  shortest_le_of_readMany rfl (fun _ _ ↦ rfl) (shortest_readPair hnext) h

end

/-- **Nothing that is read as a value is shorter than the shortest.** -/
theorem shortest_le_of_read : ∀ {fuel : ℕ} {bytes rest : Bytes} {value : Value},
    read fuel bytes = some (value, rest) → value.shortest + rest.length ≤ bytes.length := by
  intro fuel
  induction fuel with
  | zero => exact nofun
  | succ fuel ih =>
    intro bytes rest value h
    simp only [read, Option.bind_eq_bind, Option.bind_eq_some_iff, Prod.exists] at h
    obtain ⟨head, body, hhead, hbody⟩ := h
    have hle := shortest_le_of_readHead hhead
    cases head with
    | nil | bool | int =>
      obtain ⟨rfl, rfl⟩ := Prod.mk.inj (Option.some.inj hbody)
      exact hle
    | float width =>
      simp only [readBody, Option.map_eq_some_iff, Prod.exists, Prod.mk.injEq] at hbody
      obtain ⟨bits, last, htake, rfl, rfl⟩ := hbody
      have hlength := (takeBytes_le htake).2
      simp only [Head.shortest] at hle
      simp only [Value.shortest]
      omega
    | str length =>
      simp only [readBody, Option.map_eq_some_iff, Prod.exists, Prod.mk.injEq] at hbody
      obtain ⟨utf8, last, htake, rfl, rfl⟩ := hbody
      obtain ⟨rfl, hlength⟩ := takeBytes_le htake
      simp only [Head.shortest] at hle
      simp only [Value.shortest]
      omega
    | bin length =>
      simp only [readBody, Option.map_eq_some_iff, Prod.exists, Prod.mk.injEq] at hbody
      obtain ⟨data, last, htake, rfl, rfl⟩ := hbody
      have hlength := (takeBytes_le htake).2
      simp only [Head.shortest] at hle
      simp only [Value.shortest]
      omega
    | ext length =>
      cases body with
      | nil => cases hbody
      | cons type body =>
        simp only [readBody, Option.map_eq_some_iff, Prod.exists, Prod.mk.injEq] at hbody
        obtain ⟨data, last, htake, rfl, rfl⟩ := hbody
        have hlength := (takeBytes_le htake).2
        simp only [Head.shortest, List.length_cons] at hle
        simp only [Value.shortest]
        omega
    | array length =>
      simp only [readBody, Option.map_eq_some_iff, Prod.exists, Prod.mk.injEq] at hbody
      obtain ⟨items, last, hread, rfl, rfl⟩ := hbody
      obtain ⟨rfl, hitems⟩ := shortest_items_of_readMany ih hread
      simp only [Head.shortest] at hle
      simp only [Value.shortest]
      omega
    | map length =>
      simp only [readBody, Option.map_eq_some_iff, Prod.exists, Prod.mk.injEq] at hbody
      obtain ⟨entries, last, hread, rfl, rfl⟩ := hbody
      obtain ⟨rfl, hentries⟩ := shortest_entries_of_readMany ih hread
      simp only [Head.shortest] at hle
      simp only [Value.shortest]
      omega

end MessagePack
