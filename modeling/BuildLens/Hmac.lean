import Mathlib.Data.List.Basic
import Mathlib.Tactic.SplitIfs

/-! Message authentication: the tag of RFC 2104 over any hash function, the hexadecimal text
of bytes and a comparison that always looks at every byte. -/

namespace BuildLens.Hmac

section Tags

variable (hash : List UInt8 → List UInt8) (block : Nat)

/-- The key as one block: a longer one is hashed, a shorter one is padded with zeros. -/
def blockKey (key : List UInt8) : List UInt8 :=
  (if block < key.length then hash key else key).rightpad block 0

/-- `H(K xor opad, H(K xor ipad, text))`. -/
def tag (key text : List UInt8) : List UInt8 :=
  let key := blockKey hash block key
  hash (key.map (0x5c ^^^ ·) ++ hash (key.map (0x36 ^^^ ·) ++ text))

end Tags

section Hexadecimal

/-- The value of a hexadecimal digit of either case. -/
def digit (c : Char) : Option UInt8 :=
  if '0' ≤ c ∧ c ≤ '9' then some (UInt8.ofNat (c.toNat - '0'.toNat))
  else if 'a' ≤ c ∧ c ≤ 'f' then some (UInt8.ofNat (c.toNat - 'a'.toNat + 10))
  else if 'A' ≤ c ∧ c ≤ 'F' then some (UInt8.ofNat (c.toNat - 'A'.toNat + 10))
  else none

/-- The bytes that the digits spell, two digits for each. -/
def decode : List Char → Option (List UInt8)
  | [] => some []
  | [_] => none
  | high :: low :: rest => do
    let high ← digit high
    let low ← digit low
    let later ← decode rest
    return (16 * high + low) :: later

theorem digit_ascii {c : Char} {value : UInt8} (read : digit c = some value) : c.toNat < 128 := by
  have below {last : Char} (most : c ≤ last) (ascii : last.toNat < 128) : c.toNat < 128 :=
    Nat.lt_of_le_of_lt (UInt32.le_iff_toNat_le.mp (Char.le_def.mp most)) ascii
  unfold digit at read
  split_ifs at read with decimal lower upper
  · exact below decimal.2 (by decide)
  · exact below lower.2 (by decide)
  · exact below upper.2 (by decide)

theorem digit_small {c : Char} {value : UInt8} (read : digit c = some value) : value.toNat < 16 := by
  have every : ∀ code : Fin 128, (digit (Char.ofNat code)).all (·.toNat < 16) = true := by
    decide +kernel
  have here := every ⟨c.toNat, digit_ascii read⟩
  rw [Char.ofNat_toNat, read] at here
  simpa using here

/-- What decodes has only ASCII digits, two for each byte. -/
theorem decode_shape {text : List Char} {bytes : List UInt8} (read : decode text = some bytes) :
    (∀ c ∈ text, c.toNat < 128) ∧ text.length = 2 * bytes.length := by
  induction text using decode.induct generalizing bytes with
  | case1 =>
    obtain rfl := Option.some.inj read
    simp
  | case2 => cases read
  | case3 high low rest ih =>
    simp only [decode, Option.bind_eq_bind, Option.bind_eq_some_iff, Option.pure_def, Option.some.injEq] at read
    obtain ⟨_, first, _, second, later, decoded, rfl⟩ := read
    obtain ⟨ascii, size⟩ := ih decoded
    refine ⟨?_, by simp only [List.length_cons]; omega⟩
    simp only [List.forall_mem_cons]
    exact ⟨digit_ascii first, digit_ascii second, ascii⟩

end Hexadecimal

section Comparison

/-- The bits in which the texts differ, collected over all their bytes. -/
def difference (left right : List UInt8) : UInt8 :=
  (left.zip right).foldl (fun bits pair => bits ||| (pair.1 ^^^ pair.2)) 0

private theorem or_eq_zero {left right : UInt8} : left ||| right = 0 ↔ left = 0 ∧ right = 0 := by
  simp only [← UInt8.toBitVec_inj, UInt8.toBitVec_or]
  exact BitVec.or_eq_zero_iff

private theorem collected_eq_zero {pairs : List (UInt8 × UInt8)} {bits : UInt8} :
    pairs.foldl (fun bits pair => bits ||| (pair.1 ^^^ pair.2)) bits = 0 ↔
      bits = 0 ∧ ∀ pair ∈ pairs, pair.1 = pair.2 := by
  induction pairs generalizing bits with
  | nil => simp
  | cons pair rest ih =>
    rw [List.foldl_cons, ih, or_eq_zero, UInt8.xor_eq_zero_iff, List.forall_mem_cons, and_assoc]

theorem difference_eq_zero_iff {left right : List UInt8} (same : left.length = right.length) :
    difference left right = 0 ↔ left = right := by
  rw [difference, collected_eq_zero]
  constructor
  · rintro ⟨_, alike⟩
    refine List.ext_getElem same fun index inLeft inRight => ?_
    have paired : index < (left.zip right).length := by
      rw [List.length_zip]
      omega
    simpa using alike _ (List.getElem_mem paired)
  · rintro rfl
    refine ⟨rfl, fun pair member => ?_⟩
    obtain ⟨index, inside, rfl⟩ := List.mem_iff_getElem.mp member
    simp

end Comparison

section Ascii

/-- The byte of an ASCII character. -/
def byte (c : Char) : UInt8 := UInt8.ofNat c.toNat

theorem encode_ascii {c : Char} (ascii : c.toNat < 128) : String.utf8EncodeChar c = [byte c] := by
  have small : c.val.toNat ≤ 0x7f := Nat.le_of_lt_succ ascii
  exact if_pos small

/-- Every byte of another character is large. -/
theorem encode_large {c : Char} (other : 128 ≤ c.toNat) :
    ∃ head ∈ (String.utf8EncodeChar c).head?, 128 ≤ head.toNat := by
  have wide : ¬ c.val.toNat ≤ 0x7f := by
    change ¬ c.toNat ≤ 127
    omega
  simp only [String.utf8EncodeChar, wide, if_false]
  split_ifs
  · refine ⟨_, rfl, ?_⟩
    simp only [UInt8.toNat_ofNat']
    omega
  · refine ⟨_, rfl, ?_⟩
    simp only [UInt8.toNat_ofNat']
    omega
  · refine ⟨_, rfl, ?_⟩
    simp only [UInt8.toNat_ofNat']
    omega

theorem byte_injective {first second : Char} (ascii : first.toNat < 128) (ascii' : second.toNat < 128)
    (same : byte first = byte second) : first = second := by
  have values := congrArg UInt8.toNat same
  simp only [byte, UInt8.toNat_ofNat'] at values
  exact Char.toNat_inj.mp (by omega)

/-- ASCII texts with the same bytes are the same. -/
theorem map_byte_injective {first second : List Char} (ascii : ∀ c ∈ first, c.toNat < 128)
    (ascii' : ∀ c ∈ second, c.toNat < 128) (same : first.map byte = second.map byte) : first = second := by
  induction first generalizing second with
  | nil => simpa using same.symm
  | cons c rest ih =>
    cases second with
    | nil => cases same
    | cons d later =>
      obtain ⟨head, tail⟩ := List.cons.inj same
      rw [List.forall_mem_cons] at ascii ascii'
      rw [byte_injective ascii.1 ascii'.1 head, ih ascii.2 ascii'.2 tail]

/-- A text is ASCII when its bytes are. -/
theorem ascii_of_bytes {text : List Char} (small : ∀ b ∈ text.flatMap String.utf8EncodeChar, b.toNat < 128) :
    ∀ c ∈ text, c.toNat < 128 := by
  intro c member
  by_contra other
  obtain ⟨head, first, large⟩ := encode_large (Nat.le_of_not_lt other)
  have below := small head (List.mem_flatMap.mpr ⟨c, member, List.mem_of_mem_head? first⟩)
  omega

theorem bytes_of_ascii {text : List Char} (ascii : ∀ c ∈ text, c.toNat < 128) :
    text.flatMap String.utf8EncodeChar = text.map byte := by
  induction text with
  | nil => rfl
  | cons c rest ih =>
    rw [List.flatMap_cons, encode_ascii (ascii c List.mem_cons_self),
      ih fun d member => ascii d (List.mem_cons_of_mem c member)]
    rfl

end Ascii

end BuildLens.Hmac
