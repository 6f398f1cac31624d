import BuildLens.Gateway.Crypto
import BuildLens.Hmac
import Mathlib.Data.Bool.AllAny

/-! Webhook signatures against GitHub's scheme. `crypto.rs` fills arrays index by index; here
every index, slice and subtraction is checked, and the outcome is compared with RFC 2104. -/

namespace BuildLens.Gateway

section Arrays

/-- Where the code would stop. -/
inductive Panic where
  | indexOutOfBounds
  | sliceOutOfRange
  | copyLengthMismatch
  | arithmeticOverflow
  deriving DecidableEq, Repr

/-- `target[..count].copy_from_slice(source)`. -/
def copyFromSlice (target : Bytes) (count : Nat) (source : Bytes) : Except Panic Bytes :=
  if target.length < count then .error .sliceOutOfRange
  else if source.length ≠ count then .error .copyLengthMismatch
  else .ok (source ++ target.drop count)

def readIndex (array : Bytes) (index : Nat) : Except Panic UInt8 :=
  match array[index]? with
  | some value => .ok value
  | none => .error .indexOutOfBounds

def writeIndex (array : Bytes) (index : Nat) (value : UInt8) : Except Panic Bytes :=
  if index < array.length then .ok (array.set index value) else .error .indexOutOfBounds

def checkedSub (left right : UInt8) : Except Panic UInt8 :=
  if left < right then .error .arithmeticOverflow else .ok (left - right)

def checkedAdd (left right : UInt8) : Except Panic UInt8 :=
  if 255 - left < right then .error .arithmeticOverflow else .ok (left + right)

end Arrays

section Digests

/-- A hasher is what it has been fed. -/
abbrev Sha256 := Bytes

def Sha256.new : Sha256 := []

def Sha256.update (hasher : Sha256) (data : Bytes) : Sha256 := hasher ++ data

def Sha256.finalize (sha256 : Bytes → Digest) (hasher : Sha256) : Digest := sha256 hasher

end Digests

section Source

variable (sha256 : Bytes → Digest)

/-- One round of the loop that mixes the key into both pads. -/
def mixPads (normalized : Bytes) (pads : Bytes × Bytes) (index : Nat) : Except Panic (Bytes × Bytes) := do
  let key ← readIndex normalized index
  let innerByte ← readIndex pads.1 index
  let innerPad ← writeIndex pads.1 index (innerByte ^^^ key)
  let outerByte ← readIndex pads.2 index
  let outerPad ← writeIndex pads.2 index (outerByte ^^^ key)
  return (innerPad, outerPad)

def normalizeKeyChecked (key : Bytes) : Except Panic Bytes :=
  let normalized := List.replicate BLOCK_SIZE 0
  if BLOCK_SIZE < key.length then copyFromSlice normalized 32 (sha256 key).toList
  else copyFromSlice normalized key.length key

def hmacSha256Checked (key body : Bytes) : Except Panic Digest := do
  let normalized ← normalizeKeyChecked sha256 key
  let (innerPad, outerPad) ← (List.range BLOCK_SIZE).foldlM (mixPads normalized)
    (List.replicate BLOCK_SIZE 0x36, List.replicate BLOCK_SIZE 0x5c)
  let inner := ((Sha256.new.update innerPad).update body).finalize sha256
  return ((Sha256.new.update outerPad).update inner.toList).finalize sha256

def fromHexChecked (value : UInt8) : Except Panic (Option UInt8) := do
  if 48 ≤ value ∧ value ≤ 57 then return some (← checkedSub value 48)
  else if 97 ≤ value ∧ value ≤ 102 then return some (← checkedAdd (← checkedSub value 97) 10)
  else if 65 ≤ value ∧ value ≤ 70 then return some (← checkedAdd (← checkedSub value 65) 10)
  else return none

/-- `chunks_exact(2)`: an odd byte at the end is left out. -/
def chunksOfTwo : Bytes → List (UInt8 × UInt8)
  | first :: second :: rest => (first, second) :: chunksOfTwo rest
  | _ => []

/-- The loop over the pairs of digits; `none` where the source returns `false`. -/
def fillSupplied : (index : Nat) → List (UInt8 × UInt8) → (supplied : Bytes) → Except Panic (Option Bytes)
  | _, [], supplied => return some supplied
  | index, (high, low) :: rest, supplied => do
    match ← fromHexChecked high with
    | none => return none
    | some high =>
      match ← fromHexChecked low with
      | none => return none
      | some low =>
        let supplied ← writeIndex supplied index ((high <<< 4) ||| low)
        fillSupplied (index + 1) rest supplied

def verifyGithubSignatureChecked (secret : String) (body : Bytes) (signature : String) :
    Except Panic Bool :=
  match stripPrefix (asBytes "sha256=") (asBytes signature) with
  | none => return false
  | some hex => do
    if hex.length ≠ 64 then return false
    match ← fillSupplied 0 (chunksOfTwo hex) (List.replicate 32 0) with
    | none => return false
    | some supplied =>
      let expected ← hmacSha256Checked sha256 (asBytes secret) body
      return (expected.toList.zip supplied).foldl
        (fun difference pair => difference ||| (pair.1 ^^^ pair.2)) 0 == 0

end Source

section Unchecked

private theorem copyFromSlice_ok {target source : Bytes} {count : Nat} (fits : count ≤ target.length)
    (same : source.length = count) : copyFromSlice target count source = .ok (source ++ target.drop count) := by
  rw [copyFromSlice, if_neg (Nat.not_lt.mpr fits), if_neg (not_not_intro same)]

private theorem readIndex_append (front rest : Bytes) (value : UInt8) :
    readIndex (front ++ value :: rest) front.length = .ok value := by
  simp [readIndex]

private theorem writeIndex_append (front rest : Bytes) (old value : UInt8) :
    writeIndex (front ++ old :: rest) front.length value = .ok (front ++ value :: rest) := by
  simp [writeIndex]

private theorem checkedSub_ok {left right : UInt8} (least : right ≤ left) :
    checkedSub left right = .ok (left - right) := by
  rw [checkedSub, if_neg (UInt8.not_lt.mpr least)]

/-- A letter counts from ten, far below the end of a byte. -/
private theorem checkedAdd_letter {first last value : UInt8} (least : first ≤ value) (most : value ≤ last)
    (few : last.toNat < first.toNat + 6) : checkedAdd (value - first) 10 = .ok (value - first + 10) := by
  have lower := UInt8.le_iff_toNat_le.mp least
  have upper := UInt8.le_iff_toNat_le.mp most
  have small : (value - first).toNat ≤ 5 := by
    rw [UInt8.toNat_sub_of_le _ _ least]
    omega
  have room : ¬ 255 - (value - first) < 10 := by
    have within : value - first ≤ 255 := UInt8.le_iff_toNat_le.mpr (Nat.le_trans small (by decide))
    rw [UInt8.lt_iff_toNat_lt, UInt8.toNat_sub_of_le _ _ within]
    simp only [UInt8.toNat_ofNat]
    omega
  rw [checkedAdd, if_neg room]

theorem fromHexChecked_eq (value : UInt8) : fromHexChecked value = .ok (fromHex value) := by
  unfold fromHexChecked fromHex
  split_ifs with decimal lower upper
  · rw [checkedSub_ok decimal.1]
    rfl
  · rw [checkedSub_ok lower.1]
    exact congrArg (Functor.map some) (checkedAdd_letter lower.1 lower.2 (by decide))
  · rw [checkedSub_ok upper.1]
    exact congrArg (Functor.map some) (checkedAdd_letter upper.1 upper.2 (by decide))
  · rfl

theorem fillSupplied_eq (hex front rest : Bytes) (room : rest.length = (chunksOfTwo hex).length) :
    fillSupplied front.length (chunksOfTwo hex) (front ++ rest) =
      .ok ((suppliedBytes hex).map (front ++ ·)) := by
  induction hex using chunksOfTwo.induct generalizing front rest with
  | case1 high low later ih =>
    cases rest with
    | nil => cases room
    | cons old rest =>
      have extended : ∀ value, fillSupplied (front.length + 1) (chunksOfTwo later) (front ++ value :: rest) =
          .ok ((suppliedBytes later).map (front ++ value :: ·)) := by
        intro value
        have filled := ih (front ++ [value]) rest (Nat.succ.inj room)
        simpa using filled
      rw [chunksOfTwo, fillSupplied, fromHexChecked_eq, suppliedBytes]
      cases fromHex high with
      | none => rfl
      | some high =>
        rw [fromHexChecked_eq]
        cases fromHex low with
        | none => rfl
        | some low =>
          change (writeIndex (front ++ old :: rest) front.length (high <<< 4 ||| low)).bind _ = _
          rw [writeIndex_append]
          refine (extended _).trans ?_
          cases suppliedBytes later with
          | none => rfl
          | some bytes => rfl
  | case2 hex short =>
    obtain rfl : rest = [] := by
      rw [chunksOfTwo.eq_2 hex short] at room
      exact List.eq_nil_of_length_eq_zero room
    rw [chunksOfTwo.eq_2 hex short, suppliedBytes.eq_2 hex short]
    simp [fillSupplied]
    rfl

/-- A pad after some rounds: the key is mixed into its first bytes. -/
private def mixed (pad : UInt8) (normalized : Bytes) (rounds : Nat) : Bytes :=
  (normalized.take rounds).map (pad ^^^ ·) ++ List.replicate (normalized.length - rounds) pad

private theorem mixed_succ {pad key : UInt8} {normalized : Bytes} {rounds : Nat}
    (found : normalized[rounds]? = some key) :
    readIndex (mixed pad normalized rounds) rounds = .ok pad ∧
      writeIndex (mixed pad normalized rounds) rounds (pad ^^^ key) =
        .ok (mixed pad normalized (rounds + 1)) := by
  obtain ⟨inside, same⟩ := List.getElem?_eq_some_iff.mp found
  have left : normalized.length - rounds = normalized.length - (rounds + 1) + 1 := by omega
  have size : ((normalized.take rounds).map (pad ^^^ ·)).length = rounds := by
    rw [List.length_map, List.length_take_of_le (Nat.le_of_lt inside)]
  have split : mixed pad normalized rounds = (normalized.take rounds).map (pad ^^^ ·) ++
      pad :: List.replicate (normalized.length - (rounds + 1)) pad := by
    rw [mixed, left, List.replicate_succ]
  have next : mixed pad normalized (rounds + 1) = (normalized.take rounds).map (pad ^^^ ·) ++
      (pad ^^^ key) :: List.replicate (normalized.length - (rounds + 1)) pad := by
    rw [mixed, List.take_add_one, found]
    simp
  have reads := readIndex_append ((normalized.take rounds).map (pad ^^^ ·))
    (List.replicate (normalized.length - (rounds + 1)) pad) pad
  have writes := writeIndex_append ((normalized.take rounds).map (pad ^^^ ·))
    (List.replicate (normalized.length - (rounds + 1)) pad) pad (pad ^^^ key)
  rw [size, ← split] at reads writes
  exact ⟨reads, next ▸ writes⟩

theorem mixPads_loop {normalized : Bytes} (rounds : Nat) (within : rounds ≤ normalized.length) :
    (List.range rounds).foldlM (mixPads normalized)
        (List.replicate normalized.length 0x36, List.replicate normalized.length 0x5c) =
      .ok (mixed 0x36 normalized rounds, mixed 0x5c normalized rounds) := by
  induction rounds with
  | zero => rfl
  | succ rounds ih =>
    have found : normalized[rounds]? = some normalized[rounds] := List.getElem?_eq_getElem within
    obtain ⟨innerRead, innerWrite⟩ := @mixed_succ 0x36 _ _ _ found
    obtain ⟨outerRead, outerWrite⟩ := @mixed_succ 0x5c _ _ _ found
    have reads : readIndex normalized rounds = .ok normalized[rounds] := by
      rw [readIndex, found]
    rw [List.range_succ, List.foldlM_append, ih (Nat.le_of_succ_le within)]
    change (mixPads normalized (mixed 0x36 normalized rounds, mixed 0x5c normalized rounds) rounds).bind pure = _
    simp only [mixPads, reads, innerRead, innerWrite, outerRead, outerWrite, bind, Except.bind]
    rfl

private theorem normalizeKey_length (sha256 : Bytes → Digest) (key : Bytes) :
    (normalizeKey sha256 key).length = BLOCK_SIZE := by
  unfold normalizeKey
  dsimp only
  split
  · simp [BLOCK_SIZE]
  · rename_i short
    simp only [List.length_append, List.length_replicate]
    omega

private theorem mixed_full (pad : UInt8) (normalized : Bytes) :
    mixed pad normalized normalized.length = normalized.map (pad ^^^ ·) := by
  simp [mixed]

private theorem normalizeKeyChecked_eq (sha256 : Bytes → Digest) (key : Bytes) :
    normalizeKeyChecked sha256 key = .ok (normalizeKey sha256 key) := by
  unfold normalizeKeyChecked normalizeKey
  dsimp only
  split
  · rw [copyFromSlice_ok (by decide) (by simp)]
    simp
  · rename_i short
    rw [copyFromSlice_ok (by simpa using short) rfl]
    simp

theorem hmacSha256Checked_eq (sha256 : Bytes → Digest) (key body : Bytes) :
    hmacSha256Checked sha256 key body = .ok (hmacSha256 sha256 key body) := by
  have loop := mixPads_loop (normalizeKey sha256 key).length (Nat.le_refl _)
  rw [mixed_full, mixed_full, normalizeKey_length] at loop
  simp only [hmacSha256Checked, normalizeKeyChecked_eq, bind, Except.bind, loop]
  simp [Sha256.new, Sha256.update, Sha256.finalize, hmacSha256, pure, Except.pure]

private theorem chunksOfTwo_length (hex : Bytes) : (chunksOfTwo hex).length = hex.length / 2 := by
  induction hex using chunksOfTwo.induct with
  | case1 high low later ih =>
    rw [chunksOfTwo, List.length_cons, ih, List.length_cons, List.length_cons]
    omega
  | case2 hex short =>
    rw [chunksOfTwo.eq_2 hex short]
    rcases hex with _ | ⟨first, _ | ⟨second, rest⟩⟩
    · rfl
    · simp
    · exact (short first second rest rfl).elim

/-- The code never stops on an index, a slice or a subtraction, and answers what the plain
definition answers. -/
theorem verifyGithubSignatureChecked_eq (sha256 : Bytes → Digest) (secret : String) (body : Bytes)
    (signature : String) :
    verifyGithubSignatureChecked sha256 secret body signature =
      .ok (verifyGithubSignature sha256 secret body signature) := by
  unfold verifyGithubSignatureChecked verifyGithubSignature
  cases stripPrefix (asBytes "sha256=") (asBytes signature) with
  | none => rfl
  | some hex =>
    dsimp only
    by_cases size : hex.length ≠ 64
    · rw [if_pos size, if_pos size]
      rfl
    · have filled := fillSupplied_eq hex [] (List.replicate 32 0) (by
        rw [chunksOfTwo_length, not_ne_iff.mp size, List.length_replicate])
      rw [if_neg size, if_neg size]
      change (fillSupplied 0 _ _).bind _ = _
      rw [show fillSupplied 0 (chunksOfTwo hex) (List.replicate 32 0) = _ from filled]
      cases suppliedBytes hex with
      | none => rfl
      | some supplied =>
        change (hmacSha256Checked sha256 (asBytes secret) body).bind _ = _
        rw [hmacSha256Checked_eq]
        rfl

end Unchecked

section Scheme

open Hmac

theorem stripPrefix_eq_some {expected text rest : Bytes} :
    stripPrefix expected text = some rest ↔ text = expected ++ rest := by
  induction expected generalizing text with
  | nil => simp [stripPrefix]
  | cons head expected ih =>
    cases text with
    | nil => simp [stripPrefix]
    | cons byte text =>
      rw [stripPrefix, List.cons_append, List.cons.injEq]
      by_cases same : head = byte
      · rw [if_pos same, ih]
        exact ⟨fun later => ⟨same.symm, later⟩, And.right⟩
      · rw [if_neg same]
        exact ⟨nofun, fun both => absurd both.1.symm same⟩

private theorem fromHex_ascii {value digit : UInt8} (read : fromHex value = some digit) : value.toNat < 128 := by
  unfold fromHex at read
  split_ifs at read with decimal lower upper
  · exact Nat.lt_of_le_of_lt (UInt8.le_iff_toNat_le.mp decimal.2) (by decide)
  · exact Nat.lt_of_le_of_lt (UInt8.le_iff_toNat_le.mp lower.2) (by decide)
  · exact Nat.lt_of_le_of_lt (UInt8.le_iff_toNat_le.mp upper.2) (by decide)

/-- On ASCII the digits of bytes are those of characters. -/
private theorem fromHex_byte {c : Char} (ascii : c.toNat < 128) : fromHex (byte c) = digit c := by
  have every : ∀ value : Fin 128, fromHex (byte (Char.ofNat value)) = digit (Char.ofNat value) := by
    decide +kernel
  have here := every ⟨c.toNat, ascii⟩
  rwa [Char.ofNat_toNat] at here

private theorem nibbles {high low : UInt8} (small : high.toNat < 16) (small' : low.toNat < 16) :
    high <<< 4 ||| low = 16 * high + low := by
  have every : ∀ high low : Fin 16, (UInt8.ofNat high <<< 4 ||| UInt8.ofNat low) =
      16 * UInt8.ofNat high + UInt8.ofNat low := by
    decide +kernel
  have here := every ⟨high.toNat, small⟩ ⟨low.toNat, small'⟩
  simpa using here

private theorem suppliedBytes_ascii {hex supplied : Bytes} (even : hex.length % 2 = 0)
    (read : suppliedBytes hex = some supplied) : ∀ value ∈ hex, value.toNat < 128 := by
  induction hex using suppliedBytes.induct generalizing supplied with
  | case1 high low rest ih =>
    simp only [suppliedBytes, Option.bind_eq_bind, Option.bind_eq_some_iff] at read
    obtain ⟨_, first, _, second, _, later, _⟩ := read
    simp only [List.forall_mem_cons]
    refine ⟨fromHex_ascii first, fromHex_ascii second, ih ?_ later⟩
    simp only [List.length_cons] at even
    omega
  | case2 hex short =>
    rcases hex with _ | ⟨first, _ | ⟨second, rest⟩⟩
    · exact List.forall_mem_nil _
    · cases even
    · exact (short first second rest rfl).elim

private theorem suppliedBytes_decode {digits : List Char} (even : digits.length % 2 = 0)
    (ascii : ∀ c ∈ digits, c.toNat < 128) : suppliedBytes (digits.map byte) = decode digits := by
  induction digits using decode.induct with
  | case1 => rfl
  | case2 => cases even
  | case3 high low rest ih =>
    simp only [List.forall_mem_cons] at ascii
    have later : suppliedBytes (rest.map byte) = decode rest := by
      refine ih ?_ ascii.2.2
      simp only [List.length_cons] at even
      omega
    rw [List.map_cons, List.map_cons, suppliedBytes, decode, fromHex_byte ascii.1, fromHex_byte ascii.2.1, later]
    cases first : digit high with
    | none => rfl
    | some upper =>
      cases second : digit low with
      | none => rfl
      | some lower =>
        simp only [Option.bind_eq_bind, Option.bind_some, nibbles (digit_small first) (digit_small second)]

theorem hmacSha256_tag (sha256 : Bytes → Digest) (key body : Bytes) :
    (hmacSha256 sha256 key body).toList = tag (fun text => (sha256 text).toList) BLOCK_SIZE key body := rfl

theorem asBytes_ascii {text : String} (ascii : ∀ c ∈ text.toList, c.toNat < 128) :
    asBytes text = text.toList.map byte := bytes_of_ascii ascii

/-- The plain definition against the scheme. -/
theorem verifyGithubSignature_iff (sha256 : Bytes → Digest) (secret : String) (body : Bytes)
    (signature : String) :
    verifyGithubSignature sha256 secret body signature = true ↔
      ∃ digits, signature.toList = "sha256=".toList ++ digits ∧ digits.length = 64 ∧
        decode digits = some (hmacSha256 sha256 (asBytes secret) body).toList := by
  have opening : asBytes "sha256=" = "sha256=".toList.map byte := by decide
  have small_opening : ∀ value ∈ "sha256=".toList.map byte, value.toNat < 128 :=
    List.all_iff_forall_prop.mp (by decide)
  have ascii_opening : ∀ c ∈ "sha256=".toList, c.toNat < 128 := List.all_iff_forall_prop.mp (by decide)
  constructor
  · intro verified
    unfold verifyGithubSignature at verified
    split at verified
    · cases verified
    · rename_i hex stripped
      rw [stripPrefix_eq_some, opening] at stripped
      split at verified
      · cases verified
      · rename_i size
        rw [not_ne_iff] at size
        split at verified
        · cases verified
        · rename_i supplied read
          have even : hex.length % 2 = 0 := by rw [size]
          have small := suppliedBytes_ascii even read
          have ascii : ∀ c ∈ signature.toList, c.toNat < 128 := by
            apply ascii_of_bytes
            intro value member
            have among : value ∈ asBytes signature := member
            rw [stripped] at among
            rcases List.mem_append.mp among with front | behind
            · exact small_opening value front
            · exact small value behind
          rw [asBytes_ascii ascii] at stripped
          obtain ⟨front, digits, split, same, rfl⟩ := List.map_eq_append_iff.mp stripped
          rw [split, List.forall_mem_append] at ascii
          obtain rfl := map_byte_injective ascii.1 ascii_opening same
          rw [List.length_map] at size even
          rw [suppliedBytes_decode even ascii.2] at read
          have shape := (decode_shape read).2
          have same : (hmacSha256 sha256 (asBytes secret) body).toList = supplied := by
            refine (difference_eq_zero_iff ?_).mp (beq_iff_eq.mp verified)
            rw [Vector.length_toList]
            omega
          exact ⟨digits, split, size, same ▸ read⟩
  · rintro ⟨digits, split, size, decoded⟩
    obtain ⟨ascii, _⟩ := decode_shape decoded
    have bytes : asBytes signature = asBytes "sha256=" ++ digits.map byte := by
      rw [asBytes_ascii, split, List.map_append, opening]
      rw [split, List.forall_mem_append]
      exact ⟨ascii_opening, ascii⟩
    have long : ¬ (digits.map byte).length ≠ 64 := by
      rw [List.length_map, size]
      exact fun differs => differs rfl
    have even : digits.length % 2 = 0 := by rw [size]
    rw [verifyGithubSignature, stripPrefix_eq_some.mpr bytes]
    dsimp only
    rw [if_neg long, suppliedBytes_decode even ascii, decoded]
    exact beq_iff_eq.mpr ((difference_eq_zero_iff rfl).mpr rfl)

/-- The signature check on any header: it does not stop, and it answers `true` for `sha256=` and
the 64 digits of the tag alone. -/
theorem signature_accepted_iff (sha256 : Bytes → Digest) (secret : String) (body : Bytes) (signature : String) :
    ∃ verdict, verifyGithubSignatureChecked sha256 secret body signature = .ok verdict ∧
      (verdict = true ↔ ∃ digits, signature.toList = "sha256=".toList ++ digits ∧ digits.length = 64 ∧
        decode digits = some (tag (fun text => (sha256 text).toList) 64 (asBytes secret) body)) :=
  ⟨_, verifyGithubSignatureChecked_eq sha256 secret body signature,
    verifyGithubSignature_iff sha256 secret body signature⟩

end Scheme

end BuildLens.Gateway
