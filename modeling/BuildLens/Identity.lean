import Mathlib.Data.BitVec

/-! Identifiers and instants shared by the three services. -/

namespace BuildLens

/-- A 128-bit identifier. Stored rows and events are keyed by these. -/
structure Uuid where
  bits : BitVec 128
  deriving DecidableEq, Repr, Inhabited

def hexDigit (value : Nat) : Char :=
  if value < 10 then Char.ofNat (48 + value) else Char.ofNat (87 + value)

/-- The digit at a position of the 32-digit hexadecimal form. -/
def Uuid.digit (id : Uuid) (position : Nat) : Char :=
  hexDigit (id.bits.toNat / 16 ^ (31 - position) % 16)

/-- The canonical text: lower-case digits in groups of 8, 4, 4, 4 and 12. -/
def Uuid.chars (id : Uuid) : List Char :=
  (List.range' 0 8).map id.digit ++ '-' :: (List.range' 8 4).map id.digit ++
    '-' :: (List.range' 12 4).map id.digit ++ '-' :: (List.range' 16 4).map id.digit ++
    '-' :: (List.range' 20 12).map id.digit

def Uuid.text (id : Uuid) : String := String.ofList id.chars

theorem hexDigit_injective {left right : Nat} (leftDigit : left < 16) (rightDigit : right < 16)
    (same : hexDigit left = hexDigit right) : left = right := by
  have table : ∀ left right : Fin 16, hexDigit left = hexDigit right → left = right := by decide
  exact congrArg Fin.val (table ⟨left, leftDigit⟩ ⟨right, rightDigit⟩ same)

theorem hexDigit_ne_hyphen {value : Nat} (digit : value < 16) : hexDigit value ≠ '-' := by
  have table : ∀ value : Fin 16, hexDigit value ≠ '-' := by decide
  exact table ⟨value, digit⟩

/-- A number is determined by its hexadecimal digits. -/
theorem eq_of_hexadecimal {count left right : Nat} (leftBound : left < 16 ^ count)
    (rightBound : right < 16 ^ count)
    (digits : ∀ place < count, left / 16 ^ place % 16 = right / 16 ^ place % 16) : left = right := by
  induction count generalizing left right with
  | zero => omega
  | succ count ih =>
    have higher : left / 16 = right / 16 := by
      refine ih (by omega) (by omega) fun place bound => ?_
      rw [Nat.div_div_eq_div_mul, Nat.div_div_eq_div_mul, ← pow_succ']
      exact digits (place + 1) (by omega)
    have lowest := digits 0 (by omega)
    simp only [pow_zero, Nat.div_one] at lowest
    omega

theorem Uuid.digits_chars (id : Uuid) :
    id.chars.filter (· != '-') = (List.range' 0 32).map id.digit := by
  have digits (start count : Nat) :
      ((List.range' start count).map id.digit).filter (· != '-') =
        (List.range' start count).map id.digit := by
    refine List.filter_eq_self.mpr fun c member => ?_
    obtain ⟨position, _, rfl⟩ := List.mem_map.mp member
    exact bne_iff_ne.mpr (hexDigit_ne_hyphen (Nat.mod_lt _ (by omega)))
  simp only [Uuid.chars, List.filter_append, digits, List.filter_cons, bne_self_eq_false,
    Bool.false_eq_true, if_false]
  simp only [← List.map_append]
  rfl

theorem Uuid.text_injective {left right : Uuid} (same : left.text = right.text) : left = right := by
  have chars : left.chars = right.chars := String.ofList_injective same
  have digits := left.digits_chars.symm.trans ((congrArg _ chars).trans right.digits_chars)
  have bits : left.bits.toNat = right.bits.toNat := by
    have bound : left.bits.toNat < 16 ^ 32 := left.bits.isLt
    refine eq_of_hexadecimal bound right.bits.isLt fun place bound => ?_
    have digit := List.map_inj_left.mp digits (31 - place) (by simp; omega)
    have back : 31 - (31 - place) = place := by omega
    rw [Uuid.digit, Uuid.digit, back] at digit
    exact hexDigit_injective (Nat.mod_lt _ (by omega)) (Nat.mod_lt _ (by omega)) digit
  cases left
  cases right
  exact congrArg Uuid.mk (BitVec.eq_of_toNat_eq bits)

def uuid (number : Nat) : Uuid := ⟨BitVec.ofNat 128 number⟩

/-- Microseconds since the epoch, the resolution of a stored timestamp. -/
abbrev Timestamp := Int

end BuildLens
