import Mathlib.Algebra.BigOperators.Group.List.Basic
import Mathlib.Algebra.GroupWithZero.Nat
import Mathlib.Data.List.Basic

/-! Texts measured in the bytes of their UTF-8 form, and cut at a byte offset. -/

namespace BuildLens.Utf8

/-- `str::len`. -/
def size (text : List Char) : Nat := (text.map Char.utf8Size).sum

/-- `str::is_char_boundary`: no character of the text has bytes on both sides of the offset. -/
def IsBoundary (text : List Char) (offset : Nat) : Prop :=
  ∃ front back, text = front ++ back ∧ size front = offset

/-- `String::truncate`: a limit beyond the end changes nothing, and one within a character panics. -/
def truncate : List Char → Nat → Option (List Char)
  | [], _ => some []
  | c :: rest, limit =>
    if limit = 0 then some []
    else if c.utf8Size ≤ limit then (truncate rest (limit - c.utf8Size)).map (c :: ·)
    else none

@[simp] theorem size_nil : size [] = 0 := rfl

@[simp] theorem size_cons (c : Char) (rest : List Char) : size (c :: rest) = c.utf8Size + size rest := rfl

theorem isBoundary_zero (text : List Char) : IsBoundary text 0 := ⟨[], text, rfl, rfl⟩

theorem isBoundary_cons {c : Char} {rest : List Char} {offset : Nat} (positive : 0 < offset) :
    IsBoundary (c :: rest) offset ↔ c.utf8Size ≤ offset ∧ IsBoundary rest (offset - c.utf8Size) := by
  constructor
  · rintro ⟨front, back, split, length⟩
    cases front with
    | nil =>
      rw [size_nil] at length
      omega
    | cons head front =>
      obtain ⟨rfl, rfl⟩ := List.cons.inj split
      rw [size_cons] at length
      exact ⟨by omega, front, back, rfl, by omega⟩
  · rintro ⟨fits, front, back, rfl, length⟩
    refine ⟨c :: front, back, rfl, ?_⟩
    rw [size_cons]
    omega

/-- What a cut keeps is a prefix. -/
theorem truncate_prefix {text cut : List Char} {limit : Nat} (kept : truncate text limit = some cut) :
    cut <+: text := by
  induction text generalizing limit cut with
  | nil =>
    obtain rfl := Option.some.inj kept
    exact List.prefix_rfl
  | cons c rest ih =>
    unfold truncate at kept
    split at kept
    · obtain rfl := Option.some.inj kept
      exact List.nil_prefix
    · split at kept
      · obtain ⟨tail, inner, rfl⟩ := Option.map_eq_some_iff.mp kept
        exact (List.prefix_cons_inj c).mpr (ih inner)
      · cases kept

/-- A cut succeeds when the text is shorter than the limit or has a boundary there. -/
theorem truncate_isSome_iff {text : List Char} {limit : Nat} :
    (truncate text limit).isSome = true ↔ size text < limit ∨ IsBoundary text limit := by
  induction text generalizing limit with
  | nil =>
    rcases Nat.eq_zero_or_pos limit with rfl | positive
    · simp [truncate, isBoundary_zero]
    · simp [truncate, positive]
  | cons c rest ih =>
    rcases Nat.eq_zero_or_pos limit with rfl | positive
    · simp [truncate, isBoundary_zero]
    · have bytes : 0 < c.utf8Size := c.utf8Size_pos
      rw [truncate, if_neg (Nat.pos_iff_ne_zero.mp positive), isBoundary_cons positive, size_cons]
      by_cases fits : c.utf8Size ≤ limit
      · rw [if_pos fits, Option.isSome_map, ih]
        have shorter : size rest < limit - c.utf8Size ↔ c.utf8Size + size rest < limit := by omega
        rw [shorter]
        simp [fits]
      · rw [if_neg fits]
        simp only [Option.isSome_none, Bool.false_eq_true, false_iff, not_or, not_and]
        constructor
        · omega
        · intro other
          exact absurd other fits

/-- A cut leaves what ends before it. -/
theorem truncate_append {front back : List Char} {limit : Nat} (ends : size front ≤ limit) :
    truncate (front ++ back) limit = (truncate back (limit - size front)).map (front ++ ·) := by
  induction front generalizing limit with
  | nil => simp
  | cons c rest ih =>
    have bytes : 0 < c.utf8Size := c.utf8Size_pos
    rw [size_cons] at ends
    have tail : size rest ≤ limit - c.utf8Size := by omega
    rw [List.cons_append, truncate, if_neg (by omega), if_pos (by omega), ih tail, size_cons,
      Nat.sub_sub, Option.map_map]
    rfl

/-- Among equal characters only the multiples of their width are boundaries. -/
theorem truncate_replicate {c : Char} {count limit : Nat} (rest : List Char)
    (straddles : ¬ c.utf8Size ∣ limit) (within : limit < count * c.utf8Size) :
    truncate (List.replicate count c ++ rest) limit = none := by
  induction count generalizing limit with
  | zero => omega
  | succ count ih =>
    have nonzero : limit ≠ 0 := by
      rintro rfl
      exact straddles (Nat.dvd_zero _)
    rw [List.replicate_succ, List.cons_append, truncate, if_neg nonzero]
    split
    · rename_i fits
      have later : ¬ c.utf8Size ∣ limit - c.utf8Size := by
        intro divides
        have whole := Nat.dvd_add divides (Nat.dvd_refl c.utf8Size)
        rw [Nat.sub_add_cancel fits] at whole
        exact straddles whole
      rw [ih later (by rw [Nat.succ_mul] at within; omega)]
      rfl
    · rfl

end BuildLens.Utf8
