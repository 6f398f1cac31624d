import BuildLens.Gateway.Organizations
import BuildLens.Joined
import Mathlib.Data.List.DropRight

/-! Slugs derived from organization names: the words of a name, joined by single hyphens and cut at
sixty-three characters. -/

namespace BuildLens.Gateway

open BuildLens.Store

section Characters

/-- The characters of a slug. -/
def slugCharacter (c : Char) : Bool := c.isLower || c.isDigit || c == '-'

private theorem ofNat_toNat_of_alphanum {c : Char} (alphanumeric : c.isAlphanum = true) :
    c.toNat < 128 ∧ Char.ofNat c.toNat = c := by
  refine ⟨?_, Char.ofNat_toNat c⟩
  delta Char.isAlphanum Char.isAlpha Char.isUpper Char.isLower Char.isDigit at alphanumeric
  simp only [Bool.or_eq_true, Bool.and_eq_true, decide_eq_true_eq, UInt32.le_iff_toNat_le,
    ge_iff_le] at alphanumeric
  change c.val.toNat < 128
  have last : 'Z'.val.toNat = 90 ∧ 'z'.val.toNat = 122 ∧ '9'.val.toNat = 57 := by decide
  omega

/-- An ASCII letter or digit is lowered to a character of a slug that stays as it is. -/
theorem toLower_alphanum {c : Char} (alphanumeric : c.isAlphanum = true) :
    slugCharacter c.toLower = true ∧ c.toLower ≠ '-' := by
  obtain ⟨ascii, same⟩ := ofNat_toNat_of_alphanum alphanumeric
  have each : ∀ code < 128, (Char.ofNat code).isAlphanum = true →
      slugCharacter (Char.ofNat code).toLower = true ∧ (Char.ofNat code).toLower ≠ '-' := by
    decide +kernel
  have lowered := each c.toNat ascii
  rw [same] at lowered
  exact lowered alphanumeric

theorem alphanum_of_slugCharacter {c : Char} (kept : slugCharacter c = true) (letter : c ≠ '-') :
    c.isAlphanum = true ∧ c.toLower = c := by
  have part : c.isAlphanum = true := by
    simp only [slugCharacter, Bool.or_eq_true, beq_iff_eq, letter, or_false] at kept
    rw [Char.isAlphanum, Bool.or_eq_true]
    exact kept.imp (fun lower => (Bool.or_eq_true _ _).mpr (.inr lower)) id
  obtain ⟨ascii, same⟩ := ofNat_toNat_of_alphanum part
  have each : ∀ code < 128, slugCharacter (Char.ofNat code) = true →
      (Char.ofNat code).toLower = Char.ofNat code := by
    decide +kernel
  have unchanged := each c.toNat ascii
  rw [same] at unchanged
  exact ⟨part, unchanged kept⟩

end Characters

section Loop

/-- The maximal runs of ASCII letters and digits of a name, between its other characters. -/
def runsOf (name : List Char) : List (List Char) :=
  (name.splitOnP fun c => !c.isAlphanum).filter (· ≠ [])

/-- The runs in lower case. -/
def wordsOf (name : List Char) : List (List Char) := (runsOf name).map (·.map Char.toLower)

/-- A word that has begun, and the later words of the name, each behind a hyphen. -/
def afterWord : List (List Char) → List Char
  | [] => []
  | piece :: rest =>
    piece.map Char.toLower ++ ((rest.filter (· ≠ [])).map (·.map Char.toLower)).flatMap ('-' :: ·)

variable {c : Char} {name output : List Char}

theorem splitOnP_cons_alphanum (alphanumeric : c.isAlphanum = true) :
    ∃ piece rest, name.splitOnP (fun c => !c.isAlphanum) = piece :: rest ∧
      (c :: name).splitOnP (fun c => !c.isAlphanum) = (c :: piece) :: rest := by
  obtain ⟨piece, rest, split⟩ := List.exists_cons_of_ne_nil (List.splitOnP_ne_nil (fun c => !c.isAlphanum) name)
  refine ⟨piece, rest, split, ?_⟩
  rw [List.splitOnP_cons_eq_if_modifyHead, alphanumeric, split]
  rfl

theorem splitOnP_cons_other (other : c.isAlphanum = false) :
    (c :: name).splitOnP (fun c => !c.isAlphanum) = [] :: name.splitOnP (fun c => !c.isAlphanum) := by
  rw [List.splitOnP_cons_eq_if_modifyHead, other]
  rfl

theorem wordsOf_cons_other (other : c.isAlphanum = false) : wordsOf (c :: name) = wordsOf name := by
  rw [wordsOf, wordsOf, runsOf, runsOf, splitOnP_cons_other other]
  rfl

private theorem rdropWhile_concat_kept (kept : c ≠ '-') :
    (output ++ [c]).rdropWhile (· == '-') = output ++ [c] := by
  rw [List.rdropWhile_concat_neg]
  simpa using kept

/-- Inside a word the loop goes on with it, and behind a hyphen it goes on with the next word; the hyphen
that no word follows is trimmed. -/
theorem rdropWhile_slugifyFrom (name : List Char) :
    ∀ (output : List Char) (last : Char), last ≠ '-' →
      ((slugifyFrom (output ++ [last]) false name).rdropWhile (· == '-') =
          output ++ [last] ++ afterWord (name.splitOnP fun c => !c.isAlphanum)) ∧
        (slugifyFrom (output ++ [last] ++ ['-']) true name).rdropWhile (· == '-') =
          output ++ [last] ++ (wordsOf name).flatMap ('-' :: ·) := by
  induction name with
  | nil =>
    intro output last kept
    refine ⟨?_, ?_⟩
    · rw [slugifyFrom, rdropWhile_concat_kept kept]
      simp [afterWord]
    · rw [slugifyFrom, List.rdropWhile_concat_pos _ _ _ (by rfl), rdropWhile_concat_kept kept]
      simp [wordsOf, runsOf]
  | cons c name ih =>
    intro output last kept
    have started : (output ++ [last]).isEmpty = false := by simp
    cases alphanumeric : c.isAlphanum with
    | true =>
      obtain ⟨-, letter⟩ := toLower_alphanum alphanumeric
      obtain ⟨piece, rest, split, split'⟩ := splitOnP_cons_alphanum alphanumeric
      refine ⟨?_, ?_⟩
      · rw [slugifyFrom, if_pos alphanumeric, (ih _ _ letter).1, split, split']
        simp [afterWord]
      · rw [slugifyFrom, if_pos alphanumeric, (ih _ _ letter).1, wordsOf, runsOf, split, split']
        simp [afterWord]
    | false =>
      refine ⟨?_, ?_⟩
      · rw [slugifyFrom, if_neg (by simp [alphanumeric]), if_pos (by simp), (ih _ _ kept).2,
          splitOnP_cons_other alphanumeric]
        simp [afterWord, wordsOf, runsOf]
      · rw [slugifyFrom, if_neg (by simp [alphanumeric]), if_neg (by simp), (ih _ _ kept).2,
          wordsOf_cons_other alphanumeric]

theorem prefix_slugifyFrom (name output : List Char) (dash : Bool) : output <+: slugifyFrom output dash name := by
  induction name generalizing output dash with
  | nil => exact List.prefix_rfl
  | cons c name ih =>
    unfold slugifyFrom
    split_ifs
    · exact (List.prefix_append _ _).trans (ih _ _)
    · exact (List.prefix_append _ _).trans (ih _ _)
    · exact ih _ _

/-- What is left of the loop's output between the trimmed ends: the words of the name. -/
theorem trimMatches_slugifyFrom (name : List Char) :
    Text.trimMatches (· == '-') (slugifyFrom [] false name) = ['-'].intercalate (wordsOf name) := by
  induction name with
  | nil => rfl
  | cons c name ih =>
    cases alphanumeric : c.isAlphanum with
    | true =>
      obtain ⟨-, letter⟩ := toLower_alphanum alphanumeric
      obtain ⟨piece, rest, split, split'⟩ := splitOnP_cons_alphanum alphanumeric
      obtain ⟨more, output⟩ := prefix_slugifyFrom name [c.toLower] false
      have first : (slugifyFrom [c.toLower] false name).dropWhile (· == '-') =
          slugifyFrom [c.toLower] false name := by
        rw [← output, List.singleton_append, List.dropWhile_cons_of_neg (by simpa using letter)]
      have loop := (rdropWhile_slugifyFrom name [] c.toLower letter).1
      rw [slugifyFrom, if_pos alphanumeric, List.nil_append, Text.trimMatches, first, ← List.rdropWhile]
      rw [List.nil_append] at loop
      rw [loop, wordsOf, runsOf, split, split']
      simp [afterWord, Joined.intercalate_cons]
    | false =>
      rw [slugifyFrom, if_neg (by simp [alphanumeric]), if_neg (by simp), ih, wordsOf_cons_other alphanumeric]

theorem slugify_eq (name : String) :
    slugify name = String.ofList ((['-'].intercalate (wordsOf name.toList)).take 63) := by
  rw [slugify, trimMatches_slugifyFrom]

end Loop

section Texts

/-- A text as the loop leaves it: the characters of a slug, no two hyphens side by side and none in front. -/
structure SlugText (text : List Char) : Prop where
  kept : ∀ c ∈ text, slugCharacter c = true
  single : text.IsChain fun first second => ¬ (first = '-' ∧ second = '-')
  starts : text.head? ≠ some '-'

variable {text : List Char}

theorem SlugText.take (slug : SlugText text) (count : Nat) : SlugText (text.take count) where
  kept c member := slug.kept c (List.mem_of_mem_take member)
  single := slug.single.take count
  starts := by
    cases count with
    | zero => simp
    | succ count =>
      rw [List.head?_take, if_neg (Nat.succ_ne_zero _)]
      exact slug.starts

theorem slugifyFrom_of_slugText (kept : ∀ c ∈ text, slugCharacter c = true)
    (single : text.IsChain fun first second => ¬ (first = '-' ∧ second = '-')) (output : List Char) (dash : Bool)
    (starts : dash = true ∨ output = [] → text.head? ≠ some '-') :
    slugifyFrom output dash text = output ++ text := by
  induction text generalizing output dash with
  | nil => exact (List.append_nil _).symm
  | cons c rest ih =>
    obtain ⟨keptHead, keptRest⟩ := List.forall_mem_cons.mp kept
    obtain ⟨next, singleRest⟩ := List.isChain_cons.mp single
    have again := ih keptRest singleRest
    by_cases hyphen : c = '-'
    · subst hyphen
      have begun : ¬ (dash = true ∨ output = []) := fun refused => starts refused rfl
      have pushed : (!dash && !output.isEmpty) = true := by simpa [not_or] using begun
      rw [slugifyFrom, if_neg (by decide), if_pos pushed, again, List.append_assoc]
      · rfl
      · rintro - same
        exact next '-' same ⟨rfl, rfl⟩
    · obtain ⟨alphanumeric, same⟩ := alphanum_of_slugCharacter keptHead hyphen
      rw [slugifyFrom, if_pos alphanumeric, same, again, List.append_assoc]
      · rfl
      · rintro (never | never)
        · cases never
        · simp at never

/-- A slug is derived from itself when it does not end in a hyphen. -/
theorem SlugText.slugify_self_iff (slug : SlugText text) (short : text.length ≤ 63) :
    slugify (String.ofList text) = String.ofList text ↔ text.getLast? ≠ some '-' := by
  have loop := slugifyFrom_of_slugText slug.kept slug.single [] false fun _ => slug.starts
  have front : text.dropWhile (· == '-') = text := by
    cases text with
    | nil => rfl
    | cons c rest =>
      refine List.dropWhile_cons_of_neg ?_
      simpa using slug.starts
  rw [slugify, String.toList_ofList, loop, List.nil_append, Text.trimMatches, front, ← List.rdropWhile,
    String.ofList_inj]
  rcases List.eq_nil_or_concat text with rfl | ⟨rest, last, rfl⟩
  · simp
  · rw [List.concat_eq_append] at short ⊢
    rw [List.getLast?_concat, Ne, Option.some.injEq]
    by_cases hyphen : last = '-'
    · refine iff_of_false ?_ (not_not_intro hyphen)
      intro same
      rw [List.rdropWhile_concat_pos _ _ _ (by simpa using hyphen)] at same
      have length := congrArg List.length same
      have trimmed := (List.rdropWhile_prefix (· == '-') rest).length_le
      rw [List.length_take, List.length_append, List.length_singleton] at length
      omega
    · rw [List.rdropWhile_concat_neg _ _ _ (by simpa using hyphen), List.take_of_length_le short]
      exact iff_of_true rfl hyphen

theorem utf8ByteSize_of_slugText (kept : ∀ c ∈ text, slugCharacter c = true) :
    (String.ofList text).utf8ByteSize = text.length := by
  induction text with
  | nil => rfl
  | cons c rest ih =>
    obtain ⟨keptHead, keptRest⟩ := List.forall_mem_cons.mp kept
    have byte : c.utf8Size = 1 := by
      by_cases hyphen : c = '-'
      · subst hyphen
        decide
      · obtain ⟨ascii, -⟩ := ofNat_toNat_of_alphanum (alphanum_of_slugCharacter keptHead hyphen).1
        exact Char.utf8Size_eq_one_iff.mpr (UInt32.le_iff_toNat_le.mpr (Nat.le_of_lt_succ ascii))
    rw [String.ofList_cons, String.utf8ByteSize_append, String.utf8ByteSize_singleton, ih keptRest, byte,
      List.length_cons, Nat.add_comm]

/-- Of the validator's checks only the last character can fail. -/
theorem SlugText.valid_iff (slug : SlugText text) (short : text.length ≤ 63) (long : 3 ≤ text.length) :
    slugValid (String.ofList text) = true ↔ text.getLast? ≠ some '-' := by
  have kept : (text.all fun c => c.isLower || c.isDigit || c == '-') = true :=
    List.all_eq_true.mpr slug.kept
  have starts := slug.starts
  rw [slugValid, utf8ByteSize_of_slugText slug.kept, String.toList_ofList, kept]
  simp [short, long, starts]

end Texts

section Names

theorem runsOf_ne_nil {name : List Char} : ∀ word ∈ runsOf name, word ≠ [] := by
  intro word member
  simpa using List.of_mem_filter member

private theorem mem_splitOnP {α : Type} (separates : α → Bool) (text : List α) :
    ∀ piece ∈ text.splitOnP separates, ∀ c ∈ piece, separates c = false := by
  induction text with
  | nil => simp
  | cons c rest ih =>
    obtain ⟨piece, pieces, split⟩ := List.exists_cons_of_ne_nil (List.splitOnP_ne_nil separates rest)
    rw [split, List.forall_mem_cons] at ih
    rw [List.splitOnP_cons_eq_if_modifyHead, split]
    cases parts : separates c with
    | true => simpa using ih
    | false => simpa [parts] using ih

theorem runsOf_alphanum {name : List Char} : ∀ word ∈ runsOf name, ∀ c ∈ word, c.isAlphanum = true := by
  intro word member c inside
  simpa using mem_splitOnP _ _ _ (List.mem_of_mem_filter member) c inside

theorem wordsOf_ne_nil {name : List Char} : ∀ word ∈ wordsOf name, word ≠ [] := by
  simp only [wordsOf, List.forall_mem_map]
  intro run member
  simpa using runsOf_ne_nil run member

theorem wordsOf_kept {name : List Char} :
    ∀ word ∈ wordsOf name, ∀ c ∈ word, slugCharacter c = true ∧ c ≠ '-' := by
  simp only [wordsOf, List.forall_mem_map]
  intro run member c inside
  exact toLower_alphanum (runsOf_alphanum run member c inside)

theorem hyphen_notMem_wordsOf {name : List Char} : ∀ word ∈ wordsOf name, '-' ∉ word :=
  fun word member inside => (wordsOf_kept word member '-' inside).2 rfl

/-- The words of a name joined by single hyphens. -/
theorem slugText_wordsOf (name : List Char) : SlugText (['-'].intercalate (wordsOf name)) where
  kept c member := by
    rcases Joined.mem_intercalate member with rfl | ⟨word, inside, kept⟩
    · rfl
    · exact (wordsOf_kept word inside c kept).1
  single := Joined.isChain_intercalate hyphen_notMem_wordsOf wordsOf_ne_nil
  starts := by
    rw [Joined.head?_intercalate wordsOf_ne_nil]
    intro starts
    obtain ⟨word, first, head⟩ := Option.bind_eq_some_iff.mp starts
    exact hyphen_notMem_wordsOf word (List.mem_of_mem_head? first) (List.mem_of_mem_head? head)

/-- The group of a name's first words, as long as in the name. -/
theorem length_intercalate_wordsOf (name : List Char) (count : Nat) :
    (['-'].intercalate ((wordsOf name).take count)).length =
      (['-'].intercalate ((runsOf name).take count)).length := by
  rw [wordsOf, ← List.map_take]
  exact Joined.length_intercalate_map _ _

/-- Only the cut can leave a hyphen at the end: the one that stands at the sixty-third character. -/
theorem getLast?_cut_iff (name : List Char) :
    ((['-'].intercalate (wordsOf name)).take 63).getLast? = some '-' ↔
      ∃ count, 0 < count ∧ count < (runsOf name).length ∧
        (['-'].intercalate ((runsOf name).take count)).length = 62 := by
  have ends := @Joined.getLast?_intercalate_ne _ '-' _ (@hyphen_notMem_wordsOf name) wordsOf_ne_nil
  have places := @Joined.getElem?_intercalate_iff _ '-' _ (@hyphen_notMem_wordsOf name) 62
  have length : (wordsOf name).length = (runsOf name).length := List.length_map _
  simp only [length_intercalate_wordsOf, length] at places
  rw [← places, List.getLast?_take, if_neg (by decide), Option.or_eq_some_iff]
  constructor
  · rintro (found | ⟨-, last⟩)
    · exact found
    · exact absurd last ends
  · exact .inl

theorem validateSlug_ok_iff (slug : String) (directory : Directory) :
    validateSlug slug directory = .ok ((), directory) ↔ slugValid slug = true := by
  unfold validateSlug Tx.require
  split_ifs with valid
  · exact iff_of_true rfl valid
  · exact iff_of_false (fun same => nomatch same) valid

/-- A derived slug of at least three characters is accepted and is derived from itself exactly when no
proper initial group of the name's runs, joined by single hyphens, is 62 characters long. It never has two
hyphens side by side. -/
theorem slug_acceptable_iff (name : String) :
    ((3 ≤ (slugify name).length → ∀ directory, validateSlug (slugify name) directory = .ok ((), directory)) ∧
        slugify (slugify name) = slugify name ∧ ¬ ['-', '-'] <:+: (slugify name).toList) ↔
      ∀ count, 0 < count → count < (runsOf name.toList).length →
        (['-'].intercalate ((runsOf name.toList).take count)).length ≠ 62 := by
  have slug := (slugText_wordsOf name.toList).take 63
  have cut := getLast?_cut_iff name.toList
  have short : ((['-'].intercalate (wordsOf name.toList)).take 63).length ≤ 63 := List.length_take_le _ _
  have whole : (∀ count, 0 < count → count < (runsOf name.toList).length →
      (['-'].intercalate ((runsOf name.toList).take count)).length ≠ 62) ↔
        ((['-'].intercalate (wordsOf name.toList)).take 63).getLast? ≠ some '-' := by
    rw [Ne, cut]
    simp only [not_exists, not_and]
  rw [whole, slugify_eq, slug.slugify_self_iff short, String.toList_ofList, String.length_ofList]
  constructor
  · rintro ⟨-, ends, -⟩
    exact ends
  · intro ends
    refine ⟨fun long directory => ?_, ends, ?_⟩
    · exact (validateSlug_ok_iff _ _).mpr ((slug.valid_iff short long).mpr ends)
    · intro side
      have pair := List.IsChain.infix slug.single side
      exact (List.isChain_cons_cons.mp pair).1 ⟨rfl, rfl⟩

/-- Sixty-two letters, a space and a letter: the slug of sixty-three characters ends in the hyphen that stood
before the last word. It is refused, and its own slug is another one. -/
theorem cut_behind_hyphen_refused :
    let name := String.ofList (List.replicate 62 'a' ++ [' ', 'b'])
    1 ≤ name.length ∧ name.length ≤ 100 ∧ 3 ≤ (slugify name).length ∧
      (∀ directory, validateSlug (slugify name) directory =
        .error (.badRequest "slug must be 3-63 lowercase letters, numbers, or hyphens")) ∧
      slugify (slugify name) ≠ slugify name := by
  intro name
  have refused : slugValid (slugify name) = false := by decide +kernel
  refine ⟨by decide +kernel, by decide +kernel, by decide +kernel, fun directory => ?_, by decide +kernel⟩
  unfold validateSlug Tx.require
  rw [refused]
  rfl

end Names

end BuildLens.Gateway
