import BuildLens.Gateway.RepositorySync
import BuildLens.Joined
import BuildLens.Text
import Mathlib.Data.List.DropRight

/-! The next page of a listing: `next_link` reads it from a `Link` header. `Url::parse` is a
parameter. -/

namespace BuildLens.Gateway

/-- `strip_prefix('<')?.strip_suffix('>')`. -/
def unbracket : List Char → Option (List Char)
  | '<' :: rest => if rest.getLast? = some '>' then some rest.dropLast else none
  | _ => none

/-- What the closure makes of the text between two commas. -/
def linkTarget (parse : String → Option Url) (part : List Char) : Option Url :=
  match (Text.trimMatches Text.isWhitespace part).splitOn ';' with
  | [] => none
  | target :: pieces =>
    let isNext := pieces.any fun piece =>
      Text.trimMatches Text.isWhitespace piece == "rel=\"next\"".toList
    if !isNext then none
    else (unbracket (Text.trimMatches Text.isWhitespace target)).bind fun url => parse (String.ofList url)

def nextLink (parse : String → Option Url) (value : String) : Option Url :=
  (value.toList.splitOn ',').findSome? (linkTarget parse)

/-- A link of the header: an address and the relation of its page. -/
structure Link where
  url : List Char
  rel : List Char
  deriving DecidableEq, Repr

/-- `<url>; rel="x"`. -/
def Link.render (link : Link) : List Char :=
  '<' :: (link.url ++ (">; rel=\"".toList ++ (link.rel ++ ['"'])))

def linkHeader (links : List Link) : String :=
  String.ofList ([',', ' '].intercalate (links.map Link.render))

def Link.isNext (link : Link) : Bool := link.rel = "next".toList

/-- Neither separator of the parser is in the address. -/
def Link.isPlain (link : Link) : Bool := ',' ∉ link.url && ';' ∉ link.url

def Link.page (parse : String → Option Url) (link : Link) : Option Url := parse (String.ofList link.url)

/-- An address that is accepted, without angle brackets, and a relation that can stand in quotes. -/
structure Link.WellFormed (parse : String → Option Url) (link : Link) : Prop where
  accepted : (link.page parse).isSome = true
  opens : '<' ∉ link.url
  closes : '>' ∉ link.url
  quoted : '"' ∉ link.rel

section Trimming

variable {drops : Char → Bool} {text : List Char}

/-- A text between what is trimmed. -/
theorem trimMatches_split (drops : Char → Bool) (text : List Char) :
    ∃ lead trail, text = lead ++ (Text.trimMatches drops text ++ trail) ∧ (∀ c ∈ lead, drops c = true) ∧
      ∀ c ∈ (Text.trimMatches drops text).head?, drops c = false := by
  obtain ⟨trail, rest⟩ : Text.trimMatches drops text <+: text.dropWhile drops := by
    rw [Text.trimMatches, ← List.rdropWhile]
    exact List.rdropWhile_prefix drops _
  refine ⟨text.takeWhile drops, trail, ?_, fun c member => List.mem_takeWhile_imp member, ?_⟩
  · rw [rest, List.takeWhile_append_dropWhile]
  · intro c starts
    have head : (text.dropWhile drops).head? = some c := by
      rw [← rest, List.head?_append, starts]
      rfl
    have kept := List.head?_dropWhile_not drops text
    rw [head] at kept
    simpa using kept

theorem trimMatches_sublist (drops : Char → Bool) (text : List Char) :
    (Text.trimMatches drops text).Sublist text := by
  obtain ⟨lead, trail, whole, -⟩ := trimMatches_split drops text
  conv_rhs => rw [whole]
  exact (List.sublist_append_left _ _).trans (List.sublist_append_right _ _)

theorem trimMatches_cons_dropped {c : Char} (dropped : drops c = true) :
    Text.trimMatches drops (c :: text) = Text.trimMatches drops text := by
  rw [Text.trimMatches, Text.trimMatches, List.dropWhile_cons_of_pos dropped]

theorem trimMatches_of_ends (starts : ∀ c ∈ text.head?, drops c = false)
    (ends : ∀ c ∈ text.getLast?, drops c = false) : Text.trimMatches drops text = text := by
  have front : text.dropWhile drops = text := by
    cases text with
    | nil => rfl
    | cons c rest => exact List.dropWhile_cons_of_neg (by simpa using starts c rfl)
  rw [Text.trimMatches, front, ← List.rdropWhile, List.rdropWhile_eq_self_iff]
  intro some_ dropped
  have kept := ends _ (List.getLast?_eq_some_getLast some_)
  rw [kept] at dropped
  cases dropped

end Trimming

section Parts

variable {parse : String → Option Url} {part : List Char} {url : Url}

theorem mem_splitOn_sublist {separator : Char} {text piece : List Char} (member : piece ∈ text.splitOn separator) :
    piece.Sublist text := by
  have whole := @Joined.sublist_intercalate _ separator _ _ member
  rwa [List.intercalate_splitOn] at whole

/-- The relation in quotes has two of them. -/
theorem count_quotes_of_any {text : List Char}
    (tagged : (text.splitOn ';').any (fun piece =>
      Text.trimMatches Text.isWhitespace piece == "rel=\"next\"".toList) = true) :
    2 ≤ text.count '"' := by
  obtain ⟨piece, member, same⟩ := List.any_eq_true.mp tagged
  have tag := trimMatches_sublist Text.isWhitespace piece
  rw [beq_iff_eq.mp same] at tag
  exact (tag.trans (mem_splitOn_sublist member)).count_le '"'

/-- A part that yields an address begins with an angle bracket behind its white space, closes it before its
first semicolon, and has the relation in quotes behind that. -/
theorem linkTarget_some (found : linkTarget parse part = some url) :
    (part.dropWhile Text.isWhitespace).head? = some '<' ∧ '>' ∈ part.takeWhile (· != ';') ∧
      2 ≤ (part.dropWhile (· != ';')).count '"' := by
  obtain ⟨lead, trail, whole, blank, starts⟩ := trimMatches_split Text.isWhitespace part
  unfold linkTarget at found
  generalize Text.trimMatches Text.isWhitespace part = trimmed at *
  by_cases separated : ';' ∈ trimmed
  · obtain ⟨target, remainder, rfl, first⟩ := List.eq_append_cons_of_mem separated
    rw [List.splitOn_append_cons_self_of_not_mem first] at found
    dsimp only at found
    split_ifs at found with tagged
    obtain ⟨address, opened, -⟩ := Option.bind_eq_some_iff.mp found
    have quotes := count_quotes_of_any (by simpa using tagged)
    obtain ⟨lead', trail', split, blank', starts'⟩ := trimMatches_split Text.isWhitespace target
    generalize Text.trimMatches Text.isWhitespace target = bracketed at *
    unfold unbracket at opened
    split at opened
    · rename_i rest
      split_ifs at opened with closed
      have noBlank : lead' = [] := by
        cases lead' with
        | nil => rfl
        | cons c more =>
          have space := blank' c List.mem_cons_self
          have kept := starts c (by rw [split]; rfl)
          rw [kept] at space
          cases space
      subst noBlank
      subst split
      have before : ∀ c ∈ lead ++ ('<' :: rest ++ trail'), (c != ';') = true := by
        intro c member
        rcases List.mem_append.mp member with space | inside
        · have white := blank c space
          rw [bne_iff_ne]
          rintro rfl
          exact absurd white (by decide)
        · rw [bne_iff_ne]
          rintro rfl
          exact first inside
      have parts : part = (lead ++ ('<' :: rest ++ trail')) ++ (';' :: (remainder ++ trail)) := by
        rw [whole]
        simp
      refine ⟨?_, ?_, ?_⟩
      · rw [whole, List.dropWhile_append_of_pos blank, List.nil_append, List.cons_append, List.cons_append,
          List.cons_append, List.dropWhile_cons_of_neg (by decide)]
        rfl
      · rw [parts, List.takeWhile_append_of_pos before]
        have closing := List.mem_of_mem_getLast? closed
        simp [closing]
      · rw [parts, List.dropWhile_append_of_pos before, List.dropWhile_cons_of_neg (by decide),
          List.count_cons_of_ne (by decide), List.count_append]
        omega
    · cases opened
  · rw [List.splitOn_eq_singleton separated] at found
    cases found

theorem linkTarget_space (part : List Char) : linkTarget parse (' ' :: part) = linkTarget parse part := by
  rw [linkTarget, linkTarget, trimMatches_cons_dropped (by decide)]

theorem linkTarget_none_of_closes (closes : '>' ∉ part) : linkTarget parse part = none := by
  refine Option.eq_none_iff_forall_ne_some.mpr fun url found => ?_
  exact closes (List.takeWhile_subset _ (linkTarget_some found).2.1)

theorem linkTarget_none_of_quotes (few : part.count '"' ≤ 1) : linkTarget parse part = none := by
  refine Option.eq_none_iff_forall_ne_some.mpr fun url found => ?_
  have quotes := (linkTarget_some found).2.2
  have fewer := (List.dropWhile_sublist (· != ';') (l := part)).count_le '"'
  omega

/-- A part that starts inside an address has no bracket in front. -/
theorem linkTarget_none_of_front {front : List Char} (opens : '<' ∉ front) (rest : List Char) :
    linkTarget parse (front ++ '>' :: rest) = none := by
  refine Option.eq_none_iff_forall_ne_some.mpr fun url found => ?_
  have starts := (linkTarget_some found).1
  rw [List.dropWhile_append] at starts
  split_ifs at starts with blank
  · rw [List.dropWhile_cons_of_neg (by decide)] at starts
    cases starts
  · have kept : front.dropWhile Text.isWhitespace ≠ [] := fun none_ => blank (List.isEmpty_iff.mpr none_)
    obtain ⟨c, more, some_⟩ := List.exists_cons_of_ne_nil kept
    rw [some_] at starts
    obtain rfl := Option.some.inj starts
    have member : '<' ∈ front.dropWhile Text.isWhitespace := by
      rw [some_]
      exact List.mem_cons_self
    exact opens ((List.dropWhile_sublist _).subset member)

theorem linkTarget_bracketed {address rest : List Char} (closes : '>' ∉ address)
    (found : linkTarget parse ('<' :: (address ++ '>' :: rest)) = some url) :
    ';' ∉ address ∧ 2 ≤ rest.count '"' := by
  obtain ⟨-, closed, quotes⟩ := linkTarget_some found
  have free : ';' ∉ address := by
    intro member
    obtain ⟨front, back, rfl, first⟩ := List.eq_append_cons_of_mem member
    have before : ∀ c ∈ '<' :: front, (c != ';') = true := by
      refine List.forall_mem_cons.mpr ⟨rfl, fun c inside => ?_⟩
      rw [bne_iff_ne]
      rintro rfl
      exact first inside
    have split : '<' :: (front ++ ';' :: back ++ '>' :: rest) = ('<' :: front) ++ ';' :: (back ++ '>' :: rest) := by
      simp
    rw [split, List.takeWhile_append_of_pos before, List.takeWhile_cons_of_neg (by decide), List.append_nil] at closed
    rcases List.mem_cons.mp closed with same | inside
    · cases same
    · exact closes (List.mem_append_left _ inside)
  refine ⟨free, quotes.trans ?_⟩
  have before : ∀ c ∈ '<' :: (address ++ ['>']), (c != ';') = true := by
    intro c member
    rw [bne_iff_ne]
    rintro rfl
    simp [free] at member
  have split : '<' :: (address ++ '>' :: rest) = '<' :: (address ++ ['>']) ++ rest := by simp
  rw [split, List.dropWhile_append_of_pos before]
  exact (List.dropWhile_sublist _).count_le '"'

end Parts

section Links

variable {parse : String → Option Url} {link : Link}

private theorem count_quoted {rel : List Char} (quoted : '"' ∉ rel) :
    (" rel=\"".toList ++ rel).count '"' = 1 ∧ (rel ++ ['"']).count '"' = 1 := by
  have none_ := List.count_eq_zero.mpr quoted
  rw [List.count_append, List.count_append, none_]
  exact ⟨by decide, by decide⟩

private theorem quoted_parts {front back : List Char} {separator : Char}
    (quoted : '"' ∉ front ++ separator :: back) : '"' ∉ front ∧ '"' ∉ back := by
  rw [List.mem_append, List.mem_cons, not_or, not_or] at quoted
  exact ⟨quoted.1, quoted.2.2⟩

/-- Of the pieces behind the address only the whole relation can be the next one. -/
theorem any_tag_iff {rel : List Char} (quoted : '"' ∉ rel) :
    ((" rel=\"".toList ++ (rel ++ ['"'])).splitOn ';').any (fun piece =>
        Text.trimMatches Text.isWhitespace piece == "rel=\"next\"".toList) = true ↔ rel = "next".toList := by
  by_cases separated : ';' ∈ rel
  · refine iff_of_false ?_ ?_
    · obtain ⟨front, back, rfl⟩ := List.append_of_mem separated
      obtain ⟨first, second⟩ := quoted_parts quoted
      intro tagged
      have split : " rel=\"".toList ++ (front ++ ';' :: back ++ ['"']) =
          (" rel=\"".toList ++ front) ++ ';' :: (back ++ ['"']) := by simp
      rw [split, List.splitOn_append_cons_self, List.any_append, Bool.or_eq_true] at tagged
      rcases tagged with left | right
      · have quotes := count_quotes_of_any left
        rw [(count_quoted first).1] at quotes
        omega
      · have quotes := count_quotes_of_any right
        rw [(count_quoted second).2] at quotes
        omega
    · rintro rfl
      exact absurd separated (by decide)
  · have single : ';' ∉ " rel=\"".toList ++ (rel ++ ['"']) := by
      simp [separated]
    have trimmed : Text.trimMatches Text.isWhitespace (" rel=\"".toList ++ (rel ++ ['"'])) =
        "rel=\"".toList ++ (rel ++ ['"']) := by
      change Text.trimMatches _ (' ' :: ("rel=\"".toList ++ (rel ++ ['"']))) = _
      rw [trimMatches_cons_dropped (by decide), trimMatches_of_ends]
      · intro c starts
        obtain rfl := Option.some.inj starts
        decide
      · intro c ends
        rw [← List.append_assoc, List.getLast?_concat] at ends
        obtain rfl := Option.some.inj ends
        decide
    rw [List.splitOn_eq_singleton single, List.any_cons, List.any_nil, Bool.or_false, trimmed, beq_iff_eq,
      show "rel=\"next\"".toList = "rel=\"".toList ++ ("next".toList ++ ['"']) from by decide,
      List.append_cancel_left_eq, List.append_cancel_right_eq]

/-- The whole text of a link, when the parser does not cut it. -/
theorem linkTarget_render (plain : ';' ∉ link.url) (quoted : '"' ∉ link.rel) :
    linkTarget parse link.render = if link.isNext then link.page parse else none := by
  have trimmed : Text.trimMatches Text.isWhitespace link.render = link.render := by
    refine trimMatches_of_ends ?_ ?_
    · intro c starts
      obtain rfl := Option.some.inj starts
      decide
    · intro c ends
      have last : link.render = ('<' :: (link.url ++ (">; rel=\"".toList ++ link.rel))) ++ ['"'] := by
        simp [Link.render]
      rw [last, List.getLast?_concat] at ends
      obtain rfl := Option.some.inj ends
      decide
  have bracketed : Text.trimMatches Text.isWhitespace ('<' :: (link.url ++ ['>'])) = '<' :: (link.url ++ ['>']) := by
    refine trimMatches_of_ends ?_ ?_
    · intro c starts
      obtain rfl := Option.some.inj starts
      decide
    · intro c ends
      rw [← List.cons_append, List.getLast?_concat] at ends
      obtain rfl := Option.some.inj ends
      decide
  have split : link.render = ('<' :: (link.url ++ ['>'])) ++ ';' :: (" rel=\"".toList ++ (link.rel ++ ['"'])) := by
    simp [Link.render]
  have first : ';' ∉ '<' :: (link.url ++ ['>']) := by simp [plain]
  rw [linkTarget, trimmed, split, List.splitOn_append_cons_self_of_not_mem first]
  dsimp only
  rw [bracketed, unbracket, List.getLast?_concat, if_pos rfl, List.dropLast_concat, Option.bind_some]
  have tag := @any_tag_iff link.rel quoted
  unfold Link.isNext Link.page
  by_cases next : link.rel = "next".toList
  · rw [tag.mpr next, decide_eq_true next]
    rfl
  · rw [Bool.eq_false_iff.mpr (mt tag.mp next), decide_eq_false next]
    rfl

private theorem findSome?_none_of_closes {text : List Char} (closes : '>' ∉ text) :
    (text.splitOn ',').findSome? (linkTarget parse) = none := by
  refine List.findSome?_eq_none_iff.mpr fun part member => linkTarget_none_of_closes fun inside => ?_
  exact closes ((mem_splitOn_sublist member).subset inside)

private theorem findSome?_none_of_quotes {text : List Char} (few : text.count '"' ≤ 1) :
    (text.splitOn ',').findSome? (linkTarget parse) = none := by
  refine List.findSome?_eq_none_iff.mpr fun part member => linkTarget_none_of_quotes ?_
  exact ((mem_splitOn_sublist member).count_le '"').trans few

/-- The text of a link cut inside its relation: nothing behind the cut can be the next page. -/
private theorem findSome?_cut_relation {front back : List Char} {separated : List Char} (free : ',' ∉ separated)
    (first : ',' ∉ front) (quoted : '"' ∉ back) :
    ((separated ++ (front ++ ',' :: back ++ ['"'])).splitOn ',').findSome? (linkTarget parse) =
      linkTarget parse (separated ++ front) := by
  have split : separated ++ (front ++ ',' :: back ++ ['"']) = (separated ++ front) ++ ',' :: (back ++ ['"']) := by
    simp
  have single : ',' ∉ separated ++ front := by simp [free, first]
  rw [split, List.splitOn_append_cons_self_of_not_mem single, List.findSome?_cons,
    findSome?_none_of_quotes (count_quoted quoted).2.le]
  cases linkTarget parse (separated ++ front) <;> rfl

/-- Of a link's text the parser sees the address when no separator is in it. -/
theorem findSome?_render (valid : link.WellFormed parse) :
    (link.render.splitOn ',').findSome? (linkTarget parse) =
      if link.isNext && link.isPlain then link.page parse else none := by
  by_cases comma : ',' ∈ link.url
  · have notPlain : link.isPlain = false := by simp [Link.isPlain, comma]
    rw [notPlain, Bool.and_false, if_neg Bool.false_ne_true]
    -- the last comma of the address parts what has no closing bracket from what has no opening one
    obtain ⟨back, front, reversed, last⟩ := List.eq_append_cons_of_mem (List.mem_reverse.mpr comma)
    have whole : link.url = front.reverse ++ ',' :: back.reverse := by
      rw [← List.reverse_reverse link.url, reversed]
      simp
    have opens := valid.opens
    have closes := valid.closes
    rw [whole, List.mem_append, List.mem_cons, not_or, not_or] at opens closes
    have split : link.render = ('<' :: front.reverse) ++
        ',' :: ((back.reverse ++ ">; rel=\"".toList) ++ (link.rel ++ ['"'])) := by
      simp [Link.render, whole]
    rw [split, List.splitOn_append_cons_self, List.findSome?_append,
      findSome?_none_of_closes (by simpa using closes.1), Option.none_or]
    have free : ',' ∉ back.reverse ++ ">; rel=\"".toList := by simpa using last
    by_cases cut : ',' ∈ link.rel
    · obtain ⟨before, behind, rel, first⟩ := List.eq_append_cons_of_mem cut
      have quoted := valid.quoted
      rw [rel] at quoted ⊢
      rw [findSome?_cut_relation free first (quoted_parts quoted).2, List.append_assoc]
      exact linkTarget_none_of_front opens.2.2 _
    · have single : ',' ∉ (back.reverse ++ ">; rel=\"".toList) ++ (link.rel ++ ['"']) := by
        simpa [cut] using last
      rw [List.splitOn_eq_singleton single, List.findSome?_singleton, List.append_assoc]
      exact linkTarget_none_of_front opens.2.2 _
  · by_cases cut : ',' ∈ link.rel
    · have other : link.isNext = false := by
        refine decide_eq_false ?_
        rintro same
        rw [same] at cut
        exact absurd cut (by decide)
      rw [other, Bool.false_and, if_neg Bool.false_ne_true]
      obtain ⟨before, behind, rel, first⟩ := List.eq_append_cons_of_mem cut
      have quoted := valid.quoted
      have free : ',' ∉ '<' :: (link.url ++ ">; rel=\"".toList) := by simp [comma]
      have split : link.render = ('<' :: (link.url ++ ">; rel=\"".toList)) ++ (before ++ ',' :: behind ++ ['"']) := by
        simp [Link.render, rel]
      rw [rel] at quoted
      rw [split, findSome?_cut_relation free first (quoted_parts quoted).2]
      refine Option.eq_none_iff_forall_ne_some.mpr fun url found => ?_
      have shape : '<' :: (link.url ++ ">; rel=\"".toList) ++ before =
          '<' :: (link.url ++ '>' :: (';' :: (" rel=\"".toList ++ before))) := by simp
      rw [shape] at found
      have quotes := (linkTarget_bracketed valid.closes found).2
      rw [List.count_cons_of_ne (by decide), (count_quoted (quoted_parts quoted).1).1] at quotes
      omega
    · have single : ',' ∉ link.render := by simp [Link.render, comma, cut]
      rw [List.splitOn_eq_singleton single, List.findSome?_singleton]
      by_cases semicolon : ';' ∈ link.url
      · have notPlain : link.isPlain = false := by simp [Link.isPlain, semicolon]
        rw [notPlain, Bool.and_false, if_neg Bool.false_ne_true]
        refine Option.eq_none_iff_forall_ne_some.mpr fun url found => ?_
        have shape : link.render = '<' :: (link.url ++ '>' :: ("; rel=\"".toList ++ (link.rel ++ ['"']))) := rfl
        rw [shape] at found
        exact (linkTarget_bracketed valid.closes found).1 semicolon
      · have isPlain : link.isPlain = true := by simp [Link.isPlain, comma, semicolon]
        rw [linkTarget_render semicolon valid.quoted, isPlain, Bool.and_true]

theorem nextLink_header {links : List Link} (valid : ∀ link ∈ links, link.WellFormed parse) :
    nextLink parse (linkHeader links) =
      (links.find? fun link => link.isNext && link.isPlain).bind (·.page parse) := by
  rw [nextLink, linkHeader, String.toList_ofList]
  induction links with
  | nil => simp [linkTarget, Text.trimMatches]
  | cons link rest ih =>
    obtain ⟨validHead, validRest⟩ := List.forall_mem_cons.mp valid
    have own := findSome?_render validHead
    have page : (if link.isNext && link.isPlain then link.page parse else none).or
        ((rest.find? fun link => link.isNext && link.isPlain).bind (·.page parse)) =
          ((link :: rest).find? fun link => link.isNext && link.isPlain).bind (·.page parse) := by
      obtain ⟨url, accepted⟩ := Option.isSome_iff_exists.mp validHead.accepted
      cases plain : link.isNext && link.isPlain <;> simp [plain, accepted]
    cases rest with
    | nil =>
      rw [List.map_singleton, List.intercalate_singleton, own, ← page]
      exact Option.or_none.symm
    | cons next rest =>
      rw [List.map_cons, List.intercalate_cons_of_ne_nil (by simp), List.append_assoc, List.cons_append,
        List.splitOn_append_cons_self, List.findSome?_append, own, ← page, ← ih validRest]
      -- the space behind a comma is trimmed from the part that it begins
      congr 1
      generalize [',', ' '].intercalate ((next :: rest).map Link.render) = text
      obtain ⟨part, parts, split⟩ := List.exists_cons_of_ne_nil (List.splitOn_ne_nil ',' text)
      rw [List.singleton_append, List.splitOn_cons_eq_if_modifyHead, if_neg (by decide), split,
        List.modifyHead_cons, List.findSome?_cons, List.findSome?_cons, linkTarget_space]

/-- The header yields the page of its first next link exactly when that link has neither a comma nor a
semicolon in its address, or the first next link that has neither names the same page. -/
theorem nextLink_first_iff {links : List Link} (valid : ∀ link ∈ links, link.WellFormed parse) :
    nextLink parse (linkHeader links) = (links.find? Link.isNext).bind (·.page parse) ↔
      ∀ first, links.find? Link.isNext = some first →
        first.isPlain = true ∨ ∃ plain, links.find? (fun link => link.isNext && link.isPlain) = some plain ∧
          plain.page parse = first.page parse := by
  rw [nextLink_header valid]
  cases next : links.find? Link.isNext with
  | none =>
    have none_ : (links.find? fun link => link.isNext && link.isPlain) = none := by
      rw [List.find?_eq_none] at next ⊢
      intro link member both
      exact next link member (Bool.and_eq_true_iff.mp both).1
    rw [none_]
    simp
  | some first =>
    simp only [Option.bind_some, Option.some.injEq, forall_eq']
    constructor
    · intro same
      obtain ⟨url, accepted⟩ := Option.isSome_iff_exists.mp (valid first (List.mem_of_find?_eq_some next)).accepted
      rw [accepted] at same
      obtain ⟨plain, found, page⟩ := Option.bind_eq_some_iff.mp same
      exact .inr ⟨plain, found, page.trans accepted.symm⟩
    · rintro (plain | ⟨other, found, page⟩)
      · have found : (links.find? fun link => link.isNext && link.isPlain) = some first := by
          rw [List.find?_eq_some_iff_append] at next ⊢
          obtain ⟨isNext, before, after, split, others⟩ := next
          refine ⟨by rw [isNext, plain]; rfl, before, after, split, fun link member => ?_⟩
          have other := others link member
          simp only [Bool.not_eq_true'] at other ⊢
          rw [other]
          rfl
        rw [found]
        rfl
      · rw [found]
        exact page

/-- Absolute addresses that are in normal form already. -/
private def normalUrl (text : String) : Option Url :=
  if "https://".toList.isPrefixOf text.toList then some ⟨text⟩ else none

private def secondPage : Link := ⟨"https://api.github.test/items?page=2".toList, "next".toList⟩

private def testedLinks : List Link :=
  [secondPage, ⟨"https://api.github.test/items?page=4".toList, "last".toList⟩]

private theorem wellFormed_of {link : Link} (accepted : (link.page normalUrl).isSome = true)
    (free : ('<' ∉ link.url ∧ '>' ∉ link.url) ∧ '"' ∉ link.rel) : link.WellFormed normalUrl :=
  ⟨accepted, free.1.1, free.1.2, free.2⟩

/-- The header of the unit test. -/
theorem tested_header_followed :
    nextLink normalUrl (linkHeader testedLinks) = (testedLinks.find? Link.isNext).bind (·.page normalUrl) ∧
      (testedLinks.find? Link.isNext).bind (·.page normalUrl) = some ⟨"https://api.github.test/items?page=2"⟩ := by
  refine ⟨(nextLink_first_iff ?_).mpr ?_, by decide +kernel⟩
  · intro link member
    simp only [testedLinks, List.mem_cons, List.not_mem_nil, or_false] at member
    rcases member with rfl | rfl
    · exact wellFormed_of (by decide +kernel) (by decide +kernel)
    · exact wellFormed_of (by decide +kernel) (by decide +kernel)
  · intro first found
    obtain rfl := Option.some.inj (Eq.trans (by decide +kernel : some secondPage = _) found)
    exact .inl (by decide +kernel)

/-- A comma in the address of the only next page: the listing ends before it. -/
theorem comma_in_address_ends_listing :
    let link : Link := ⟨"https://api.github.test/items?labels=a,b&page=2".toList, "next".toList⟩
    link.WellFormed normalUrl ∧ linkHeader [link] =
        "<https://api.github.test/items?labels=a,b&page=2>; rel=\"next\"" ∧
      nextLink normalUrl (linkHeader [link]) = none ∧
      ([link].find? Link.isNext).bind (·.page normalUrl) =
        some ⟨"https://api.github.test/items?labels=a,b&page=2"⟩ :=
  ⟨wellFormed_of (by decide +kernel) (by decide +kernel), by decide +kernel, by decide +kernel, by decide +kernel⟩

end Links

end BuildLens.Gateway
