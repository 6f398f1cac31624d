import Mathlib.Algebra.Group.Int.Defs

/-! JSON values as the services' libraries parse them. -/

namespace BuildLens

inductive JsonNumber where
  | integer (value : Int)
  | float (text : String)
  deriving DecidableEq, Repr

inductive Json where
  | null
  | bool (value : Bool)
  | number (value : JsonNumber)
  | string (value : String)
  | array (items : List Json)
  | object (fields : List (String × Json))
  deriving Repr

namespace Json

/-- A member of an object; other values have none. -/
def get (key : String) : Json → Option Json
  | object fields => (fields.find? (·.1 = key)).map (·.2)
  | _ => none

def asStr : Json → Option String
  | string value => some value
  | _ => none

def asI64 : Json → Option Int
  | number (.integer value) => if -2 ^ 63 ≤ value ∧ value < 2 ^ 63 then some value else none
  | _ => none

def isObject : Json → Bool
  | object _ => true
  | _ => false

def textStorable (text : String) : Bool := !text.toList.contains '\u0000'

mutual

/-- Whether a `jsonb` column takes the value: it refuses U+0000 in any text. -/
def storable : Json → Bool
  | null | bool _ | number _ => true
  | string value => textStorable value
  | array items => storableItems items
  | object fields => storableFields fields

def storableItems : List Json → Bool
  | [] => true
  | item :: rest => item.storable && storableItems rest

def storableFields : List (String × Json) → Bool
  | [] => true
  | (key, value) :: rest => textStorable key && value.storable && storableFields rest

end

/-- Add a member in key order, or replace the one under its key. -/
def putMember (key : String) (value : Json) : List (String × Json) → List (String × Json)
  | [] => [(key, value)]
  | (head, held) :: rest =>
    if key = head then (key, value) :: rest
    else if key < head then (key, value) :: (head, held) :: rest
    else (head, held) :: putMember key value rest

mutual

/-- The value that a `jsonb` column gives back to `serde_json`: of members with one key the
last is kept, in key order. -/
def stored : Json → Json
  | null => null
  | bool value => bool value
  | number value => number value
  | string value => string value
  | array items => array (storedItems items)
  | object fields => object (storedMembers [] fields)

def storedItems : List Json → List Json
  | [] => []
  | item :: rest => item.stored :: storedItems rest

def storedMembers (kept : List (String × Json)) : List (String × Json) → List (String × Json)
  | [] => kept
  | (key, value) :: rest => storedMembers (putMember key value.stored kept) rest

end

section Stored

variable {key : String}

private theorem get_putMember (other : String) (value : Json) (fields : List (String × Json)) :
    (object (putMember key value fields)).get other =
      if key = other then some value else (object fields).get other := by
  induction fields with
  | nil => by_cases same : key = other <;> simp [putMember, get, same]
  | cons field rest ih =>
    obtain ⟨head, held⟩ := field
    simp only [get, putMember] at ih ⊢
    by_cases here : key = head
    · subst here
      by_cases same : key = other <;> simp [same]
    · by_cases before : key < head
      · rw [if_neg here, if_pos before]
        by_cases same : key = other <;> simp [same]
      · rw [if_neg here, if_neg before]
        by_cases first : head = other
        · have different : key ≠ other := fun same => here (same.trans first.symm)
          simp [first, different]
        · simpa [List.find?_cons, first] using ih

private theorem get_storedMembers (other : String) (kept fields : List (String × Json)) :
    (object (storedMembers kept fields)).get other =
      (((object fields.reverse).get other).map stored).or ((object kept).get other) := by
  induction fields generalizing kept with
  | nil => simp [storedMembers, get]
  | cons field rest ih =>
    obtain ⟨key, value⟩ := field
    rw [storedMembers, ih, get_putMember]
    simp only [get, List.reverse_cons, List.find?_append, List.find?_singleton]
    cases rest.reverse.find? (·.1 = other) with
    | some found => simp
    | none => by_cases same : key = other <;> simp [same]

theorem get_cons (key other : String) (value : Json) (fields : List (String × Json)) :
    (object ((key, value) :: fields)).get other =
      if key = other then some value else (object fields).get other := by
  by_cases same : key = other <;> simp [get, same]

/-- Storing keeps the last member of each key. -/
theorem get_stored (other : String) (fields : List (String × Json)) :
    (object fields).stored.get other = ((object fields.reverse).get other).map stored := by
  rw [stored, get_storedMembers]
  simp [get]

end Stored

end Json

end BuildLens
