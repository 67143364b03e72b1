import SchemaDialogue.Entries
import SchemaDialogue.Json.Number

/-!
# JSON values

Objects keep their members in order. Where a key is written twice, the first position and the last
value are kept, as `Entries.insert` does.
-/

namespace SchemaDialogue

inductive Json where
  | null
  | bool (value : Bool)
  | number (value : Number)
  | string (value : String)
  | array (items : List Json)
  | object (members : List (String × Json))

namespace Json

instance : Inhabited Json := ⟨.null⟩

/-- The integer number of a natural number; one beyond the integer range becomes a double. -/
def ofNat (n : Nat) : Json :=
  match Number.ofInt? n with
  | some exact => .number exact
  | none => ((Binary64.ofNat? n).map fun x => Json.number (.real x)).getD .null

def isNull : Json → Bool
  | null => true
  | _ => false

/-- The text, when the value is a string. -/
def string? : Json → Option String
  | string s => some s
  | _ => none

mutual

/-- The number of values in a value, an object's keys counted twice. -/
def size : Json → Nat
  | array items => 1 + sizeOfItems items
  | object members => 1 + sizeOfMembers members
  | _ => 1

def sizeOfItems : List Json → Nat
  | [] => 0
  | item :: rest => item.size + sizeOfItems rest

def sizeOfMembers : List (String × Json) → Nat
  | [] => 0
  | (_, value) :: rest => 2 + value.size + sizeOfMembers rest

end

theorem size_pos (v : Json) : 0 < v.size := by
  cases v <;> simp only [size] <;> omega

theorem size_le_sizeOfItems {item : Json} {items : List Json} (h : item ∈ items) :
    item.size ≤ sizeOfItems items := by
  induction items with
  | nil => cases h
  | cons first rest ih =>
    simp only [sizeOfItems]
    rcases List.mem_cons.1 h with rfl | h
    · omega
    · have := ih h; omega

theorem size_lt_sizeOfMembers {key : String} {value : Json} {members : List (String × Json)}
    (h : (key, value) ∈ members) : value.size + 1 < sizeOfMembers members := by
  induction members with
  | nil => cases h
  | cons first rest ih =>
    obtain ⟨k, v⟩ := first
    simp only [sizeOfMembers]
    rcases List.mem_cons.1 h with h | h
    · cases h; omega
    · have := ih h; omega

end Json

end SchemaDialogue
