/-!
# Ordered entries

A list of entries under keys, in order of first insertion. Inserting under a known key replaces the
value and keeps the position, so keys that are distinct stay distinct.
-/

namespace SchemaDialogue

/-- Values under keys, in order of first insertion. -/
abbrev Entries (α : Type) := List (String × α)

namespace Entries

variable {α : Type}

def keys (entries : Entries α) : List String := entries.map (·.1)

def find? (entries : Entries α) (key : String) : Option α := List.lookup key entries

/-- Set the value under a key: a new key goes to the end, a known one keeps its place. -/
def insert (key : String) (value : α) : Entries α → Entries α
  | [] => [(key, value)]
  | (k, v) :: rest => if k = key then (k, value) :: rest else (k, v) :: insert key value rest

/-- The entries inserted one after the other. -/
def ofList (list : List (String × α)) : Entries α :=
  list.foldl (fun seen entry => insert entry.1 entry.2 seen) []

theorem mem_of_find? {entries : Entries α} {key : String} {value : α}
    (h : entries.find? key = some value) : (key, value) ∈ entries := by
  induction entries with
  | nil => cases h
  | cons entry rest ih =>
    obtain ⟨k, v⟩ := entry
    rw [find?, List.lookup_cons] at h
    split at h
    · rename_i same
      cases eq_of_beq same
      cases h
      exact .head _
    · exact .tail _ (ih h)

theorem keys_insert (entries : Entries α) (key : String) (value : α) :
    keys (insert key value entries) =
      if key ∈ keys entries then keys entries else keys entries ++ [key] := by
  induction entries with
  | nil => simp [insert, keys]
  | cons entry rest ih =>
    obtain ⟨k, v⟩ := entry
    unfold keys at *
    by_cases h : k = key
    · simp [insert, h]
    · have h' : ¬key = k := fun e => h e.symm
      simp only [insert, h, if_false, List.map_cons, ih, List.mem_cons, h', false_or]
      split <;> simp_all

theorem find?_insert (entries : Entries α) (key other : String) (value : α) :
    find? (insert key value entries) other =
      if other = key then some value else find? entries other := by
  induction entries with
  | nil =>
    by_cases h : other = key <;> simp [insert, find?, List.lookup_cons, h, beq_eq_false_iff_ne.2]
  | cons entry rest ih =>
    obtain ⟨k, v⟩ := entry
    unfold find? at *
    by_cases h : k = key
    · subst h
      by_cases h' : other = k <;> simp [insert, List.lookup_cons, h', beq_eq_false_iff_ne.2]
    · simp only [insert, h, if_false, List.lookup_cons, ih]
      by_cases h' : other = k
      · subst h'; simp [h]
      · simp [h', beq_eq_false_iff_ne.2]

end Entries

end SchemaDialogue
