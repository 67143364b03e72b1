import Mathlib.Data.List.Forall2
import Mathlib.Data.List.Nodup
import SchemaDialogue.Entries

/-!
# Lists that correspond, and entries

Lists and options whose items correspond one by one, and what a list of entries has under a key
after it has been inserted entry by entry.
-/

namespace SchemaDialogue

/-! ## One by one -/

section

variable {α β : Type} {R : α → β → Prop}

theorem mem_zip_iff {l : List α} {l' : List β} {p : α × β} :
    p ∈ l.zip l' ↔ ∃ i : Nat, l[i]? = some p.1 ∧ l'[i]? = some p.2 := by
  rw [List.mem_iff_getElem?]
  exact exists_congr fun i => List.getElem?_zip_eq_some

/-- A list that is as long has an item in the same place. -/
theorem exists_getElem? {l : List α} {l' : List β} (length : l.length = l'.length) {i : Nat}
    {a : α} (h : l[i]? = some a) : ∃ b, l'[i]? = some b := by
  obtain ⟨hi, _⟩ := List.getElem?_eq_some_iff.mp h
  exact ⟨l'[i], List.getElem?_eq_getElem (length ▸ hi)⟩

theorem rel_some_left {a : α} {o : Option β} (h : Option.Rel R (some a) o) :
    ∃ b, o = some b ∧ R a b := by
  cases h with
  | some hab => exact ⟨_, rfl, hab⟩

theorem rel_some_right {o : Option α} {b : β} (h : Option.Rel R o (some b)) :
    ∃ a, o = some a ∧ R a b := by
  cases h with
  | some hab => exact ⟨_, rfl, hab⟩

theorem rel_none_left {o : Option β} (h : Option.Rel R none o) : o = none := by
  cases h
  rfl

theorem rel_none_right {o : Option α} (h : Option.Rel R o none) : o = none := by
  cases h
  rfl

end

/-- First occurrences that correspond one by one. -/
theorem findSome?_rel {α β γ δ : Type} {R : α → β → Prop} {S : γ → δ → Prop} {f : α → Option γ}
    {g : β → Option δ} {l : List α} {l' : List β} (h : List.Forall₂ R l l')
    (each : ∀ a b, R a b → Option.Rel S (f a) (g b)) :
    Option.Rel S (l.findSome? f) (l'.findSome? g) := by
  induction h with
  | nil => exact .none
  | @cons a b l l' hab _ ih =>
    rw [List.findSome?_cons, List.findSome?_cons]
    have := each a b hab
    revert this
    cases f a <;> cases g b <;> intro this <;> cases this
    · exact ih
    · exact .some ‹_›

/-- The first item of a name, when no name is given twice. -/
theorem find?_of_nodup {α : Type} {name : α → String} {l : List α} {a : α} (mem : a ∈ l)
    (distinct : (l.map name).Nodup) : l.find? (name · = name a) = some a := by
  induction l with
  | nil => cases mem
  | cons first rest ih =>
    rw [List.map_cons, List.nodup_cons] at distinct
    rcases List.mem_cons.mp mem with rfl | mem
    · rw [List.find?_cons_of_pos (by simp)]
    · have other : name first ≠ name a := fun e => distinct.1 (e ▸ List.mem_map_of_mem mem)
      rw [List.find?_cons_of_neg (by simpa using other)]
      exact ih mem distinct.2

/-! ## Lists of entries -/

namespace Entries

theorem find?_eq_none {α : Type} {entries : Entries α} {name : String} :
    entries.find? name = none ↔ name ∉ entries.keys := by
  unfold Entries.find? Entries.keys
  rw [List.lookup_eq_none_iff, List.mem_map, not_exists]
  refine forall_congr' fun p => ?_
  rw [bne_iff_ne, not_and]
  exact ⟨fun h mem e => h mem e.symm, fun h mem e => h mem e.symm⟩

theorem find?_of_mem {α : Type} {entries : Entries α} {name : String} {value : α}
    (distinct : entries.keys.Nodup) (mem : (name, value) ∈ entries) :
    entries.find? name = some value := by
  induction entries with
  | nil => cases mem
  | cons entry rest ih =>
    rw [keys, List.map_cons, List.nodup_cons] at distinct
    rw [find?, List.lookup_cons]
    rcases List.mem_cons.mp mem with rfl | mem
    · rw [beq_self_eq_true]
    · have other : name ≠ entry.1 := fun same => distinct.1 (same ▸ List.mem_map_of_mem mem)
      rw [beq_eq_false_iff_ne.mpr other]
      exact ih distinct.2 mem

/-- Entries under other keys are not missed. -/
theorem find?_filter {α : Type} {entries : Entries α} {name key : String} (other : name ≠ key) :
    find? (entries.filter (·.1 ≠ key)) name = entries.find? name := by
  induction entries with
  | nil => rfl
  | cons entry rest ih =>
    unfold find? at ih ⊢
    by_cases same : entry.1 = key
    · have unequal : (name == entry.1) = false := beq_eq_false_iff_ne.mpr (same ▸ other)
      rw [List.filter_cons_of_neg (by simpa using same), ih, List.lookup_cons, unequal]
    · rw [List.filter_cons_of_pos (by simpa using same), List.lookup_cons, List.lookup_cons, ih]

theorem eq_of_find?_singleton {α : Type} {k key : String} {a b : α}
    (h : find? [(k, a)] key = some b) : key = k ∧ b = a := by
  rw [find?, List.lookup_cons] at h
  split at h
  · rename_i hkey
    exact ⟨eq_of_beq hkey, (Option.some.inj h).symm⟩
  · cases h

/-- Entries that agree in their keys and correspond in their values, inserted one after the other,
correspond under each key. -/
theorem find?_ofList_rel {α β : Type} {R : α → β → Prop} {l : List (String × α)}
    {l' : List (String × β)} (h : List.Forall₂ (fun p q => p.1 = q.1 ∧ R p.2 q.2) l l')
    (name : String) : Option.Rel R ((ofList l).find? name) ((ofList l').find? name) := by
  have run : ∀ {l l'}, List.Forall₂ (fun (p : String × α) (q : String × β) =>
        p.1 = q.1 ∧ R p.2 q.2) l l' →
      ∀ (seen : Entries α) (seen' : Entries β),
        Option.Rel R (seen.find? name) (seen'.find? name) →
        Option.Rel R
          (find? (l.foldl (fun seen entry => insert entry.1 entry.2 seen) seen) name)
          (find? (l'.foldl (fun seen entry => insert entry.1 entry.2 seen) seen') name) := by
    intro l l' h
    induction h with
    | nil => exact fun seen seen' hseen => hseen
    | @cons p q l l' hpq _ ih =>
      intro seen seen' hseen
      refine ih _ _ ?_
      rw [find?_insert, find?_insert, hpq.1]
      by_cases hname : name = q.1
      · rw [if_pos hname, if_pos hname]
        exact .some hpq.2
      · rw [if_neg hname, if_neg hname]
        exact hseen
  exact run h [] [] .none

/-- Values that correspond one by one correspond under the same keys. -/
theorem forall₂_zip {α β : Type} {R : α → β → Prop} {l : List α} {l' : List β}
    (h : List.Forall₂ R l l') (keys : List String) :
    List.Forall₂ (fun p q => p.1 = q.1 ∧ R p.2 q.2) (keys.zip l) (keys.zip l') := by
  induction h generalizing keys with
  | nil =>
    rw [List.zip_nil_right, List.zip_nil_right]
    exact .nil
  | cons hab _ ih =>
    cases keys with
    | nil => exact .nil
    | cons key rest => exact .cons ⟨rfl, hab⟩ (ih rest)

theorem mem_of_find?_ofList {α : Type} {l : List (String × α)} {name : String} {value : α}
    (h : (ofList l).find? name = some value) : (name, value) ∈ l := by
  have run : ∀ (l : List (String × α)) (seen : Entries α),
      find? (l.foldl (fun seen entry => insert entry.1 entry.2 seen) seen) name = some value →
      (name, value) ∈ l ∨ seen.find? name = some value := by
    intro l
    induction l with
    | nil => exact fun seen h => .inr h
    | cons entry rest ih =>
      intro seen h
      rcases ih _ h with hmem | hseen
      · exact .inl (.tail _ hmem)
      · rw [find?_insert] at hseen
        split at hseen
        · rename_i hname
          cases hseen
          rw [hname]
          exact .inl (.head _)
        · exact .inr hseen
  rcases run l [] h with hmem | hseen
  · exact hmem
  · cases hseen

theorem nodup_keys_insert {α : Type} {entries : Entries α} (distinct : entries.keys.Nodup)
    (key : String) (value : α) : (keys (insert key value entries)).Nodup := by
  rw [keys_insert]
  split
  case isTrue => exact distinct
  case isFalse fresh => exact List.concat_eq_append ▸ List.Nodup.concat fresh distinct

/-- Inserting never repeats a key. -/
theorem nodup_keys_ofList {α : Type} (l : List (String × α)) : (keys (ofList l)).Nodup := by
  have run : ∀ (l : List (String × α)) (seen : Entries α), seen.keys.Nodup →
      (keys (l.foldl (fun seen entry => insert entry.1 entry.2 seen) seen)).Nodup := by
    intro l
    induction l with
    | nil => exact fun seen distinct => distinct
    | cons entry rest ih => exact fun seen distinct => ih _ (nodup_keys_insert distinct _ _)
  exact run l [] .nil

theorem mem_of_mem_ofList {α : Type} {l : List (String × α)} {entry : String × α}
    (mem : entry ∈ ofList l) : entry ∈ l :=
  mem_of_find?_ofList (find?_of_mem (nodup_keys_ofList l) mem)

/-- Entries under keys without repetition keep their values. -/
theorem find?_ofList {α : Type} (l : List (String × α)) (distinct : (keys l).Nodup)
    (name : String) : (ofList l).find? name = find? l name := by
  -- what has been inserted before counts where the list has nothing
  have run : ∀ (l : List (String × α)) (seen : Entries α), (keys l).Nodup →
      find? (l.foldl (fun seen entry => insert entry.1 entry.2 seen) seen) name =
        (find? l name).or (find? seen name) := by
    intro l
    induction l with
    | nil => exact fun seen _ => rfl
    | cons entry rest ih =>
      intro seen distinct
      obtain ⟨notin, distinct⟩ := List.nodup_cons.mp distinct
      rw [List.foldl_cons, ih _ distinct, find?_insert]
      show _ = (List.lookup name (entry :: rest)).or _
      rw [List.lookup_cons]
      by_cases hname : name = entry.1
      · subst hname
        have none : find? rest entry.1 = none := find?_eq_none.mpr notin
        rw [none, if_pos rfl, beq_self_eq_true]
        rfl
      · rw [if_neg hname, beq_eq_false_iff_ne.mpr hname]
        rfl
  rw [ofList, run l [] distinct]
  exact Option.or_none

theorem nodup_keys_zip {α : Type} {params : List String} (distinct : params.Nodup)
    (values : List α) : (keys (params.zip values)).Nodup := by
  refine distinct.sublist ?_
  show List.Sublist ((params.zip values).map (·.1)) params
  induction params generalizing values with
  | nil => exact .slnil
  | cons param rest ih =>
    cases values with
    | nil => exact List.nil_sublist _
    | cons value values => exact (ih (List.nodup_cons.mp distinct).2 values).cons_cons param

/-! ## Changing each value -/

section

variable {α β : Type}

/-- The entries with each value changed. -/
def mapValues (f : α → β) (entries : Entries α) : Entries β := entries.map fun e => (e.1, f e.2)

theorem find?_mapValues (f : α → β) (entries : Entries α) (key : String) :
    (mapValues f entries).find? key = (entries.find? key).map f := by
  induction entries with
  | nil => rfl
  | cons e rest ih =>
    obtain ⟨k, v⟩ := e
    simp only [find?, mapValues, List.map_cons, List.lookup_cons] at ih ⊢
    cases key == k with
    | true => rfl
    | false => exact ih

theorem insert_mapValues (f : α → β) (key : String) (value : α) (entries : Entries α) :
    insert key (f value) (mapValues f entries) = mapValues f (insert key value entries) := by
  induction entries with
  | nil => rfl
  | cons e rest ih =>
    simp only [mapValues, List.map_cons, insert] at ih ⊢
    split
    · rfl
    · rw [ih, List.map_cons]

theorem ofList_mapValues (f : α → β) (list : List (String × α)) :
    ofList (list.map fun e => (e.1, f e.2)) = mapValues f (ofList list) := by
  have run : ∀ seen : Entries α,
      (list.map fun e => (e.1, f e.2)).foldl (fun seen e => insert e.1 e.2 seen)
        (mapValues f seen) =
      mapValues f (list.foldl (fun seen e => insert e.1 e.2 seen) seen) := by
    induction list with
    | nil => exact fun seen => rfl
    | cons e rest ih =>
      intro seen
      simp only [List.map_cons, List.foldl_cons, insert_mapValues]
      exact ih _
  exact run []

end

end Entries

end SchemaDialogue
