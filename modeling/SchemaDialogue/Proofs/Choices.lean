import SchemaDialogue.Proofs.Entries
import SchemaDialogue.Proofs.Verdict

/-!
# The values that a union lists

A value that is rejected by a union of literals is told all values that the union accepts. They are
gathered by a search of their own, which goes through inner unions and aliases like the check does
and uses up expansions like the check does:

* **literals**: a literal admits its own value, numbers included (`Literal.admits_toJson`), since
  each integer of 64 bits has a nearest finite double;
* **search**: there is a list exactly for the types that are made of literals with no more
  expansions than are left (`Enumerable`, `exists_literalChoices_iff`);
* **agreement**: the union accepts what one of the listed literals admits, with the same expansions
  left (`check_union_of_literalChoices`).

Together they say that the list is the truth (`literalChoices_exact`).
-/

namespace SchemaDialogue

/-! ## Literals and their values -/

namespace Binary64

theorem roundHalfEven_le (num den : Nat) : roundHalfEven num den ≤ num / den + 1 := by
  unfold roundHalfEven
  dsimp only
  split
  · omega
  · split <;> omega

theorem log2_mul_two_pow_le {n a : Nat} (h : n ≤ 2 ^ a) (b : Nat) :
    Nat.log2 (n * 2 ^ b) ≤ a + b := by
  by_cases zero : n * 2 ^ b = 0
  · rw [zero, Nat.log2_zero]
    exact Nat.zero_le _
  · apply Nat.le_of_lt_succ
    rw [Nat.log2_lt zero]
    calc n * 2 ^ b ≤ 2 ^ a * 2 ^ b := Nat.mul_le_mul_right _ h
      _ = 2 ^ (a + b) := (Nat.pow_add 2 a b).symm
      _ < 2 ^ (a + b + 1) := Nat.pow_lt_pow_succ (by decide)

/-- An integer of 64 bits is far below the end of the doubles. -/
theorem nearestRank_lt {n : Nat} (h : n ≤ 2 ^ 64) :
    nearestRank (n * 2 ^ 1074) 1 < 2047 * 2 ^ 52 := by
  have exponent : Nat.log2 (n * 2 ^ 1074) ≤ 64 + 1074 := log2_mul_two_pow_le h 1074
  generalize n * 2 ^ 1074 = num at exponent ⊢
  unfold nearestRank
  dsimp only
  rw [Nat.div_one, Nat.one_mul]
  -- what is left after the shift has at most 53 bits
  have mantissa : num / 2 ^ (Nat.log2 num - 52) < 2 ^ 53 := by
    apply Nat.div_lt_of_lt_mul
    rw [← Nat.pow_add]
    calc num < 2 ^ (Nat.log2 num + 1) := Nat.lt_log2_self
      _ ≤ 2 ^ (Nat.log2 num - 52 + 53) := Nat.pow_le_pow_right (by decide) (by omega)
  have rounded := roundHalfEven_le num (2 ^ (Nat.log2 num - 52))
  have block : (Nat.log2 num - 52) * 2 ^ 52 ≤ 1086 * 2 ^ 52 :=
    Nat.mul_le_mul_right _ (by omega)
  omega

theorem numEq_self (x : Binary64) : x.numEq x = true := by
  simp [numEq]

end Binary64

/-- Each integer of 64 bits has a nearest double. -/
theorem WideInt.exists_ofInt? (n : WideInt) : ∃ x, Binary64.ofInt? n.value = some x := by
  have bound : n.value.natAbs ≤ 2 ^ 64 := by
    have lower := n.lower
    have upper := n.upper
    omega
  exact ⟨_, dif_pos (Binary64.nearestRank_lt bound)⟩

theorem Number.matchesValue_self (n : Number) : n.matchesValue n = true := by
  obtain ⟨x, double⟩ : ∃ x, n.toBinary64? = some x := by
    cases n with
    | integer n => exact n.exists_ofInt?
    | real x => exact ⟨x, rfl⟩
  rw [matchesValue, double]
  exact x.numEq_self

/-- A literal admits its own value. -/
theorem Literal.admits_toJson (l : Literal) : l.admits l.toJson = true := by
  cases l with
  | null => rfl
  | bool b => exact beq_self_eq_true b
  | number n => exact n.matchesValue_self
  | string s => exact beq_self_eq_true s

/-! ## The search -/

/-- Going through a list succeeds exactly when each item does. -/
theorem mapM_eq_some_iff {α β : Type} {f : α → Option β} {l : List α} {results : List β} :
    l.mapM f = some results ↔ List.Forall₂ (fun a b => f a = some b) l results := by
  induction l generalizing results with
  | nil => simp [eq_comm]
  | cons a rest ih =>
    rw [List.mapM_cons]
    cases results with
    | nil => cases f a <;> cases rest.mapM f <;> simp
    | cons b others =>
      rw [List.forall₂_cons, ← ih]
      cases f a <;> cases rest.mapM f <;> simp

/-- The type is a literal type, `null`, or a union or an alias of such types, with at most `left`
expansions one inside of the other. -/
inductive Enumerable (source : Registry) : Nat → Scope → TypeExpr → Prop
  | literal {left scope t choices} : t.unwrapped = .literal choices → Enumerable source left scope t
  | null {left scope t} : t.unwrapped = .null → Enumerable source left scope t
  | union {left scope t members} : t.unwrapped = .union members →
      (∀ m ∈ members, Enumerable source left scope m) → Enumerable source (left + 1) scope t
  | aliased {left scope t key args a} : t.unwrapped = .named key args →
      source.lookup key = some (.aliased a) →
      Enumerable source left (scope.enter a.typeParams args) a.target →
      Enumerable source (left + 1) scope t

namespace Registry

variable {source : Registry} {left : Nat} {scope : Scope} {members : List TypeExpr}

/-- What the search gathers from one member of a union. -/
def memberChoices (source : Registry) (left : Nat) (scope : Scope) (member : TypeExpr) :
    Option (List Json) :=
  match member.unwrapped with
  | .literal choices => some (choices.map Literal.toJson)
  | .null => some [.null]
  | .union inner => source.literalChoices left scope inner
  | .named key args =>
    match source.lookup key with
    | some (.aliased a) => source.literalChoices left (scope.enter a.typeParams args) [a.target]
    | _ => none
  | _ => none

/-- The list of a union is made of what each member gives. -/
theorem literalChoices_eq_some {choices : List Json} :
    source.literalChoices (left + 1) scope members = some choices ↔
      ∃ found, List.Forall₂ (fun m cs => source.memberChoices left scope m = some cs) members
        found ∧ found.flatten = choices := by
  rw [literalChoices]
  show (members.mapM (source.memberChoices left scope)).bind (fun found => some found.flatten) =
    some choices ↔ _
  simp only [Option.bind_eq_some_iff, mapM_eq_some_iff, Option.some.injEq]

theorem enumerable_union_succ :
    Enumerable source (left + 1) scope (.union members) ↔
      ∀ m ∈ members, Enumerable source left scope m := by
  constructor
  · intro h
    cases h with
    | literal same => cases same
    | null same => cases same
    | union same each =>
      cases same
      exact each
    | aliased same _ _ => cases same
  · exact .union rfl

theorem not_enumerable_union_zero : ¬Enumerable source 0 scope (.union members) := by
  intro h
  cases h with
  | literal same => cases same
  | null same => cases same

/-- The search has a list for a member exactly when it is made of literals, provided that it has
one for unions with the expansions that are left. -/
theorem exists_memberChoices_iff
    (ih : ∀ scope members, (∃ choices, source.literalChoices left scope members = some choices) ↔
      Enumerable source left scope (.union members)) (m : TypeExpr) :
    (∃ choices, source.memberChoices left scope m = some choices) ↔
      Enumerable source left scope m := by
  constructor
  · rintro ⟨choices, found⟩
    unfold memberChoices at found
    split at found
    · exact .literal ‹_›
    · exact .null ‹_›
    · rename_i inner same
      have listed := (ih scope inner).mp ⟨choices, found⟩
      cases left with
      | zero => exact absurd listed not_enumerable_union_zero
      | succ left => exact .union same (enumerable_union_succ.mp listed)
    · rename_i key args same
      split at found
      · rename_i a lookup
        have listed := (ih _ [a.target]).mp ⟨choices, found⟩
        cases left with
        | zero => exact absurd listed not_enumerable_union_zero
        | succ left =>
          exact .aliased same lookup (enumerable_union_succ.mp listed a.target (.head _))
      · cases found
    · cases found
  · intro listed
    unfold memberChoices
    cases listed with
    | literal same =>
      rw [same]
      exact ⟨_, rfl⟩
    | null same =>
      rw [same]
      exact ⟨_, rfl⟩
    | union same each =>
      rw [same]
      exact (ih scope _).mpr (enumerable_union_succ.mpr each)
    | @aliased _ _ _ key args a same lookup target =>
      rw [same]
      dsimp only
      rw [lookup]
      refine (ih _ [a.target]).mpr (enumerable_union_succ.mpr fun m mem => ?_)
      rw [List.mem_singleton.mp mem]
      exact target

/-- A union has a list exactly when it is made of literals within the expansions that are left. -/
theorem exists_literalChoices_iff (left : Nat) (scope : Scope) (members : List TypeExpr) :
    (∃ choices, source.literalChoices left scope members = some choices) ↔
      Enumerable source left scope (.union members) := by
  induction left generalizing scope members with
  | zero =>
    rw [literalChoices]
    exact iff_of_false (fun ⟨_, same⟩ => nomatch same) not_enumerable_union_zero
  | succ left ih =>
    have each : (∃ found, List.Forall₂ (fun m cs => source.memberChoices left scope m = some cs)
        members found) ↔ ∀ m ∈ members, Enumerable source left scope m := by
      induction members with
      | nil => simp
      | cons m rest others =>
        rw [List.forall_mem_cons, ← others, ← exists_memberChoices_iff ih]
        constructor
        · rintro ⟨_, first | ⟨here, there⟩⟩
          exact ⟨⟨_, here⟩, _, there⟩
        · rintro ⟨⟨cs, here⟩, found, there⟩
          exact ⟨cs :: found, .cons here there⟩
    rw [enumerable_union_succ, ← each]
    constructor
    · rintro ⟨choices, list⟩
      obtain ⟨found, each, _⟩ := literalChoices_eq_some.mp list
      exact ⟨found, each⟩
    · rintro ⟨found, each⟩
      exact ⟨_, literalChoices_eq_some.mpr ⟨found, each, rfl⟩⟩

/-! ## Agreement with the check -/

/-- The choices are the values of literals, and what is accepted is what one of these admits. -/
def ListsAccepted (accepts : Json → Prop) (choices : List Json) : Prop :=
  ∃ literals : List Literal, literals.map Literal.toJson = choices ∧
    ∀ value, accepts value ↔ ∃ l ∈ literals, l.admits value = true

/-- The lists of several tests make a list of what some of the tests accept. -/
theorem ListsAccepted.flatten {accepts : TypeExpr → Json → Prop} {found : List (List Json)}
    (each : List.Forall₂ (fun m choices => ListsAccepted (accepts m) choices) members found) :
    ListsAccepted (fun value => ∃ m ∈ members, accepts m value) found.flatten := by
  induction each with
  | nil => exact ⟨[], rfl, by simp⟩
  | cons here _ there =>
    obtain ⟨first, same, agrees⟩ := here
    obtain ⟨others, same', agrees'⟩ := there
    refine ⟨first ++ others, ?_, fun value => ?_⟩
    · rw [List.map_append, same, same', List.flatten_cons]
    · dsimp only at agrees' ⊢
      rw [List.exists_mem_cons_iff, agrees, agrees']
      simp only [List.mem_append, or_and_right, exists_or]

theorem check_unwrapped (t : TypeExpr) (value : Json) :
    source.check scope left t.unwrapped value = source.check scope left t value := by
  induction t using TypeExpr.unwrapped.induct with
  | case1 inner ih => rw [TypeExpr.unwrapped, ih, check_required]
  | case2 inner ih => rw [TypeExpr.unwrapped, ih, check_notRequired]
  | case3 doc inner ih => rw [TypeExpr.unwrapped, ih, check_documented]
  | case4 t => rw [TypeExpr.unwrapped] <;> assumption

/-- What a member gives lists what the check of the member accepts with the same expansions left,
provided that this holds of unions. -/
theorem listsAccepted_memberChoices
    (ih : ∀ scope members choices, source.literalChoices left scope members = some choices →
      ListsAccepted (fun v => source.check scope left (.union members) v = []) choices)
    {m : TypeExpr} {choices : List Json}
    (found : source.memberChoices left scope m = some choices) :
    ListsAccepted (fun v => source.check scope left m v = []) choices := by
  simp only [← check_unwrapped m]
  unfold memberChoices at found
  split at found
  · rename_i literals same
    cases found
    rw [same]
    exact ⟨literals, rfl, fun value => check_literal_eq_nil⟩
  · rename_i same
    cases found
    rw [same]
    refine ⟨[.null], rfl, fun value => check_null_eq_nil.trans ?_⟩
    cases value <;> simp [Literal.admits]
  · rename_i inner same
    rw [same]
    exact ih scope inner choices found
  · rename_i key args same
    rw [same]
    split at found
    · rename_i a lookup
      -- an alias is searched as a union of its target, which takes the same step to the target
      have listed := ih _ [a.target] choices found
      cases left with
      | zero => cases found
      | succ left =>
        simp only [check_aliased lookup]
        simpa only [check_union_eq_nil, Nat.add_sub_cancel, List.mem_singleton, exists_eq_left]
          using listed
    · cases found
  · cases found

/-- The list of a union is the list of what the union accepts. -/
theorem check_union_of_literalChoices (left : Nat) (scope : Scope) (members : List TypeExpr)
    (choices : List Json) (list : source.literalChoices left scope members = some choices) :
    ListsAccepted (fun v => source.check scope left (.union members) v = []) choices := by
  induction left generalizing scope members choices with
  | zero => cases list
  | succ left ih =>
    obtain ⟨found, each, rfl⟩ := literalChoices_eq_some.mp list
    simp only [check_union_eq_nil, Nat.add_sub_cancel]
    exact ListsAccepted.flatten (each.imp fun m choices => listsAccepted_memberChoices ih)

/-- A value that the union rejects is told the list, and nothing else. -/
theorem check_union_of_rejected_literals {choices : List Json} {value : Json}
    (list : source.literalChoices left scope members = some choices)
    (rejected : source.check scope left (.union members) value ≠ []) :
    source.check scope left (.union members) value = [.here value (.notAmong choices)] := by
  rw [check] at rejected ⊢
  split at rejected
  · rw [settleUnion, list]
  · exact absurd rfl rejected

/-- **The choices that are reported are the truth.** The union has a list exactly when it is made of
literals, `null`, unions and aliases of those within the expansions that are left. Then, with the
same expansions left, every listed value is accepted; every accepted value is equal to one that is
listed; and every other value is told the list. -/
theorem literalChoices_exact (source : Registry) (left : Nat) (scope : Scope)
    (members : List TypeExpr) :
    ((∃ choices, source.literalChoices left scope members = some choices) ↔
      Enumerable source left scope (.union members)) ∧
    ∀ choices, source.literalChoices left scope members = some choices →
      (∀ value ∈ choices, source.check scope left (.union members) value = []) ∧
      (∀ value, source.check scope left (.union members) value = [] →
        ∃ l : Literal, l.toJson ∈ choices ∧ l.admits value = true) ∧
      ∀ value, source.check scope left (.union members) value ≠ [] →
        source.check scope left (.union members) value = [.here value (.notAmong choices)] := by
  refine ⟨exists_literalChoices_iff left scope members, fun choices list => ?_⟩
  obtain ⟨literals, rfl, agrees⟩ := check_union_of_literalChoices left scope members _ list
  refine ⟨?_, ?_, fun value => check_union_of_rejected_literals list⟩
  · intro value mem
    obtain ⟨l, listed, rfl⟩ := List.mem_map.mp mem
    exact (agrees _).mpr ⟨l, listed, l.admits_toJson⟩
  · intro value accepted
    obtain ⟨l, listed, admits⟩ := (agrees value).mp accepted
    exact ⟨l, List.mem_map_of_mem listed, admits⟩

/-- A level, whatever its parameter, and a rank that is a level or nothing. -/
def ranks : Registry :=
  let level : AliasDef :=
    { name := "Level", typeParams := ["T"], target := .literal [.string "low", .string "high"] }
  let rank : AliasDef := { name := "Rank", target := .union [.named "Level" [.string], .null] }
  ⟨[("Level", .aliased level), ("Rank", .aliased rank)], []⟩

/-- Four expansions are just enough to list the ranks and the literal beside them. -/
theorem literalChoices_ranks :
    let members := [.documented "how far up" (.named "Rank" []), .literal [.bool false]]
    let choices := [.string "low", .string "high", .null, .bool false]
    ranks.literalChoices 3 .empty members = none ∧
      ranks.literalChoices 4 .empty members = some choices ∧
      ranks.check .empty 4 (.union members) (.string "high") = [] ∧
      ranks.check .empty 4 (.union members) (.bool true) =
        [.here (.bool true) (.notAmong choices)] := by
  intro members choices
  have list : ranks.literalChoices 4 .empty members = some choices := rfl
  obtain ⟨accepted, only, told⟩ := (literalChoices_exact ranks 4 .empty members).2 choices list
  refine ⟨rfl, list, accepted _ (.tail _ (.head _)), told _ fun none => ?_⟩
  obtain ⟨l, listed, admits⟩ := only _ none
  cases l with
  | bool b =>
    cases b with
    | false => cases admits
    | true => simp [choices, Literal.toJson] at listed
  | _ => cases admits

end Registry

end SchemaDialogue
