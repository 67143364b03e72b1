import SchemaDialogue.Proofs.Choices
import SchemaDialogue.Proofs.Expansion
import SchemaDialogue.Proofs.IntegerLiterals

/-!
# Integers among the choices of a literal type

Numbers are compared as doubles, of which 2⁵³ is the first beyond which not every integer is one:

* **rounding**: an integer below 2⁵³ is its double exactly, and the double of every other integer is
  beyond those (`integerRank_eq_iff`); so two integers are told apart unless both are beyond
  (`Number.matchesValue_integer`);
* **search**: a type that stands for literal types, through unions, aliases and parameters, accepts
  what one of the literals in reach admits, as long as the expansions suffice
  (`check_eq_nil_iff_inReach`).

Together they say which integers such a type accepts (`findings_integer`).
-/

namespace SchemaDialogue

/-! ## The doubles of natural numbers -/

namespace Binary64

theorem log2_mul_two_pow {n : Nat} (pos : n ≠ 0) (k : Nat) :
    Nat.log2 (n * 2 ^ k) = Nat.log2 n + k := by
  have low : 2 ^ Nat.log2 n ≤ n := Nat.log2_self_le pos
  have high : n < 2 ^ (Nat.log2 n + 1) := Nat.lt_log2_self
  have positive : 0 < 2 ^ k := Nat.two_pow_pos k
  rw [Nat.log2_eq_iff (Nat.mul_ne_zero pos (by omega)), Nat.add_right_comm, Nat.pow_add,
    Nat.pow_add _ _ k]
  exact ⟨Nat.mul_le_mul_right _ low, Nat.mul_lt_mul_of_pos_right high positive⟩

/-- What is divided without a rest is not rounded. -/
theorem roundHalfEven_mul (m : Nat) {den : Nat} (pos : 0 < den) :
    roundHalfEven (m * den) den = m := by
  simp [roundHalfEven, pos]

theorem le_roundHalfEven (num den : Nat) : num / den ≤ roundHalfEven num den := by
  unfold roundHalfEven
  dsimp only
  split
  · omega
  · split <;> omega

/-- The bits of a natural number below 2⁵³, from its first one on. -/
theorem mantissa_bounds {n : Nat} (pos : n ≠ 0) (small : n < 2 ^ 53) :
    2 ^ 52 ≤ n * 2 ^ (52 - Nat.log2 n) ∧ n * 2 ^ (52 - Nat.log2 n) < 2 ^ 53 := by
  have bits : Nat.log2 n < 53 := (Nat.log2_lt pos).mpr small
  have low : 2 ^ Nat.log2 n ≤ n := Nat.log2_self_le pos
  have high : n < 2 ^ (Nat.log2 n + 1) := Nat.lt_log2_self
  constructor
  · calc 2 ^ 52 = 2 ^ Nat.log2 n * 2 ^ (52 - Nat.log2 n) := by
          rw [← Nat.pow_add]
          congr 1
          omega
      _ ≤ n * 2 ^ (52 - Nat.log2 n) := Nat.mul_le_mul_right _ low
  · calc n * 2 ^ (52 - Nat.log2 n) < 2 ^ (Nat.log2 n + 1) * 2 ^ (52 - Nat.log2 n) :=
          Nat.mul_lt_mul_of_pos_right high (Nat.two_pow_pos _)
      _ = 2 ^ 53 := by
          rw [← Nat.pow_add]
          congr 1
          omega

/-! The integers are the multiples of a power of two, as many units as a whole one has. -/

section

variable {n a b scale : Nat} (fine : 52 ≤ scale)
include fine

theorem shift_eq (pos : n ≠ 0) :
    Nat.log2 (n * 2 ^ scale / 1) - 52 = Nat.log2 n + (scale - 52) := by
  rw [Nat.div_one, log2_mul_two_pow pos]
  omega

/-- After the shift 52 bits are left behind the first one. -/
theorem scaled_eq (small : n < 2 ^ 53) :
    n * 2 ^ scale = n * 2 ^ (52 - Nat.log2 n) * 2 ^ (Nat.log2 n + (scale - 52)) := by
  have bits : Nat.log2 n ≤ 52 := by
    by_cases pos : n = 0
    · simp [pos]
    · have := (Nat.log2_lt pos).mpr small
      omega
  rw [Nat.mul_assoc, ← Nat.pow_add]
  congr 2
  omega

/-- The rank of an integer that is a double says where its first bit is and what its bits are. -/
theorem nearestRank_of_lt (pos : n ≠ 0) (small : n < 2 ^ 53) :
    nearestRank (n * 2 ^ scale) 1 =
      (Nat.log2 n + (scale - 52)) * 2 ^ 52 + n * 2 ^ (52 - Nat.log2 n) := by
  rw [nearestRank, shift_eq fine pos, Nat.one_mul, scaled_eq fine small,
    roundHalfEven_mul _ (Nat.two_pow_pos _)]

/-- An integer below 2⁵³ is a double. -/
theorem unitsOfRank_nearestRank (small : n < 2 ^ 53) :
    unitsOfRank (nearestRank (n * 2 ^ scale) 1) = n * 2 ^ scale := by
  by_cases pos : n = 0
  · simp [pos, nearestRank, roundHalfEven, unitsOfRank]
  obtain ⟨low, high⟩ := mantissa_bounds pos small
  rw [nearestRank_of_lt fine pos small, scaled_eq fine small]
  generalize n * 2 ^ (52 - Nat.log2 n) = mantissa at low high ⊢
  generalize Nat.log2 n + (scale - 52) = shift
  have normal : ¬shift * 2 ^ 52 + mantissa < 2 ^ 52 := by omega
  have block : (shift * 2 ^ 52 + mantissa) / 2 ^ 52 - 1 = shift := by omega
  have rest : 2 ^ 52 + (shift * 2 ^ 52 + mantissa) % 2 ^ 52 = mantissa := by omega
  rw [unitsOfRank, if_neg normal, block, rest]

theorem nearestRank_lt_of_lt (small : n < 2 ^ 53) :
    nearestRank (n * 2 ^ scale) 1 < (scale + 2) * 2 ^ 52 := by
  by_cases pos : n = 0
  · simp [pos, nearestRank, roundHalfEven]
  have bits : Nat.log2 n < 53 := (Nat.log2_lt pos).mpr small
  have mantissa := (mantissa_bounds pos small).2
  rw [nearestRank_of_lt fine pos small]
  omega

theorem le_nearestRank_of_le (large : 2 ^ 53 ≤ n) :
    (scale + 2) * 2 ^ 52 ≤ nearestRank (n * 2 ^ scale) 1 := by
  have pos : n ≠ 0 := by omega
  have bits : 53 ≤ Nat.log2 n := (Nat.le_log2 pos).mpr large
  have low : 2 ^ Nat.log2 n ≤ n := Nat.log2_self_le pos
  have mantissa : 2 ^ 52 ≤ n * 2 ^ scale / 2 ^ (Nat.log2 n + (scale - 52)) := by
    rw [Nat.le_div_iff_mul_le (Nat.two_pow_pos _)]
    calc 2 ^ 52 * 2 ^ (Nat.log2 n + (scale - 52)) = 2 ^ Nat.log2 n * 2 ^ scale := by
          rw [← Nat.pow_add, ← Nat.pow_add]
          congr 1
          omega
      _ ≤ n * 2 ^ scale := Nat.mul_le_mul_right _ low
  have rounded := le_roundHalfEven (n * 2 ^ scale) (2 ^ (Nat.log2 n + (scale - 52)))
  rw [nearestRank, shift_eq fine pos, Nat.one_mul]
  omega

/-- Integers have one double only if they are equal, or if both are beyond 2⁵³. -/
theorem nearestRank_eq_iff (small : a < 2 ^ 53 ∨ b < 2 ^ 53) :
    nearestRank (a * 2 ^ scale) 1 = nearestRank (b * 2 ^ scale) 1 ↔ a = b := by
  refine ⟨fun same => ?_, fun same => by rw [same]⟩
  -- the ranks below 2⁵³ are apart from those beyond, so that one small number makes both small
  by_cases smallA : a < 2 ^ 53
  case neg =>
    have below := nearestRank_lt_of_lt fine (small.resolve_left smallA)
    have beyond := le_nearestRank_of_le fine (Nat.not_lt.mp smallA)
    omega
  by_cases smallB : b < 2 ^ 53
  case neg =>
    have below := nearestRank_lt_of_lt fine smallA
    have beyond := le_nearestRank_of_le fine (Nat.not_lt.mp smallB)
    omega
  have units : a * 2 ^ scale = b * 2 ^ scale := by
    rw [← unitsOfRank_nearestRank fine smallA, ← unitsOfRank_nearestRank fine smallB, same]
  exact Nat.eq_of_mul_eq_mul_right (Nat.two_pow_pos scale) units

theorem nearestRank_eq_zero_iff : nearestRank (n * 2 ^ scale) 1 = 0 ↔ n = 0 := by
  have zero : nearestRank (0 * 2 ^ scale) 1 = 0 := by
    rw [Nat.zero_mul]
    rfl
  have onlyZero := nearestRank_eq_iff (a := n) (b := 0) fine (.inr (Nat.two_pow_pos 53))
  rwa [zero] at onlyZero

end

/-- The double nearest to an integer has its sign, and the rank nearest to its magnitude. -/
theorem of_ofInt? {n : Int} {x : Binary64} (double : ofInt? n = some x) :
    x.negative = decide (n < 0) ∧ x.rank = nearestRank (n.natAbs * 2 ^ 1074) 1 := by
  obtain ⟨_, same⟩ := Option.dite_none_right_eq_some.mp double
  cases same
  exact ⟨rfl, rfl⟩

/-- An integer whose double is zero is not negative. -/
theorem negative_of_ofInt? {n : Int} {x : Binary64} (double : ofInt? n = some x)
    (zero : x.rank = 0) : x.negative = false := by
  obtain ⟨sign, rank⟩ := of_ofInt? double
  have magnitude : n.natAbs = 0 :=
    (nearestRank_eq_zero_iff (by decide)).mp (rank.symm.trans zero)
  rw [sign, decide_eq_false_iff_not]
  omega

theorem ext {x y : Binary64} (sign : x.negative = y.negative) (rank : x.rank = y.rank) : x = y := by
  cases x
  cases y
  cases sign
  cases rank
  rfl

end Binary64

/-- Integers are matched as equal exactly if they have one double; no integer has the double of
zero below zero. -/
theorem Number.matchesValue_integer (a b : WideInt) :
    (Number.integer a).matchesValue (.integer b) = true ↔
      Binary64.ofInt? a.value = Binary64.ofInt? b.value := by
  obtain ⟨x, double⟩ := a.exists_ofInt?
  obtain ⟨y, double'⟩ := b.exists_ofInt?
  have compared : (Number.integer a).matchesValue (.integer b) = x.numEq y := by
    rw [matchesValue, toBinary64?, toBinary64?, double, double']
  rw [compared, double, double', Option.some.injEq]
  constructor
  · intro equal
    simp only [Binary64.numEq, Bool.and_eq_true, Bool.or_eq_true, beq_iff_eq] at equal
    obtain ⟨rank, zero | sign⟩ := equal
    · -- two zeros are equal whatever their signs, but an integer gives the positive one
      have signX := Binary64.negative_of_ofInt? double zero
      have signY := Binary64.negative_of_ofInt? double' (rank ▸ zero)
      exact Binary64.ext (signX.trans signY.symm) rank
    · exact Binary64.ext sign rank
  · rintro rfl
    exact x.numEq_self

/-- Integers have one double only if they are equal, or if both are beyond 2⁵³. -/
theorem WideInt.value_eq_of_ofInt?_eq {a b : WideInt}
    (same : Binary64.ofInt? a.value = Binary64.ofInt? b.value)
    (small : a.value.natAbs < 2 ^ 53 ∨ b.value.natAbs < 2 ^ 53) : a.value = b.value := by
  obtain ⟨x, double⟩ := a.exists_ofInt?
  obtain ⟨signA, rankA⟩ := Binary64.of_ofInt? double
  obtain ⟨signB, rankB⟩ := Binary64.of_ofInt? (same ▸ double)
  have magnitude : a.value.natAbs = b.value.natAbs :=
    (Binary64.nearestRank_eq_iff (by decide) small).mp (rankA.symm.trans rankB)
  have sign : a.value < 0 ↔ b.value < 0 := decide_eq_decide.mp (signA.symm.trans signB)
  omega

/-! ## Literals in reach -/

/-- The literal is a choice of a literal type that a chain of expansions leads to. -/
def InReach (source : Registry) (scope : Scope) (t : TypeExpr) (l : Literal) : Prop :=
  ∃ n inner choices, Expands source n scope t inner (.literal choices) ∧ l ∈ choices

/-- The type stands for literal types only, and every alias on the way is come to while an expansion
is left for it. -/
inductive OfLiterals (source : Registry) : Nat → Scope → TypeExpr → Prop
  | literal {left scope choices} : OfLiterals source left scope (.literal choices)
  | required {left scope inner} : OfLiterals source left scope inner →
      OfLiterals source left scope (.required inner)
  | notRequired {left scope inner} : OfLiterals source left scope inner →
      OfLiterals source left scope (.notRequired inner)
  | documented {left scope doc inner} : OfLiterals source left scope inner →
      OfLiterals source left scope (.documented doc inner)
  | self {left scope this} : scope.this = some this →
      OfLiterals source (left - 1) scope this.1 → OfLiterals source left scope .self
  | var {left scope name bound} : scope.bindings.find? name = some bound →
      OfLiterals source (left - 1) scope bound.1 → OfLiterals source left scope (.var name)
  | union {left scope members} : (∀ m ∈ members, OfLiterals source (left - 1) scope m) →
      OfLiterals source left scope (.union members)
  | aliased {left scope key args a} : source.lookup key = some (.aliased a) →
      OfLiterals source left (scope.enter a.typeParams args) a.target →
      OfLiterals source (left + 1) scope (.named key args)

section

variable {source : Registry} {scope : Scope} {l : Literal}

theorem inReach_literal {choices : List Literal} :
    InReach source scope (.literal choices) l ↔ l ∈ choices := by
  constructor
  · rintro ⟨_, _, _, chain, mem⟩
    cases chain with
    | refl => exact mem
  · exact fun mem => ⟨0, scope, choices, .refl, mem⟩

theorem inReach_required {inner : TypeExpr} :
    InReach source scope (.required inner) l ↔ InReach source scope inner l := by
  constructor
  · rintro ⟨n, place, choices, chain, mem⟩
    cases chain with
    | required chain => exact ⟨n, place, choices, chain, mem⟩
  · exact fun ⟨n, place, choices, chain, mem⟩ => ⟨n, place, choices, .required chain, mem⟩

theorem inReach_notRequired {inner : TypeExpr} :
    InReach source scope (.notRequired inner) l ↔ InReach source scope inner l := by
  constructor
  · rintro ⟨n, place, choices, chain, mem⟩
    cases chain with
    | notRequired chain => exact ⟨n, place, choices, chain, mem⟩
  · exact fun ⟨n, place, choices, chain, mem⟩ => ⟨n, place, choices, .notRequired chain, mem⟩

theorem inReach_documented {doc : String} {inner : TypeExpr} :
    InReach source scope (.documented doc inner) l ↔ InReach source scope inner l := by
  constructor
  · rintro ⟨n, place, choices, chain, mem⟩
    cases chain with
    | documented chain => exact ⟨n, place, choices, chain, mem⟩
  · exact fun ⟨n, place, choices, chain, mem⟩ => ⟨n, place, choices, .documented chain, mem⟩

theorem inReach_self {this : ClosedType} (h : scope.this = some this) :
    InReach source scope .self l ↔ InReach source scope this.1 l := by
  constructor
  · rintro ⟨_, place, choices, chain, mem⟩
    cases chain with
    | self h' chain =>
      cases h.symm.trans h'
      exact ⟨_, place, choices, chain, mem⟩
  · exact fun ⟨n, place, choices, chain, mem⟩ => ⟨n + 1, place, choices, .self h chain, mem⟩

theorem inReach_var {name : String} {bound : ClosedType}
    (h : scope.bindings.find? name = some bound) :
    InReach source scope (.var name) l ↔ InReach source scope bound.1 l := by
  constructor
  · rintro ⟨_, place, choices, chain, mem⟩
    cases chain with
    | var h' chain =>
      cases h.symm.trans h'
      exact ⟨_, place, choices, chain, mem⟩
  · exact fun ⟨n, place, choices, chain, mem⟩ => ⟨n + 1, place, choices, .var h chain, mem⟩

theorem inReach_union {members : List TypeExpr} :
    InReach source scope (.union members) l ↔ ∃ m ∈ members, InReach source scope m l := by
  constructor
  · rintro ⟨_, place, choices, chain, mem⟩
    cases chain with
    | union member chain => exact ⟨_, member, _, place, choices, chain, mem⟩
  · exact fun ⟨m, member, n, place, choices, chain, mem⟩ =>
      ⟨n + 1, place, choices, .union member chain, mem⟩

theorem inReach_aliased {key : TypeKey} {args : List TypeExpr} {a : AliasDef}
    (h : source.lookup key = some (.aliased a)) :
    InReach source scope (.named key args) l ↔
      InReach source (scope.enter a.typeParams args) a.target l := by
  constructor
  · rintro ⟨_, place, choices, chain, mem⟩
    cases chain with
    | aliased h' chain =>
      cases h.symm.trans h'
      exact ⟨_, place, choices, chain, mem⟩
  · exact fun ⟨n, place, choices, chain, mem⟩ => ⟨n + 1, place, choices, .aliased h chain, mem⟩

namespace Registry

/-- A type that stands for literal types accepts what one of the literals in reach admits. -/
theorem check_eq_nil_iff_inReach {left : Nat} {t : TypeExpr}
    (made : OfLiterals source left scope t) (value : Json) :
    source.check scope left t value = [] ↔
      ∃ l, InReach source scope t l ∧ l.admits value = true := by
  induction made with
  | literal => simp only [check_literal_eq_nil, inReach_literal]
  | required _ ih => simp only [check_required, inReach_required, ih]
  | notRequired _ ih => simp only [check_notRequired, inReach_notRequired, ih]
  | documented _ ih => simp only [check_documented, inReach_documented, ih]
  | self h _ ih => simp only [check_self_of_some h, inReach_self h, ih]
  | var h _ ih => simp only [check_var_of_some h, inReach_var h, ih]
  | union _ ih =>
    simp only [check_union_eq_nil, inReach_union]
    constructor
    · rintro ⟨m, member, nothing⟩
      obtain ⟨l, reach, admits⟩ := (ih m member).mp nothing
      exact ⟨l, ⟨m, member, reach⟩, admits⟩
    · rintro ⟨l, ⟨m, member, reach⟩, admits⟩
      exact ⟨m, member, (ih m member).mpr ⟨l, reach, admits⟩⟩
  | aliased h _ ih => simp only [check_aliased h, inReach_aliased h, ih]

/-- Among integral literals an integer is accepted exactly if one of them has its double. -/
theorem findings_integer_iff {t : TypeExpr} (made : OfLiterals source expansionLimit .empty t)
    (integral : ∀ l, InReach source .empty t l → l.isIntegral = true) (n : WideInt) :
    source.findings t (.number (.integer n)) = [] ↔
      ∃ c : WideInt, InReach source .empty t (.number (.integer c)) ∧
        Binary64.ofInt? c.value = Binary64.ofInt? n.value := by
  rw [findings, check_eq_nil_iff_inReach made]
  constructor
  · rintro ⟨l, reach, admits⟩
    cases l with
    | number m =>
      cases m with
      | integer c => exact ⟨c, reach, (Number.matchesValue_integer c n).mp admits⟩
      | real x => cases integral _ reach
    | _ => cases admits
  · rintro ⟨c, reach, same⟩
    exact ⟨.number (.integer c), reach, (Number.matchesValue_integer c n).mpr same⟩

/-- **The integers of a literal type.** Through any unions, aliases, parameters and wrappers that
lead to literal types within the limit of expansions, where all numbers among the choices are
integers: an integer that equals a choice is accepted, and an integer that is accepted equals a
choice, unless it is beyond 2⁵³ and so is a choice with the same double. -/
theorem findings_integer {t : TypeExpr} (made : OfLiterals source expansionLimit .empty t)
    (integral : ∀ l, InReach source .empty t l → l.isIntegral = true) (n : WideInt) :
    ((∃ c : WideInt, InReach source .empty t (.number (.integer c)) ∧ c.value = n.value) →
      source.findings t (.number (.integer n)) = []) ∧
    (source.findings t (.number (.integer n)) = [] →
      ∃ c : WideInt, InReach source .empty t (.number (.integer c)) ∧
        (c.value = n.value ∨
          2 ^ 53 ≤ c.value.natAbs ∧ 2 ^ 53 ≤ n.value.natAbs ∧
            Binary64.ofInt? c.value = Binary64.ofInt? n.value)) := by
  rw [findings_integer_iff made integral]
  constructor
  · rintro ⟨c, reach, equal⟩
    exact ⟨c, reach, by rw [equal]⟩
  · rintro ⟨c, reach, same⟩
    refine ⟨c, reach, ?_⟩
    by_cases small : c.value.natAbs < 2 ^ 53 ∨ n.value.natAbs < 2 ^ 53
    · exact .inl (WideInt.value_eq_of_ofInt?_eq same small)
    · exact .inr ⟨by omega, by omega, same⟩

end Registry

end

namespace Registry

/-- The choices of a parameter, and one more. -/
def orMinusOne : Registry :=
  let minusOne : Literal := .number (.integer ⟨-1, by decide, by decide⟩)
  let choices : AliasDef :=
    { name := "OrMinusOne", typeParams := ["T"], target := .union [.var "T", .literal [minusOne]] }
  ⟨[("OrMinusOne", .aliased choices)], []⟩

/-- The choices -1 and 2⁵³ - 1, the last integer of those that are all doubles. -/
theorem findings_integer_orMinusOne :
    let last : WideInt := ⟨9007199254740991, by decide, by decide⟩
    let beyond : WideInt := ⟨9007199254740992, by decide, by decide⟩
    let t : TypeExpr := .named "OrMinusOne" [.literal [.number (.integer last)]]
    orMinusOne.findings t (.number (.integer last)) = [] ∧
      orMinusOne.findings t (.number (.integer beyond)) ≠ [] := by
  intro last beyond t
  have made : OfLiterals orMinusOne expansionLimit .empty t := by
    refine .aliased rfl (.union ?_)
    simp only [List.forall_mem_cons]
    exact ⟨.var rfl .literal, .literal, by simp⟩
  have reach : ∀ l, InReach orMinusOne .empty t l ↔
      l = .number (.integer last) ∨ l = .number (.integer ⟨-1, by decide, by decide⟩) := by
    intro l
    rw [inReach_aliased (a := _) rfl, inReach_union]
    simp only [List.exists_mem_cons_iff, List.not_mem_nil, false_and, exists_false, or_false]
    exact or_congr ((inReach_var rfl).trans (inReach_literal.trans List.mem_singleton))
      (inReach_literal.trans List.mem_singleton)
  have integral : ∀ l, InReach orMinusOne .empty t l → l.isIntegral = true := by
    intro l there
    rcases (reach l).mp there with rfl | rfl <;> rfl
  refine ⟨(findings_integer made integral last).1 ⟨last, (reach _).mpr (.inl rfl), rfl⟩, ?_⟩
  intro accepted
  obtain ⟨c, there, equal⟩ := (findings_integer made integral beyond).2 accepted
  have small : c.value ≠ 9007199254740992 ∧ c.value.natAbs < 2 ^ 53 := by
    rcases (reach _).mp there with same | same <;> cases same <;> decide
  rcases equal with equal | ⟨large, -⟩
  · exact small.1 equal
  · exact absurd small.2 (Nat.not_lt.mpr large)

end Registry

/-! ## How deep and how large -/

namespace Registry

/-- A type inside of some unions of one member each. -/
def nested : Nat → TypeExpr → TypeExpr
  | 0, t => t
  | n + 1, t => .union [nested n t]

theorem check_nested_eq_nil {source : Registry} {scope : Scope} (n left : Nat) {t : TypeExpr}
    {value : Json} : source.check scope left (nested n t) value = [] ↔
      source.check scope (left - n) t value = [] := by
  induction n generalizing left with
  | zero => exact Iff.rfl
  | succ n ih =>
    rw [nested, check_union_eq_nil]
    simp only [List.mem_singleton, exists_eq_left, ih, Nat.sub_sub, Nat.add_comm 1]

theorem inReach_nested {source : Registry} {scope : Scope} (n : Nat) {t : TypeExpr} {l : Literal} :
    InReach source scope (nested n t) l ↔ InReach source scope t l := by
  induction n with
  | zero => exact Iff.rfl
  | succ n ih =>
    rw [nested, inReach_union]
    simp only [List.mem_singleton, exists_eq_left, ih]

theorem ofLiterals_nested {source : Registry} {scope : Scope} {n left : Nat} {t : TypeExpr}
    (made : OfLiterals source left scope t) : OfLiterals source (left + n) scope (nested n t) := by
  induction n with
  | zero => exact made
  | succ n ih => exact .union (List.forall_mem_singleton.mpr ih)

/-- An alias for the choice 1, and one for that alias inside of 31 unions. -/
def deepOnes : Registry :=
  let choice : Literal := .number (.integer ⟨1, by decide, by decide⟩)
  let one : AliasDef := { name := "One", target := .literal [choice] }
  let half : AliasDef := { name := "Half", target := nested 31 (.named "One" []) }
  ⟨[("One", .aliased one), ("Half", .aliased half)], []⟩

/-- Neither direction holds of all integers and all nestings: a choice behind 64 other expansions is
not accepted, and a value is accepted that is not a choice but has the double of one. -/
theorem not_findings_integer :
    (¬∀ (source : Registry) (t : TypeExpr) (n : WideInt),
      (∃ left, OfLiterals source left .empty t) →
      (∀ l, InReach source .empty t l → l.isIntegral = true) →
      (∃ c : WideInt, InReach source .empty t (.number (.integer c)) ∧ c.value = n.value) →
        source.findings t (.number (.integer n)) = []) ∧
    ¬∀ (source : Registry) (t : TypeExpr) (n : WideInt),
      (∃ left, OfLiterals source left .empty t) →
      (∀ l, InReach source .empty t l → l.isIntegral = true) →
      source.findings t (.number (.integer n)) = [] →
        ∃ c : WideInt, InReach source .empty t (.number (.integer c)) ∧ c.value = n.value := by
  constructor
  · intro claimed
    let one : WideInt := ⟨1, by decide, by decide⟩
    let t : TypeExpr := nested 32 (.named "Half" [])
    have half : OfLiterals deepOnes (0 + 1 + 31) .empty (nested 31 (.named "One" [])) :=
      ofLiterals_nested (.aliased rfl .literal)
    have made : OfLiterals deepOnes (32 + 1 + 32) .empty t :=
      ofLiterals_nested (.aliased rfl half)
    have reach : ∀ l, InReach deepOnes .empty t l ↔ l = .number (.integer one) := by
      intro l
      rw [inReach_nested, inReach_aliased (a := _) rfl, inReach_nested,
        inReach_aliased (a := _) rfl, inReach_literal]
      exact List.mem_singleton
    have integral : ∀ l, InReach deepOnes .empty t l → l.isIntegral = true := by
      intro l there
      rw [(reach l).mp there]
      rfl
    have accepted := claimed deepOnes t one ⟨_, made⟩ integral ⟨one, (reach _).mpr rfl, rfl⟩
    -- the alias of the literal is come to with no expansion left
    rw [findings, check_nested_eq_nil, show expansionLimit - 32 = 31 + 1 from rfl,
      check_aliased rfl, check_nested_eq_nil] at accepted
    exact check_named_zero accepted
  · intro claimed
    let choice : WideInt := ⟨9007199254740993, by decide, by decide⟩
    let value : WideInt := ⟨9007199254740992, by decide, by decide⟩
    have integral : ∀ l, InReach ⟨[], []⟩ .empty (.literal [.number (.integer choice)]) l →
        l.isIntegral = true := by
      intro l there
      rw [List.mem_singleton.mp (inReach_literal.mp there)]
      rfl
    have double : Binary64.ofInt? choice.value = Binary64.ofInt? value.value := by decide +kernel
    have accepted : Registry.findings ⟨[], []⟩ (.literal [.number (.integer choice)])
        (.number (.integer value)) = [] :=
      (findings_integer_iff .literal integral value).mpr
        ⟨choice, inReach_literal.mpr (.head _), double⟩
    obtain ⟨c, there, equal⟩ := claimed _ _ _ ⟨0, .literal⟩ integral accepted
    cases List.mem_singleton.mp (inReach_literal.mp there)
    exact absurd equal (by decide)

end Registry

end SchemaDialogue
