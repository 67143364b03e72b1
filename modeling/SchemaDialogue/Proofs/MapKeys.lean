import SchemaDialogue.Proofs.Expansion
import SchemaDialogue.Proofs.Instantiate

/-!
# Key types and what they stand for

A key type may be written as a reference to an alias or as a type parameter. What it stands for is
then the target of the alias with its arguments bound, or what the parameter is bound to, and so on
(`StandsFor`).

The check goes by the key type as it is written. A number is asked for when the key type is written
as one; a literal type, a reference or a union is held against the key as a text; nothing else is
looked at. So a key type and what it stands for need not let the same keys pass. They do exactly
when one of them can stand for the other in this sense (`KeyFits`):

* **texts**: a text means the same to a type and to what it stands for
  (`StandsFor.conforms_text_iff`);
* **keys**: `KeyPasses` says when a key has no findings, `keyPasses_of_narrow` and its siblings say
  so by form;
* **result**: `check_map_standsFor`.
-/

namespace SchemaDialogue

/-- `StandsFor source scope t u`: `u` is what `t` stands for after some steps from an alias to its
target and from a type parameter to what it is bound to. -/
inductive StandsFor (source : Registry) (scope : Scope) : TypeExpr → TypeExpr → Prop
  | refl {t} : StandsFor source scope t t
  | aliased {t key args a u} : t.unwrapped = .named key args →
      source.lookup key = some (.aliased a) →
      StandsFor source scope ((scope.enter a.typeParams args).substitute a.target) u →
      StandsFor source scope t u
  | var {t name bound u} : t.unwrapped = .var name → scope.bindings.find? name = some bound →
      StandsFor source scope bound.1 u → StandsFor source scope t u

/-- The key has no findings in a map with these key types. -/
def KeyPasses (source : Registry) (scope : Scope) (key : TypeExpr) (name : String) : Prop :=
  keyKindFindings (some key) name = [] ∧
    ∀ narrow, keyType? (some key) = some narrow →
      source.check scope expansionLimit narrow (.string name) = []

/-- A key type whose keys are the texts that conform to it. -/
def TypeExpr.readsTexts (t : TypeExpr) : Bool :=
  match t.unwrapped with
  | .string => true
  | .any => true
  | .literal _ => true
  | .named _ _ => true
  | .union _ => true
  | _ => false

/-- The key type `u` may be written for `t`, which stands for it. -/
structure KeyFits (source : Registry) (scope : Scope) (t u : TypeExpr) : Prop where
  /-- An alias is held against the key as a text. -/
  aliased : ∀ key args a, t.unwrapped = .named key args →
    source.lookup key = some (.aliased a) → u.readsTexts = true
  /-- A type parameter is not held against anything. -/
  var : ∀ name, t.unwrapped = .var name → u.unwrapped ≠ .number ∧ u.unwrapped ≠ .integer ∧
    ∀ narrow, keyType? (some u) = some narrow →
      ∀ text, Conforms source ⊤ 0 scope narrow (.string text)

variable {source : Registry} {scope : Scope} {t u : TypeExpr} {text : String}

/-! ## Texts -/

/-- Substitution in closed arguments leaves them as they are. -/
theorem Scope.map_substitute_idem (s s' : Scope) (args : List TypeExpr) :
    (args.map s.substitute).map s'.substitute = args.map s.substitute := by
  rw [List.map_map]
  apply List.map_congr_left
  intro a _
  exact s'.substitute_of_closed _ (s.isClosed_substitute a)

namespace Conforms

/-- A text that conforms to a type conforms to what the type means. Unlike for other values nothing
has to be known about maps inside of the type. -/
theorem substitute_text {limit : ℕ∞} {used : Nat} {s' : Scope}
    (h : Conforms source limit used scope t (.string text)) (this : scope.this = s'.this) :
    Conforms source limit used s' (scope.substitute t) (.string text) := by
  generalize value_eq : Json.string text = value at h
  induction h with
  | any => exact .any
  | string => exact .string
  | literal mem admits => exact .literal mem admits
  | required _ ih => exact .required (ih this value_eq)
  | notRequired _ ih => exact .notRequired (ih this value_eq)
  | documented _ ih => exact .documented (ih this value_eq)
  | selfFree free =>
    rw [Scope.substitute, Scope.selfMeaning, free]
    exact .any
  | @self used scope bound value found lt inner _ =>
    rw [Scope.substitute, Scope.selfMeaning, found]
    have outside := inner.rebind bound.2 this
    exact outside.mono (Nat.le_succ _)
  | varFree free =>
    rw [Scope.substitute, Scope.meaning, free]
    exact .any
  | @var used scope name bound value found lt inner _ =>
    rw [Scope.substitute, Scope.meaning, found]
    have outside := inner.rebind bound.2 this
    exact outside.mono (Nat.le_succ _)
  | union mem lt _ ih =>
    rw [Scope.substitute, Scope.substituteAll_eq_map]
    exact .union (List.mem_map_of_mem mem) lt (ih this value_eq)
  | undescribed h => exact .undescribed h
  | @aliased used scope key args a value h lt inner _ =>
    rw [Scope.substitute, Scope.substituteAll_eq_map]
    have entered := Scope.enter_congr (scope.map_substitute_idem s' args) this.symm a.typeParams
    rw [← entered] at inner
    exact .aliased h lt inner
  | _ => cases value_eq

/-- And the other way round, when expansions do not matter. -/
theorem of_substitute_text {used : Nat} {s' : Scope}
    (h : Conforms source ⊤ used s' (scope.substitute t) (.string text))
    (this : scope.this = s'.this) :
    Conforms source ⊤ used scope t (.string text) := by
  have lt : ∀ n : Nat, ((n + 1 : Nat) : ℕ∞) < ⊤ := fun _ => ENat.natCast_lt_top _
  induction t using TypeExpr.induction generalizing used with
  | self =>
    rw [Scope.substitute, Scope.selfMeaning] at h
    cases found : scope.this with
    | none => exact .selfFree found
    | some bound =>
      rw [found] at h
      have inside := h.rebind bound.2 this.symm
      exact .self found (lt used) inside.unlimited
  | var name =>
    rw [Scope.substitute, Scope.meaning] at h
    cases found : scope.bindings.find? name with
    | none => exact .varFree found
    | some bound =>
      rw [found] at h
      have inside := h.rebind bound.2 this.symm
      exact .var found (lt used) inside.unlimited
  | named key args _ =>
    rw [Scope.substitute, Scope.substituteAll_eq_map] at h
    cases h with
    | undescribed h => exact .undescribed h
    | aliased h lt inner =>
      rw [Scope.enter_congr (scope.map_substitute_idem s' args) this.symm] at inner
      exact .aliased h lt inner
  | union members ih =>
    rw [Scope.substitute, Scope.substituteAll_eq_map] at h
    cases h with
    | union mem lt inner =>
      obtain ⟨m, hm, rfl⟩ := List.mem_map.mp mem
      exact .union hm lt (ih m hm inner)
  | required inner ih => cases h with | required h => exact .required (ih h)
  | notRequired inner ih => cases h with | notRequired h => exact .notRequired (ih h)
  | documented doc inner ih => cases h with | documented h => exact .documented (ih h)
  | literal choices => cases h with | literal mem admits => exact .literal mem admits
  | list element ih =>
    rw [Scope.substitute] at h
    generalize scope.substituteOption element = element' at h
    cases h
  | string => exact .string
  | any => exact .any
  | _ => cases h

end Conforms

namespace StandsFor

/-- A text that conforms to a type conforms to what it stands for, by no more expansions. -/
theorem conforms_text {limit : ℕ∞} (stands : StandsFor source scope t u)
    (h : Conforms source limit 0 scope t (.string text)) :
    Conforms source limit 0 scope u (.string text) := by
  induction stands with
  | refl => exact h
  | aliased named lookup _ ih =>
    have outside := Conforms.unwrapped_iff.mpr h
    rw [named] at outside
    cases outside with
    | undescribed none => cases none.symm.trans lookup
    | aliased lookup' _ inner =>
      cases lookup.symm.trans lookup'
      apply ih
      have closed : Conforms source limit _ scope _ (.string text) := inner.substitute_text rfl
      exact closed.mono (Nat.zero_le _)
  | var named found _ ih =>
    have outside := Conforms.unwrapped_iff.mpr h
    rw [named] at outside
    cases outside with
    | varFree free => cases free.symm.trans found
    | var found' _ inner =>
      cases found.symm.trans found'
      exact ih (inner.mono (Nat.zero_le _))

/-- A text means the same to a type and to what it stands for. -/
theorem conforms_text_iff (stands : StandsFor source scope t u) :
    Conforms source ⊤ 0 scope t (.string text) ↔ Conforms source ⊤ 0 scope u (.string text) := by
  refine ⟨stands.conforms_text, fun h => ?_⟩
  induction stands with
  | refl => exact h
  | aliased named lookup _ ih =>
    apply Conforms.unwrapped_iff.mp
    rw [named]
    refine .aliased lookup (ENat.natCast_lt_top _) ?_
    have inner := ih h
    exact (inner.of_substitute_text rfl).unlimited
  | var named found _ ih =>
    apply Conforms.unwrapped_iff.mp
    rw [named]
    exact .var found (ENat.natCast_lt_top _) (ih h).unlimited

/-- After a first step what a type stands for has no parameters. -/
theorem eq_or_isClosed (stands : StandsFor source scope t u) : u = t ∨ u.isClosed = true := by
  have closed : ∀ {t u}, StandsFor source scope t u → t.isClosed = true → u.isClosed = true := by
    intro t u stands
    induction stands with
    | refl => exact id
    | aliased _ _ _ ih => exact fun _ => ih (Scope.isClosed_substitute _ _)
    | @var _ _ bound _ _ _ _ ih => exact fun _ => ih bound.2
  cases stands with
  | refl => exact .inl rfl
  | aliased _ _ rest => exact .inr (closed rest (Scope.isClosed_substitute _ _))
  | @var _ _ bound _ _ _ rest => exact .inr (closed rest bound.2)

/-- Only an alias or a bound parameter stands for something else. -/
theorem eq_of_settled (stands : StandsFor source scope t u)
    (noAlias : ∀ key args a, t.unwrapped = .named key args →
      source.lookup key ≠ some (.aliased a))
    (noVar : ∀ name, t.unwrapped ≠ .var name) : u = t := by
  cases stands with
  | refl => rfl
  | aliased named lookup _ => exact absurd lookup (noAlias _ _ _ named)
  | var named _ _ => exact absurd named (noVar _)

end StandsFor

/-! ## Keys by form -/

/-- The limit plays no part for texts when chains of expansions that start at the type are short. -/
theorem Conforms.text_within_limit
    (short : ∀ n s t', Expands source n scope t s t' → n < expansionLimit)
    (h : Conforms source ⊤ 0 scope t (.string text)) :
    Conforms source expansionLimit 0 scope t (.string text) := by
  have chains : ShortChains source scope t (.string text) :=
    -- a text has no parts to descend to
    ShortChains.intro short fun _ _ _ _ _ _ _ step => by cases step
  apply h.within_limit chains
  intro n s t' chain
  rw [Nat.zero_add]
  exact short n s t' chain

theorem keyPasses_of_narrow {narrow : TypeExpr} (narrows : keyType? (some t) = some narrow)
    (within : Conforms source ⊤ 0 scope t (.string text) →
      Conforms source expansionLimit 0 scope t (.string text)) :
    KeyPasses source scope t text ↔ Conforms source ⊤ 0 scope t (.string text) := by
  obtain ⟨t', same, unwrapped⟩ := unwrapped_of_keyType? narrows
  cases same
  have kinds : keyKindFindings (some t) text = [] := by
    unfold keyType? at narrows
    unfold keyKindFindings
    rw [Option.map_some, unwrapped] at *
    split at narrows <;> cases narrows <;> rfl
  constructor
  · rintro ⟨_, pass⟩
    have conforms := Registry.conforms_of_check_eq_nil _ _ _ _ (pass narrow narrows) 0
    rw [← unwrapped] at conforms
    exact Conforms.unwrapped_iff.mp conforms
  · intro conforms
    refine ⟨kinds, fun narrow' narrows' => ?_⟩
    cases narrows.symm.trans narrows'
    rw [← unwrapped]
    have bounded := Conforms.unwrapped_iff.mpr (within conforms)
    exact Registry.check_eq_nil_of_conforms bounded (by decide)

/-- A key type that is neither a number nor held against the key lets every key pass. -/
theorem keyPasses_of_free (free : keyType? (some t) = none) (notNumber : t.unwrapped ≠ .number)
    (notInteger : t.unwrapped ≠ .integer) : KeyPasses source scope t text := by
  refine ⟨?_, fun narrow narrows => by rw [free] at narrows; cases narrows⟩
  unfold keyKindFindings
  rw [Option.map_some]
  split <;> simp_all

theorem keyPasses_of_readsTexts (reads : t.readsTexts = true)
    (within : Conforms source ⊤ 0 scope t (.string text) →
      Conforms source expansionLimit 0 scope t (.string text)) :
    KeyPasses source scope t text ↔ Conforms source ⊤ 0 scope t (.string text) := by
  have free : ∀ {v}, t.unwrapped = v → keyType? (some v) = none → v ≠ .number → v ≠ .integer →
      v.unwrapped = v → Conforms source ⊤ 0 scope v (.string text) →
      (KeyPasses source scope t text ↔ Conforms source ⊤ 0 scope t (.string text)) := by
    rintro _ rfl none notNumber notInteger stable conforms
    have pass : KeyPasses source scope t text := by
      refine keyPasses_of_free ?_ notNumber notInteger
      unfold keyType? at none ⊢
      rwa [Option.map_some, stable] at none
    exact iff_of_true pass (Conforms.unwrapped_iff.mp conforms)
  unfold TypeExpr.readsTexts at reads
  cases form : t.unwrapped with
  | string => exact free form rfl (by simp) (by simp) rfl .string
  | any => exact free form rfl (by simp) (by simp) rfl .any
  | literal choices => exact keyPasses_of_narrow (by rw [keyType?, Option.map_some, form]) within
  | named key args => exact keyPasses_of_narrow (by rw [keyType?, Option.map_some, form]) within
  | union members => exact keyPasses_of_narrow (by rw [keyType?, Option.map_some, form]) within
  | _ => simp [form] at reads

/-- Any other closed key type has keys that pass without conforming to it as texts. -/
theorem keyPasses_of_not_readsTexts (closed : t.isClosed = true) (reads : t.readsTexts = false) :
    KeyPasses source scope t "1" ∧ ¬Conforms source ⊤ 0 scope t (.string "1") := by
  induction t using TypeExpr.induction with
  | required inner ih =>
    obtain ⟨pass, fails⟩ := ih closed reads
    exact ⟨pass, fun h => by cases h with | required h => exact fails h⟩
  | notRequired inner ih =>
    obtain ⟨pass, fails⟩ := ih closed reads
    exact ⟨pass, fun h => by cases h with | notRequired h => exact fails h⟩
  | documented doc inner ih =>
    obtain ⟨pass, fails⟩ := ih closed reads
    exact ⟨pass, fun h => by cases h with | documented h => exact fails h⟩
  | number =>
    have parses : (Number.ofText? "1").isSome = true := by decide
    have one : keyKindFindings (some .number) "1" = [] := by
      rw [keyKindFindings, Option.map_some]
      exact if_pos parses
    exact ⟨⟨one, fun _ h => by cases h⟩, fun h => by cases h⟩
  | integer =>
    have parses : isIntegerKey "1" = true := by decide
    have one : keyKindFindings (some .integer) "1" = [] := by
      rw [keyKindFindings, Option.map_some]
      exact if_pos parses
    exact ⟨⟨one, fun _ h => by cases h⟩, fun h => by cases h⟩
  | self => cases closed
  | var name => cases closed
  | list element => exact ⟨⟨rfl, fun _ h => by cases h⟩, fun h => by cases h⟩
  | boolean => exact ⟨⟨rfl, fun _ h => by cases h⟩, fun h => by cases h⟩
  | null => exact ⟨⟨rfl, fun _ h => by cases h⟩, fun h => by cases h⟩
  | never => exact ⟨⟨rfl, fun _ h => by cases h⟩, fun h => by cases h⟩
  | map key value => exact ⟨⟨rfl, fun _ h => by cases h⟩, fun h => by cases h⟩
  | tuple elements => exact ⟨⟨rfl, fun _ h => by cases h⟩, fun h => by cases h⟩
  | variadic element => exact ⟨⟨rfl, fun _ h => by cases h⟩, fun h => by cases h⟩
  | _ => cases reads

/-- When a key type lets every key pass. -/
theorem forall_keyPasses_iff
    (within : ∀ text, Conforms source ⊤ 0 scope t (.string text) →
      Conforms source expansionLimit 0 scope t (.string text)) :
    (∀ name, KeyPasses source scope t name) ↔
      t.unwrapped ≠ .number ∧ t.unwrapped ≠ .integer ∧
        ∀ narrow, keyType? (some t) = some narrow →
          ∀ text, Conforms source ⊤ 0 scope narrow (.string text) := by
  constructor
  · intro pass
    refine ⟨fun form => ?_, fun form => ?_, fun narrow narrows text => ?_⟩
    · have kinds := (pass "x").1
      rw [keyKindFindings, Option.map_some, form] at kinds
      revert kinds
      decide
    · have kinds := (pass "x").1
      rw [keyKindFindings, Option.map_some, form] at kinds
      revert kinds
      decide
    · exact Registry.conforms_of_check_eq_nil _ _ _ _ ((pass text).2 narrow narrows) 0
  · rintro ⟨notNumber, notInteger, conforms⟩ name
    cases narrows : keyType? (some t) with
    | none => exact keyPasses_of_free narrows notNumber notInteger
    | some narrow =>
      rw [keyPasses_of_narrow narrows (within name), ← Conforms.unwrapped_iff]
      obtain ⟨_, same, unwrapped⟩ := unwrapped_of_keyType? narrows
      cases same
      rw [unwrapped]
      exact conforms narrow narrows name

/-! ## Maps -/

theorem KeyFits.refl : KeyFits source scope t t where
  aliased key args a named _ := by
    rw [TypeExpr.readsTexts, named]
  var name named := by
    refine ⟨by simp [named], by simp [named], fun narrow narrows => ?_⟩
    rw [keyType?, Option.map_some, named] at narrows
    cases narrows

/-- Key types let the same keys pass when maps that differ in nothing else have the same values. -/
theorem forall_check_map_iff : (∀ left left' element value,
      source.check scope left (.map (some t) element) value = [] ↔
        source.check scope left' (.map (some u) element) value = []) ↔
    ∀ name, KeyPasses source scope t name ↔ KeyPasses source scope u name := by
  constructor
  · intro same name
    have one : ∀ t, source.check scope 0 (.map (some t) none) (.object [(name, .null)]) = [] ↔
        KeyPasses source scope t name := by
      intro t
      rw [Registry.check_map_eq_nil]
      simp [KeyPasses]
    rw [← one t, ← one u]
    exact same 0 0 none _
  · intro same left left' element value
    rw [Registry.check_map_eq_nil, Registry.check_map_eq_nil]
    refine exists_congr fun members => and_congr_right fun _ => ?_
    refine forall₃_congr fun name item _ => ?_
    rw [← and_assoc, ← and_assoc]
    exact and_congr_left fun _ => same name

/-- A type parameter is not held against the key, so what it stands for must not be either. -/
theorem keyFits_of_var {name : String} (form : t.unwrapped = .var name)
    (within : ∀ text, Conforms source ⊤ 0 scope u (.string text) →
      Conforms source expansionLimit 0 scope u (.string text)) :
    (∀ key, KeyPasses source scope t key ↔ KeyPasses source scope u key) ↔
      KeyFits source scope t u := by
  have free : ∀ key, KeyPasses source scope t key := by
    intro key
    apply keyPasses_of_free
    · rw [keyType?, Option.map_some, form]
    · simp [form]
    · simp [form]
  constructor
  · intro same
    have pass : ∀ key, KeyPasses source scope u key := fun key => (same key).mp (free key)
    constructor
    · intro key args a named
      rw [form] at named
      cases named
    · exact fun _ _ => (forall_keyPasses_iff within).mp pass
  · intro fits key
    have pass := (forall_keyPasses_iff within).mpr (fits.var name form)
    exact iff_of_true (free key) (pass key)

/-- An alias is held against the key as a text, so what it stands for must be too. -/
theorem keyFits_of_alias {key : TypeKey} {args : List TypeExpr} {a : AliasDef}
    (stands : StandsFor source scope t u) (form : t.unwrapped = .named key args)
    (lookup : source.lookup key = some (.aliased a))
    (within : ∀ text, Conforms source ⊤ 0 scope t (.string text) →
      Conforms source expansionLimit 0 scope t (.string text)) :
    (∀ key, KeyPasses source scope t key ↔ KeyPasses source scope u key) ↔
      KeyFits source scope t u := by
  have reads : t.readsTexts = true := by rw [TypeExpr.readsTexts, form]
  have texts : ∀ key, KeyPasses source scope t key ↔
      Conforms source ⊤ 0 scope u (.string key) := fun key =>
    (keyPasses_of_readsTexts reads (within key)).trans stands.conforms_text_iff
  constructor
  · intro same
    have reads' : u.readsTexts = true := by
      by_contra unread
      rw [Bool.not_eq_true] at unread
      have closed : u.isClosed = true := by
        rcases stands.eq_or_isClosed with rfl | closed
        · rw [reads] at unread
          cases unread
        · exact closed
      obtain ⟨pass, fails⟩ := keyPasses_of_not_readsTexts closed unread
      exact fails ((texts "1").mp ((same "1").mpr pass))
    constructor
    · exact fun _ _ _ _ _ => reads'
    · intro name named
      rw [form] at named
      cases named
  · intro fits key'
    have reads' := fits.aliased key args a form lookup
    have within' : Conforms source ⊤ 0 scope u (.string key') →
        Conforms source expansionLimit 0 scope u (.string key') :=
      fun h => stands.conforms_text (within key' (stands.conforms_text_iff.mpr h))
    rw [texts, keyPasses_of_readsTexts reads' within']

/-- Writing what a key type stands for in its place changes no verdict exactly when it fits. The
limit on expansions is left aside: chains that start at the key type are short. -/
theorem check_map_standsFor (source : Registry) (scope : Scope) (t u : TypeExpr)
    (stands : StandsFor source scope t u)
    (short : ∀ n s t', Expands source n scope t s t' → n < expansionLimit) :
    (∀ left left' element value,
      source.check scope left (.map (some t) element) value = [] ↔
        source.check scope left' (.map (some u) element) value = []) ↔
    KeyFits source scope t u := by
  rw [forall_check_map_iff]
  have within : ∀ text, Conforms source ⊤ 0 scope t (.string text) →
      Conforms source expansionLimit 0 scope t (.string text) :=
    fun text h => h.text_within_limit short
  by_cases parameter : ∃ name, t.unwrapped = .var name
  · obtain ⟨name, form⟩ := parameter
    apply keyFits_of_var form
    exact fun text h => stands.conforms_text (within text (stands.conforms_text_iff.mpr h))
  by_cases isAlias : ∃ key args a, t.unwrapped = .named key args ∧
      source.lookup key = some (.aliased a)
  · obtain ⟨key, args, a, form, lookup⟩ := isAlias
    exact keyFits_of_alias stands form lookup within
  · -- nothing else stands for another type
    obtain rfl := stands.eq_of_settled
      (fun key args a form lookup => isAlias ⟨key, args, a, form, lookup⟩)
      (fun name form => parameter ⟨name, form⟩)
    exact iff_of_true (fun _ => Iff.rfl) .refl

/-! ## Aliases of texts and of numbers -/

/-- A tag is one of two texts, and a count is an integer. -/
def tagged : Registry :=
  ⟨[("Tag", .aliased { name := "Tag", target := .literal [.string "a", .string "b"] }),
    ("Count", .aliased { name := "Count", target := .integer })], []⟩

theorem check_map_standsFor_tag :
    StandsFor tagged .empty (.named "Tag" []) (.literal [.string "a", .string "b"]) ∧
      ((∀ left left' element value,
        tagged.check .empty left (.map (some (.named "Tag" [])) element) value = [] ↔
          tagged.check .empty left' (.map (some (.literal [.string "a", .string "b"])) element)
            value = []) ↔
        KeyFits tagged .empty (.named "Tag" []) (.literal [.string "a", .string "b"])) := by
  have stands : StandsFor tagged .empty (.named "Tag" [])
      (.literal [.string "a", .string "b"]) := .aliased rfl rfl .refl
  refine ⟨stands, check_map_standsFor tagged .empty _ _ stands ?_⟩
  intro n s t' chain
  cases chain with
  | refl => decide
  | aliased lookup chain =>
    cases lookup
    cases chain
    decide

/-- The condition is needed. A map whose keys are counts takes no keys at all, although a map whose
keys are integers takes the text of a number. -/
theorem not_check_map_standsFor :
    ¬∀ (source : Registry) (scope : Scope) (t u : TypeExpr), StandsFor source scope t u →
      (∀ n s t', Expands source n scope t s t' → n < expansionLimit) →
      ∀ left left' element value,
        source.check scope left (.map (some t) element) value = [] ↔
          source.check scope left' (.map (some u) element) value = [] := by
  intro h
  have stands : StandsFor tagged .empty (.named "Count" []) .integer := .aliased rfl rfl .refl
  have same := h tagged .empty _ _ stands fun n s t' chain => by
    cases chain with
    | refl => decide
    | aliased lookup chain =>
      cases lookup
      cases chain
      decide
  have pass : KeyPasses tagged .empty .integer "1" := (keyPasses_of_not_readsTexts rfl rfl).1
  have direct := (forall_check_map_iff.mp same "1").mpr pass
  have text := direct.2 _ rfl
  rw [expansionLimit, Registry.check_aliased rfl, Registry.check_integer_eq_nil] at text
  cases text

end SchemaDialogue
