import SchemaDialogue.Conform.Union
import SchemaDialogue.Proofs.Entries
import SchemaDialogue.Proofs.Parts

/-!
# Contexts: scopes without proofs

A scope binds type parameters and `self` to closed type expressions by its construction. A context
binds them to any type expressions, and the operations on it are the plain ones: what stands for a
parameter may hold parameters itself, and would then be taken for one of another definition.

That this does not happen is a property of a context (`Context.Closed`):

* **scopes**: the closed contexts are those of scopes (`Context.closed_iff`), each of one scope
  (`Scope.context_injective`), and the operations on scopes are the operations on their contexts
  (`Scope.context_enter` and its siblings);
* **definitions**: the context inside a definition is closed if that of the reference is, whatever
  the arguments are (`Context.Closed.enter`, `Context.Closed.enterRecord`);
* **substitution**: nothing is substituted in a closed type expression, in no context
  (`Context.substitute_of_closed`).
-/

namespace SchemaDialogue

namespace TypeExpr

/-- What occurs in a closed type expression is closed, at any depth. -/
theorem Part.isClosed {u t : TypeExpr} (part : Part u t) (closed : t.isClosed = true) :
    u.isClosed = true := by
  induction part with
  | refl => exact closed
  | named mem _ ih => exact ih (allClosed_iff.mp closed _ mem)
  | list _ ih => exact ih closed
  | key _ ih => exact ih (Bool.and_eq_true_iff.mp closed).1
  | value _ ih => exact ih (Bool.and_eq_true_iff.mp closed).2
  | tuple mem _ ih => exact ih (allClosed_iff.mp closed _ mem)
  | variadic _ ih => exact ih closed
  | union mem _ ih => exact ih (allClosed_iff.mp closed _ mem)
  | required _ ih => exact ih closed
  | notRequired _ ih => exact ih closed
  | documented _ ih => exact ih closed

end TypeExpr

/-- What type parameters and `self` are bound to. -/
structure Context where
  bindings : Entries TypeExpr := []
  this : Option TypeExpr := none

namespace Context

/-- The context outside of all definitions. -/
def empty : Context := {}

/-- What a type parameter or `self` is bound to, if it is bound. -/
def standsFor (c : Context) : TypeExpr → Option TypeExpr
  | .var name => c.bindings.find? name
  | .self => c.this
  | _ => none

mutual

/-- Put what they are bound to in the place of type parameters and `self`, or `any` if they are not
bound. -/
def substitute (c : Context) : TypeExpr → TypeExpr
  | .var name => (c.bindings.find? name).getD .any
  | .self => c.this.getD .any
  | .named key args => .named key (substituteAll c args)
  | .list element => .list (substituteOption c element)
  | .map key value => .map (substituteOption c key) (substituteOption c value)
  | .tuple elements => .tuple (substituteAll c elements)
  | .variadic element => .variadic (substitute c element)
  | .union members => .union (substituteAll c members)
  | .required inner => .required (substitute c inner)
  | .notRequired inner => .notRequired (substitute c inner)
  | .documented doc inner => .documented doc (substitute c inner)
  | .string => .string
  | .number => .number
  | .integer => .integer
  | .boolean => .boolean
  | .any => .any
  | .null => .null
  | .never => .never
  | .literal choices => .literal choices

/-- Substitute in every type expression. -/
def substituteAll (c : Context) : List TypeExpr → List TypeExpr
  | [] => []
  | t :: rest => substitute c t :: substituteAll c rest

/-- Substitute in a type expression that may be missing. -/
def substituteOption (c : Context) : Option TypeExpr → Option TypeExpr
  | none => none
  | some t => some (substitute c t)

end

/-- The type parameters bound to the arguments, in which all is substituted. -/
def bind (c : Context) (params : List String) (args : List TypeExpr) : Entries TypeExpr :=
  Entries.ofList (params.zip (args.map c.substitute))

/-- The context inside a definition whose `self` is that of the place that refers to it. -/
def enter (c : Context) (params : List String) (args : List TypeExpr) : Context :=
  ⟨c.bind params args, c.this⟩

/-- The context inside a record, which is its own `self`. -/
def enterRecord (c : Context) (key : TypeKey) (params : List String) (args : List TypeExpr) :
    Context :=
  ⟨c.bind params args, some (.named key (args.map c.substitute))⟩

/-- Neither a type parameter nor `self` occurs in anything that is bound. -/
structure Closed (c : Context) : Prop where
  bindings : ∀ p ∈ c.bindings, p.2.isClosed = true
  this : ∀ this, c.this = some this → this.isClosed = true

variable {c : Context} {t bound : TypeExpr}

theorem substituteAll_eq_map (ts : List TypeExpr) : c.substituteAll ts = ts.map c.substitute := by
  induction ts with
  | nil => rfl
  | cons t rest ih => rw [substituteAll, ih, List.map_cons]

/-- What a parameter or `self` stands for in a closed context is closed. -/
theorem Closed.standsFor (closed : c.Closed) (h : c.standsFor t = some bound) :
    bound.isClosed = true := by
  cases t with
  | var name => exact closed.bindings _ (Entries.mem_of_find? h)
  | self => exact closed.this bound h
  | _ => cases h

end Context

/-! ## The contexts of scopes -/

namespace Scope

/-- The context of a scope. -/
def context (s : Scope) : Context := ⟨s.bindings.mapValues (·.1), s.this.map (·.1)⟩

variable {s : Scope}

theorem closed_context (s : Scope) : s.context.Closed where
  bindings p mem := by
    obtain ⟨entry, _, rfl⟩ := List.mem_map.mp mem
    exact entry.2.2
  this this h := by
    obtain ⟨closed, _, rfl⟩ := Option.map_eq_some_iff.mp h
    exact closed.2

theorem context_injective : Function.Injective context := by
  rintro ⟨bindings, this⟩ ⟨bindings', this'⟩ same
  have entries : Function.Injective fun e : String × ClosedType => (e.1, e.2.1) := by
    rintro ⟨k, t⟩ ⟨k', t'⟩ h
    obtain ⟨key, value⟩ := Prod.mk.inj h
    exact Prod.ext key (Subtype.ext value)
  have sameBindings : bindings = bindings' :=
    List.map_injective_iff.mpr entries (congrArg Context.bindings same)
  have sameThis : this = this' :=
    Option.map_injective Subtype.val_injective (congrArg Context.this same)
  rw [sameBindings, sameThis]

theorem find?_context (name : String) :
    s.context.bindings.find? name = (s.bindings.find? name).map (·.1) :=
  Entries.find?_mapValues _ _ _

/-- A context that binds as a scope does what occurs in a type expression substitutes the same. -/
theorem substitute_eq {c : Context} {t : TypeExpr}
    (vars : ∀ name, TypeExpr.Part (.var name) t →
      c.bindings.find? name = (s.bindings.find? name).map (·.1))
    (self : TypeExpr.Part .self t → c.this = s.this.map (·.1)) :
    c.substitute t = s.substitute t := by
  induction t using TypeExpr.induction with
  | self =>
    rw [Context.substitute, substitute, selfMeaning, self .refl]
    cases s.this <;> rfl
  | var name =>
    rw [Context.substitute, substitute, meaning, vars name .refl]
    cases s.bindings.find? name <;> rfl
  | named key args ih =>
    rw [Context.substitute, substitute, Context.substituteAll_eq_map, substituteAll_eq_map]
    exact congrArg _ (List.map_congr_left fun a mem =>
      ih a mem (fun name part => vars name (.named mem part)) fun part => self (.named mem part))
  | tuple elements ih =>
    rw [Context.substitute, substitute, Context.substituteAll_eq_map, substituteAll_eq_map]
    exact congrArg _ (List.map_congr_left fun a mem =>
      ih a mem (fun name part => vars name (.tuple mem part)) fun part => self (.tuple mem part))
  | union members ih =>
    rw [Context.substitute, substitute, Context.substituteAll_eq_map, substituteAll_eq_map]
    exact congrArg _ (List.map_congr_left fun a mem =>
      ih a mem (fun name part => vars name (.union mem part)) fun part => self (.union mem part))
  | list element ih =>
    cases element with
    | none => rfl
    | some t =>
      exact congrArg (TypeExpr.list <| some ·) (ih t rfl (fun name part => vars name (.list part))
        fun part => self (.list part))
  | map key value ihk ihv =>
    have hkey : c.substituteOption key = s.substituteOption key := by
      cases key with
      | none => rfl
      | some t =>
        exact congrArg some (ihk t rfl (fun name part => vars name (.key part))
          fun part => self (.key part))
    have hvalue : c.substituteOption value = s.substituteOption value := by
      cases value with
      | none => rfl
      | some t =>
        exact congrArg some (ihv t rfl (fun name part => vars name (.value part))
          fun part => self (.value part))
    rw [Context.substitute, substitute, hkey, hvalue]
  | variadic element ih =>
    exact congrArg _ (ih (fun name part => vars name (.variadic part))
      fun part => self (.variadic part))
  | required inner ih =>
    exact congrArg _ (ih (fun name part => vars name (.required part))
      fun part => self (.required part))
  | notRequired inner ih =>
    exact congrArg _ (ih (fun name part => vars name (.notRequired part))
      fun part => self (.notRequired part))
  | documented doc inner ih =>
    exact congrArg _ (ih (fun name part => vars name (.documented part))
      fun part => self (.documented part))
  | _ => rfl

@[simp] theorem substitute_context (t : TypeExpr) : s.context.substitute t = s.substitute t :=
  substitute_eq (fun name _ => find?_context name) fun _ => rfl

theorem bind_context (params : List String) (args : List TypeExpr) :
    s.context.bind params args = (s.bind params args).mapValues (·.1) := by
  rw [Context.bind, bind, ← Entries.ofList_mapValues]
  have values : args.map s.context.substitute = (args.map s.close).map (·.1) := by
    rw [List.map_map]
    exact List.map_congr_left fun t _ => substitute_context t
  rw [values, List.zip_map_right]
  rfl

@[simp] theorem context_enter (params : List String) (args : List TypeExpr) :
    (s.enter params args).context = s.context.enter params args := by
  rw [Context.enter, bind_context]
  rfl

@[simp] theorem context_enterRecord (key : TypeKey) (params : List String) (args : List TypeExpr) :
    (s.enterRecord key params args).context = s.context.enterRecord key params args := by
  have this : s.substitute (.named key args) = .named key (args.map s.context.substitute) := by
    rw [substitute, substituteAll_eq_map]
    exact congrArg _ (List.map_congr_left fun t _ => (substitute_context t).symm)
  rw [Context.enterRecord, bind_context, ← this]
  rfl

end Scope

namespace Context

variable {c : Context}

/-- The closed contexts are those of scopes. -/
theorem closed_iff : c.Closed ↔ ∃ s : Scope, s.context = c := by
  constructor
  · intro closed
    obtain ⟨bindings, this⟩ := c
    -- what is closed stays as it is when it is closed again
    have same {t : TypeExpr} (h : t.isClosed = true) : (Scope.empty.close t).1 = t :=
      Scope.empty.substitute_of_closed t h
    have sameBindings : (bindings.mapValues Scope.empty.close).mapValues (·.1) = bindings := by
      rw [Entries.mapValues, Entries.mapValues, List.map_map]
      refine (List.map_congr_left fun p mem => ?_).trans (List.map_id bindings)
      exact Prod.ext rfl (same (closed.bindings p mem))
    have sameThis : (this.map Scope.empty.close).map (·.1) = this := by
      cases this with
      | none => rfl
      | some this => exact congrArg some (same (closed.this this rfl))
    refine ⟨⟨bindings.mapValues Scope.empty.close, this.map Scope.empty.close⟩, ?_⟩
    rw [Scope.context, sameBindings, sameThis]
  · rintro ⟨s, rfl⟩
    exact s.closed_context

/-- Substitution in a closed context leaves neither type parameters nor `self`. -/
theorem Closed.substitute (closed : c.Closed) (t : TypeExpr) :
    (c.substitute t).isClosed = true := by
  obtain ⟨s, rfl⟩ := closed_iff.mp closed
  rw [Scope.substitute_context]
  exact s.isClosed_substitute t

theorem Closed.enter (closed : c.Closed) (params : List String) (args : List TypeExpr) :
    (c.enter params args).Closed := by
  obtain ⟨s, rfl⟩ := closed_iff.mp closed
  exact Scope.context_enter params args ▸ Scope.closed_context _

theorem Closed.enterRecord (closed : c.Closed) (key : TypeKey) (params : List String)
    (args : List TypeExpr) : (c.enterRecord key params args).Closed := by
  obtain ⟨s, rfl⟩ := closed_iff.mp closed
  exact Scope.context_enterRecord key params args ▸ Scope.closed_context _

/-- Nothing is substituted in a closed type expression. -/
theorem substitute_of_closed (c : Context) {t : TypeExpr} (closed : t.isClosed = true) :
    c.substitute t = t := by
  rw [Scope.substitute_eq (s := .empty), Scope.empty.substitute_of_closed t closed]
  · exact fun name part => by cases part.isClosed closed
  · exact fun part => by cases part.isClosed closed

end Context

end SchemaDialogue
