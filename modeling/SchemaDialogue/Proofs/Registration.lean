import Mathlib.Data.List.Nodup
import SchemaDialogue.Describe.Registry
import SchemaDialogue.Proofs.Entries

/-!
# Registration

A description of a type is a program that inserts definitions and registers types, and the build of
a registration is a program of the same kind (`Program`). Here every run of every such program on
the registry of no types is recorded moment by moment, and the record is `Orderly`:

* **exclusive**: no key is reserved and defined at a time; a key is reserved exactly while its build
  is in progress and nothing has been inserted under it;
* **once**: no key has two builds, whatever is inserted under it meanwhile;
* **kept**: the defined keys of a moment begin the list of those of each later moment;
* **settled**: each build that begins comes to an end, and its definition stays unless a later one
  is inserted.

What one moment can do is said once (`Moment.Lawful`). The record of a run is a list of lawful
moments, each of which begins where the one before it ended (`Program.steps_run`), so that what they
leave behind follows moment by moment (`Account.step`). Only that builds come to an end needs their
nesting (`Program.ended_perm_begun`).
-/

namespace SchemaDialogue

namespace Registry

/-! ## Programs and what is recorded of them -/

/-- A description: it ends with a result, looks at the registry, inserts a definition or registers a
type once. The build of a registration is a description too; what it gives beside the definition is
handed on where it ran. -/
inductive Program : Type → Type 1
  | done {α : Type} (result : α) : Program α
  | look {α : Type} (next : Registry → Program α) : Program α
  | insert {α : Type} (key : TypeKey) (definition : TypeDef) (next : TypeExpr → Program α) :
      Program α
  | registerWith {α β : Type} (key : TypeKey) (build : Program (TypeDef × β))
      (next : TypeExpr × Option β → Program α) : Program α

/-- What happens in a moment of a run. -/
inductive Event
  | inserted (key : TypeKey) (definition : TypeDef) (answer : TypeExpr)
  /-- A registration leaves everything as it is. -/
  | passed (key : TypeKey) (answer : TypeExpr)
  /-- The build of a registration begins. -/
  | opened (key : TypeKey)
  /-- The build has ended and the registration with it. -/
  | built (key : TypeKey) (definition : TypeDef) (answer : TypeExpr)

namespace Event

/-- The key whose build begins. -/
def begins : Event → Option TypeKey
  | opened key => some key
  | _ => none

/-- The key whose build ends. -/
def ends : Event → Option TypeKey
  | built key _ _ => some key
  | _ => none

/-- The definition that is inserted under a key. -/
def inserts (key : TypeKey) : Event → Option TypeDef
  | inserted k definition _ => if k = key then some definition else none
  | _ => none

/-- The key of an operation that ends, and its answer. -/
def reply : Event → Option (TypeKey × TypeExpr)
  | inserted key _ answer | passed key answer | built key _ answer => some (key, answer)
  | opened _ => none

end Event

/-- A moment of a run: what happens, and the registry before and after it. -/
structure Moment where
  event : Event
  before : Registry
  after : Registry

variable {α β : Type} {key other : TypeKey} {definition : TypeDef} {r s t : Registry} {m : Moment}
  {log log' earlier later : List Moment}

namespace Program

/-- The program as it works on a registry. -/
def exec {α : Type} : Program α → StateM Registry α
  | done result => pure result
  | look next => do (next (← get)).exec
  | insert key definition next => do (next (← Registry.insert key definition)).exec
  | registerWith key build next => do (next (← Registry.registerWith key build.exec)).exec

/-- A build that also hands out its definition, its moments and the registry that it leaves. -/
def recorded {β : Type} (key : TypeKey) (before : Registry)
    (build : StateM Registry ((TypeDef × β) × List Moment)) :
    StateM Registry (TypeDef × β × TypeDef × List Moment × Registry) := do
  let reserved ← get
  let ((definition, extra), inner) ← build
  pure (definition, extra, definition, ⟨.opened key, before, reserved⟩ :: inner, ← get)

/-- The program with a record of its moments. -/
def run {α : Type} : Program α → StateM Registry (α × List Moment)
  | done result => pure (result, [])
  | look next => do (next (← get)).run
  | insert key definition next => do
    let before ← get
    let answer ← Registry.insert key definition
    let after ← get
    let (result, rest) ← (next answer).run
    pure (result, ⟨.inserted key definition answer, before, after⟩ :: rest)
  | registerWith key build next => do
    let before ← get
    let (answer, ran) ← Registry.registerWith key (recorded key before build.run)
    let after ← get
    let (result, rest) ← (next (answer, ran.map (·.1))).run
    match ran with
    | none => pure (result, ⟨.passed key answer, before, after⟩ :: rest)
    | some (_, definition, inner, closing) =>
      pure (result, inner ++ ⟨.built key definition answer, closing, after⟩ :: rest)

end Program

/-! ## What an operation does -/

/-- Is a key defined or reserved? -/
def Taken (r : Registry) (key : TypeKey) : Prop := r.contains key ∨ key ∈ r.reserved

/-- The registry with a further key reserved. -/
def reserve (r : Registry) (key : TypeKey) : Registry := { r with reserved := r.reserved ++ [key] }

theorem taken_iff :
    (r.contains key || r.reserved.contains key) = true ↔ r.Taken key := by
  rw [Bool.or_eq_true, List.contains_iff_mem]
  rfl

theorem registerWith_of_taken (taken : r.Taken key) (build : StateM Registry (TypeDef × β)) :
    (registerWith key build).run r = ((.reference key, none), r) := by
  show (ite _ _ _ : StateM Registry (TypeExpr × Option β)).run r = _
  rw [if_pos (taken_iff.mpr taken)]
  rfl

theorem registerWith_of_free (free : ¬r.Taken key) (build : StateM Registry (TypeDef × β)) :
    (registerWith key build).run r =
      ((.reference key, some (build.run (r.reserve key)).1.2),
        (build.run (r.reserve key)).2.define key (build.run (r.reserve key)).1.1) := by
  show (ite _ _ _ : StateM Registry (TypeExpr × Option β)).run r = _
  rw [if_neg (mt taken_iff.mp free)]
  rfl

/-! ## The moments of a run -/

/-- What can happen in a moment. -/
inductive Moment.Lawful : Moment → Prop
  | inserted {key : TypeKey} {definition : TypeDef} {r : Registry} :
      Lawful ⟨.inserted key definition (.named key []), r, r.define key definition⟩
  | passed {key : TypeKey} {r : Registry} (taken : r.Taken key) :
      Lawful ⟨.passed key (.named key []), r, r⟩
  | opened {key : TypeKey} {r : Registry} (free : ¬r.Taken key) :
      Lawful ⟨.opened key, r, r.reserve key⟩
  | built {key : TypeKey} {definition : TypeDef} {r : Registry} :
      Lawful ⟨.built key definition (.named key []), r, r.define key definition⟩

/-- Moments that lead from a registry to another. -/
inductive Steps : Registry → List Moment → Registry → Prop
  | nil {r : Registry} : Steps r [] r
  | cons {m : Moment} {log : List Moment} {t : Registry} (lawful : m.Lawful)
      (rest : Steps m.after log t) : Steps m.before (m :: log) t

theorem Steps.append (first : Steps r log s) (rest : Steps s log' t) : Steps r (log ++ log') t := by
  induction first with
  | nil => exact rest
  | cons lawful _ ih => exact .cons lawful (ih rest)

theorem steps_append (h : Steps r (log ++ log') t) : ∃ s, Steps r log s ∧ Steps s log' t := by
  induction log generalizing r with
  | nil => exact ⟨r, .nil, h⟩
  | cons m log ih =>
    cases h with
    | cons lawful rest =>
      obtain ⟨s, first, rest⟩ := ih rest
      exact ⟨s, .cons lawful first, rest⟩

/-- The keys whose builds begin in these moments. -/
def begun (log : List Moment) : List TypeKey := log.filterMap (·.event.begins)

/-- The keys whose builds end in these moments. -/
def ended (log : List Moment) : List TypeKey := log.filterMap (·.event.ends)

/-- After these moments, is the key being built? -/
def InProgress (key : TypeKey) (log : List Moment) : Prop := key ∈ begun log ∧ key ∉ ended log

/-- The registry after these moments. -/
def reached (log : List Moment) : Registry := log.foldl (fun _ m => m.after) .empty

namespace Program

variable {next : TypeExpr × Option β → Program α} {build : Program (TypeDef × β)}

theorem get_run : (get : StateM Registry Registry) r = (r, r) := rfl

theorem run_registerWith_of_taken (taken : r.Taken key) :
    (registerWith key build next).run r =
      let after := (next (.reference key, none)).run r
      ((after.1.1, ⟨.passed key (.named key []), r, r⟩ :: after.1.2), after.2) := by
  have step := registerWith_of_taken taken (recorded key r build.run)
  simp only [StateT.run] at step
  simp only [run, bind, StateT.bind, get_run, step]
  rfl

theorem run_registerWith_of_free (free : ¬r.Taken key) :
    (registerWith key build next).run r =
      let inner := build.run (r.reserve key)
      let ended := inner.2.define key inner.1.1.1
      let after := (next (.reference key, some inner.1.1.2)).run ended
      ((after.1.1, ⟨.opened key, r, r.reserve key⟩ :: inner.1.2 ++
        ⟨.built key inner.1.1.1 (.named key []), inner.2, ended⟩ :: after.1.2), after.2) := by
  have step := registerWith_of_free free (recorded key r build.run)
  simp only [StateT.run] at step
  simp only [run, bind, StateT.bind, get_run, step]
  rfl

/-- A run goes from moment to moment. -/
theorem steps_run (p : Program α) (r : Registry) : Steps r (p.run r).1.2 (p.run r).2 := by
  induction p generalizing r with
  | done _ => exact .nil
  | look next ih => exact ih r r
  | insert key definition next ih => exact .cons .inserted (ih _ _)
  | registerWith key build next ihBuild ih =>
    by_cases taken : r.Taken key
    · rw [run_registerWith_of_taken taken]
      exact .cons (.passed taken) (ih _ r)
    · -- the moments of the build stand between its beginning and its end
      rw [run_registerWith_of_free taken]
      exact .cons (.opened taken) ((ihBuild _).append (.cons .built (ih _ _)))

/-- The record does not change what the program does. -/
theorem exec_eq_run (p : Program α) (r : Registry) :
    p.exec r = ((p.run r).1.1, (p.run r).2) := by
  induction p generalizing r with
  | done _ => rfl
  | look next ih => exact ih r r
  | insert key definition next ih => exact ih _ _
  | registerWith key build next ihBuild ih =>
    by_cases taken : r.Taken key
    · have step := registerWith_of_taken taken build.exec
      simp only [StateT.run] at step
      rw [run_registerWith_of_taken taken]
      simp only [exec, bind, StateT.bind, step]
      exact ih _ r
    · have step := registerWith_of_free taken build.exec
      simp only [StateT.run, ihBuild] at step
      rw [run_registerWith_of_free taken]
      simp only [exec, bind, StateT.bind, step]
      exact ih _ _

/-- The builds that end are those that begin. -/
theorem ended_perm_begun (p : Program α) (r : Registry) :
    (ended (p.run r).1.2).Perm (begun (p.run r).1.2) := by
  induction p generalizing r with
  | done _ => exact .nil
  | look next ih => exact ih r r
  | insert key definition next ih => exact ih _ _
  | registerWith key build next ihBuild ih =>
    by_cases taken : r.Taken key
    · rw [run_registerWith_of_taken taken]
      exact ih _ r
    · rw [run_registerWith_of_free taken]
      simp only [begun, ended, List.cons_append, List.filterMap_cons, List.filterMap_append,
        Event.begins, Event.ends]
      exact List.perm_middle.trans (((ihBuild _).append (ih _ _)).cons key)

end Program

/-! ## What one moment leaves behind -/

theorem lookup_define : (r.define key definition).lookup other =
    if other = key then some definition else r.lookup other :=
  Entries.find?_insert r.types key other definition

theorem contains_define :
    (r.define key definition).contains other ↔ other = key ∨ r.contains other := by
  rw [contains, lookup_define]
  by_cases same : other = key
  · rw [if_pos same]
    exact ⟨fun _ => .inl same, fun _ => rfl⟩
  · rw [if_neg same]
    exact ⟨.inr, fun h => h.resolve_left same⟩

theorem mem_reserved_define :
    other ∈ (r.define key definition).reserved ↔ other ∈ r.reserved ∧ other ≠ key := by
  rw [define, List.mem_filter, decide_eq_true_iff]

theorem mem_reserved_reserve :
    other ∈ (r.reserve key).reserved ↔ other ∈ r.reserved ∨ other = key := by
  rw [reserve, List.mem_append, List.mem_singleton]

/-- The defined keys stay where they are. -/
theorem keys_prefix_define : r.keys <+: (r.define key definition).keys := by
  show r.types.keys <+: (Entries.insert key definition r.types).keys
  rw [Entries.keys_insert]
  split
  · exact List.prefix_rfl
  · exact List.prefix_append ..

theorem Moment.Lawful.keys_prefix (lawful : m.Lawful) : m.before.keys <+: m.after.keys := by
  cases lawful with
  | inserted | built => exact keys_prefix_define
  | passed | opened => exact List.prefix_rfl

theorem Steps.keys_prefix (h : Steps r log s) : r.keys <+: s.keys := by
  induction h with
  | nil => exact List.prefix_rfl
  | cons lawful _ ih => exact lawful.keys_prefix.trans ih

theorem Steps.lawful (h : Steps r log s) : ∀ m ∈ log, m.Lawful := by
  induction h with
  | nil => exact fun _ h => nomatch h
  | cons lawful _ ih => exact List.forall_mem_cons.mpr ⟨lawful, ih⟩

theorem begun_snoc : begun (log ++ [m]) = begun log ++ m.event.begins.toList := by
  rw [begun, List.filterMap_append]
  rfl

theorem ended_snoc : ended (log ++ [m]) = ended log ++ m.event.ends.toList := by
  rw [ended, List.filterMap_append]
  rfl

/-- What the moments so far say about the registry after them. -/
structure Account (log : List Moment) (r : Registry) : Prop where
  /-- A key is reserved while it is being built, as long as nothing is inserted under it. -/
  reserved_iff : ∀ key, key ∈ r.reserved ↔ InProgress key log ∧ ¬r.contains key
  /-- What has been built is defined. -/
  defined : ∀ key ∈ ended log, r.contains key
  /-- No key has two builds. -/
  once : (begun log).Nodup

namespace Account

theorem empty : Account [] .empty where
  reserved_iff _ := ⟨fun h => (nomatch h), fun h => (nomatch h.1.1)⟩
  defined _ h := nomatch h
  once := .nil

/-- A key whose build has begun stays taken. -/
theorem taken (account : Account log r) (h : key ∈ begun log) : r.Taken key := by
  by_cases hdefined : r.contains key
  · exact .inl hdefined
  · have : key ∉ ended log := fun h => hdefined (account.defined key h)
    exact .inr ((account.reserved_iff key).mpr ⟨⟨h, this⟩, hdefined⟩)

/-- A moment in which nothing is written and no build begins. -/
theorem pass (account : Account log r) (begins : m.event.begins = none)
    (ends : m.event.ends = none) : Account (log ++ [m]) r := by
  have hbegun : begun (log ++ [m]) = begun log := by
    rw [begun_snoc, begins, Option.toList_none, List.append_nil]
  have hended : ended (log ++ [m]) = ended log := by
    rw [ended_snoc, ends, Option.toList_none, List.append_nil]
  constructor
  · intro key
    rw [InProgress, hbegun, hended]
    exact account.reserved_iff key
  · rw [hended]
    exact account.defined
  · rw [hbegun]
    exact account.once

/-- A moment in which a definition is inserted. -/
theorem insert (account : Account log r) (begins : m.event.begins = none)
    (ends : m.event.ends = none) : Account (log ++ [m]) (r.define key definition) := by
  have account := account.pass begins ends
  constructor
  · intro other
    rw [mem_reserved_define, contains_define, account.reserved_iff, not_or]
    exact ⟨fun ⟨⟨h, h'⟩, unequal⟩ => ⟨h, unequal, h'⟩, fun ⟨h, unequal, h'⟩ => ⟨⟨h, h'⟩, unequal⟩⟩
  · exact fun other h => contains_define.mpr (.inr (account.defined other h))
  · exact account.once

/-- A moment in which a build begins. -/
theorem openBuild (account : Account log r) (free : ¬r.Taken key)
    (begins : m.event.begins = some key) (ends : m.event.ends = none) :
    Account (log ++ [m]) (r.reserve key) := by
  have hbegun : begun (log ++ [m]) = begun log ++ [key] := by
    rw [begun_snoc, begins, Option.toList_some]
  have hended : ended (log ++ [m]) = ended log := by
    rw [ended_snoc, ends, Option.toList_none, List.append_nil]
  have notBegun : key ∉ begun log := fun h => free (account.taken h)
  have notEnded : key ∉ ended log := fun h => free (.inl (account.defined key h))
  have undefined : ¬(r.reserve key).contains key := fun h => free (.inl h)
  constructor
  · intro other
    rw [InProgress, hbegun, hended, mem_reserved_reserve, List.mem_append, List.mem_singleton]
    by_cases same : other = key
    · subst same
      exact ⟨fun _ => ⟨⟨.inr rfl, notEnded⟩, undefined⟩, fun _ => .inr rfl⟩
    · rw [or_iff_left same, or_iff_left same]
      exact account.reserved_iff other
  · rw [hended]
    exact account.defined
  · rw [hbegun, List.nodup_append]
    refine ⟨account.once, List.nodup_singleton key, fun other h k hk => ?_⟩
    rw [List.mem_singleton.mp hk]
    exact fun same => notBegun (same ▸ h)

/-- A moment in which a build ends. -/
theorem endBuild (account : Account log r) (begins : m.event.begins = none)
    (ends : m.event.ends = some key) : Account (log ++ [m]) (r.define key definition) := by
  have hbegun : begun (log ++ [m]) = begun log := by
    rw [begun_snoc, begins, Option.toList_none, List.append_nil]
  have hended : ended (log ++ [m]) = ended log ++ [key] := by
    rw [ended_snoc, ends, Option.toList_some]
  constructor
  · intro other
    rw [InProgress, hbegun, hended, mem_reserved_define, contains_define, account.reserved_iff,
      InProgress, List.mem_append, List.mem_singleton, not_or, not_or]
    exact ⟨fun ⟨⟨⟨h, h'⟩, h''⟩, unequal⟩ => ⟨⟨h, h', unequal⟩, unequal, h''⟩,
      fun ⟨⟨h, h', _⟩, unequal, h''⟩ => ⟨⟨⟨h, h'⟩, h''⟩, unequal⟩⟩
  · intro other h
    rw [hended, List.mem_append, List.mem_singleton] at h
    exact contains_define.mpr (h.symm.imp_right (account.defined other))
  · rw [hbegun]
    exact account.once

/-- One moment further. -/
theorem step (account : Account log m.before) (lawful : m.Lawful) :
    Account (log ++ [m]) m.after := by
  cases lawful with
  | inserted => exact account.insert rfl rfl
  | passed => exact account.pass rfl rfl
  | opened free => exact account.openBuild free rfl rfl
  | built => exact account.endBuild rfl rfl

/-- Any number of moments further. -/
theorem steps (account : Account log r) (h : Steps r log' s) : Account (log ++ log') s := by
  induction h generalizing log with
  | nil => rwa [List.append_nil]
  | @cons m rest _ lawful _ ih =>
    rw [List.append_cons]
    exact ih (account.step lawful)

end Account

theorem Steps.reached_eq (h : Steps .empty log r) : reached log = r := by
  have run : ∀ {start log r}, Steps start log r →
      log.foldl (fun _ m => m.after) start = r := by
    intro start log r h
    induction h with
    | nil => rfl
    | cons _ _ ih => exact ih
  exact run h

/-- What is defined under a key that has a definition: the last one inserted since, if any. -/
theorem Steps.lookup_eq (h : Steps r log s) (notBuilt : key ∉ ended log)
    (lookup : r.lookup key = some definition) :
    s.lookup key = some ((log.filterMap (·.event.inserts key)).getLast?.getD definition) := by
  induction h generalizing definition with
  | nil => exact lookup
  | @cons m log _ lawful _ ih =>
    rw [ended, List.filterMap_cons] at notBuilt
    rw [List.filterMap_cons]
    cases lawful with
    | @inserted k d r =>
      by_cases same : k = key
      · rw [ih notBuilt (by rw [lookup_define, if_pos same.symm]), Event.inserts, if_pos same]
        rw [List.getLast?_cons, Option.getD_some]
      · rw [ih notBuilt (by rw [lookup_define, if_neg (Ne.symm same), lookup]), Event.inserts,
          if_neg same]
    | passed | opened => exact ih notBuilt lookup
    | @built k d r =>
      obtain ⟨different, notLater⟩ := not_or.mp (mt List.mem_cons.mpr notBuilt)
      exact ih notLater (by rw [lookup_define, if_neg different, lookup])

/-! ## The record of a whole run -/

/-- What the moments of a run on the registry of no types say, and the registry that it leaves. -/
structure Orderly (log : List Moment) (final : Registry) : Prop where
  /-- Each moment begins with what the one before it left. -/
  linked : ∀ {earlier m later}, log = earlier ++ m :: later → m.before = reached earlier
  reached_eq : reached log = final
  /-- No key is both reserved and defined. -/
  exclusive : ∀ {earlier}, earlier <+: log → ∀ key,
    ¬((reached earlier).contains key ∧ key ∈ (reached earlier).reserved)
  /-- A key is reserved while it is being built, as long as nothing is inserted under it. -/
  reserved_iff : ∀ {earlier}, earlier <+: log → ∀ key,
    key ∈ (reached earlier).reserved ↔ InProgress key earlier ∧ ¬(reached earlier).contains key
  /-- No key has two builds. -/
  once : (begun log).Nodup
  /-- No build of a key begins while one is in progress. -/
  alone : ∀ {earlier m later key}, log = earlier ++ m :: later → m.event = .opened key →
    ¬InProgress key earlier
  /-- Only keys that are neither defined nor reserved are built. -/
  fresh : ∀ m ∈ log, ∀ {key}, m.event = .opened key → ¬m.before.Taken key
  /-- Else a registration changes nothing. -/
  passed : ∀ m ∈ log, ∀ {key answer}, m.event = .passed key answer →
    m.before.Taken key ∧ m.after = m.before
  /-- Every operation answers with the plain reference to its key. -/
  replies : ∀ m ∈ log, ∀ {key answer}, m.event.reply = some (key, answer) → answer = .named key []
  /-- What is defined stays defined, and in its place. -/
  kept : ∀ {earlier later}, earlier <+: later → later <+: log →
    (reached earlier).keys <+: (reached later).keys
  /-- In the end no key is reserved. -/
  released : final.reserved = []
  /-- Each build that begins comes to an end. -/
  concluded : ∀ key ∈ begun log, key ∈ ended log
  /-- What has been built is defined in the end, unless something else is inserted later. -/
  settled : ∀ {earlier m later key definition answer}, log = earlier ++ m :: later →
    m.event = .built key definition answer →
    final.lookup key = some ((later.filterMap (·.event.inserts key)).getLast?.getD definition)

/-- The moments before and after one of them. -/
theorem Steps.around (h : Steps r (earlier ++ m :: later) s) :
    Steps r earlier m.before ∧ Steps m.after later s := by
  obtain ⟨t, first, rest⟩ := steps_append h
  cases rest with
  | cons _ rest => exact ⟨first, rest⟩

theorem Moment.Lawful.lookup_of_built {answer : TypeExpr} (lawful : m.Lawful)
    (built : m.event = .built key definition answer) : m.after.lookup key = some definition := by
  cases lawful with
  | built =>
    cases built
    exact lookup_define.trans (if_pos rfl)
  | inserted | passed | opened => cases built

theorem Moment.Lawful.free_of_opened (lawful : m.Lawful) (opened : m.event = .opened key) :
    ¬m.before.Taken key := by
  cases lawful with
  | opened free =>
    cases opened
    exact free
  | inserted | passed | built => cases opened

theorem Moment.Lawful.taken_of_passed {answer : TypeExpr} (lawful : m.Lawful)
    (passed : m.event = .passed key answer) : m.before.Taken key ∧ m.after = m.before := by
  cases lawful with
  | passed taken =>
    cases passed
    exact ⟨taken, rfl⟩
  | inserted | opened | built => cases passed

theorem Moment.Lawful.answer_eq {answer : TypeExpr} (lawful : m.Lawful)
    (reply : m.event.reply = some (key, answer)) : answer = .named key [] := by
  cases lawful with
  | inserted | passed | built =>
    cases reply
    rfl
  | opened => cases reply

/-- Moments that lead from the registry of no types to another are orderly, when the builds that end
are those that begin. -/
theorem Steps.orderly (h : Steps .empty log r) (matched : (ended log).Perm (begun log)) :
    Orderly log r := by
  have steps : ∀ {earlier}, earlier <+: log → Steps .empty earlier (reached earlier) := by
    rintro earlier ⟨later, rfl⟩
    obtain ⟨s, first, _⟩ := steps_append h
    rwa [first.reached_eq]
  have account : ∀ {earlier}, earlier <+: log → Account earlier (reached earlier) := fun hprefix =>
    Account.empty.steps (steps hprefix)
  have final : Account log r := Account.empty.steps h
  have concluded : ∀ key ∈ begun log, key ∈ ended log := fun _ => matched.mem_iff.mpr
  have endsOnce : (ended log).Nodup := matched.nodup_iff.mpr final.once
  constructor
  case linked =>
    intro earlier m later split
    exact ((split ▸ h).around.1.reached_eq).symm
  case reached_eq => exact h.reached_eq
  case exclusive =>
    exact fun hprefix key both => ((account hprefix).reserved_iff key |>.mp both.2).2 both.1
  case reserved_iff => exact fun hprefix => (account hprefix).reserved_iff
  case once => exact final.once
  case alone =>
    intro earlier m later key split opened inProgress
    have once := final.once
    rw [split, begun, List.filterMap_append, List.filterMap_cons, opened] at once
    exact (List.nodup_middle.mp once).notMem (List.mem_append_left _ inProgress.1)
  case fresh => exact fun m hm _ => (h.lawful m hm).free_of_opened
  case passed => exact fun m hm _ _ => (h.lawful m hm).taken_of_passed
  case replies => exact fun m hm _ _ => (h.lawful m hm).answer_eq
  case kept =>
    rintro earlier _ ⟨between, rfl⟩ hprefix
    obtain ⟨s, first, rest⟩ := steps_append (steps hprefix)
    rw [first.reached_eq]
    exact rest.keys_prefix
  case released =>
    refine List.eq_nil_iff_forall_not_mem.mpr fun key reserved => ?_
    obtain ⟨⟨begins, notEnded⟩, _⟩ := (final.reserved_iff key).mp reserved
    exact notEnded (concluded key begins)
  case concluded => exact concluded
  case settled =>
    intro earlier m later key definition answer split built
    have lawful : m.Lawful := h.lawful m (split ▸ List.mem_append_right _ (.head _))
    have notAgain : key ∉ ended later := by
      rw [split, ended, List.filterMap_append, List.filterMap_cons, built] at endsOnce
      exact fun again => (List.nodup_middle.mp endsOnce).notMem (List.mem_append_right _ again)
    exact (split ▸ h).around.2.lookup_eq notAgain (lawful.lookup_of_built built)

/-- **Registration builds each type once.** -/
theorem Program.run_orderly (p : Program α) :
    Orderly (p.run .empty).1.2 (p.run .empty).2 ∧
      p.exec .empty = ((p.run .empty).1.1, (p.run .empty).2) :=
  ⟨(p.steps_run .empty).orderly (p.ended_perm_begun .empty), p.exec_eq_run .empty⟩

/-- A definition that is inserted under a key while it is being built. The key is built once all the
same, and the definition of the build replaces the inserted one. -/
example :
    let again : Program (TypeDef × Unit) := .done (.opaqueType "again", ())
    let program : Program TypeExpr :=
      .registerWith "A" (.insert "A" (.opaqueType "early") fun _ =>
        .registerWith "A" again fun _ => .done (.opaqueType "late", ())) fun built => .done built.1
    begun (program.run .empty).1.2 = ["A"] ∧
      (program.exec .empty).2.lookup "A" = some (.opaqueType "late") := ⟨rfl, rfl⟩

end Registry

end SchemaDialogue
