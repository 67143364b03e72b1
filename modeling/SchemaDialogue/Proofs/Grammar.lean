import SchemaDialogue.Proofs.Blame
import SchemaDialogue.Proofs.JsonText
import SchemaDialogue.Proofs.Reading

/-!
# The grammar of a JSON text

A draft is built without judging it, and judged when it is read. Together this follows a grammar:
`Draft.Reads` tells from which tokens which value is read, and which tokens are left. A listing ends
with its closing token or goes on after a comma, with one more item or member.

* **exactness**: `Draft.reads_iff`;
* **names**: `Draft.Reads.distinct`. However often a text repeats a name, the object that is read
  has it once;
* **what follows plays no part**: `Draft.Reads.inFront`. The tokens of a value are those in front of
  what is left, and the value is read from them whatever is left.
-/

namespace SchemaDialogue

/-- A token that its text completes. -/
def Token.Whole (t : Token) : Prop := ∀ beginning strict lax, t.kind ≠ .broken beginning strict lax

/-- Tokens in front of a stream. -/
def Stream.before (tokens : List Token) (s : Stream) : Stream := tokens.foldr .token s

theorem Stream.before_append (first second : List Token) (s : Stream) :
    before (first ++ second) s = before first (before second s) :=
  List.foldr_append

namespace Draft

open Read (exists_of_bind_eq_ok exists_of_map_eq_ok)

mutual

/-- From these tokens this value is read, and these tokens are left. -/
inductive Reads : Nesting → Stream → Json → Stream → Prop
  | leaf {nesting t rest v} : leafValue t = .ok v → Reads nesting (.token t rest) v rest
  | emptyArray {nesting deeper opening closing rest} : opening.kind = .beginArray →
      descend opening nesting = .ok deeper → closing.kind = .endArray →
      Reads nesting (.token opening (.token closing rest)) (.array []) rest
  | array {nesting deeper opening s items rest} : opening.kind = .beginArray →
      descend opening nesting = .ok deeper → ReadsItems deeper s items rest →
      Reads nesting (.token opening s) (.array items) rest
  | emptyObject {nesting deeper opening closing rest} : opening.kind = .beginObject →
      descend opening nesting = .ok deeper → closing.kind = .endObject →
      Reads nesting (.token opening (.token closing rest)) (.object []) rest
  | object {nesting deeper opening s members rest} : opening.kind = .beginObject →
      descend opening nesting = .ok deeper → ReadsMembers deeper s members rest →
      Reads nesting (.token opening s) (.object (Entries.ofList members)) rest

/-- From these tokens these items are read, and these tokens are left. -/
inductive ReadsItems : Nesting → Stream → List Json → Stream → Prop
  | last {nesting s v closing rest} : Reads nesting s v (.token closing rest) →
      closing.kind = .endArray → ReadsItems nesting s [v] rest
  | more {nesting s v comma s' items rest} : Reads nesting s v (.token comma s') →
      comma.kind = .comma → ReadsItems nesting s' items rest →
      ReadsItems nesting s (v :: items) rest

/-- From these tokens these members are read, and these tokens are left. -/
inductive ReadsMembers : Nesting → Stream → List (String × Json) → Stream → Prop
  | last {nesting key name colon s v closing rest} : key.kind = .text (.ok name) →
      colon.kind = .colon → Reads nesting s v (.token closing rest) → closing.kind = .endObject →
      ReadsMembers nesting (.token key (.token colon s)) [(name, v)] rest
  | more {nesting key name colon s v comma s' members rest} : key.kind = .text (.ok name) →
      colon.kind = .colon → Reads nesting s v (.token comma s') → comma.kind = .comma →
      ReadsMembers nesting s' members rest →
      ReadsMembers nesting (.token key (.token colon s)) ((name, v) :: members) rest

end

variable {nesting : Nesting} {s rest : Stream} {v : Json}

/-! ## What is read follows the grammar -/

/-- How a list begins. -/
theorem firstItem_cases (s : Stream) :
    (∃ closing rest, closing.kind = .endArray ∧ s = .token closing rest ∧
      (firstItem s).1 = ([], .closed closing, rest)) ∨
    (firstItem s).1 = (items s).1 ∨
    ∃ p, s = .finish p ∧ (firstItem s).1 = ([], .stuck .item s, s) := by
  rw [firstItem.eq_def]
  cases s with
  | finish p => exact .inr (.inr ⟨_, rfl, rfl⟩)
  | token t rest =>
    obtain ⟨kind, _, _, _⟩ := t
    cases kind with
    | endArray => exact .inl ⟨_, _, rfl, rfl, rfl⟩
    | _ => exact .inr (.inl rfl)

/-- How a list of items goes on after its first one. -/
theorem items_cases (s : Stream) :
    (∃ closing rest, closing.kind = .endArray ∧ (build s).1.after = .token closing rest ∧
      (items s).1 = ([(build s).1], .closed closing, rest)) ∨
    (∃ comma rest, comma.kind = .comma ∧ (build s).1.after = .token comma rest ∧
      (items s).1 = ((build s).1 :: (items rest).1.1, (items rest).1.2)) ∨
    ∃ wanted before rest, (items s).1 = ([(build s).1], .stuck wanted before, rest) := by
  rw [items]
  dsimp only
  split
  · exact .inr (.inr ⟨_, _, _, rfl⟩)
  · rename_i t rest after
    obtain ⟨kind, start, peeked, stop⟩ := t
    cases kind with
    | endArray => exact .inl ⟨_, _, rfl, after, rfl⟩
    | comma =>
      -- a list does not end with a comma
      cases rest with
      | finish p => exact .inr (.inl ⟨_, _, rfl, after, rfl⟩)
      | token t tail =>
        obtain ⟨kind, _, _, _⟩ := t
        cases kind with
        | endArray => exact .inr (.inr ⟨_, _, _, rfl⟩)
        | _ => exact .inr (.inl ⟨_, _, rfl, after, rfl⟩)
    | _ => exact .inr (.inr ⟨_, _, _, rfl⟩)

/-- How an object begins. -/
theorem firstMember_cases (s : Stream) :
    (∃ closing rest, closing.kind = .endObject ∧ s = .token closing rest ∧
      (firstMember s).1 = ([], .closed closing, rest)) ∨
    (∃ key rest, s = .token key rest ∧ (firstMember s).1 = (members key rest).1) ∨
    ∃ wanted before rest, (firstMember s).1 = ([], .stuck wanted before, rest) := by
  rw [firstMember.eq_def]
  cases s with
  | finish p => exact .inr (.inr ⟨_, _, _, rfl⟩)
  | token t rest =>
    obtain ⟨kind, _, _, _⟩ := t
    cases kind with
    | endObject => exact .inl ⟨_, _, rfl, rfl, rfl⟩
    | text => exact .inr (.inl ⟨_, _, rfl, rfl⟩)
    | _ => exact .inr (.inr ⟨_, _, _, rfl⟩)

/-- How the members of an object go on after the key of the first one. -/
theorem members_cases (key : Token) (s : Stream) :
    (∃ colon rest, colon.kind = .colon ∧ s = .token colon rest ∧
      ((∃ closing tail, closing.kind = .endObject ∧ (build rest).1.after = .token closing tail ∧
        (members key s).1 = ([(⟨key, s⟩, (build rest).1)], .closed closing, tail)) ∨
      ∃ comma next text tail, comma.kind = .comma ∧ next.kind = .text text ∧
        (build rest).1.after = .token comma (.token next tail) ∧
        (members key s).1 =
          ((⟨key, s⟩, (build rest).1) :: (members next tail).1.1, (members next tail).1.2))) ∨
    ∃ drafts wanted before rest, (members key s).1 = (drafts, .stuck wanted before, rest) := by
  rw [members.eq_def]
  split
  · rename_i a b c rest
    dsimp only
    split
    · exact .inr ⟨_, _, _, _, rfl⟩
    · rename_i t tail after
      obtain ⟨kind, start, peeked, stop⟩ := t
      cases kind with
      | endObject => exact .inl ⟨_, _, rfl, rfl, .inl ⟨_, _, rfl, after, rfl⟩⟩
      | comma =>
        cases tail with
        | finish p => exact .inr ⟨_, _, _, _, rfl⟩
        | token t tail =>
          obtain ⟨kind, _, _, _⟩ := t
          cases kind with
          | text => exact .inl ⟨_, _, rfl, rfl, .inr ⟨_, _, _, _, rfl, rfl, after, rfl⟩⟩
          | _ => exact .inr ⟨_, _, _, _, rfl⟩
      | _ => exact .inr ⟨_, _, _, _, rfl⟩
  · exact .inr ⟨_, _, _, _, rfl⟩

theorem keyText_eq_ok {key : Token} {name : String} :
    keyText key = .ok name ↔ key.kind = .text (.ok name) := by
  obtain ⟨kind, _, _, _⟩ := key
  cases kind <;> simp [keyText]

mutual

/-- A value that is read follows the grammar. -/
theorem reads_of_value {nesting : Nesting} {s : Stream} {v : Json}
    (read : (build s).1.value nesting = .ok v) :
    Reads nesting s v (build s).1.after := by
  cases stream : s with
  | finish p =>
    rw [stream, build] at read
    cases read
  | token t rest =>
    rw [stream] at read
    obtain ⟨kind, start, peeked, stop⟩ := t
    cases kind with
    | beginArray =>
      rw [build_array] at read ⊢
      obtain ⟨deeper, descended, read⟩ := exists_of_bind_eq_ok read
      obtain ⟨vs, values, read⟩ := exists_of_bind_eq_ok read
      obtain ⟨_, closed, ⟨⟩⟩ := exists_of_bind_eq_ok read
      obtain ⟨closing, rest, kind, rfl, same⟩ | same | ⟨p, -, same⟩ := firstItem_cases rest
      · rw [same] at values ⊢
        cases values
        exact .emptyArray rfl descended kind
      · rw [same] at values closed ⊢
        exact .array rfl descended (readsItems_of_values values closed)
      · rw [same] at closed
        cases closed
    | beginObject =>
      rw [build_object] at read ⊢
      obtain ⟨deeper, descended, read⟩ := exists_of_bind_eq_ok read
      obtain ⟨ms, values, read⟩ := exists_of_bind_eq_ok read
      obtain ⟨_, closed, ⟨⟩⟩ := exists_of_bind_eq_ok read
      obtain ⟨closing, rest, kind, rfl, same⟩ | ⟨key, rest, rfl, same⟩ |
        ⟨wanted, before, rest, same⟩ := firstMember_cases rest
      · rw [same] at values ⊢
        cases values
        exact .emptyObject rfl descended kind
      · rw [same] at values closed ⊢
        exact .object rfl descended (readsMembers_of_values values closed)
      · rw [same] at closed
        cases closed
    | _ =>
      rw [build.eq_def] at read ⊢
      exact .leaf read
termination_by (s.length, 0)
decreasing_by
  all_goals
    rw [stream]
    exact .left _ _ (by simp only [Stream.length]; omega)

theorem readsItems_of_values {nesting : Nesting} {s : Stream} {vs : List Json}
    (values : itemValues nesting (items s).1.1 = .ok vs)
    (closed : checkEnding (items s).1.2.1 = .ok ()) :
    ReadsItems nesting s vs (items s).1.2.2 := by
  obtain ⟨closing, rest, kind, after, same⟩ | ⟨comma, rest, kind, after, same⟩ |
    ⟨wanted, before, rest, same⟩ := items_cases s
  · rw [same] at values ⊢
    obtain ⟨v, first, values⟩ := exists_of_bind_eq_ok values
    cases values
    exact .last (after ▸ reads_of_value first) kind
  · rw [same] at values closed ⊢
    obtain ⟨v, first, values⟩ := exists_of_bind_eq_ok values
    obtain ⟨vs, others, ⟨⟩⟩ := exists_of_bind_eq_ok values
    have shorter : rest.length < s.length := by
      have le := (build s).2
      rwa [after] at le
    exact .more (after ▸ reads_of_value first) kind (readsItems_of_values others closed)
  · rw [same] at closed
    cases closed
termination_by (s.length, 1)
decreasing_by
  · exact .right _ (by decide)
  · exact .right _ (by decide)
  · exact .left _ _ shorter

theorem readsMembers_of_values {nesting : Nesting} {key : Token} {s : Stream}
    {ms : List (String × Json)}
    (values : memberValues nesting (members key s).1.1 = .ok ms)
    (closed : checkEnding (members key s).1.2.1 = .ok ()) :
    ReadsMembers nesting (.token key s) ms (members key s).1.2.2 := by
  obtain ⟨colon, rest, colonKind, stream, ⟨closing, tail, kind, after, same⟩ |
    ⟨comma, next, text, tail, kind, nextKind, after, same⟩⟩ |
    ⟨drafts, wanted, before, rest, same⟩ := members_cases key s
  · rw [same] at values ⊢
    rw [stream]
    obtain ⟨name, named, values⟩ := exists_of_bind_eq_ok values
    obtain ⟨v, first, values⟩ := exists_of_bind_eq_ok values
    cases values
    exact .last (keyText_eq_ok.mp named) colonKind (after ▸ reads_of_value first) kind
  · rw [same] at values closed ⊢
    rw [stream]
    obtain ⟨name, named, values⟩ := exists_of_bind_eq_ok values
    obtain ⟨v, first, values⟩ := exists_of_bind_eq_ok values
    obtain ⟨ms, others, ⟨⟩⟩ := exists_of_bind_eq_ok values
    have shorter : tail.length + 1 < rest.length := by
      have le := (build rest).2
      rwa [after] at le
    exact .more (keyText_eq_ok.mp named) colonKind (after ▸ reads_of_value first) kind
      (readsMembers_of_values others closed)
  · rw [same] at closed
    cases closed
termination_by (s.length, 1)
decreasing_by
  all_goals
    rw [stream]
    exact .left _ _ (by simp only [Stream.length]; omega)

end

/-! ## The grammar tells what is read -/

theorem Reads.not_endArray {closing : Token} {after : Stream}
    (h : Reads nesting (.token closing after) v rest) : closing.kind ≠ .endArray := by
  obtain ⟨kind, _, _, _⟩ := closing
  rintro ⟨⟩
  cases h with
  | leaf value => cases value
  | _ => contradiction

theorem firstItem_of_reads (h : Reads nesting s v rest) : (firstItem s).1 = (items s).1 := by
  obtain ⟨closing, after, kind, rfl, _⟩ | same | ⟨p, rfl, _⟩ := firstItem_cases s
  · exact absurd kind h.not_endArray
  · exact same
  · cases h

theorem ReadsItems.first {items : List Json} (h : ReadsItems nesting s items rest) :
    ∃ v after, Reads nesting s v after := by
  cases h with
  | last read => exact ⟨_, _, read⟩
  | more read => exact ⟨_, _, read⟩

mutual

theorem Reads.value {nesting : Nesting} {s rest : Stream} {v : Json} :
    Reads nesting s v rest → (build s).1.value nesting = .ok v ∧ (build s).1.after = rest
  | @Reads.leaf _ t _ _ value => by
    obtain ⟨kind, _, _, _⟩ := t
    rw [build.eq_def]
    cases kind with
    | beginArray => cases value
    | beginObject => cases value
    | _ => exact ⟨value, rfl⟩
  | @Reads.emptyArray _ _ opening closing _ opens descended closes => by
    obtain ⟨_, _, _, _⟩ := opening
    obtain ⟨_, _, _, _⟩ := closing
    cases opens
    cases closes
    rw [build_array, firstItem.eq_def, Draft.value, descended]
    exact ⟨rfl, rfl⟩
  | @Reads.array _ _ opening _ _ _ opens descended read => by
    obtain ⟨_, _, _, _⟩ := opening
    cases opens
    obtain ⟨_, _, first⟩ := read.first
    obtain ⟨drafts, closing, same, values⟩ := read.values
    rw [build_array, firstItem_of_reads first, same, Draft.value, descended]
    refine ⟨?_, rfl⟩
    show (itemValues _ drafts >>= _) = _
    rw [values]
    rfl
  | @Reads.emptyObject _ _ opening closing _ opens descended closes => by
    obtain ⟨_, _, _, _⟩ := opening
    obtain ⟨_, _, _, _⟩ := closing
    cases opens
    cases closes
    rw [build_object, firstMember.eq_def, Draft.value, descended]
    exact ⟨rfl, rfl⟩
  | @Reads.object _ _ opening _ _ _ opens descended read => by
    obtain ⟨_, _, _, _⟩ := opening
    cases opens
    obtain ⟨⟨kind, _, _, _⟩, tail, _, drafts, closing, rfl, text, same, values⟩ := read.values
    cases text
    rw [build_object, firstMember.eq_def, same, Draft.value, descended]
    refine ⟨?_, rfl⟩
    show (memberValues _ drafts >>= _) = _
    rw [values]
    rfl

theorem ReadsItems.values {nesting : Nesting} {s rest : Stream} {vs : List Json} :
    ReadsItems nesting s vs rest → ∃ drafts closing,
      (items s).1 = (drafts, .closed closing, rest) ∧ itemValues nesting drafts = .ok vs
  | @ReadsItems.last _ _ _ closing _ read closes => by
    obtain ⟨value, after⟩ := read.value
    obtain ⟨_, _, _, _⟩ := closing
    cases closes
    refine ⟨_, _, items_close after, ?_⟩
    rw [itemValues, value]
    rfl
  | @ReadsItems.more _ _ _ comma _ _ _ read separates further => by
    obtain ⟨value, after⟩ := read.value
    obtain ⟨drafts, closing, same, values⟩ := further.values
    obtain ⟨_, _, next⟩ := further.first
    obtain ⟨_, _, _, _⟩ := comma
    cases separates
    refine ⟨(build s).1 :: drafts, closing, ?_, ?_⟩
    · rw [items_comma after, same]
      rintro start peeked stop tail rfl
      exact next.not_endArray rfl
    · rw [itemValues, value, values]
      rfl

theorem ReadsMembers.values {nesting : Nesting} {s rest : Stream} {ms : List (String × Json)} :
    ReadsMembers nesting s ms rest → ∃ key tail text drafts closing,
      s = .token key tail ∧ key.kind = .text text ∧
        (members key tail).1 = (drafts, .closed closing, rest) ∧
        memberValues nesting drafts = .ok ms
  | @ReadsMembers.last _ key _ _ _ _ closing _ named colon read closes => by
    obtain ⟨value, after⟩ := read.value
    obtain ⟨_, _, _, _⟩ := closing
    cases closes
    refine ⟨key, _, _, _, _, rfl, named, members_close colon after, ?_⟩
    rw [memberValues, keyText_eq_ok.mpr named, value]
    rfl
  | @ReadsMembers.more _ key _ colon s _ comma _ _ _ named kind read separates further => by
    obtain ⟨value, after⟩ := read.value
    obtain ⟨next, tail, text, drafts, closing, rfl, nextKind, same, values⟩ := further.values
    obtain ⟨_, _, _, _⟩ := comma
    cases separates
    refine ⟨key, _, _, (⟨key, .token colon s⟩, (build s).1) :: drafts, closing, rfl, named, ?_, ?_⟩
    · rw [members_comma kind nextKind after, same]
    · rw [memberValues, keyText_eq_ok.mpr named, value, values]
      rfl

end

/-- The grammar is exact. -/
theorem reads_iff :
    Reads nesting s v rest ↔ (build s).1.value nesting = .ok v ∧ (build s).1.after = rest := by
  refine ⟨Reads.value, ?_⟩
  rintro ⟨read, rfl⟩
  exact reads_of_value read

/-! ## No name is repeated -/

theorem distinct_of_leafValue {t : Token} (value : leafValue t = .ok v) : v.Distinct := by
  unfold leafValue at value
  split at value
  case h_1 w _ =>
    cases w <;> cases value <;> exact Json.distinct_leaf nofun nofun
  case h_2 | h_3 =>
    obtain ⟨_, _, ⟨⟩⟩ := exists_of_map_eq_ok value
    exact Json.distinct_leaf nofun nofun
  all_goals cases value

mutual

theorem Reads.distinct {nesting : Nesting} {s rest : Stream} {v : Json} :
    Reads nesting s v rest → v.Distinct
  | .leaf value => distinct_of_leafValue value
  | .emptyArray .. => Json.distinct_array nofun
  | .array _ _ read => Json.distinct_array read.distinct
  | .emptyObject .. => Json.distinct_object .nil nofun
  | .object _ _ read =>
    Json.distinct_object (Entries.nodup_keys_ofList _) fun m mem =>
      read.distinct m (Entries.mem_of_mem_ofList mem)

theorem ReadsItems.distinct {nesting : Nesting} {s rest : Stream} {vs : List Json} :
    ReadsItems nesting s vs rest → ∀ v ∈ vs, v.Distinct
  | .last read _ => List.forall_mem_singleton.mpr read.distinct
  | .more read _ further => List.forall_mem_cons.mpr ⟨read.distinct, further.distinct⟩

theorem ReadsMembers.distinct {nesting : Nesting} {s rest : Stream} {ms : List (String × Json)} :
    ReadsMembers nesting s ms rest → ∀ m ∈ ms, m.2.Distinct
  | .last _ _ read _ => List.forall_mem_singleton.mpr read.distinct
  | .more _ _ read _ further => List.forall_mem_cons.mpr ⟨read.distinct, further.distinct⟩

end

/-! ## What follows plays no part -/

/-- The relation holds of whole tokens in front of `rest`, whatever is put in the place of
`rest`. -/
def InFront (R : Stream → Stream → Prop) (s rest : Stream) : Prop :=
  ∃ tokens, (∀ t ∈ tokens, t.Whole) ∧ s = .before tokens rest ∧ ∀ tail, R (.before tokens tail) tail

section

variable {R R' R'' : Stream → Stream → Prop} {t : Token}

theorem InFront.nil : InFront Eq s s := ⟨[], by simp, rfl, fun _ => rfl⟩

theorem InFront.cons (whole : t.Whole) (h : InFront R s rest)
    (next : ∀ s rest, R s rest → R' (.token t s) rest) : InFront R' (.token t s) rest := by
  obtain ⟨tokens, others, rfl, holds⟩ := h
  exact ⟨t :: tokens, List.forall_mem_cons.mpr ⟨whole, others⟩, rfl, fun tail => next _ _ (holds _)⟩

/-- Two tokens that something follows, a key and its colon. -/
theorem InFront.behind {key colon : Token} (wholeKey : key.Whole) (wholeColon : colon.Whole)
    (h : InFront (fun s rest => R (.token key (.token colon s)) rest) s rest) :
    InFront R (.token key (.token colon s)) rest :=
  have named : InFront (fun s rest => R (.token key s) rest) (.token colon s) rest :=
    .cons wholeColon h fun _ _ => id
  .cons wholeKey named fun _ _ => id

/-- One relation up to a token, and another one behind it. -/
theorem InFront.append {s' : Stream} (h : InFront R s (.token t s')) (whole : t.Whole)
    (h' : InFront R' s' rest) (next : ∀ s s' rest, R s (.token t s') → R' s' rest → R'' s rest) :
    InFront R'' s rest := by
  obtain ⟨first, wholeFirst, rfl, holds⟩ := h
  obtain ⟨second, wholeSecond, rfl, holds'⟩ := h'
  have split : ∀ tail, Stream.before (first ++ t :: second) tail =
      .before first (.token t (.before second tail)) := Stream.before_append first (t :: second)
  refine ⟨first ++ t :: second, ?_, (split rest).symm, fun tail => ?_⟩
  · exact List.forall_mem_append.mpr ⟨wholeFirst, List.forall_mem_cons.mpr ⟨whole, wholeSecond⟩⟩
  · rw [split]
    exact next _ _ _ (holds _) (holds' _)

end

theorem Token.whole_of_leafValue {t : Token} (value : leafValue t = .ok v) : t.Whole := by
  intro beginning strict lax broken
  rw [leafValue, broken] at value
  cases value

/-- The token that closes an empty listing. -/
theorem InFront.single {t : Token} (whole : t.Whole) :
    InFront (fun s rest => s = .token t rest) (.token t rest) rest :=
  .cons whole .nil fun _ _ => congrArg (Stream.token t)

mutual

theorem Reads.inFront {nesting : Nesting} {s rest : Stream} {v : Json} :
    Reads nesting s v rest → InFront (Reads nesting · v) s rest
  | .leaf value => by
    refine .cons (Token.whole_of_leafValue value) .nil ?_
    rintro s _ rfl
    exact .leaf value
  | .emptyArray opens descended closes => by
    refine .cons (by simp [Token.Whole, opens]) (.single (by simp [Token.Whole, closes])) ?_
    rintro _ rest rfl
    exact .emptyArray opens descended closes
  | .array opens descended read =>
    .cons (by simp [Token.Whole, opens]) read.inFront fun _ _ => .array opens descended
  | .emptyObject opens descended closes => by
    refine .cons (by simp [Token.Whole, opens]) (.single (by simp [Token.Whole, closes])) ?_
    rintro _ rest rfl
    exact .emptyObject opens descended closes
  | .object opens descended read =>
    .cons (by simp [Token.Whole, opens]) read.inFront fun _ _ => .object opens descended

theorem ReadsItems.inFront {nesting : Nesting} {s rest : Stream} {vs : List Json} :
    ReadsItems nesting s vs rest → InFront (ReadsItems nesting · vs) s rest
  | .last read closes => by
    refine read.inFront.append (by simp [Token.Whole, closes]) .nil ?_
    rintro s rest _ read rfl
    exact .last read closes
  | .more read separates further =>
    read.inFront.append (by simp [Token.Whole, separates]) further.inFront
      fun _ _ _ read further => .more read separates further

theorem ReadsMembers.inFront {nesting : Nesting} {s rest : Stream} {ms : List (String × Json)} :
    ReadsMembers nesting s ms rest → InFront (ReadsMembers nesting · ms) s rest
  | .last named kind read closes => by
    refine .behind (by simp [Token.Whole, named]) (by simp [Token.Whole, kind]) ?_
    refine read.inFront.append (by simp [Token.Whole, closes]) .nil ?_
    rintro s rest _ read rfl
    exact .last named kind read closes
  | .more named kind read separates further => by
    refine .behind (by simp [Token.Whole, named]) (by simp [Token.Whole, kind]) ?_
    exact read.inFront.append (by simp [Token.Whole, separates]) further.inFront
      fun _ _ _ read further => .more named kind read separates further

end

end Draft

end SchemaDialogue
