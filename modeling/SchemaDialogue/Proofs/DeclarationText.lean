import SchemaDialogue.Proofs.TypeText

/-!
# The text of declarations

Types are written so that their ends can be told (`Node.clear`). So are property names, members and
whole declarations, where names are plain, and therefore the text of undocumented declarations
determines their normal forms (`Declaration.renderAll_eq_iff`): which declarations there are, in
which order, with which names, parameters, bases and members, and their types but for the choices
that are not written.
-/

namespace SchemaDialogue

variable {numerals : Set Number} {s t : List Char}

/-! ## Members -/

namespace Declaration

/-- The first character of a property name tells whether the name is quoted. -/
theorem exists_cons_propertyName (a : String) : ∃ c rest,
    (propertyName a).toList = c :: rest ∧ isNameStart c = isBareName a ∧ c ≠ '[' := by
  rw [propertyName]
  by_cases bare : isBareName a
  · obtain ⟨c, rest, chars, isStart⟩ := exists_isNameStart_of_isBareName bare
    rw [if_pos bare]
    refine ⟨c, rest, chars, isStart.trans bare.symm, ?_⟩
    rintro rfl
    cases isStart
  · rw [if_neg bare, Json.quote, String.toList_ofList]
    exact ⟨'"', _, rfl, (Bool.eq_false_iff.mpr bare).symm, by decide⟩

/-- Property names end where no name goes on, in quotes or not. -/
theorem propertyName_append {a b : String} (hs : Avoids isNamePart s) (ht : Avoids isNamePart t)
    (same : (propertyName a).toList ++ s = (propertyName b).toList ++ t) : a = b ∧ s = t := by
  have first : isBareName a = isBareName b := by
    obtain ⟨c, rest, chars, start, _⟩ := exists_cons_propertyName a
    obtain ⟨d, rest', chars', start', _⟩ := exists_cons_propertyName b
    rw [chars, chars'] at same
    rw [← start, ← start', (List.cons.inj same).1]
  rw [propertyName, propertyName, ← first] at same
  by_cases bare : isBareName a
  · rw [if_pos bare, if_pos bare] at same
    obtain ⟨names, after⟩ := append_eq_of_all (isNamePart_of_isBareName bare)
      (isNamePart_of_isBareName (first ▸ bare)) hs ht same
    exact ⟨String.toList_injective names, after⟩
  · rw [if_neg bare, if_neg bare, Json.quote, Json.quote, String.toList_ofList,
      String.toList_ofList] at same
    exact quotedChars_append same

end Declaration

namespace Member

/-- Members, each with the end of its line; they mean their normal forms. -/
def format (numerals : Set Number) : Format Member Member where
  text m := (Declaration.member m).toList ++ ['\n']
  meaning := normal
  Valid m := (∀ doc ∈ m.docs, Text.trim doc.toList = []) ∧ ∀ n ∈ m.nodes, n.Plain numerals
  Follows _ := True

theorem text_property {p : Property} (blank : Text.trim p.doc.toList = []) :
    (format numerals).text (property p) =
      Declaration.indent.toList ++ ((Declaration.propertyName p.name).toList ++
        ((if p.optional then ['?'] else []) ++
          ':' :: ' ' :: (p.type.render.toList ++ [';', '\n']))) := by
  have marker : (if p.optional then "?" else "").toList = if p.optional then ['?'] else [] := by
    cases p.optional <;> rfl
  show (Declaration.member (property p)).toList ++ ['\n'] = _
  rw [Declaration.member, Declaration.comment_of_blank blank]
  simp [marker]

theorem text_index (key value : Node) :
    (format numerals).text (index key value) =
      Declaration.indent.toList ++ ("[key: ".toList ++ (key.render.toList ++
        (']' :: ':' :: ' ' :: (value.render.toList ++ [';', '\n'])))) := by
  show (Declaration.member (index key value)).toList ++ ['\n'] = _
  rw [Declaration.member]
  simp

/-- The marker of an optional property can be told from its absence. -/
theorem marker_append {o o' : Bool}
    (same : (if o then ['?'] else []) ++ ':' :: s = (if o' then ['?'] else []) ++ ':' :: t) :
    o = o' ∧ s = t := by
  cases o <;> cases o' <;> simp_all

theorem avoids_marker (o : Bool) :
    Avoids Declaration.isNamePart ((if o then ['?'] else []) ++ ':' :: s) := by
  cases o <;> exact avoids_cons.mpr rfl

/-- A type ends where its line does. -/
theorem type_append (injective : Set.InjOn Number.text numerals) {n n' : Node} {c : Char}
    (plain : n.Plain numerals) (plain' : n'.Plain numerals) (close : c ∈ [';', ']', '\n'])
    (same : n.render.toList ++ c :: s = n'.render.toList ++ c :: t) :
    n.normal = n'.normal ∧ s = t := by
  obtain ⟨closed, blank⟩ : Term.isOpen c = false ∧ c ≠ ' ' := by
    simp only [List.mem_cons, List.not_mem_nil, or_false] at close
    rcases close with rfl | rfl | rfl <;> exact ⟨rfl, by decide⟩
  obtain ⟨types, after⟩ := Node.clear injective plain plain' (Term.typeFollows_cons closed blank s)
    (Term.typeFollows_cons closed blank t) same
  exact ⟨types, (List.cons.inj after).2⟩

theorem property_ne_index {p : Property} (blank : Text.trim p.doc.toList = [])
    (key value : Node) :
    (format numerals).text (property p) ++ s ≠ (format numerals).text (index key value) ++ t := by
  obtain ⟨c, rest, chars, _, other⟩ := Declaration.exists_cons_propertyName p.name
  intro same
  rw [text_property blank, text_index, chars, List.append_assoc, List.append_assoc] at same
  exact other (List.cons.inj (List.append_cancel_left same)).1

/-- A member is indented. -/
theorem exists_cons_text (m : Member) (valid : (format numerals).Valid m) :
    ∃ c rest, (format numerals).text m = c :: rest ∧ c ≠ '\x7d' := by
  cases m with
  | property p => exact ⟨' ', _, text_property (valid.1 p.doc (.head _)), by decide⟩
  | index key value => exact ⟨' ', _, text_index key value, by decide⟩

/-- The text of a member determines its normal form, and where it ends. -/
theorem clear (injective : Set.InjOn Number.text numerals) {m : Member}
    (valid : (format numerals).Valid m) : (format numerals).Clear m := by
  intro m' s t valid' _ _ same
  cases m with
  | property p =>
    have blank := valid.1 p.doc (.head _)
    cases m' with
    | index key value => exact absurd same (property_ne_index blank key value)
    | property q =>
      rw [text_property blank, text_property (valid'.1 q.doc (.head _))] at same
      simp only [List.append_assoc, List.cons_append, List.nil_append] at same
      obtain ⟨name, afterName⟩ := Declaration.propertyName_append (avoids_marker p.optional)
        (avoids_marker q.optional) (List.append_cancel_left same)
      obtain ⟨optional, afterMarker⟩ := marker_append afterName
      obtain ⟨type, after⟩ := type_append injective (valid.2 p.type (.head _))
        (valid'.2 q.type (.head _)) (.head _) (List.cons.inj afterMarker).2
      refine ⟨?_, (List.cons.inj after).2⟩
      show property ⟨p.name, p.optional, "", p.type.normal⟩ =
        property ⟨q.name, q.optional, "", q.type.normal⟩
      rw [name, optional, type]
  | index key value =>
    cases m' with
    | property q => exact absurd same.symm (property_ne_index (valid'.1 q.doc (.head _)) key value)
    | index key' value' =>
      rw [text_index, text_index] at same
      simp only [List.append_assoc, List.cons_append, List.nil_append] at same
      obtain ⟨sameKey, afterKey⟩ := type_append injective (valid.2 key (.head _))
        (valid'.2 key' (.head _)) (.tail _ (.head _))
        (List.append_cancel_left (List.append_cancel_left same))
      obtain ⟨sameValue, after⟩ := type_append injective (valid.2 value (.tail _ (.head _)))
        (valid'.2 value' (.tail _ (.head _))) (.head _)
        (List.cons.inj (List.cons.inj afterKey).2).2
      refine ⟨?_, (List.cons.inj after).2⟩
      show index key.normal value.normal = index key'.normal value'.normal
      rw [sameKey, sameValue]

end Member

/-! ## Declarations -/

namespace Declaration

/-- The names of the declaration itself and of its type parameters. -/
def names : Declaration → List String
  | interface i => i.name :: i.typeParams
  | aliased a => a.name :: a.typeParams

/-- A declaration without documentation, in which all names are plain and all numbers among
these. -/
structure Plain (numerals : Set Number) (d : Declaration) : Prop where
  undocumented : d.IsUndocumented
  names : ∀ name ∈ d.names, IsPlainName name
  nodes : ∀ n ∈ d.nodes, n.Plain numerals

theorem Plain.member {i : InterfaceDecl} (plain : (interface i).Plain numerals) {m : Member}
    (hm : m ∈ i.members) : (Member.format numerals).Valid m :=
  ⟨fun doc hdoc => plain.undocumented doc (.tail _ (List.mem_flatMap.mpr ⟨m, hm, hdoc⟩)),
    fun n hn => plain.nodes n (List.mem_append_right _ (List.mem_flatMap.mpr ⟨m, hm, hn⟩))⟩

/-- Declarations, which mean their normal forms. -/
def format (numerals : Set Number) : Format Declaration Declaration where
  text d := d.render.toList
  meaning := normal
  Valid := Plain numerals
  Follows _ := True

theorem isWordPart_of_isPlainName {name : String} (plain : IsPlainName name) :
    ∀ c ∈ name.toList, isWordPart c :=
  fun c hc => isWordPart_of_isNamePart (isNamePart_of_isBareName plain.1 c hc)

theorem toList_params (names : List String) :
    (params names).toList = (Format.word isWordPart).angled names := by
  cases names with
  | nil => rfl
  | cons name rest =>
    rw [params, String.toList_append, String.toList_append, String.toList_intercalate]
    · rfl
    · exact nofun

/-- A name and type parameters end where neither goes on. -/
theorem heading_append {name name' : String} {ps ps' : List String}
    (plain : ∀ w ∈ name :: ps, IsPlainName w) (plain' : ∀ w ∈ name' :: ps', IsPlainName w)
    (hs : Avoids Term.isOpen s) (ht : Avoids Term.isOpen t)
    (same : name.toList ++ ((params ps).toList ++ s) =
      name'.toList ++ ((params ps').toList ++ t)) :
    name = name' ∧ ps = ps' ∧ s = t := by
  obtain ⟨plainName, plainParams⟩ := List.forall_mem_cons.mp plain
  obtain ⟨plainName', plainParams'⟩ := List.forall_mem_cons.mp plain'
  obtain ⟨wordS, angleS, _⟩ := Term.avoids_of_isOpen hs
  obtain ⟨wordT, angleT, _⟩ := Term.avoids_of_isOpen ht
  rw [toList_params, toList_params] at same
  obtain ⟨names, afterName⟩ := append_eq_of_all (isWordPart_of_isPlainName plainName)
    (isWordPart_of_isPlainName plainName') (Format.avoids_angled rfl wordS ps)
    (Format.avoids_angled rfl wordT ps') same
  have clear : ∀ p ∈ ps, (Format.word isWordPart).Clear p :=
    fun p hp => Format.clear_word (isWordPart_of_isPlainName (plainParams p hp))
  obtain ⟨params, after⟩ := Format.angled_append clear
    (fun p hp => isWordPart_of_isPlainName (plainParams' p hp)) (fun _ => avoids_cons.mpr rfl)
    (fun _ => avoids_cons.mpr rfl) angleS angleT afterName
  have params : ps.map id = ps'.map id := params
  rw [List.map_id, List.map_id] at params
  exact ⟨String.toList_injective names, params, after⟩

theorem toList_extending (numerals : Set Number) (bases : List Node) :
    (extending bases).toList = if bases = [] then [] else
      " extends ".toList ++ ((Node.format numerals).separated ", ").text bases := by
  cases bases with
  | nil => rfl
  | cons base rest =>
    rw [if_neg (List.cons_ne_nil _ _), extending, String.toList_append, String.toList_intercalate,
      Node.renderAll_eq_map, List.map_map]
    · rfl
    · exact List.cons_ne_nil base rest

theorem avoids_extending (bases : List Node) :
    Avoids Term.isOpen ((extending bases).toList ++ (" \x7b\n".toList ++ s)) := by
  rw [toList_extending ∅]
  split
  · exact avoids_cons.mpr rfl
  · exact avoids_cons.mpr rfl

/-- The bases end where the members begin. -/
theorem extending_append (injective : Set.InjOn Number.text numerals) {bases bases' : List Node}
    (plain : ∀ n ∈ bases, n.Plain numerals) (plain' : ∀ n ∈ bases', n.Plain numerals)
    (same : (extending bases).toList ++ (" \x7b\n".toList ++ s) =
      (extending bases').toList ++ (" \x7b\n".toList ++ t)) :
    bases.map Node.normal = bases'.map Node.normal ∧ s = t := by
  rw [toList_extending numerals, toList_extending numerals] at same
  have noBrace : ∀ {s t : List Char}, " \x7b\n".toList ++ s ≠ " extends ".toList ++ t :=
    fun same => absurd (List.cons.inj (List.cons.inj same).2).1 (by decide)
  by_cases nonempty : bases = []
  · by_cases nonempty' : bases' = []
    · subst nonempty nonempty'
      exact ⟨rfl, List.append_cancel_left same⟩
    · rw [if_pos nonempty, if_neg nonempty', List.append_assoc] at same
      exact absurd same noBrace
  · by_cases nonempty' : bases' = []
    · rw [if_neg nonempty, if_pos nonempty', List.append_assoc] at same
      exact absurd same.symm noBrace
    · rw [if_neg nonempty, if_neg nonempty', List.append_assoc, List.append_assoc] at same
      have brace : ∀ s, ((Node.format numerals).separated ", ").Follows (" \x7b\n".toList ++ s) :=
        fun s => ⟨⟨avoids_cons.mpr rfl, fun h =>
          absurd (List.cons_prefix_cons.mp (List.cons_prefix_cons.mp h).2).1 (by decide)⟩,
          fun h => absurd (List.cons_prefix_cons.mp h).1 (by decide)⟩
      have clear : ∀ n ∈ bases, (Node.format numerals).Clear n :=
        fun n hn => Node.clear injective (plain n hn)
      obtain ⟨types, after⟩ := Format.Clear.separated nonempty Term.typeFollows_comma clear
        ⟨nonempty', plain'⟩ (brace s) (brace t) (List.append_cancel_left same)
      exact ⟨types, List.append_cancel_left after⟩

theorem text_interface (numerals : Set Number) {i : InterfaceDecl}
    (blank : Text.trim i.doc.toList = []) :
    (interface i).render.toList =
      "interface ".toList ++ (i.name.toList ++ ((params i.typeParams).toList ++
        ((extending i.bases).toList ++ (" \x7b\n".toList ++
          (i.members.flatMap (Member.format numerals).text ++ ['\x7d', '\n']))))) := by
  have members : (String.join (i.members.map fun m => member m ++ "\n")).toList =
      i.members.flatMap (Member.format numerals).text := by
    rw [String.toList_join, List.flatMap_map]
    refine congrArg (List.flatMap · i.members) (funext fun m => ?_)
    exact String.toList_append
  rw [render, comment_of_blank blank]
  simp [members]

theorem text_aliased {a : AliasDecl} (blank : Text.trim a.doc.toList = []) :
    (aliased a).render.toList =
      "type ".toList ++ (a.name.toList ++ ((params a.typeParams).toList ++
        (" = ".toList ++ (a.target.render.toList ++ ['\n'])))) := by
  rw [render, comment_of_blank blank]
  simp

/-- An interface is not written like an alias. -/
theorem interface_ne_aliased {i : InterfaceDecl} {a : AliasDecl}
    (blank : Text.trim i.doc.toList = []) (blank' : Text.trim a.doc.toList = []) :
    (interface i).render.toList ++ s ≠ (aliased a).render.toList ++ t := by
  rw [text_interface ∅ blank, text_aliased blank']
  exact fun same => absurd (List.cons.inj same).1 (by decide)

/-- The text of an interface determines its normal form, and where it ends. -/
theorem interface_append (injective : Set.InjOn Number.text numerals) {i j : InterfaceDecl}
    (plain : (interface i).Plain numerals) (plain' : (interface j).Plain numerals)
    (same : (interface i).render.toList ++ s = (interface j).render.toList ++ t) :
    (interface i).normal = (interface j).normal ∧ s = t := by
  have blank := plain.undocumented i.doc (.head _)
  have blank' := plain'.undocumented j.doc (.head _)
  rw [text_interface numerals blank, text_interface numerals blank'] at same
  simp only [List.append_assoc, List.cons_append, List.nil_append] at same
  obtain ⟨name, params, afterHeading⟩ := heading_append plain.names plain'.names
    (avoids_extending i.bases) (avoids_extending j.bases) (List.append_cancel_left same)
  obtain ⟨bases, afterBases⟩ := extending_append injective
    (fun n hn => plain.nodes n (List.mem_append_left _ hn))
    (fun n hn => plain'.nodes n (List.mem_append_left _ hn)) afterHeading
  obtain ⟨members, after⟩ := Format.Clear.flatMap
    (fun m hm => Member.clear injective (plain.member hm)) (fun m hm => plain.member hm)
    (fun m hm => plain'.member hm) (fun _ => trivial) Member.exists_cons_text afterBases
  refine ⟨?_, (List.cons.inj after).2⟩
  show interface ⟨i.name, i.typeParams, "", i.bases.map Node.normal, i.members.map Member.normal⟩ =
    interface ⟨j.name, j.typeParams, "", j.bases.map Node.normal, j.members.map Member.normal⟩
  rw [name, params, bases, show i.members.map Member.normal = j.members.map Member.normal from
    members]

/-- The text of an alias determines its normal form, and where it ends. -/
theorem aliased_append (injective : Set.InjOn Number.text numerals) {a b : AliasDecl}
    (plain : (aliased a).Plain numerals) (plain' : (aliased b).Plain numerals)
    (same : (aliased a).render.toList ++ s = (aliased b).render.toList ++ t) :
    (aliased a).normal = (aliased b).normal ∧ s = t := by
  have blank := plain.undocumented a.doc (.head _)
  have blank' := plain'.undocumented b.doc (.head _)
  have equals : ∀ s, Avoids Term.isOpen (" = ".toList ++ s) := fun s => avoids_cons.mpr rfl
  rw [text_aliased blank, text_aliased blank'] at same
  simp only [List.append_assoc, List.cons_append, List.nil_append] at same
  obtain ⟨name, params, afterHeading⟩ := heading_append plain.names plain'.names
    (equals _) (equals _) (List.append_cancel_left same)
  obtain ⟨target, after⟩ := Member.type_append injective (plain.nodes a.target (.head _))
    (plain'.nodes b.target (.head _)) (.tail _ (.tail _ (.head _)))
    (List.append_cancel_left afterHeading)
  refine ⟨?_, after⟩
  show aliased ⟨a.name, a.typeParams, "", a.target.normal⟩ =
    aliased ⟨b.name, b.typeParams, "", b.target.normal⟩
  rw [name, params, target]

/-- The text of a declaration determines its normal form, and where it ends. -/
theorem clear (injective : Set.InjOn Number.text numerals) {d : Declaration}
    (plain : d.Plain numerals) : (format numerals).Clear d := by
  intro d' s t plain' _ _ same
  have same : d.render.toList ++ s = d'.render.toList ++ t := same
  show d.normal = d'.normal ∧ s = t
  have blank := plain.undocumented
  have blank' := plain'.undocumented
  cases d with
  | interface i =>
    cases d' with
    | interface j => exact interface_append injective plain plain' same
    | aliased b =>
      exact absurd same (interface_ne_aliased (blank i.doc (.head _)) (blank' b.doc (.head _)))
  | aliased a =>
    cases d' with
    | interface j =>
      have blank := blank a.doc (.head _)
      exact absurd same.symm (interface_ne_aliased (blank' j.doc (.head _)) blank)
    | aliased b => exact aliased_append injective plain plain' same

theorem text_ne_nil {d : Declaration} (plain : d.Plain numerals) : d.render.toList ≠ [] := by
  cases d with
  | interface i =>
    rw [text_interface ∅ (plain.undocumented i.doc (.head _))]
    exact List.cons_ne_nil _ _
  | aliased a =>
    rw [text_aliased (plain.undocumented a.doc (.head _))]
    exact List.cons_ne_nil _ _

theorem toList_renderAll (numerals : Set Number) (ds : List Declaration) :
    (renderAll ds).toList = ((format numerals).separated "\n").text ds := by
  rw [renderAll, String.toList_intercalate, List.map_map]
  rfl

/-- Only no declarations have no text. -/
theorem eq_nil_of_renderAll {ds : List Declaration} (plain : ∀ d ∈ ds, d.Plain numerals)
    (empty : (renderAll ds).toList = []) : ds = [] := by
  cases ds with
  | nil => rfl
  | cons d rest =>
    obtain ⟨more, text⟩ := Format.exists_text_cons (f := format numerals) "\n" d rest
    rw [toList_renderAll numerals, text] at empty
    exact absurd (List.append_eq_nil_iff.mp empty).1 (text_ne_nil (plain d (.head _)))

theorem renderAll_normal {ds : List Declaration} (plain : ∀ d ∈ ds, d.Plain numerals) :
    renderAll (ds.map normal) = renderAll ds := by
  rw [renderAll, renderAll, List.map_map]
  exact congrArg _ (List.map_congr_left fun d hd => render_normal (plain d hd).undocumented)

/-- **The text determines the declarations**, up to their normal forms: two lists of declarations
without documentation have the same text only when they have the same normal forms, one by one.
The names of types are plain; property names and quoted texts are any; numbers are known by their
texts. -/
theorem renderAll_eq_iff {ds ds' : List Declaration} (injective : Set.InjOn Number.text numerals)
    (plain : ∀ d ∈ ds, d.Plain numerals) (plain' : ∀ d ∈ ds', d.Plain numerals) :
    renderAll ds = renderAll ds' ↔ ds.map normal = ds'.map normal := by
  constructor
  · intro same
    have texts := congrArg String.toList same
    by_cases empty : ds = []
    · have empty' : ds' = [] := eq_nil_of_renderAll plain' (by rw [← texts, empty]; rfl)
      rw [empty, empty']
    · by_cases empty' : ds' = []
      · exact absurd (eq_nil_of_renderAll plain (by rw [texts, empty']; rfl)) empty
      · have ends : ((format numerals).separated "\n").Follows [] :=
          ⟨trivial, fun h => absurd (List.prefix_nil.mp h) (by decide)⟩
        rw [toList_renderAll numerals, toList_renderAll numerals,
          ← List.append_nil (Format.text _ ds), ← List.append_nil (Format.text _ ds')] at texts
        have each : ∀ d ∈ ds, (format numerals).Clear d := fun d hd => clear injective (plain d hd)
        exact (Format.Clear.separated empty (fun _ => trivial) each ⟨empty', plain'⟩ ends ends
          texts).1
  · intro same
    rw [← renderAll_normal plain, same, renderAll_normal plain']

/-- An alias of a union in a union. The bar in the quoted text is no bar of the union. -/
def nestedAnswer : Declaration := .aliased
  ⟨"Answer", ["T"], "", .union [.primitive .null,
    .union [.reference "T" [], .literal (.string "a | b")], .literal (.string "a | b"),
    .literal (.number .zero)]⟩

/-- The same alias with a flat union. -/
def flatAnswer : Declaration := .aliased
  ⟨"Answer", ["T"], "", .union [.reference "T" [], .literal (.string "a | b"),
    .literal (.number .zero), .primitive .null]⟩

theorem renderAll_eq_iff_answer :
    Set.InjOn Number.text {.zero} ∧ (∀ d ∈ [nestedAnswer], d.Plain {.zero}) ∧
      (∀ d ∈ [flatAnswer], d.Plain {.zero}) ∧
      renderAll [nestedAnswer] = renderAll [flatAnswer] ∧
      [nestedAnswer].map normal = [flatAnswer].map normal := by
  have injective : Set.InjOn Number.text {.zero} := Set.injOn_singleton _ _
  have plainT : (Node.reference "T" []).Plain {.zero} :=
    Node.plain_reference ⟨by decide, by decide⟩ fun _ h => nomatch h
  have plainText : (Node.literal (.string "a | b")).Plain {.zero} := Node.plain_string _
  have plainZero : (Node.literal (.number .zero)).Plain {.zero} := Node.plain_number rfl
  have names : ∀ name ∈ ["Answer", "T"], IsPlainName name :=
    List.forall_mem_cons.mpr ⟨⟨by decide, by decide⟩,
      List.forall_mem_singleton.mpr ⟨by decide, by decide⟩⟩
  have nested : nestedAnswer.Plain {.zero} :=
    { undocumented := List.forall_mem_singleton.mpr rfl
      names := names
      nodes := by
        refine List.forall_mem_singleton.mpr (Node.plain_union ?_)
        have inner : (Node.union [.reference "T" [], .literal (.string "a | b")]).Plain {.zero} :=
          Node.plain_union (by simp [plainT, plainText])
        simp [Node.plain_primitive, inner, plainText, plainZero] }
  have flat : flatAnswer.Plain {.zero} :=
    { undocumented := List.forall_mem_singleton.mpr rfl
      names := names
      nodes := by
        refine List.forall_mem_singleton.mpr (Node.plain_union ?_)
        simp [Node.plain_primitive, plainT, plainText, plainZero] }
  have nested := List.forall_mem_singleton.mpr nested
  have flat := List.forall_mem_singleton.mpr flat
  have same : renderAll [nestedAnswer] = renderAll [flatAnswer] := by decide
  exact ⟨injective, nested, flat, same, (renderAll_eq_iff injective nested flat).mp same⟩

end Declaration

end SchemaDialogue
