import IdRegistry.Proofs.Document.Written
import Mathlib.Logic.Relation

namespace IdRegistry.Document

open Markup (Attribute Node QualifiedName StartTag)

/-- One change of the layout of an element and of what is in it. -/
inductive Edit : Level → Node → Node → Prop where
  | rename {tag : StartTag} {children : List Node} {closing : Option (List Char)}
      (name : QualifiedName) :
      Edit .root (.element tag children closing) (.element { tag with name := name } children closing)
  | give {level : Level} {tag : StartTag} {before after : List Attribute} {added : Attribute}
      {children : List Node} {closing : Option (List Char)}
      (split : tag.attributes = before ++ after)
      (other : level.isField (String.ofList added.name.localName) = false) :
      Edit level (.element tag children closing)
        (.element { tag with attributes := before ++ added :: after } children closing)
  | quiet {level : Level} {tag : StartTag} {before after : List Node} {node : Node}
      {closing : Option (List Char)} (quiet : node.isQuiet = true) :
      Edit level (.element tag (before ++ after) closing)
        (.element tag (before ++ node :: after) closing)
  /-- Text or a child element without a meaning, not between two items. -/
  | passed {level : Level} {tag : StartTag} {before after : List Node} {node : Node}
      {closing : Option (List Char)} (nested : level ≠ .root) (passes : level.passes node = true)
      (apart : (∀ other ∈ before, level.isInner other = false) ∨
        ∀ other ∈ after, level.isInner other = false) :
      Edit level (.element tag (before ++ after) closing)
        (.element tag (before ++ node :: after) closing)
  /-- Any change inside of a child element without a meaning. -/
  | content {level : Level} {tag ignored : StartTag} {before after inside inside' : List Node}
      {closing gap : Option (List Char)} (nested : level ≠ .root)
      (other : level.isField ignored.localName = false) :
      Edit level (.element tag (before ++ .element ignored inside gap :: after) closing)
        (.element tag (before ++ .element ignored inside' gap :: after) closing)
  | inner {level within : Level} {tag child : StartTag} {before after inside : List Node}
      {closing gap : Option (List Char)} {edited : Node}
      (isInner : level.inner? child.localName = some within)
      (edit : Edit within (.element child inside gap) edited) :
      Edit level (.element tag (before ++ .element child inside gap :: after) closing)
        (.element tag (before ++ edited :: after) closing)

section Edits

variable {level : Level} {kind : Kind} {node node' : Node} {before after nodes : List Node}
variable {values : List String} {value : String} {definition : Definition}
variable {definitions : List Definition}

theorem passes_of_isQuiet (quiet : node.isQuiet = true) : level.passes node = true := by
  cases node with
  | element => contradiction
  | _ => rfl

theorem passed_insert (all : ∀ other ∈ before ++ after, level.passes other = true)
    (passes : level.passes node = true) :
    ∀ other ∈ before ++ node :: after, level.passes other = true := by
  intro other member
  rcases List.mem_append.mp member with earlier | later
  · exact all other (List.mem_append_left _ earlier)
  rcases List.mem_cons.mp later with rfl | later
  · exact passes
  · exact all other (List.mem_append_right _ later)

/-- Another attribute gives no field. -/
theorem given_insert {tag : StartTag} {before after : List Attribute} {added : Attribute}
    (split : tag.attributes = before ++ after)
    (other : level.isField (String.ofList added.name.localName) = false) :
    level.given { tag with attributes := before ++ added :: after } = level.given tag := by
  have alone : ((([added].filter fun attr => !attr.isDeclaration).map (Attribute.given .first)).filter
      fun given => level.isField given.1) = [] := by
    rw [List.filter_eq_nil_iff]
    intro given member
    obtain ⟨attr, isAdded, rfl⟩ := List.mem_map.mp member
    obtain rfl := List.mem_singleton.mp (List.mem_filter.mp isAdded).1
    simp [Attribute.given, other]
  simp only [Level.given, StartTag.given, StartTag.visible, split, List.append_cons before added after,
    List.filter_append, List.map_append, alone, List.append_nil]

theorem Run.passed_of_apart (run : Run kind nodes values)
    (apart : ∀ other ∈ nodes, (Level.entry kind).isInner other = false) :
    values = [] ∧ ∀ other ∈ nodes, (Level.entry kind).passes other = true := by
  induction run with
  | ended passed => exact ⟨rfl, passed⟩
  | quiet quiet _ ih =>
      obtain ⟨-, apart⟩ := List.forall_mem_cons.mp apart
      exact ⟨(ih apart).1, List.forall_mem_cons.mpr ⟨passes_of_isQuiet quiet, (ih apart).2⟩⟩
  | item ofList item _ _ =>
      cases item with
      | mk named _ _ =>
          have inner := (List.forall_mem_cons.mp apart).1
          simp [Level.isInner, Level.inner?, named, ofList] at inner

theorem Run.insert_quiet (quiet : node.isQuiet = true) (run : Run kind (before ++ after) values) :
    Run kind (before ++ node :: after) values := by
  induction before generalizing values with
  | nil => exact .quiet quiet run
  | cons first before ih =>
      cases run with
      | ended passed => exact .ended (passed_insert passed (passes_of_isQuiet quiet))
      | quiet quiet' later => exact .quiet quiet' (ih later)
      | item ofList item later => exact .item ofList item (ih later)

theorem Run.insert_after (passes : (Level.entry kind).passes node = true)
    (apart : ∀ other ∈ after, (Level.entry kind).isInner other = false)
    (run : Run kind (before ++ after) values) : Run kind (before ++ node :: after) values := by
  induction before generalizing values with
  | nil =>
      obtain ⟨rfl, passed⟩ := run.passed_of_apart apart
      exact .ended (List.forall_mem_cons.mpr ⟨passes, passed⟩)
  | cons first before ih =>
      cases run with
      | ended passed => exact .ended (passed_insert passed passes)
      | quiet quiet' later => exact .quiet quiet' (ih later)
      | item ofList item later => exact .item ofList item (ih later)

theorem Body.insert_quiet (quiet : node.isQuiet = true) (body : Body kind (before ++ after) values) :
    Body kind (before ++ node :: after) values := by
  induction before with
  | nil => exact .passed (passes_of_isQuiet quiet) body
  | cons first before ih =>
      cases body with
      | run run => exact .run (run.insert_quiet quiet)
      | passed passes later => exact .passed passes (ih later)

theorem Body.insert_after (passes : (Level.entry kind).passes node = true)
    (apart : ∀ other ∈ after, (Level.entry kind).isInner other = false)
    (body : Body kind (before ++ after) values) : Body kind (before ++ node :: after) values := by
  induction before with
  | nil => exact .passed passes body
  | cons first before ih =>
      cases body with
      | run run => exact .run (run.insert_after passes apart)
      | passed passes' later => exact .passed passes' (ih later)

theorem Body.insert_before (passes : (Level.entry kind).passes node = true)
    (apart : ∀ other ∈ before, (Level.entry kind).isInner other = false)
    (body : Body kind (before ++ after) values) : Body kind (before ++ node :: after) values := by
  induction before with
  | nil => exact .passed passes body
  | cons first before ih =>
      obtain ⟨outer, apart⟩ := List.forall_mem_cons.mp apart
      cases body with
      | passed passes' later => exact .passed passes' (ih apart later)
      | run run =>
          cases run with
          | ended passed => exact .run (.ended (passed_insert passed passes))
          | quiet quiet later => exact .passed (passes_of_isQuiet quiet) (ih apart (.run later))
          | item ofList item later =>
              cases item with
              | mk named _ _ => simp [Level.isInner, Level.inner?, named, ofList] at outer

/-- Another node in the place of one that is not quiet. -/
theorem Run.replace (loud : node.isQuiet = false)
    (passes : (Level.entry kind).passes node = true → (Level.entry kind).passes node' = true)
    (items : ∀ value, kind = .list → Item value node → Item value node')
    (run : Run kind (before ++ node :: after) values) : Run kind (before ++ node' :: after) values := by
  induction before generalizing values with
  | nil =>
      cases run with
      | ended passed =>
          obtain ⟨first, others⟩ := List.forall_mem_cons.mp passed
          exact .ended (List.forall_mem_cons.mpr ⟨passes first, others⟩)
      | quiet quiet later => simp [loud] at quiet
      | item ofList item later => exact .item ofList (items _ ofList item) later
  | cons first before ih =>
      cases run with
      | ended passed =>
          refine .ended fun other member => ?_
          rcases List.mem_append.mp member with earlier | later
          · exact passed other (List.mem_append_left _ earlier)
          rcases List.mem_cons.mp later with rfl | later
          · exact passes (passed node (List.mem_append_right _ List.mem_cons_self))
          · exact passed other (List.mem_append_right _ (List.mem_cons_of_mem _ later))
      | quiet quiet later => exact .quiet quiet (ih later)
      | item ofList item later => exact .item ofList item (ih later)

theorem Body.replace (loud : node.isQuiet = false)
    (passes : (Level.entry kind).passes node = true → (Level.entry kind).passes node' = true)
    (items : ∀ value, kind = .list → Item value node → Item value node')
    (body : Body kind (before ++ node :: after) values) :
    Body kind (before ++ node' :: after) values := by
  induction before with
  | nil =>
      cases body with
      | run run => exact .run (run.replace loud passes items)
      | passed passed later => exact .passed (passes passed) later
  | cons first before ih =>
      cases body with
      | run run => exact .run (run.replace loud passes items)
      | passed passed later => exact .passed passed (ih later)

theorem Entries.insert_quiet (quiet : node.isQuiet = true)
    (entries : Entries (before ++ after) definitions) :
    Entries (before ++ node :: after) definitions := by
  induction before generalizing definitions with
  | nil => exact .quiet quiet entries
  | cons first before ih =>
      cases entries with
      | quiet quiet' later => exact .quiet quiet' (ih later)
      | entry entry later => exact .entry entry (ih later)

theorem Entries.replace (loud : node.isQuiet = false)
    (entry : ∀ definition, Entry definition node → Entry definition node')
    (entries : Entries (before ++ node :: after) definitions) :
    Entries (before ++ node' :: after) definitions := by
  induction before generalizing definitions with
  | nil =>
      cases entries with
      | quiet quiet later => simp [loud] at quiet
      | entry entry' later => exact .entry (entry _ entry') later
  | cons first before ih =>
      cases entries with
      | quiet quiet' later => exact .quiet quiet' (ih later)
      | entry entry' later => exact .entry entry' (ih later)

theorem Edit.item (edit : Edit .item node node') (item : Item value node) : Item value node' := by
  cases item with
  | mk named given passed =>
      cases edit with
      | give split other => exact .mk named ((given_insert split other).trans given) passed
      | quiet quiet => exact .mk named given (passed_insert passed (passes_of_isQuiet quiet))
      | passed nested passes apart => exact .mk named given (passed_insert passed passes)
      | content nested other =>
          refine .mk named given fun child member => ?_
          rcases List.mem_append.mp member with earlier | later
          · exact passed child (List.mem_append_left _ earlier)
          rcases List.mem_cons.mp later with rfl | later
          · simp [Level.passes, other]
          · exact passed child (List.mem_append_right _ (List.mem_cons_of_mem _ later))
      | inner isInner edit => contradiction

theorem Edit.entry (edit : Edit (.entry definition.kind) node node') (entry : Entry definition node) :
    Entry definition node' := by
  cases entry with
  | mk named given body =>
      cases edit with
      | give split other => exact .mk named ((given_insert split other).trans given) body
      | quiet quiet => exact .mk named given (body.insert_quiet quiet)
      | passed nested passes apart =>
          rcases apart with apart | apart
          · exact .mk named given (body.insert_before passes apart)
          · exact .mk named given (body.insert_after passes apart)
      | content nested other =>
          refine .mk named given
            (Body.replace rfl (fun passes => ?_) (fun value ofList item => ?_) body)
          · exact passes
          · cases item with
            | mk isItem _ _ => simp [Level.isField, Kind.field?, isItem, ofList] at other
      | inner isInner edit =>
          rw [Level.inner?, Option.ite_none_right_eq_some] at isInner
          obtain ⟨⟨ofList, isItem⟩, same⟩ := isInner
          obtain rfl := Option.some.inj same
          refine .mk named given
            (Body.replace rfl (fun passes => ?_) (fun value _ item => edit.item item) body)
          simp [Level.passes, Level.isField, Kind.field?, isItem, ofList] at passes

/-- No edit changes what a document says. -/
theorem Edit.carries (edit : Edit .root node node') (carries : Carries definitions node) :
    Carries definitions node' := by
  cases carries with
  | mk entries =>
      cases edit with
      | rename name => exact .mk entries
      | give split other => exact .mk entries
      | quiet quiet => exact .mk (entries.insert_quiet quiet)
      | passed nested passes apart => exact absurd rfl nested
      | content nested other => exact absurd rfl nested
      | inner isInner edit =>
          obtain ⟨kind, isKind, rfl⟩ := Option.map_eq_some_iff.mp isInner
          refine .mk (entries.replace rfl fun definition entry => ?_)
          have same : kind = definition.kind := by
            cases entry with
            | mk named _ _ => exact Option.some.inj (isKind.symm.trans named)
          exact Edit.entry (same ▸ edit) entry

/-- Whatever is edited, and however often, the document still says the definitions. -/
theorem carries_of_edits {edited : Node}
    (edits : Relation.ReflTransGen (Edit .root) (document definitions) edited) :
    Carries definitions edited := by
  induction edits with
  | refl => exact carries_document definitions
  | tail _ edit carries => exact edit.carries carries

/-- Layout does not matter. Any number of edits of the written form of definitions leads to the same
registry, as long as the result is well formed. -/
theorem readRegistry_of_edits {edited : Node}
    (valid : ∀ definition ∈ definitions, ∀ text ∈ definition.texts, IsXmlText text)
    (edits : Relation.ReflTransGen (Edit .root) (document definitions) edited)
    (wellFormed : edited.wellFormed [] 0 = true) :
    readRegistry edited.bytes = readRegistry (bytes definitions) := by
  have after := (carries_of_edits edits).parse wellFormed
  rw [readRegistry, readRegistry, parse_written valid, after]

/-- Edits of every kind, some of them in an entry and in an item. -/
theorem readRegistry_of_edits_everywhere :
    let definitions : List Definition := [.list "L" ["1", "2"]]
    ∃ edited : Node,
      edited.written = ("<p:r xmlns:p='u'>\n<list name=\"L\" p:q='&#38;'>&lt;<item value=\"1\">" ++
        "<b>]</b></item><!-- --><item value=\"2\"/></list></p:r>").toList ∧
      readRegistry edited.bytes = readRegistry (bytes definitions) := by
  intro definitions
  let names : Attribute := ⟨[' '], ⟨some "xmlns".toList, ['p']⟩, [], [], '\'', [.literal 'u']⟩
  let added : Attribute := ⟨[' '], ⟨some ['p'], ['q']⟩, [], [], '\'', [.reference "#38".toList]⟩
  let name : Attribute := ⟨[' '], ⟨none, "name".toList⟩, [], [], '"', [.literal 'L']⟩
  let child (inside : List Node) : Node := .element ⟨⟨none, ['b']⟩, [], []⟩ inside none
  have edits : Relation.ReflTransGen (Edit .root) (document definitions) _ :=
    .head (.rename ⟨some ['p'], ['r']⟩) <|
    .head (@Edit.give .root _ [] [] names _ _ rfl rfl) <|
    .head (@Edit.quiet .root _ [] _ (.piece (.literal '\n')) _ rfl) <|
    .head (@Edit.inner .root _ _ _ [_] [] _ _ _ _ rfl
      (@Edit.give _ _ [name] [] added _ _ rfl rfl)) <|
    .head (@Edit.inner .root _ _ _ [_] [] _ _ _ _ rfl
      (@Edit.quiet _ _ [Definition.itemNode "1"] _ (.comment [' ']) _ rfl)) <|
    .head (@Edit.inner .root _ _ _ [_] [] _ _ _ _ rfl
      (@Edit.inner _ _ _ _ [] _ _ _ _ _ rfl
        (@Edit.passed _ _ [] [] (child []) _ nofun rfl (.inl nofun)))) <|
    .head (@Edit.inner .root _ _ _ [_] [] _ _ _ _ rfl
      (@Edit.inner _ _ _ _ [] _ _ _ _ _ rfl
        (@Edit.content _ _ _ [] [] _ [.piece (.literal ']')] _ none nofun rfl))) <|
    .head (@Edit.inner .root _ _ _ [_] [] _ _ _ _ rfl
      (@Edit.passed _ _ [] _ (.piece (.reference "lt".toList)) _ nofun rfl (.inl nofun)))
    .refl
  exact ⟨_, by decide +kernel, readRegistry_of_edits (by decide) edits (by decide +kernel)⟩

/-- An element with the qualifier `xml` is refused, and so is that name for the default one. -/
theorem some_edits_refused :
    let definitions : List Definition := [.constant "A" "1"]
    let edited (tag : StartTag) : Node := .element tag (definitions.map Definition.node) (some [])
    let qualified := edited ⟨⟨some "xml".toList, ['r']⟩, [], []⟩
    let declared := edited defaultXml
    (Relation.ReflTransGen (Edit .root) (document definitions) qualified ∧
      Relation.ReflTransGen (Edit .root) (document definitions) declared) ∧
    (qualified.written = "<xml:r><constant name=\"A\" value=\"1\"/></xml:r>".toList ∧
      declared.written = "<r xmlns=\"xml\"><constant name=\"A\" value=\"1\"/></r>".toList) ∧
    readRegistry (bytes definitions) = ⟨[], .ok ⟨[⟨"A", 1⟩], []⟩⟩ ∧
    readRegistry qualified.bytes = ⟨[], .error (.document .malformed)⟩ ∧
    readRegistry declared.bytes = ⟨[], .error (.document .malformed)⟩ := by
  intro definitions edited qualified declared
  have renamed (name : Markup.QualifiedName) :
      Relation.ReflTransGen (Edit .root) (document definitions) (edited ⟨name, [], []⟩) :=
    .single (.rename name)
  have first : parse qualified.bytes = .error .malformed := parse_qualifiedXml _
  have second : parse declared.bytes = .error .malformed := parse_defaultXml _
  refine ⟨⟨renamed _, (renamed _).tail (@Edit.give .root _ [] [] _ _ _ rfl rfl)⟩,
    ⟨by decide +kernel, by decide +kernel⟩, ?_, ?_, ?_⟩
  · rw [readRegistry, parse_written (by decide)]
    rfl
  · rw [readRegistry, first]
  · rw [readRegistry, second]

end Edits

end IdRegistry.Document
