import PageObjects.Proofs.Document.Grammar
import PageObjects.Proofs.Document.Location

/-!
# Documents written as values

A loaded document differs from the value that it was loaded from: defaults are filled in, numbers and words are
Booleans, and a key may have been spelled in two ways. Written as a value with all fields, under either spelling
of the keys, it is loaded as it is. This is about the models of the Grammar and how they are serialized
(specification, 2 and 10).

What is written is shown to be what the grammar says, node by node, so that nothing is said of readers here. The
rules of the nodes and the depth of the statements come with the loaded document.

* `Fields.known_of_spelled`: fields under all keys in one spelling are known, each under one spelling.
* `Statement.described_toJson`, `Document.described_toJson`: what is written stands for what was written.
* **`Document.load_toJson`**: a loaded document is written as a value that is loaded as the same document.
-/

namespace PageObjects

/-! ## Values -/

/-- An optional part is written as itself, or as null. -/
theorem OrNull.elim {α : Type} {shape : Shape α} {write : α → Json} {a? : Option α}
    (h : ∀ a ∈ a?, write a ≠ .null ∧ shape (write a) a) : OrNull shape (a?.elim .null write) a? := by
  cases a? with
  | none => rfl
  | some a => exact h a rfl

theorem IsText.orNull (chars? : Option String) : OrNull IsText (.ofText? chars?) chars? := by
  cases chars? with
  | none => rfl
  | some chars => exact ⟨by simp [Json.ofText?], .text chars⟩

theorem IsLiteral.toJson (l : Literal) : IsLiteral l.toJson l := by
  cases l with
  | bool b => exact .bool b
  | int n => exact .int n
  | text chars => exact .text chars

theorem IsLiteral.toJson_ne_null {l : Literal} : l.toJson ≠ .null := by
  cases l <;> simp [Literal.toJson]

/-- Values that are written one by one stand for a list. -/
theorem listOf_map {α : Type} {shape : Shape α} {write : α → Json} {as : List α}
    (h : ∀ a ∈ as, shape (write a) a) : ListOf shape (.list (as.map write)) as :=
  ⟨_, rfl, List.forall₂_map_left_iff.mpr (List.forall₂_same.mpr h)⟩

theorem IsText.listOf (names : List String) : ListOf IsText (.ofTexts names) names :=
  listOf_map fun name _ => .text name

theorem IsElementKind.toJson (kind : ElementKind) : IsElementKind kind.toJson kind := by
  cases kind with
  | basic names => exact .interfaces (IsText.listOf names)
  | pageObject reference => exact .reference reference
  | untyped => exact .untyped

/-! ## Fields -/

namespace Fields

variable {fields : Fields} {keys : List Key} {key : Key}

/-- **All keys in one spelling** are known keys, and none is given under its other spelling. -/
theorem known_of_spelled (spelling : Spelling) (hseparate : Separate keys)
    (h : fields.map Prod.fst = keys.map fun key => key.spelled spelling) : fields.Known keys := by
  have hspelled : ∀ {name}, name ∈ fields.map Prod.fst → ∃ key ∈ keys, key.spelled spelling = name := by
    intro name hname
    rw [h] at hname
    exact List.mem_map.mp hname
  have hgiven : ∀ {name v}, fields.get? name = some v → name ∈ fields.map Prod.fst :=
    fun hget => List.mem_map.mpr ⟨_, mem_of_lookup hget, rfl⟩
  refine ⟨fun field hfield => ?_, fun key hkey hne => ?_⟩
  · obtain ⟨key, hkey, hname⟩ := hspelled (List.mem_map.mpr ⟨field, hfield, rfl⟩)
    refine ⟨key, hkey, ?_⟩
    cases spelling with
    | camel => exact Or.inl hname.symm
    | snake => exact Or.inr hname.symm
  · -- the other spelling of the key would be the spelling of another key
    cases spelling with
    | camel =>
      refine Or.inr (Option.eq_none_iff_forall_ne_some.mpr fun v hv => ?_)
      obtain ⟨key', hkey', hname⟩ := hspelled (hgiven hv)
      obtain rfl := hseparate key' hkey' key hkey (Or.inr (Or.inl hname))
      exact hne hname
    | snake =>
      refine Or.inl (Option.eq_none_iff_forall_ne_some.mpr fun v hv => ?_)
      obtain ⟨key', hkey', hname⟩ := hspelled (hgiven hv)
      obtain rfl := hseparate key hkey key' hkey' (Or.inr (Or.inl hname.symm))
      exact hne hname.symm

/-- A value that is given under one spelling of a key. -/
theorem requires_of_spelled {α : Type} {shape : Shape α} {v : Json} {a : α} (spelling : Spelling)
    (hget : fields.get? (key.spelled spelling) = some v) (hshape : shape v a) :
    fields.Requires key shape a := by
  refine ⟨v, ?_, hshape⟩
  cases spelling with
  | camel => exact Or.inl hget
  | snake => exact Or.inr hget

theorem allows_of_spelled {α : Type} {shape : Shape α} {v : Json} {a default : α} (spelling : Spelling)
    (hget : fields.get? (key.spelled spelling) = some v) (hshape : shape v a) :
    fields.Allows key default shape a :=
  Or.inl (requires_of_spelled spelling hget hshape)

end Fields

/-! ## Nodes -/

variable {spelling : Spelling}

theorem Selector.written_toJson {s : Selector} (h : s.UsesOne) :
    ObjectOf Written (s.toJson spelling) s := by
  refine ⟨_, rfl, ?_⟩
  exact {
    keys := Fields.known_of_spelled spelling (by decide) (by cases spelling <;> rfl)
    css := Fields.allows_of_spelled spelling (by cases spelling <;> rfl) (IsText.orNull s.css)
    accessid := Fields.allows_of_spelled spelling (by cases spelling <;> rfl) (IsText.orNull s.accessid)
    classchain := Fields.allows_of_spelled spelling (by cases spelling <;> rfl) (IsText.orNull s.classchain)
    uiautomator := Fields.allows_of_spelled spelling (by cases spelling <;> rfl) (IsText.orNull s.uiautomator)
    returnAll := Fields.allows_of_spelled spelling (by cases spelling <;> rfl) (.bool s.returnAll)
    rule := h }

theorem Argument.written_toJson (a : Argument) : ObjectOf Written a.toJson a := by
  cases a with
  | literal value type =>
    refine ⟨_, rfl, ?_⟩
    exact {
      keys := Fields.known_of_spelled .camel (by decide) rfl
      name := Fields.allows_of_spelled .camel rfl (IsText.orNull none)
      type := Fields.allows_of_spelled .camel rfl (IsText.orNull type)
      value := Fields.allows_of_spelled .camel rfl ⟨IsLiteral.toJson_ne_null, IsLiteral.toJson value⟩
      rule := rules _ }
  | parameter name type =>
    refine ⟨_, rfl, ?_⟩
    exact {
      keys := Fields.known_of_spelled .camel (by decide) rfl
      name := Fields.allows_of_spelled .camel rfl (IsText.orNull (some name))
      type := Fields.allows_of_spelled .camel rfl (IsText.orNull (some type))
      value := Fields.allows_of_spelled .camel rfl rfl
      rule := rules _ }

theorem Argument.listOf_toJson (args : List Argument) :
    ListOf (ObjectOf Written) (.list (args.map toJson)) args :=
  listOf_map fun a _ => a.written_toJson

theorem Matcher.written_toJson (m : Matcher) : ObjectOf Written m.toJson m := by
  refine ⟨_, rfl, ?_⟩
  exact {
    keys := Fields.known_of_spelled .camel (by decide) rfl
    type := Fields.requires_of_spelled .camel rfl (IsText.text m.type)
    args := Fields.allows_of_spelled .camel rfl (Argument.listOf_toJson m.args) }

theorem Element.written_toJson {e : Element} (h : e.Rules) (hselector : e.selector.UsesOne) :
    ObjectOf Written (e.toJson spelling) e := by
  have hwritten : ObjectOf Selector.Written (e.selector.toJson spelling) e.selector :=
    Selector.written_toJson hselector
  refine ⟨_, rfl, ?_⟩
  exact {
    keys := Fields.known_of_spelled spelling (by decide) (by cases spelling <;> rfl)
    name := Fields.requires_of_spelled spelling (by cases spelling <;> rfl) (IsText.text e.name)
    kind := Fields.allows_of_spelled spelling (by cases spelling <;> rfl) (IsElementKind.toJson e.kind)
    selector := Fields.requires_of_spelled spelling (by cases spelling <;> rfl)
      hwritten
    isPublic := Fields.allows_of_spelled spelling (by cases spelling <;> rfl) (.bool e.isPublic)
    rule := h }

namespace Statement

/-- The fields of a statement as they are written. -/
def fields (spelling : Spelling) (s : Statement) : Fields :=
  [("element", .ofText? s.element), ("apply", .ofText? s.action),
    ("args", .list (s.args.map Argument.toJson)),
    (Key.spelled ⟨"returnType", "return_type"⟩ spelling, .ofText? s.returnType),
    (Key.spelled ⟨"returnAll", "return_all"⟩ spelling, .bool s.returnAll), ("chain", .bool s.chain),
    ("matcher", s.matcher.elim .null Matcher.toJson),
    ("predicate", s.predicate.elim .null fun ss => .list (ss.map (toJson spelling)))]

theorem toJson_eq (s : Statement) : s.toJson spelling = .object (s.fields spelling) := by
  obtain ⟨element, action, args, returnType, returnAll, chain, matcher, predicate⟩ := s
  rw [toJson.eq_def]
  cases predicate with
  | none => cases matcher <;> rfl
  | some ss =>
    simp only [toJsons_eq_map]
    cases matcher <;> rfl

/-- **A statement is written** as the grammar says if all statements that it holds keep their rules. -/
theorem described_toJson (s : Statement) :
    (∀ s', s.Holds s' → s'.Rules) → Described (s.toJson spelling) s := by
  refine inner_induction (P := fun s => (∀ s', s.Holds s' → s'.Rules) → Described (s.toJson spelling) s)
    ?_ s
  intro s ih hrules
  have hmatcher : OrNull (ObjectOf Matcher.Written) (s.matcher.elim .null Matcher.toJson) s.matcher :=
    .elim fun m _ => ⟨by simp [Matcher.toJson], m.written_toJson⟩
  have hpredicate : OrNull (ListOf Described)
      (s.predicate.elim .null fun ss => .list (ss.map (toJson spelling))) s.predicate := by
    refine .elim fun ss hsome => ⟨by simp, ?_⟩
    have hinner : ∀ s' ∈ s.inner, Described (s'.toJson spelling) s' :=
      fun s' hs' => ih s' hs' fun s'' hholds => hrules s'' (.inner hs' hholds)
    rw [inner, Option.mem_def.mp hsome, Option.getD_some] at hinner
    exact listOf_map hinner
  rw [toJson_eq]
  refine described_iff.mpr ⟨_, rfl, ?_⟩
  exact {
    keys := Fields.known_of_spelled spelling (by decide) (by cases spelling <;> rfl)
    element := Fields.allows_of_spelled spelling (by cases spelling <;> rfl) (IsText.orNull s.element)
    action := Fields.allows_of_spelled spelling (by cases spelling <;> rfl) (IsText.orNull s.action)
    args := Fields.allows_of_spelled spelling (by cases spelling <;> rfl) (Argument.listOf_toJson s.args)
    returnType := Fields.allows_of_spelled spelling (by cases spelling <;> rfl) (IsText.orNull s.returnType)
    returnAll := Fields.allows_of_spelled spelling (by cases spelling <;> rfl) (.bool s.returnAll)
    chain := Fields.allows_of_spelled spelling (by cases spelling <;> rfl) (.bool s.chain)
    matcher := Fields.allows_of_spelled spelling (by cases spelling <;> rfl) hmatcher
    rule := hrules s (.itself s)
    predicate := Fields.allows_of_spelled spelling (by cases spelling <;> rfl) hpredicate }

theorem listOf_toJson {ss : List Statement} (h : ∀ s ∈ ss, ∀ s', s.Holds s' → s'.Rules) :
    ListOf Described (.list (ss.map (toJson spelling))) ss :=
  listOf_map fun s hs => s.described_toJson (h s hs)

end Statement

theorem Method.written_toJson {m : Method} (h : m.Rules)
    (hstatements : ∀ s ∈ m.compose, ∀ s', s.Holds s' → s'.Rules) :
    ObjectOf (Written Statement.Described) (m.toJson spelling) m := by
  have hcompose : ListOf Statement.Described (.list (m.compose.map (Statement.toJson spelling))) m.compose :=
    Statement.listOf_toJson hstatements
  refine ⟨_, rfl, ?_⟩
  exact {
    keys := Fields.known_of_spelled spelling (by decide) (by cases spelling <;> rfl)
    name := Fields.requires_of_spelled spelling (by cases spelling <;> rfl) (IsText.text m.name)
    description := Fields.allows_of_spelled spelling (by cases spelling <;> rfl)
      (IsText.orNull m.description)
    returnType := Fields.allows_of_spelled spelling (by cases spelling <;> rfl) (IsText.orNull m.returnType)
    returnAll := Fields.allows_of_spelled spelling (by cases spelling <;> rfl) (.bool m.returnAll)
    compose := Fields.requires_of_spelled spelling (by cases spelling <;> rfl) hcompose
    rule := h }

/-! ## Documents -/

namespace Document

/-- **A document is written** as the grammar says if the rules are kept at every node of it. -/
theorem described_toJson {d : Document} (h : d.KeepsRules) : Described (d.toJson spelling) d := by
  have helements : ListOf (ObjectOf Element.Written) (.list (d.elements.map (Element.toJson spelling)))
      d.elements :=
    listOf_map fun e he => Element.written_toJson (h.elements e he) (h.elementSelectors e he)
  have hbeforeLoad : ListOf Statement.Described (.list (d.beforeLoad.map (Statement.toJson spelling)))
      d.beforeLoad :=
    Statement.listOf_toJson fun s hs s' hholds => h.statements s' ⟨s, Or.inl hs, hholds⟩
  have hmethods : ListOf (ObjectOf (Method.Written Statement.Described))
      (.list (d.methods.map (Method.toJson spelling))) d.methods :=
    listOf_map fun m hm => Method.written_toJson (h.methods m hm) fun s hs s' hholds =>
      h.statements s' ⟨s, Or.inr ⟨m, hm, hs⟩, hholds⟩
  refine ⟨_, rfl, ?_⟩
  exact {
    keys := Fields.known_of_spelled spelling (by decide) (by cases spelling <;> rfl)
    description := Fields.allows_of_spelled spelling (by cases spelling <;> rfl)
      (IsText.orNull d.description)
    isRoot := Fields.allows_of_spelled spelling (by cases spelling <;> rfl) (.bool d.isRoot)
    selector := by
      cases hsome : d.selector with
      | none =>
        have hnull : OrNull (ObjectOf Selector.Written) .null none := rfl
        exact Fields.allows_of_spelled spelling (by cases spelling <;> rfl) hnull
      | some s =>
        have hselector : OrNull (ObjectOf Selector.Written) (s.toJson spelling) (some s) :=
          ⟨by simp [Selector.toJson], Selector.written_toJson (h.selector s hsome)⟩
        exact Fields.allows_of_spelled spelling (by cases spelling <;> rfl) hselector
    interfaces := Fields.allows_of_spelled spelling (by cases spelling <;> rfl) (IsText.listOf d.interfaces)
    exposeRootElement := Fields.allows_of_spelled spelling (by cases spelling <;> rfl)
      (.bool d.exposeRootElement)
    elements := Fields.allows_of_spelled spelling (by cases spelling <;> rfl) helements
    beforeLoad := Fields.allows_of_spelled spelling (by cases spelling <;> rfl) hbeforeLoad
    methods := Fields.allows_of_spelled spelling (by cases spelling <;> rfl) hmethods
    rule := h.document }

/-- **A loaded document is written as it is loaded again**: under either spelling of its keys, the value with
all its fields is loaded, as the same document. -/
theorem load_toJson {source : Source} {d : Document} (h : load source = .ok d) (spelling : Spelling) :
    load (.value (d.toJson spelling)) = .ok d := by
  obtain ⟨v, -, hread⟩ := load_eq_ok.mp h
  obtain ⟨hdescribed, hnested⟩ := (reads v d).mp hread
  refine ofValue_eq_ok.mpr ((reads _ d).mpr ⟨?_, hnested⟩)
  exact described_toJson hdescribed.keepsRules

/-- A root page object in the words and spellings that are read but not written. -/
def lenientFields : Fields :=
  [("root", .text "Yes"), ("selector", .object [("css", .text "a"), ("accessid", .text "")]),
    ("expose_root_element", .int 1),
    ("before_load", .list [.object [("apply", .text "waitFor"), ("predicate", .list
      [.object [("element", .text "root"), ("apply", .text "isVisible"), ("return_all", .int 0)]])]]),
    ("methods", .list [.object [("name", .text "press"), ("compose", .list
      [.object [("element", .text "root"), ("apply", .text "press"), ("args", .list
        [.object [("value", .text "Enter")]])]])]])]

theorem lenientFields_toJson : ∃ d, load (.value (.object lenientFields)) = .ok d ∧ d.isRoot = true ∧
    load (.value (d.toJson .camel)) = .ok d ∧ load (.value (d.toJson .snake)) = .ok d := by
  have hok : (load (.value (.object lenientFields))).toOption.any (fun d => d.isRoot) = true := by decide
  obtain ⟨d, hload, hroot⟩ := exists_eq_ok hok
  exact ⟨d, hload, hroot, load_toJson hload .camel, load_toJson hload .snake⟩

end Document

end PageObjects
