import Mathlib.Data.List.Nodup
import PageObjects.Proofs.Document.Shapes
import PageObjects.Proofs.Document.WellFormed
import PageObjects.Proofs.Document.Writable

/-!
# The grammar of documents

Which values are documents, and what each of them says. A node is an object with known fields, each of the shape
that is admitted under its key, and it keeps the rules of its kind; a statement has statements in its predicate,
and so on at any depth. The shapes of the values come from `Proofs.Document.Shapes`. This is about the Grammar
(specification, 2 and 3).

The reader goes into statements only so many levels deep, and refuses what lies deeper, whatever it is. This is
no rule of the grammar: it is a condition on the document apart from how it is written.

* `Selector.UsesOne`, `Statement.Rules`, ... and `Selector.Written`, `Statement.Written`, ...: the rules and the
  fields of a node.
* `Statement.Described`, `Document.Described`: the grammar.
* **`Statement.reads_within`**, **`Document.reads`**: what a reader reads is what the grammar says, within the
  levels that it has.
* `Document.KeepsRules`: the rules at every node.
* **`Document.load_grammar`**: which values are loaded, and what is known of the documents.
* `Document.nested_not_loaded`: a document that is refused for its depth alone.
-/

namespace PageObjects

open Reading

/-! ## Rules -/

/-- Exactly one dialect holds a text that is not empty. -/
def Selector.UsesOne (s : Selector) : Prop :=
  ∃! dialect, ∃ text, s.text? dialect = some text ∧ text ≠ ""

namespace Argument

/-- The name that is given. -/
def name? : Argument → Option String
  | .literal _ _ => none
  | .parameter name _ => some name

/-- The type that is given. -/
def type? : Argument → Option String
  | .literal _ type => type
  | .parameter _ type => some type

/-- The value that is given. -/
def value? : Argument → Option Literal
  | .literal value _ => some value
  | .parameter _ _ => none

/-- An argument has a value and no name, or no value and both a name and a type. -/
def Rules (a : Argument) : Prop :=
  (a.value? ≠ none ∧ a.name? = none) ∨ (a.value? = none ∧ a.name? ≠ none ∧ a.type? ≠ none)

end Argument

/-- A chained statement has an action and no element, every statement has one of the two, and only a wait has a
predicate. -/
structure Statement.Rules (s : Statement) : Prop where
  chain : s.chain = true → s.action ≠ none ∧ s.element = none
  target : s.element ≠ none ∨ s.action ≠ none
  predicate : s.predicate ≠ none → s.action = some waitAction

/-- The name is an identifier, and not reserved. -/
structure Element.Rules (e : Element) : Prop where
  identifier : Text.isIdentifier e.name = true
  unreserved : e.name ∉ reservedElements

/-- The name is an identifier, and there are statements. -/
structure Method.Rules (m : Method) : Prop where
  identifier : Text.isIdentifier m.name = true
  compose : m.compose ≠ []

/-- A page object has a selector of its own exactly when it is a root. -/
def Document.Rules (d : Document) : Prop := d.selector.isSome = true ↔ d.isRoot = true

theorem Selector.uses_iff {s : Selector} {dialect : Dialect} :
    s.uses dialect = true ↔ ∃ text, s.text? dialect = some text ∧ text ≠ "" := by
  unfold uses
  cases s.text? dialect <;> simp

theorem Selector.check_eq_ok_iff {s : Selector} : s.check = .ok s ↔ s.UsesOne := by
  have hone : s.used.length = 1 ↔ s.UsesOne := by
    have hmem : ∀ dialect, dialect ∈ s.used ↔ ∃ text, s.text? dialect = some text ∧ text ≠ "" := by
      intro dialect
      rw [used, List.mem_filter, uses_iff]
      exact and_iff_right (by cases dialect <;> decide)
    have hnodup : s.used.Nodup := List.Nodup.filter _ (by decide)
    rw [List.length_eq_one_iff]
    constructor
    · rintro ⟨dialect, hused⟩
      refine ⟨dialect, (hmem dialect).mp (by rw [hused]; exact List.mem_singleton_self _), ?_⟩
      intro other hother
      exact List.mem_singleton.mp (hused ▸ (hmem other).mpr hother)
    · rintro ⟨dialect, hdialect, hunique⟩
      refine ⟨dialect, List.perm_singleton.mp ?_⟩
      rw [List.perm_ext_iff_of_nodup hnodup (List.nodup_singleton _)]
      intro other
      rw [hmem, List.mem_singleton]
      exact ⟨hunique other, fun h => h ▸ hdialect⟩
  rw [← hone, check]
  by_cases hlength : s.used.length = 1 <;> simp [hlength]

theorem Argument.rules (a : Argument) : a.Rules := by
  cases a <;> simp [Rules, name?, type?, value?]

theorem Argument.ofFields_eq_ok {given : Option String × Option String × Option Literal} {a : Argument} :
    ofFields given = .ok a ↔ given = (a.name?, a.type?, a.value?) := by
  constructor
  · intro h
    unfold ofFields at h
    split at h
    · obtain rfl := Except.ok.inj h
      rfl
    · exact absurd h (by simp)
    · exact absurd h (by simp)
    · obtain rfl := Except.ok.inj h
      rfl
  · rintro rfl
    cases a <;> rfl

theorem Statement.check_eq_ok_iff {s : Statement} : s.check = .ok s ↔ s.Rules := by
  have hpredicate : (s.predicate.isSome && !s.isWait) = false ↔
      (s.predicate ≠ none → s.action = some waitAction) := by
    unfold isWait
    cases s.predicate <;> simp
  have hrules : s.Rules ↔ (s.chain = true → s.action ≠ none ∧ s.element = none) ∧
      (s.element ≠ none ∨ s.action ≠ none) ∧ (s.predicate ≠ none → s.action = some waitAction) :=
    ⟨fun h => ⟨h.chain, h.target, h.predicate⟩, fun h => ⟨h.1, h.2.1, h.2.2⟩⟩
  rw [hrules, ← hpredicate]
  unfold check
  cases s.chain <;> cases s.element <;> cases s.action <;>
    cases s.predicate.isSome && !s.isWait <;> simp

theorem Element.check_eq_ok_iff {e : Element} : e.check = .ok e ↔ e.Rules := by
  have hrules : e.Rules ↔ Text.isIdentifier e.name = true ∧ reservedElements.contains e.name = false :=
    ⟨fun h => ⟨h.identifier, by simpa using h.unreserved⟩, fun h => ⟨h.1, by simpa using h.2⟩⟩
  rw [hrules]
  unfold check
  cases Text.isIdentifier e.name <;> cases reservedElements.contains e.name <;> simp

theorem Method.check_eq_ok_iff {m : Method} : m.check = .ok m ↔ m.Rules := by
  have hrules : m.Rules ↔ Text.isIdentifier m.name = true ∧ m.compose.isEmpty = false :=
    ⟨fun h => ⟨h.identifier, by simpa using h.compose⟩, fun h => ⟨h.1, by simpa using h.2⟩⟩
  rw [hrules]
  unfold check
  cases Text.isIdentifier m.name <;> cases m.compose.isEmpty <;> simp

theorem Document.check_eq_ok_iff {d : Document} : d.check = .ok d ↔ d.Rules := by
  unfold check Rules
  cases d.isRoot <;> cases d.selector <;> simp

/-! ## Nodes -/

theorem reads_text? : Reads (readOptional readText) (OrNull IsText) := reads_optional reads_text

/-- The fields of a selector. -/
structure Selector.Written (fields : Fields) (s : Selector) : Prop where
  keys : fields.Known keys
  css : fields.Allows (.plain "css") none (OrNull IsText) s.css
  accessid : fields.Allows (.plain "accessid") none (OrNull IsText) s.accessid
  classchain : fields.Allows (.plain "classchain") none (OrNull IsText) s.classchain
  uiautomator : fields.Allows (.plain "uiautomator") none (OrNull IsText) s.uiautomator
  returnAll : fields.Allows ⟨"returnAll", "return_all"⟩ false IsBoolean s.returnAll
  rule : s.UsesOne

theorem Selector.reads : Reads read (ObjectOf Written) := by
  refine reads_model fun fields s => ?_
  constructor
  · rintro ⟨s', hread, hcheck⟩
    obtain rfl := check_eq_ok hcheck
    simp only [readFields, seqLeft_eq_done, seq_eq_done, map_eq_done] at hread
    obtain ⟨⟨_, all, ⟨_, uiautomator, ⟨_, classchain, ⟨_, accessid, ⟨css, hcss, rfl⟩, haccessid, rfl⟩,
      hclasschain, rfl⟩, huiautomator, rfl⟩, hall, rfl⟩, u, hkeys⟩ := hread
    have hknown := (Fields.onlyKeys_eq_done_iff (by decide)).mp hkeys
    exact {
      keys := hknown
      css := (hknown.optional_iff reads_text? (by decide)).mp hcss
      accessid := (hknown.optional_iff reads_text? (by decide)).mp haccessid
      classchain := (hknown.optional_iff reads_text? (by decide)).mp hclasschain
      uiautomator := (hknown.optional_iff reads_text? (by decide)).mp huiautomator
      returnAll := (hknown.optional_iff reads_boolean (by decide)).mp hall
      rule := check_eq_ok_iff.mp hcheck }
  · intro h
    refine ⟨s, ?_, check_eq_ok_iff.mpr h.rule⟩
    simp only [readFields, seqLeft_eq_done, seq_eq_done, map_eq_done]
    exact ⟨⟨_, _, ⟨_, _, ⟨_, _, ⟨_, _, ⟨_, (h.keys.optional_iff reads_text? (by decide)).mpr h.css, rfl⟩,
      (h.keys.optional_iff reads_text? (by decide)).mpr h.accessid, rfl⟩,
      (h.keys.optional_iff reads_text? (by decide)).mpr h.classchain, rfl⟩,
      (h.keys.optional_iff reads_text? (by decide)).mpr h.uiautomator, rfl⟩,
      (h.keys.optional_iff reads_boolean (by decide)).mpr h.returnAll, rfl⟩, (),
      (Fields.onlyKeys_eq_done_iff (by decide)).mpr h.keys⟩

/-- The fields of an argument. -/
structure Argument.Written (fields : Fields) (a : Argument) : Prop where
  keys : fields.Known keys
  name : fields.Allows (.plain "name") none (OrNull IsText) a.name?
  type : fields.Allows (.plain "type") none (OrNull IsText) a.type?
  value : fields.Allows (.plain "value") none (OrNull IsLiteral) a.value?
  rule : a.Rules

theorem Argument.reads : Reads read (ObjectOf Written) := by
  refine reads_model fun fields a => ?_
  constructor
  · rintro ⟨given, hread, hcheck⟩
    obtain rfl := ofFields_eq_ok.mp hcheck
    simp only [readFields, seqLeft_eq_done, seq_eq_done, map_eq_done] at hread
    obtain ⟨⟨_, value, ⟨_, type, ⟨name, hname, rfl⟩, htype, rfl⟩, hvalue, hgiven⟩, u, hkeys⟩ := hread
    simp only [Prod.mk.injEq] at hgiven
    obtain ⟨rfl, rfl, rfl⟩ := hgiven
    have hknown := (Fields.onlyKeys_eq_done_iff (by decide)).mp hkeys
    exact {
      keys := hknown
      name := (hknown.optional_iff reads_text? (by decide)).mp hname
      type := (hknown.optional_iff reads_text? (by decide)).mp htype
      value := (hknown.optional_iff (reads_optional reads_literal) (by decide)).mp hvalue
      rule := a.rules }
  · intro h
    refine ⟨_, ?_, ofFields_eq_ok.mpr rfl⟩
    simp only [readFields, seqLeft_eq_done, seq_eq_done, map_eq_done]
    exact ⟨⟨_, _, ⟨_, _, ⟨_, (h.keys.optional_iff reads_text? (by decide)).mpr h.name, rfl⟩,
      (h.keys.optional_iff reads_text? (by decide)).mpr h.type, rfl⟩,
      (h.keys.optional_iff (reads_optional reads_literal) (by decide)).mpr h.value, rfl⟩, (),
      (Fields.onlyKeys_eq_done_iff (by decide)).mpr h.keys⟩

/-- The fields of a matcher. -/
structure Matcher.Written (fields : Fields) (m : Matcher) : Prop where
  keys : fields.Known keys
  type : fields.Requires (.plain "type") IsText m.type
  args : fields.Allows (.plain "args") [] (ListOf (ObjectOf Argument.Written)) m.args

theorem Matcher.reads : Reads read (ObjectOf Written) := by
  -- a matcher has no rule of its own
  have hread : read = fun v => (readModel "MatcherSpec" readFields v).checked .ok :=
    funext fun v => by rw [read]; cases readModel "MatcherSpec" readFields v <;> rfl
  rw [hread]
  refine reads_model fun fields m => ?_
  constructor
  · rintro ⟨m', hread, hcheck⟩
    obtain rfl := Except.ok.inj hcheck
    simp only [readFields, seqLeft_eq_done, seq_eq_done, map_eq_done] at hread
    obtain ⟨⟨_, args, ⟨type, htype, rfl⟩, hargs, rfl⟩, u, hkeys⟩ := hread
    have hknown := (Fields.onlyKeys_eq_done_iff (by decide)).mp hkeys
    exact {
      keys := hknown
      type := (hknown.required_iff reads_text (by decide)).mp htype
      args := (hknown.optional_iff (reads_list Argument.reads) (by decide)).mp hargs }
  · intro h
    refine ⟨m, ?_, rfl⟩
    simp only [readFields, seqLeft_eq_done, seq_eq_done, map_eq_done]
    exact ⟨⟨_, _, ⟨_, (h.keys.required_iff reads_text (by decide)).mpr h.type, rfl⟩,
      (h.keys.optional_iff (reads_list Argument.reads) (by decide)).mpr h.args, rfl⟩, (),
      (Fields.onlyKeys_eq_done_iff (by decide)).mpr h.keys⟩

/-- The fields of an element. -/
structure Element.Written (fields : Fields) (e : Element) : Prop where
  keys : fields.Known keys
  name : fields.Requires (.plain "name") IsText e.name
  kind : fields.Allows (.plain "type") .untyped IsElementKind e.kind
  selector : fields.Requires (.plain "selector") (ObjectOf Selector.Written) e.selector
  isPublic : fields.Allows (.plain "public") false IsBoolean e.isPublic
  rule : e.Rules

theorem Element.reads : Reads read (ObjectOf Written) := by
  refine reads_model fun fields e => ?_
  constructor
  · rintro ⟨e', hread, hcheck⟩
    obtain rfl := check_eq_ok hcheck
    simp only [readFields, seqLeft_eq_done, seq_eq_done, map_eq_done] at hread
    obtain ⟨⟨_, isPublic, ⟨_, selector, ⟨_, kind, ⟨name, hname, rfl⟩, hkind, rfl⟩, hselector, rfl⟩,
      hpublic, rfl⟩, u, hkeys⟩ := hread
    have hknown := (Fields.onlyKeys_eq_done_iff (by decide)).mp hkeys
    exact {
      keys := hknown
      name := (hknown.required_iff reads_text (by decide)).mp hname
      kind := (hknown.optional_iff reads_elementKind (by decide)).mp hkind
      selector := (hknown.required_iff Selector.reads (by decide)).mp hselector
      isPublic := (hknown.optional_iff reads_boolean (by decide)).mp hpublic
      rule := check_eq_ok_iff.mp hcheck }
  · intro h
    refine ⟨e, ?_, check_eq_ok_iff.mpr h.rule⟩
    simp only [readFields, seqLeft_eq_done, seq_eq_done, map_eq_done]
    exact ⟨⟨_, _, ⟨_, _, ⟨_, _, ⟨_, (h.keys.required_iff reads_text (by decide)).mpr h.name, rfl⟩,
      (h.keys.optional_iff reads_elementKind (by decide)).mpr h.kind, rfl⟩,
      (h.keys.required_iff Selector.reads (by decide)).mpr h.selector, rfl⟩,
      (h.keys.optional_iff reads_boolean (by decide)).mpr h.isPublic, rfl⟩, (),
      (Fields.onlyKeys_eq_done_iff (by decide)).mpr h.keys⟩

/-! ## Statements -/

namespace Statement

/-- The fields of a statement, its predicate apart. -/
structure WrittenAlone (fields : Fields) (s : Statement) : Prop where
  keys : fields.Known keys
  element : fields.Allows (.plain "element") none (OrNull IsText) s.element
  action : fields.Allows (.plain "apply") none (OrNull IsText) s.action
  args : fields.Allows (.plain "args") [] (ListOf (ObjectOf Argument.Written)) s.args
  returnType : fields.Allows ⟨"returnType", "return_type"⟩ none (OrNull IsText) s.returnType
  returnAll : fields.Allows ⟨"returnAll", "return_all"⟩ false IsBoolean s.returnAll
  chain : fields.Allows (.plain "chain") false IsBoolean s.chain
  matcher : fields.Allows (.plain "matcher") none (OrNull (ObjectOf Matcher.Written)) s.matcher
  rule : s.Rules

/-- The fields of a statement, with a shape for those in its predicate. -/
structure Written (inner : Shape Statement) (fields : Fields) (s : Statement) : Prop
    extends s.WrittenAlone fields where
  predicate : fields.Allows (.plain "predicate") none (OrNull (ListOf inner)) s.predicate

/-- A statement is written as an object, and so are those in its predicate, at any depth. -/
inductive Described : Json → Statement → Prop
  | leaf {fields : Fields} {s : Statement} (halone : s.WrittenAlone fields)
      (hfield : fields.Lacks (.plain "predicate") ∨ fields.Gives (.plain "predicate") .null)
      (hpredicate : s.predicate = none) : Described (.object fields) s
  | wait {fields : Fields} {s : Statement} {items : List Json} {ss : List Statement}
      (halone : s.WrittenAlone fields) (hfield : fields.Gives (.plain "predicate") (.list items))
      (hpredicate : s.predicate = some ss) (hlength : items.length = ss.length)
      (hinner : ∀ entry ∈ items.zip ss, Described entry.1 entry.2) : Described (.object fields) s

theorem described_iff {v : Json} {s : Statement} : Described v s ↔ ObjectOf (Written Described) v s := by
  constructor
  · rintro (⟨halone, hfield, hpredicate⟩ | ⟨halone, hfield, hpredicate, hlength, hinner⟩)
    · refine ⟨_, rfl, halone, ?_⟩
      rw [hpredicate]
      rcases hfield with hlacks | hgives
      · exact Or.inr ⟨hlacks, rfl⟩
      · exact Or.inl ⟨.null, hgives, rfl⟩
    · refine ⟨_, rfl, halone, Or.inl ⟨_, hfield, ?_⟩⟩
      rw [hpredicate]
      refine ⟨by simp, _, rfl, List.forall₂_iff_zip.mpr ⟨hlength, ?_⟩⟩
      exact fun hentry => hinner _ hentry
  · rintro ⟨fields, rfl, halone, hfield⟩
    rcases hpredicate : s.predicate with _ | ss
    · rw [hpredicate] at hfield
      refine .leaf halone ?_ hpredicate
      rcases hfield with ⟨v, hgives, rfl⟩ | ⟨hlacks, -⟩
      · exact Or.inr hgives
      · exact Or.inl hlacks
    · rw [hpredicate] at hfield
      rcases hfield with ⟨_, hgives, -, items, rfl, hitems⟩ | ⟨-, hnone⟩
      · obtain ⟨hlength, hinner⟩ := List.forall₂_iff_zip.mp hitems
        exact .wait halone hgives hpredicate hlength fun entry hentry => hinner hentry
      · exact absurd hnone (by simp)

/-- A statement with others nested in it, at most the given number of levels, itself one of them. -/
inductive NestedWithin : Nat → Statement → Prop
  | mk {levels : Nat} {s : Statement} (hinner : ∀ s' ∈ s.inner, NestedWithin levels s') :
      NestedWithin (levels + 1) s

theorem nestedWithin_succ {levels : Nat} {s : Statement} :
    s.NestedWithin (levels + 1) ↔ ∀ s' ∈ s.inner, s'.NestedWithin levels :=
  ⟨fun h => by cases h with | mk hinner => exact hinner, .mk⟩

theorem reads_fields {readInner : Reader Statement} {inner : Shape Statement} (hinner : Reads readInner inner) :
    Reads (fun v => (readModel "StatementSpec" (readFields readInner) v).checked check)
      (ObjectOf (Written inner)) := by
  refine reads_model fun fields s => ?_
  constructor
  · rintro ⟨s', hread, hcheck⟩
    obtain rfl := check_eq_ok hcheck
    obtain ⟨h, hkeys⟩ := readFields_eq_done.mp hread
    have hknown := (Fields.onlyKeys_eq_done_iff (by decide)).mp hkeys
    exact {
      keys := hknown
      element := (hknown.optional_iff reads_text? (by decide)).mp h.element
      action := (hknown.optional_iff reads_text? (by decide)).mp h.action
      args := (hknown.optional_iff (reads_list Argument.reads) (by decide)).mp h.args
      returnType := (hknown.optional_iff reads_text? (by decide)).mp h.returnType
      returnAll := (hknown.optional_iff reads_boolean (by decide)).mp h.returnAll
      chain := (hknown.optional_iff reads_boolean (by decide)).mp h.chain
      matcher := (hknown.optional_iff (reads_optional Matcher.reads) (by decide)).mp h.matcher
      predicate := (hknown.optional_iff (reads_optional (reads_list hinner)) (by decide)).mp h.predicate
      rule := check_eq_ok_iff.mp hcheck }
  · intro h
    have hkeys : fields.onlyKeys keys = .done () := (Fields.onlyKeys_eq_done_iff (by decide)).mpr h.keys
    refine ⟨s, readFields_eq_done.mpr ⟨?_, hkeys⟩, check_eq_ok_iff.mpr h.rule⟩
    exact {
      element := (h.keys.optional_iff reads_text? (by decide)).mpr h.element
      action := (h.keys.optional_iff reads_text? (by decide)).mpr h.action
      args := (h.keys.optional_iff (reads_list Argument.reads) (by decide)).mpr h.args
      returnType := (h.keys.optional_iff reads_text? (by decide)).mpr h.returnType
      returnAll := (h.keys.optional_iff reads_boolean (by decide)).mpr h.returnAll
      chain := (h.keys.optional_iff reads_boolean (by decide)).mpr h.chain
      matcher := (h.keys.optional_iff (reads_optional Matcher.reads) (by decide)).mpr h.matcher
      predicate := (h.keys.optional_iff (reads_optional (reads_list hinner)) (by decide)).mpr h.predicate }

/-- The statement is written, and nested within the given number of levels. -/
def Fits (levels : Nat) : Shape Statement := fun v s => Described v s ∧ s.NestedWithin levels

theorem splits_fits {levels : Nat} : Splits (Fits levels) Described (NestedWithin levels) :=
  fun _ _ => Iff.rfl

theorem written_fits {levels : Nat} {fields : Fields} {s : Statement} : Written (Fits levels) fields s ↔
    Written Described fields s ∧ ∀ s' ∈ s.inner, s'.NestedWithin levels := by
  have hpredicate : fields.Allows (.plain "predicate") none (OrNull (ListOf (Fits levels))) s.predicate ↔
      fields.Allows (.plain "predicate") none (OrNull (ListOf Described)) s.predicate ∧
        ∀ ss ∈ s.predicate, ∀ s' ∈ ss, s'.NestedWithin levels :=
    Fields.allows_iff splits_fits.listOf.orNull (by simp)
  have hinner : (∀ ss ∈ s.predicate, ∀ s' ∈ ss, s'.NestedWithin levels) ↔
      ∀ s' ∈ s.inner, s'.NestedWithin levels := by
    unfold inner
    cases s.predicate <;> simp
  rw [hinner] at hpredicate
  constructor
  · rintro ⟨halone, hfield⟩
    obtain ⟨hfield, hnested⟩ := hpredicate.mp hfield
    exact ⟨⟨halone, hfield⟩, hnested⟩
  · rintro ⟨⟨halone, hfield⟩, hnested⟩
    exact ⟨halone, hpredicate.mpr ⟨hfield, hnested⟩⟩

/-- **A reader of statements** reads those that are written within its levels, by induction on them. -/
theorem reads_within : ∀ {levels : Nat}, Reads (readWithin levels) (Fits levels)
  | 0, v, s => by
    refine iff_of_false fault_ne_done ?_
    rintro ⟨-, ⟨⟩⟩
  | levels + 1, v, s => by
    refine (reads_fields reads_within v s).trans ?_
    rw [Fits, described_iff, nestedWithin_succ]
    simp only [ObjectOf, written_fits, ← and_assoc, exists_and_right]

end Statement

/-! ## Methods and documents -/

/-- The fields of a method, with a shape for its statements. -/
structure Method.Written (inner : Shape Statement) (fields : Fields) (m : Method) : Prop where
  keys : fields.Known keys
  name : fields.Requires (.plain "name") IsText m.name
  description : fields.Allows (.plain "description") none (OrNull IsText) m.description
  returnType : fields.Allows ⟨"returnType", "return_type"⟩ none (OrNull IsText) m.returnType
  returnAll : fields.Allows ⟨"returnAll", "return_all"⟩ false IsBoolean m.returnAll
  compose : fields.Requires (.plain "compose") (ListOf inner) m.compose
  rule : m.Rules

/-- The fields of a document, with a shape for its statements. -/
structure Document.Written (inner : Shape Statement) (fields : Fields) (d : Document) : Prop where
  keys : fields.Known keys
  description : fields.Allows (.plain "description") none (OrNull IsText) d.description
  isRoot : fields.Allows (.plain "root") false IsBoolean d.isRoot
  selector : fields.Allows (.plain "selector") none (OrNull (ObjectOf Selector.Written)) d.selector
  interfaces : fields.Allows (.plain "type") [] (ListOf IsText) d.interfaces
  exposeRootElement : fields.Allows ⟨"exposeRootElement", "expose_root_element"⟩ false IsBoolean
    d.exposeRootElement
  elements : fields.Allows (.plain "elements") [] (ListOf (ObjectOf Element.Written)) d.elements
  beforeLoad : fields.Allows ⟨"beforeLoad", "before_load"⟩ [] (ListOf inner) d.beforeLoad
  methods : fields.Allows (.plain "methods") [] (ListOf (ObjectOf (Method.Written inner))) d.methods
  rule : d.Rules

/-- The value is written as the grammar says, and the document is what it stands for. -/
def Document.Described : Shape Document := ObjectOf (Written Statement.Described)

theorem Method.reads : Reads read (ObjectOf (Written (Statement.Fits (nestingLimit - 1)))) := by
  refine reads_model fun fields m => ?_
  have hstatements : Reads (readList Statement.readPart) (ListOf (Statement.Fits (nestingLimit - 1))) :=
    reads_list Statement.reads_within
  constructor
  · rintro ⟨m', hread, hcheck⟩
    obtain rfl := check_eq_ok hcheck
    simp only [readFields, seqLeft_eq_done, seq_eq_done, map_eq_done] at hread
    obtain ⟨⟨_, ss, ⟨_, all, ⟨_, keyword, ⟨_, description, ⟨name, hname, rfl⟩, hdescription, rfl⟩, hkeyword,
      rfl⟩, hall, rfl⟩, hcompose, rfl⟩, u, hkeys⟩ := hread
    have hknown := (Fields.onlyKeys_eq_done_iff (by decide)).mp hkeys
    exact {
      keys := hknown
      name := (hknown.required_iff reads_text (by decide)).mp hname
      description := (hknown.optional_iff reads_text? (by decide)).mp hdescription
      returnType := (hknown.optional_iff reads_text? (by decide)).mp hkeyword
      returnAll := (hknown.optional_iff reads_boolean (by decide)).mp hall
      compose := (hknown.required_iff hstatements (by decide)).mp hcompose
      rule := check_eq_ok_iff.mp hcheck }
  · intro h
    refine ⟨m, ?_, check_eq_ok_iff.mpr h.rule⟩
    simp only [readFields, seqLeft_eq_done, seq_eq_done, map_eq_done]
    exact ⟨⟨_, _, ⟨_, _, ⟨_, _, ⟨_, _, ⟨_, (h.keys.required_iff reads_text (by decide)).mpr h.name, rfl⟩,
      (h.keys.optional_iff reads_text? (by decide)).mpr h.description, rfl⟩,
      (h.keys.optional_iff reads_text? (by decide)).mpr h.returnType, rfl⟩,
      (h.keys.optional_iff reads_boolean (by decide)).mpr h.returnAll, rfl⟩,
      (h.keys.required_iff hstatements (by decide)).mpr h.compose, rfl⟩, (),
      (Fields.onlyKeys_eq_done_iff (by decide)).mpr h.keys⟩

/-- The statements of a document are nested within the given number of levels. -/
def Document.NestedWithin (levels : Nat) (d : Document) : Prop :=
  ∀ s, d.HasStatement s → s.NestedWithin levels

theorem Method.written_fits {levels : Nat} {fields : Fields} {m : Method} :
    Written (Statement.Fits levels) fields m ↔
      Written Statement.Described fields m ∧ ∀ s ∈ m.compose, s.NestedWithin levels := by
  have hcompose := fun key => @Fields.requires_iff _ _ _ _ (@Statement.splits_fits levels).listOf fields key
    m.compose
  constructor
  · intro h
    obtain ⟨hfield, hnested⟩ := (hcompose _).mp h.compose
    exact ⟨{ h with compose := hfield }, hnested⟩
  · rintro ⟨h, hnested⟩
    exact { h with compose := (hcompose _).mpr ⟨h.compose, hnested⟩ }

theorem Method.splits_fits {levels : Nat} : Splits (ObjectOf (Written (Statement.Fits levels)))
    (ObjectOf (Written Statement.Described)) fun m => ∀ s ∈ m.compose, s.NestedWithin levels := by
  intro v m
  simp only [ObjectOf, written_fits, ← and_assoc, exists_and_right]

theorem Document.written_fits {levels : Nat} {fields : Fields} {d : Document} :
    Written (Statement.Fits levels) fields d ↔
      Written Statement.Described fields d ∧ d.NestedWithin levels := by
  have hstatements : d.NestedWithin levels ↔ (∀ s ∈ d.beforeLoad, s.NestedWithin levels) ∧
      ∀ m ∈ d.methods, ∀ s ∈ m.compose, s.NestedWithin levels := by
    constructor
    · intro h
      exact ⟨fun s hs => h s (Or.inl hs), fun m hm s hs => h s (Or.inr ⟨m, hm, hs⟩)⟩
    · rintro ⟨hearly, hmethods⟩ s (hs | ⟨m, hm, hs⟩)
      · exact hearly s hs
      · exact hmethods m hm s hs
  have hbeforeLoad := fun key => @Fields.allows_iff _ _ _ _ (@Statement.splits_fits levels).listOf fields key []
    d.beforeLoad (by simp)
  have hmethods := fun key => @Fields.allows_iff _ _ _ _ (@Method.splits_fits levels).listOf fields key []
    d.methods (by simp)
  rw [hstatements]
  constructor
  · intro h
    obtain ⟨hbefore, hearly⟩ := (hbeforeLoad _).mp h.beforeLoad
    obtain ⟨hfield, hnested⟩ := (hmethods _).mp h.methods
    exact ⟨{ h with beforeLoad := hbefore, methods := hfield }, hearly, hnested⟩
  · rintro ⟨h, hearly, hnested⟩
    exact { h with
      beforeLoad := (hbeforeLoad _).mpr ⟨h.beforeLoad, hearly⟩
      methods := (hmethods _).mpr ⟨h.methods, hnested⟩ }

/-- **A document is read** exactly from the values that describe it, if no statement is nested too deep. -/
theorem Document.reads : Reads read fun v d => Described v d ∧ d.NestedWithin (nestingLimit - 1) := by
  have hstatements : Reads (readList Statement.readPart) (ListOf (Statement.Fits (nestingLimit - 1))) :=
    reads_list Statement.reads_within
  have hfits : ∀ v d, ObjectOf (Written (Statement.Fits (nestingLimit - 1))) v d ↔
      Described v d ∧ d.NestedWithin (nestingLimit - 1) := by
    intro v d
    simp only [Described, ObjectOf, written_fits, ← and_assoc, exists_and_right]
  intro v d
  refine Iff.trans ?_ (hfits v d)
  refine reads_model (fun fields d => ?_) v d
  constructor
  · rintro ⟨d', hread, hcheck⟩
    obtain rfl := check_eq_ok hcheck
    have h := readFields_eq_done.mp hread
    have hknown := (Fields.onlyKeys_eq_done_iff (by decide)).mp h.keys
    exact {
      keys := hknown
      description := (hknown.optional_iff reads_text? (by decide)).mp h.description
      isRoot := (hknown.optional_iff reads_boolean (by decide)).mp h.isRoot
      selector := (hknown.optional_iff (reads_optional Selector.reads) (by decide)).mp h.selector
      interfaces := (hknown.optional_iff (reads_list reads_text) (by decide)).mp h.interfaces
      exposeRootElement := (hknown.optional_iff reads_boolean (by decide)).mp h.exposeRootElement
      elements := (hknown.optional_iff (reads_list Element.reads) (by decide)).mp h.elements
      beforeLoad := (hknown.optional_iff hstatements (by decide)).mp h.beforeLoad
      methods := (hknown.optional_iff (reads_list Method.reads) (by decide)).mp h.methods
      rule := check_eq_ok_iff.mp hcheck }
  · intro h
    refine ⟨d, readFields_eq_done.mpr ?_, check_eq_ok_iff.mpr h.rule⟩
    exact {
      description := (h.keys.optional_iff reads_text? (by decide)).mpr h.description
      isRoot := (h.keys.optional_iff reads_boolean (by decide)).mpr h.isRoot
      selector := (h.keys.optional_iff (reads_optional Selector.reads) (by decide)).mpr h.selector
      interfaces := (h.keys.optional_iff (reads_list reads_text) (by decide)).mpr h.interfaces
      exposeRootElement := (h.keys.optional_iff reads_boolean (by decide)).mpr h.exposeRootElement
      elements := (h.keys.optional_iff (reads_list Element.reads) (by decide)).mpr h.elements
      beforeLoad := (h.keys.optional_iff hstatements (by decide)).mpr h.beforeLoad
      methods := (h.keys.optional_iff (reads_list Method.reads) (by decide)).mpr h.methods
      keys := (Fields.onlyKeys_eq_done_iff (by decide)).mpr h.keys }

/-! ## Loading -/

/-- The rules are kept at every node of a document. -/
structure Document.KeepsRules (d : Document) : Prop where
  document : d.Rules
  selector : ∀ s ∈ d.selector, s.UsesOne
  elements : ∀ e ∈ d.elements, e.Rules
  elementSelectors : ∀ e ∈ d.elements, e.selector.UsesOne
  methods : ∀ m ∈ d.methods, m.Rules
  statements : ∀ s, d.Holds s → s.Rules
  arguments : ∀ s, d.Holds s → ∀ a ∈ s.givenArguments, a.Rules

/-- The rules are kept by every statement that a written one holds. -/
theorem Statement.Described.rules {v : Json} {s : Statement} (h : Described v s) :
    ∀ s', s.Holds s' → s'.Rules := by
  induction h with
  | @leaf fields s halone hfield hpredicate =>
    intro s' hholds
    cases hholds with
    | itself => exact halone.rule
    | inner hs' => exact absurd hs' (by simp [inner, hpredicate])
  | @wait fields s items ss halone hfield hpredicate hlength hinner ih =>
    intro s' hholds
    cases hholds with
    | itself => exact halone.rule
    | @inner _ next _ hnext hholds =>
      rw [inner, hpredicate, Option.getD_some] at hnext
      obtain ⟨i, hi, rfl⟩ := List.mem_iff_getElem.mp hnext
      have hentry : (items[i], ss[i]) ∈ items.zip ss :=
        List.mem_iff_getElem.mpr ⟨i, by simp [hlength, hi], List.getElem_zip⟩
      exact ih _ hentry _ hholds

theorem Document.Described.keepsRules {v : Json} {d : Document} (h : Described v d) : d.KeepsRules := by
  obtain ⟨fields, rfl, h⟩ := h
  have hselectors : ∀ v s, ObjectOf Selector.Written v s → s.UsesOne := fun _ _ ⟨_, _, hs⟩ => hs.rule
  have helements : ∀ v e, ObjectOf Element.Written v e → e.Rules ∧ e.selector.UsesOne :=
    fun _ _ ⟨_, _, he⟩ => ⟨he.rule, Fields.Requires.of_shape hselectors he.selector⟩
  have hstatements : ∀ v s, Statement.Described v s → ∀ s', s.Holds s' → s'.Rules :=
    fun _ _ hs => hs.rules
  have hmethods : ∀ v m, ObjectOf (Method.Written Statement.Described) v m →
      m.Rules ∧ ∀ s ∈ m.compose, ∀ s', s.Holds s' → s'.Rules := by
    rintro v m ⟨fields, rfl, hm⟩
    have hcompose : ∀ v ss, ListOf Statement.Described v ss → ∀ s ∈ ss, ∀ s', s.Holds s' → s'.Rules :=
      fun _ _ => ListOf.forall_mem hstatements
    exact ⟨hm.rule, Fields.Requires.of_shape hcompose hm.compose⟩
  have hall := h.elements.forall_mem helements
  have hmethod := h.methods.forall_mem hmethods
  have hearly := h.beforeLoad.forall_mem hstatements
  exact {
    document := h.rule
    selector := h.selector.forall_mem_option hselectors
    elements := fun e he => (hall e he).1
    elementSelectors := fun e he => (hall e he).2
    methods := fun m hm => (hmethod m hm).1
    statements := by
      rintro s ⟨top, htop | ⟨m, hm, htop⟩, hholds⟩
      · exact hearly top htop s hholds
      · exact (hmethod m hm).2 top htop s hholds
    arguments := fun _ _ a _ => a.rules }

theorem Document.load_keepsRules {source : Source} {d : Document} (h : load source = .ok d) : d.KeepsRules := by
  obtain ⟨v, -, hread⟩ := load_eq_ok.mp h
  exact ((reads v d).mp hread).1.keepsRules

/-- **A source is loaded** exactly if its value is written as the grammar says, with no statement nested too
deep; and the rules are kept at every node of what is loaded. -/
theorem Document.load_grammar {source : Source} {v : Json} (h : source.Decodes v) :
    (∀ d, load source = .ok d ↔ Described v d ∧ d.NestedWithin (nestingLimit - 1)) ∧
      ∀ d, load source = .ok d → d.KeepsRules := by
  have hloads : ∀ d, load source = .ok d ↔ Described v d ∧ d.NestedWithin (nestingLimit - 1) := by
    intro d
    rw [h.load, ofValue_eq_ok]
    exact reads v d
  exact ⟨hloads, fun d hload => ((hloads d).mp hload).1.keepsRules⟩

theorem Document.homeFields_grammar : ∃ d, load (.value (.object homeFields)) = .ok d ∧
    Described (.object homeFields) d ∧ d.NestedWithin (nestingLimit - 1) ∧ d.KeepsRules := by
  have hok : (load (.value (.object homeFields))).toOption.any (fun _ => true) = true := by decide
  obtain ⟨d, hload, -⟩ := exists_eq_ok hok
  obtain ⟨hloads, hrules⟩ := load_grammar (.value (.object homeFields))
  obtain ⟨hdescribed, hnested⟩ := (hloads d).mp hload
  exact ⟨d, hload, hdescribed, hnested, hrules d hload⟩

/-! ## Nesting -/

namespace Statement

/-- Waits for waits, one in another, around a statement that names the root. -/
def nestedJson : Nat → Json
  | 0 => .object [("element", .text "root")]
  | n + 1 => .object [("apply", .text waitAction), ("predicate", .list [nestedJson n])]

/-- What the nested waits stand for. -/
def nested : Nat → Statement
  | 0 => { element := some "root" }
  | n + 1 => { action := some waitAction, predicate := some [nested n] }

theorem read_nested : ∀ {n : Nat}, readWithin (n + 1) (nestedJson n) = .done (nested n)
  | 0 => rfl
  | n + 1 => by
    have hinner : readItemsFrom (readWithin (n + 1)) 0 [nestedJson n] = .done [nested n] := by
      rw [readItemsFrom, read_nested]
      rfl
    have hpredicate : (Fields.optional [("apply", .text waitAction), ("predicate", .list [nestedJson n])]
        (.plain "predicate") none (readOptional (readList (readWithin (n + 1))))) = .done (some [nested n]) := by
      show ((some <$> readItemsFrom (readWithin (n + 1)) 0 [nestedJson n]).within _) = _
      rw [hinner]
      rfl
    rw [readWithin, nestedJson, readModel, readFields, hpredicate]
    rfl

/-- Nested waits are not read with fewer levels than they have. -/
theorem not_read_nested : ∀ {levels n : Nat} {s : Statement}, levels ≤ n →
    readWithin levels (nestedJson n) ≠ .done s
  | 0, _, _, _ => fault_ne_done
  | levels + 1, 0, _, hdeep => absurd hdeep (by simp)
  | levels + 1, n + 1, s, hdeep => by
    intro h
    obtain ⟨fields, hfields, hread, -⟩ := readWithin_eq_done h
    obtain rfl := Json.object.inj hfields
    obtain ⟨ss, hss, -⟩ := map_eq_done.mp (within_eq_done.mp hread.predicate)
    obtain ⟨items, hitems, hall⟩ := readList_eq_done.mp hss
    obtain rfl := Json.list.inj hitems
    obtain ⟨s', _, hs', -, -⟩ := List.forall₂_cons_left_iff.mp hall
    exact not_read_nested (Nat.le_of_succ_le_succ hdeep) hs'

end Statement

namespace Document

/-- A document whose page is loaded after nested waits. -/
def nestedFields (n : Nat) : Fields := [("beforeLoad", .list [Statement.nestedJson n])]

/-- What that document says. -/
def nested (n : Nat) : Document := { beforeLoad := [Statement.nested n] }

theorem described_nested {n : Nat} : Described (.object (nestedFields n)) (nested n) := by
  have hstatement : Statement.Described (Statement.nestedJson n) (Statement.nested n) :=
    ((Statement.reads_within _ _).mp Statement.read_nested).1
  have hlist : ListOf Statement.Described (.list [Statement.nestedJson n]) [Statement.nested n] :=
    ⟨_, rfl, .cons hstatement .nil⟩
  refine ⟨_, rfl, ?_⟩
  exact {
    keys := {
      known := fun field hfield => ⟨⟨"beforeLoad", "before_load"⟩, by decide, Or.inl (by simp_all [nestedFields])⟩
      single := by simp [nestedFields, Fields.get?, keys, Key.plain] }
    description := Or.inr ⟨⟨rfl, rfl⟩, rfl⟩
    isRoot := Or.inr ⟨⟨rfl, rfl⟩, rfl⟩
    selector := Or.inr ⟨⟨rfl, rfl⟩, rfl⟩
    interfaces := Or.inr ⟨⟨rfl, rfl⟩, rfl⟩
    exposeRootElement := Or.inr ⟨⟨rfl, rfl⟩, rfl⟩
    elements := Or.inr ⟨⟨rfl, rfl⟩, rfl⟩
    beforeLoad := Or.inl ⟨_, Or.inl rfl, hlist⟩
    methods := Or.inr ⟨⟨rfl, rfl⟩, rfl⟩
    rule := by simp [Rules, nested] }

theorem load_nested_ne_ok {n : Nat} (hdeep : nestingLimit ≤ n + 1) {d : Document} :
    load (.value (.object (nestedFields n))) ≠ .ok d := by
  intro hload
  obtain ⟨_, hfields, hread, -⟩ := read_eq_done.mp (ofValue_eq_ok.mp hload)
  obtain rfl := Json.object.inj hfields
  obtain ⟨items, hitems, hall⟩ := readList_eq_done.mp (within_eq_done.mp hread.beforeLoad)
  obtain rfl := Json.list.inj hitems
  obtain ⟨s, _, hs, -, -⟩ := List.forall₂_cons_left_iff.mp hall
  exact Statement.not_read_nested (Nat.sub_le_iff_le_add.mpr hdeep) hs

/-- **Statements that are nested too deep are refused**, though they are written as the grammar says. -/
theorem nested_not_loaded : Described (.object (nestedFields 254)) (nested 254) ∧ (nested 254).KeepsRules ∧
    ∀ d, load (.value (.object (nestedFields 254))) ≠ .ok d :=
  ⟨described_nested, described_nested.keepsRules, fun _ => load_nested_ne_ok (by decide)⟩

end Document

end PageObjects
