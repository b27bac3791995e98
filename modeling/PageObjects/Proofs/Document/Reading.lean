import Mathlib.Data.List.Forall2
import PageObjects.Document.Load
import PageObjects.Proofs.Association

/-!
# What a read document keeps

Every node of a document is checked when it is read: an element has a name of its own, a statement
has something to evaluate. A document that was read keeps these rules at every node, the statements
of predicates included.

* `Reading.seq_eq_done`, `Reading.checked_eq_done`: a reading that succeeds is taken apart.
* `Statement.Kept`: a statement that keeps its rules, with those in its predicate.
* `Source.Decodes`, `Document.load_eq_ok`: the value that a source stands for, and the document read of it.
* **`Document.load_kept`**: every node of a loaded document keeps its rules.
-/

namespace PageObjects

/-! ## Readings that succeed -/

namespace Reading

theorem map_eq_done {f : α → β} {x : Reading α} {b : β} :
    f <$> x = .done b ↔ ∃ a, x = .done a ∧ f a = b := by
  cases x with
  | done a => simp [Functor.map, Reading.map]
  | refused problems => simp [Functor.map, Reading.map]

theorem seq_eq_done {f : Reading (α → β)} {x : Reading α} {b : β} :
    f <*> x = .done b ↔ ∃ g a, f = .done g ∧ x = .done a ∧ g a = b := by
  cases f <;> cases x <;> simp [Seq.seq, apply]

theorem seqLeft_eq_done {x : Reading α} {y : Reading β} {a : α} :
    x <* y = .done a ↔ x = .done a ∧ ∃ b, y = .done b := by
  cases x <;> cases y <;> simp [SeqLeft.seqLeft, Reading.map, apply]

theorem within_eq_done {step : Step} {x : Reading α} {a : α} :
    x.within step = .done a ↔ x = .done a := by
  cases x <;> simp [within]

theorem checked_eq_done {check : α → Except Rule β} {x : Reading α} {b : β} :
    x.checked check = .done b ↔ ∃ a, x = .done a ∧ check a = .ok b := by
  cases x with
  | refused problems => simp [checked]
  | done a =>
    simp only [checked, done.injEq, exists_eq_left']
    cases check a <;> simp [fault]

theorem fault_ne_done {f : Fault} {a : α} : (fault f : Reading α) ≠ .done a := by
  simp [fault]

end Reading

open Reading

/-- What stands in the second of two related lists is related to something in the first. -/
theorem exists_of_mem_forall₂ {R : α → β → Prop} {as : List α} {bs : List β} (h : List.Forall₂ R as bs) :
    ∀ b ∈ bs, ∃ a ∈ as, R a b := by
  induction h with
  | nil => intro b hb; exact absurd hb (by simp)
  | cons hfirst hrest ih =>
    intro b hb
    rcases List.mem_cons.mp hb with rfl | hb
    · exact ⟨_, List.mem_cons_self, hfirst⟩
    · obtain ⟨a, ha, hab⟩ := ih b hb
      exact ⟨a, List.mem_cons_of_mem _ ha, hab⟩

/-- The items of a list are read one by one. -/
theorem readItemsFrom_eq_done {read : Reader α} : ∀ {items : List Json} {index : Nat} {as : List α},
    readItemsFrom read index items = .done as ↔ List.Forall₂ (fun v a => read v = .done a) items as
  | [], index, as => by
    simp [readItemsFrom, eq_comm]
  | v :: rest, index, as => by
    simp only [readItemsFrom, seq_eq_done, map_eq_done, within_eq_done, readItemsFrom_eq_done,
      List.forall₂_cons_left_iff]
    constructor
    · rintro ⟨g, others, ⟨first, hfirst, rfl⟩, hothers, rfl⟩
      exact ⟨first, others, hfirst, hothers, rfl⟩
    · rintro ⟨first, others, hfirst, hothers, rfl⟩
      exact ⟨_, others, ⟨first, hfirst, rfl⟩, hothers, rfl⟩

theorem readList_eq_done {read : Reader α} {v : Json} {as : List α} : readList read v = .done as ↔
    ∃ items, v = .list items ∧ List.Forall₂ (fun v a => read v = .done a) items as := by
  cases v with
  | list items => simp [readList, readItemsFrom_eq_done]
  | _ => simp [readList, fault_ne_done]

theorem readList_forall_mem {P : α → Prop} {read : Reader α} {v : Json} {as : List α}
    (hread : ∀ items, v = .list items → ∀ item ∈ items, ∀ a, read item = .done a → P a)
    (h : readList read v = .done as) : ∀ a ∈ as, P a := by
  obtain ⟨items, hv, hitems⟩ := readList_eq_done.mp h
  intro a ha
  obtain ⟨item, hmem, hitem⟩ := exists_of_mem_forall₂ hitems a ha
  exact hread items hv item hmem a hitem

theorem readList_forall {P : α → Prop} {read : Reader α} (hread : ∀ v a, read v = .done a → P a)
    {v : Json} {as : List α} (h : readList read v = .done as) : ∀ a ∈ as, P a :=
  readList_forall_mem (fun _ _ item _ a => hread item a) h

theorem readOptional_forall {P : α → Prop} {read : Reader α} {v : Json} {a? : Option α}
    (hread : ∀ a, read v = .done a → P a) (h : readOptional read v = .done a?) : ∀ a ∈ a?, P a := by
  unfold readOptional at h
  split at h
  · obtain rfl := Reading.done.inj h
    exact fun a ha => absurd ha (by simp)
  · obtain ⟨a, ha, rfl⟩ := map_eq_done.mp h
    intro a' ha'
    obtain rfl := Option.some.inj ha'
    exact hread _ ha

namespace Fields

variable {fields : Fields} {key : Key} {default : α} {read : Reader α}

theorem mem_of_find? {given : String} {v : Json} (h : fields.find? key = some (given, v)) :
    (given, v) ∈ fields := by
  unfold find? get? at h
  split at h
  · rename_i v' hlookup
    exact Option.some.inj h ▸ mem_of_lookup hlookup
  · obtain ⟨v', hlookup, h⟩ := Option.map_eq_some_iff.mp h
    exact h ▸ mem_of_lookup hlookup

/-- A field with a default has the default, or a value of the fields that was read. -/
theorem optional_forall_mem {P : α → Prop} (hdefault : P default)
    (hread : ∀ field ∈ fields, ∀ a, read field.2 = .done a → P a) {a : α}
    (h : fields.optional key default read = .done a) : P a := by
  unfold optional at h
  split at h
  · rename_i given v hfind
    exact hread _ (mem_of_find? hfind) a (within_eq_done.mp h)
  · obtain rfl := Reading.done.inj h
    exact hdefault

theorem optional_forall {P : α → Prop} (hdefault : P default) (hread : ∀ v a, read v = .done a → P a)
    {a : α} (h : fields.optional key default read = .done a) : P a :=
  optional_forall_mem hdefault (fun field _ a => hread field.2 a) h

/-- A field that has to be given has a value of the fields that was read. -/
theorem required_forall_mem {P : α → Prop}
    (hread : ∀ field ∈ fields, ∀ a, read field.2 = .done a → P a) {a : α}
    (h : fields.required key read = .done a) : P a := by
  unfold required at h
  split at h
  · rename_i given v hfind
    exact hread _ (mem_of_find? hfind) a (within_eq_done.mp h)
  · exact absurd (within_eq_done.mp h) fault_ne_done

theorem required_forall {P : α → Prop} (hread : ∀ v a, read v = .done a → P a) {a : α}
    (h : fields.required key read = .done a) : P a :=
  required_forall_mem (fun field _ a => hread field.2 a) h

end Fields

theorem readModel_eq_done {model : String} {read : Fields → Reading α} {v : Json} {a : α}
    (h : readModel model read v = .done a) : ∃ fields, v = .object fields ∧ read fields = .done a := by
  unfold readModel at h
  split at h
  · exact ⟨_, rfl, h⟩
  · exact absurd h fault_ne_done

/-! ## Nodes that keep their rules -/

/-- The statement keeps its rules, and so do the statements of its predicate. -/
inductive Statement.Kept : Statement → Prop
  | mk {s : Statement} (hcheck : s.check = .ok s) (hinner : ∀ s' ∈ s.inner, Kept s') : Kept s

/-- What holds of the statements of a predicate, if there is one, holds of the inner statements. -/
theorem Statement.forall_inner {P : Statement → Prop} {s : Statement}
    (h : ∀ ss ∈ s.predicate, ∀ s' ∈ ss, P s') : ∀ s' ∈ s.inner, P s' := by
  unfold inner
  cases hpredicate : s.predicate with
  | none => simp
  | some ss => exact h ss hpredicate

theorem Statement.Kept.check {s : Statement} (h : s.Kept) : s.check = .ok s := by
  cases h with
  | mk hcheck hinner => exact hcheck

theorem Statement.Kept.of_inner {s s' : Statement} (h : s.Kept) (hs' : s' ∈ s.inner) : s'.Kept := by
  cases h with
  | mk hcheck hinner => exact hinner s' hs'

/-- A statement without action evaluates to the element that it names. -/
theorem Statement.Kept.element_of_action {s : Statement} (h : s.Kept) (haction : s.action = none) :
    s.chain = false ∧ ∃ name, s.element = some name := by
  have hcheck := h.check
  unfold Statement.check at hcheck
  rw [haction] at hcheck
  cases hchain : s.chain with
  | true =>
    rw [hchain] at hcheck
    cases helement : s.element with
    | none => rw [helement] at hcheck; exact absurd hcheck (by simp)
    | some name => rw [helement] at hcheck; exact absurd hcheck (by simp)
  | false =>
    rw [hchain] at hcheck
    cases helement : s.element with
    | none => rw [helement] at hcheck; exact absurd hcheck (by simp)
    | some name => exact ⟨rfl, name, rfl⟩

theorem Statement.check_eq_ok {s s' : Statement} (h : s.check = .ok s') : s' = s := by
  unfold Statement.check at h
  split at h
  · exact absurd h (by simp)
  · exact absurd h (by simp)
  · exact absurd h (by simp)
  · split at h
    · exact absurd h (by simp)
    · exact (Except.ok.inj h).symm

/-- The statement has what the fields of an object are read as. -/
structure Statement.ReadFrom (readInner : Reader Statement) (fields : Fields) (s : Statement) : Prop where
  element : fields.optional (.plain "element") none (readOptional readText) = .done s.element
  action : fields.optional (.plain "apply") none (readOptional readText) = .done s.action
  args : fields.optional (.plain "args") [] (readList Argument.read) = .done s.args
  returnType : fields.optional ⟨"returnType", "return_type"⟩ none (readOptional readText) =
    .done s.returnType
  returnAll : fields.optional ⟨"returnAll", "return_all"⟩ false readBoolean = .done s.returnAll
  chain : fields.optional (.plain "chain") false readBoolean = .done s.chain
  matcher : fields.optional (.plain "matcher") none (readOptional Matcher.read) = .done s.matcher
  predicate : fields.optional (.plain "predicate") none (readOptional (readList readInner)) =
    .done s.predicate

theorem Statement.readFields_eq_done {readInner : Reader Statement} {fields : Fields} {s : Statement} :
    readFields readInner fields = .done s ↔
      s.ReadFrom readInner fields ∧ fields.onlyKeys keys = .done () := by
  simp only [readFields, seqLeft_eq_done, seq_eq_done, map_eq_done]
  constructor
  · rintro ⟨⟨_, predicate, ⟨_, matcher, ⟨_, chain, ⟨_, all, ⟨_, keyword, ⟨_, args, ⟨_, action,
      ⟨element, helement, rfl⟩, haction, rfl⟩, hargs, rfl⟩, hkeyword, rfl⟩, hall, rfl⟩, hchain, rfl⟩,
      hmatcher, rfl⟩, hpredicate, rfl⟩, u, hkeys⟩
    exact ⟨⟨helement, haction, hargs, hkeyword, hall, hchain, hmatcher, hpredicate⟩, hkeys⟩
  · rintro ⟨h, hkeys⟩
    exact ⟨⟨_, _, ⟨_, _, ⟨_, _, ⟨_, _, ⟨_, _, ⟨_, _, ⟨_, _, ⟨_, h.element, rfl⟩, h.action, rfl⟩, h.args,
      rfl⟩, h.returnType, rfl⟩, h.returnAll, rfl⟩, h.chain, rfl⟩, h.matcher, rfl⟩, h.predicate,
      by cases s; rfl⟩, (), hkeys⟩

/-- What a statement is read from: the fields of an object, and the statements of its predicate with
one level less. -/
theorem Statement.readWithin_eq_done {levels : Nat} {v : Json} {s : Statement}
    (h : readWithin (levels + 1) v = .done s) :
    ∃ fields, v = .object fields ∧ s.ReadFrom (readWithin levels) fields ∧ s.check = .ok s := by
  obtain ⟨s', hread, hcheck⟩ := checked_eq_done.mp h
  obtain rfl := check_eq_ok hcheck
  obtain ⟨fields, rfl, hfields⟩ := readModel_eq_done hread
  exact ⟨fields, rfl, (readFields_eq_done.mp hfields).1, hcheck⟩

/-- A statement that is read keeps its rules, by induction on the levels that are left to read. -/
theorem Statement.readWithin_kept : ∀ {levels : Nat} {v : Json} {s : Statement},
    readWithin levels v = .done s → s.Kept
  | 0, v, s, h => absurd h fault_ne_done
  | levels + 1, v, s, h => by
    obtain ⟨fields, -, hfields, hcheck⟩ := readWithin_eq_done h
    have hinner : ∀ ss ∈ s.predicate, ∀ s' ∈ ss, s'.Kept :=
      Fields.optional_forall (P := fun predicate : Option (List Statement) =>
        ∀ ss ∈ predicate, ∀ s' ∈ ss, s'.Kept) (by simp)
        (fun v predicate => readOptional_forall fun ss => readList_forall fun v s' => readWithin_kept)
        hfields.predicate
    exact .mk hcheck (forall_inner hinner)

theorem Element.check_eq_ok {e e' : Element} (h : e.check = .ok e') : e' = e := by
  unfold Element.check at h
  split at h
  · exact absurd h (by simp)
  · split at h
    · exact absurd h (by simp)
    · exact (Except.ok.inj h).symm

theorem Element.read_kept {v : Json} {e : Element} (h : read v = .done e) : e.check = .ok e := by
  obtain ⟨e', -, hcheck⟩ := checked_eq_done.mp h
  obtain rfl := check_eq_ok hcheck
  exact hcheck

/-- The name of an element that was read is none of the reserved names. -/
theorem Element.not_reserved {e : Element} (h : e.check = .ok e) : e.name ∉ reservedElements := by
  unfold Element.check at h
  split at h
  · exact absurd h (by simp)
  · split at h
    · exact absurd h (by simp)
    · rename_i hreserved
      simpa using hreserved

theorem Method.check_eq_ok {m m' : Method} (h : m.check = .ok m') : m' = m := by
  unfold Method.check at h
  split at h
  · exact absurd h (by simp)
  · split at h
    · exact absurd h (by simp)
    · exact (Except.ok.inj h).symm

/-- The statements of a method are read from a field of an object. -/
theorem Method.read_eq_done {v : Json} {m : Method} (h : read v = .done m) : ∃ fields, v = .object fields ∧
    Fields.required fields (.plain "compose") (readList Statement.readPart) = .done m.compose := by
  obtain ⟨m', hread, hcheck⟩ := checked_eq_done.mp h
  obtain rfl := check_eq_ok hcheck
  obtain ⟨fields, rfl, hfields⟩ := readModel_eq_done hread
  simp only [readFields, seqLeft_eq_done, seq_eq_done, map_eq_done] at hfields
  obtain ⟨⟨_, ss, ⟨_, all, ⟨_, keyword, ⟨_, description, ⟨name, -, rfl⟩, -, rfl⟩, -, rfl⟩, -, rfl⟩,
    hcompose, rfl⟩, -⟩ := hfields
  exact ⟨fields, rfl, hcompose⟩

theorem Method.read_kept {v : Json} {m : Method} (h : read v = .done m) : ∀ s ∈ m.compose, s.Kept := by
  obtain ⟨fields, -, hcompose⟩ := read_eq_done h
  exact Fields.required_forall (fun v ss => readList_forall fun v s => Statement.readWithin_kept)
    hcompose

/-- The document keeps the rules of its elements and statements. -/
structure Document.Kept (d : Document) : Prop where
  elements : ∀ e ∈ d.elements, e.check = .ok e
  beforeLoad : ∀ s ∈ d.beforeLoad, s.Kept
  methods : ∀ m ∈ d.methods, ∀ s ∈ m.compose, s.Kept

theorem Document.check_eq_ok {d d' : Document} (h : d.check = .ok d') : d' = d := by
  unfold Document.check at h
  split at h
  · exact absurd h (by simp)
  · exact absurd h (by simp)
  · exact (Except.ok.inj h).symm

/-- The document has what the fields of an object are read as, and no field is left over. -/
structure Document.ReadFrom (fields : Fields) (d : Document) : Prop where
  description : fields.optional (.plain "description") none (readOptional readText) =
    .done d.description
  isRoot : fields.optional (.plain "root") false readBoolean = .done d.isRoot
  selector : fields.optional (.plain "selector") none (readOptional Selector.read) = .done d.selector
  interfaces : fields.optional (.plain "type") [] (readList readText) = .done d.interfaces
  exposeRootElement : fields.optional ⟨"exposeRootElement", "expose_root_element"⟩ false readBoolean =
    .done d.exposeRootElement
  elements : fields.optional (.plain "elements") [] (readList Element.read) = .done d.elements
  beforeLoad : fields.optional ⟨"beforeLoad", "before_load"⟩ [] (readList Statement.readPart) =
    .done d.beforeLoad
  methods : fields.optional (.plain "methods") [] (readList Method.read) = .done d.methods
  keys : fields.onlyKeys keys = .done ()

theorem Document.readFields_eq_done {fields : Fields} {d : Document} :
    readFields fields = .done d ↔ d.ReadFrom fields := by
  simp only [readFields, seqLeft_eq_done, seq_eq_done, map_eq_done]
  constructor
  · rintro ⟨⟨_, methods, ⟨_, beforeLoad, ⟨_, elements, ⟨_, expose, ⟨_, interfaces, ⟨_, selector,
      ⟨_, isRoot, ⟨description, hdescription, rfl⟩, hisRoot, rfl⟩, hselector, rfl⟩, hinterfaces, rfl⟩,
      hexpose, rfl⟩, helements, rfl⟩, hbeforeLoad, rfl⟩, hmethods, rfl⟩, u, hkeys⟩
    exact ⟨hdescription, hisRoot, hselector, hinterfaces, hexpose, helements, hbeforeLoad, hmethods, hkeys⟩
  · intro h
    exact ⟨⟨_, _, ⟨_, _, ⟨_, _, ⟨_, _, ⟨_, _, ⟨_, _, ⟨_, _, ⟨_, h.description, rfl⟩, h.isRoot, rfl⟩,
      h.selector, rfl⟩, h.interfaces, rfl⟩, h.exposeRootElement, rfl⟩, h.elements, rfl⟩, h.beforeLoad,
      rfl⟩, h.methods, rfl⟩, (), h.keys⟩

theorem Document.read_eq_done {v : Json} {d : Document} : read v = .done d ↔
    ∃ fields, v = .object fields ∧ d.ReadFrom fields ∧ d.check = .ok d := by
  constructor
  · intro h
    obtain ⟨d', hread, hcheck⟩ := checked_eq_done.mp h
    obtain rfl := check_eq_ok hcheck
    obtain ⟨fields, rfl, hfields⟩ := readModel_eq_done hread
    exact ⟨fields, rfl, readFields_eq_done.mp hfields, hcheck⟩
  · rintro ⟨fields, rfl, hfields, hcheck⟩
    exact checked_eq_done.mpr ⟨d, readFields_eq_done.mpr hfields, hcheck⟩

theorem Document.read_kept {v : Json} {d : Document} (h : read v = .done d) : d.Kept := by
  obtain ⟨fields, -, hfields, -⟩ := read_eq_done.mp h
  have helements : ∀ e ∈ d.elements, e.check = .ok e :=
    Fields.optional_forall (by simp) (fun v es => readList_forall fun v e => Element.read_kept)
      hfields.elements
  have hbeforeLoad : ∀ s ∈ d.beforeLoad, s.Kept :=
    Fields.optional_forall (by simp)
      (fun v ss => readList_forall fun v s => Statement.readWithin_kept) hfields.beforeLoad
  have hmethods : ∀ m ∈ d.methods, ∀ s ∈ m.compose, s.Kept :=
    Fields.optional_forall (by simp) (fun v ms => readList_forall fun v m => Method.read_kept)
      hfields.methods
  exact ⟨helements, hbeforeLoad, hmethods⟩

/-! ## Loading -/

/-- The value that a source stands for: the decoded one, or what its text is parsed to. -/
inductive Source.Decodes : Source → Json → Prop
  | value (v : Json) : Decodes (.value v) v
  | text {chars : String} {levels : Nat} {v : Json} (hparse : Json.parse chars levels = .ok v) :
      Decodes (.text chars levels) v
  | bytes {bytes : List UInt8} {chars : String} {levels : Nat} {v : Json}
      (hdecode : decodeDocument bytes = .ok chars)
      (hparse : Json.Parser.document chars.toList levels = .ok v) : Decodes (.bytes bytes levels) v

theorem Source.Decodes.load {source : Source} {v : Json} (h : source.Decodes v) :
    Document.load source = Document.ofValue v := by
  cases h with
  | value => rfl
  | text hparse => simp only [Document.load, hparse, Document.ofParsed]
  | bytes hdecode hparse => simp only [Document.load, hdecode, hparse, Document.ofParsed]

theorem Document.ofValue_eq_ok {v : Json} {d : Document} : ofValue v = .ok d ↔ read v = .done d := by
  unfold ofValue
  cases read v <;> simp

/-- A source that is loaded stands for a value, of which the document is read. -/
theorem Document.load_eq_ok {source : Source} {d : Document} :
    load source = .ok d ↔ ∃ v, source.Decodes v ∧ read v = .done d := by
  constructor
  · intro h
    have parsed {chars : List Char} {outcome : Except ParseError Json} (h : ofParsed chars outcome = .ok d) :
        ∃ v, outcome = .ok v := by
      unfold ofParsed at h
      split at h
      · exact ⟨_, rfl⟩
      · exact absurd h (by simp)
      · exact absurd h (by simp)
    have hdecodes : ∃ v, source.Decodes v := by
      unfold load at h
      split at h
      · exact ⟨_, .value _⟩
      · obtain ⟨v, hv⟩ := parsed h
        exact ⟨v, .text hv⟩
      · split at h
        · rename_i hdecode
          obtain ⟨v, hv⟩ := parsed h
          exact ⟨v, .bytes hdecode hv⟩
        · exact absurd h (by simp)
    obtain ⟨v, hv⟩ := hdecodes
    exact ⟨v, hv, ofValue_eq_ok.mp (hv.load.symm.trans h)⟩
  · rintro ⟨v, hv, hread⟩
    rw [hv.load, ofValue_eq_ok]
    exact hread

/-- **A loaded document keeps its rules**, from whatever source it comes. -/
theorem Document.load_kept {source : Source} {d : Document} (h : load source = .ok d) : d.Kept := by
  obtain ⟨v, -, hread⟩ := load_eq_ok.mp h
  exact read_kept hread

end PageObjects
