import PageObjects.PageClass.Java
import PageObjects.PageClass.Record
import PageObjects.Proofs.Compose.Depth
import PageObjects.Proofs.Compose.Parameters

/-!
# Records of page classes

A type or a page class that is written as a value is read from that value as it is. The one exception is depth:
the reader goes into lists of lists only so many levels deep, and one level less where the type stands in a
method. No type of a page class that a document is translated to nests more than one list, so these are always
read again, and the same source is written from what is read. The page classes are the IR (specification, 2),
serialized as its models are (10).

A reader is built of the readers of its fields, and so is what is known of it: `Reading.Restores` says of a
reading that it gives one value back under a condition, and the readings of the fields are put together as the
reader puts them together.

* `Reading.Restores`: a reading that gives a value back where a condition holds, and fails where it does not.
* `ResultType.restores`: a type is read again exactly if its lists nest within the levels of the reader.
* `PageClass.IsShallow`, `PageClass.restores`: the depth of the types in a page class, and what it decides.
* **`record_restores`**: types, page classes, and what is generated for documents.
* `ResultType.nested_not_restored`: a type that is not read again.
-/

namespace PageObjects

/-! ## Readings of what was written -/

namespace Reading

/-- The reading is that of the value where the condition holds, and fails where it does not. -/
def Restores (x : Reading α) (a : α) (P : Prop) : Prop := ∀ b, x = .done b ↔ b = a ∧ P

namespace Restores

variable {α β : Type} {x : Reading α} {a : α} {P Q : Prop}

theorem done : Restores (.done a) a True := fun b => by simp [eq_comm]

theorem congr (h : x.Restores a P) (hiff : P ↔ Q) : x.Restores a Q := by
  rwa [← propext hiff]

theorem within {step : Step} (h : x.Restores a P) : (x.within step).Restores a P :=
  fun b => within_eq_done.trans (h b)

theorem map (f : α → β) (h : x.Restores a P) : (f <$> x).Restores (f a) P := by
  intro b
  rw [map_eq_done]
  constructor
  · rintro ⟨a', ha', rfl⟩
    obtain ⟨rfl, hp⟩ := (h a').mp ha'
    exact ⟨rfl, hp⟩
  · rintro ⟨rfl, hp⟩
    exact ⟨a, (h a).mpr ⟨rfl, hp⟩, rfl⟩

theorem seq {f : Reading (α → β)} {g : α → β} (hf : f.Restores g P) (h : x.Restores a Q) :
    (f <*> x).Restores (g a) (P ∧ Q) := by
  intro b
  rw [seq_eq_done]
  constructor
  · rintro ⟨g', a', hg', ha', rfl⟩
    obtain ⟨rfl, hp⟩ := (hf g').mp hg'
    obtain ⟨rfl, hq⟩ := (h a').mp ha'
    exact ⟨rfl, hp, hq⟩
  · rintro ⟨rfl, hp, hq⟩
    exact ⟨g, a, (hf g).mpr ⟨rfl, hp⟩, (h a).mpr ⟨rfl, hq⟩, rfl⟩

/-- A field that is written. -/
theorem required {fields : Fields} {key : Key} {given : String} {v : Json} {read : Reader α}
    (hfind : fields.find? key = some (given, v)) (h : (read v).Restores a P) :
    (fields.required key read).Restores a P := by
  rw [Fields.required, hfind]
  exact h.within

theorem optional {fields : Fields} {key : Key} {given : String} {v : Json} {read : Reader α} {default : α}
    (hfind : fields.find? key = some (given, v)) (h : (read v).Restores a P) :
    (fields.optional key default read).Restores a P := by
  rw [Fields.optional, hfind]
  exact h.within

/-- A list is given back if all its items are. -/
theorem items {read : Reader α} {write : α → Json} {P : α → Prop} :
    ∀ {as : List α} {index : Nat}, (∀ a ∈ as, (read (write a)).Restores a (P a)) →
      (readItemsFrom read index (as.map write)).Restores as (∀ a ∈ as, P a)
  | [], index, _ => done.congr (by simp)
  | a :: rest, index, h => by
    rw [List.forall_mem_cons] at h
    exact ((h.1.within.map List.cons).seq (items h.2)).congr List.forall_mem_cons.symm

theorem list {read : Reader α} {write : α → Json} {P : α → Prop} (as : List α)
    (h : ∀ a, (read (write a)).Restores a (P a)) :
    (readList read (.list (as.map write))).Restores as (∀ a ∈ as, P a) :=
  items fun a _ => h a

theorem option {read : Reader α} {write : α → Json} {P : α → Prop} (a? : Option α)
    (hnull : ∀ a, write a ≠ .null) (h : ∀ a, (read (write a)).Restores a (P a)) :
    (readOptional read (Json.ofOption write a?)).Restores a? (∀ a ∈ a?, P a) := by
  cases a? with
  | none => exact done.congr (by simp)
  | some a =>
    have hread : readOptional read (write a) = some <$> read (write a) := by
      cases hv : write a with
      | null => exact absurd hv (hnull a)
      | _ => rfl
    rw [Json.ofOption, hread]
    exact ((h a).map some).congr (by simp)

theorem text (chars : String) : (readText (.text chars)).Restores chars True := done

theorem boolean (b : Bool) : (readBoolean (.bool b)).Restores b True := done

theorem integer (n : Int) : (readInteger (.int n)).Restores n True := done

theorem text? (chars? : Option String) :
    (readOptional readText (.ofText? chars?)).Restores chars? True := by
  cases chars? with
  | none => exact done
  | some chars => exact ((text chars).map some)

theorem texts (names : List String) : (readList readText (.ofTexts names)).Restores names True :=
  (list names text).congr (by simp)

end Restores

end Reading

open Reading

/-! ## Types -/

namespace ResultType

/-- A type that is no list is given back by every reader of types. -/
theorem restores_single {readFields : Fields → Reading ResultType} :
    ∀ {t : ResultType}, t.isList = false → (readTagged readFields t.toJson).Restores t True
  | .void, _ => .done
  | .unset, _ => .done
  | .self name, _ => by
    have hfields : (ResultType.self <$> Fields.optional [("kind", .text "self"), ("name", .text name)]
        (.plain "name") "Object" readText).Restores (.self name) True :=
      ((Restores.text name).optional rfl).map ResultType.self
    exact @Restores.within _ _ _ _ (.key "self") hfields
  | .named t, _ => by
    have hfields : ∀ {v : Json}, (readOptional (readTuple readText) v).Restores t.interfaces True →
        (readNamed [("kind", .text "concrete"), ("name", .text t.name), ("package", .text t.package),
          ("interfaces", v), ("element_name", .ofText? t.elementName)]).Restores (.named t) True := by
      intro v hinterfaces
      exact ((((((Restores.text t.name).required rfl).map _).seq ((Restores.text t.package).optional rfl)).seq
        (hinterfaces.optional rfl)).seq ((Restores.text? t.elementName).optional rfl)).congr (by simp)
    refine @Restores.within _ _ _ _ (.key "concrete") (hfields ?_)
    cases t.interfaces with
    | none => exact .done
    | some names => exact (Restores.texts names).map some

/-- **A type is read again** exactly if its lists nest within the levels that the reader has. -/
theorem restores : ∀ {levels : Nat} {t : ResultType},
    (readWithin levels t.toJson).Restores t (t.depth ≤ levels)
  | 0, .list element all => fun t' => by
    refine iff_of_false ?_ (by simp [depth])
    exact fun h => fault_ne_done (within_eq_done.mp h)
  | levels + 1, .list element all =>
    ((((restores.required rfl).map ResultType.list).seq ((Restores.boolean all).optional rfl)).within).congr
      (by simp [depth])
  | 0, .void | 0, .named _ | 0, .self _ | 0, .unset => (restores_single rfl).congr (by simp [depth])
  | levels + 1, .void | levels + 1, .named _ | levels + 1, .self _ | levels + 1, .unset =>
    (restores_single rfl).congr (by simp [depth])

end ResultType

/-! ## Page classes -/

/-- The lists in the types of a method's parameters nest within the levels of its reader. -/
abbrev Parameter.IsShallow (p : Parameter) : Prop := p.type.depth ≤ nestingLimit - 2

theorem Parameter.restores (p : Parameter) : (read p.toJson).Restores p p.IsShallow :=
  (Restores.text p.name).required rfl
    |>.map Parameter.mk
    |>.seq (ResultType.restores.required rfl)
    |>.congr (by simp)

theorem Emitted.restores (e : Emitted) :
    (read e.toJson).Restores e (e.returnType.depth ≤ nestingLimit - 2) :=
  (Restores.integer e.index).required rfl
    |>.map Emitted.mk
    |>.seq ((Restores.text? e.variableName).optional rfl)
    |>.seq (ResultType.restores.required rfl)
    |>.seq ((Restores.texts e.codeLines).required rfl)
    |>.seq ((Restores.boolean e.isLast).optional rfl)
    |>.seq ((Restores.boolean e.isWait).optional rfl)
    |>.congr (by simp)

/-- The types in the body of a method nest lists within the levels of their reader. -/
structure Body.IsShallow (b : Body) : Prop where
  statements : ∀ e ∈ b.statements, e.returnType.depth ≤ nestingLimit - 2
  returnType : b.returnType.depth ≤ nestingLimit - 2
  parameters : ∀ p ∈ b.parameters, p.IsShallow

theorem Body.restores (b : Body) : (read b.toJson).Restores b b.IsShallow :=
  (Restores.list b.statements Emitted.restores).required rfl
    |>.map Body.mk
    |>.seq (ResultType.restores.required rfl)
    |>.seq ((Restores.list b.parameters Parameter.restores).optional rfl)
    |>.congr
      ⟨fun ⟨⟨hstatements, hreturn⟩, hparameters⟩ => ⟨hstatements, hreturn, hparameters⟩,
        fun h => ⟨⟨h.statements, h.returnType⟩, h.parameters⟩⟩

/-- The types in the head of a method nest lists within the levels of their reader. -/
structure Signature.IsShallow (s : Signature) : Prop where
  returnType : s.returnType.depth ≤ nestingLimit - 2
  parameters : ∀ p ∈ s.parameters, p.IsShallow

theorem Signature.restores (s : Signature) : (read s.toJson).Restores s s.IsShallow :=
  (Restores.text s.name).required rfl
    |>.map Signature.mk
    |>.seq (ResultType.restores.required rfl)
    |>.seq ((Restores.list s.parameters Parameter.restores).optional rfl)
    |>.congr
      ⟨fun ⟨⟨_, hreturn⟩, hparameters⟩ => ⟨hreturn, hparameters⟩,
        fun h => ⟨⟨trivial, h.returnType⟩, h.parameters⟩⟩

/-- The types in a method nest lists within the levels of their reader. -/
structure ClassMethod.IsShallow (m : ClassMethod) : Prop where
  signature : m.signature.IsShallow
  body : m.body.IsShallow

theorem ClassMethod.restores (m : ClassMethod) : (read m.toJson).Restores m m.IsShallow :=
  m.signature.restores.required rfl
    |>.map ClassMethod.mk
    |>.seq (m.body.restores.required rfl)
    |>.seq ((Restores.boolean m.isPublic).optional rfl)
    |>.seq ((Restores.text? m.description).optional rfl)
    |>.congr
      ⟨fun ⟨⟨⟨hsignature, hbody⟩, _⟩, _⟩ => ⟨hsignature, hbody⟩,
        fun h => ⟨⟨⟨h.signature, h.body⟩, trivial⟩, trivial⟩⟩

theorem Getter.restores (g : Getter) :
    (read g.toJson).Restores g (g.returnType.depth ≤ nestingLimit - 1) :=
  (Restores.text g.elementName).required rfl
    |>.map Getter.mk
    |>.seq ((Restores.text g.getterName).required rfl)
    |>.seq (ResultType.restores.required rfl)
    |>.seq ((Restores.text? g.marker).optional rfl)
    |>.seq ((Restores.texts g.interfaces).optional rfl)
    |>.seq ((Restores.boolean g.isPublic).optional rfl)
    |>.congr (by simp)

namespace PageClass

/-- The types in a page class nest lists within the levels of their readers: a getter's type is read with one
level more than those in methods. -/
structure IsShallow (c : PageClass) : Prop where
  elements : ∀ g ∈ c.elements, g.returnType.depth ≤ nestingLimit - 1
  methods : ∀ m ∈ c.allMethods, m.IsShallow

/-- **A page class is read again** exactly if the lists in its types nest within the levels of their readers. -/
theorem restores (c : PageClass) : (read c.toJson).Restores c c.IsShallow := by
  have hbeforeLoad : (readOptional ClassMethod.read (Json.ofOption ClassMethod.toJson c.beforeLoad)).Restores
      c.beforeLoad (∀ m ∈ c.beforeLoad, m.IsShallow) :=
    Restores.option c.beforeLoad (by simp [ClassMethod.toJson]) ClassMethod.restores
  have hread : (read c.toJson).Restores c _ :=
    (Restores.text c.name).required rfl
      |>.map PageClass.mk
      |>.seq ((Restores.text c.package).required rfl)
      |>.seq ((Restores.text? c.description).optional rfl)
      |>.seq ((Restores.boolean c.isRoot).optional rfl)
      |>.seq ((Restores.text? c.rootMarker).optional rfl)
      |>.seq ((Restores.texts c.rootInterfaces).optional rfl)
      |>.seq ((Restores.boolean c.exposeRootElement).optional rfl)
      |>.seq ((Restores.list c.elements Getter.restores).optional rfl)
      |>.seq ((Restores.list c.methods ClassMethod.restores).optional rfl)
      |>.seq (hbeforeLoad.optional rfl)
  refine hread.congr ⟨?_, fun h => ?_⟩
  · rintro ⟨⟨⟨-, helements⟩, hmethods⟩, hbeforeLoad⟩
    refine ⟨helements, List.forall_mem_append.mpr ⟨hmethods, ?_⟩⟩
    simpa using hbeforeLoad
  · obtain ⟨hmethods, hbeforeLoad⟩ := List.forall_mem_append.mp h.methods
    exact ⟨⟨⟨by simp, h.elements⟩, hmethods⟩, by simpa using hbeforeLoad⟩

/-! ## What is generated for documents -/

variable {source : Source} {name package : String} {pc : PageClass}

/-- A generated method has parameters of primitive types, and no other type of it is a list of lists. -/
theorem ofSource_shallow (h : ofSource source name package = .ok pc) : pc.IsShallow := by
  have within {t : ResultType} (ht : t.IsFlat) : t.depth ≤ nestingLimit - 2 := ht.depth_le (by decide)
  refine ⟨fun g hg => (getters_flat h g hg).depth_le (by decide), fun m hm => ?_⟩
  obtain ⟨frame, ss, c, hcomposes⟩ := ofSource_composes h m hm
  have hflat := hcomposes.flat
  obtain ⟨-, -, -, hcompose, ⟨methodName, description, isPublic, rfl⟩, -⟩ := hcomposes.made
  have hparameters : ∀ p ∈ c.parameters, p.IsShallow := by
    obtain ⟨-, hgathered⟩ := compose_gathered hcompose
    have hprimitive : ∀ t ∈ ResultType.primitives.map Prod.snd, t.depth ≤ nestingLimit - 2 := by decide
    exact fun p hp => hprimitive _ (hgathered.primitive p (hgathered.mem_iff.mp hp))
  have hstatements : ∀ e ∈ c.body.statements, e.returnType.depth ≤ nestingLimit - 2 := by
    intro e he
    obtain ⟨b, hb, rfl⟩ := List.mem_map.mp he
    exact within (hflat.statements b hb)
  exact ⟨⟨within hflat.returnType, hparameters⟩, ⟨hstatements, within hflat.returnType, hparameters⟩⟩

end PageClass

/-! ## Records -/

/-- **Records are read again.** A type is read from the value that it is written as, and as itself, exactly if
its lists nest within the levels of the reader; so is a page class. Whatever a document is translated to is read
again, and from what is read the same sources are written. -/
theorem record_restores :
    (∀ t t' : ResultType, ResultType.read t.toJson = .done t' ↔ t' = t ∧ t.depth ≤ nestingLimit - 1) ∧
    (∀ c c' : PageClass, PageClass.read c.toJson = .done c' ↔ c' = c ∧ c.IsShallow) ∧
    ∀ source name package pc, PageClass.ofSource source name package = .ok pc →
      PageClass.read pc.toJson = .done pc ∧
      ∀ c', PageClass.read pc.toJson = .done c' →
        Java.interfaceSource c' = Java.interfaceSource pc ∧ Java.classSource c' = Java.classSource pc ∧
          Java.sources? c' = Java.sources? pc := by
  refine ⟨fun t => ResultType.restores, fun c => c.restores, fun source name package pc h => ⟨?_, ?_⟩⟩
  · exact (pc.restores pc).mpr ⟨rfl, PageClass.ofSource_shallow h⟩
  · intro c' hread
    obtain ⟨rfl, -⟩ := (pc.restores c').mp hread
    exact ⟨rfl, rfl, rfl⟩

theorem menusSource_restores : ∃ pc, PageClass.ofSource (PageClass.menusSource false) "Page" "" = .ok pc ∧
    PageClass.read pc.toJson = .done pc ∧ ∀ c', PageClass.read pc.toJson = .done c' →
      Java.interfaceSource c' = Java.interfaceSource pc ∧ Java.classSource c' = Java.classSource pc ∧
        Java.sources? c' = Java.sources? pc := by
  have hok : (PageClass.ofSource (PageClass.menusSource false) "Page" "").toOption.any
      (fun _ => true) = true := by decide
  obtain ⟨pc, hpc, -⟩ := exists_eq_ok hok
  exact ⟨pc, hpc, record_restores.2.2 _ _ _ pc hpc⟩

namespace ResultType

/-- Lists of nothing, one in another. -/
def nested : Nat → ResultType
  | 0 => .void
  | n + 1 => .list (nested n) false

theorem depth_nested : ∀ {n : Nat}, (nested n).depth = n
  | 0 => rfl
  | n + 1 => congrArg (· + 1) (depth_nested (n := n))

/-- **A type of too many lists is not read again**, not as itself and not as another one. -/
theorem nested_not_restored : (nested 255).depth = 255 ∧ ∀ t, read (nested 255).toJson ≠ .done t := by
  refine ⟨depth_nested, ?_⟩
  intro t hread
  obtain ⟨-, hdepth⟩ := (restores t).mp hread
  rw [depth_nested] at hdepth
  exact absurd hdepth (by decide)

end ResultType

end PageObjects
