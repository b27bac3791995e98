import PageObjects.Proofs.Document.WellFormed
import PageObjects.Proofs.Text.Name

/-!
# Where the review finds something

The review walks a document and writes down a path for each finding. Here the places come first: each has
a path, which leads to the node that stands there, and the words of the path tell it from all other places.

* `Location`, `Location.path`, `Document.part?`: the places of a document, and what stands there.
* **`Document.at?_path`**: the path leads to the node, in the document as a value.
* **`Location.place_injective`**: different places have different paths in words.
* `Statement.placed`: a statement and those in its predicate, in the order of the review.
* **`Statement.mem_placed`**, **`Statement.nodup_placed`**: each stands there once, with the way that leads to it.
-/

namespace PageObjects

/-- The way to a statement in a predicate: its index, and again for each level. -/
abbrev Descent := List Nat

/-- The steps down to a statement in a predicate. -/
def Descent.path (descent : Descent) : List Step :=
  descent.flatMap fun index => [.key "predicate", .index index]

/-- A place in a document. -/
inductive Location where
  | rootType
  | rootSelector
  | element (index : Nat)
  | elementType (index : Nat)
  | elementSelector (index : Nat)
  | method (index : Nat)
  | composed (owner index : Nat) (descent : Descent)
  | beforeLoad (index : Nat) (descent : Descent)
  deriving DecidableEq, Repr

/-- The path to a place. -/
def Location.path : Location → List Step
  | .rootType => [.key "type"]
  | .rootSelector => [.key "selector"]
  | .element index => [.key "elements", .index index]
  | .elementType index => [.key "elements", .index index, .key "type"]
  | .elementSelector index => [.key "elements", .index index, .key "selector"]
  | .method index => [.key "methods", .index index]
  | .composed owner index descent =>
    [.key "methods", .index owner, .key "compose", .index index] ++ descent.path
  | .beforeLoad index descent => [.key "beforeLoad", .index index] ++ descent.path

/-- The place lies in what runs before loading. -/
def Location.IsEarly : Location → Prop
  | .beforeLoad _ _ => True
  | _ => False

/-! ## Paths -/

namespace Descent

@[simp] theorem path_nil : Descent.path [] = [] := rfl

@[simp] theorem path_cons {index : Nat} {rest : Descent} :
    Descent.path (index :: rest) = .key "predicate" :: .index index :: Descent.path rest := rfl

theorem path_append {front back : Descent} :
    Descent.path (front ++ back) = front.path ++ back.path := List.flatMap_append

theorem path_injective : ∀ {descent descent' : Descent}, descent.path = descent'.path → descent = descent'
  | [], [], _ => rfl
  | [], _ :: _, h => absurd h (by simp)
  | _ :: _, [], h => absurd h (by simp)
  | index :: rest, index' :: rest', h => by
    simp only [path_cons, List.cons.injEq, Step.index.injEq, true_and] at h
    rw [h.1, path_injective h.2]

theorem path_inj {descent descent' : Descent} : descent.path = descent'.path ↔ descent = descent' :=
  ⟨path_injective, congrArg path⟩

end Descent

/-! ## Paths in words -/

namespace Step

/-- The character that opens a step that has steps before it. -/
def opening : Step → Char
  | .key _ => '.'
  | .index _ => '['

/-- What follows the character that opens a step. -/
def body : Step → List Char
  | .key name => name.toList
  | .index position => (toString position).toList ++ [']']

/-- The character opens a step. -/
def opens (c : Char) : Bool := c == '.' || c == '['

/-- In the place of the step no other can be read: what follows its opening opens no step. -/
def IsPlain (step : Step) : Prop := ∀ c ∈ step.body, opens c = false

theorem isPlain_index {position : Nat} : (index position).IsPlain := by
  intro c hc
  rcases List.mem_append.mp hc with hdigit | hclose
  · have hdigit := Text.isDigit_of_mem_index hdigit
    rw [← Bool.not_eq_true, opens, Bool.or_eq_true, beq_iff_eq, beq_iff_eq]
    rintro (rfl | rfl) <;> exact absurd hdigit (by decide)
  · rw [List.mem_singleton.mp hclose]
    rfl

theorem opens_opening {step : Step} : opens step.opening = true := by
  cases step <;> rfl

theorem toList_text {step : Step} : (step.text false).toList = step.opening :: step.body := by
  cases step with
  | key name =>
    rw [text, if_neg Bool.false_ne_true, String.toList_append]
    rfl
  | index position =>
    rw [text, String.toList_append, String.toList_append]
    rfl

theorem eq_of_body {step step' : Step} (hopening : step.opening = step'.opening)
    (hbody : step.body = step'.body) : step = step' := by
  cases step with
  | key name =>
    cases step' with
    | key name' => rw [String.toList_inj.mp hbody]
    | index position' => exact absurd hopening (by simp [opening])
  | index position =>
    cases step' with
    | key name' => exact absurd hopening (by simp [opening])
    | index position' =>
      have hdigits := List.append_cancel_right hbody
      simp only [Nat.toString_eq_repr, Nat.toList_repr] at hdigits
      rw [← Nat.ofDigitChars_ten_toDigits (n := position), hdigits, Nat.ofDigitChars_ten_toDigits]

end Step

/-- The characters of steps that have steps before them. -/
def stepChars (steps : List Step) : List Char := steps.flatMap fun step => step.opening :: step.body

/-- Where no step is left, or the next one opens, the one before it ends. -/
theorem takeWhile_body {step : Step} (hplain : step.IsPlain) {rest : List Step} :
    (step.body ++ stepChars rest).takeWhile (fun c => !Step.opens c) = step.body := by
  rw [List.takeWhile_append_of_pos (fun c hc => by rw [hplain c hc]; rfl)]
  cases rest with
  | nil => exact List.append_nil _
  | cons next rest =>
    have hnext : (stepChars (next :: rest)).takeWhile (fun c => !Step.opens c) = [] := by
      rw [stepChars, List.flatMap_cons, List.cons_append, List.takeWhile_cons, Step.opens_opening]
      rfl
    rw [hnext, List.append_nil]

theorem stepChars_injective : ∀ {steps steps' : List Step}, (∀ step ∈ steps, step.IsPlain) →
    (∀ step ∈ steps', step.IsPlain) → stepChars steps = stepChars steps' → steps = steps'
  | [], [], _, _, _ => rfl
  | [], _ :: _, _, _, h => absurd h (by simp [stepChars])
  | _ :: _, [], _, _, h => absurd h (by simp [stepChars])
  | step :: rest, step' :: rest', hplain, hplain', h => by
    rw [List.forall_mem_cons] at hplain hplain'
    obtain ⟨hopening, htail⟩ := List.cons.inj h
    have hbody : step.body = step'.body := by
      rw [← takeWhile_body hplain.1, ← takeWhile_body hplain'.1]
      exact congrArg _ htail
    rw [Step.eq_of_body hopening hbody]
    rw [hbody] at htail
    rw [stepChars_injective hplain.2 hplain'.2 (List.append_cancel_left htail)]

/-- A path that starts with a key is, but for the point in front of the key, the text of its steps. -/
theorem toList_pathText {name : String} {rest : List Step} :
    '.' :: (pathText (.key name :: rest)).toList = stepChars (.key name :: rest) := by
  have hrest : (String.join (rest.map (Step.text false))).toList = stepChars rest := by
    rw [String.toList_join, List.flatMap_map]
    exact congrArg (fun chars => rest.flatMap chars) (funext fun step => Step.toList_text)
  rw [pathText, String.toList_append, hrest]
  rfl

namespace Location

/-- The keys of paths. -/
def keys : List String :=
  ["type", "selector", "elements", "methods", "compose", "beforeLoad", "predicate"]

theorem mem_keys_of_mem_path {l : Location} {name : String} (h : Step.key name ∈ l.path) :
    name ∈ keys := by
  cases l <;> simp only [path, Descent.path, keys, List.mem_append, List.mem_flatMap, List.mem_cons,
    Step.key.injEq, reduceCtorEq, List.not_mem_nil] at h ⊢ <;> grind

theorem isPlain_of_mem_path {l : Location} : ∀ step ∈ l.path, step.IsPlain := by
  have hkeys : ∀ name ∈ keys, ∀ c ∈ name.toList, Step.opens c = false := by simp [keys, Step.opens]
  intro step hstep
  cases step with
  | key name => exact hkeys name (mem_keys_of_mem_path hstep)
  | index position => exact Step.isPlain_index

theorem path_injective {l l' : Location} (h : l.path = l'.path) : l = l' := by
  cases l <;> cases l' <;> simp_all [path, Descent.path_inj]

theorem exists_path_eq_cons {l : Location} : ∃ name rest, l.path = .key name :: rest := by
  cases l <;> exact ⟨_, _, rfl⟩

/-- The path in words. -/
def place (l : Location) : String := pathText l.path

/-- **The path in words tells a place from all others.** -/
theorem place_injective {l l' : Location} (h : l.place = l'.place) : l = l' := by
  obtain ⟨name, rest, hpath⟩ := l.exists_path_eq_cons
  obtain ⟨name', rest', hpath'⟩ := l'.exists_path_eq_cons
  refine path_injective (stepChars_injective isPlain_of_mem_path isPlain_of_mem_path ?_)
  rw [place, place, hpath, hpath'] at h
  rw [hpath, hpath', ← toList_pathText, ← toList_pathText, h]

end Location

/-! ## What stands at a place -/

/-- The statement that a descent leads to. -/
def Statement.at? : Descent → Statement → Option Statement
  | [], s => some s
  | index :: rest, s => s.inner[index]?.bind (at? rest)

/-- What the review sees at a place: a type, of the root or of an element by its name, or a node. -/
inductive Part where
  | type (kind : ElementKind) (owner : String)
  | selector (s : Selector)
  | element (e : Element)
  | method (m : Method)
  | statement (s : Statement)

/-- The part as a value. -/
def Part.toJson (spelling : Spelling) : Part → Json
  | .type kind _ => kind.toJson
  | .selector s => s.toJson spelling
  | .element e => e.toJson spelling
  | .method m => m.toJson spelling
  | .statement s => s.toJson spelling

/-- What stands at a place of the document. -/
def Document.part? (d : Document) : Location → Option Part
  | .rootType => some (.type (.basic d.interfaces) "root")
  | .rootSelector => d.selector.map .selector
  | .element index => d.elements[index]?.map .element
  | .elementType index => d.elements[index]?.map fun e => .type e.kind e.name
  | .elementSelector index => d.elements[index]?.map fun e => .selector e.selector
  | .method index => d.methods[index]?.map .method
  | .composed owner index descent =>
    ((d.methods[owner]?.bind (·.compose[index]?)).bind (Statement.at? descent)).map .statement
  | .beforeLoad index descent => (d.beforeLoad[index]?.bind (Statement.at? descent)).map .statement

/-- The value that a path leads to. -/
def Json.at? : List Step → Json → Option Json
  | [], v => some v
  | .key name :: rest, .object fields => (Fields.get? fields name).bind (at? rest)
  | .index position :: rest, .list items => items[position]?.bind (at? rest)
  | _, _ => none

theorem Json.at?_key {name : String} {rest : List Step} {fields : Fields} {v : Json}
    (h : fields.get? name = some v) : (Json.object fields).at? (.key name :: rest) = v.at? rest := by
  rw [at?, h, Option.bind_some]

theorem Json.at?_index {α : Type} {toJson : α → Json} {items : List α} {position : Nat} {rest : List Step}
    {a : α} (h : items[position]? = some a) :
    (Json.list (items.map toJson)).at? (.index position :: rest) = (toJson a).at? rest := by
  rw [at?, List.getElem?_map, h, Option.map_some, Option.bind_some]

namespace Statement

variable {spelling : Spelling}

theorem toJsons_eq_map {ss : List Statement} : toJsons spelling ss = ss.map (toJson spelling) := by
  induction ss with
  | nil => rfl
  | cons s rest ih => rw [toJsons, ih, List.map_cons]

theorem toJson_inner {s : Statement} (h : s.inner ≠ []) : ∃ fields, s.toJson spelling = .object fields ∧
    Fields.get? fields "predicate" = some (.list (s.inner.map (toJson spelling))) := by
  obtain ⟨element, action, args, returnType, returnAll, chain, matcher, _ | ss⟩ := s
  · exact absurd rfl h
  · rw [toJson.eq_def]
    refine ⟨_, rfl, ?_⟩
    simp only [toJsons_eq_map, inner, Option.getD_some]
    cases spelling <;> rfl

theorem at?_toJson : ∀ {descent : Descent} {s s' : Statement}, s.at? descent = some s' →
    (s.toJson spelling).at? descent.path = some (s'.toJson spelling)
  | [], s, s', h => by
    obtain rfl := Option.some.inj h
    rfl
  | index :: rest, s, s', h => by
    obtain ⟨inner, hinner, hrest⟩ := Option.bind_eq_some_iff.mp h
    obtain ⟨fields, hfields, hget⟩ := toJson_inner (List.ne_nil_of_mem (List.mem_of_getElem? hinner))
    rw [hfields, Descent.path_cons, Json.at?_key hget, Json.at?_index hinner]
    exact at?_toJson hrest

end Statement

/-- **A path leads to the node** that stands at the place, in the document as a value. -/
theorem Document.at?_path {d : Document} {l : Location} {part : Part} (h : d.part? l = some part) :
    (d.toJson .camel).at? l.path = some (part.toJson .camel) := by
  obtain ⟨fields, hfields, htype, hselector, helements, hmethods, hbeforeLoad⟩ : ∃ fields : Fields,
      d.toJson .camel = .object fields ∧ fields.get? "type" = some (.ofTexts d.interfaces) ∧
      fields.get? "selector" = some ((d.selector.map (Selector.toJson .camel)).getD .null) ∧
      fields.get? "elements" = some (.list (d.elements.map (Element.toJson .camel))) ∧
      fields.get? "methods" = some (.list (d.methods.map (Method.toJson .camel))) ∧
      fields.get? "beforeLoad" = some (.list (d.beforeLoad.map (Statement.toJson .camel))) :=
    ⟨_, rfl, rfl, by cases d.selector <;> rfl, rfl, rfl, rfl⟩
  rw [hfields]
  cases l with
  | rootType =>
    obtain rfl := Option.some.inj h
    exact Json.at?_key htype
  | rootSelector =>
    obtain ⟨s, hs, rfl⟩ := Option.map_eq_some_iff.mp h
    rw [hs] at hselector
    exact Json.at?_key hselector
  | element index =>
    obtain ⟨e, he, rfl⟩ := Option.map_eq_some_iff.mp h
    exact (Json.at?_key helements).trans (Json.at?_index he)
  | elementType index =>
    obtain ⟨e, he, rfl⟩ := Option.map_eq_some_iff.mp h
    exact (Json.at?_key helements).trans (Json.at?_index he)
  | elementSelector index =>
    obtain ⟨e, he, rfl⟩ := Option.map_eq_some_iff.mp h
    exact (Json.at?_key helements).trans (Json.at?_index he)
  | method index =>
    obtain ⟨m, hm, rfl⟩ := Option.map_eq_some_iff.mp h
    exact (Json.at?_key hmethods).trans (Json.at?_index hm)
  | composed owner index descent =>
    obtain ⟨s, hs, rfl⟩ := Option.map_eq_some_iff.mp h
    obtain ⟨top, htop, hat⟩ := Option.bind_eq_some_iff.mp hs
    obtain ⟨m, hm, hcompose⟩ := Option.bind_eq_some_iff.mp htop
    have hget : ∃ fields : Fields, m.toJson .camel = .object fields ∧
        fields.get? "compose" = some (.list (m.compose.map (Statement.toJson .camel))) := ⟨_, rfl, rfl⟩
    obtain ⟨own, hown, hget⟩ := hget
    rw [Location.path, List.cons_append, List.cons_append, List.cons_append, List.cons_append, List.nil_append,
      Json.at?_key hmethods, Json.at?_index hm, hown, Json.at?_key hget, Json.at?_index hcompose]
    exact Statement.at?_toJson hat
  | beforeLoad index descent =>
    obtain ⟨s, hs, rfl⟩ := Option.map_eq_some_iff.mp h
    obtain ⟨top, htop, hat⟩ := Option.bind_eq_some_iff.mp hs
    rw [Location.path, List.cons_append, List.cons_append, List.nil_append, Json.at?_key hbeforeLoad,
      Json.at?_index htop]
    exact Statement.at?_toJson hat

/-! ## A statement and those in its predicate -/

namespace Statement

mutual

/-- A statement and those in its predicate, at any depth, with the descent to each. -/
def placed (descent : Descent) : Statement → List (Descent × Statement)
  | ⟨element, action, args, returnType, returnAll, chain, matcher, predicate⟩ =>
    (descent, ⟨element, action, args, returnType, returnAll, chain, matcher, predicate⟩) ::
      match predicate with
      | none => []
      | some inner => placedFrom descent 0 inner

/-- The statements of a predicate from an index on, with those in their predicates. -/
def placedFrom (descent : Descent) : Nat → List Statement → List (Descent × Statement)
  | _, [] => []
  | index, s :: rest => placed (descent ++ [index]) s ++ placedFrom descent (index + 1) rest

end

theorem placed_eq {descent : Descent} {s : Statement} :
    s.placed descent = (descent, s) :: placedFrom descent 0 s.inner := by
  obtain ⟨element, action, args, returnType, returnAll, chain, matcher, _ | inner⟩ := s
  · rw [placed, Statement.inner, Option.getD_none, placedFrom]
  · rw [placed, Statement.inner, Option.getD_some]

theorem mem_placedFrom {descent : Descent} {entry : Descent × Statement} : ∀ {index : Nat}
    {ss : List Statement}, entry ∈ placedFrom descent index ss ↔
      ∃ (k : Nat) (s : Statement), ss[k]? = some s ∧ entry ∈ s.placed (descent ++ [index + k])
  | index, [] => by simp [placedFrom]
  | index, first :: rest => by
    rw [placedFrom, List.mem_append, mem_placedFrom]
    constructor
    · rintro (hfirst | ⟨k, s, hs, hentry⟩)
      · exact ⟨0, first, rfl, hfirst⟩
      · exact ⟨k + 1, s, hs, by rwa [Nat.add_right_comm, Nat.add_assoc] at hentry⟩
    · rintro ⟨_ | k, s, hs, hentry⟩
      · obtain rfl := Option.some.inj hs
        exact Or.inl hentry
      · exact Or.inr ⟨k, s, hs, by rwa [Nat.add_right_comm, Nat.add_assoc]⟩

/-- **A statement and those in its predicate** are what descents lead to. -/
theorem mem_placed (s : Statement) : ∀ {descent : Descent} {entry : Descent × Statement},
    entry ∈ s.placed descent ↔ ∃ way, entry.1 = descent ++ way ∧ s.at? way = some entry.2 := by
  refine inner_induction (P := fun s => ∀ {descent : Descent} {entry : Descent × Statement},
    entry ∈ s.placed descent ↔ ∃ way, entry.1 = descent ++ way ∧ s.at? way = some entry.2) ?_ s
  intro s ih descent entry
  rw [placed_eq, List.mem_cons, mem_placedFrom]
  constructor
  · rintro (rfl | ⟨k, s', hs', hentry⟩)
    · exact ⟨[], (List.append_nil _).symm, rfl⟩
    · obtain ⟨way, hway, hat⟩ := (ih s' (List.mem_of_getElem? hs')).mp hentry
      refine ⟨k :: way, by rw [hway, Nat.zero_add, List.append_assoc]; rfl, ?_⟩
      rw [at?, hs', Option.bind_some, hat]
  · rintro ⟨_ | ⟨k, way⟩, hway, hat⟩
    · rw [List.append_nil] at hway
      exact Or.inl (Prod.ext hway (Option.some.inj hat).symm)
    · obtain ⟨s', hs', hrest⟩ := Option.bind_eq_some_iff.mp hat
      refine Or.inr ⟨k, s', hs', (ih s' (List.mem_of_getElem? hs')).mpr ⟨way, ?_, hrest⟩⟩
      rw [hway, Nat.zero_add, List.append_assoc]
      rfl

/-- **No two of them stand at one place.** -/
theorem nodup_placed (s : Statement) : ∀ {descent : Descent}, ((s.placed descent).map Prod.fst).Nodup := by
  refine inner_induction (P := fun s => ∀ {descent : Descent},
    ((s.placed descent).map Prod.fst).Nodup) ?_ s
  intro s ih descent
  -- the first step of the descent tells the statements of a predicate apart
  have hfirst : ∀ {index : Nat} {ss : List Statement}, ∀ way ∈ (placedFrom descent index ss).map Prod.fst,
      ∃ k rest, way = descent ++ (index + k) :: rest := by
    intro index ss way hway
    obtain ⟨entry, hentry, rfl⟩ := List.mem_map.mp hway
    obtain ⟨k, s', -, hplaced⟩ := mem_placedFrom.mp hentry
    obtain ⟨rest, hrest, -⟩ := (mem_placed s').mp hplaced
    exact ⟨k, rest, by rw [hrest, List.append_assoc]; rfl⟩
  have hfrom : ∀ {ss : List Statement} {index : Nat}, (∀ s' ∈ ss, s' ∈ s.inner) →
      ((placedFrom descent index ss).map Prod.fst).Nodup := by
    intro ss
    induction ss with
    | nil => intro index _; exact List.nodup_nil
    | cons first rest ihRest =>
      intro index hmem
      rw [List.forall_mem_cons] at hmem
      rw [placedFrom, List.map_append, List.nodup_append]
      refine ⟨ih first hmem.1, ihRest hmem.2, ?_⟩
      rintro way hway _ hlater rfl
      obtain ⟨entry, hentry, rfl⟩ := List.mem_map.mp hway
      obtain ⟨own, hown, -⟩ := (mem_placed first).mp hentry
      obtain ⟨k, way, hway⟩ := hfirst _ hlater
      rw [hown, List.append_assoc] at hway
      have hindex := (List.cons.inj (List.append_cancel_left hway)).1
      omega
  rw [placed_eq, List.map_cons, List.nodup_cons]
  refine ⟨?_, hfrom fun _ => id⟩
  intro hself
  obtain ⟨k, rest, hdescent⟩ := hfirst _ hself
  exact absurd (congrArg List.length hdescent) (by simp)

end Statement

end PageObjects
