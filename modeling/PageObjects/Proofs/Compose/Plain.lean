import PageObjects.Proofs.Compose.Statement
import PageObjects.Proofs.Page

/-!
# Lines that are told from those that return

A line that returns is told from the others of a statement by its first word (Compose Method Builder,
specification 4.2). A line that binds a value begins with the name of the value's type, so the one type
that would be mistaken is a type named `return`, or one with a name of several words of which that is the
first. The names of types are capitalized, so no type that a keyword stands for is such a one, nor is the
type of an element or of an action.

* `ResultType.Plain`: the types that are told from a line that returns.
* `isReturn_bind`: a declaration begins like a line that returns exactly when its type is not plain.
* `Page.resolve_plain`, `PageElement.returnType_plain`: types by keyword and of elements are plain.
* `Frame.Evaluates.type_plain`: so is the type of an expression, unless it is the one that is asked for.
-/

namespace PageObjects

variable {frame : Frame} {site : Site} {s : Statement} {lookups : Lookups}

/-! ## The first word of a line -/

theorem isReturn_give {v : String} : isReturn ("return " ++ v) = true := by
  simp [isReturn]

theorem isReturn_of_head? {line : String} (h : line.toList.head? ≠ some 'r') :
    isReturn line = false := by
  rw [isReturn, Bool.eq_false_iff]
  intro hreturn
  obtain ⟨tail, htail⟩ := List.isPrefixOf_iff_prefix.mp hreturn
  exact h (by rw [← htail]; rfl)

/-- The first word of a line decides whether it begins like one that returns. -/
theorem isReturn_append {word rest : String} :
    isReturn (word ++ " " ++ rest) = isReturn (word ++ " ") := by
  rw [Bool.eq_iff_iff]
  simp only [isReturn, List.isPrefixOf_iff_prefix, String.toList_append]
  refine ⟨fun hline => ?_, fun hword => hword.trans (List.prefix_append _ _)⟩
  rcases List.prefix_or_prefix_of_prefix hline (List.prefix_append _ _) with hword | hshort
  · exact hword
  · -- the blank of the word is the one behind `return`
    have hstart : "return".toList <+: word.toList ++ ' ' :: rest.toList :=
      List.IsPrefix.trans (by decide : "return".toList <+: "return ".toList) (by simpa using hline)
    have hlength := (Text.prefix_of_notMem hstart (by decide)).length_le
    exact hshort.eq_of_length_le (by simpa using hlength) ▸ List.prefix_rfl

/-! ## Plain types -/

/-- A declaration of the type does not begin like a line that returns. A list does not, whatever its
elements are, and the other types are never declared. -/
def ResultType.Plain : ResultType → Prop
  | .named t => isReturn (t.name ++ " ") = false
  | _ => True

instance : DecidablePred ResultType.Plain
  | .named t => inferInstanceAs (Decidable (isReturn (t.name ++ " ") = false))
  | .void | .list _ _ | .self _ | .unset => inferInstanceAs (Decidable True)

theorem NamedType.Capitalized.plain {t : NamedType} (h : t.Capitalized) :
    (ResultType.named t).Plain := by
  refine isReturn_of_head? ?_
  rw [String.toList_append, List.head?_append]
  cases hname : t.name.toList.head? with
  | none => simp
  | some c => simpa [NamedType.Capitalized, hname] using h

/-- **A declaration** begins like a line that returns exactly when its type is not plain. -/
theorem isReturn_bind {t : ResultType} (hvalue : t.holdsValue = true) (rest : String) :
    isReturn (t.simpleName ++ " " ++ rest) = false ↔ t.Plain := by
  rw [isReturn_append]
  cases t with
  | named type => exact Iff.rfl
  | list element returnAll =>
    refine iff_of_true (isReturn_of_head? ?_) trivial
    simp [ResultType.simpleName]
  | _ => exact absurd hvalue (by simp [ResultType.holdsValue])

namespace ResultType

theorem string_plain : string.Plain := by decide

theorem boolean_plain : boolean.Plain := by decide

theorem number_plain : number.Plain := by decide

theorem primitives_plain : ∀ entry ∈ primitives, entry.2.Plain := by decide

theorem ofKeyword_plain {own t : ResultType} {keyword : String} (hown : own.Plain)
    (h : ofKeyword own keyword = .ok t) : t.Plain := by
  unfold ofKeyword at h
  split at h
  · obtain rfl := Except.ok.inj h
    trivial
  · split at h
    · obtain rfl := Except.ok.inj h
      exact hown
    · split at h
      · rename_i primitive hprimitive
        obtain rfl := Except.ok.inj h
        exact primitives_plain (keyword, primitive) (mem_of_lookup hprimitive)
      · split at h
        · obtain ⟨named, hnamed, rfl⟩ := map_eq_ok.mp h
          exact (ofReference_capitalized hnamed).plain
        · exact absurd h (by simp)

end ResultType

theorem Page.resolve_plain {p : Page} {keyword? : Option String} {all : Bool} {t : ResultType}
    (h : p.resolve keyword? all = .ok t) : t.Plain := by
  unfold Page.resolve ResultType.resolve at h
  obtain ⟨resolved, hresolved, h⟩ := bind_eq_ok.mp h
  have hplain : resolved.Plain := by
    cases keyword? with
    | none =>
      obtain rfl := Except.ok.inj hresolved
      trivial
    | some keyword => exact @ResultType.ofKeyword_plain p.ownType _ _ trivial hresolved
  split at h
  · obtain rfl := Except.ok.inj h
    trivial
  · exact absurd h (by simp)
  · obtain rfl := Except.ok.inj h
    exact hplain

/-- The type of an element's getter is one of values. -/
theorem PageElement.returnType_holdsValue {element : PageElement} :
    element.returnType.holdsValue = true := by
  unfold PageElement.returnType
  split <;> rfl

theorem PageElement.returnType_plain {element : PageElement} : element.returnType.Plain := by
  unfold PageElement.returnType
  split
  · trivial
  · exact element.capitalized.plain

/-! ## Types of expressions -/

theorem Action.plain_of_mem {t : ResultType} (h : t ∈ Action.returnTypes) : t.Plain := by
  simp only [Action.returnTypes, List.mem_cons, List.not_mem_nil, or_false] at h
  rcases h with rfl | rfl | rfl | rfl
  · trivial
  · exact ResultType.string_plain
  · exact ResultType.boolean_plain
  · exact ResultType.number_plain

/-- One invocation is of a plain type, or of the type that is asked for. -/
theorem Frame.invocationType_plain {name : String} {required t : ResultType}
    {action : Option Action} (hreturns : ∀ a, action = some a → a.returns ∈ Action.returnTypes)
    (h : frame.invocationType site name required action = .ok t) : t.Plain ∨ t = required := by
  unfold Frame.invocationType at h
  split at h
  · obtain rfl := Except.ok.inj h
    split
    · exact Or.inl trivial
    · exact Or.inr rfl
  · rename_i a
    split at h
    · exact absurd h Frame.fail_ne_ok
    · obtain rfl := Except.ok.inj h
      exact Or.inl (Action.plain_of_mem (hreturns a rfl))

/-- What is called on every value of a list is of a plain type, and what is called once of the type of its
invocation. -/
theorem spreadOf_plain {r : Receiver} {t : ResultType} :
    (spreadOf site r t).2.Plain ∨ (spreadOf site r t).2 = t := by
  unfold spreadOf
  split
  · refine Or.inl ?_
    split
    · trivial
    · split_ifs <;> trivial
    · trivial
  · exact Or.inr rfl

/-- An expression is of a plain type, or of the type that is asked for. -/
theorem Frame.Evaluates.type_plain {r : Receiver} {required resolved : ResultType} {value : Simple}
    {parameters : List Parameter}
    (h : frame.Evaluates site s r required value resolved parameters) :
    resolved.Plain ∨ resolved = required := by
  cases h with
  | getter haction helement hfits => exact Or.inl PageElement.returnType_plain
  | @call name action operands parameters invocation haction hof hoperands hcheck hinvocation hfits =>
    rcases spreadOf_plain with hspread | hsingle
    · exact Or.inl hspread
    · rw [hsingle]
      refine Frame.invocationType_plain ?_ hinvocation
      rintro a rfl
      exact Frame.actionOf_returns hof

/-! ## Lines before a value -/

/-- The lines that look an element up do not begin like one that returns. -/
theorem Frame.Addresses.returns_lines {r : Receiver} {lines : List (Line Simple)} {after : Lookups}
    (h : frame.Addresses site lookups s r lines after) :
    ∀ line ∈ lines, line.returns Simple.text = false := by
  cases h with
  | chain hchain hchains => simp
  | element hchain hfinds =>
    cases hfinds with
    | page hname => simp
    | document hname => simp
    | known hname helement hbound => simp
    | fresh hname helement hfree =>
      intro line hline
      obtain rfl := List.mem_singleton.mp hline
      rw [Line.returns, Line.text, String.append_assoc, String.append_assoc]
      exact (isReturn_bind PageElement.returnType_holdsValue _).mpr PageElement.returnType_plain

end PageObjects
