import PageObjects.PageClass.OfDocument
import PageObjects.Proofs.Except
import PageObjects.Proofs.Java.Members
import PageObjects.Proofs.Text.Lines

/-!
# Descriptions and comments

The description of a page object or of a public method stands in the interface as a comment in front of what it
describes, each of its lines on a line of its own. The text is taken as it stands, so the comment ends where the
text says that it does. Comments are written by the Writer (specification, 2).

* `Java.behindComment?`: what is left behind a comment, read as Java reads it: to the first end.
* `Java.Describes`: the descriptions that the interface shows.
* `Java.Commented`: a text that stands as a comment; when the whole of it is one comment.
* **`Java.description_commented`**: the descriptions that are shown stand as comments, and nothing else does.
* `Java.closing_escapes`: a description that is not kept inside.
-/

namespace PageObjects

namespace Java

/-! ## Ended lines -/

theorem ofLines_append {front back : List String} (hfront : front ≠ []) (hback : back ≠ []) :
    ofLines (front ++ back) = ofLines front ++ ofLines back := by
  rw [ofLines, ofLines, ofLines, String.intercalate_append_of_ne_nil hfront hback]
  simp only [String.append_assoc]

theorem toList_ofLines : ∀ {lines : List String}, lines ≠ [] →
    (ofLines lines).toList = lines.flatMap fun line => line.toList ++ ['\n']
  | [], h => absurd rfl h
  | [line], _ => by rw [ofLines, String.intercalate_singleton, String.toList_append]; simp
  | line :: next :: lines, _ => by
    rw [← List.singleton_append, ofLines_append (by simp) (by simp), String.toList_append,
      toList_ofLines (List.cons_ne_nil next lines), ofLines, String.intercalate_singleton, String.toList_append]
    simp

/-- Lines that hold no break are the lines of their text. -/
theorem lines_ofLines {lines : List String} (hne : lines ≠ [])
    (h : ∀ line ∈ lines, ∀ c ∈ line.toList, Text.isLineBreak c = false) : Text.lines (ofLines lines) = lines := by
  rw [Text.lines, toList_ofLines hne]
  clear hne
  induction lines with
  | nil => rfl
  | cons line lines ih =>
    rw [List.forall_mem_cons] at h
    rw [List.flatMap_cons, List.append_assoc, List.singleton_append, Text.linesFrom_feed h.1, List.map_cons,
      ih h.2, List.reverse_nil, List.nil_append, String.ofList_toList]

/-! ## Reading comments -/

/-- The end of a comment. -/
def commentEnd : List Char := ['*', '/']

/-- What is left behind the first end of a comment. -/
def behindEnd? : List Char → Option (List Char)
  | [] => none
  | c :: cs => if commentEnd.isPrefixOf (c :: cs) then some (cs.drop 1) else behindEnd? cs

/-- What is left behind a comment, which may be indented. -/
def behindComment? (cs : List Char) : Option (List Char) :=
  ((cs.dropWhile (· == ' ')).dropPrefix? ['/', '*']).bind behindEnd?

/-- No comment ends on a line that does not hold its end. -/
theorem behindEnd?_line {line : List Char} (h : ¬ commentEnd <:+: line) (rest : List Char) :
    behindEnd? (line ++ '\n' :: rest) = behindEnd? rest := by
  induction line with
  | nil => rfl
  | cons c line ih =>
    rw [List.infix_cons_iff, not_or] at h
    have hnot : ¬ commentEnd <+: c :: (line ++ '\n' :: rest) := by
      intro hstart
      obtain ⟨rfl, hnext⟩ := List.cons_prefix_cons.mp hstart
      cases line with
      | nil => exact absurd (List.cons_prefix_cons.mp hnext).1 (by decide)
      | cons d line =>
        obtain ⟨rfl, -⟩ := List.cons_prefix_cons.mp hnext
        exact h.1 (List.prefix_append commentEnd line)
    rw [List.cons_append, behindEnd?, if_neg (by rwa [List.isPrefixOf_iff_prefix]), ih h.2]

theorem behindEnd?_lines {lines : List String} (h : ∀ line ∈ lines, ¬ commentEnd <:+: line.toList)
    (rest : List Char) :
    behindEnd? ((lines.flatMap fun line => line.toList ++ ['\n']) ++ rest) = behindEnd? rest := by
  induction lines with
  | nil => rfl
  | cons line lines ih =>
    rw [List.forall_mem_cons] at h
    rw [List.flatMap_cons, List.append_assoc, List.append_assoc, List.singleton_append, behindEnd?_line h.1,
      ih h.2]

/-- A comment whose characters hold its end is over before what stands behind them. -/
theorem behindEnd?_infix {cs : List Char} (h : commentEnd <:+: cs) (rest : List Char) :
    ∃ left, behindEnd? (cs ++ rest) = some (left ++ rest) := by
  induction cs with
  | nil => exact absurd (List.infix_nil.mp h) (by decide)
  | cons c cs ih =>
    by_cases hstart : commentEnd <+: c :: cs
    · obtain ⟨left, hleft⟩ := hstart
      have hcs : cs = '/' :: left := (List.cons.inj hleft).2.symm
      obtain rfl : '*' = c := (List.cons.inj hleft).1
      exact ⟨left, by rw [hcs]; rfl⟩
    · obtain hhere | hlater := List.infix_cons_iff.mp h
      · exact absurd hhere hstart
      · obtain ⟨left, hleft⟩ := ih hlater
        by_cases hborder : commentEnd <+: c :: (cs ++ rest)
        · -- the end would need a character behind `c`, and so does the later one
          cases cs with
          | nil => exact absurd (List.infix_nil.mp hlater) (by decide)
          | cons d cs =>
            obtain ⟨rfl, hnext⟩ := List.cons_prefix_cons.mp hborder
            obtain ⟨rfl, -⟩ := List.cons_prefix_cons.mp hnext
            exact absurd (List.prefix_append commentEnd cs) hstart
        · exact ⟨left, by
            rw [List.cons_append, behindEnd?, if_neg (by rwa [List.isPrefixOf_iff_prefix]), hleft]⟩

/-! ## The comment of a description -/

/-- The lines of the comment between its first and its last. -/
def innerLines (margin text : String) : List String :=
  (Text.lines text).map fun line => margin ++ " * " ++ line

theorem comment_some {text : String} (h : text ≠ "") (margin : String) :
    comment margin (some text) = (margin ++ "/**") :: innerLines margin text ++ [margin ++ " */"] := by
  have hempty : text.isEmpty = false := by rwa [← Bool.not_eq_true, String.isEmpty_iff]
  rw [comment, hempty]
  rfl

/-- Margins of comments. -/
def IsMargin (margin : String) : Prop := margin = "" ∨ margin = indent

theorem infix_innerLine_iff {margin line : String} (h : IsMargin margin) :
    commentEnd <:+: (margin ++ " * " ++ line).toList ↔ commentEnd <:+: line.toList := by
  have hline : (margin ++ " * " ++ line).toList = (margin.toList ++ [' ', '*']) ++ ' ' :: line.toList := by simp
  have hmargin : ¬ commentEnd <:+: margin.toList ++ [' ', '*'] := by rcases h with rfl | rfl <;> decide
  rw [hline, Text.infix_append_cons_iff (by decide), or_iff_right hmargin]

theorem comment_ne_nil {text : String} (h : text ≠ "") (margin : String) : comment margin (some text) ≠ [] := by
  rw [comment_some h]
  exact List.cons_ne_nil _ _

theorem exists_innerLine_iff {margin text : String} (h : IsMargin margin) :
    (∃ line ∈ innerLines margin text, commentEnd <:+: line.toList) ↔ commentEnd <:+: text.toList := by
  rw [← Text.infix_lines_iff (by decide) (Text.unbroken_of_all (by decide))]
  simp only [innerLines, List.mem_map, exists_exists_and_eq_and, infix_innerLine_iff h]

/-- A line of the comment other than its last holds the end of comments exactly if the text does. -/
theorem exists_commentEnd_iff {margin text : String} (hne : text ≠ "") (h : IsMargin margin) :
    (∃ line ∈ (comment margin (some text)).dropLast, commentEnd <:+: line.toList) ↔
      commentEnd <:+: text.toList := by
  have hfirst : ¬ commentEnd <:+: (margin ++ "/**").toList := by rcases h with rfl | rfl <;> decide
  rw [comment_some hne, List.dropLast_concat, List.exists_mem_cons_iff, or_iff_right hfirst,
    exists_innerLine_iff h]

/-- The lines of the comment are lines. -/
theorem lines_comment {margin text : String} (hne : text ≠ "") (h : IsMargin margin) :
    Text.lines (ofLines (comment margin (some text))) = comment margin (some text) := by
  have hfirst : ∀ c ∈ (margin ++ "/**").toList, Text.isLineBreak c = false := by
    rcases h with rfl | rfl <;> exact Text.unbroken_of_all (by decide)
  have hlast : ∀ c ∈ (margin ++ " */").toList, Text.isLineBreak c = false := by
    rcases h with rfl | rfl <;> exact Text.unbroken_of_all (by decide)
  have hinner : ∀ c ∈ (margin ++ " * ").toList, Text.isLineBreak c = false := by
    rcases h with rfl | rfl <;> exact Text.unbroken_of_all (by decide)
  refine lines_ofLines (comment_ne_nil hne margin) fun line hline c hc => ?_
  rw [comment_some hne, List.mem_append, List.mem_cons, List.mem_singleton] at hline
  obtain (rfl | hline) | rfl := hline
  · exact hfirst c hc
  · obtain ⟨line, hmem, rfl⟩ := List.mem_map.mp hline
    rw [String.toList_append, List.mem_append] at hc
    exact hc.elim (hinner c) (Text.isLineBreak_of_mem_lines hmem)
  · exact hlast c hc

/-- **A comment is one comment**, whatever stands behind it, unless its text holds the end of comments. -/
theorem behindComment?_comment {margin text : String} (hne : text ≠ "") (h : IsMargin margin)
    (rest : List Char) :
    behindComment? ((ofLines (comment margin (some text))).toList ++ rest) = some ('\n' :: rest) ↔
      ¬ commentEnd <:+: text.toList := by
  have hopened : ∀ cs, behindComment? ((margin ++ "/**").toList ++ cs) = behindEnd? ('*' :: cs) := by
    intro cs
    rcases h with rfl | rfl <;> rfl
  have hclosed : ∀ cs, behindEnd? ((margin ++ " */").toList ++ cs) = some cs := by
    intro cs
    rcases h with rfl | rfl <;> rfl
  have hfeed : ∀ cs, behindEnd? ('*' :: '\n' :: cs) = behindEnd? cs := fun _ => rfl
  rw [toList_ofLines (comment_ne_nil hne margin), comment_some hne, List.flatMap_append, List.flatMap_cons,
    List.flatMap_singleton, List.append_assoc, List.append_assoc, List.append_assoc, List.append_assoc,
    hopened, List.singleton_append, hfeed, List.singleton_append]
  constructor
  · intro hbehind hend
    obtain ⟨line, hline, hheld⟩ := (exists_innerLine_iff h).mpr hend
    have hbody : commentEnd <:+: (innerLines margin text).flatMap fun line => line.toList ++ ['\n'] :=
      (hheld.trans (List.prefix_append _ _).isInfix).trans (List.infix_of_mem_flatten (List.mem_map_of_mem hline))
    -- what is left behind a comment that ends too early holds its last line
    obtain ⟨left, hleft⟩ := behindEnd?_infix hbody ((margin ++ " */").toList ++ '\n' :: rest)
    have hlength := congrArg List.length (Option.some.inj (hleft.symm.trans hbehind))
    have hmargin : 0 < (margin ++ " */").toList.length := by simp
    simp only [List.length_append, List.length_cons] at hlength hmargin
    omega
  · intro hend
    rw [behindEnd?_lines, hclosed]
    intro line hline hheld
    exact hend ((exists_innerLine_iff h).mp ⟨line, hline, hheld⟩)

/-! ## Descriptions in the interface -/

/-- The lines of the interface in front of what the page object's description describes. -/
def preamble (c : PageClass) : List String :=
  (if c.package.isEmpty then [] else ["package " ++ c.package ++ ";", ""]) ++
    importLines (interfaceImports c) ++ [""]

/-- The head of the interface. -/
def interfaceHead (c : PageClass) : String :=
  "public interface " ++ c.name ++ " extends " ++ (baseInterface c).name ++ " \x7b"

/-- What the interface declares, to its end. -/
def interfaceBody (c : PageClass) : List String :=
  (interfaceMembers c).flatMap InterfaceMember.lines ++ (nested c).flatMap nestedLines ++ ["\x7d"]

theorem interfaceLines_eq (c : PageClass) :
    interfaceLines c = preamble c ++ (comment "" c.description ++ interfaceHead c :: interfaceBody c) := by
  simp only [interfaceLines, preamble, interfaceBody, List.append_assoc, List.singleton_append]
  rfl

section Methods

variable (c : PageClass) (before after : List ClassMethod) (m : ClassMethod)

/-- No import comes from a description. -/
theorem preamble_description (description : Option String) :
    preamble { c with methods := before ++ { m with description } :: after } =
      preamble { c with methods := before ++ m :: after } := by
  have himports : interfaceImports { c with methods := before ++ { m with description } :: after } =
      interfaceImports { c with methods := before ++ m :: after } := by
    unfold interfaceImports publicMethods
    simp only [List.filter_append, List.filter_cons, List.flatMap_append]
    split <;> rfl
  rw [preamble, preamble, himports]

/-- What is declared before and after a public method does not depend on the method's description. -/
theorem interfaceBody_description (hpublic : m.isPublic = true) : ∃ front back, ∀ description,
    interfaceBody { c with methods := before ++ { m with description } :: after } =
      front ++ (comment indent description ++ (indent ++ m.signature.code ++ ";") :: back) := by
  refine ⟨((before.filter ClassMethod.isPublic).map fun m : ClassMethod =>
    InterfaceMember.mk m.description m.signature.code).flatMap InterfaceMember.lines ++ [""],
    interfaceBody { c with methods := after }, fun description => ?_⟩
  have hmember : InterfaceMember.lines ⟨description, m.signature.code⟩ =
      [""] ++ (comment indent description ++ [indent ++ m.signature.code ++ ";"]) := rfl
  unfold interfaceBody interfaceMembers publicMethods
  rw [List.filter_append, List.filter_cons_of_pos (by exact hpublic), List.map_append, List.map_cons]
  simp only [List.flatMap_append, List.flatMap_cons, hmember, List.append_assoc, List.cons_append,
    List.nil_append]
  rfl

/-- The interface does not show the description of a method that is not public. -/
theorem interfaceSource_private (hprivate : m.isPublic = false) (description : Option String) :
    interfaceSource { c with methods := before ++ { m with description } :: after } =
      interfaceSource { c with methods := before ++ m :: after } := by
  have hmembers : interfaceMembers { c with methods := before ++ { m with description } :: after } =
      interfaceMembers { c with methods := before ++ m :: after } := by
    unfold interfaceMembers publicMethods
    rw [List.filter_append, List.filter_append, List.filter_cons_of_neg (by simp [hprivate]),
      List.filter_cons_of_neg (by simp [hprivate])]
    rfl
  rw [interfaceSource, interfaceSource, interfaceLines_eq, interfaceLines_eq, preamble_description,
    interfaceBody, interfaceBody, hmembers]
  rfl

theorem classSource_description (description : Option String) :
    classSource { c with methods := before ++ { m with description } :: after } =
      classSource { c with methods := before ++ m :: after } := by
  have himports : classImports { c with methods := before ++ { m with description } :: after } =
      classImports { c with methods := before ++ m :: after } := by
    unfold classImports PageClass.allMethods
    simp only [List.append_assoc, List.cons_append, List.flatMap_append, List.flatMap_cons]
    rfl
  have hmembers : classMembers { c with methods := before ++ { m with description } :: after } =
      classMembers { c with methods := before ++ m :: after } := by
    unfold classMembers
    simp only [List.map_append, List.map_cons]
    rfl
  rw [classSource, classSource, classLines, classLines, himports, hmembers]
  rfl

end Methods

/-- The interface shows a text as the description of the page object or of a public method. The text alone is
missing in the bare page class; what it describes has a margin and a head. -/
inductive Describes (c : PageClass) (text : String) : PageClass → String → String → Prop
  | page (h : c.description = some text) :
    Describes c text { c with description := none } "" (interfaceHead c)
  | method {before after : List ClassMethod} {m : ClassMethod} (h : c.methods = before ++ m :: after)
      (hpublic : m.isPublic = true) (htext : m.description = some text) :
    Describes c text { c with methods := before ++ { m with description := none } :: after } indent
      (indent ++ m.signature.code ++ ";")

/-- The interface has a block in front of the head and is else the bare one. The lines of the block are the opening
of a comment, the lines of the text, each behind a star, and the end of the comment. Whatever stands behind it, the
block is one comment, and no line but its last holds the end of comments, exactly if the text does not. -/
structure Commented (c bare : PageClass) (text margin head block : String) : Prop where
  placed : ∃ front more, interfaceSource c = front ++ block ++ (head ++ "\n" ++ more) ∧
    interfaceSource bare = front ++ (head ++ "\n" ++ more)
  lines : Text.lines block = (margin ++ "/**") :: (Text.lines text).map (fun line => margin ++ " * " ++ line) ++
    [margin ++ " */"]
  closed : ∀ rest, behindComment? (block.toList ++ rest) = some ('\n' :: rest) ↔ ¬ commentEnd <:+: text.toList
  ended : (∀ line ∈ (Text.lines block).dropLast, ¬ commentEnd <:+: line.toList) ↔ ¬ commentEnd <:+: text.toList

namespace Describes

variable {c bare : PageClass} {text margin head : String}

theorem isMargin (h : Describes c text bare margin head) : IsMargin margin := by
  cases h with
  | page h => exact .inl rfl
  | method h hpublic htext => exact .inr rfl

/-- The comment stands in front of what the text describes, and is all that the text adds to the interface. -/
theorem exists_lines (h : Describes c text bare margin head) : ∃ front back, front ≠ [] ∧
    interfaceLines c = front ++ (comment margin (some text) ++ head :: back) ∧
    interfaceLines bare = front ++ head :: back := by
  cases h with
  | page h =>
    exact ⟨preamble c, interfaceBody c, by simp [preamble], by rw [interfaceLines_eq, h], interfaceLines_eq _⟩
  | @method before after m h hpublic htext =>
    obtain ⟨front, back, hbody⟩ := interfaceBody_description c before after m hpublic
    have hc : { c with methods := before ++ { m with description := some text } :: after } = c := by
      rw [← htext, ← h]
    have hbare : preamble { c with methods := before ++ { m with description := none } :: after } =
        preamble c := by rw [preamble_description, ← h]
    refine ⟨preamble c ++ (comment "" c.description ++ interfaceHead c :: front), back, by simp [preamble], ?_, ?_⟩
    · have htold := hbody (some text)
      rw [hc] at htold
      rw [interfaceLines_eq, htold]
      simp only [List.append_assoc, List.cons_append]
    · rw [interfaceLines_eq, hbody, hbare]
      simp only [List.append_assoc, List.cons_append]
      rfl

/-- The class is without the text. -/
theorem classSource_eq (h : Describes c text bare margin head) : classSource bare = classSource c := by
  cases h with
  | page h => rfl
  | @method before after m h hpublic htext => rw [classSource_description, ← h]

/-- The comment stands as one text in front of what the text describes. -/
theorem exists_source (h : Describes c text bare margin head) (hne : text ≠ "") : ∃ front more,
    interfaceSource c = front ++ ofLines (comment margin (some text)) ++ (head ++ "\n" ++ more) ∧
      interfaceSource bare = front ++ (head ++ "\n" ++ more) := by
  obtain ⟨front, back, hfront, hlines, hbare⟩ := h.exists_lines
  have hback : ∃ more, ofLines (head :: back) = head ++ "\n" ++ more := by
    by_cases hnil : back = []
    · exact ⟨"", by rw [hnil, ofLines, String.intercalate_singleton, String.append_empty]⟩
    · exact ⟨ofLines back, by
        rw [← List.singleton_append, ofLines_append (by simp) hnil, ofLines, String.intercalate_singleton]⟩
  obtain ⟨more, hmore⟩ := hback
  refine ⟨ofLines front, more, ?_, ?_⟩
  · rw [interfaceSource, hlines, ofLines_append hfront (by simp),
      ofLines_append (comment_ne_nil hne margin) (by simp), hmore, ← String.append_assoc]
  · rw [interfaceSource, hbare, ofLines_append hfront (by simp), hmore]

theorem commented (h : Describes c text bare margin head) (hne : text ≠ "") :
    Commented c bare text margin head (ofLines (comment margin (some text))) where
  placed := h.exists_source hne
  lines := by
    rw [lines_comment hne h.isMargin, comment_some hne]
    rfl
  closed := behindComment?_comment hne h.isMargin
  ended := by
    rw [lines_comment hne h.isMargin, ← exists_commentEnd_iff hne h.isMargin]
    push Not
    rfl

end Describes

/-- **Descriptions and comments.** A description that the interface shows stands there as a comment, if it is not
empty, and nowhere else in the generated source. The description of a method that is not public stands nowhere. -/
theorem description_commented (c : PageClass) :
    (∀ bare text margin head, Describes c text bare margin head → classSource bare = classSource c ∧
      (text = "" → interfaceSource bare = interfaceSource c) ∧
      (text ≠ "" → ∃ block, Commented c bare text margin head block)) ∧
    ∀ before after m, c.methods = before ++ m :: after → m.isPublic = false → ∀ description,
      classSource { c with methods := before ++ { m with description } :: after } = classSource c ∧
      interfaceSource { c with methods := before ++ { m with description } :: after } = interfaceSource c := by
  refine ⟨fun bare text margin head h => ⟨h.classSource_eq, ?_, fun hne => ⟨_, h.commented hne⟩⟩, ?_⟩
  · rintro rfl
    obtain ⟨front, back, -, hlines, hbare⟩ := h.exists_lines
    rw [interfaceSource, interfaceSource, hlines, hbare]
    rfl
  · intro before after m hmethods hprivate description
    refine ⟨by rw [classSource_description, ← hmethods], ?_⟩
    rw [interfaceSource_private c before after m hprivate, ← hmethods]

/-- A page object and a public method with descriptions. The method's is of two lines. -/
def station : PageClass :=
  { name := "Station", package := "my.app", description := some "Where trains stop.",
    methods :=
      [{ signature := { name := "leave", returnType := .void },
         description := some "Leaves it.\nThe doors are closed before.",
         body := { statements := [], returnType := .void } }] }

theorem station_commented :
    (∃ bare block, Commented station bare "Where trains stop." ""
        "public interface Station extends PageObject \x7b" block ∧
      ∀ rest, behindComment? (block.toList ++ rest) = some ('\n' :: rest)) ∧
    ∃ bare block, Commented station bare "Leaves it.\nThe doors are closed before." "  " "  void leave();" block ∧
      ∀ rest, behindComment? (block.toList ++ rest) = some ('\n' :: rest) := by
  obtain ⟨hshown, -⟩ := description_commented station
  constructor
  · obtain ⟨-, -, hblock⟩ := hshown _ _ _ _ (.page rfl)
    obtain ⟨block, hcommented⟩ := hblock (by decide)
    exact ⟨_, block, hcommented, fun rest => (hcommented.closed rest).mpr (by decide)⟩
  · obtain ⟨-, -, hblock⟩ := hshown _ _ _ _ (@Describes.method station _ [] _ _ rfl rfl rfl)
    obtain ⟨block, hcommented⟩ := hblock (by decide)
    exact ⟨_, block, hcommented, fun rest => (hcommented.closed rest).mpr (by decide)⟩

/-- A document whose description ends its comment. -/
def closing : Source := .value (.object [("description", .text "Closed */ early")])

/-- **A description that is not kept inside**: its comment ends where the text says, and the rest of the text is
read as code. -/
theorem closing_escapes : ∃ pc front more, PageClass.ofSource closing "Home" "my.app" = .ok pc ∧
    pc.description = some "Closed */ early" ∧
    interfaceSource pc = front ++ "/**\n * Closed */ early\n */\n" ++
      ("public interface Home extends PageObject \x7b" ++ "\n" ++ more) ∧
    interfaceSource { pc with description := none } =
      front ++ ("public interface Home extends PageObject \x7b" ++ "\n" ++ more) ∧
    behindComment? "/**\n * Closed */ early\n */\n".toList = some " early\n */\n".toList := by
  have hok : (PageClass.ofSource closing "Home" "my.app").toOption.any (fun pc =>
      decide (pc.description = some "Closed */ early") &&
        decide (interfaceHead pc = "public interface Home extends PageObject \x7b")) = true := by decide
  obtain ⟨pc, hpc, htold⟩ := exists_eq_ok hok
  obtain ⟨hdescription, hhead⟩ := Bool.and_eq_true_iff.mp htold
  have hdescribes := Describes.page (of_decide_eq_true hdescription)
  rw [of_decide_eq_true hhead] at hdescribes
  obtain ⟨front, more, hsource, hbare⟩ := hdescribes.exists_source (by decide)
  have hblock : ofLines (comment "" (some "Closed */ early")) = "/**\n * Closed */ early\n */\n" := by decide
  rw [hblock] at hsource
  exact ⟨pc, front, more, hpc, of_decide_eq_true hdescription, hsource, hbare, by decide⟩

end Java
end PageObjects
