import PageObjects.Proofs.Batch.Outputs
import PageObjects.Proofs.Page

/-!
# Documents by name

A document is named twice: the run names its page object by where the document stands, and other page
objects name it by a reference of module, package root, directories and stem. The two names are
computed apart. They agree on directories, which both bring to lower case, and on the module. They
agree on the package root when it is in lower case, since the run takes it as it is given, and on the
stem when it is one word, since the run puts the words between hyphens and underscores together. The
one name is given by the Runner (specification, 6), the other by the references of the Grammar (3).

* `ResultType.ofReference_intercalate`: the type that a reference of given parts names.
* **`Config.identity_reference`**: it is the page object of the document, for a package root in lower
  case and a stem of one word.
* `Config.package_eq_iff`, `Config.name_eq_iff`: for no other package root, and no other stem.
-/

namespace PageObjects

/-! ## References -/

/-- A reference of given parts names the capitalized last one, in the package of the others. -/
theorem ResultType.ofReference_intercalate {moduleName root stem : String}
    {directories : List String}
    (hplain : ∀ part ∈ moduleName :: root :: (directories ++ [stem]),
      part ≠ "" ∧ '/' ∉ part.toList) :
    ofReference ("/".intercalate (moduleName :: root :: (directories ++ [stem]))) =
      .ok { name := Text.capitalize stem,
            package := ".".intercalate
              (packageOfModule moduleName :: (root :: directories).map Text.lower) } := by
  have hparts : parts '/' ("/".intercalate (moduleName :: root :: (directories ++ [stem]))) =
      moduleName :: root :: (directories ++ [stem]) := by
    have hsingle : ∀ texts : List String, (∀ part ∈ texts, part ≠ "" ∧ '/' ∉ part.toList) →
        texts.flatMap (parts '/') = texts := by
      intro texts h
      induction texts with
      | nil => rfl
      | cons text texts ih =>
        rw [List.forall_mem_cons] at h
        rw [List.flatMap_cons, parts_of_notMem h.1.2, ih h.2, List.singleton_append]
    rw [show "/" = String.singleton '/' from rfl, parts_intercalate (by simp), hsingle _ hplain]
  have hempty : (moduleName :: root :: (directories ++ [stem])).any String.isEmpty = false := by
    rw [List.any_eq_false]
    intro part hpart
    simpa using (hplain part hpart).1
  have hdirectories : (root :: (directories ++ [stem])).dropLast = root :: directories := by
    rw [← List.cons_append, List.dropLast_concat]
  have hname : (moduleName :: root :: (directories ++ [stem])).getLastD "" = stem := by
    rw [← List.cons_append, ← List.cons_append, List.getLastD_concat]
  unfold ofReference
  rw [hparts]
  dsimp only
  rw [hempty, hdirectories, hname]
  rfl

/-! ## Documents -/

theorem intercalate_cons_inj {separator first second : String} {rest : List String}
    (h : separator.intercalate (first :: rest) = separator.intercalate (second :: rest)) :
    first = second := by
  by_cases hrest : rest = []
  · simpa [hrest] using h
  · rw [String.intercalate_cons_of_ne_nil hrest, String.intercalate_cons_of_ne_nil hrest,
      String.append_left_inj, String.append_left_inj] at h
    exact h

theorem documentStem_utam (stem : String) : documentStem (stem ++ ".utam.json") = stem := by
  have hsuffix : ".utam.json".toList.isSuffixOf (stem ++ ".utam.json").toList = true := by
    rw [List.isSuffixOf_iff_suffix, String.toList_append]
    exact List.suffix_append _ _
  have hending : documentEndings.find? (fun ending =>
      ending.toList.isSuffixOf (stem ++ ".utam.json").toList) = some ".utam.json" :=
    List.find?_cons_of_pos hsuffix
  unfold documentStem
  dsimp only
  rw [hending]
  dsimp only
  rw [String.toList_append, List.length_append, ← String.length_toList, Nat.add_sub_cancel,
    List.take_left, String.ofList_toList]

/-- A stem of one word is the name of its page object when it is capitalized. -/
theorem pageObjectName_of_word {stem : String} (hne : stem ≠ "") (hhyphen : '-' ∉ stem.toList)
    (hunderscore : '_' ∉ stem.toList) :
    pageObjectName (stem ++ ".utam.json") = Text.capitalize stem := by
  have hsplit : stem.toList.splitOnP (fun c => c == '-' || c == '_') = [stem.toList] := by
    refine List.splitOnP_eq_singleton ?_
    intro c hc
    simp only [Bool.or_eq_false_iff, beq_eq_false_iff_ne]
    exact ⟨ne_of_mem_of_not_mem hc hhyphen, ne_of_mem_of_not_mem hc hunderscore⟩
  unfold pageObjectName
  rw [documentStem_utam]
  dsimp only
  rw [hsplit]
  simp [hne]

namespace Config

/-- The document of a stem in directories under the source directory. -/
def document (c : Config) (directories : List String) (stem : String) : Path :=
  { c.sourceDir with parts := c.sourceDir.parts ++ (directories ++ [stem ++ ".utam.json"]) }

variable {c : Config} {moduleName stem : String} {directories : List String}

theorem basePackage_eq (hmodule : c.moduleName = some moduleName) (hne : moduleName ≠ "")
    (hroot : c.packageRoot ≠ "") :
    c.basePackage = ResultType.packageOfModule moduleName ++ "." ++ c.packageRoot := by
  have hmoduleName : (ResultType.packageOfModule moduleName).isEmpty = false := by
    rw [← Bool.not_eq_true, String.isEmpty_iff, ResultType.packageOfModule]
    intro hempty
    have hlist := congrArg String.toList hempty
    rw [String.toList_ofList, String.toList_empty, List.map_eq_nil_iff] at hlist
    exact hne (String.toList_eq_nil_iff.mp hlist)
  have hpackageRoot : c.packageRoot.isEmpty = false := by
    rwa [← Bool.not_eq_true, String.isEmpty_iff]
  simp only [basePackage, hmodule, Option.getD_some, List.filter_cons, hmoduleName, hpackageRoot,
    Bool.not_false, if_true, List.filter_nil]
  rw [String.intercalate_cons_of_ne_nil (by simp), String.intercalate_singleton]

theorem identity_document (hmodule : c.moduleName = some moduleName) (hne : moduleName ≠ "")
    (hroot : c.packageRoot ≠ "") :
    c.identity (c.document directories stem) = (pageObjectName (stem ++ ".utam.json"),
      ".".intercalate (ResultType.packageOfModule moduleName :: c.packageRoot ::
        directories.map Text.lower)) := by
  have hrelative : ((c.document directories stem).relativeTo c.sourceDir).parts =
      directories ++ [stem ++ ".utam.json"] := by
    rw [document, Path.relativeTo, List.drop_left]
  have hname : (c.document directories stem).name = stem ++ ".utam.json" := by
    rw [document, Path.name, ← List.append_assoc, List.getLastD_concat]
  have hbase := basePackage_eq hmodule hne hroot
  have hsome : c.basePackage.isEmpty = false := by
    rw [← Bool.not_eq_true, String.isEmpty_iff, hbase]
    intro hempty
    have hlength := congrArg String.length hempty
    simp at hlength
  unfold identity
  rw [hrelative, hname, hsome, List.dropLast_concat, hbase]
  dsimp only
  by_cases hdirectories : directories.map Text.lower = []
  · rw [hdirectories, String.intercalate_cons_of_ne_nil (by simp)]
    simp
  · rw [if_neg (by simp), List.singleton_append,
      String.intercalate_cons_of_ne_nil hdirectories, String.intercalate_cons_of_ne_nil (by simp),
      String.intercalate_cons_of_ne_nil hdirectories]
    simp only [String.append_assoc]

/-- The package of a document is the one that its reference names exactly when the package root is in
lower case: the run takes it as it is given. -/
theorem package_eq_iff (hmodule : c.moduleName = some moduleName) (hne : moduleName ≠ "")
    (hroot : c.packageRoot ≠ "") :
    (c.identity (c.document directories stem)).2 =
        ".".intercalate (ResultType.packageOfModule moduleName ::
          (c.packageRoot :: directories).map Text.lower) ↔
      Text.lower c.packageRoot = c.packageRoot := by
  rw [identity_document hmodule hne hroot, List.map_cons]
  constructor
  · intro h
    dsimp only at h
    rw [String.intercalate_cons_of_ne_nil (List.cons_ne_nil c.packageRoot _),
      String.intercalate_cons_of_ne_nil (List.cons_ne_nil (Text.lower c.packageRoot) _),
      String.append_right_inj] at h
    exact (intercalate_cons_inj h).symm
  · intro h
    rw [h]

/-- The name of a document is the one that its reference names exactly when the stem is one word: the
run leaves out what stands between words. -/
theorem name_eq_iff (hne : stem ≠ "") : pageObjectName (stem ++ ".utam.json") = Text.capitalize stem ↔
    '-' ∉ stem.toList ∧ '_' ∉ stem.toList := by
  constructor
  · intro h
    have hfree : ∀ separator ∈ ['-', '_'], separator ∉ stem.toList := by
      intro separator hseparator hmem
      have hlisted : separator ∈ Text.separators := List.mem_cons_of_mem _ hseparator
      have hname := (Text.separator_mem_capitalize hlisted).mpr hmem
      rw [← h] at hname
      obtain ⟨⟨hhyphen, hunderscore⟩, -⟩ := of_separator_mem_pageObjectName hlisted hname
      simp [hhyphen, hunderscore] at hseparator
    exact ⟨hfree _ (by simp), hfree _ (by simp)⟩
  · rintro ⟨hhyphen, hunderscore⟩
    exact pageObjectName_of_word hne hhyphen hunderscore

/-- **A reference names the document's page object**: by module, package root, directories and stem it
names the package in which the run puts the page object, if the package root is in lower case, and
the name that the run gives it, if the stem is one word. -/
theorem identity_reference (hmodule : c.moduleName = some moduleName)
    (hplain : ∀ part ∈ moduleName :: c.packageRoot :: (directories ++ [stem]),
      part ≠ "" ∧ '/' ∉ part.toList) :
    ∃ type, ResultType.ofReference
        ("/".intercalate (moduleName :: c.packageRoot :: (directories ++ [stem]))) = .ok type ∧
      (Text.lower c.packageRoot = c.packageRoot →
        (c.identity (c.document directories stem)).2 = type.package) ∧
      ('-' ∉ stem.toList → '_' ∉ stem.toList →
        (c.identity (c.document directories stem)).1 = type.name) := by
  have hne : moduleName ≠ "" := (hplain moduleName (by simp)).1
  have hroot : c.packageRoot ≠ "" := (hplain c.packageRoot (by simp)).1
  have hstem : stem ≠ "" := (hplain stem (by simp)).1
  refine ⟨_, ResultType.ofReference_intercalate hplain, ?_, ?_⟩
  · exact (package_eq_iff hmodule hne hroot).mpr
  · intro hhyphen hunderscore
    rw [identity_document hmodule hne hroot]
    exact (name_eq_iff hstem).mpr ⟨hhyphen, hunderscore⟩

/-- A run for the module `my-app` with the given package root. -/
def appConfig (packageRoot : String) : Config :=
  { sourceDir := .ofText "in", outputDir := .ofText "out", moduleName := some "my-app", packageRoot }

theorem appConfig_reference : ∃ type,
    ResultType.ofReference "my-app/pageobjects/Nav/menu" = .ok type ∧
      ((appConfig "pageobjects").identity ((appConfig "pageobjects").document ["Nav"] "menu")) =
        (type.name, type.package) := by
  obtain ⟨type, htype, hpackage, hname⟩ := @identity_reference (appConfig "pageobjects") "my-app" "menu"
    ["Nav"] rfl (by decide)
  exact ⟨type, htype, Prod.ext (hname (by decide) (by decide)) (hpackage (by decide))⟩

/-- **References fail to name documents**: one of a stem of two words gives another name, and one
under a package root with a capital letter another package. -/
theorem reference_differs :
    (ResultType.ofReference "my-app/pageobjects/side-menu" =
        .ok { name := "Side-menu", package := "my.app.pageobjects" } ∧
      (appConfig "pageobjects").identity ((appConfig "pageobjects").document [] "side-menu") =
        ("SideMenu", "my.app.pageobjects")) ∧
    ResultType.ofReference "my-app/pageObjects/menu" =
        .ok { name := "Menu", package := "my.app.pageobjects" } ∧
      (appConfig "pageObjects").identity ((appConfig "pageObjects").document [] "menu") =
        ("Menu", "my.app.pageObjects") := by
  refine ⟨⟨by decide, by decide⟩, by decide, by decide⟩

end Config
end PageObjects
