import OutletWiring.Proofs.Lines.Nesting
import OutletWiring.Proofs.Page.Block
import OutletWiring.Proofs.Punctuation

/-!
# Everything written is well nested

Delimiters open and close in different steps of a block. Each part of a block is read here with
anything awaiting its end, and the parts are put together.
-/

namespace OutletWiring

open Text (Balanced Lacks delimiters nesting)

namespace Text

variable {text : Text}

theorem isSign_of_isDelimiter {c : Char} (h : isDelimiter c = true) : Letter.isSign c = true := by
  have hcases : c = '\x7b' ∨ c = '[' ∨ c = '(' ∨ c = '\x7d' ∨ c = ']' ∨ c = ')' := by
    unfold isDelimiter closer? isCloser at h
    split_ifs at h <;> simp_all [or_assoc]
  rcases hcases with rfl | rfl | rfl | rfl | rfl | rfl <;> decide

end Text

def Punctuation.delimiters : Punctuation :=
  ⟨Text.isDelimiter, Text.isSign_of_isDelimiter⟩

namespace Text

theorem Lacks.delimiters_eq (h : Lacks .delimiters text) : delimiters text = [] :=
  List.filter_eq_nil_iff.2 fun c hc => by simp [show isDelimiter c = false from h c hc]

theorem Lacks.balanced (h : Lacks .delimiters text) : Balanced text := by
  rw [← balanced_delimiters_iff, h.delimiters_eq]
  exact .nil

end Text

namespace Draft

/-- The steps lay out a block that leaves open what it finds open. -/
def Nested (steps : List Step) : Prop :=
  ∀ awaited, nesting awaited (steps.flatMap Step.delimiters) = some awaited

theorem Nested.nesting_eq {steps : List Step} (h : Nested steps) (awaited : List Char) :
    nesting awaited (steps.flatMap Step.delimiters) = some awaited :=
  h awaited

theorem Nested.balanced_compose {steps : List Step} (h : Nested steps) :
    Balanced (compose steps).flatten := by
  rw [← Text.balanced_delimiters_iff, Lines.delimiters_flatten, delimiters_compose,
    Text.balanced_iff_nesting]
  exact h []

theorem nested_nil : Nested [] := fun _ => rfl

theorem Nested.blank {steps : List Step} (h : Nested steps) : Nested (.blank :: steps) :=
  fun awaited => h awaited

theorem nested_append {front back : List Step} (hf : Nested front) (hb : Nested back) :
    Nested (front ++ back) := by
  intro awaited
  rw [List.flatMap_append, Text.nesting_append, hf, Option.bind_some, hb]

theorem nested_flatMap {α : Type} {items : List α} {steps : α → List Step}
    (h : ∀ item ∈ items, Nested (steps item)) : Nested (items.flatMap steps) := by
  induction items with
  | nil => exact nested_nil
  | cons item items ih =>
    exact nested_append (h item (by simp)) (ih fun other hother => h other (by simp [hother]))

theorem nested_map {α : Type} {items : List α} {step : α → Step}
    (h : ∀ item ∈ items, Nested [step item]) : Nested (items.map step) := by
  rw [List.map_eq_flatMap]
  exact nested_flatMap h

theorem nested_separated {blocks : List (List Step)} (h : ∀ block ∈ blocks, Nested block) :
    Nested (Page.separated blocks) := by
  fun_induction Page.separated blocks with
  | case1 => exact nested_nil
  | case2 block => exact h block (by simp)
  | case3 block blocks _ ih =>
    have hrest := ih fun other hother => h other (by simp [hother])
    exact nested_append (h block (by simp)) hrest.blank

/-- The entries of a list stand between its opening and its closing. -/
theorem nesting_listed {opening continuation closing : Text} {entries : List Text}
    (hc : Balanced continuation) (he : ∀ entry ∈ entries, Balanced entry) (hne : entries ≠ [])
    (awaited : List Char) :
    nesting awaited (Lines.delimiters (listed opening continuation closing entries)) =
      nesting awaited (opening ++ closing) := by
  fun_induction listed opening continuation closing entries generalizing awaited with
  | case1 => exact absurd rfl hne
  | case2 opening entry =>
    rw [Lines.delimiters_cons, Lines.delimiters_nil, List.append_nil, Text.nesting_delimiters]
    exact (he entry (by simp)).nesting_between awaited opening closing
  | case3 opening entry entries hcons ih =>
    have hentry := he entry (by simp)
    have hcomma : Balanced ",".toList := by decide
    have hrest := ih (fun other hother => he other (by simp [hother])) fun hnil => hcons hnil
    simp only [Lines.delimiters_cons, Text.nesting_append, Text.nesting_delimiters,
      hentry.nesting_eq, hcomma.nesting_eq, Option.bind_some, Option.bind_assoc, hrest,
      hc.nesting_eq]

theorem nesting_bracketed {opening continuation closing : Text} {entries : List Text}
    (hc : Balanced continuation) (he : ∀ entry ∈ entries, Balanced entry)
    (ho : Balanced (opening ++ closing)) (awaited : List Char) :
    nesting awaited (Lines.delimiters (listed opening continuation closing entries)) =
      some awaited := by
  by_cases hne : entries = []
  · subst hne
    rfl
  · rw [nesting_listed hc he hne, ho.nesting_eq]

end Draft

open Draft (Nested Step nested_append nested_flatMap nested_map nested_nil nested_separated)

/-! ## Identifiers -/

namespace Identifiers

theorem nested_bindingSteps {outlet : Outlet} (h : Lacks .delimiters outlet.name) :
    Nested (bindingSteps outlet) := by
  have hmark : delimiters Line.Mark.binding = ['('] := by decide
  have htarget : delimiters outlet.target = [] := by
    unfold Outlet.target
    split_ifs
    · decide
    · exact h.delimiters_eq
  intro awaited
  unfold bindingSteps Outlet.textFieldCase
  split_ifs <;>
    simp [Text.isDelimiter, Text.closer?, Text.isCloser, hmark, htarget, h.delimiters_eq]

variable {subject : Subject} (h : subject.Lacks .delimiters)
include h

theorem nested_caseSteps : Nested (caseSteps subject) := by
  refine nested_map fun name hn awaited => ?_
  simp [Text.isDelimiter, Text.closer?, Text.isCloser, (h.of_mem_cases hn).delimiters_eq]

theorem nested_cellSetterSteps : Nested (cellSetterSteps subject) := by
  have hmark : delimiters Line.Mark.binding = ['('] := by decide
  intro awaited
  unfold cellSetterSteps
  split_ifs
  · simp [Text.isDelimiter, Text.closer?, Text.isCloser, hmark, h.cellIdentifier.delimiters_eq]
  · rfl

theorem balanced_enumBlock : Balanced (enumBlock subject).flatten := by
  refine Nested.balanced_compose fun awaited => ?_
  simp [Text.isDelimiter, Text.closer?, Text.isCloser, h.enumName.delimiters_eq,
    h.className.delimiters_eq, (nested_caseSteps h).nesting_eq]

theorem balanced_setterBlock : Balanced (setterBlock subject).flatten := by
  have hmarks : delimiters Line.Mark.setter = ['(', ')'] ∧ delimiters Line.Mark.typealias = [] := by
    decide
  have hbindings : Nested (subject.outlets.flatMap bindingSteps) :=
    nested_flatMap fun outlet ho => nested_bindingSteps (h.outlets outlet ho)
  refine Nested.balanced_compose fun awaited => ?_
  simp only [List.flatMap_append]
  simp [Text.isDelimiter, Text.closer?, Text.isCloser, h.enumName.delimiters_eq,
    h.className.delimiters_eq, hmarks, hbindings.nesting_eq, (nested_cellSetterSteps h).nesting_eq]

theorem balanced_caseLines : Balanced (caseLines subject).flatten :=
  (nested_caseSteps h).balanced_compose

theorem balanced_bindingLines {outlet : Outlet} (ho : outlet ∈ subject.outlets) :
    Balanced (bindingLines outlet).flatten :=
  (nested_bindingSteps (h.outlets outlet ho)).balanced_compose

end Identifiers

/-! ## Page objects -/

namespace Page

variable {variant : Variant} {subject : Subject}

theorem delimiters_query (kind : ElementKind) :
    delimiters kind.query = [] ∧ delimiters kind.constructorName = [] := by
  cases kind <;> decide

section Lacks

variable (h : subject.Lacks .delimiters)
include h

theorem delimiters_identifier {name : Text} (hn : Lacks .delimiters name) :
    delimiters (identifier subject name) = [] := by
  have hmark : delimiters Line.Mark.elements = [] := by decide
  simp [identifier, hmark, h.enumName.delimiters_eq, hn.delimiters_eq, Text.isDelimiter,
    Text.closer?, Text.isCloser]

theorem balanced_lookup {scope : Scope} (hs : Balanced scope.root) {outlet : Outlet}
    (ho : outlet ∈ subject.outlets) : Balanced (lookup variant subject scope outlet) := by
  have hid := delimiters_identifier h (h.outlets outlet ho)
  have hroot : ∀ awaited, nesting awaited (delimiters scope.root) = some awaited := fun awaited => by
    rw [Text.nesting_delimiters, hs.nesting_eq]
  rw [← Text.balanced_delimiters_iff, Text.balanced_iff_nesting]
  unfold lookup
  split <;>
    simp [hroot, hid, delimiters_query, Text.isDelimiter, Text.closer?, Text.isCloser]

/-- The accessors stand in brackets, each with the same text after it. -/
theorem nesting_accessors {ending : Text} (he : Balanced ending) (awaited : List Char) :
    nesting awaited (Lines.delimiters
      (Draft.listed "[" " " "]" ((accessors subject).map (· ++ ending)))) = some awaited := by
  refine Draft.nesting_bracketed (by decide) ?_ (by decide) awaited
  simp only [accessors, List.map_map, List.forall_mem_map]
  exact fun outlet ho => (h.accessor ho).balanced.append he

end Lacks

/-! ### Views -/

namespace View

variable (h : subject.Lacks .delimiters)
include h

theorem nested_elementSteps : Nested (elementSteps variant subject) := by
  refine nested_flatMap fun outlet ho awaited => ?_
  have hlookup : Balanced (lookup variant subject .app outlet) := balanced_lookup h (by decide) ho
  simp [Text.nesting_delimiters, hlookup.nesting_eq, (h.accessor ho).delimiters_eq,
    Text.isDelimiter, Text.closer?, Text.isCloser]

theorem nested_tapSteps : Nested (tapSteps variant subject) := by
  refine nested_flatMap fun outlet ho awaited => ?_
  have haccessor := h.accessor (List.mem_of_mem_filter ho)
  simp [haccessor.delimiters_eq, haccessor.upperFirst.delimiters_eq, Text.isDelimiter, Text.closer?,
    Text.isCloser]

theorem nested_requirementSteps : Nested (requirementSteps subject) := by
  refine nested_map fun name hn awaited => ?_
  obtain ⟨outlet, ho, rfl⟩ := List.mem_map.1 hn
  simp [(h.accessor ho).delimiters_eq, Text.isDelimiter, Text.closer?, Text.isCloser]

theorem nested_protocolSteps : Nested (protocolSteps variant subject) := by
  have hbase : delimiters variant.pageStyle.viewBase = [] := by
    cases variant.pageStyle <;> decide
  intro awaited
  unfold protocolSteps protocolOpening
  simp only [List.flatMap_append]
  simp [hbase, (nested_requirementSteps h).nesting_eq, h.className.delimiters_eq,
    h.accessorStem.delimiters_eq, h.accessorStem.upperFirst.delimiters_eq, Text.isDelimiter,
    Text.closer?, Text.isCloser]

theorem nested_aggregateSteps : Nested (aggregateSteps subject) := by
  have hlist := nesting_accessors h (by decide : Balanced ": status")
  intro awaited
  simp only [aggregateSteps, List.flatMap_cons, Step.delimiters, Text.nesting_append, hlist,
    Option.bind_some]
  simp [h.accessorStem.delimiters_eq, Text.isDelimiter, Text.closer?, Text.isCloser]

theorem nested_checkSteps : Nested (checkSteps subject) := by
  intro awaited
  simp [checkSteps, h.accessorStem.delimiters_eq, h.accessorStem.upperFirst.delimiters_eq,
    Text.isDelimiter, Text.closer?, Text.isCloser]

theorem nested_implementationSteps : Nested (implementationSteps variant subject) := by
  intro awaited
  unfold implementationSteps extensionOpening
  simp only [List.flatMap_append]
  simp [(nested_elementSteps h).nesting_eq, (nested_aggregateSteps h).nesting_eq,
    (nested_checkSteps h).nesting_eq, (nested_tapSteps h).nesting_eq, h.className.delimiters_eq,
    Text.isDelimiter, Text.closer?, Text.isCloser]

theorem balanced_fresh : Balanced (fresh variant subject).flatten :=
  (nested_append (nested_protocolSteps h) (nested_implementationSteps h).blank).balanced_compose

theorem balanced_extension : Balanced (extension variant subject).flatten := by
  refine Nested.balanced_compose fun awaited => ?_
  unfold extensionOpening
  simp only [List.flatMap_append]
  simp [(nested_elementSteps h).nesting_eq, (nested_tapSteps h).nesting_eq,
    h.className.delimiters_eq, Text.isDelimiter, Text.closer?, Text.isCloser]

end View

/-! ### Cells -/

namespace Cell

theorem nested_whenIdentified {steps : List Step} (h : Nested steps) :
    Nested (whenIdentified subject steps) := by
  unfold whenIdentified
  split_ifs
  · exact h
  · exact nested_nil

theorem nested_tapSteps {name element : Text} (hn : Lacks .delimiters name)
    (he : Lacks .delimiters element) : Nested (tapSteps name element) := by
  intro awaited
  simp [tapSteps, hn.delimiters_eq, he.delimiters_eq, Text.isDelimiter, Text.closer?,
    Text.isCloser]

variable (h : subject.Lacks .delimiters)
include h

theorem nested_elementSteps {outlet : Outlet} (ho : outlet ∈ subject.outlets) :
    Nested (elementSteps variant subject outlet) := by
  have hlookup : Balanced (lookup variant subject (.cell subject.accessorStem) outlet) :=
    balanced_lookup h (h.accessorStem.balanced.append (by decide)) ho
  intro awaited
  simp [elementSteps, Text.nesting_delimiters, hlookup.nesting_eq, (h.accessor ho).delimiters_eq,
    Text.isDelimiter, Text.closer?, Text.isCloser]

theorem nested_outletTapSteps : Nested (outletTapSteps variant subject) :=
  nested_flatMap fun outlet ho =>
    have hmem := List.mem_of_mem_filter ho
    nested_tapSteps (h.outlets outlet hmem).upperFirst (h.accessor hmem)

theorem nested_requirementSteps : Nested (requirementSteps subject) := by
  refine nested_map fun name hn awaited => ?_
  obtain ⟨outlet, ho, rfl⟩ := List.mem_map.1 hn
  simp [(h.accessor ho).delimiters_eq, Text.isDelimiter, Text.closer?, Text.isCloser]

theorem nested_cellRequirementSteps : Nested (cellRequirementSteps subject) :=
  nested_whenIdentified fun awaited => by
    simp [h.accessorStem.delimiters_eq, Text.isDelimiter, Text.closer?, Text.isCloser]

theorem delimiters_openings (style : PageStyle) :
    delimiters (protocolOpening style subject.className) = ['\x7b'] ∧
      delimiters (implementationOpening style subject.className) = ['\x7b'] ∧
      delimiters (extensionOpening style subject.className) = ['\x7b'] := by
  have hbase : delimiters style.cellBase = [] := by cases style <;> decide
  unfold protocolOpening implementationOpening extensionOpening
  cases style <;>
    simp [hbase, h.className.delimiters_eq, Text.isDelimiter, Text.closer?, Text.isCloser]

theorem nested_protocolSteps : Nested (protocolSteps variant subject) := by
  intro awaited
  simp only [protocolSteps, List.flatMap_append]
  simp [(nested_cellRequirementSteps h).nesting_eq, (nested_requirementSteps h).nesting_eq,
    delimiters_openings h, h.accessorStem.delimiters_eq, h.accessorStem.upperFirst.delimiters_eq,
    Text.isDelimiter, Text.closer?, Text.isCloser]

theorem nested_cellSteps : Nested (cellSteps subject) :=
  nested_whenIdentified fun awaited => by
    simp [delimiters_identifier h h.cellIdentifier, h.accessorStem.delimiters_eq, Text.isDelimiter,
      Text.closer?, Text.isCloser]

theorem nested_aggregateSteps : Nested (aggregateSteps subject) := by
  have hlist := nesting_accessors h (by decide : Balanced "(at: index): status")
  intro awaited
  simp only [aggregateSteps, List.flatMap_cons, Step.delimiters, Text.nesting_append, hlist,
    Option.bind_some]
  simp [h.accessorStem.delimiters_eq, Text.isDelimiter, Text.closer?, Text.isCloser]

theorem nested_checkSteps : Nested (checkSteps subject) := by
  intro awaited
  simp [checkSteps, h.accessorStem.delimiters_eq, h.accessorStem.upperFirst.delimiters_eq,
    Text.isDelimiter, Text.closer?, Text.isCloser]

theorem nested_cellTapSteps : Nested (cellTapSteps subject) :=
  nested_whenIdentified (nested_tapSteps h.accessorStem.upperFirst h.accessorStem)

theorem nested_implementationSteps : Nested (implementationSteps variant subject) := by
  have helements : Nested (subject.outlets.flatMap fun outlet =>
      elementSteps variant subject outlet ++ [.blank]) :=
    nested_flatMap fun outlet ho => nested_append (nested_elementSteps h ho) nested_nil.blank
  intro awaited
  unfold implementationSteps
  simp only [List.flatMap_append, Text.nesting_append, helements.nesting_eq,
    (nested_cellSteps h).nesting_eq, (nested_aggregateSteps h).nesting_eq,
    (nested_checkSteps h).nesting_eq, (nested_cellTapSteps h).nesting_eq,
    (nested_outletTapSteps h).nesting_eq]
  simp [delimiters_openings h, Text.isDelimiter, Text.closer?, Text.isCloser]

theorem balanced_fresh : Balanced (fresh variant subject).flatten :=
  (nested_append (nested_protocolSteps h) (nested_implementationSteps h).blank).balanced_compose

theorem balanced_extension : Balanced (extension variant subject).flatten := by
  have helements : Nested (separated (subject.outlets.map (elementSteps variant subject))) :=
    nested_separated (List.forall_mem_map.2 fun outlet ho => nested_elementSteps h ho)
  refine Nested.balanced_compose fun awaited => ?_
  simp only [List.flatMap_append]
  simp [helements.nesting_eq, (nested_outletTapSteps h).nesting_eq, delimiters_openings h,
    Text.isDelimiter, Text.closer?, Text.isCloser]

end Cell

/-! ### Screens -/

namespace Screen

theorem nested_tapSteps {visibility : Text} (hv : Lacks .delimiters visibility) {outlet : Outlet}
    (ho : Lacks .delimiters outlet.name) : Nested (tapSteps visibility outlet) := by
  intro awaited
  simp [tapSteps, hv.delimiters_eq, ho.delimiters_eq, ho.upperFirst.delimiters_eq, Text.isDelimiter,
    Text.closer?, Text.isCloser]

theorem nested_propertySteps {declaration value : Text} (hd : Lacks .delimiters declaration)
    (hv : Balanced value) : Nested (propertySteps declaration value) := by
  intro awaited
  simp [propertySteps, hd.delimiters_eq, Text.nesting_delimiters, hv.nesting_eq, Text.isDelimiter,
    Text.closer?, Text.isCloser]

variable (h : subject.Lacks .delimiters)
include h

theorem balanced_inlineElement {outlet : Outlet} (ho : outlet ∈ subject.outlets) :
    Balanced (inlineElement variant outlet) := by
  rw [← Text.balanced_delimiters_iff, Text.balanced_iff_nesting]
  simp [inlineElement, delimiters_query, (h.outlets outlet ho).delimiters_eq, Text.isDelimiter,
    Text.closer?, Text.isCloser]

theorem lacks_screenName : Lacks .delimiters (screenName subject) :=
  h.screenStem.append (by decide)

theorem nesting_waitStep (awaited : List Char) :
    nesting awaited (waitStep subject).delimiters = some awaited := by
  have hspaces : Lacks .delimiters (List.replicate waitOpening.length ' ') := fun c hc => by
    rw [List.eq_of_mem_replicate hc]
    decide
  refine Draft.nesting_bracketed hspaces.balanced ?_ (by decide) awaited
  simp only [List.forall_mem_map]
  exact fun outlet ho => ((h.outlets outlet ho).append (by decide)).balanced

theorem nested_inlineTapSteps : Nested (inlineTapSteps variant subject) :=
  nested_flatMap fun outlet ho =>
    (nested_tapSteps (by decide) (h.outlets outlet (List.mem_of_mem_filter ho))).blank

theorem nested_splitTapSteps : Nested (splitTapSteps variant subject) :=
  nested_separated (List.forall_mem_map.2 fun outlet ho =>
    nested_tapSteps (by decide) (h.outlets outlet (List.mem_of_mem_filter ho)))

theorem balanced_inlinePage : Balanced (inlinePage variant subject).flatten := by
  have helements : Nested (subject.outlets.map fun outlet =>
      .line 1 ("lazy var " ++ outlet.name ++ " = " ++ inlineElement variant outlet)) :=
    nested_map fun outlet ho awaited => by
      simp [(h.outlets outlet ho).delimiters_eq, Text.nesting_delimiters,
        (balanced_inlineElement h ho).nesting_eq, Text.isDelimiter, Text.closer?, Text.isCloser]
  refine Nested.balanced_compose fun awaited => ?_
  simp only [List.flatMap_append, List.flatMap_cons, Text.nesting_append, nesting_waitStep h,
    helements.nesting_eq, (nested_inlineTapSteps h).nesting_eq]
  simp [h.className.delimiters_eq, h.screenStem.delimiters_eq, Text.isDelimiter, Text.closer?,
    Text.isCloser]

theorem balanced_splitScreen : Balanced (splitScreen variant subject).flatten := by
  have helements : Nested (subject.outlets.map fun outlet =>
      .line 1 ("private lazy var " ++ outlet.name ++ " = " ++
        lookup variant subject .app outlet)) :=
    nested_map fun outlet ho awaited => by
      have hlookup : Balanced (lookup variant subject .app outlet) :=
        balanced_lookup h (by decide) ho
      simp [(h.outlets outlet ho).delimiters_eq, Text.nesting_delimiters, hlookup.nesting_eq,
        Text.isDelimiter, Text.closer?, Text.isCloser]
  refine Nested.balanced_compose fun awaited => ?_
  simp only [List.flatMap_append, List.flatMap_cons, Text.nesting_append, nesting_waitStep h,
    helements.nesting_eq, (nested_splitTapSteps h).nesting_eq]
  simp [(lacks_screenName h).delimiters_eq, Text.isDelimiter, Text.closer?, Text.isCloser]

theorem balanced_inlineExtension : Balanced (inlineExtension variant subject).flatten := by
  have helements : Nested (subject.outlets.flatMap fun outlet =>
      propertySteps ("var " ++ outlet.name) (inlineElement variant outlet)) :=
    nested_flatMap fun outlet ho =>
      nested_propertySteps (.append (by decide) (h.outlets outlet ho)) (balanced_inlineElement h ho)
  refine Nested.balanced_compose fun awaited => ?_
  simp only [List.flatMap_append, Text.nesting_append, helements.nesting_eq,
    (nested_inlineTapSteps h).nesting_eq]
  simp [h.screenStem.delimiters_eq, Text.isDelimiter, Text.closer?, Text.isCloser]

theorem nested_splitActionSteps : Nested (splitActionSteps variant subject) := by
  unfold splitActionSteps
  split_ifs
  · exact nested_nil
  · intro awaited
    simp only [List.flatMap_append, Text.nesting_append, (nested_splitTapSteps h).nesting_eq]
    simp [(lacks_screenName h).delimiters_eq, Text.isDelimiter, Text.closer?, Text.isCloser]

theorem balanced_splitExtension : Balanced (splitExtension variant subject).flatten := by
  have helements : Nested (subject.outlets.flatMap fun outlet =>
      propertySteps ("private var " ++ outlet.name) (lookup variant subject .app outlet)) :=
    nested_flatMap fun outlet ho =>
      nested_propertySteps (.append (by decide) (h.outlets outlet ho))
        (balanced_lookup h (by decide) ho)
  refine Nested.balanced_compose fun awaited => ?_
  simp only [List.flatMap_append, Text.nesting_append, helements.nesting_eq,
    (nested_splitActionSteps h).nesting_eq]
  simp [(lacks_screenName h).delimiters_eq, Text.isDelimiter, Text.closer?, Text.isCloser]

end Screen

/-! ### Blocks -/

section Block

variable (h : subject.Lacks .delimiters)
include h

theorem balanced_fresh : Balanced (fresh variant subject).flatten := by
  unfold fresh
  split
  · exact View.balanced_fresh h
  · unfold Screen.fresh
    split
    · exact Screen.balanced_inlinePage h
    · exact Screen.balanced_splitScreen h
  · exact Cell.balanced_fresh h

theorem balanced_extension : Balanced (extension variant subject).flatten := by
  unfold extension
  split
  · exact View.balanced_extension h
  · unfold Screen.extension
    split
    · exact Screen.balanced_inlineExtension h
    · exact Screen.balanced_splitExtension h
  · exact Cell.balanced_extension h

omit h in
theorem balanced_header (hm : ∀ module ∈ variant.viewModules, Lacks .delimiters module) :
    Balanced (header variant subject).flatten := by
  have hmodules : Nested ((modules variant subject.viewKind).map fun module =>
      .line 0 ("import " ++ module)) := by
    refine nested_map fun module hmem awaited => ?_
    have hmodule : Lacks .delimiters module := by
      cases hk : subject.viewKind with
      | view => exact hm module (by simpa [modules, hk] using hmem)
      | viewController => simp [modules, hk] at hmem
      | cell => simp [modules, hk] at hmem
    simp [hmodule.delimiters_eq, Text.isDelimiter, Text.closer?, Text.isCloser]
  refine Nested.balanced_compose (Nested.blank ?_)
  split_ifs
  · exact nested_nil
  · refine nested_append (nested_append ?_ hmodules) nested_nil.blank
    intro awaited
    simp [Text.isDelimiter, Text.closer?, Text.isCloser]

theorem balanced_block (hm : ∀ module ∈ variant.viewModules, Lacks .delimiters module) :
    Balanced (block variant subject).flatten := by
  rw [block, List.flatten_append]
  refine (balanced_header hm).append ?_
  split_ifs
  · exact balanced_extension h
  · exact balanced_fresh h

end Block

end Page

/-! ## Everything written -/

/-- All that is ever written for a subject, in a first run or a later one. -/
def written (variant : Variant) (subject : Subject) : List Lines :=
  [Identifiers.setterBlock subject, Identifiers.enumBlock subject, Identifiers.caseLines subject,
    Page.fresh variant subject, Page.extension variant subject, Page.block variant subject] ++
  subject.outlets.map Identifiers.bindingLines

/-- Whatever is written for a subject is well nested, and can be put into any file at any line or
added at its end: what is open in the file stays open, and what is mismatched in it stays so. -/
theorem written_well_nested {variant : Variant} {subject : Subject} (h : subject.Lacks .delimiters)
    (hm : ∀ module ∈ variant.viewModules, Lacks .delimiters module) {block : Lines}
    (hb : block ∈ written variant subject) :
    Balanced block.flatten ∧ ∀ (awaited : List Char) (lines : Lines),
      (∀ index, nesting awaited (lines.insertBlock index block).toText =
        nesting awaited lines.toText) ∧
      nesting awaited (lines.appendBlock block).toText = nesting awaited lines.toText := by
  have hbalanced : ∀ block ∈ written variant subject, Balanced block.flatten := by
    simp only [written, List.forall_mem_append, List.forall_mem_cons, List.forall_mem_map,
      List.not_mem_nil, false_implies, implies_true, and_true]
    exact ⟨⟨Identifiers.balanced_setterBlock h, Identifiers.balanced_enumBlock h,
      Identifiers.balanced_caseLines h, Page.balanced_fresh h, Page.balanced_extension h,
      Page.balanced_block h hm⟩, fun outlet ho => Identifiers.balanced_bindingLines h ho⟩
  have hblock := hbalanced block hb
  exact ⟨hblock, fun awaited lines => ⟨Lines.nesting_insertBlock hblock awaited lines,
    Lines.nesting_appendBlock hblock awaited lines⟩⟩

theorem written_well_nested_searchCell :
    (Subject.searchCell false).Lacks .delimiters ∧
      Page.block .dev (.searchCell false) ∈ written .dev (.searchCell false) ∧
      Balanced (Page.block .dev (.searchCell false)).flatten ∧
      ∀ (awaited : List Char) (lines : Lines),
        (∀ index, nesting awaited
          (lines.insertBlock index (Page.block .dev (.searchCell false))).toText =
            nesting awaited lines.toText) ∧
        nesting awaited (lines.appendBlock (Page.block .dev (.searchCell false))).toText =
          nesting awaited lines.toText := by
  have hnames : (Subject.searchCell false).Lacks .delimiters := ⟨by decide, by decide, by decide⟩
  have hmem : Page.block .dev (.searchCell false) ∈ written .dev (.searchCell false) := by
    simp [written]
  exact ⟨hnames, hmem, written_well_nested hnames (by decide) hmem⟩

end OutletWiring
