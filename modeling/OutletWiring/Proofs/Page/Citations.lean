import OutletWiring.Proofs.Line.Citation
import OutletWiring.Proofs.Page.Block
import OutletWiring.Proofs.Punctuation

/-!
# Cases that a page object cites

A page object cites the case of each outlet once, in the order of the outlets, and that of a cell
before them. Nothing else in it can be taken for a citation.
-/

namespace OutletWiring

open Line (Plain Silent cited)
open Text (Lacks)

/-- The punctuation by which a case is cited, bound and declared. -/
def Punctuation.ofCases : Punctuation where
  holds c := c == '.' || c == '(' || c == ')' || c == ',' || c == '\n'
  isSign := by
    intro c h
    simp only [Bool.or_eq_true, beq_iff_eq] at h
    rcases h with (((rfl | rfl) | rfl) | rfl) | rfl <;> decide

namespace Text

variable {text : Text} (h : Lacks .ofCases text)
include h

theorem Lacks.silent : Silent text :=
  Line.silent_of_not_mem (h.not_mem (by decide))

theorem Lacks.getLast?_ne : text.getLast? ≠ some '.' ∧ text.getLast? ≠ some '(' :=
  ⟨fun hl => h.not_mem (by decide) (List.mem_of_getLast? hl),
    fun hl => h.not_mem (by decide) (List.mem_of_getLast? hl)⟩

end Text

namespace Draft

structure Step.Silent (step : Step) : Prop where
  whole : step.whole = true
  cited_eq : step.rows.flatMap cited = []

theorem Step.silent_blank : Step.Silent .blank :=
  ⟨rfl, by simpa [Step.rows] using Line.silent_nil.cited_row 0⟩

theorem Step.silent_line {level : Nat} {text : Text} (h : Line.Silent text) :
    Step.Silent (.line level text) :=
  ⟨rfl, by simpa [Step.rows] using h.cited_row level⟩

theorem silent_listed {opening continuation closing : Text} {entries : List Text}
    (ho : ∀ entry ∈ entries, Silent (opening ++ entry))
    (hc : ∀ entry ∈ entries, Silent (continuation ++ entry)) (hclosing : Silent closing)
    (hhead : closing.head? ≠ some '.' ∧ closing.head? ≠ some 'r') :
    ∀ text ∈ listed opening continuation closing entries, Silent text := by
  intro text htext
  fun_induction listed opening continuation closing entries with
  | case1 => cases htext
  | case2 opening entry =>
    rw [List.mem_singleton] at htext
    subst htext
    rw [Line.silent_append]
    exact ⟨ho entry (by simp), hclosing, fun _ => hhead.1, fun _ => hhead.2⟩
  | case3 opening entry entries _ ih =>
    rw [List.mem_cons] at htext
    rcases htext with rfl | htext
    · rw [Line.silent_append]
      exact ⟨ho entry (by simp), by decide, fun _ => by decide, fun _ => by decide⟩
    · exact ih (fun e he => hc e (by simp [he])) (fun e he => hc e (by simp [he])) htext

theorem Step.silent_list {level : Nat} {opening continuation closing : Text} {entries : List Text}
    (ho : ∀ entry ∈ entries, Line.Silent (opening ++ entry))
    (hc : ∀ entry ∈ entries, Line.Silent (continuation ++ entry)) (hclosing : Line.Silent closing)
    (hhead : closing.head? ≠ some '.' ∧ closing.head? ≠ some 'r') :
    Step.Silent (.list level opening entries continuation closing) := by
  refine ⟨rfl, List.flatMap_eq_nil_iff.2 fun line hline => ?_⟩
  obtain ⟨text, htext, rfl⟩ := List.mem_map.1 hline
  exact (silent_listed ho hc hclosing hhead text htext).cited_row level

/-- The steps lay out rows with these citations. -/
structure Cites (steps : List Step) (citations : List Citation) : Prop where
  whole : ∀ step ∈ steps, step.whole = true
  cited_eq : steps.flatMap (·.rows.flatMap cited) = citations

variable {step : Step} {steps front back : List Step} {citation : Citation}
  {citations others : List Citation}

theorem Cites.compose (h : Cites steps citations) : (compose steps).flatMap cited = citations := by
  rw [compose_eq_flatMap_rows h.whole, List.flatMap_assoc, h.cited_eq]

theorem cites_nil : Cites [] [] :=
  ⟨by simp, rfl⟩

theorem Cites.append (hf : Cites front citations) (hb : Cites back others) :
    Cites (front ++ back) (citations ++ others) :=
  ⟨List.forall_mem_append.2 ⟨hf.whole, hb.whole⟩, by
    rw [List.flatMap_append, hf.cited_eq, hb.cited_eq]⟩

theorem cites_silent (h : ∀ step ∈ steps, step.Silent) : Cites steps [] :=
  ⟨fun step hstep => (h step hstep).whole,
    List.flatMap_eq_nil_iff.2 fun step hstep => (h step hstep).cited_eq⟩

theorem Cites.append_silent (hf : Cites front citations) (hb : Cites back []) :
    Cites (front ++ back) citations := by
  simpa using hf.append hb

theorem Cites.silent_append (hf : Cites front []) (hb : Cites back citations) :
    Cites (front ++ back) citations :=
  hf.append hb

theorem Cites.blank (h : Cites steps citations) : Cites (.blank :: steps) citations := by
  have hblank : Cites [.blank] [] := cites_silent (by simp [Step.silent_blank])
  exact hblank.silent_append h

theorem cites_line {level : Nat} {text : Text} (h : cited (row level text) = [citation]) :
    Cites [.line level text] [citation] :=
  ⟨by simp [Step.whole], by simp [Step.rows, h]⟩

theorem cites_flatMap {α : Type} {items : List α} {steps : α → List Step} {citation : α → Citation}
    (h : ∀ item ∈ items, Cites (steps item) [citation item]) :
    Cites (items.flatMap steps) (items.map citation) := by
  induction items with
  | nil => exact cites_nil
  | cons item items ih =>
    exact (h item (by simp)).append (ih fun other hother => h other (by simp [hother]))

theorem cites_separated {α : Type} {items : List α} {steps : α → List Step}
    {citation : α → Citation} (h : ∀ item ∈ items, Cites (steps item) [citation item]) :
    Cites (Page.separated (items.map steps)) (items.map citation) := by
  induction items with
  | nil => exact cites_nil
  | cons item items ih =>
    have hitem := h item (by simp)
    have hrest := ih fun other hother => h other (by simp [hother])
    cases items with
    | nil => exact hitem
    | cons next items => exact hitem.append hrest.blank

theorem silent_separated {blocks : List (List Step)}
    (h : ∀ block ∈ blocks, ∀ step ∈ block, step.Silent) :
    ∀ step ∈ Page.separated blocks, step.Silent := by
  induction blocks with
  | nil => simp [Page.separated]
  | cons block blocks ih =>
    have hblock := h block (by simp)
    have hrest := ih fun other hother => h other (by simp [hother])
    cases blocks with
    | nil => exact hblock
    | cons next blocks =>
      exact List.forall_mem_append.2 ⟨hblock, List.forall_mem_cons.2 ⟨Step.silent_blank, hrest⟩⟩

end Draft

open Draft (Cites Step cites_flatMap cites_line cites_nil cites_separated cites_silent)

namespace Page

variable {variant : Variant} {subject : Subject}

/-- The case of an outlet, by its full name. -/
def fullCitation (subject : Subject) (outlet : Outlet) : Citation :=
  .full subject.enumName outlet.name

/-- The query of an element is followed by its identifier, in brackets or as an argument. -/
theorem lookup_eq (variant : Variant) (subject : Subject) (scope : Scope) (outlet : Outlet) :
    ∃ middle closing, Plain middle ∧ Plain (closing ++ ['\n']) ∧
      lookup variant subject scope outlet =
        scope.root ++ '.' :: (middle ++ (fullCitation subject outlet).text ++ closing) := by
  have hquery : ∀ kind : ElementKind, Plain (kind.query ++ "[") := by
    intro kind
    cases kind <;> decide
  unfold lookup
  split
  · refine ⟨"buttons.element(matching: .button, identifier: ", ")", by decide, by decide, ?_⟩
    show _ = scope.root ++ '.' :: (_ ++ identifier subject outlet.name ++ _)
    simp
  · refine ⟨_, "]", hquery (outlet.kind variant.prominentButton?), by decide, ?_⟩
    show _ = scope.root ++ '.' :: (_ ++ identifier subject outlet.name ++ _)
    simp

section Lacks

variable (h : subject.Lacks .ofCases)
include h

theorem cited_row_lookup {outlet : Outlet} (ho : outlet ∈ subject.outlets) {scope : Scope}
    (hr : '.' ∉ scope.root) {c : Char} (hl : scope.root.getLast? = some c) (hc : c ≠ '(' ∧ c ≠ 's')
    {front : Text} (hf : '.' ∉ front) (level : Nat) :
    cited (Draft.row level (front ++ lookup variant subject scope outlet)) =
      [fullCitation subject outlet] := by
  obtain ⟨middle, closing, hm, hclosing, heq⟩ := lookup_eq variant subject scope outlet
  have hrow : Draft.row level (front ++ lookup variant subject scope outlet) =
      (List.replicate level '\t' ++ front ++ scope.root) ++ '.' ::
        (middle ++ (fullCitation subject outlet).text ++ (closing ++ ['\n'])) := by
    simp [Draft.row, heq]
  have hname := h.outlets outlet ho
  have htabs : '.' ∉ List.replicate level '\t' := Line.not_mem_tabs (by decide) level
  rw [hrow]
  refine Line.cited_full (by simp [htabs, hf, hr]) ?_ hm hclosing
    ⟨h.enumName.not_mem (by decide), h.enumName.not_mem (by decide)⟩
    ⟨hname.not_mem (by decide), hname.not_mem (by decide)⟩
  rw [List.getLast?_append, hl]
  simpa using hc

theorem cited_row_lookup_app {outlet : Outlet} (ho : outlet ∈ subject.outlets) {front : Text}
    (hf : '.' ∉ front) (level : Nat) :
    cited (Draft.row level (front ++ lookup variant subject .app outlet)) =
      [fullCitation subject outlet] := by
  have happ : '.' ∉ Scope.app.root ∧ Scope.app.root.getLast? = some 'p' := by decide
  exact cited_row_lookup h ho happ.1 happ.2 (by decide) hf level

/-- The accessors in brackets, each with the same text after it. -/
theorem silent_accessorList {ending : Text} (he : Silent ending) (hh : ending.head? ≠ some 'r')
    {level : Nat} :
    Step.Silent (.list level "[" ((accessors subject).map (· ++ ending)) " " "]") := by
  have hentry : ∀ entry ∈ (accessors subject).map (· ++ ending), Silent entry := by
    simp only [accessors, List.map_map, List.forall_mem_map]
    intro outlet ho
    have haccessor := h.accessor ho
    simp [haccessor.silent, he, hh, haccessor.getLast?_ne]
  exact Step.silent_list (fun entry hmem => by simp [hentry entry hmem])
    (fun entry hmem => by simp [hentry entry hmem]) (by decide) (by decide)

end Lacks

/-! ## Views -/

namespace View

variable (h : subject.Lacks .ofCases)
include h

theorem cites_elementSteps :
    Cites (elementSteps variant subject) (subject.outlets.map (fullCitation subject)) := by
  refine cites_flatMap fun outlet ho => ?_
  have hopening : Cites [.line 1 ("var " ++ accessor subject outlet ++ ": XCUIElement \x7b")] [] :=
    cites_silent (by simp [Step.silent_line, (h.accessor ho).silent])
  have hclosing : Cites [.line 1 "\x7d"] [] :=
    cites_silent (by simp [Step.silent_line])
  have hlookup : Cites [.line 2 (lookup variant subject .app outlet)]
      [fullCitation subject outlet] :=
    cites_line (cited_row_lookup_app h ho List.not_mem_nil 2)
  exact hopening.silent_append (hlookup.append_silent hclosing)

theorem silent_tapSteps : ∀ step ∈ tapSteps variant subject, step.Silent := by
  refine List.forall_mem_flatMap.2 fun outlet ho => ?_
  have haccessor := h.accessor (List.mem_of_mem_filter ho)
  simp [Step.silent_line, Step.silent_blank, haccessor.silent, haccessor.upperFirst.silent]

theorem silent_protocolSteps : ∀ step ∈ protocolSteps variant subject, step.Silent := by
  have hbase : Silent variant.pageStyle.viewBase := by
    cases variant.pageStyle <;> decide
  have hrequirement : ∀ step ∈ requirementSteps subject, step.Silent := by
    simp only [requirementSteps, accessors, List.map_map, List.forall_mem_map]
    exact fun outlet ho => Step.silent_line (by simp [(h.accessor ho).silent])
  unfold protocolSteps protocolOpening
  simp only [List.forall_mem_append]
  refine ⟨⟨?_, hrequirement⟩, ?_⟩
  · simp [Step.silent_line, h.className.silent, hbase]
  · simp [Step.silent_line, Step.silent_blank, h.accessorStem.silent,
      h.accessorStem.upperFirst.silent]

theorem silent_aggregateSteps : ∀ step ∈ aggregateSteps subject, step.Silent := by
  unfold aggregateSteps
  simp only [List.forall_mem_cons]
  exact ⟨Step.silent_blank, Step.silent_line (by decide),
    Step.silent_line (by simp [h.accessorStem.silent]), silent_accessorList h (by decide) (by decide),
    Step.silent_line (by decide), by simp⟩

theorem silent_checkSteps : ∀ step ∈ checkSteps subject, step.Silent := by
  simp [checkSteps, Step.silent_line, Step.silent_blank, h.accessorStem.silent,
    h.accessorStem.upperFirst.silent]

theorem silent_extensionOpening : Step.Silent (.line 0 (extensionOpening subject.className)) := by
  refine Step.silent_line ?_
  unfold extensionOpening
  simp [h.className.silent]

theorem cites_implementationSteps : Cites (implementationSteps variant subject)
    (subject.outlets.map (fullCitation subject)) := by
  have hopening := silent_extensionOpening h
  unfold implementationSteps
  exact (((((cites_silent (by simpa using hopening)).silent_append (cites_elementSteps h)).append_silent
    (cites_silent (silent_aggregateSteps h))).append_silent
      (cites_silent (silent_checkSteps h))).append_silent
        (cites_silent (silent_tapSteps h))).append_silent (cites_silent (by simp [Step.silent_line]))

theorem cited_fresh :
    (fresh variant subject).flatMap cited = subject.outlets.map (fullCitation subject) :=
  ((cites_silent (silent_protocolSteps h)).silent_append
    (cites_implementationSteps h).blank).compose

theorem cited_extension :
    (extension variant subject).flatMap cited = subject.outlets.map (fullCitation subject) := by
  have hopening := silent_extensionOpening h
  exact ((((cites_silent (by simpa using hopening)).silent_append (cites_elementSteps h)).append_silent
    (cites_silent (silent_tapSteps h))).append_silent
      (cites_silent (by simp [Step.silent_line]))).compose

end View

/-! ## Cells -/

namespace Cell

variable (h : subject.Lacks .ofCases)

theorem silent_tapSteps {name element : Text} (hn : Lacks .ofCases name)
    (he : Lacks .ofCases element) : ∀ step ∈ tapSteps name element, step.Silent := by
  simp [tapSteps, Step.silent_line, Step.silent_blank, hn.silent, he.silent]

theorem silent_whenIdentified {steps : List Step} (hs : ∀ step ∈ steps, step.Silent) :
    ∀ step ∈ whenIdentified subject steps, step.Silent := by
  unfold whenIdentified
  split_ifs
  · exact hs
  · simp

include h

theorem cited_row_lookup_cell {outlet : Outlet} (ho : outlet ∈ subject.outlets) :
    cited (Draft.row 2 (lookup variant subject (.cell subject.accessorStem) outlet)) =
      [fullCitation subject outlet] := by
  have hroot : '.' ∉ (Scope.cell subject.accessorStem).root ∧
      (Scope.cell subject.accessorStem).root.getLast? = some ')' := by
    show '.' ∉ subject.accessorStem ++ "(at: index)".toList ∧
      (subject.accessorStem ++ "(at: index)".toList).getLast? = some ')'
    have hdot : '.' ∉ subject.accessorStem := h.accessorStem.not_mem (by decide)
    simp [hdot]
  exact cited_row_lookup h ho hroot.1 hroot.2 (by decide) List.not_mem_nil 2

theorem cites_elementSteps {outlet : Outlet} (ho : outlet ∈ subject.outlets) :
    Cites (elementSteps variant subject outlet) [fullCitation subject outlet] := by
  have hopening : Cites [.line 1 ("func " ++ accessor subject outlet ++
      "(at index: Int = 0) -> XCUIElement \x7b")] [] :=
    cites_silent (by simp [Step.silent_line, (h.accessor ho).silent])
  have hclosing : Cites [.line 1 "\x7d"] [] := cites_silent (by simp [Step.silent_line])
  exact hopening.silent_append ((cites_line (cited_row_lookup_cell h ho)).append_silent hclosing)

theorem cited_row_cell : cited (Draft.row 2 ("app.cells[String(format: " ++
    identifier subject subject.cellIdentifier ++ " + \"_%d\", index)].firstMatch")) =
    [.full subject.enumName subject.cellIdentifier] := by
  have hcell := h.cellIdentifier
  have hrow : Draft.row 2 ("app.cells[String(format: " ++
      identifier subject subject.cellIdentifier ++ " + \"_%d\", index)].firstMatch") =
      ("\t\tapp" : Text) ++ '.' :: (("cells[String(format: " : Text) ++
        (Citation.full subject.enumName subject.cellIdentifier).text ++
          (" + \"_%d\", index)].firstMatch\n" : Text)) := by
    show _ = _ ++ '.' :: (_ ++ identifier subject subject.cellIdentifier ++ _)
    simp [Draft.row]
  rw [hrow]
  exact Line.cited_full (by decide) (by decide) (by decide) (by decide)
    ⟨h.enumName.not_mem (by decide), h.enumName.not_mem (by decide)⟩
    ⟨hcell.not_mem (by decide), hcell.not_mem (by decide)⟩

/-- What is written for the cell itself cites its identifier. -/
theorem cites_cellSteps : Cites (cellSteps subject)
    (if subject.identifiesCell then [.full subject.enumName subject.cellIdentifier] else []) := by
  unfold cellSteps whenIdentified
  split_ifs
  · have hopening : Cites [.line 1 ("func " ++ subject.accessorStem ++
        "(at index: Int) -> XCUIElement \x7b")] [] :=
      cites_silent (by simp [Step.silent_line, h.accessorStem.silent])
    have hclosing : Cites [.line 1 "\x7d", .blank] [] :=
      cites_silent (by simp [Step.silent_line, Step.silent_blank])
    exact hopening.silent_append ((cites_line (cited_row_cell h)).append_silent hclosing)
  · exact cites_nil

theorem silent_outletTapSteps : ∀ step ∈ outletTapSteps variant subject, step.Silent :=
  List.forall_mem_flatMap.2 fun outlet ho =>
    have hmem := List.mem_of_mem_filter ho
    silent_tapSteps (h.outlets outlet hmem).upperFirst (h.accessor hmem)

theorem silent_cellTapSteps : ∀ step ∈ cellTapSteps subject, step.Silent :=
  silent_whenIdentified (silent_tapSteps h.accessorStem.upperFirst h.accessorStem)

theorem silent_openings (style : PageStyle) :
    Silent (protocolOpening style subject.className) ∧
      Silent (implementationOpening style subject.className) ∧
      Silent (extensionOpening style subject.className) := by
  have hbase : Silent style.cellBase := by cases style <;> decide
  unfold protocolOpening implementationOpening extensionOpening
  cases style <;> simp [hbase, h.className.silent, h.className.getLast?_ne]

theorem silent_protocolSteps : ∀ step ∈ protocolSteps variant subject, step.Silent := by
  have hcell : ∀ step ∈ cellRequirementSteps subject, step.Silent :=
    silent_whenIdentified (by simp [Step.silent_line, h.accessorStem.silent])
  have hrequirement : ∀ step ∈ requirementSteps subject, step.Silent := by
    simp only [requirementSteps, accessors, List.map_map, List.forall_mem_map]
    exact fun outlet ho => Step.silent_line (by simp [(h.accessor ho).silent])
  unfold protocolSteps
  simp only [List.forall_mem_append]
  refine ⟨⟨⟨?_, hcell⟩, hrequirement⟩, ?_⟩
  · simp [Step.silent_line, silent_openings h]
  · simp [Step.silent_line, h.accessorStem.silent, h.accessorStem.upperFirst.silent]

theorem silent_aggregateSteps : ∀ step ∈ aggregateSteps subject, step.Silent := by
  unfold aggregateSteps
  simp only [List.forall_mem_cons]
  exact ⟨Step.silent_line (by decide), Step.silent_line (by simp [h.accessorStem.silent]),
    silent_accessorList h (by decide) (by decide), Step.silent_line (by decide), Step.silent_blank,
    by simp⟩

theorem silent_checkSteps : ∀ step ∈ checkSteps subject, step.Silent := by
  simp [checkSteps, Step.silent_line, h.accessorStem.silent, h.accessorStem.upperFirst.silent]

theorem cites_implementationSteps : Cites (implementationSteps variant subject)
    ((if subject.identifiesCell then [.full subject.enumName subject.cellIdentifier] else []) ++
      subject.outlets.map (fullCitation subject)) := by
  have hopening : Cites [.line 0 (implementationOpening variant.pageStyle subject.className)] [] :=
    cites_silent (by simp [Step.silent_line, silent_openings h])
  have helements : Cites (subject.outlets.flatMap fun outlet =>
      elementSteps variant subject outlet ++ [.blank])
      (subject.outlets.map (fullCitation subject)) :=
    cites_flatMap fun outlet ho =>
      (cites_elementSteps h ho).append_silent (cites_silent (by simp [Step.silent_blank]))
  unfold implementationSteps
  exact ((((((hopening.silent_append (cites_cellSteps h)).append helements).append_silent
    (cites_silent (silent_aggregateSteps h))).append_silent
      (cites_silent (silent_checkSteps h))).append_silent
        (cites_silent (silent_cellTapSteps h))).append_silent
          (cites_silent (silent_outletTapSteps h))).append_silent
            (cites_silent (by simp [Step.silent_line]))

theorem cited_fresh : (fresh variant subject).flatMap cited =
    (if subject.identifiesCell then [.full subject.enumName subject.cellIdentifier] else []) ++
      subject.outlets.map (fullCitation subject) :=
  ((cites_silent (silent_protocolSteps h)).silent_append
    (cites_implementationSteps h).blank).compose

theorem cited_extension :
    (extension variant subject).flatMap cited = subject.outlets.map (fullCitation subject) := by
  have hopening : Cites [.line 0 (extensionOpening variant.pageStyle subject.className)] [] :=
    cites_silent (by simp [Step.silent_line, silent_openings h])
  have helements : Cites (separated (subject.outlets.map (elementSteps variant subject)))
      (subject.outlets.map (fullCitation subject)) :=
    cites_separated fun outlet ho => cites_elementSteps h ho
  exact (((hopening.silent_append helements).append_silent
    (cites_silent (silent_outletTapSteps h))).append_silent
      (cites_silent (by simp [Step.silent_line]))).compose

end Cell

/-! ## Screens -/

namespace Screen

def shortCitation (outlet : Outlet) : Citation :=
  .short outlet.name

theorem silent_tapSteps {visibility : Text} (hv : Silent visibility ∧ visibility.getLast? ≠ some '.')
    {outlet : Outlet} (ho : Lacks .ofCases outlet.name) :
    ∀ step ∈ tapSteps visibility outlet, step.Silent := by
  simp [tapSteps, Step.silent_line, hv, ho.silent, ho.upperFirst.silent]

variable (h : subject.Lacks .ofCases)
include h

theorem cited_row_inlineElement {outlet : Outlet} (ho : outlet ∈ subject.outlets) {front : Text}
    (hf : '.' ∉ front) (level : Nat) :
    cited (Draft.row level (front ++ inlineElement variant outlet)) = [shortCitation outlet] := by
  have hname := h.outlets outlet ho
  have hconstructor : '.' ∉ (outlet.kind variant.prominentButton?).constructorName := by
    cases outlet.kind variant.prominentButton? <;> decide
  have htabs : '.' ∉ List.replicate level '\t' := Line.not_mem_tabs (by decide) level
  have hrow : Draft.row level (front ++ inlineElement variant outlet) =
      (List.replicate level '\t' ++ front ++
        (outlet.kind variant.prominentButton?).constructorName) ++
          (shortCitation outlet).text ++ ['\n'] := by
    show _ = _ ++ ("(." ++ outlet.name ++ ")" : Text) ++ _
    simp [Draft.row, inlineElement]
  rw [hrow]
  exact Line.cited_short (by simp [htabs, hf, hconstructor]) (by decide)
    ⟨hname.not_mem (by decide), hname.not_mem (by decide)⟩

theorem silent_waitStep : (waitStep subject).Silent := by
  have hentry : ∀ entry ∈ subject.outlets.map fun outlet => outlet.name ++ ": .exist".toList,
      Silent entry := by
    simp only [List.forall_mem_map]
    exact fun outlet ho => by simp [(h.outlets outlet ho).silent]
  have hopening : Silent waitOpening ∧ waitOpening.getLast? = some '[' := by decide
  have hspaces : '.' ∉ List.replicate waitOpening.length ' ' ∧
      '(' ∉ List.replicate waitOpening.length ' ' := by decide
  have hlast : ∀ c : Char, c ∉ List.replicate waitOpening.length ' ' →
      (List.replicate waitOpening.length ' ').getLast? ≠ some c :=
    fun c hc hl => hc (List.mem_of_getLast? hl)
  refine Step.silent_list (fun entry he => ?_) (fun entry he => ?_) (by decide) (by decide)
  · simp [hopening, hentry entry he]
  · rw [Line.silent_append]
    exact ⟨Line.silent_of_not_mem hspaces.1, hentry entry he,
      fun hl => absurd hl (hlast _ hspaces.2), fun hl => absurd hl (hlast _ hspaces.1)⟩

theorem silent_inlineTapSteps : ∀ step ∈ inlineTapSteps variant subject, step.Silent :=
  List.forall_mem_flatMap.2 fun outlet ho => List.forall_mem_cons.2 ⟨Step.silent_blank,
    silent_tapSteps (by decide) (h.outlets outlet (List.mem_of_mem_filter ho))⟩

theorem silent_splitTapSteps : ∀ step ∈ splitTapSteps variant subject, step.Silent :=
  Draft.silent_separated (List.forall_mem_map.2 fun outlet ho =>
    silent_tapSteps (by decide) (h.outlets outlet (List.mem_of_mem_filter ho)))

theorem silent_screenName : Silent (screenName subject) := by
  simp [screenName, h.screenStem.silent]

theorem cited_inlinePage :
    (inlinePage variant subject).flatMap cited = subject.outlets.map shortCitation := by
  have hfront : ∀ step ∈ [Step.line 0 ("// MARK: - " ++ subject.className),
      .line 0 ("final class " ++ subject.screenStem ++ "Page: BaseScreen \x7b")], step.Silent := by
    simp [Step.silent_line, h.className.silent, h.screenStem.silent]
  have helements : Cites (subject.outlets.map fun outlet =>
      .line 1 ("lazy var " ++ outlet.name ++ " = " ++ inlineElement variant outlet))
      (subject.outlets.map shortCitation) := by
    rw [List.map_eq_flatMap]
    refine cites_flatMap fun outlet ho => cites_line (cited_row_inlineElement h ho ?_ 1)
    simp [(h.outlets outlet ho).not_mem (show Punctuation.ofCases.holds '.' = true by decide)]
  have hcheck : ∀ step ∈ [Step.blank, .line 1 "@discardableResult",
      .line 1 "func checkElements() -> Self \x7b", waitStep subject, .line 2 "return self",
      .line 1 "\x7d"], step.Silent := by
    simp [Step.silent_line, Step.silent_blank, silent_waitStep h]
  exact ((((cites_silent hfront).silent_append helements).append_silent
    (cites_silent hcheck)).append_silent
      (cites_silent (silent_inlineTapSteps h))).append_silent
        (cites_silent (by simp [Step.silent_line])) |>.compose

theorem cited_splitScreen :
    (splitScreen variant subject).flatMap cited = subject.outlets.map (fullCitation subject) := by
  have hname := silent_screenName h
  have helements : Cites (subject.outlets.map fun outlet =>
      .line 1 ("private lazy var " ++ outlet.name ++ " = " ++ lookup variant subject .app outlet))
      (subject.outlets.map (fullCitation subject)) := by
    rw [List.map_eq_flatMap]
    refine cites_flatMap fun outlet ho => cites_line (cited_row_lookup_app h ho ?_ 1)
    simp [(h.outlets outlet ho).not_mem (show Punctuation.ofCases.holds '.' = true by decide)]
  exact (((((cites_silent (by simp [Step.silent_line, hname])).silent_append helements).append_silent
    (cites_silent (by simp [Step.silent_line, Step.silent_blank, hname, silent_waitStep h]))).append_silent
      (cites_silent (silent_splitTapSteps h))).append_silent
        (cites_silent (by simp [Step.silent_line]))).compose

theorem cites_properties {declaration : Text} (hd : '.' ∉ declaration) {value : Outlet → Text}
    {citation : Outlet → Citation}
    (hv : ∀ outlet ∈ subject.outlets, cited (Draft.row 2 (value outlet)) = [citation outlet]) :
    Cites (subject.outlets.flatMap fun outlet =>
      propertySteps (declaration ++ outlet.name) (value outlet)) (subject.outlets.map citation) := by
  refine cites_flatMap fun outlet ho => ?_
  have hname : '.' ∉ outlet.name := (h.outlets outlet ho).not_mem (by decide)
  have hopening : Cites [.line 1 (declaration ++ outlet.name ++ ": XCUIElement \x7b")] [] :=
    cites_silent (List.forall_mem_singleton.2
      (Step.silent_line (Line.silent_of_not_mem (by simp [hd, hname]))))
  have hclosing : Cites [.line 1 "\x7d"] [] := cites_silent (by simp [Step.silent_line])
  exact hopening.silent_append ((cites_line (hv outlet ho)).append_silent hclosing)

theorem cited_inlineExtension :
    (inlineExtension variant subject).flatMap cited = subject.outlets.map shortCitation := by
  have helements : Cites (subject.outlets.flatMap fun outlet =>
      propertySteps ("var " ++ outlet.name) (inlineElement variant outlet))
      (subject.outlets.map shortCitation) :=
    cites_properties h (by decide) fun outlet ho =>
      cited_row_inlineElement h ho List.not_mem_nil 2
  exact ((((cites_silent (by simp [Step.silent_line, h.screenStem.silent])).silent_append
    helements).append_silent (cites_silent (silent_inlineTapSteps h))).append_silent
      (cites_silent (by simp [Step.silent_line]))).compose

theorem silent_splitActionSteps : ∀ step ∈ splitActionSteps variant subject, step.Silent := by
  unfold splitActionSteps
  split_ifs
  · simp
  · simp only [List.forall_mem_append]
    exact ⟨⟨by simp [Step.silent_line, Step.silent_blank, silent_screenName h],
      silent_splitTapSteps h⟩, by simp [Step.silent_line]⟩

theorem cited_splitExtension :
    (splitExtension variant subject).flatMap cited =
      subject.outlets.map (fullCitation subject) := by
  have helements : Cites (subject.outlets.flatMap fun outlet =>
      propertySteps ("private var " ++ outlet.name) (lookup variant subject .app outlet))
      (subject.outlets.map (fullCitation subject)) :=
    cites_properties h (by decide) fun outlet ho => cited_row_lookup_app h ho List.not_mem_nil 2
  exact ((((cites_silent (by simp [Step.silent_line, silent_screenName h])).silent_append
    helements).append_silent (cites_silent (by simp [Step.silent_line]))).append_silent
      (cites_silent (silent_splitActionSteps h))).compose

end Screen

/-! ## Every page object -/

/-- How the page object of the subject cites the case of an outlet. -/
def citation (variant : Variant) (subject : Subject) : Outlet → Citation :=
  if subject.viewKind = .viewController ∧ variant.pageStyle = .inline then Screen.shortCitation
  else fullCitation subject

section Block

variable (h : subject.Lacks .ofCases)
include h

/-- The case of a cell is cited first, then that of each outlet. -/
theorem cited_fresh : (fresh variant subject).flatMap cited =
    (if subject.identifiesCell then [.full subject.enumName subject.cellIdentifier] else []) ++
      subject.outlets.map (citation variant subject) := by
  unfold fresh Screen.fresh
  cases hk : subject.viewKind with
  | view => simpa [Subject.identifiesCell, citation, hk] using View.cited_fresh h
  | viewController =>
    cases hs : variant.pageStyle with
    | inline => simpa [Subject.identifiesCell, citation, hk, hs] using Screen.cited_inlinePage h
    | screenSplit =>
      simpa [Subject.identifiesCell, citation, hk, hs] using Screen.cited_splitScreen h
  | cell => simpa [citation, hk] using Cell.cited_fresh h

theorem cited_extension :
    (extension variant subject).flatMap cited = subject.outlets.map (citation variant subject) := by
  unfold extension Screen.extension
  cases hk : subject.viewKind with
  | view => simpa [citation, hk] using View.cited_extension h
  | viewController =>
    cases hs : variant.pageStyle with
    | inline => simpa [citation, hk, hs] using Screen.cited_inlineExtension h
    | screenSplit => simpa [citation, hk, hs] using Screen.cited_splitExtension h
  | cell => simpa [citation, hk] using Cell.cited_extension h

end Block

end Page

end OutletWiring
