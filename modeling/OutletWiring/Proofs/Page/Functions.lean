import OutletWiring.Proofs.Page.Functions.Cell
import OutletWiring.Proofs.Page.Functions.Screen
import OutletWiring.Proofs.Page.Functions.View

/-!
# Functions of a page object

Every function that a page object declares or calls is named for the subject or for the test
framework. A line of a page object is taken for a binding only if one of the names of the subject's
functions ends in that of the binding function, and then it is.
-/

namespace OutletWiring.Page

open Line (bindingName)

variable {variant : Variant} {subject : Subject}

/-- The functions that give elements, each with the one of the cell that it starts at. -/
def elementFunctions (subject : Subject) : List Text :=
  match subject.viewKind with
  | .cell => subject.outlets.flatMap fun outlet => [accessor subject outlet, subject.accessorStem]
  | _ => []

def tapFunctions (variant : Variant) (subject : Subject) : List Text :=
  (tappable variant subject).map fun outlet => "tap" ++ tapName subject outlet

def checkFunctions (style : PageStyle) (subject : Subject) : List Text :=
  match subject.viewKind, style with
  | .viewController, .inline => ["checkElements"]
  | .viewController, .screenSplit => ["check" ++ Screen.screenName subject]
  | _, _ => [subject.accessorStem ++ "Elements", "check" ++ Text.upperFirst subject.accessorStem]

def freshFunctions (variant : Variant) (subject : Subject) : List Text :=
  Cell.ofCell subject
      [subject.accessorStem, "tap" ++ Text.upperFirst subject.accessorStem] ++
    elementFunctions subject ++ checkFunctions variant.pageStyle subject ++
    tapFunctions variant subject

def laterFunctions (variant : Variant) (subject : Subject) : List Text :=
  elementFunctions subject ++ tapFunctions variant subject

/-! ## Bindings among the lines -/

theorem not_suffix_elements (stem : Text) : ¬ bindingName <:+ stem ++ "Elements" := by
  have hsplit : stem ++ "Elements" = stem ++ 'E' :: "lements" := by simp
  rw [hsplit, Text.suffix_append_cons_iff _ _ (by decide)]
  decide

theorem exists_suffix_iff_any (names : List Text) :
    (∃ name ∈ names, bindingName <:+ name) ↔
      names.any (fun name => decide (bindingName <:+ name)) = true := by
  simp

theorem any_ofCell (entries : List Text) (p : Text → Bool) :
    (Cell.ofCell subject entries).any p = (subject.identifiesCell && entries.any p) := by
  unfold Cell.ofCell
  split_ifs with hcell <;> simp [hcell]

/-- There is a binding among the lines of a page object exactly if the name of one of its functions
ends in that of the binding function. -/
theorem bindsIff_fresh (h : subject.Identified) :
    Lines.BindsIff (fresh variant subject)
      (∃ name ∈ freshFunctions variant subject, bindingName <:+ name) := by
  rw [exists_suffix_iff_any]
  unfold fresh freshFunctions elementFunctions tapFunctions tapName checkFunctions
  have hsingle : ¬ bindingName <:+ "checkElements".toList := by decide
  cases hk : subject.viewKind with
  | view =>
    have hcell : subject.identifiesCell = false := by simp [Subject.identifiesCell, hk]
    refine (View.bindsIff_fresh h).congr ?_
    simp only [List.any_append, any_ofCell, hcell, List.any_cons, List.any_nil, List.any_map,
      Bool.or_eq_true, Bool.false_and, decide_eq_true_iff, List.any_eq_true, Function.comp,
      not_suffix_elements, Bool.false_eq_true, or_false, false_or]
  | viewController =>
    have hcell : subject.identifiesCell = false := by simp [Subject.identifiesCell, hk]
    unfold Screen.fresh
    cases variant.pageStyle with
    | inline =>
      refine (Screen.bindsIff_inlinePage h).congr ?_
      simp only [List.any_append, any_ofCell, hcell, List.any_cons, List.any_nil, List.any_map,
        Bool.or_eq_true, Bool.false_and, decide_eq_true_iff, List.any_eq_true, Function.comp,
        hsingle, Bool.false_eq_true, or_false, false_or]
    | screenSplit =>
      refine (Screen.bindsIff_splitScreen h).congr ?_
      simp only [List.any_append, any_ofCell, hcell, List.any_cons, List.any_nil, List.any_map,
        Bool.or_eq_true, Bool.false_and, decide_eq_true_iff, List.any_eq_true, Function.comp,
        Bool.false_eq_true, or_false, false_or]
  | cell =>
    refine (Cell.bindsIff_fresh h).congr ?_
    simp only [List.any_append, any_ofCell, List.any_cons, List.any_nil, List.any_map,
      List.any_flatMap, Bool.or_eq_true, Bool.and_eq_true, decide_eq_true_iff, List.any_eq_true,
      Function.comp, not_suffix_elements, Bool.false_eq_true, or_false, false_or, or_assoc]

theorem bindsIff_extension (h : subject.Identified) :
    Lines.BindsIff (extension variant subject)
      (∃ name ∈ laterFunctions variant subject, bindingName <:+ name) := by
  rw [exists_suffix_iff_any]
  unfold extension laterFunctions elementFunctions tapFunctions tapName
  cases hk : subject.viewKind with
  | view =>
    refine (View.bindsIff_extension h).congr ?_
    simp only [List.nil_append, List.any_map, decide_eq_true_iff, List.any_eq_true, Function.comp]
  | viewController =>
    refine (Screen.bindsIff_extension h).congr ?_
    simp only [List.nil_append, List.any_map, decide_eq_true_iff, List.any_eq_true, Function.comp]
  | cell =>
    refine (Cell.bindsIff_extension h).congr ?_
    simp only [List.any_append, List.any_cons, List.any_nil, List.any_map, List.any_flatMap,
      Bool.or_eq_true, decide_eq_true_iff, List.any_eq_true, Function.comp, Bool.false_eq_true,
      or_false]

end OutletWiring.Page
