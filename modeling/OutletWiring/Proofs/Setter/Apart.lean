import Mathlib.Data.List.Nodup
import Mathlib.Data.List.Pairwise
import OutletWiring.Proofs.Run.Names

/-!
# Identifiers that keep apart

The cases of an enum come from four sources that do not know of each other: the names of the
outlets, the text fields of search bars, the root view of a controller, and a cell itself. Outlets
that are declared under different names can still be given one case twice. `Subject.Apart` says what
the derived names have to avoid, and the setter stage writes each case once exactly if they do.
-/

namespace OutletWiring

namespace Outlet

theorem textFieldCase_ne_name (outlet : Outlet) : outlet.textFieldCase ≠ outlet.name := by
  intro h
  have hlength := congrArg List.length h
  simp [textFieldCase] at hlength

theorem mem_cases {outlet : Outlet} {name : Text} :
    name ∈ outlet.cases ↔
      name = outlet.name ∨ outlet.isSearchBar = true ∧ name = outlet.textFieldCase := by
  unfold cases
  split_ifs with h <;> simp [h]

theorem nodup_cases (outlet : Outlet) : outlet.cases.Nodup := by
  unfold cases
  split_ifs
  · simp [outlet.textFieldCase_ne_name.symm]
  · exact List.nodup_singleton _

theorem map_name_sublist_flatMap_cases (outlets : List Outlet) :
    (outlets.map name).Sublist (outlets.flatMap cases) := by
  induction outlets with
  | nil => exact .slnil
  | cons outlet outlets ih =>
    have hhead : [outlet.name].Sublist outlet.cases :=
      List.singleton_sublist.2 (mem_cases.2 (.inl rfl))
    exact hhead.append ih

/-- No text field of a search bar among the outlets has the name of one of them. -/
def TextFieldsApart (outlets : List Outlet) : Prop :=
  ∀ bar ∈ outlets, bar.isSearchBar = true → bar.textFieldCase ∉ outlets.map name

instance (outlets : List Outlet) : Decidable (TextFieldsApart outlets) :=
  inferInstanceAs (Decidable (∀ _ ∈ _, _))

/-- The identifiers of two outlets are different where neither name is the other's, nor that of the
other's text field. -/
theorem disjoint_cases {a b : Outlet} (hne : a.name ≠ b.name)
    (ha : a.isSearchBar = true → a.textFieldCase ≠ b.name)
    (hb : b.isSearchBar = true → b.textFieldCase ≠ a.name) : List.Disjoint a.cases b.cases := by
  intro name hna hnb
  rcases mem_cases.1 hna with rfl | ⟨hsa, rfl⟩
  · rcases mem_cases.1 hnb with heq | ⟨hsb, heq⟩
    · exact hne heq
    · exact hb hsb heq.symm
  · rcases mem_cases.1 hnb with heq | ⟨-, heq⟩
    · exact ha hsa heq
    · exact hne (List.append_cancel_right heq)

theorem nodup_flatMap_cases_iff {outlets : List Outlet} :
    (outlets.flatMap cases).Nodup ↔ (outlets.map name).Nodup ∧ TextFieldsApart outlets := by
  constructor
  · intro h
    refine ⟨h.sublist (map_name_sublist_flatMap_cases outlets), ?_⟩
    intro bar hbar hsearch hmem
    obtain ⟨other, hother, hname⟩ := List.mem_map.1 hmem
    have hne : other ≠ bar := by
      rintro rfl
      exact other.textFieldCase_ne_name hname.symm
    have hsymm : Std.Symm (Function.onFun List.Disjoint cases) :=
      ⟨fun _ _ hd _ ha hb => hd hb ha⟩
    have hdisjoint := (List.nodup_flatMap.1 h).2.forall hother hbar hne
    exact hdisjoint (mem_cases.2 (.inl rfl)) (mem_cases.2 (.inr ⟨hsearch, hname⟩))
  · rintro ⟨hnames, hapart⟩
    rw [List.Nodup, List.pairwise_map] at hnames
    refine List.nodup_flatMap.2 ⟨fun outlet _ => outlet.nodup_cases, ?_⟩
    refine hnames.imp_of_mem fun {a b} ha hb hne => disjoint_cases hne ?_ ?_
    · intro hsearch heq
      exact hapart a ha hsearch (List.mem_map.2 ⟨b, hb, heq.symm⟩)
    · intro hsearch heq
      exact hapart b hb hsearch (List.mem_map.2 ⟨a, ha, heq.symm⟩)

end Outlet

open IdentifierSetter (rootViewOutlet)

namespace Subject

/-- If the root view is wired, and so comes last, no outlet before it has its name. -/
def RootViewApart (subject : Subject) : Prop :=
  subject.outlets.getLast? = some (rootViewOutlet subject.className) →
    Naming.rootViewIdentifier subject.className ∉ subject.outlets.dropLast.map Outlet.name

instance (subject : Subject) : Decidable subject.RootViewApart :=
  inferInstanceAs (Decidable (_ → _))

/-- If the cell gets an identifier, it is not that of an outlet. -/
def CellApart (subject : Subject) : Prop :=
  subject.identifiesCell = true → subject.cellIdentifier ∉ subject.outlets.flatMap Outlet.cases

instance (subject : Subject) : Decidable subject.CellApart :=
  inferInstanceAs (Decidable (_ → _))

/-- The names that are derived for the subject differ from those that are declared. -/
structure Apart (subject : Subject) : Prop where
  textFields : Outlet.TextFieldsApart subject.outlets
  rootView : subject.RootViewApart
  cell : subject.CellApart

theorem apart_iff {subject : Subject} :
    subject.Apart ↔
      Outlet.TextFieldsApart subject.outlets ∧ subject.RootViewApart ∧ subject.CellApart :=
  ⟨fun h => ⟨h.1, h.2, h.3⟩, fun h => ⟨h.1, h.2.1, h.2.2⟩⟩

instance (subject : Subject) : Decidable subject.Apart :=
  decidable_of_iff' _ apart_iff

theorem nodup_cases_iff {subject : Subject} :
    subject.cases.Nodup ↔
      (subject.outlets.flatMap Outlet.cases).Nodup ∧ subject.CellApart := by
  unfold cases CellApart
  split_ifs with hcell
  · rw [← List.concat_eq_append, List.nodup_concat, and_comm]
    simp [hcell]
  · simp [hcell]

/-- Where no two outlets but possibly the root view share a name, the cases are different exactly if
the derived names keep apart. -/
theorem nodup_cases_iff_apart {subject : Subject} {declared root : List Outlet}
    (ho : subject.outlets = declared ++ root) (hd : (declared.map Outlet.name).Nodup)
    (hr : root.Sublist [rootViewOutlet subject.className]) :
    subject.cases.Nodup ↔ subject.Apart := by
  have hnames : (subject.outlets.map Outlet.name).Nodup ↔ subject.RootViewApart := by
    unfold RootViewApart
    rcases List.sublist_singleton.1 hr with rfl | rfl
    · rw [List.append_nil] at ho
      rw [ho]
      refine iff_of_true hd fun hlast hmem => ?_
      obtain ⟨front, rfl⟩ := List.getLast?_eq_some_iff.1 hlast
      rw [List.map_append, List.map_singleton, ← List.concat_eq_append, List.nodup_concat] at hd
      rw [List.dropLast_concat] at hmem
      exact hd.1 hmem
    · rw [ho, List.map_append, List.map_singleton, ← List.concat_eq_append, List.nodup_concat,
        List.getLast?_concat, List.dropLast_concat]
      simp [hd, rootViewOutlet]
  rw [nodup_cases_iff, Outlet.nodup_flatMap_cases_iff, hnames, apart_iff]
  tauto

end Subject

namespace IdentifierSetter

variable {variant : Variant} {lines : Lines} {subject : Subject}

/-- The outlets that a completed stage passes on are some of those to be wired. -/
theorem run_outlets_sublist (hv : (run variant lines subject).verdict = .completed) :
    (run variant lines subject).subject.outlets.Sublist (wiredOutlets variant subject lines) := by
  rcases run_cases variant lines subject with ⟨-, hne⟩ | ⟨-, hrun⟩ | ⟨index, -, hrun⟩
  · exact absurd hv hne
  · rw [hrun]
    exact List.Sublist.refl _
  · rw [hrun]
    exact bindMissing_outlets_subset lines (index + 1) _

/-- Declared outlets come first, and the root view after them if it is wired. -/
theorem exists_declared_root (hv : (run variant lines subject).verdict = .completed) :
    ∃ declared root, (run variant lines subject).subject.outlets = declared ++ root ∧
      declared.Sublist lines.outlets ∧ root.Sublist [rootViewOutlet subject.className] := by
  have hsub := run_outlets_sublist hv
  rw [wiredOutlets_eq, List.filter_append] at hsub
  obtain ⟨declared, root, heq, hdeclared, hroot⟩ := List.sublist_append_iff.1 hsub
  refine ⟨declared, root, heq, hdeclared.trans List.filter_sublist,
    (hroot.trans List.filter_sublist).trans ?_⟩
  split_ifs
  · exact List.Sublist.refl _
  · exact List.nil_sublist _

/-- The setter stage gives each case to the enum once, if the declared outlets have different names,
exactly where the names that it derives keep apart. -/
theorem cases_distinct_iff (hd : (lines.outlets.map Outlet.name).Nodup)
    (hv : (run variant lines subject).verdict = .completed) :
    (run variant lines subject).subject.cases.Nodup ↔
      (run variant lines subject).subject.Apart := by
  obtain ⟨declared, root, heq, hdeclared, hroot⟩ := exists_declared_root hv
  refine Subject.nodup_cases_iff_apart heq (hd.sublist (hdeclared.map _)) ?_
  rwa [(run_className variant lines subject).1]

/-- A controller with a search bar, in which the setter is there and binds nothing yet. -/
def searching : Lines :=
  ["class ResultsViewController: UIViewController \x7b\n",
    "\t@IBOutlet weak var search: UISearchBar!\n", "\t@IBOutlet weak var field: UITextField!\n",
    "\tfunc setAccessibilityIdentifiers() \x7b\n", "\t\x7d\n", "\x7d\n"]

def searchingController : Subject :=
  { className := "ResultsViewController", viewKind := .viewController }

theorem cases_distinct_iff_searching :
    (searching.outlets.map Outlet.name).Nodup ∧
      (run .qa searching searchingController).verdict = .completed ∧
      (run .qa searching searchingController).subject.cases.length = 4 ∧
      ((run .qa searching searchingController).subject.cases.Nodup ↔
        (run .qa searching searchingController).subject.Apart) := by
  have hd : (searching.outlets.map Outlet.name).Nodup := by decide +kernel
  have hv : (run .qa searching searchingController).verdict = .completed := by decide +kernel
  exact ⟨hd, hv, by decide +kernel, cases_distinct_iff hd hv⟩

/-- A search bar, and an outlet with the name of its text field. -/
def fieldNamedTwice : Lines :=
  ["class SearchView: UIView \x7b\n", "\t@IBOutlet weak var search: UISearchBar!\n",
    "\t@IBOutlet weak var searchTextField: UITextField!\n", "\x7d\n"]

/-- A controller with an outlet that has the name of its root view. -/
def viewNamedTwice : Lines :=
  ["class LoginViewController: UIViewController \x7b\n",
    "\t@IBOutlet weak var loginView: UIView!\n", "\x7d\n"]

/-- A cell with an outlet that has the name of the cell. -/
def cellNamedTwice : Lines :=
  ["class ProductCell: UITableViewCell \x7b\n", "\t@IBOutlet weak var productCell: UIView!\n",
    "\x7d\n"]

/-- The declared outlets have different names, and yet the setter stage gives some case twice. -/
def GivesTwice (variant : Variant) (lines : Lines) : Prop :=
  (lines.outlets.map Outlet.name).Nodup ∧
    ∃ outcome ∈ Stage.sequence variant [.conformance, .identifierSetter] lines,
      outcome.completed = [.conformance, .identifierSetter] ∧ ¬ outcome.subject.cases.Nodup

instance (variant : Variant) (lines : Lines) : Decidable (GivesTwice variant lines) :=
  inferInstanceAs (Decidable (_ ∧ ∃ _ ∈ _, _))

/-- Each of the derived names can be the name of an outlet, and then its case is given twice. -/
theorem cases_given_twice :
    GivesTwice .dev fieldNamedTwice ∧ GivesTwice .qa viewNamedTwice ∧
      GivesTwice .dev cellNamedTwice := by
  decide +kernel

end IdentifierSetter

end OutletWiring
