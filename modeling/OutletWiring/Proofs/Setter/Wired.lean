import OutletWiring.Proofs.Line.Kind
import OutletWiring.Stage.IdentifierSetter

/-!
# The outlets of a run

A run wires the declared outlets and possibly a root view, less those that the variant drops. It
depends on the lines only through the outlets that they declare.
-/

namespace OutletWiring.IdentifierSetter

variable {variant : Variant} {subject : Subject} {lines : Lines} {outlet : Outlet}

def rootViewOutlet (className : Text) : Outlet :=
  ⟨Naming.rootViewIdentifier className, Outlet.rootView⟩

/-- A run wires the root view besides the outlets declared. -/
def wiresRoot (variant : Variant) (subject : Subject) (declared : List Outlet) : Bool :=
  variant.wiresRootView && subject.viewKind == .viewController && !declared.isEmpty

def keeps (variant : Variant) (outlet : Outlet) : Bool :=
  !(variant.dropsConstraintNames && Text.occursIn "Constraint" outlet.name)

theorem wiredOutlets_eq (variant : Variant) (subject : Subject) (lines : Lines) :
    wiredOutlets variant subject lines =
      (lines.outlets ++ if wiresRoot variant subject lines.outlets then
        [rootViewOutlet subject.className] else []).filter (keeps variant) := by
  have hextended : (if (variant.wiresRootView && subject.viewKind == .viewController &&
      !lines.outlets.isEmpty) = true then
        lines.outlets ++ [rootViewOutlet subject.className] else lines.outlets) =
      lines.outlets ++ if wiresRoot variant subject lines.outlets then
        [rootViewOutlet subject.className] else [] := by
    unfold wiresRoot
    split_ifs
    · rfl
    · exact (List.append_nil _).symm
  unfold wiredOutlets
  simp only [← hextended]
  by_cases hdrop : variant.dropsConstraintNames = true
  · rw [if_pos hdrop]
    congr 1
    funext outlet
    simp [keeps, hdrop]
  · rw [if_neg hdrop, List.filter_eq_self.2 fun outlet _ => by simp [keeps, hdrop]]
    rfl

theorem mem_wiredOutlets :
    outlet ∈ wiredOutlets variant subject lines ↔
      (outlet ∈ lines.outlets ∨ wiresRoot variant subject lines.outlets = true ∧
        outlet = rootViewOutlet subject.className) ∧ keeps variant outlet = true := by
  rw [wiredOutlets_eq, List.mem_filter, List.mem_append]
  split_ifs with h <;> simp [h]

theorem outlets_ne_nil_of_wiredOutlets (h : wiredOutlets variant subject lines ≠ []) :
    lines.outlets ≠ [] := by
  obtain ⟨outlet, hmem⟩ := List.exists_mem_of_ne_nil _ h
  rcases (mem_wiredOutlets.1 hmem).1 with hdeclared | ⟨hroot, -⟩
  · exact List.ne_nil_of_mem hdeclared
  · intro hnil
    simp [wiresRoot, hnil] at hroot

theorem wiredOutlets_congr {later : Subject} {others : Lines}
    (hname : later.className = subject.className) (hkind : later.viewKind = subject.viewKind)
    (ho : others.outlets = lines.outlets) :
    wiredOutlets variant later others = wiredOutlets variant subject lines := by
  have hroot : wiresRoot variant later lines.outlets = wiresRoot variant subject lines.outlets := by
    simp only [wiresRoot, hkind]
  rw [wiredOutlets_eq, wiredOutlets_eq, ho, hroot, hname]

theorem wiredOutlets_perm {later : Subject} {others : Lines}
    (hname : later.className = subject.className) (hkind : later.viewKind = subject.viewKind)
    (hp : others.outlets.Perm lines.outlets) :
    (wiredOutlets variant later others).Perm (wiredOutlets variant subject lines) := by
  have hroot : wiresRoot variant later others.outlets = wiresRoot variant subject lines.outlets := by
    simp only [wiresRoot, hkind, hp.isEmpty_eq]
  rw [wiredOutlets_eq, wiredOutlets_eq, hroot, hname]
  exact (hp.append_right _).filter _

theorem wiredOutlets_subset {others : Lines} (h : others.outlets ⊆ lines.outlets) :
    wiredOutlets variant subject others ⊆ wiredOutlets variant subject lines := by
  intro outlet hmem
  rw [mem_wiredOutlets] at hmem ⊢
  refine ⟨hmem.1.imp (fun hdeclared => h hdeclared) fun ⟨hroot, heq⟩ => ⟨?_, heq⟩, hmem.2⟩
  simp only [wiresRoot, Bool.and_eq_true, Bool.not_eq_true', List.isEmpty_eq_false_iff] at hroot ⊢
  exact ⟨hroot.1, fun hnil => hroot.2 (List.eq_nil_of_subset_nil (hnil ▸ h))⟩

end OutletWiring.IdentifierSetter
