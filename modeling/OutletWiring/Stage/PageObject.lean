import OutletWiring.Page.Block
import OutletWiring.Stage.Basic

/-! The page object for the outlets wired in this run is added at the end of the file. -/

namespace OutletWiring.PageObject

def runM {m : Type → Type} [Monad m] [Reach m] (variant : Variant) (lines : Lines)
    (subject : Subject) : m Stage.Result := do
  if !subject.hasClass then return ⟨lines, subject, .declined .noClassDeclaration, []⟩
  else if subject.outlets.isEmpty then return ⟨lines, subject, .declined .noOutlets, []⟩
  else
    let written ← lines.appendBlockM (Page.block variant subject)
    return ⟨written, subject, .completed, []⟩

def run (variant : Variant) (lines : Lines) (subject : Subject) : Stage.Result :=
  Id.run (runM variant lines subject)

end OutletWiring.PageObject
