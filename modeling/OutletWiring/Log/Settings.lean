import OutletWiring.Log.Filter

/-! A filter decides which entries are shown, and a format decides how. -/

namespace OutletWiring.Log

structure Settings where
  format : Format
  filter : Filter

namespace Settings

/-- A name or text that means nothing is as none; a verbose log has a filter of its own. -/
def make (formatName? filterText? : Option Text) (verbose : Bool) : Settings where
  format := (formatName?.bind Format.ofName?).getD .pretty
  filter := if verbose then .verbose else (filterText?.bind Filter.ofText?).getD .quiet

def render (settings : Settings) (entries : List Entry) : List Text :=
  (entries.filter settings.filter.shows).map (·.render settings.format)

end Settings

end OutletWiring.Log
