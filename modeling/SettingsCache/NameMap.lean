import Std.Data.ExtTreeMap
import Std.Data.ExtTreeSet

/-!
# Maps from names

Values kept under names, in the order of the names' characters. Two maps that hold the same values
under the same names are equal.
-/

namespace SettingsCache

/-- A map from names to values. -/
abbrev NameMap (α : Type) := Std.ExtTreeMap String α

/-- A set of names. -/
abbrev NameSet := Std.ExtTreeSet String

/-- Whether a name begins with a stem. -/
def hasStem (stem name : String) : Bool := stem.toList.isPrefixOf name.toList

namespace NameMap

variable {α β : Type}

/-- The values under names that begin with a stem. -/
def withStem (m : NameMap α) (stem : String) : NameMap α := m.filter fun name _ ↦ hasStem stem name

/-- The values that a function selects from the entries. -/
def select (m : NameMap α) (f : α → Option β) : NameMap β := m.filterMap fun _ a ↦ f a

/-- Put every value of one map into another, replacing those under the same names. -/
def insertAll (m : NameMap α) (values : NameMap α) : NameMap α :=
  values.foldl (fun m name a ↦ m.insert name a) m

end NameMap

end SettingsCache
