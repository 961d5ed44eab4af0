import Std.Data.ExtTreeMap.Lemmas
import SettingsCache.NameMap

/-!
# What maps from names hold

Each operation on a map from names is known by what the result holds under a name.
-/

namespace SettingsCache.NameMap

variable {α β : Type}

@[simp] theorem getElem?_withStem (m : NameMap α) (stem name : String) :
    (m.withStem stem)[name]? = if hasStem stem name then m[name]? else none := by
  unfold withStem
  rw [Std.ExtTreeMap.getElem?_filter']
  cases m[name]? <;> cases hasStem stem name <;> rfl

@[simp] theorem getElem?_select (m : NameMap α) (f : α → Option β) (name : String) :
    (m.select f)[name]? = m[name]?.bind f := by
  unfold select
  rw [Std.ExtTreeMap.getElem?_filterMap']

/-- The values that were put in come before those that were there. -/
@[simp] theorem getElem?_insertAll (m values : NameMap α) (name : String) :
    (m.insertAll values)[name]? = values[name]?.or m[name]? := by
  unfold insertAll
  rw [Std.ExtTreeMap.foldl_eq_foldl_toList, ← Std.ExtTreeMap.insertMany_list_eq_foldl]
  cases h : values[name]? with
  | some a =>
    have hmem := Std.ExtTreeMap.mem_toList_iff_getElem?_eq_some.mpr h
    exact Std.ExtTreeMap.getElem?_insertMany_list_of_mem Std.ReflCmp.compare_self
      Std.ExtTreeMap.distinct_keys_toList hmem
  | none =>
    apply Std.ExtTreeMap.getElem?_insertMany_list_of_contains_eq_false
    rw [List.contains_eq_mem, decide_eq_false_iff_not]
    intro hmem
    obtain ⟨⟨found, a⟩, ha, hname⟩ := List.mem_map.mp hmem
    change found = name at hname
    subst hname
    have hsome := Std.ExtTreeMap.mem_toList_iff_getElem?_eq_some.mp ha
    rw [h] at hsome
    cases hsome

end SettingsCache.NameMap
