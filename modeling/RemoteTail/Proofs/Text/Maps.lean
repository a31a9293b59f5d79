import Mathlib.Data.List.Basic
import Mathlib.Data.List.Nodup
import Mathlib.Data.List.Perm.Basic
import RemoteTail.TextMap

/-!
# Look-ups in text maps

A map is known by its look-ups (`TextMap.ext_get?`).  Setting a key changes the
look-up of this key alone, so that of entries that are set one after another the
last one of a key counts (`TextMap.get?_insertAll`).
-/

namespace RemoteTail.TextMap

variable {map other : TextMap} {key value sought : String} {entries : List (String × String)}

theorem lookup_cons_eq :
    ((key, value) :: entries).lookup sought =
      if sought = key then some value else entries.lookup sought := by
  by_cases same : sought = key
  · rw [if_pos same, same, List.lookup_cons_self]
  · rw [if_neg same, List.lookup_cons, beq_eq_false_iff_ne.mpr same]

theorem lookup_insertEntry :
    (insertEntry key value entries).lookup sought =
      if sought = key then some value else entries.lookup sought := by
  fun_induction insertEntry key value entries with
  | case1 => exact lookup_cons_eq
  | case2 => exact lookup_cons_eq
  | case3 =>
      simp only [lookup_cons_eq]
      split
      · rfl
      · rfl
  | case4 other kept entries _ apart ih =>
      rw [lookup_cons_eq, lookup_cons_eq, ih]
      by_cases same : sought = key
      · rw [if_pos same, if_neg (same ▸ apart), if_pos same]
      · rw [if_neg same, if_neg same]

/-- Setting a key changes the look-up of this key alone. -/
theorem get?_insert :
    (map.insert key value).get? sought = if sought = key then some value else map.get? sought :=
  lookup_insertEntry

@[simp]
theorem get?_empty : (∅ : TextMap).get? sought = none :=
  rfl

/-- A map with entries set in it, one after another. -/
def insertAll (map : TextMap) (entries : List (String × String)) : TextMap :=
  entries.foldl (fun map entry => map.insert entry.1 entry.2) map

/-- Of the entries of a key, the last one counts. -/
theorem get?_insertAll :
    (map.insertAll entries).get? sought = (entries.reverse.lookup sought).or (map.get? sought) := by
  induction entries generalizing map with
  | nil => rfl
  | cons entry entries ih =>
      obtain ⟨key, value⟩ := entry
      have others := @ih (map.insert key value)
      rw [insertAll, List.foldl_cons]
      rw [insertAll] at others
      rw [others, get?_insert, List.reverse_cons, List.lookup_append, lookup_cons_eq,
        Option.or_assoc]
      congr 1
      split
      · rfl
      · rfl

theorem nodup_keys (map : TextMap) : (map.entries.map Prod.fst).Nodup := by
  rw [List.Nodup, List.pairwise_map]
  refine map.sorted.imp ?_
  intro left right less same
  rw [same] at less
  exact String.lt_irrefl right.1 less

theorem mem_of_lookup_eq_some (found : entries.lookup key = some value) :
    (key, value) ∈ entries := by
  induction entries with
  | nil => cases found
  | cons entry entries ih =>
      obtain ⟨other, kept⟩ := entry
      rw [lookup_cons_eq] at found
      by_cases same : key = other
      · rw [if_pos same] at found
        cases found
        rw [same]
        exact List.mem_cons_self
      · rw [if_neg same] at found
        exact List.mem_cons_of_mem _ (ih found)

/-- Where no key comes twice, every entry is found. -/
theorem lookup_eq_some_of_mem (nodup : (entries.map Prod.fst).Nodup)
    (member : (key, value) ∈ entries) : entries.lookup key = some value := by
  induction entries with
  | nil => cases member
  | cons entry entries ih =>
      obtain ⟨other, kept⟩ := entry
      rw [List.map_cons, List.nodup_cons] at nodup
      rw [lookup_cons_eq]
      rcases List.mem_cons.mp member with same | later
      · cases same
        rw [if_pos rfl]
      · have apart : key ≠ other := by
          rintro rfl
          exact nodup.1 (List.mem_map.mpr ⟨(key, value), later, rfl⟩)
        rw [if_neg apart]
        exact ih nodup.2 later

theorem get?_eq_some_iff : map.get? key = some value ↔ (key, value) ∈ map.entries :=
  ⟨mem_of_lookup_eq_some, lookup_eq_some_of_mem map.nodup_keys⟩

/-- Maps with the same look-ups are the same. -/
theorem ext_get? (same : ∀ key, map.get? key = other.get? key) : map = other := by
  have members : ∀ entry, entry ∈ map.entries ↔ entry ∈ other.entries := by
    rintro ⟨key, value⟩
    rw [← get?_eq_some_iff, ← get?_eq_some_iff, same key]
  have perm : map.entries.Perm other.entries :=
    (List.perm_ext_iff_of_nodup map.nodup_keys.of_map other.nodup_keys.of_map).mpr members
  have entries_eq : map.entries = other.entries :=
    perm.eq_of_pairwise
      (fun _ _ _ _ less greater => absurd (String.lt_trans less greater) (String.lt_irrefl _))
      map.sorted other.sorted
  cases map
  cases other
  cases entries_eq
  rfl

/-- The entries of the other map come before those of the map. -/
theorem get?_extend :
    (map.extend other).get? sought = (other.get? sought).or (map.get? sought) := by
  have whole := @get?_insertAll map sought other.entries
  have reversed : other.entries.reverse.lookup sought = other.get? sought := by
    ext value
    have nodup : (other.entries.reverse.map Prod.fst).Nodup := by
      rw [List.map_reverse, List.nodup_reverse]
      exact other.nodup_keys
    rw [get?_eq_some_iff, ← List.mem_reverse]
    exact ⟨mem_of_lookup_eq_some, lookup_eq_some_of_mem nodup⟩
  rw [reversed] at whole
  exact whole

/-- To set all entries of a map that has been set is to set its own entries. -/
theorem extend_insertAll (entries : List (String × String)) :
    map.extend ((∅ : TextMap).insertAll entries) = map.insertAll entries := by
  apply ext_get?
  intro key
  rw [get?_extend, get?_insertAll, get?_insertAll, get?_empty, Option.or_none]

end RemoteTail.TextMap
