/-!
# Finite maps from texts to texts

A `TextMap` lists its entries by strictly increasing key, so two maps with the
same look-ups are equal.  Keys are ordered by code point, which is also the
order of their UTF-8 octets.
-/

namespace RemoteTail

/-- A finite map from texts to texts. -/
structure TextMap where
  /-- The entries by increasing key. -/
  entries : List (String × String)
  /-- No key comes twice, and none out of order. -/
  sorted : entries.Pairwise (fun left right => left.1 < right.1) := by exact .nil
deriving DecidableEq, Repr

namespace TextMap

/-- Sets the value of a key in a list of entries by increasing key. -/
def insertEntry (key value : String) : List (String × String) → List (String × String)
  | [] => [(key, value)]
  | (other, kept) :: entries =>
    if key < other then (key, value) :: (other, kept) :: entries
    else if key = other then (key, value) :: entries
    else (other, kept) :: insertEntry key value entries

theorem mem_insertEntry {key value : String} {entries : List (String × String)}
    {entry : String × String} (h : entry ∈ insertEntry key value entries) :
    entry = (key, value) ∨ entry ∈ entries := by
  fun_induction insertEntry key value entries with
  | case1 => exact .inl (List.mem_singleton.1 h)
  | case2 other kept entries hlt => exact List.mem_cons.1 h
  | case3 kept entries =>
    rcases List.mem_cons.1 h with rfl | hmem
    · exact .inl rfl
    · exact .inr (List.mem_cons_of_mem _ hmem)
  | case4 other kept entries hlt hne ih =>
    rcases List.mem_cons.1 h with rfl | hmem
    · exact .inr List.mem_cons_self
    · exact (ih hmem).imp_right (List.mem_cons_of_mem _)

theorem sorted_insertEntry (key value : String) {entries : List (String × String)}
    (h : entries.Pairwise (fun left right => left.1 < right.1)) :
    (insertEntry key value entries).Pairwise (fun left right => left.1 < right.1) := by
  fun_induction insertEntry key value entries with
  | case1 => simp
  | case2 other kept entries hlt =>
    refine List.pairwise_cons.2 ⟨fun entry hmem => ?_, h⟩
    rcases List.mem_cons.1 hmem with rfl | hmem
    · exact hlt
    · exact String.lt_trans hlt ((List.pairwise_cons.1 h).1 entry hmem)
  | case3 kept entries =>
    exact List.pairwise_cons.2 ⟨(List.pairwise_cons.1 h).1, (List.pairwise_cons.1 h).2⟩
  | case4 other kept entries hlt hne ih =>
    have hother : other < key := by
      rcases Std.le_total (a := other) (b := key) with hle | hle
      · exact Std.lt_of_le_of_ne hle (fun heq => hne heq.symm)
      · exact absurd (Std.lt_of_le_of_ne hle hne) hlt
    refine List.pairwise_cons.2 ⟨fun entry hmem => ?_, ih (List.pairwise_cons.1 h).2⟩
    rcases mem_insertEntry hmem with rfl | hmem
    · exact hother
    · exact (List.pairwise_cons.1 h).1 entry hmem

/-- The map without entries. -/
def empty : TextMap :=
  { entries := [] }

instance : EmptyCollection TextMap :=
  ⟨empty⟩

instance : Inhabited TextMap :=
  ⟨empty⟩

/-- The map with the value of one key set. -/
def insert (map : TextMap) (key value : String) : TextMap :=
  { entries := insertEntry key value map.entries
    sorted := sorted_insertEntry key value map.sorted }

/-- The map without a key. -/
def erase (map : TextMap) (key : String) : TextMap :=
  { entries := map.entries.filter (·.1 ≠ key)
    sorted := map.sorted.filter _ }

/-- The value of a key. -/
def get? (map : TextMap) (key : String) : Option String :=
  map.entries.lookup key

/-- The map with every entry of another map set in it. -/
def extend (map other : TextMap) : TextMap :=
  other.entries.foldl (fun extended entry => extended.insert entry.1 entry.2) map

end TextMap

end RemoteTail
