import Mathlib.Data.List.Nodup
import RemoteTail.Proofs.Json.Members

/-!
# Records and the texts that they are read from

A record is read into a state with a slot for each field (`Layout`).  An object is
read as the record exactly if every slot has its value from the one member of its
name, or has none where there is no such member (`Layout.read_object_iff`).  The
other members are values of any kind.
-/

namespace RemoteTail.Json

/-! ## Members by their names -/

/-- A property has a name. -/
def IsNamed (name : String) (property : Property) : Prop :=
  Literal property.key name.toList

section

variable {β : Type}

/-- What the member of a name gives: nothing if there is none, and its value if there is exactly
one. -/
def Gives (name : String) (Spells : Bytes → β → Prop) (properties : List Property) :
    Option β → Prop
  | none => ∀ property ∈ properties, ¬ IsNamed name property
  | some value => ∃ before property after, properties = before ++ property :: after ∧
      IsNamed name property ∧ Spells property.value.text value ∧
      ∀ other ∈ before ++ after, ¬ IsNamed name other

/-- What the members of a name make of what has been found before: they may not come again. -/
def Fills (name : String) (Spells : Bytes → β → Prop) :
    Option β → List Property → Option β → Prop
  | found, [], last => last = found
  | found, property :: properties, last =>
    (¬ IsNamed name property ∧ Fills name Spells found properties last) ∨
      (IsNamed name property ∧ found = none ∧
        ∃ value, Spells property.value.text value ∧ Fills name Spells (some value) properties last)

variable {name : String} {Spells : Bytes → β → Prop} {properties : List Property}
  {last : Option β}

theorem fills_some_iff {value : β} :
    Fills name Spells (some value) properties last ↔
      last = some value ∧ ∀ property ∈ properties, ¬ IsNamed name property := by
  induction properties with
  | nil => simp [Fills]
  | cons property properties ih =>
      rw [Fills, ih, List.forall_mem_cons]
      simp only [reduceCtorEq, false_and, and_false, or_false]
      exact and_left_comm

/-- From nothing, the members of a name fill what the only one of them gives. -/
theorem fills_none_iff :
    Fills name Spells none properties last ↔ Gives name Spells properties last := by
  induction properties with
  | nil =>
      cases last with
      | none => simp [Fills, Gives]
      | some value => simp [Fills, Gives]
  | cons property properties ih =>
      rw [Fills, ih]
      simp only [fills_some_iff, true_and]
      cases last with
      | none => simp [Gives]
      | some value =>
          constructor
          · rintro (⟨unnamed, before, found, after, rfl, named, spells, others⟩ |
              ⟨named, other, spells, value_eq, others⟩)
            · exact ⟨property :: before, found, after, rfl, named, spells,
                List.forall_mem_cons.mpr ⟨unnamed, others⟩⟩
            · obtain rfl := Option.some.inj value_eq
              exact ⟨[], property, properties, rfl, named, spells, others⟩
          · rintro ⟨before, found, after, properties_eq, named, spells, others⟩
            rcases before with _ | ⟨first, before⟩
            · obtain ⟨rfl, rfl⟩ := List.cons.inj properties_eq
              exact .inr ⟨named, value, spells, rfl, others⟩
            · obtain ⟨rfl, rfl⟩ := List.cons.inj properties_eq
              obtain ⟨unnamed, others⟩ := List.forall_mem_cons.mp others
              exact .inl ⟨unnamed, before, found, after, rfl, named, spells, others⟩

theorem IsNamed.not_of_ne {other : String} {property : Property} (named : IsNamed name property)
    (differ : other ≠ name) : ¬ IsNamed other property :=
  fun other_named => differ (String.toList_inj.mp (other_named.unique named))

theorem gives_cons_of_not_isNamed {property : Property} (unnamed : ¬ IsNamed name property) :
    Gives name Spells (property :: properties) last ↔ Gives name Spells properties last := by
  rw [← fills_none_iff, ← fills_none_iff, Fills]
  simp only [unnamed, not_false_eq_true, true_and, false_and, or_false]

theorem gives_cons_of_isNamed {property : Property} (named : IsNamed name property) :
    Gives name Spells (property :: properties) last ↔
      ∃ value, Spells property.value.text value ∧ last = some value ∧
        ∀ other ∈ properties, ¬ IsNamed name other := by
  rw [← fills_none_iff, Fills]
  simp only [named, not_true_eq_false, false_and, true_and, false_or, fills_some_iff]

/-- Exactly one property has a name. -/
def OccursOnce (name : String) (properties : List Property) : Prop :=
  ∃ before property after, properties = before ++ property :: after ∧ IsNamed name property ∧
    ∀ other ∈ before ++ after, ¬ IsNamed name other

theorem Gives.occursOnce {value : β} (gives : Gives name Spells properties (some value)) :
    OccursOnce name properties := by
  obtain ⟨before, property, after, properties_eq, named, _, others⟩ := gives
  exact ⟨before, property, after, properties_eq, named, others⟩

/-- Whatever a name gives comes from the one property that has it. -/
theorem Gives.exists_common {γ : Type} {Writes : Bytes → γ → Prop} {value : β} {other : γ}
    (gives : Gives name Spells properties (some value))
    (other_gives : Gives name Writes properties (some other)) :
    ∃ text, Spells text value ∧ Writes text other := by
  obtain ⟨before, property, after, rfl, _, spells, unnamed⟩ := gives
  obtain ⟨front, found, behind, properties_eq, named, writes, _⟩ := other_gives
  have among : found ∈ before ++ property :: after := by
    rw [properties_eq]
    exact List.mem_append_right _ List.mem_cons_self
  rcases List.mem_append.mp among with earlier | later
  · exact absurd named (unnamed found (List.mem_append_left _ earlier))
  · rcases List.mem_cons.mp later with rfl | later
    · exact ⟨found.value.text, spells, writes⟩
    · exact absurd named (unnamed found (List.mem_append_right _ later))

theorem Gives.mono {Writes : Bytes → β → Prop} {value : β}
    (gives : Gives name Spells properties (some value))
    (implies : ∀ text, Spells text value → Writes text value) :
    Gives name Writes properties (some value) := by
  obtain ⟨before, property, after, properties_eq, named, spells, others⟩ := gives
  exact ⟨before, property, after, properties_eq, named, implies _ spells, others⟩

end

/-! ## Slots -/

/-- A place for the value of one field in the state of a record. -/
structure Slot (σ : Type) where
  /-- What the slot holds. -/
  Value : Type
  /-- The name of the field. -/
  name : String
  /-- The value in the slot, if there is one. -/
  get : σ → Option Value
  /-- The state with a value in the slot. -/
  set : σ → Value → σ
  /-- How the value is read. -/
  read : Reader Value
  /-- How the value is spelt. -/
  Spells : Bytes → Value → Prop
  reads : Reads read Spells
  get_set : ∀ state value, get (set state value) = some value

/-- The field that is read into a slot. -/
def Slot.field {σ : Type} (slot : Slot σ) : Field σ where
  name := slot.name
  isRead := fun state => (slot.get state).isSome
  read := fun state source =>
    (slot.read source).map fun (value, left) => (slot.set state value, left)

variable {σ α : Type}

/-- The slots of a record.  They have names of their own, do not touch one another, and make up the
whole state, which is empty at the start. -/
structure Layout (record : RecordReader σ α) where
  /-- The slots in the order of the fields. -/
  slots : List (Slot σ)
  fields_eq : record.fields = slots.map Slot.field
  names : (slots.map Slot.name).Nodup
  blank : ∀ slot ∈ slots, slot.get record.start = none
  apart : ∀ slot ∈ slots, ∀ other ∈ slots, slot.name ≠ other.name →
    ∀ state value, other.get (slot.set state value) = other.get state
  ext : ∀ state other, (∀ slot ∈ slots, slot.get state = slot.get other) → state = other

namespace Layout

variable {record : RecordReader σ α} (layout : Layout record) {state next last : σ}
  {properties : List Property} {left : List Token} {space rest source : Bytes} {value : α}

/-- A member goes into the empty slot of its name, or past them all. -/
def Takes (state : σ) (key : String) (text : Bytes) (next : σ) : Prop :=
  (∃ slot ∈ layout.slots, slot.name = key ∧ slot.get state = none ∧
    ∃ value, slot.Spells text value ∧ next = slot.set state value) ∨
  (∀ slot ∈ layout.slots, slot.name ≠ key) ∧ next = state

theorem slot_unique {slot other : Slot σ} (member : slot ∈ layout.slots)
    (other_member : other ∈ layout.slots) (same : slot.name = other.name) : slot = other :=
  List.inj_on_of_nodup_map layout.names member other_member same

theorem takes_iff_of_slot {slot : Slot σ} (member : slot ∈ layout.slots) {text : Bytes} :
    layout.Takes state slot.name text next ↔
      slot.get state = none ∧ ∃ value, slot.Spells text value ∧ next = slot.set state value := by
  constructor
  · rintro (⟨other, other_member, same, empty, taken⟩ | ⟨other_names, _⟩)
    · obtain rfl := layout.slot_unique other_member member same
      exact ⟨empty, taken⟩
    · exact absurd rfl (other_names slot member)
  · rintro ⟨empty, taken⟩
    exact .inl ⟨slot, member, rfl, empty, taken⟩

theorem takes_iff_of_other {key : String} (other_names : ∀ slot ∈ layout.slots, slot.name ≠ key)
    {text : Bytes} : layout.Takes state key text next ↔ next = state := by
  constructor
  · rintro (⟨slot, member, same, _⟩ | ⟨_, next_eq⟩)
    · exact absurd same (other_names slot member)
    · exact next_eq
  · rintro rfl
    exact .inr ⟨other_names, rfl⟩

theorem find?_field {slot : Slot σ} (member : slot ∈ layout.slots) :
    record.fields.find? (·.name = slot.name) = some slot.field := by
  rw [layout.fields_eq]
  cases found : (layout.slots.map Slot.field).find? (·.name = slot.name) with
  | none =>
      have unnamed := List.find?_eq_none.mp found _ (List.mem_map_of_mem member)
      exact absurd (decide_eq_true rfl) unnamed
  | some field =>
      obtain ⟨other, other_member, rfl⟩ := List.mem_map.mp (List.mem_of_find?_eq_some found)
      have accepted := List.find?_some found
      have same : other.name = slot.name := of_decide_eq_true accepted
      rw [layout.slot_unique other_member member same]

/-- The members of a record are read into its slots. -/
theorem readsMember : ReadsMember record.readMember layout.Takes := by
  intro state key
  by_cases known : ∃ slot ∈ layout.slots, slot.name = key
  · obtain ⟨slot, member, rfl⟩ := known
    have found := layout.find?_field member
    by_cases empty : slot.get state = none
    · refine ⟨_, (slot.reads.map (slot.set state)).congr ?_, ?_⟩
      · intro text next
        rw [layout.takes_iff_of_slot member]
        exact (and_iff_right empty).symm
      · intro source result
        simp only [RecordReader.readMember, found, Slot.field, empty, Option.isSome_none,
          Bool.false_eq_true, if_false]
    · refine ⟨_, (Reads.error .mismatch).congr ?_, ?_⟩
      · intro text next
        rw [layout.takes_iff_of_slot member]
        exact ⟨False.elim, fun taken => empty taken.1⟩
      · intro source result
        have filled : (slot.get state).isSome = true := Option.isSome_iff_ne_none.mpr empty
        simp only [RecordReader.readMember, found, Slot.field, filled, if_true, reduceCtorEq,
          afterColon_eq_ok_iff, and_false, exists_false]
  · have other_names : ∀ slot ∈ layout.slots, slot.name ≠ key :=
      fun slot member same => known ⟨slot, member, same⟩
    have unknown : record.fields.find? (·.name = key) = none := by
      rw [layout.fields_eq, List.find?_eq_none]
      intro field member
      obtain ⟨slot, slot_member, rfl⟩ := List.mem_map.mp member
      exact fun same => other_names slot slot_member (of_decide_eq_true same)
    refine ⟨_, (reads_skip state).congr ?_, ?_⟩
    · intro text next
      exact (layout.takes_iff_of_other other_names).symm
    · intro source result
      simp only [RecordReader.readMember, unknown]

/-- The members of an object describe a state: their keys spell texts, and each slot has what the
member of its name gives. -/
structure Describes (properties : List Property) (last : σ) : Prop where
  keys : ∀ property ∈ properties, ∃ key : String, Literal property.key key.toList
  gives : ∀ slot ∈ layout.slots, Gives slot.name slot.Spells properties (slot.get last)

theorem get_of_takes {slot : Slot σ} (member : slot ∈ layout.slots) {key : String} {text : Bytes}
    (differ : slot.name ≠ key) (takes : layout.Takes state key text next) :
    slot.get next = slot.get state := by
  rcases takes with ⟨other, other_member, rfl, _, value, _, rfl⟩ | ⟨_, rfl⟩
  · exact layout.apart other other_member slot member differ.symm _ _
  · rfl

/-- What a slot makes of the members after one that is taken, it makes of them all. -/
theorem fills_of_takes {slot : Slot σ} (member : slot ∈ layout.slots) {key : String}
    {property : Property} {final : Option slot.Value} (named : IsNamed key property)
    (takes : layout.Takes state key property.value.text next)
    (fills : Fills slot.name slot.Spells (slot.get next) properties final) :
    Fills slot.name slot.Spells (slot.get state) (property :: properties) final := by
  by_cases same : slot.name = key
  · subst same
    obtain ⟨empty, value, spells, rfl⟩ := (layout.takes_iff_of_slot member).mp takes
    rw [slot.get_set] at fills
    exact .inr ⟨named, empty, value, spells, fills⟩
  · rw [layout.get_of_takes member same takes] at fills
    exact .inl ⟨named.not_of_ne same, fills⟩

/-- Where every slot fills, the first member is taken. -/
theorem exists_takes_of_fills {key : String} {property : Property} (named : IsNamed key property)
    (fills : ∀ slot ∈ layout.slots, Fills slot.name slot.Spells (slot.get state)
      (property :: properties) (slot.get last)) :
    ∃ next, layout.Takes state key property.value.text next ∧
      ∀ slot ∈ layout.slots,
        Fills slot.name slot.Spells (slot.get next) properties (slot.get last) := by
  -- a slot of another name passes the member
  have passed : ∀ slot ∈ layout.slots, slot.name ≠ key →
      Fills slot.name slot.Spells (slot.get state) properties (slot.get last) := by
    intro slot member differ
    rcases fills slot member with ⟨_, others⟩ | ⟨slot_named, _⟩
    · exact others
    · exact absurd slot_named (named.not_of_ne differ)
  by_cases known : ∃ slot ∈ layout.slots, slot.name = key
  · obtain ⟨slot, member, rfl⟩ := known
    rcases fills slot member with ⟨unnamed, _⟩ | ⟨_, empty, value, spells, others⟩
    · exact absurd named unnamed
    refine ⟨slot.set state value, (layout.takes_iff_of_slot member).mpr ⟨empty, value, spells, rfl⟩,
      fun other other_member => ?_⟩
    by_cases same : other.name = slot.name
    · obtain rfl := layout.slot_unique other_member member same
      rw [other.get_set]
      exact others
    · rw [layout.apart slot member other other_member (Ne.symm same)]
      exact passed other other_member same
  · have other_names : ∀ slot ∈ layout.slots, slot.name ≠ key :=
      fun slot member same => known ⟨slot, member, same⟩
    exact ⟨state, (layout.takes_iff_of_other other_names).mpr rfl,
      fun slot member => passed slot member (other_names slot member)⟩

/-- Members are collected slot by slot. -/
theorem collects_iff :
    Collects layout.Takes state properties last ↔
      (∀ property ∈ properties, ∃ key : String, Literal property.key key.toList) ∧
        ∀ slot ∈ layout.slots,
          Fills slot.name slot.Spells (slot.get state) properties (slot.get last) := by
  induction properties generalizing state with
  | nil =>
      rw [collects_nil_iff]
      constructor
      · rintro rfl
        exact ⟨List.forall_mem_nil _, fun slot member => rfl⟩
      · rintro ⟨_, fills⟩
        exact layout.ext _ _ fills
  | cons property properties ih =>
      rw [collects_cons_iff]
      constructor
      · rintro ⟨key, next, named, takes, collects⟩
        obtain ⟨keys, fills⟩ := ih.mp collects
        exact ⟨List.forall_mem_cons.mpr ⟨⟨key, named⟩, keys⟩, fun slot member =>
          layout.fills_of_takes member named takes (fills slot member)⟩
      · rintro ⟨keys, fills⟩
        obtain ⟨⟨key, named⟩, keys⟩ := List.forall_mem_cons.mp keys
        obtain ⟨next, takes, fills⟩ := layout.exists_takes_of_fills named fills
        exact ⟨key, next, named, takes, ih.mpr ⟨keys, fills⟩⟩

theorem collects_start_iff :
    Collects layout.Takes record.start properties last ↔ layout.Describes properties last := by
  rw [collects_iff]
  constructor
  · rintro ⟨keys, fills⟩
    refine ⟨keys, fun slot member => ?_⟩
    rw [← fills_none_iff, ← layout.blank slot member]
    exact fills slot member
  · rintro ⟨keys, gives⟩
    refine ⟨keys, fun slot member => ?_⟩
    rw [layout.blank slot member, fills_none_iff]
    exact gives slot member

/-! ## Objects -/

theorem complete_eq_ok_iff {record : RecordReader σ α} {value : α} :
    record.complete state = .ok value ↔ record.finish state = some value := by
  rw [RecordReader.complete]
  cases record.finish state <;> simp

theorem read_object_eq_ok_iff {inner : List Token} :
    record.read (.opening .object :: inner) = .ok (value, left) ↔
      ∃ last, readMembers record.readMember (inner.length + 1) true record.start inner =
        .ok (last, left) ∧ record.finish last = some value := by
  constructor
  · intro read_eq
    obtain ⟨⟨last, after⟩, members_eq, read_eq⟩ := ok_of_bind read_eq
    obtain ⟨made, complete_eq, read_eq⟩ := ok_of_bind read_eq
    cases read_eq
    exact ⟨last, members_eq, complete_eq_ok_iff.mp complete_eq⟩
  · rintro ⟨last, members_eq, finish_eq⟩
    rw [RecordReader.read, members_eq]
    simp only [bind, Except.bind, complete_eq_ok_iff.mpr finish_eq]

/-- An object is read as the record exactly if its members describe a state that can be finished,
whatever follows the object. -/
theorem read_object_iff (spaces : IsSpaces space) (members : AreMembers properties) :
    record.read (tokens (objectOctets space properties ++ rest)) = .ok (value, left) ↔
      (∃ last, layout.Describes properties last ∧ record.finish last = some value) ∧
        left = tokens rest := by
  rw [tokens_object, read_object_eq_ok_iff]
  simp only [layout.readsMember.readObject_iff spaces members rfl, layout.collects_start_iff]
  constructor
  · rintro ⟨last, ⟨describes, left_eq⟩, finish_eq⟩
    exact ⟨⟨last, describes, finish_eq⟩, left_eq⟩
  · rintro ⟨⟨last, describes, finish_eq⟩, left_eq⟩
    exact ⟨last, ⟨describes, left_eq⟩, finish_eq⟩

include layout in
/-- What is read as the record, and begins as an object, is one. -/
theorem exists_object {inner : List Token} (shown : tokens source = .opening .object :: inner)
    (read_eq : record.read (tokens source) = .ok (value, left)) :
    ∃ before space properties rest, IsSpaces before ∧ IsSpaces space ∧ AreMembers properties ∧
      source = before ++ (objectOctets space properties ++ rest) ∧ left = tokens rest := by
  rw [shown, read_object_eq_ok_iff] at read_eq
  obtain ⟨last, members_eq, _⟩ := read_eq
  obtain ⟨before, space, properties, rest, before_spaces, spaces, members, source_eq, left_eq, _⟩ :=
    layout.readsMember.exists_object shown members_eq
  exact ⟨before, space, properties, rest, before_spaces, spaces, members, source_eq, left_eq⟩

end Layout

end RemoteTail.Json
