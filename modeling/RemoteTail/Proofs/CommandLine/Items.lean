import Mathlib.Data.List.TakeWhile
import RemoteTail.CommandLine.Parse
import RemoteTail.Proofs.CommandLine.Values

/-!
# The items of a command line

A command line consists of items: coordinates, settings with their texts, and
flags.  An item is spelled by one argument or by two, and the text of a setting
waits until the next item is taken, so a draft amounts to the items that have been
taken as soon as that text has been looked at (`Draft.AmountsTo`).

One more item adds to the draft what it is (`take_item`).  By induction over the
items, a whole command line is read as what its items come to, each kind of them
apart from the others (`parse_of_spell`).
-/

namespace RemoteTail

/-! ## Spellings -/

/-- A text that no hyphen begins. -/
def Plain (text : String) : Prop :=
  text.toList.head? ≠ some '-'

instance (text : String) : Decidable (Plain text) :=
  inferInstanceAs (Decidable (_ ≠ _))

namespace Switch

/-- The spellings of a switch. -/
def spellings : Switch → List String
  | .setting .taskPath => ["--task-path"]
  | .setting .file => ["--file"]
  | .setting .lines => ["--lines", "-n"]
  | .setting .format => ["--format"]
  | .setting .header => ["--header", "-H"]
  | .setting .endpoint => ["--endpoint"]
  | .setting .chunkSize => ["--chunk-size"]
  | .setting .pollInterval => ["--poll-interval-ms"]
  | .flag .tail => ["--tail", "-t"]
  | .flag .follow => ["--follow", "-f"]
  | .flag .help => ["--help", "-h"]
  | .flag .version => ["--version", "-V"]

/-- A spelling is the long one after two hyphens, or the letter after one. -/
theorem spellings_eq (switch : Switch) :
    switch.spellings = ("--" ++ switch.long) ::
      switch.letter?.toList.map fun letter => String.ofList ['-', letter] := by
  rcases switch with (_ | _ | _ | _ | _ | _ | _ | _) | (_ | _ | _ | _) <;> decide

theorem long_nonempty (switch : Switch) : switch.long.toList ≠ [] := by
  rcases switch with (_ | _ | _ | _ | _ | _ | _ | _) | (_ | _ | _ | _) <;> decide

theorem equals_not_mem_long (switch : Switch) : '=' ∉ switch.long.toList := by
  rcases switch with (_ | _ | _ | _ | _ | _ | _ | _) | (_ | _ | _ | _) <;> decide

theorem ofLetter?_letter {switch : Switch} {letter : Char} (has : switch.letter? = some letter) :
    ofLetter? letter = some switch ∧ letter ≠ '-' := by
  rcases switch with (_ | _ | _ | _ | _ | _ | _ | _) | (_ | _ | _ | _) <;> cases has <;> decide

end Switch

namespace CommandLine

/-! ## Taking an argument -/

namespace Draft

variable {draft settled : Draft} {text spelling : String} {switch : Switch} {setting : Setting}

/-- Takes a switch, to which no value is attached. -/
def takeSwitch (draft : Draft) : Switch → Except Refusal Draft
  | .setting setting => draft.takeSetting setting none
  | .flag flag => draft.takeFlag flag

theorem take_long (on : draft.switchesOver = false) (switch : Switch) :
    draft.take ("--" ++ switch.long) = draft.takeSwitch switch := by
  have no_equals : ∀ c ∈ switch.long.toList, c ≠ '=' :=
    fun _ member same => switch.equals_not_mem_long (same ▸ member)
  have whole : switch.long.toList.takeWhile (· ≠ '=') = switch.long.toList :=
    List.takeWhile_eq_self_iff.mpr fun c member => decide_eq_true (no_equals c member)
  have nothing : switch.long.toList.dropWhile (· ≠ '=') = [] :=
    List.dropWhile_eq_nil_iff.mpr fun c member => decide_eq_true (no_equals c member)
  have taken : draft.takeLong switch.long.toList = draft.takeSwitch switch := by
    simp only [takeLong, whole, nothing, String.ofList_toList, Switch.ofLong?_long]
    cases switch <;> rfl
  rw [← taken, take, on, String.toList_append]
  cases spelling : switch.long.toList with
  | nil => exact absurd spelling switch.long_nonempty
  | cons c cs => rfl

theorem take_letter (on : draft.switchesOver = false) {letter : Char}
    (has : switch.letter? = some letter) :
    draft.take (String.ofList ['-', letter]) = draft.takeSwitch switch := by
  obtain ⟨found, no_hyphen⟩ := Switch.ofLetter?_letter has
  have taken : draft.takeLetters [letter] = draft.takeSwitch switch := by
    rw [takeLetters, found]
    cases switch with
    | setting setting => rfl
    | flag flag => exact bind_pure (draft.takeFlag flag)
  rw [← taken, take, on, String.toList_ofList]
  simp [no_hyphen]

theorem take_switch (on : draft.switchesOver = false) (spelled : spelling ∈ switch.spellings) :
    draft.take spelling = draft.takeSwitch switch := by
  rw [Switch.spellings_eq, List.mem_cons] at spelled
  obtain rfl | short := spelled
  · exact take_long on switch
  · obtain ⟨letter, has, rfl⟩ := List.mem_map.mp short
    exact take_letter on (Option.mem_toList.mp has)

theorem take_plain (on : draft.switchesOver = false) (plain : Plain text) :
    draft.take text = draft.takePlain text := by
  unfold Plain at plain
  rw [take, on]
  cases chars : text.toList with
  | nil => rfl
  | cons c cs =>
      rw [chars] at plain
      have no_hyphen : c ≠ '-' := fun hyphen => plain (congrArg some hyphen)
      simp [no_hyphen]

theorem coordinates_of_settle (settles : draft.settle = .ok settled) :
    settled.coordinates = draft.coordinates := by
  unfold settle at settles
  split at settles
  · cases settles
    rfl
  · cases settles
  · rename_i setting value _
    cases assigned : draft.options.assign setting value with
    | error refusal =>
        rw [assigned] at settles
        cases settles
    | ok options =>
        rw [assigned] at settles
        cases settles
        rfl

/-- The value that waits is looked at before a coordinate is taken. -/
theorem takePlain_of_settle (settles : draft.settle = .ok settled)
    (room : settled.coordinates.length < coordinateCount) :
    draft.takePlain text = .ok { settled with coordinates := settled.coordinates ++ [text] } := by
  have placed : draft.takeCoordinate text =
      .ok { settled with coordinates := settled.coordinates ++ [text] } := by
    rw [coordinates_of_settle settles] at room
    rw [takeCoordinate, if_pos room, settles]
    rfl
  unfold takePlain
  split
  · rename_i lacking
    rw [settle, lacking] at settles
    cases settles
  · exact placed

end Draft

/-! ## Items -/

/-- What stands on a command line: a coordinate, a setting with its text, or a flag. -/
inductive Item where
  /-- A coordinate. -/
  | coordinate (text : String)
  /-- A setting and the text that it is given. -/
  | setting (setting : Setting) (text : String)
  /-- A flag. -/
  | flag (flag : Flag)
deriving DecidableEq

namespace Item

/-- The arguments that spell an item.  A value is an argument of its own. -/
inductive SpelledBy : Item → List String → Prop
  | coordinate (text : String) : SpelledBy (.coordinate text) [text]
  | setting {setting : Setting} {spelling : String} (text : String)
      (spelled : spelling ∈ (Switch.setting setting).spellings) :
      SpelledBy (.setting setting text) [spelling, text]
  | flag {flag : Flag} {spelling : String} (spelled : spelling ∈ (Switch.flag flag).spellings) :
      SpelledBy (.flag flag) [spelling]

/-- The arguments spell the items, one after another. -/
inductive Spell : List Item → List String → Prop
  | nil : Spell [] []
  | cons {item : Item} {items : List Item} {piece arguments : List String}
      (spelled : item.SpelledBy piece) (rest : Spell items arguments) :
      Spell (item :: items) (piece ++ arguments)

/-- Whether the text of an item is no switch and can be read, and whether a flag leads to a run. -/
def Accepted : Item → Prop
  | .coordinate text => Plain text
  | .setting given text => Plain text ∧ given.Accepts text
  | .flag raised => raised = .tail ∨ raised = .follow

/-- The text of a coordinate. -/
def coordinate? : Item → Option String
  | .coordinate text => some text
  | _ => none

/-- The text that a setting is given. -/
def text? (setting : Setting) : Item → Option String
  | .setting given text => if given = setting then some text else none
  | _ => none

/-- The coordinates among some items. -/
def coordinates (items : List Item) : List String :=
  items.filterMap coordinate?

/-- The texts that a setting is given by some items. -/
def texts (items : List Item) (setting : Setting) : List String :=
  items.filterMap (text? setting)

/-- Whether a flag is among some items. -/
def flagged (items : List Item) (flag : Flag) : Bool :=
  .flag flag ∈ items

/-- What some items come to, one after another. -/
def draft (items : List Item) : Draft where
  coordinates := coordinates items
  options := .reading (texts items) (flagged items .tail) (flagged items .follow)

/-- Items that can stand together on a command line: there is a place for each coordinate, and
only headers are given again and again. -/
structure Fit (items : List Item) : Prop where
  room : (coordinates items).length ≤ coordinateCount
  once : ∀ setting ≠ .header, (texts items setting).length ≤ 1
  raised : ∀ flag, items.count (.flag flag) ≤ 1
  accepted : ∀ item ∈ items, item.Accepted

variable {items done others : List Item} {item : Item} {setting : Setting} {text : String}

theorem coordinates_append (first second : List Item) :
    coordinates (first ++ second) = coordinates first ++ coordinates second :=
  List.filterMap_append

theorem texts_append (first second : List Item) (setting : Setting) :
    texts (first ++ second) setting = texts first setting ++ texts second setting :=
  List.filterMap_append

theorem coordinates_snoc_of_none (other : item.coordinate? = none) :
    coordinates (done ++ [item]) = coordinates done := by
  rw [coordinates_append, coordinates, coordinates, List.filterMap_cons_none other]
  exact List.append_nil _

theorem texts_snoc_of_none (other : ∀ setting, item.text? setting = none) :
    texts (done ++ [item]) = texts done := by
  funext setting
  rw [texts_append, texts, texts, List.filterMap_cons_none (other setting)]
  exact List.append_nil _

theorem texts_snoc_setting (done : List Item) (setting : Setting) (text : String) :
    texts (done ++ [.setting setting text]) =
      Function.update (texts done) setting (texts done setting ++ [text]) := by
  funext given
  rw [texts_append, Function.update_apply]
  by_cases same : given = setting
  · subst same
    simp [texts, text?]
  · simp [texts, text?, same, Ne.symm same]

theorem flagged_snoc (done : List Item) (item : Item) (flag : Flag) :
    flagged (done ++ [item]) flag = (flagged done flag || .flag flag = item) := by
  simp [flagged]

theorem flagged_snoc_of_ne (done : List Item) (item : Item) (other : ∀ flag, .flag flag ≠ item) :
    flagged (done ++ [item]) = flagged done := by
  funext flag
  rw [flagged_snoc, decide_eq_false (other flag), Bool.or_false]

theorem draft_snoc_coordinate (done : List Item) (text : String) :
    draft (done ++ [.coordinate text]) =
      { draft done with coordinates := coordinates done ++ [text] } := by
  rw [draft, coordinates_append, texts_snoc_of_none fun _ => rfl,
    flagged_snoc_of_ne done (.coordinate text) nofun]
  rfl

theorem draft_snoc_setting (done : List Item) (setting : Setting) (text : String) :
    draft (done ++ [.setting setting text]) =
      { draft done with
        options := .reading (Function.update (texts done) setting (texts done setting ++ [text]))
          (flagged done .tail) (flagged done .follow) } := by
  rw [draft, coordinates_snoc_of_none rfl, texts_snoc_setting,
    flagged_snoc_of_ne done (.setting setting text) nofun]
  rfl

theorem draft_snoc_flag (done : List Item) (flag : Flag) :
    draft (done ++ [.flag flag]) =
      { draft done with
        options := .reading (texts done) (flagged done .tail || .flag .tail = Item.flag flag)
          (flagged done .follow || .flag .follow = Item.flag flag) } := by
  rw [draft, coordinates_snoc_of_none rfl, texts_snoc_of_none fun _ => rfl, flagged_snoc,
    flagged_snoc]
  rfl

/-! ## Items that fit -/

theorem Fit.of_append (fit : Fit (done ++ others)) : Fit done where
  room := by
    have room := fit.room
    rw [coordinates_append, List.length_append] at room
    omega
  once setting single := by
    have once := fit.once setting single
    rw [texts_append, List.length_append] at once
    omega
  raised flag := by
    have raised := fit.raised flag
    rw [List.count_append] at raised
    omega
  accepted item member := fit.accepted item (List.mem_append_left others member)

theorem Fit.perm (fit : Fit items) (perm : others.Perm items) : Fit others where
  room := by
    rw [coordinates, (perm.filterMap coordinate?).length_eq]
    exact fit.room
  once setting single := by
    rw [texts, (perm.filterMap (text? setting)).length_eq]
    exact fit.once setting single
  raised flag := by
    rw [perm.count_eq]
    exact fit.raised flag
  accepted item member := fit.accepted item (perm.mem_iff.mp member)

theorem Fit.fresh (fit : Fit (done ++ [.setting setting text])) (single : setting ≠ .header) :
    texts done setting = [] := by
  have once := fit.once setting single
  rw [texts_append, List.length_append] at once
  have one : (texts [.setting setting text] setting).length = 1 := by
    simp [texts, text?]
  exact List.length_eq_zero_iff.mp (by omega)

theorem Fit.lowered {flag : Flag} (fit : Fit (done ++ [.flag flag])) :
    flagged done flag = false := by
  have raised := fit.raised flag
  rw [List.count_append, List.count_singleton_self] at raised
  exact decide_eq_false (List.count_eq_zero.mp (by omega))

theorem Fit.accepted_last (fit : Fit (done ++ [item])) : item.Accepted :=
  fit.accepted item (List.mem_append_right done (List.mem_singleton.mpr rfl))

end Item

/-- A draft amounts to some items, once the value that waits has been looked at. -/
structure Draft.AmountsTo (draft : Draft) (items : List Item) : Prop where
  on : draft.switchesOver = false
  settles : draft.settle = .ok (Item.draft items)

namespace Draft.AmountsTo

variable {draft : Draft} {items done : List Item} {item : Item} {piece arguments : List String}

theorem init : AmountsTo {} [] where
  on := rfl
  settles := rfl

theorem take_coordinate {text : String} (amounts : draft.AmountsTo done)
    (fit : Item.Fit (done ++ [.coordinate text])) :
    draft.take text = .ok (Item.draft (done ++ [.coordinate text])) := by
  have room := fit.room
  rw [Item.coordinates_append, List.length_append] at room
  rw [take_plain amounts.on fit.accepted_last, takePlain_of_settle amounts.settles room,
    Item.draft_snoc_coordinate]
  rfl

theorem take_setting {setting : Setting} {spelling : String} (amounts : draft.AmountsTo done)
    (spelled : spelling ∈ (Switch.setting setting).spellings) :
    draft.take spelling = .ok { Item.draft done with waiting := some (setting, none) } := by
  rw [take_switch amounts.on spelled, takeSwitch, takeSetting, amounts.settles]
  rfl

theorem settle_given {setting : Setting} {text : String}
    (fit : Item.Fit (done ++ [.setting setting text])) :
    settle { Item.draft done with waiting := some (setting, some text) } =
      .ok (Item.draft (done ++ [.setting setting text])) := by
  have assigned : (Item.draft done).options.assign setting text = _ :=
    Options.assign_reading fit.accepted_last.2 fit.fresh
  simp only [settle, assigned, Item.draft_snoc_setting]
  rfl

theorem take_flag {flag : Flag} {spelling : String} (amounts : draft.AmountsTo done)
    (fit : Item.Fit (done ++ [.flag flag])) (spelled : spelling ∈ (Switch.flag flag).spellings) :
    draft.take spelling = .ok (Item.draft (done ++ [.flag flag])) := by
  have raised : (Item.draft done).options.raise flag =
      .ok (Item.draft (done ++ [.flag flag])).options := by
    have lowered := fit.lowered
    rw [Item.draft_snoc_flag]
    rcases fit.accepted_last with rfl | rfl
    · simp [Item.draft, Options.raise, Options.reading, lowered]
    · simp [Item.draft, Options.raise, Options.reading, lowered]
  rw [take_switch amounts.on spelled, takeSwitch, takeFlag, amounts.settles]
  change (do return { Item.draft done with options := ← (Item.draft done).options.raise flag }) = _
  rw [raised, Item.draft_snoc_flag]
  rfl

/-- The arguments of one more item are taken, and the draft then amounts to that item too. -/
theorem take_item (amounts : draft.AmountsTo done) (fit : Item.Fit (done ++ [item]))
    (spelled : item.SpelledBy piece) :
    ∃ next, piece.foldlM take draft = .ok next ∧ next.AmountsTo (done ++ [item]) := by
  cases spelled with
  | coordinate text =>
      refine ⟨Item.draft (done ++ [.coordinate text]), ?_, rfl, rfl⟩
      rw [List.foldlM_cons, take_coordinate amounts fit]
      rfl
  | @setting setting spelling text spelled =>
      refine ⟨{ Item.draft done with waiting := some (setting, some text) }, ?_, rfl,
        settle_given fit⟩
      have given : take { Item.draft done with waiting := some (setting, none) } text =
          .ok { Item.draft done with waiting := some (setting, some text) } :=
        take_plain rfl fit.accepted_last.1
      rw [List.foldlM_cons, take_setting amounts spelled]
      exact congrArg (· >>= pure) given
  | @flag flag spelling spelled =>
      refine ⟨Item.draft (done ++ [.flag flag]), ?_, rfl, rfl⟩
      rw [List.foldlM_cons, take_flag amounts fit spelled]
      rfl

/-- The arguments of items that fit are all taken. -/
theorem take_items (spell : Item.Spell items arguments) (amounts : draft.AmountsTo done)
    (fit : Item.Fit (done ++ items)) :
    ∃ last, arguments.foldlM take draft = .ok last ∧ last.AmountsTo (done ++ items) := by
  induction spell generalizing draft done with
  | nil =>
      rw [List.append_nil]
      exact ⟨draft, rfl, amounts⟩
  | @cons item items piece arguments spelled _ ih =>
      have assoc : done ++ item :: items = done ++ [item] ++ items :=
        List.append_cons done item items
      rw [assoc] at fit ⊢
      obtain ⟨next, taken, amounts⟩ := amounts.take_item fit.of_append spelled
      obtain ⟨last, others, amounts⟩ := ih amounts fit
      refine ⟨last, ?_, amounts⟩
      rw [List.foldlM_append, taken]
      exact others

end Draft.AmountsTo

/-- Items that fit are read as what they come to. -/
theorem parse_of_spell {items : List Item} {arguments : List String}
    {agentId frameworkId executorId containerId : String} (spell : Item.Spell items arguments)
    (fit : Item.Fit items)
    (four : Item.coordinates items = [agentId, frameworkId, executorId, containerId])
    (environment : Option String) :
    parse arguments environment = .ok
      { agentId, frameworkId, executorId, containerId
        options := { (Item.draft items).options with
          endpoint := (Item.draft items).options.endpoint.or environment } } := by
  obtain ⟨last, taken, amounts⟩ := Draft.AmountsTo.init.take_items spell fit
  have finished : last.finish environment = Draft.finish (Item.draft items) environment := by
    rw [Draft.finish, amounts.settles]
    rfl
  rw [parse, taken]
  change last.finish environment = _
  rw [finished, Draft.finish, Draft.settle]
  simp only [Item.draft, four, Option.orElse_eq_or]
  rfl

end CommandLine

end RemoteTail
