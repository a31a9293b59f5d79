import Mathlib.Data.List.Forall2
import RemoteTail.Proofs.CommandLine.Items

/-!
# Arrangements of a command line

What a command line is to say can be put in many orders and in different
spellings.  As long as the coordinates stand in their order and the headers in
theirs, all of them are read as one command line, and it gives what was to be said
(`parse_arrangements`).

Items in another order have the same coordinates and the same texts for every
setting: a setting that is given once has no order to lose (`Arranges.texts_eq`).
-/

namespace RemoteTail.CommandLine

/-- What a command line is to say: the coordinates, the texts for each setting in their order, and
the flags that are raised. -/
structure Invocation where
  /-- The coordinates, in order. -/
  coordinates : List String
  /-- The texts that each setting is given, in order. -/
  texts : Setting → List String
  /-- Whether a flag is raised. -/
  raised : Flag → Bool

namespace Invocation

/-- The items that concern a switch. -/
def itemsOf (invocation : Invocation) : Switch → List Item
  | .setting setting => (invocation.texts setting).map (.setting setting)
  | .flag flag => if invocation.raised flag then [.flag flag] else []

/-- The items of an invocation: the coordinates, and then those of all switches. -/
def items (invocation : Invocation) : List Item :=
  invocation.coordinates.map .coordinate ++ Switch.all.flatMap invocation.itemsOf

/-- The items are those of an invocation in some order, in which the coordinates keep theirs and
the headers too. -/
structure Arranges (items : List Item) (invocation : Invocation) : Prop where
  perm : items.Perm invocation.items
  coordinates_eq : Item.coordinates items = invocation.coordinates
  headers_eq : Item.texts items .header = invocation.texts .header

/-- There are four coordinates, only headers are given again and again, every text can be read
and looks like no switch, and a run is asked for. -/
structure Sound (invocation : Invocation) : Prop where
  four : invocation.coordinates.length = coordinateCount
  plain : ∀ text ∈ invocation.coordinates, Plain text
  once : ∀ setting ≠ .header, (invocation.texts setting).length ≤ 1
  accepted : ∀ setting, ∀ text ∈ invocation.texts setting, Plain text ∧ setting.Accepts text
  runs : ∀ flag, invocation.raised flag = true → flag = .tail ∨ flag = .follow

variable {invocation : Invocation} {items : List Item}

/-! ## The items of an invocation -/

theorem eq_of_mem_itemsOf {item : Item} {switch : Switch}
    (member : item ∈ invocation.itemsOf switch) :
    (∃ setting, ∃ text ∈ invocation.texts setting, item = .setting setting text) ∨
      ∃ flag, invocation.raised flag = true ∧ item = .flag flag := by
  cases switch with
  | setting setting =>
      obtain ⟨text, given, rfl⟩ := List.mem_map.mp member
      exact .inl ⟨setting, text, given, rfl⟩
  | flag flag =>
      simp only [itemsOf, List.mem_ite_nil_right, List.mem_singleton] at member
      exact .inr ⟨flag, member⟩

theorem coordinates_items (invocation : Invocation) :
    Item.coordinates invocation.items = invocation.coordinates := by
  have own : Item.coordinates (invocation.coordinates.map .coordinate) =
      invocation.coordinates := by
    rw [Item.coordinates, List.filterMap_map]
    exact List.filterMap_some
  have none_else : Item.coordinates (Switch.all.flatMap invocation.itemsOf) = [] := by
    rw [Item.coordinates, List.filterMap_eq_nil_iff]
    intro item member
    obtain ⟨switch, _, member⟩ := List.mem_flatMap.mp member
    obtain ⟨_, _, _, rfl⟩ | ⟨_, _, rfl⟩ := eq_of_mem_itemsOf member
    · rfl
    · rfl
  rw [items, Item.coordinates_append, own, none_else, List.append_nil]

theorem texts_itemsOf (invocation : Invocation) (setting : Setting) (switch : Switch) :
    Item.texts (invocation.itemsOf switch) setting =
      if switch = .setting setting then invocation.texts setting else [] := by
  cases switch with
  | setting given =>
      by_cases same : given = setting
      · subst same
        simp [itemsOf, Item.texts, Item.text?, List.filterMap_map, Function.comp_def]
      · simp [itemsOf, Item.texts, Item.text?, same]
  | flag flag =>
      cases raised : invocation.raised flag with
      | false => simp [itemsOf, raised, Item.texts]
      | true => simp [itemsOf, raised, Item.texts, Item.text?]

theorem texts_items (invocation : Invocation) (setting : Setting) :
    Item.texts invocation.items setting = invocation.texts setting := by
  have none_else : Item.texts (invocation.coordinates.map .coordinate) setting = [] := by
    simp [Item.texts, Item.text?]
  have switches : Item.texts (Switch.all.flatMap invocation.itemsOf) setting =
      Switch.all.flatMap fun switch => Item.texts (invocation.itemsOf switch) setting :=
    List.filterMap_flatMap
  rw [items, Item.texts_append, none_else, List.nil_append, switches]
  simp only [texts_itemsOf]
  cases setting <;> simp [Switch.all]

theorem count_itemsOf (invocation : Invocation) (flag : Flag) (switch : Switch) :
    (invocation.itemsOf switch).count (.flag flag) =
      if switch = .flag flag then (invocation.raised flag).toNat else 0 := by
  cases switch with
  | setting setting => simp [itemsOf, List.count_eq_zero]
  | flag given =>
      by_cases same : given = flag
      · subst same
        cases raised : invocation.raised given with
        | false => simp [itemsOf, raised]
        | true => simp [itemsOf, raised]
      · cases raised : invocation.raised given with
        | false => simp [itemsOf, raised, same]
        | true => simp [itemsOf, raised, same]

theorem count_items (invocation : Invocation) (flag : Flag) :
    invocation.items.count (.flag flag) = (invocation.raised flag).toNat := by
  have none_own : (invocation.coordinates.map Item.coordinate).count (.flag flag) = 0 := by
    simp [List.count_eq_zero]
  rw [items, List.count_append, none_own, Nat.zero_add, List.count_flatMap]
  simp only [Function.comp_def, count_itemsOf]
  cases flag <;> simp [Switch.all]

theorem Sound.accepted_of_mem {item : Item} (sound : invocation.Sound)
    (member : item ∈ invocation.items) : item.Accepted := by
  rcases List.mem_append.mp member with own | other
  · obtain ⟨text, given, rfl⟩ := List.mem_map.mp own
    exact sound.plain text given
  · obtain ⟨switch, _, member⟩ := List.mem_flatMap.mp other
    obtain ⟨setting, text, given, rfl⟩ | ⟨flag, raised, rfl⟩ := eq_of_mem_itemsOf member
    · exact sound.accepted setting text given
    · exact sound.runs flag raised

theorem Sound.fit (sound : invocation.Sound) : Item.Fit invocation.items where
  room := by
    rw [coordinates_items, sound.four]
  once setting single := by
    rw [texts_items]
    exact sound.once setting single
  raised flag := by
    rw [count_items]
    exact Bool.toNat_le _
  accepted _ := sound.accepted_of_mem

/-! ## Items in another order -/

theorem Arranges.texts_eq (arranges : Arranges items invocation) (sound : invocation.Sound)
    (setting : Setting) : Item.texts items setting = invocation.texts setting := by
  by_cases header : setting = .header
  · subst header
    exact arranges.headers_eq
  · have perm : (Item.texts items setting).Perm (invocation.texts setting) := by
      have perm := arranges.perm.filterMap (Item.text? setting)
      rwa [← Item.texts, ← Item.texts, texts_items] at perm
    have once := sound.once setting header
    cases given : invocation.texts setting with
    | nil =>
        rw [given] at perm
        exact perm.eq_nil
    | cons text more =>
        rw [given, List.length_cons] at once
        obtain rfl : more = [] := List.length_eq_zero_iff.mp (by omega)
        rw [given] at perm
        exact List.perm_singleton.mp perm

theorem Arranges.flagged_eq (arranges : Arranges items invocation) (flag : Flag) :
    Item.flagged items flag = invocation.raised flag := by
  have count_eq := arranges.perm.count_eq (.flag flag)
  rw [count_items] at count_eq
  rw [Item.flagged, Bool.eq_iff_iff, decide_eq_true_iff, ← List.count_pos_iff, count_eq]
  cases invocation.raised flag <;> decide

/-! ## What an invocation gives -/

theorem denotes_head? {texts : List String}
    (accepts : ∀ text ∈ texts, ∃ number < 2 ^ 64, Denotes text number) :
    Option.Rel Denotes texts.head? (texts.head?.bind Options.word?) := by
  cases texts with
  | nil => exact .none
  | cons text texts =>
      obtain ⟨number, fits, denotes⟩ := accepts text List.mem_cons_self
      rw [List.head?_cons, Option.bind_some, Options.word?_of_denotes denotes fits]
      exact .some denotes

theorem forall₂_parse {texts : List String}
    (accepts : ∀ text ∈ texts, ∃ header, Header.parse text = .ok header) :
    List.Forall₂ (fun text header => Header.parse text = .ok header) texts
      (texts.filterMap fun text => (Header.parse text).toOption) := by
  induction texts with
  | nil => exact .nil
  | cons text texts ih =>
      obtain ⟨⟨header, parsed⟩, others⟩ := List.forall_mem_cons.mp accepts
      simp only [List.filterMap_cons, parsed, Except.toOption]
      exact .cons parsed (ih others)

theorem name_head? {texts : List String}
    (accepts : ∀ text ∈ texts, ∃ format : OutputFormat, format.name = text) :
    ((texts.head?.bind Options.format?).getD .text).name = texts.head?.getD "text" := by
  cases texts with
  | nil => rfl
  | cons text texts =>
      obtain ⟨format, rfl⟩ := accepts text List.mem_cons_self
      rw [List.head?_cons, Option.bind_some, Options.format?_name]
      rfl

/-- The options of an invocation. -/
def options (invocation : Invocation) (environment : Option String) : Options :=
  let options : Options :=
    .reading invocation.texts (invocation.raised .tail) (invocation.raised .follow)
  { options with endpoint := options.endpoint.or environment }

/-- A command line says what an invocation does, and what it leaves out by default; an endpoint
may be left to the environment. -/
structure Gives (invocation : Invocation) (environment : Option String) (line : CommandLine) :
    Prop where
  coordinates_eq :
    [line.agentId, line.frameworkId, line.executorId, line.containerId] = invocation.coordinates
  taskPath_eq : line.options.taskPath = (invocation.texts .taskPath).head?
  file_eq : line.file = (invocation.texts .file).head?.getD "stdout"
  lines : Option.Rel Denotes (invocation.texts .lines).head? line.options.lines
  tail_eq : line.options.tail = invocation.raised .tail
  follow_eq : line.options.follow = invocation.raised .follow
  format_eq : line.format.name = (invocation.texts .format).head?.getD "text"
  headers : List.Forall₂ (fun text header => Header.parse text = .ok header)
    (invocation.texts .header) line.options.headers
  endpoint_eq : line.options.endpoint = (invocation.texts .endpoint).head?.or environment
  chunkSize : Option.Rel Denotes (invocation.texts .chunkSize).head? line.options.chunkSize
  pollInterval :
    Option.Rel Denotes (invocation.texts .pollInterval).head? line.options.pollInterval
  direction_iff : line.readConfig.direction = .bottomToTop ↔ invocation.raised .tail = true
  stream_eq : line.readConfig.stream = invocation.raised .follow
  maxLines_eq : line.readConfig.maxLines =
    line.options.lines.getD (if invocation.raised .tail then 10 else 2 ^ 64 - 1)

/-- All arrangements of an invocation are read as one command line, and it gives what the
invocation says. -/
theorem parse_arrangements (sound : invocation.Sound) (environment : Option String) :
    ∃ line, invocation.Gives environment line ∧
      ∀ items arguments, Arranges items invocation → Item.Spell items arguments →
        parse arguments environment = .ok line := by
  obtain ⟨agentId, frameworkId, executorId, containerId, four⟩ :=
    List.length_eq_four.mp sound.four
  have accepts (setting : Setting) : ∀ text ∈ invocation.texts setting, setting.Accepts text :=
    fun text given => (sound.accepted setting text given).2
  refine ⟨⟨agentId, frameworkId, executorId, containerId, invocation.options environment⟩, ?_, ?_⟩
  · exact {
      coordinates_eq := four.symm
      taskPath_eq := rfl
      file_eq := rfl
      lines := denotes_head? (accepts .lines)
      tail_eq := rfl
      follow_eq := rfl
      format_eq := name_head? (accepts .format)
      headers := forall₂_parse (accepts .header)
      endpoint_eq := rfl
      chunkSize := denotes_head? (accepts .chunkSize)
      pollInterval := denotes_head? (accepts .pollInterval)
      direction_iff := by
        cases raised : invocation.raised .tail with
        | false => simp [readConfig, options, Options.reading, raised]
        | true => simp [readConfig, options, Options.reading, raised]
      stream_eq := rfl
      maxLines_eq := rfl }
  · intro items arguments arranges spell
    have fit : Item.Fit items := sound.fit.perm arranges.perm
    have texts_eq : Item.texts items = invocation.texts := by
      funext setting
      exact arranges.texts_eq sound setting
    rw [parse_of_spell spell fit (arranges.coordinates_eq.trans four), Item.draft, texts_eq,
      arranges.flagged_eq, arranges.flagged_eq]
    rfl

/-- The last lines and all that follows, with two headers. -/
def followedTail : Invocation where
  coordinates := ["a", "f", "e", "c"]
  texts := fun
    | .lines => ["+25"]
    | .header => ["X: y", "X:z"]
    | _ => []
  raised := fun flag => flag = .tail ∨ flag = .follow

theorem followedTail_sound : followedTail.Sound where
  four := rfl
  plain := by decide
  once setting _ := by
    cases setting with
    | header => contradiction
    | _ => decide
  accepted setting text given := by
    cases setting with
    | lines =>
        obtain rfl := List.mem_singleton.mp given
        exact ⟨by decide, 25, by decide,
          .signed _ (by decide) (@.place ['2'] 2 5 (@.digit 2 (by decide)) (by decide))⟩
    | header =>
        obtain rfl | given := List.mem_cons.mp given
        · exact ⟨by decide, ("X", "y"), by decide⟩
        · obtain rfl := List.mem_singleton.mp given
          exact ⟨by decide, ("X", "z"), by decide⟩
    | _ => cases given
  runs _ raised := of_decide_eq_true raised

/-- The items of one invocation in two orders, and in different spellings. -/
theorem parse_arrangements_of_two_orders :
    followedTail.Sound ∧
      parse ["-n", "+25", "a", "--tail", "f", "-H", "X: y", "e", "--header", "X:z", "c", "-f"]
          (some "http://h/") =
        parse ["a", "f", "e", "c", "--header", "X: y", "-t", "-H", "X:z", "--follow", "--lines",
          "+25"] (some "http://h/") ∧
      parse ["a", "f", "e", "c", "--header", "X: y", "-t", "-H", "X:z", "--follow", "--lines",
          "+25"] (some "http://h/") =
        .ok ⟨"a", "f", "e", "c",
          { lines := some 25, tail := true, follow := true, headers := [("X", "y"), ("X", "z")],
            endpoint := some "http://h/" }⟩ := by
  obtain ⟨line, _, reads⟩ := parse_arrangements followedTail_sound (some "http://h/")
  have mixed := reads
    [.setting .lines "+25", .coordinate "a", .flag .tail, .coordinate "f",
      .setting .header "X: y", .coordinate "e", .setting .header "X:z", .coordinate "c",
      .flag .follow]
    ["-n", "+25", "a", "--tail", "f", "-H", "X: y", "e", "--header", "X:z", "c", "-f"]
    ⟨by decide, rfl, rfl⟩
    (.cons (.setting _ (by decide)) <| .cons (.coordinate _) <| .cons (.flag (by decide)) <|
      .cons (.coordinate _) <| .cons (.setting _ (by decide)) <| .cons (.coordinate _) <|
      .cons (.setting _ (by decide)) <| .cons (.coordinate _) <| .cons (.flag (by decide)) .nil)
  have coordinates_first := reads
    [.coordinate "a", .coordinate "f", .coordinate "e", .coordinate "c",
      .setting .header "X: y", .flag .tail, .setting .header "X:z", .flag .follow,
      .setting .lines "+25"]
    ["a", "f", "e", "c", "--header", "X: y", "-t", "-H", "X:z", "--follow", "--lines", "+25"]
    ⟨by decide, rfl, rfl⟩
    (.cons (.coordinate _) <| .cons (.coordinate _) <| .cons (.coordinate _) <|
      .cons (.coordinate _) <| .cons (.setting _ (by decide)) <| .cons (.flag (by decide)) <|
      .cons (.setting _ (by decide)) <| .cons (.flag (by decide)) <|
      .cons (.setting _ (by decide)) .nil)
  exact ⟨followedTail_sound, mixed.trans coordinates_first.symm, rfl⟩

end Invocation

end RemoteTail.CommandLine
