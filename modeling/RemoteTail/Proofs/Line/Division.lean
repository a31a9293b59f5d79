import RemoteTail.Proofs.Line.Words

/-!
# The division of a chunk

A chunk divides into messages with a terminator after each of them and a rest, so
that no other terminator is left, and it does so in one way only (`divides_iff`).
A split from the front finds this division and places each message where the
chunk has it (`split_forward_divides`).
-/

namespace RemoteTail

/-- The octets are the messages with a terminator after each of them and then the rest, and there
are no other terminators. -/
structure Divides (raw : Bytes) (messages : List Bytes) (rest : Bytes) : Prop where
  rejoins : join messages ++ rest = raw
  whole : ∀ message ∈ messages, newline ∉ message
  unended : newline ∉ rest

/-- The messages of the lines of a split. -/
def Split.messages (found : Split) : List Bytes :=
  found.lines.map Line.message

/-- The octets of a chunk that its split withholds, the last ones. -/
def Split.rest (found : Split) (raw : Bytes) : Bytes :=
  raw.drop (raw.length - found.withheld)

/-- The lines of a split are those of a chunk that begins at `base`. -/
structure Split.Places (found : Split) (raw : Bytes) (base : Nat) : Prop where
  terminated : ∀ line ∈ found.lines, line.terminated = true
  length_lines : found.lines.length = raw.count newline
  offset_eq : ∀ before line after, found.lines = before ++ line :: after →
    line.offset = base + Line.spans before
  slice_eq : ∀ line ∈ found.lines,
    raw.slice (line.offset - base) (line.offset - base + line.size) = line.message
  covered : found.consumed + found.withheld = raw.length

variable {raw rest : Bytes} {messages : List Bytes} {base : Nat}

theorem divides_cut (raw : Bytes) : Divides raw (cut raw).1 (cut raw).2 where
  rejoins := join_cut raw
  whole := newline_not_mem_messages raw
  unended := newline_not_mem_cut_rest raw

theorem cut_of_newline_not_mem (free : newline ∉ raw) : cut raw = ([], raw) := by
  have no_messages : (cut raw).1 = [] := by
    rw [← List.length_eq_zero_iff, length_cut, List.count_eq_zero]
    exact free
  have parts := join_cut raw
  rw [no_messages, join_nil, List.nil_append] at parts
  exact Prod.ext no_messages parts

/-- A chunk divides in one way. -/
theorem divides_iff : Divides raw messages rest ↔ cut raw = (messages, rest) := by
  constructor
  · rintro ⟨rfl, whole, unended⟩
    rw [cut_append, cut_join whole, List.nil_append, cut_of_newline_not_mem unended,
      List.append_nil]
  · intro cut_eq
    have divides := divides_cut raw
    rwa [cut_eq] at divides

/-! ## Lines one after another -/

theorem layLines_append (base : Nat) (first second : List Bytes) :
    layLines base (first ++ second) =
      layLines base first ++ layLines (base + (join first).length) second := by
  induction first generalizing base with
  | nil => rfl
  | cons message first ih =>
      have next_eq : base + message.length + 1 + (join first).length =
          base + (join (message :: first)).length := by
        rw [length_join_cons]
        omega
      rw [List.cons_append, layLines, layLines, ih, next_eq, List.cons_append]

theorem length_lines_split (raw : Bytes) (base : Nat) (order : ScanOrder) :
    (split raw base order).lines.length = (cut (order.arrange raw)).1.length := by
  rw [← map_message_layLines base (cut (order.arrange raw)).1, List.length_map]
  rfl

/-- Of lines laid one after another, each is laid right behind those before it. -/
theorem exists_of_layLines_eq {before after : List Line} {line : Line}
    (lines_eq : layLines base messages = before ++ line :: after) :
    ∃ first second, messages = first ++ line.message :: second ∧
      (join first).length = Line.spans before ∧ line.offset = base + Line.spans before := by
  have messages_eq := congrArg (List.map Line.message) lines_eq
  rw [map_message_layLines, List.map_append, List.map_cons] at messages_eq
  rw [messages_eq, layLines_append, layLines] at lines_eq
  have lengths_eq : (layLines base (before.map Line.message)).length = before.length := by
    rw [← List.length_map Line.message, map_message_layLines, List.length_map]
  obtain ⟨before_eq, rest_eq⟩ := List.append_inj lines_eq lengths_eq
  have spans_eq : (join (before.map Line.message)).length = Line.spans before := by
    rw [← spans_layLines base, before_eq]
  refine ⟨before.map Line.message, after.map Line.message, messages_eq, spans_eq, ?_⟩
  rw [← spans_eq, ← (List.cons.inj rest_eq).1]

/-! ## Splits from the front -/

theorem messages_split_forward (raw : Bytes) (base : Nat) :
    (split raw base .forward).messages = (cut raw).1 :=
  map_message_layLines base (cut raw).1

theorem consumed_add_withheld (raw : Bytes) (base : Nat) :
    (split raw base .forward).consumed + (split raw base .forward).withheld = raw.length := by
  have parts := length_join_cut .forward raw
  rwa [← spans_layLines base] at parts

theorem rest_split_forward (raw : Bytes) (base : Nat) :
    (split raw base .forward).rest raw = (cut raw).2 := by
  have parts := length_join_cut .forward raw
  have stop_eq : raw.length - (cut raw).2.length = (join (cut raw).1).length :=
    Nat.sub_eq_of_eq_add parts.symm
  change raw.drop (raw.length - (cut raw).2.length) = (cut raw).2
  rw [stop_eq]
  nth_rewrite 2 [← join_cut raw]
  exact List.drop_left

theorem split_forward_places (raw : Bytes) (base : Nat) :
    (split raw base .forward).Places raw base where
  terminated _ := terminated_of_mem_layLines
  length_lines := (length_lines_split raw base .forward).trans (length_cut raw)
  offset_eq _ _ _ lines_eq := by
    obtain ⟨_, _, _, _, offset_eq⟩ := exists_of_layLines_eq lines_eq
    exact offset_eq
  slice_eq line member := by
    obtain ⟨before, after, lines_eq⟩ := List.append_of_mem member
    obtain ⟨first, second, messages_eq, spans_eq, offset_eq⟩ := exists_of_layLines_eq lines_eq
    have raw_eq : raw =
        join first ++ (line.message ++ (newline :: join second ++ (cut raw).2)) := by
      have parts := join_cut raw
      rw [show (cut raw).1 = _ from messages_eq, join_append, join_cons] at parts
      simpa using parts.symm
    have start_eq : line.offset - base = (join first).length := by
      omega
    rw [start_eq, raw_eq, Bytes.slice, Nat.add_sub_cancel_left, List.drop_left]
    exact List.take_left
  covered := consumed_add_withheld raw base

/-- A chunk within the words is split without loss, and in the only way. -/
theorem split_forward_divides (fits : base + raw.length < 2 ^ 64) :
    ∃ found, split raw base .forward = found ∧ split? raw base .forward = some found ∧
      Line.spans? found.lines = some found.consumed ∧
      Divides raw found.messages (found.rest raw) ∧ found.Places raw base ∧
      ∀ messages rest, Divides raw messages rest →
        messages = found.messages ∧ rest = found.rest raw := by
  have covered := consumed_add_withheld raw base
  refine ⟨_, rfl, split?_eq fits .forward, Line.spans?_eq ?_, ?_, split_forward_places raw base, ?_⟩
  · change (split raw base .forward).consumed < 2 ^ 64
    omega
  · rw [messages_split_forward, rest_split_forward]
    exact divides_cut raw
  · intro messages rest divides
    rw [messages_split_forward, rest_split_forward, divides_iff.mp divides]
    exact ⟨rfl, rfl⟩

/-- Two lines, the second of them empty, and three octets that no terminator ends, at the last
position at which they are within the words. -/
theorem split_forward_divides_of_eight_octets :
    2 ^ 64 - 9 + ([0x61, 0x62, 0x0A, 0x0A, 0x63, 0x64, 0x65, 0x66] : Bytes).length < 2 ^ 64 ∧
      (split [0x61, 0x62, 0x0A, 0x0A, 0x63, 0x64, 0x65, 0x66] (2 ^ 64 - 9) .forward).Places
        [0x61, 0x62, 0x0A, 0x0A, 0x63, 0x64, 0x65, 0x66] (2 ^ 64 - 9) ∧
      split [0x61, 0x62, 0x0A, 0x0A, 0x63, 0x64, 0x65, 0x66] (2 ^ 64 - 9) .forward =
        ⟨[⟨[0x61, 0x62], 2 ^ 64 - 9, true⟩, ⟨[], 2 ^ 64 - 6, true⟩], 4⟩ := by
  have fits : 2 ^ 64 - 9 + ([0x61, 0x62, 0x0A, 0x0A, 0x63, 0x64, 0x65, 0x66] : Bytes).length <
      2 ^ 64 := by
    decide
  obtain ⟨_, rfl, _, _, _, places, _⟩ := split_forward_divides fits
  exact ⟨fits, places, by decide⟩

end RemoteTail
