import Mathlib.Data.List.Chain
import RemoteTail.Cursor
import RemoteTail.Proofs.Line.Terminators

/-!
# Lines laid out in a file

A line lies in a file if the file has its octets at its position.  `Laid` says
that lines lie there one right after another, without a gap or an overlap, so
that written out they are one slice of the file (`Laid.flatMap_bytes`), in which
every terminator belongs to a terminated line (`Laid.count_newline`).

What is laid out stays so when the file grows, and the lines of a chunk are laid
out from the position at which the chunk was read (`laid_chunkLines`).
-/

namespace RemoteTail

/-- The line is a stretch of the content that is not empty and has no terminator inside. -/
structure Line.LiesIn (line : Line) (content : Bytes) : Prop where
  slice_eq : content.slice line.offset line.stop = line.bytes
  whole : newline ∉ line.message
  span_pos : 0 < line.span

/-- The lines lie in the content one after another, from `start` up to `stop`. -/
def Laid (content : Bytes) : (start : Nat) → List Line → (stop : Nat) → Prop
  | start, [], stop => start = stop
  | start, line :: lines, stop =>
      line.offset = start ∧ line.LiesIn content ∧ Laid content line.stop lines stop

namespace Line

theorem stop_eq (line : Line) : line.stop = line.offset + line.span :=
  rfl

theorem count_newline_bytes {line : Line} (whole : newline ∉ line.message) :
    line.bytes.count newline = if line.terminated then 1 else 0 := by
  have none_inside : line.message.count newline = 0 := List.count_eq_zero.mpr whole
  cases ends : line.terminated <;> simp [bytes, ends, none_inside]

/-- Of the lines that lie in a file, those that are terminated show it in their last octet. -/
theorem LiesIn.getLast?_bytes_eq_newline_iff {line : Line} {content : Bytes}
    (lies : line.LiesIn content) :
    line.bytes.getLast? = some newline ↔ line.terminated = true := by
  cases ends : line.terminated with
  | true => simp [bytes, ends]
  | false =>
      simp only [bytes, ends, Bool.false_eq_true, if_false, List.append_nil, iff_false]
      intro last
      exact lies.whole (List.mem_of_getLast? last)

theorem LiesIn.stop_le_length {line : Line} {content : Bytes} (lies : line.LiesIn content) :
    line.stop ≤ content.length := by
  have lengths := congrArg List.length lies.slice_eq
  have positive := lies.span_pos
  rw [Bytes.length_slice, length_bytes, stop_eq] at lengths
  rw [stop_eq]
  omega

/-- The message of a line that lies in a file comes first in its stretch. -/
theorem LiesIn.slice_message {line : Line} {content : Bytes} (lies : line.LiesIn content) :
    content.slice line.offset (line.offset + line.size) = line.message := by
  have parts := congrArg (List.take line.size) lies.slice_eq
  have shorter : min line.size line.span = line.size := Nat.min_eq_left (Nat.le_add_right ..)
  rw [Bytes.slice, List.take_take, stop_eq, Nat.add_sub_cancel_left, shorter, bytes,
    List.take_left' (show line.message.length = line.size from rfl)] at parts
  rw [Bytes.slice, Nat.add_sub_cancel_left, parts]

theorem LiesIn.of_prefix {line : Line} {content grown : Bytes} (lies : line.LiesIn content)
    (grows : content <+: grown) : line.LiesIn grown where
  slice_eq := by
    rw [Bytes.slice_of_prefix grows, lies.slice_eq]
    rw [lies.slice_eq, length_bytes, stop_eq]
    omega
  whole := lies.whole
  span_pos := lies.span_pos

end Line

namespace Laid

variable {content : Bytes} {start middle stop : Nat} {lines more : List Line}

theorem nil (content : Bytes) (position : Nat) : Laid content position [] position :=
  rfl

theorem append (first : Laid content start lines middle) (second : Laid content middle more stop) :
    Laid content start (lines ++ more) stop := by
  induction lines generalizing start with
  | nil => exact (show start = middle from first) ▸ second
  | cons line lines ih =>
      obtain ⟨placed, lies, rest⟩ := first
      exact ⟨placed, lies, ih rest⟩

/-- Where the last line stops is given by the spans. -/
theorem stop_eq (laid : Laid content start lines stop) :
    stop = start + Line.spans lines := by
  induction lines generalizing start with
  | nil => simpa using (show start = stop from laid).symm
  | cons line lines ih =>
      obtain ⟨rfl, _, rest⟩ := laid
      rw [ih rest, Line.stop_eq, Line.spans_cons, Nat.add_assoc]

theorem start_le_stop (laid : Laid content start lines stop) : start ≤ stop := by
  rw [laid.stop_eq]
  exact Nat.le_add_right ..

theorem stop_le_length (laid : Laid content start lines stop) (inside : start ≤ content.length) :
    stop ≤ content.length := by
  induction lines generalizing start with
  | nil => exact (show start = stop from laid) ▸ inside
  | cons line lines ih =>
      obtain ⟨_, lies, rest⟩ := laid
      exact ih rest lies.stop_le_length

theorem of_prefix {grown : Bytes} (laid : Laid content start lines stop)
    (grows : content <+: grown) : Laid grown start lines stop := by
  induction lines generalizing start with
  | nil => exact laid
  | cons line lines ih =>
      obtain ⟨placed, lies, rest⟩ := laid
      exact ⟨placed, lies.of_prefix grows, ih rest⟩

/-- Laid lines split wherever their list does. -/
theorem of_append (laid : Laid content start (lines ++ more) stop) :
    ∃ middle, Laid content start lines middle ∧ Laid content middle more stop := by
  induction lines generalizing start with
  | nil => exact ⟨start, rfl, laid⟩
  | cons line lines ih =>
      obtain ⟨placed, lies, rest⟩ := laid
      obtain ⟨middle, first, second⟩ := ih rest
      exact ⟨middle, ⟨placed, lies, first⟩, second⟩

theorem liesIn (laid : Laid content start lines stop) {line : Line} (member : line ∈ lines) :
    line.LiesIn content := by
  induction lines generalizing start with
  | nil => simp at member
  | cons head lines ih =>
      obtain ⟨_, lies, rest⟩ := laid
      rcases List.mem_cons.mp member with rfl | member
      · exact lies
      · exact ih rest member

theorem head?_offset (laid : Laid content start lines stop) :
    ∀ line ∈ lines.head?, line.offset = start := by
  intro line first
  cases lines with
  | nil => simp at first
  | cons head lines =>
      obtain rfl : head = line := by simpa using first
      exact laid.1

/-- Every line begins where the one before it stops. -/
theorem isChain (laid : Laid content start lines stop) :
    lines.IsChain fun previous next => next.offset = previous.offset + previous.span := by
  induction lines generalizing start with
  | nil => exact .nil
  | cons line lines ih =>
      obtain ⟨_, _, rest⟩ := laid
      exact List.isChain_cons.mpr ⟨rest.head?_offset, ih rest⟩

/-- Written out, the lines are the slice that they cover. -/
theorem flatMap_bytes (laid : Laid content start lines stop) :
    lines.flatMap Line.bytes = content.slice start stop := by
  induction lines generalizing start with
  | nil =>
      obtain rfl : start = stop := laid
      simp
  | cons line lines ih =>
      obtain ⟨rfl, lies, rest⟩ := laid
      have before : line.offset ≤ line.stop := Nat.le_add_right ..
      rw [List.flatMap_cons, ih rest, ← lies.slice_eq,
        Bytes.slice_append_slice content before rest.start_le_stop]

/-- There are no more lines than octets. -/
theorem length_add_start_le (laid : Laid content start lines stop) :
    start + lines.length ≤ stop := by
  induction lines generalizing start with
  | nil => exact Nat.le_of_eq laid
  | cons line lines ih =>
      obtain ⟨rfl, lies, rest⟩ := laid
      have advanced := ih rest
      have positive := lies.span_pos
      rw [Line.stop_eq] at advanced
      rw [List.length_cons]
      omega

/-- Every terminator of the slice ends a terminated line. -/
theorem count_newline (laid : Laid content start lines stop) :
    (content.slice start stop).count newline = lines.countP (·.terminated) := by
  induction lines generalizing start with
  | nil =>
      obtain rfl : start = stop := laid
      simp
  | cons line lines ih =>
      obtain ⟨rfl, lies, rest⟩ := laid
      have before : line.offset ≤ line.stop := Nat.le_add_right ..
      rw [← Bytes.slice_append_slice content before rest.start_le_stop, List.count_append, ih rest,
        lies.slice_eq, Line.count_newline_bytes lies.whole, List.countP_cons, Nat.add_comm]

end Laid

/-! ## The lines of a chunk -/

/-- Messages without terminators that the content has at `offset` become lines that lie there. -/
theorem laid_layLines {content : Bytes} {messages : List Bytes} {offset : Nat}
    (whole : ∀ message ∈ messages, newline ∉ message)
    (present : content.slice offset (offset + (join messages).length) = join messages) :
    Laid content offset (layLines offset messages) (offset + (join messages).length) := by
  induction messages generalizing offset with
  | nil => exact rfl
  | cons message messages ih =>
      have length_eq : (join (message :: messages)).length =
          message.length + 1 + (join messages).length := by
        simp only [join_cons, List.length_append, List.length_cons]
        omega
      rw [length_eq, ← Nat.add_assoc, ← Bytes.slice_append_slice content
        (show offset ≤ offset + (message.length + 1) by omega) (by omega), join_cons,
        List.append_cons] at present
      have within := congrArg List.length present
      simp only [List.length_append, Bytes.length_slice, List.length_cons, List.length_nil]
        at within
      obtain ⟨first, rest⟩ := List.append_inj present (by
        rw [Bytes.length_slice, List.length_append, List.length_singleton]
        omega)
      refine ⟨rfl, ⟨?_, whole message List.mem_cons_self, ?_⟩, ?_⟩
      · simpa [Line.stop, Line.span, Line.size, Line.bytes] using first
      · simp [Line.span]
      · have next := ih (fun other member => whole other (List.mem_cons_of_mem message member)) rest
        rw [length_eq, ← Nat.add_assoc]
        simpa [Line.stop, Line.span, Line.size, Nat.add_assoc] using next

theorem cut_eq_nil_iff {raw : Bytes} : (cut raw).1 = [] ↔ newline ∉ raw := by
  rw [← List.length_eq_zero_iff, length_cut, List.count_eq_zero]

theorem fillsWindow_iff {length chunkSize : Nat} :
    fillsWindow length chunkSize = true ↔
      chunkSize ≤ length ∨ 3 < length ∧ chunkSize ≤ length + 3 := by
  simp only [fillsWindow, Bool.or_eq_true, Bool.and_eq_true, decide_eq_true_eq]
  rfl

theorem fillsWindow_pos {length chunkSize : Nat} (positive : 0 < chunkSize)
    (fills : fillsWindow length chunkSize = true) : 0 < length := by
  rcases fillsWindow_iff.mp fills with whole | ⟨more, _⟩
  · exact Nat.lt_of_lt_of_le positive whole
  · exact Nat.zero_lt_of_lt more

namespace Cursor

variable {content data : Bytes} {offset chunkSize : Nat}

theorem chunkLines_of_mem (offset chunkSize : Nat) (found : newline ∈ data) :
    chunkLines data offset chunkSize = layLines offset (cut data).1 := by
  have some_message : (cut data).1 ≠ [] := fun empty => cut_eq_nil_iff.mp empty found
  cases messages : (cut data).1 with
  | nil => exact absurd messages some_message
  | cons message messages => simp [chunkLines, split, ScanOrder.arrange, messages, layLines]

theorem chunkLines_of_full (offset : Nat) (free : newline ∉ data)
    (fills : fillsWindow data.length chunkSize = true) :
    chunkLines data offset chunkSize = [⟨data, offset, false⟩] := by
  simp [chunkLines, split, ScanOrder.arrange, cut_eq_nil_iff.mpr free, layLines, fills]

theorem chunkLines_of_short (offset : Nat) (free : newline ∉ data)
    (short : fillsWindow data.length chunkSize = false) :
    chunkLines data offset chunkSize = [] := by
  simp [chunkLines, split, ScanOrder.arrange, cut_eq_nil_iff.mpr free, layLines, short]

/-- A chunk gives nothing if it has no terminator and does not fill the window. -/
theorem chunkLines_eq_nil_iff {offset : Nat} :
    chunkLines data offset chunkSize = [] ↔
      newline ∉ data ∧ fillsWindow data.length chunkSize = false := by
  constructor
  · intro empty
    by_cases found : newline ∈ data
    · rw [chunkLines_of_mem offset chunkSize found] at empty
      cases messages : (cut data).1 with
      | nil => exact absurd found (cut_eq_nil_iff.mp messages)
      | cons message messages' =>
          rw [messages] at empty
          cases empty
    · cases fills : fillsWindow data.length chunkSize with
      | true =>
          rw [chunkLines_of_full offset found fills] at empty
          cases empty
      | false => exact ⟨found, rfl⟩
  · rintro ⟨free, short⟩
    exact chunkLines_of_short offset free short

/-- The lines of a chunk stop right after its last terminator. -/
theorem laid_chunkLines_of_mem (chunkSize : Nat)
    (present : content.slice offset (offset + data.length) = data) (found : newline ∈ data) :
    ∃ stop, Laid content offset (chunkLines data offset chunkSize) stop ∧
      offset < stop ∧ stop ≤ offset + data.length ∧ content[stop - 1]? = some newline ∧
      newline ∉ content.slice stop (offset + data.length) := by
  have length_eq : data.length = (join (cut data).1).length + (cut data).2.length := by
    rw [← List.length_append, join_cut]
  have inside := congrArg List.length present
  rw [Bytes.length_slice] at inside
  have parts : content.slice offset (offset + (join (cut data).1).length) ++
      content.slice (offset + (join (cut data).1).length) (offset + data.length) =
        join (cut data).1 ++ (cut data).2 := by
    rw [join_cut, Bytes.slice_append_slice content (by omega) (by omega), present]
  obtain ⟨lines_present, rest_present⟩ := List.append_inj parts (by
    rw [Bytes.length_slice]
    omega)
  have some_message : (cut data).1 ≠ [] := fun empty => cut_eq_nil_iff.mp empty found
  have last := getLast?_join some_message
  have positive : 0 < (join (cut data).1).length := by
    apply List.length_pos_of_mem
    exact List.mem_of_getLast? last
  refine ⟨offset + (join (cut data).1).length, ?_, by omega, by omega, ?_, ?_⟩
  · rw [chunkLines_of_mem offset chunkSize found]
    exact laid_layLines (fun message => newline_not_mem_of_mem_cut) lines_present
  · have position_eq : offset + (join (cut data).1).length - 1 =
        offset + ((join (cut data).1).length - 1) := by omega
    have within : offset + ((join (cut data).1).length - 1) <
        offset + (join (cut data).1).length := by omega
    rw [position_eq, ← Bytes.getElem?_slice content within, lines_present,
      ← List.getLast?_eq_getElem?]
    exact last
  · rw [rest_present]
    exact newline_not_mem_cut_rest data

/-- A full window without a terminator is one fragment. -/
theorem laid_chunkLines_of_full (positive : 0 < chunkSize)
    (present : content.slice offset (offset + data.length) = data) (free : newline ∉ data)
    (fills : fillsWindow data.length chunkSize = true) :
    Laid content offset (chunkLines data offset chunkSize) (offset + data.length) := by
  rw [chunkLines_of_full offset free fills]
  refine ⟨rfl, ⟨?_, free, ?_⟩, rfl⟩
  · simpa [Line.stop, Line.span, Line.size, Line.bytes] using present
  · simpa [Line.span, Line.size] using fillsWindow_pos positive fills

/-- What a chunk read at `offset` gives is laid out from there, and no terminator of the chunk is
passed over. -/
theorem laid_chunkLines (positive : 0 < chunkSize)
    (present : content.slice offset (offset + data.length) = data) :
    ∃ stop, Laid content offset (chunkLines data offset chunkSize) stop ∧
      stop ≤ offset + data.length ∧ newline ∉ content.slice stop (offset + data.length) := by
  by_cases found : newline ∈ data
  · obtain ⟨stop, laid, _, bound, _, rest⟩ := laid_chunkLines_of_mem chunkSize present found
    exact ⟨stop, laid, bound, rest⟩
  · cases fills : fillsWindow data.length chunkSize with
    | true =>
        exact ⟨_, laid_chunkLines_of_full positive present found fills, Nat.le_refl _, by simp⟩
    | false =>
        refine ⟨offset, ?_, Nat.le_add_right .., present.symm ▸ found⟩
        rw [chunkLines_of_short offset found fills]
        exact Laid.nil content offset

end Cursor

end RemoteTail
