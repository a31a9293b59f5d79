import Mathlib.Data.List.Sort
import RemoteTail.Line.Split

/-!
# Terminators of a file

The plain view of a file as lines: the positions of its terminators, found by
looking at every octet, and its first and last terminated lines, read off the
cut of the whole file.  Nothing here knows of windows.

A stretch that begins at a known position and ends with a line is determined by
its number of terminators (`eq_of_prefix_of_count_newline_eq`).
-/

namespace RemoteTail

namespace Bytes

/-- The positions of the terminators, the first one first. -/
def terminators (content : Bytes) : List Nat :=
  (List.range content.length).filter fun position => content[position]? = some newline

theorem mem_terminators_iff {content : Bytes} {position : Nat} :
    position ∈ terminators content ↔ content[position]? = some newline := by
  simp only [terminators, List.mem_filter, List.mem_range, decide_eq_true_eq, and_iff_right_iff_imp]
  intro found
  exact (List.getElem?_eq_some_iff.mp found).1

theorem pairwise_terminators (content : Bytes) : (terminators content).Pairwise (· < ·) :=
  List.pairwise_lt_range.filter _

/-- The terminators of a slice, at their positions in the whole. -/
theorem mem_map_terminators_slice_iff {content : Bytes} {start stop position : Nat} :
    position ∈ (terminators (slice start stop content)).map (start + ·) ↔
      start ≤ position ∧ position < stop ∧ content[position]? = some newline := by
  rw [List.mem_map]
  constructor
  · rintro ⟨index, found, rfl⟩
    rw [mem_terminators_iff] at found
    have inside := (List.getElem?_eq_some_iff.mp found).1
    rw [length_slice] at inside
    have before : start + index < stop := by omega
    rw [getElem?_slice content before] at found
    exact ⟨Nat.le_add_right .., before, found⟩
  · rintro ⟨after, before, found⟩
    obtain ⟨index, rfl⟩ := Nat.exists_eq_add_of_le after
    refine ⟨index, ?_, rfl⟩
    rw [mem_terminators_iff, getElem?_slice content before]
    exact found

/-- Slices show the same terminators if the terminators between the bounds of the one are those
between the bounds of the other. -/
theorem map_terminators_slice_eq {content : Bytes} {start stop first last : Nat}
    (same : ∀ position, content[position]? = some newline →
      (start ≤ position ∧ position < stop ↔ first ≤ position ∧ position < last)) :
    (terminators (slice start stop content)).map (start + ·) =
      (terminators (slice first last content)).map (first + ·) := by
  have increasing : ∀ offset bytes, ((terminators bytes).map (offset + ·)).Pairwise (· < ·) := by
    intro offset bytes
    apply (pairwise_terminators bytes).map
    intro _ _ less
    exact Nat.add_lt_add_left less offset
  apply (increasing _ _).eq_of_mem_iff (increasing _ _)
  intro position
  rw [mem_map_terminators_slice_iff, mem_map_terminators_slice_iff, ← and_assoc, ← and_assoc]
  exact and_congr_left (same position)

/-- A line that ends behind the beginning of a stretch without terminators ends behind the
stretch. -/
theorem lt_of_newline_not_mem_slice {content : Bytes} {offset stop next : Nat}
    (free : newline ∉ content.slice offset stop) (after : offset < next)
    (ends : content[next - 1]? = some newline) : stop < next := by
  by_contra before
  have position_eq : offset + (next - 1 - offset) = next - 1 := by omega
  apply free
  apply List.mem_of_getElem? (i := next - 1 - offset)
  rw [getElem?_slice content (by omega), position_eq, ends]

/-- The terminators of a second part follow those of the first, shifted by its length. -/
theorem terminators_append (first second : Bytes) :
    terminators (first ++ second) =
      terminators first ++ (terminators second).map (first.length + ·) := by
  rw [terminators, List.length_append, List.range_add, List.filter_append, List.filter_map]
  congr 1
  · apply List.filter_congr
    intro position inside
    rw [List.getElem?_append_left (List.mem_range.mp inside)]
  · congr 1
    apply List.filter_congr
    intro position _
    simp [List.getElem?_append_right]

/-- The terminators before `stop`, split at `start`. -/
theorem terminators_take {content : Bytes} {start stop : Nat} (before : start ≤ stop)
    (inside : start ≤ content.length) :
    terminators (content.take stop) =
      terminators (content.take start) ++
        (terminators (content.slice start stop)).map (start + ·) := by
  have parts : content.take stop = content.take start ++ content.slice start stop := by
    rw [← slice_zero stop, ← slice_zero start]
    exact (slice_append_slice content (Nat.zero_le _) before).symm
  rw [parts, terminators_append, List.length_take, Nat.min_eq_left inside]

/-- One octet, as the first part. -/
theorem terminators_cons (octet : UInt8) (content : Bytes) :
    terminators (octet :: content) =
      (if octet = newline then [0] else []) ++ (terminators content).map (1 + ·) := by
  rw [← List.singleton_append, terminators_append]
  by_cases ends : octet = newline <;> simp [terminators, ends]

theorem length_terminators (content : Bytes) :
    (terminators content).length = content.count newline := by
  induction content with
  | nil => rfl
  | cons octet content ih =>
      rw [terminators_cons, List.length_append, List.length_map, ih, List.count_cons]
      by_cases ends : octet = newline <;> simp [ends, Nat.add_comm]

theorem terminators_eq_nil_iff {content : Bytes} :
    terminators content = [] ↔ newline ∉ content := by
  rw [← List.length_eq_zero_iff, length_terminators, List.count_eq_zero]

/-- One past the terminator number `wanted + 1` from the end, or zero if there are no more than
`wanted` terminators. -/
def tailOffset (content : Bytes) (wanted : Nat) : Nat :=
  ((terminators content).reverse[wanted]?).elim 0 (· + 1)

/-- The first terminated lines, terminators included, as many as there are up to `wanted`. -/
def firstLines (content : Bytes) (wanted : Nat) : Bytes :=
  join ((cut content).1.take wanted)

/-- The last terminated lines, terminators included, as many as there are up to `wanted`. -/
def lastLines (content : Bytes) (wanted : Nat) : Bytes :=
  join ((cut content).1.drop ((cut content).1.length - wanted))

/-- Whether the octets end with a line, if there are any. -/
def EndsLine (content : Bytes) : Prop :=
  ∀ octet ∈ content.getLast?, octet = newline

theorem endsLine_of_getLast?_eq {content : Bytes} (last : content.getLast? = some newline) :
    content.EndsLine := by
  intro octet found
  rw [last] at found
  exact (Option.some.inj found).symm

/-- A position with no terminator after it lies after a text that ends with a line. -/
theorem EndsLine.length_le {text rest : Bytes} {offset : Nat} (ends : text.EndsLine)
    (free : newline ∉ (text ++ rest).drop offset) : text.length ≤ offset := by
  apply Nat.le_of_not_lt
  intro inside
  have some_octet : text ≠ [] := List.ne_nil_of_length_pos (Nat.zero_lt_of_lt inside)
  have last : text.getLast some_octet = newline :=
    ends _ (List.getLast?_eq_some_getLast some_octet)
  apply free
  rw [List.drop_append_of_le_length (Nat.le_of_lt inside)]
  apply List.mem_append_left
  have dropped : text.drop offset ≠ [] := by
    rw [Ne, List.drop_eq_nil_iff]
    exact Nat.not_le_of_lt inside
  rw [← last, ← List.getLast_drop dropped]
  exact List.getLast_mem dropped

/-- Two beginnings of a string that end with a line are equal if they have as many terminators. -/
theorem eq_of_prefix_of_count_newline_eq {first second whole : Bytes}
    (firstPrefix : first <+: whole) (secondPrefix : second <+: whole)
    (firstEnds : first.EndsLine) (secondEnds : second.EndsLine)
    (counts : first.count newline = second.count newline) : first = second := by
  -- The longer of the two adds octets without a terminator, but its last octet is one.
  have extension : ∀ {short long : Bytes}, short <+: long → long.EndsLine →
      short.count newline = long.count newline → short = long := by
    rintro short _ ⟨more, rfl⟩ ends same
    rw [List.count_append] at same
    have none_more : newline ∉ more := List.count_eq_zero.mp (by omega)
    cases last : more.getLast? with
    | none => rw [List.getLast?_eq_none_iff.mp last, List.append_nil]
    | some octet =>
        have is_newline : octet = newline := by
          apply ends
          simp [last]
        exact absurd (is_newline ▸ List.mem_of_getLast? last) none_more
  rcases Nat.le_total first.length second.length with shorter | shorter
  · have inside := List.prefix_of_prefix_length_le firstPrefix secondPrefix shorter
    exact extension inside secondEnds counts
  · have inside := List.prefix_of_prefix_length_le secondPrefix firstPrefix shorter
    exact (extension inside firstEnds counts.symm).symm

end Bytes

/-! ## Lines of the whole file -/

open Bytes

@[simp]
theorem join_nil : join [] = [] :=
  rfl

@[simp]
theorem join_cons (message : Bytes) (messages : List Bytes) :
    join (message :: messages) = message ++ newline :: join messages := by
  simp [join]

@[simp]
theorem join_append (first second : List Bytes) :
    join (first ++ second) = join first ++ join second := by
  simp [join]

theorem getLast?_join {messages : List Bytes} (some_message : messages ≠ []) :
    (join messages).getLast? = some newline := by
  obtain ⟨first, message, rfl⟩ := (List.eq_nil_or_concat messages).resolve_left some_message
  simp [List.getLast?_append]

theorem endsLine_join (messages : List Bytes) : (join messages).EndsLine := by
  by_cases empty : messages = []
  · intro octet last
    simp [empty] at last
  · exact endsLine_of_getLast?_eq (getLast?_join empty)

/-- Each message contributes its own terminator and no other. -/
theorem count_newline_join {messages : List Bytes}
    (whole : ∀ message ∈ messages, newline ∉ message) :
    (join messages).count newline = messages.length := by
  induction messages with
  | nil => rfl
  | cons message messages ih =>
      have none_inside : message.count newline = 0 :=
        List.count_eq_zero.mpr (whole message List.mem_cons_self)
      have rest := ih fun other member => whole other (List.mem_cons_of_mem message member)
      rw [join_cons, List.count_append, List.count_cons_self, none_inside, rest, List.length_cons]
      omega

theorem newline_not_mem_messages (content : Bytes) :
    ∀ message ∈ (cut content).1, newline ∉ message :=
  fun _ member => newline_not_mem_of_mem_cut member

theorem length_cut (content : Bytes) : (cut content).1.length = content.count newline := by
  have rest_free := List.count_eq_zero.mpr (newline_not_mem_cut_rest content)
  have messages_counted := count_newline_join (newline_not_mem_messages content)
  calc
    (cut content).1.length = (join (cut content).1).count newline := messages_counted.symm
    _ = (join (cut content).1 ++ (cut content).2).count newline := by
      rw [List.count_append, rest_free, Nat.add_zero]
    _ = content.count newline := by rw [join_cut]

/-- What a first part leaves unfinished is cut together with the second part. -/
theorem cut_append (first second : Bytes) :
    cut (first ++ second) =
      ((cut first).1 ++ (cut ((cut first).2 ++ second)).1,
        (cut ((cut first).2 ++ second)).2) := by
  induction first with
  | nil => rfl
  | cons octet first ih =>
      rw [List.cons_append]
      by_cases ends : octet = newline
      · simp [cut, ends, ih]
      · cases messages : (cut first).1 with
        | nil =>
            rw [messages] at ih
            simp [cut, ends, messages, ih]
        | cons message messages' =>
            rw [messages] at ih
            simp [cut, ends, messages, ih]

/-- Messages that are joined are cut apart again. -/
theorem cut_join {messages : List Bytes} (whole : ∀ message ∈ messages, newline ∉ message) :
    cut (join messages) = (messages, []) := by
  have first_message {message rest : Bytes} (whole : newline ∉ message) :
      cut (message ++ newline :: rest) = (message :: (cut rest).1, (cut rest).2) := by
    induction message with
    | nil => simp [cut]
    | cons octet message ih =>
        rw [List.mem_cons, not_or] at whole
        rw [List.cons_append, cut, ih whole.2]
        simp only [if_neg (Ne.symm whole.1)]
  induction messages with
  | nil => rfl
  | cons message messages ih =>
      obtain ⟨free, others⟩ := List.forall_mem_cons.mp whole
      rw [join_cons, first_message free, ih others]

theorem map_message_layLines (offset : Nat) (messages : List Bytes) :
    (layLines offset messages).map Line.message = messages := by
  induction messages generalizing offset with
  | nil => rfl
  | cons message messages ih => rw [layLines, List.map_cons, ih]

theorem terminated_of_mem_layLines {messages : List Bytes} {offset : Nat} {line : Line}
    (member : line ∈ layLines offset messages) : line.terminated = true := by
  induction messages generalizing offset with
  | nil => cases member
  | cons message messages ih =>
      rcases List.mem_cons.mp member with rfl | later
      · rfl
      · exact ih later

/-- Nothing is left after the last line of octets that end with a line. -/
theorem cut_rest_eq_nil {content : Bytes} (ends : content.EndsLine) : (cut content).2 = [] := by
  cases last : (cut content).2.getLast? with
  | none => exact List.getLast?_eq_none_iff.mp last
  | some octet =>
      have member := List.mem_of_getLast? last
      have is_newline : octet = newline := by
        apply ends
        rw [← join_cut content, List.getLast?_append, last]
        rfl
      exact absurd (is_newline ▸ member) (newline_not_mem_cut_rest content)

/-- The terminator number `index` ends the message of that number. -/
theorem getElem?_terminators_join {messages : List Bytes}
    (whole : ∀ message ∈ messages, newline ∉ message) (rest : Bytes) (index : Nat)
    (inside : index < messages.length) :
    ((terminators (join messages ++ rest))[index]?).map (· + 1) =
      some (join (messages.take (index + 1))).length := by
  induction messages generalizing index with
  | nil => simp at inside
  | cons message messages ih =>
      have message_free := terminators_eq_nil_iff.mpr (whole message List.mem_cons_self)
      have split : terminators (join (message :: messages) ++ rest) =
          message.length :: (terminators (join messages ++ rest)).map (message.length + 1 + ·) := by
        rw [join_cons, List.append_assoc, terminators_append, message_free, List.cons_append,
          terminators_cons, if_pos rfl]
        simp [Nat.add_assoc, Function.comp_def]
      rw [split]
      cases index with
      | zero => simp
      | succ index =>
          have later := ih (fun other member => whole other (List.mem_cons_of_mem message member))
            index (by simpa using inside)
          rw [List.getElem?_cons_succ, List.getElem?_map]
          cases found : (terminators (join messages ++ rest))[index]? with
          | none => simp [found] at later
          | some position =>
              have position_eq : position + 1 = (join (messages.take (index + 1))).length := by
                simpa [found] using later
              simp only [Option.map_some, List.take_succ_cons, join_cons, List.length_append,
                List.length_cons, Option.some.injEq]
              omega

/-- The last lines begin where the lines before them end. -/
theorem tailOffset_eq_length_join (content : Bytes) (wanted : Nat) :
    content.tailOffset wanted =
      (join ((cut content).1.take ((cut content).1.length - wanted))).length := by
  have count_eq : (terminators content).length = (cut content).1.length := by
    rw [length_terminators, length_cut]
  by_cases enough : wanted < (cut content).1.length
  · have found := getElem?_terminators_join (newline_not_mem_messages content) (cut content).2
      ((cut content).1.length - 1 - wanted) (by omega)
    have index_eq : (cut content).1.length - 1 - wanted + 1 = (cut content).1.length - wanted := by
      omega
    rw [join_cut, index_eq] at found
    obtain ⟨position, position_found, position_eq⟩ := Option.map_eq_some_iff.mp found
    rw [tailOffset, List.getElem?_reverse (by omega), count_eq, position_found]
    exact position_eq
  · have none_found : (terminators content).reverse[wanted]? = none := by
      apply List.getElem?_eq_none
      rw [List.length_reverse]
      omega
    have all_wanted : (cut content).1.length - wanted = 0 := by omega
    rw [tailOffset, none_found, all_wanted]
    rfl

/-- The content as its first lines, its other lines and what no terminator ends. -/
theorem join_take_append_join_drop (content : Bytes) (count : Nat) :
    join ((cut content).1.take count) ++ (join ((cut content).1.drop count) ++ (cut content).2) =
      content := by
  rw [← List.append_assoc, ← join_append, List.take_append_drop, join_cut]

theorem tailOffset_le_length (content : Bytes) (wanted : Nat) :
    content.tailOffset wanted ≤ content.length := by
  have parts := congrArg List.length
    (join_take_append_join_drop content ((cut content).1.length - wanted))
  rw [List.length_append] at parts
  rw [tailOffset_eq_length_join]
  omega

/-- The tail is everything if no more lines are there than are wanted. -/
theorem tailOffset_eq_zero {content : Bytes} {wanted : Nat}
    (few : content.count newline ≤ wanted) : content.tailOffset wanted = 0 := by
  have none_found : (terminators content).reverse[wanted]? = none := by
    apply List.getElem?_eq_none
    rw [List.length_reverse, length_terminators]
    exact few
  rw [tailOffset, none_found]
  rfl

/-- There is a terminator right before the tail, unless the tail is everything. -/
theorem getElem?_tailOffset_pred {content : Bytes} {wanted : Nat}
    (some_before : 0 < content.tailOffset wanted) :
    content[content.tailOffset wanted - 1]? = some newline := by
  rw [tailOffset] at some_before ⊢
  cases found : (terminators content).reverse[wanted]? with
  | none =>
      rw [found] at some_before
      cases some_before
  | some position =>
      have member := List.mem_reverse.mp (List.mem_of_getElem? found)
      exact mem_terminators_iff.mp member

/-- A stretch before the tail that shows no terminator ends before the one in front of the tail. -/
theorem lt_tailOffset_of_newline_not_mem {content : Bytes} {wanted offset stop : Nat}
    (inside : offset < content.tailOffset wanted) (free : newline ∉ content.slice offset stop) :
    stop < content.tailOffset wanted :=
  lt_of_newline_not_mem_slice free inside (getElem?_tailOffset_pred (Nat.zero_lt_of_lt inside))

/-! ## The first and the last lines -/

theorem firstLines_prefix (content : Bytes) (wanted : Nat) :
    content.firstLines wanted <+: content :=
  ⟨_, join_take_append_join_drop content wanted⟩

theorem count_newline_firstLines (content : Bytes) (wanted : Nat) :
    (content.firstLines wanted).count newline = min wanted (content.count newline) := by
  have whole : ∀ message ∈ (cut content).1.take wanted, newline ∉ message := fun message member =>
    newline_not_mem_messages content message (List.mem_of_mem_take member)
  rw [firstLines, count_newline_join whole, List.length_take, length_cut]

/-- The content from the tail offset on is its last lines and what no terminator ends. -/
theorem lastLines_append (content : Bytes) (wanted : Nat) :
    content.lastLines wanted ++ (cut content).2 = content.drop (content.tailOffset wanted) := by
  have parts := join_take_append_join_drop content ((cut content).1.length - wanted)
  calc
    content.lastLines wanted ++ (cut content).2 =
        (join ((cut content).1.take ((cut content).1.length - wanted)) ++
          (content.lastLines wanted ++ (cut content).2)).drop (content.tailOffset wanted) := by
      rw [tailOffset_eq_length_join, List.drop_left]
    _ = content.drop (content.tailOffset wanted) := by rw [lastLines, parts]

theorem count_newline_lastLines (content : Bytes) (wanted : Nat) :
    (content.lastLines wanted).count newline = min wanted (content.count newline) := by
  have whole : ∀ message ∈ (cut content).1.drop ((cut content).1.length - wanted),
      newline ∉ message := fun message member =>
    newline_not_mem_messages content message (List.mem_of_mem_drop member)
  rw [lastLines, count_newline_join whole, List.length_drop, length_cut]
  omega

/-- What is appended to the content leaves its last lines in front of the rest. -/
theorem lastLines_prefix_drop {content grown : Bytes} (grows : content <+: grown) (wanted : Nat) :
    content.lastLines wanted <+: grown.drop (content.tailOffset wanted) := by
  obtain ⟨more, rfl⟩ := grows
  rw [List.drop_append_of_le_length (tailOffset_le_length content wanted), ← lastLines_append,
    List.append_assoc]
  exact List.prefix_append ..

/-- After the last terminator there is no other. -/
theorem newline_not_mem_drop_tailOffset_zero (content : Bytes) :
    newline ∉ content.drop (content.tailOffset 0) := by
  have no_lines : content.lastLines 0 = [] := by
    rw [lastLines, Nat.sub_zero, List.drop_length, join_nil]
  rw [← lastLines_append, no_lines, List.nil_append]
  exact newline_not_mem_cut_rest content

theorem tailOffset_zero_le {content : Bytes} {offset : Nat}
    (free : newline ∉ content.drop offset) : content.tailOffset 0 ≤ offset := by
  apply Nat.le_of_not_lt
  intro inside
  rw [← slice_eq_drop offset (Nat.le_refl _)] at free
  have beyond := lt_tailOffset_of_newline_not_mem inside free
  exact absurd (tailOffset_le_length content 0) (Nat.not_le_of_lt beyond)

theorem lt_tailOffset_zero {content : Bytes} {position : Nat}
    (found : content[position]? = some newline) : position < content.tailOffset 0 := by
  apply Nat.lt_of_not_le
  intro after
  obtain ⟨index, rfl⟩ := Nat.exists_eq_add_of_le after
  apply newline_not_mem_drop_tailOffset_zero content
  apply List.mem_of_getElem?
  rw [List.getElem?_drop]
  exact found

end RemoteTail
