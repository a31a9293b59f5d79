import Mathlib.Algebra.Group.Nat.Defs
import Mathlib.Logic.Function.Basic
import RemoteTail.CommandLine.Switch
import RemoteTail.Proofs.Json.Numerals

/-!
# The values of switches

A text denotes a number by its digits (`Denotes`), and a format by its name.
`Options.reading` is what the texts that are given to the settings come to, and
two flags; to assign another text is to add it to those given before
(`assign_reading`).
-/

namespace RemoteTail

/-! ## Numbers -/

/-- Digits denote a number, to which each further digit adds a place. -/
inductive Decimal.Numeral : List Char → Nat → Prop
  | digit {value : Nat} (small : value < 10) : Numeral [digit value] value
  | place {front : List Char} {number value : Nat} (numeral : Numeral front number)
      (small : value < 10) : Numeral (front ++ [digit value]) (number * 10 + value)

/-- A text denotes a number in digits, with a plus sign before them or not. -/
inductive Denotes (text : String) (number : Nat) : Prop
  | bare (numeral : Decimal.Numeral text.toList number)
  | signed (digits : List Char) (text_eq : text.toList = '+' :: digits)
      (numeral : Decimal.Numeral digits number)

namespace Decimal

variable {digits : List Char} {number : Nat}

theorem Numeral.value?_eq (numeral : Numeral digits number) : value? digits = some number := by
  rw [value?_eq_some_iff]
  induction numeral with
  | digit small =>
      refine ⟨List.cons_ne_nil _ _, List.forall_mem_singleton.mpr (isDigit_digit small), ?_⟩
      rw [List.foldl_cons, List.foldl_nil, extend_digit 0 small, Nat.zero_mul, Nat.zero_add]
  | place numeral small ih =>
      obtain ⟨_, digits, value_eq⟩ := ih
      refine ⟨List.append_ne_nil_of_right_ne_nil _ (List.cons_ne_nil _ _), ?_, ?_⟩
      · exact List.forall_mem_append.mpr
          ⟨digits, List.forall_mem_singleton.mpr (isDigit_digit small)⟩
      · rw [List.foldl_append, value_eq, List.foldl_cons, List.foldl_nil, extend_digit _ small]

theorem Numeral.head?_ne_plus (numeral : Numeral digits number) : digits.head? ≠ some '+' := by
  obtain ⟨_, all_digits, _⟩ := value?_eq_some_iff.mp numeral.value?_eq
  intro plus
  exact absurd (all_digits '+' (List.mem_of_mem_head? plus)) (by decide)

end Decimal

namespace Options

theorem word?_of_denotes {text : String} {number : Nat} (denotes : Denotes text number)
    (fits : number < 2 ^ 64) : word? text = some number := by
  have read {digits : List Char} (numeral : Decimal.Numeral digits number) :
      Decimal.below? (1 <<< 64) digits = some number := by
    rw [Decimal.below?_eq_filter, numeral.value?_eq]
    exact Option.filter_some_pos (decide_eq_true fits)
  cases denotes with
  | bare numeral =>
      unfold word?
      split
      · rename_i digits text_eq
        rw [text_eq] at numeral
        exact absurd rfl numeral.head?_ne_plus
      · exact read numeral
  | signed digits text_eq numeral =>
      simp only [word?, text_eq]
      exact read numeral

end Options

/-! ## Formats -/

/-- The name of a format. -/
def OutputFormat.name : OutputFormat → String
  | .text => "text"
  | .json => "json"
  | .sse => "sse"

theorem Options.format?_name (format : OutputFormat) : format? format.name = some format := by
  cases format <;> rfl

/-! ## Texts for settings -/

/-- The texts that a setting may be given. -/
def Setting.Accepts : Setting → String → Prop
  | .lines, text | .chunkSize, text | .pollInterval, text =>
    ∃ number < 2 ^ 64, Denotes text number
  | .format, text => ∃ format : OutputFormat, format.name = text
  | .header, text => ∃ header, Header.parse text = .ok header
  | .taskPath, _ | .file, _ | .endpoint, _ => True

namespace Options

/-- The options that come of texts for the settings, in the order in which they are given, and of
two flags. -/
def reading (texts : Setting → List String) (tail follow : Bool) : Options where
  taskPath := (texts .taskPath).head?
  file := (texts .file).head?
  lines := (texts .lines).head?.bind word?
  tail := tail
  follow := follow
  format := (texts .format).head?.bind format?
  headers := (texts .header).filterMap fun text => (Header.parse text).toOption
  endpoint := (texts .endpoint).head?
  chunkSize := (texts .chunkSize).head?.bind word?
  pollInterval := (texts .pollInterval).head?.bind word?

variable {texts : Setting → List String} {tail follow : Bool} {setting : Setting} {text : String}

/-- A reading that succeeds is set where nothing has been given yet. -/
theorem setOnce_head? {α : Type} {given : List String} {read : String → Option α} {value : α}
    (fresh : given = []) (reads : read text = some value) (refusal : Refusal) :
    setOnce (given.head?.bind read) (orRefuse refusal (read text)) =
      .ok ((given ++ [text]).head?.bind read) := by
  subst fresh
  simp only [List.nil_append, List.head?_cons, List.head?_nil, Option.bind_some, reads]
  rfl

/-- A text is added to those of its setting, which are none before unless it is a header. -/
theorem assign_reading (accepts : setting.Accepts text)
    (fresh : setting ≠ .header → texts setting = []) :
    (reading texts tail follow).assign setting text =
      .ok (reading (Function.update texts setting (texts setting ++ [text])) tail follow) := by
  cases setting with
  | taskPath =>
      rw [assign, reading, fresh (by decide)]
      rfl
  | file =>
      rw [assign, reading, fresh (by decide)]
      rfl
  | lines =>
      obtain ⟨number, fits, denotes⟩ := accepts
      have set := setOnce_head? (fresh (by decide)) (word?_of_denotes denotes fits)
      simp only [assign, reading, set]
      rfl
  | format =>
      obtain ⟨format, rfl⟩ := accepts
      have set := setOnce_head? (fresh (by decide)) (format?_name format)
      simp only [assign, reading, set]
      rfl
  | header =>
      obtain ⟨header, parsed⟩ := accepts
      simp [assign, reading, parsed, Except.toOption]
  | endpoint =>
      rw [assign, reading, fresh (by decide)]
      rfl
  | chunkSize =>
      obtain ⟨number, fits, denotes⟩ := accepts
      have set := setOnce_head? (fresh (by decide)) (word?_of_denotes denotes fits)
      simp only [assign, reading, set]
      rfl
  | pollInterval =>
      obtain ⟨number, fits, denotes⟩ := accepts
      have set := setOnce_head? (fresh (by decide)) (word?_of_denotes denotes fits)
      simp only [assign, reading, set]
      rfl

end Options

end RemoteTail
