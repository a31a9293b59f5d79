import Mathlib.Data.List.Basic
import RemoteTail.Proofs.Text.Decoding

/-!
# Repairing ill-formed text

A string of octets is repaired by replacing each maximal ill-formed subpart: where
no character comes first, the longest front that begins some character, or else
one octet (`IsIllFormedSubpart`).  The parts are determined by the octets, so
there is one repaired text for each string (`repairs_iff`), and it is the one
that lossy decoding gives.

Strict decoding therefore succeeds on texts only (`decode?_eq_some_iff`).
-/

namespace RemoteTail.Utf8

/-! ## Characters and their beginnings -/

/-- Whether octets begin the octets of some character. -/
def IsOpening (part : Bytes) : Prop :=
  ∃ c, part <+: String.utf8EncodeChar c

/-- A maximal ill-formed subpart at the front of octets: no character comes first, and the part is
the longest front that begins one, or else a single octet. -/
structure IsIllFormedSubpart (part octets : Bytes) : Prop where
  isPrefix : part <+: octets
  ne_nil : part ≠ []
  no_character : ∀ c, ¬ String.utf8EncodeChar c <+: octets
  opens : IsOpening part ∨ part.length = 1
  longest : ∀ longer, longer <+: octets → IsOpening longer → longer.length ≤ part.length

/-- A text that octets spell once each maximal ill-formed subpart has been replaced. -/
inductive Repairs : Bytes → List Char → Prop where
  /-- Nothing is spelt. -/
  | nil : Repairs [] []
  /-- A character is spelt first. -/
  | character (c : Char) {rest : Bytes} {text : List Char} (later : Repairs rest text) :
      Repairs (String.utf8EncodeChar c ++ rest) (c :: text)
  /-- An ill-formed subpart comes first. -/
  | replaced {part rest : Bytes} {text : List Char} (ill : IsIllFormedSubpart part (part ++ rest))
      (later : Repairs rest text) : Repairs (part ++ rest) (replacement :: text)

/-! ## What a unit takes -/

/-- Bits that continuations add to those of the octets before them. -/
def addBits (bits : Nat) (octet : UInt8) : Nat :=
  bits * 64 + (octet.toNat - 0x80)

/-- Continuations are taken until there are enough of them, or the next octet is none. -/
theorem trail_cases (further bits : Nat) (rest : Bytes) :
    ∃ front after, rest = front ++ after ∧ (∀ octet ∈ front, isContinuation octet = true) ∧
      ((front.length = further ∧
          trail further bits rest = (some (Char.ofNat (front.foldl addBits bits)), after)) ∨
        (front.length < further ∧ trail further bits rest = (none, after) ∧
          ∀ octet ∈ after.head?, isContinuation octet = false)) := by
  fun_induction trail further bits rest with
  | case1 bits rest => exact ⟨[], rest, rfl, List.forall_mem_nil _, .inl ⟨rfl, rfl⟩⟩
  | case2 further bits =>
      exact ⟨[], [], rfl, List.forall_mem_nil _, .inr ⟨Nat.zero_lt_succ _, rfl, by simp⟩⟩
  | case3 further bits octet rest continues ih =>
      obtain ⟨front, after, rfl, continuations, ih⟩ := ih
      refine ⟨octet :: front, after, rfl, List.forall_mem_cons.mpr ⟨continues, continuations⟩, ?_⟩
      cases ih with
      | inl taken =>
          refine .inl ⟨by rw [List.length_cons, taken.1], ?_⟩
          rw [taken.2, List.foldl_cons]
          rfl
      | inr stopped => exact .inr ⟨Nat.succ_lt_succ stopped.1, stopped.2⟩
  | case4 further bits octet rest breaks =>
      refine ⟨[], octet :: rest, rfl, List.forall_mem_nil _, .inr ⟨Nat.zero_lt_succ _, rfl, ?_⟩⟩
      simpa using breaks

/-- Too few continuations are taken in the same way, whatever follows the octet that breaks them
off. -/
theorem trail_of_break {front : Bytes} {octet : UInt8}
    (continuations : ∀ octet ∈ front, isContinuation octet = true)
    (breaks : isContinuation octet = false) {further : Nat} (short : front.length < further)
    (bits : Nat) (rest : Bytes) :
    (trail further bits (front ++ octet :: rest)).1 = none := by
  induction front generalizing further bits with
  | nil =>
      obtain ⟨further, rfl⟩ := Nat.exists_eq_add_one_of_ne_zero (Nat.ne_of_gt short)
      rw [List.nil_append, trail, breaks]
      rfl
  | cons first front ih =>
      obtain ⟨continues, others⟩ := List.forall_mem_cons.mp continuations
      obtain ⟨further, rfl⟩ := Nat.exists_eq_add_one_of_ne_zero (Nat.ne_zero_of_lt short)
      rw [List.cons_append, trail, if_pos continues]
      exact ih others (Nat.lt_of_succ_lt_succ short) _

/-! ## Sequences that spell a character -/

theorem toNat_isContinuation {octet : UInt8} (continues : isContinuation octet = true) :
    128 ≤ octet.toNat ∧ octet.toNat < 192 := by
  rw [isContinuation, Bool.and_eq_true, decide_eq_true_eq, decide_eq_true_eq,
    UInt8.le_iff_toNat_le, UInt8.lt_iff_toNat_lt] at continues
  exact continues

/-- The first two octets of a sequence, by the number of octets that follow them: the bits that they
contribute leave out overlong forms, surrogates and values above U+10FFFF. -/
theorem lead?_cases {first second : UInt8} {lead : Lead} (leads : lead? first = some lead)
    (above : lead.low ≤ second) (below : second ≤ lead.high) :
    128 ≤ second.toNat ∧ second.toNat < 192 ∧
      ((lead.further = 0 ∧ first.toNat = lead.bits + 192 ∧
          0x80 ≤ addBits lead.bits second ∧ addBits lead.bits second < 0x800) ∨
        (lead.further = 1 ∧ first.toNat = lead.bits + 224 ∧
          0x20 ≤ addBits lead.bits second ∧ addBits lead.bits second < 0x400 ∧
          ¬ (0x360 ≤ addBits lead.bits second ∧ addBits lead.bits second < 0x380)) ∨
        (lead.further = 2 ∧ first.toNat = lead.bits + 240 ∧
          0x10 ≤ addBits lead.bits second ∧ addBits lead.bits second < 0x110)) := by
  have bounds := And.intro (UInt8.le_iff_toNat_le.mp above) (UInt8.le_iff_toNat_le.mp below)
  unfold lead? at leads
  simp only [UInt8.lt_iff_toNat_lt, ← UInt8.toNat_inj, UInt8.reduceToNat] at leads
  unfold addBits
  split_ifs at leads
  all_goals
    obtain rfl := Option.some.inj leads
    dsimp only [UInt8.reduceToNat] at bounds ⊢
    omega

theorem eq_ofNat {octet : UInt8} {value : Nat} (value_eq : octet.toNat = value) :
    octet = UInt8.ofNat value := by
  rw [← value_eq, UInt8.ofNat_toNat]

/-- The value of a character that is made of a valid code. -/
theorem toNat_val_ofNat {value : Nat} (valid : value.isValidChar) :
    (Char.ofNat value).val.toNat = value := by
  rw [Char.ofNat, dif_pos valid]
  rfl

theorem encoded_one {octet : UInt8} (low : octet < 0x80) :
    String.utf8EncodeChar (Char.ofNat octet.toNat) = [octet] := by
  have value_le : octet.toNat ≤ 127 := Nat.le_of_lt_succ (UInt8.lt_iff_toNat_lt.mp low)
  rw [String.utf8EncodeChar]
  simp only [@toNat_val_ofNat octet.toNat (.inl (by omega)), if_pos value_le]
  exact congrArg (fun octet => [octet]) UInt8.ofNat_toNat

theorem encoded_two {value : Nat} (low : 0x80 ≤ value) (high : value < 0x800) :
    String.utf8EncodeChar (Char.ofNat value) =
      [UInt8.ofNat (value / 64 + 192), UInt8.ofNat (value % 64 + 128)] := by
  have bits_eq : value / 64 % 32 = value / 64 := by omega
  rw [String.utf8EncodeChar]
  simp only [@toNat_val_ofNat value (.inl (by omega)), bits_eq]
  rw [if_neg (by omega), if_pos (by omega)]

theorem encoded_three {value : Nat} (low : 0x800 ≤ value) (high : value < 0x10000)
    (no_surrogate : ¬ (0xD800 ≤ value ∧ value < 0xE000)) :
    String.utf8EncodeChar (Char.ofNat value) =
      [UInt8.ofNat (value / 4096 + 224), UInt8.ofNat (value / 64 % 64 + 128),
        UInt8.ofNat (value % 64 + 128)] := by
  have bits_eq : value / 4096 % 16 = value / 4096 := by omega
  have valid : value.isValidChar := by
    unfold Nat.isValidChar
    omega
  rw [String.utf8EncodeChar]
  simp only [toNat_val_ofNat valid, bits_eq]
  rw [if_neg (by omega), if_neg (by omega), if_pos (by omega)]

theorem encoded_four {value : Nat} (low : 0x10000 ≤ value) (high : value < 0x110000) :
    String.utf8EncodeChar (Char.ofNat value) =
      [UInt8.ofNat (value / 262144 + 240), UInt8.ofNat (value / 4096 % 64 + 128),
        UInt8.ofNat (value / 64 % 64 + 128), UInt8.ofNat (value % 64 + 128)] := by
  have bits_eq : value / 262144 % 8 = value / 262144 := by omega
  rw [String.utf8EncodeChar]
  simp only [@toNat_val_ofNat value (.inr ⟨by omega, high⟩), bits_eq]
  rw [if_neg (by omega), if_neg (by omega), if_neg (by omega)]

/-- A continuation adds six bits, from which it can be had back. -/
theorem addBits_eq {octet : UInt8} (low : 128 ≤ octet.toNat) (high : octet.toNat < 192)
    (bits : Nat) :
    addBits bits octet / 64 = bits ∧ octet.toNat = addBits bits octet % 64 + 128 := by
  unfold addBits
  omega

/-- A sequence of the right length within its bounds spells a character. -/
theorem encoded_of_lead {first second : UInt8} {lead : Lead} {tail : Bytes}
    (leads : lead? first = some lead) (above : lead.low ≤ second) (below : second ≤ lead.high)
    (continuations : ∀ octet ∈ tail, isContinuation octet = true)
    (length_eq : tail.length = lead.further) :
    String.utf8EncodeChar (Char.ofNat ((second :: tail).foldl addBits lead.bits)) =
      first :: second :: tail := by
  obtain ⟨second_low, second_high, shapes⟩ := lead?_cases leads above below
  obtain ⟨bits_eq, second_eq⟩ := addBits_eq second_low second_high lead.bits
  rw [List.foldl_cons]
  generalize addBits lead.bits second = value at shapes bits_eq second_eq ⊢
  rcases shapes with ⟨further, first_eq, low, high⟩ | ⟨further, first_eq, low, high, apart⟩ |
    ⟨further, first_eq, low, high⟩
  · obtain rfl : tail = [] := List.length_eq_zero_iff.mp (length_eq.trans further)
    rw [List.foldl_nil, encoded_two low high, ← eq_ofNat second_eq, ← @eq_ofNat first]
    omega
  · obtain ⟨third, rfl⟩ := List.length_eq_one_iff.mp (length_eq.trans further)
    rw [List.forall_mem_singleton] at continuations
    obtain ⟨third_low, third_high⟩ := toNat_isContinuation continuations
    obtain ⟨value_eq, third_eq⟩ := addBits_eq third_low third_high value
    rw [List.foldl_cons, List.foldl_nil]
    generalize addBits value third = whole at value_eq third_eq ⊢
    have first_spelt : first = UInt8.ofNat (whole / 4096 + 224) := eq_ofNat (by omega)
    have second_spelt : second = UInt8.ofNat (whole / 64 % 64 + 128) := eq_ofNat (by omega)
    rw [encoded_three (by omega) (by omega) (by omega), ← eq_ofNat third_eq, ← first_spelt,
      ← second_spelt]
  · obtain ⟨third, fourth, rfl⟩ := List.length_eq_two.mp (length_eq.trans further)
    simp only [List.forall_mem_cons, List.not_mem_nil, false_implies, implies_true, and_true]
      at continuations
    obtain ⟨third_low, third_high⟩ := toNat_isContinuation continuations.1
    obtain ⟨fourth_low, fourth_high⟩ := toNat_isContinuation continuations.2
    obtain ⟨value_eq, third_eq⟩ := addBits_eq third_low third_high value
    rw [List.foldl_cons, List.foldl_cons, List.foldl_nil]
    generalize addBits value third = more at value_eq third_eq ⊢
    obtain ⟨more_eq, fourth_eq⟩ := addBits_eq fourth_low fourth_high more
    generalize addBits more fourth = whole at more_eq fourth_eq ⊢
    have first_spelt : first = UInt8.ofNat (whole / 262144 + 240) := eq_ofNat (by omega)
    have second_spelt : second = UInt8.ofNat (whole / 4096 % 64 + 128) := eq_ofNat (by omega)
    have third_spelt : third = UInt8.ofNat (whole / 64 % 64 + 128) := eq_ofNat (by omega)
    rw [encoded_four (by omega) (by omega), ← eq_ofNat fourth_eq, ← first_spelt, ← second_spelt,
      ← third_spelt]

/-! ## Units are characters and maximal subparts -/

/-- A character that comes first is a unit. -/
theorem unit_of_isPrefix {first : UInt8} {rest : Bytes} {c : Char}
    (comes : String.utf8EncodeChar c <+: first :: rest) : (unit first rest).1 = some c := by
  obtain ⟨after, octets_eq⟩ := comes
  obtain ⟨octet, more, encoded, unit_eq⟩ := unit_encoded c after
  rw [encoded, List.cons_append, List.cons.injEq] at octets_eq
  obtain ⟨rfl, rfl⟩ := octets_eq
  rw [unit_eq]

/-- Octets that are no unit whatever follows them begin no character. -/
theorem not_isOpening {first : UInt8} {front : Bytes}
    (broken : ∀ rest, (unit first (front ++ rest)).1 = none) : ¬ IsOpening (first :: front) := by
  rintro ⟨c, after, encoded⟩
  have comes : String.utf8EncodeChar c <+: first :: (front ++ after) :=
    ⟨[], by rw [List.append_nil, ← encoded, List.cons_append]⟩
  exact Option.some_ne_none c ((unit_of_isPrefix comes).symm.trans (broken after))

theorem IsOpening.of_isPrefix {shorter longer : Bytes} (opens : IsOpening longer)
    (front : shorter <+: longer) : IsOpening shorter :=
  opens.imp fun _ encoded => front.trans encoded

/-- A part is ill-formed if no character comes first, it begins one or is a single octet, and with
the octet after it it begins none. -/
theorem isIllFormedSubpart_of_break {first : UInt8} {front after : Bytes}
    (no_character : (unit first (front ++ after)).1 = none)
    (opens : IsOpening (first :: front) ∨ front = [])
    (breaks : ∀ octet ∈ after.head?, ¬ IsOpening (first :: (front ++ [octet]))) :
    IsIllFormedSubpart (first :: front) (first :: front ++ after) where
  isPrefix := List.prefix_append _ _
  ne_nil := List.cons_ne_nil _ _
  no_character := by
    intro c comes
    exact Option.some_ne_none c ((unit_of_isPrefix comes).symm.trans no_character)
  opens := opens.imp_right fun single => by rw [single, List.length_singleton]
  longest := by
    intro longer comes opens
    by_contra exceeds
    -- What exceeds the part holds the octet after it.
    obtain ⟨more, rfl⟩ := List.prefix_of_prefix_length_le
      (List.prefix_append (first :: front) after) comes (Nat.le_of_not_le exceeds)
    obtain ⟨rest, after_eq⟩ := (List.prefix_append_right_inj (first :: front)).mp comes
    cases more with
    | nil => exact exceeds (by rw [List.append_nil])
    | cons octet more =>
        subst after_eq
        refine breaks octet rfl (opens.of_isPrefix ⟨more, ?_⟩)
        simp only [List.cons_append, List.append_assoc, List.nil_append]

/-- An octet that nothing but itself can be a unit of is an ill-formed subpart. -/
theorem isIllFormedSubpart_singleton {first : UInt8} {rest : Bytes}
    (broken : ∀ octet ∈ rest.head?, ∀ more, (unit first (octet :: more)).1 = none)
    (alone : (unit first []).1 = none) : IsIllFormedSubpart [first] ([first] ++ rest) := by
  refine isIllFormedSubpart_of_break ?_ (.inr rfl) ?_
  · cases rest with
    | nil => exact alone
    | cons octet more => exact broken octet rfl more
  · intro octet next
    exact not_isOpening fun more => broken octet next more

/-- A first octet that leads no sequence is a unit by itself, and no character. -/
theorem unit_of_no_lead {first : UInt8} (high : ¬ first < 0x80) (no_lead : lead? first = none)
    (rest : Bytes) : unit first rest = (none, rest) := by
  unfold unit
  simp only [if_neg high, no_lead]

/-- Without a second octet within its bounds a first octet is a unit by itself, and no character. -/
theorem unit_of_outside {first second : UInt8} {lead : Lead} (high : ¬ first < 0x80)
    (leads : lead? first = some lead) (outside : ¬ (lead.low ≤ second ∧ second ≤ lead.high))
    (rest : Bytes) : unit first (second :: rest) = (none, second :: rest) := by
  unfold unit
  simp only [if_neg high, leads, Bool.and_eq_true, decide_eq_true_eq, if_neg outside]

/-- A second octet within its bounds begins the trail. -/
theorem unit_of_within {first second : UInt8} {lead : Lead} (high : ¬ first < 0x80)
    (leads : lead? first = some lead) (above : lead.low ≤ second) (below : second ≤ lead.high)
    (rest : Bytes) :
    unit first (second :: rest) = trail lead.further (addBits lead.bits second) rest := by
  unfold unit
  simp only [if_neg high, leads, Bool.and_eq_true, decide_eq_true_eq,
    if_pos (And.intro above below)]
  rfl

/-- Octets within their bounds begin a character, although they may be too few to spell it. -/
theorem isOpening_of_lead {first second : UInt8} {lead : Lead} {front : Bytes}
    (leads : lead? first = some lead) (above : lead.low ≤ second) (below : second ≤ lead.high)
    (continuations : ∀ octet ∈ front, isContinuation octet = true)
    (short : front.length ≤ lead.further) : IsOpening (first :: second :: front) := by
  have all_continuations : ∀ octet ∈ front ++ List.replicate (lead.further - front.length) 0x80,
      isContinuation octet = true :=
    List.forall_mem_append.mpr ⟨continuations, fun _ member => by
      rw [List.eq_of_mem_replicate member]
      rfl⟩
  have encoded := encoded_of_lead leads above below all_continuations
    (by rw [List.length_append, List.length_replicate, Nat.add_sub_cancel' short])
  exact ⟨_, _, encoded.symm⟩

/-- A unit is a character that comes first, or else the mark of an ill-formed subpart. -/
theorem unit_cases (first : UInt8) (rest : Bytes) :
    (∃ c after, unit first rest = (some c, after) ∧
      first :: rest = String.utf8EncodeChar c ++ after) ∨
    (∃ part after, unit first rest = (none, after) ∧ first :: rest = part ++ after ∧
      IsIllFormedSubpart part (part ++ after)) := by
  by_cases high : first < 0x80
  · exact .inl ⟨_, rest, unit_of_low high rest, by rw [encoded_one high, List.singleton_append]⟩
  cases leads : lead? first with
  | none =>
      have alone := unit_of_no_lead high leads
      refine .inr ⟨[first], rest, alone rest, rfl, isIllFormedSubpart_singleton ?_ ?_⟩
      · intro octet _ more
        rw [alone]
      · rw [alone]
  | some lead =>
      have alone : unit first [] = (none, []) := by
        unfold unit
        simp only [if_neg high, leads]
      cases rest with
      | nil =>
          refine .inr ⟨[first], [], alone, rfl, isIllFormedSubpart_singleton ?_ ?_⟩
          · exact fun _ next => absurd next (Option.not_mem_none _)
          · rw [alone]
      | cons second rest =>
          by_cases within : lead.low ≤ second ∧ second ≤ lead.high
          · obtain ⟨above, below⟩ := within
            rw [unit_of_within high leads above below]
            obtain ⟨front, after, rfl, continuations, taken | ⟨short, stopped, breaks⟩⟩ :=
              trail_cases lead.further (addBits lead.bits second) rest
            · refine .inl ⟨_, after, taken.2, ?_⟩
              rw [← List.foldl_cons, encoded_of_lead leads above below continuations taken.1]
              rfl
            · refine .inr ⟨first :: second :: front, after, stopped, rfl, ?_⟩
              refine isIllFormedSubpart_of_break ?_
                (.inl (isOpening_of_lead leads above below continuations short.le)) ?_
              · rw [List.cons_append, unit_of_within high leads above below, stopped]
              · intro octet next
                refine not_isOpening fun more => ?_
                rw [List.cons_append, List.cons_append, List.append_assoc, List.singleton_append,
                  unit_of_within high leads above below]
                exact trail_of_break continuations (breaks octet next) short _ _
          · have broken := unit_of_outside high leads within
            refine .inr ⟨[first], second :: rest, broken rest, rfl,
              isIllFormedSubpart_singleton ?_ ?_⟩
            · intro octet next more
              obtain rfl := Option.some.inj next
              rw [broken]
            · rw [alone]

/-! ## Repaired texts -/

/-- Lossy decoding repairs a text. -/
theorem repairs_lossy (octets : Bytes) : Repairs octets (lossy octets) := by
  induction octets using units.induct with
  | case1 =>
      rw [lossy, units]
      exact .nil
  | case2 first rest ih =>
      rcases unit_cases first rest with ⟨c, after, unit_eq, octets_eq⟩ |
        ⟨part, after, unit_eq, octets_eq, ill⟩
      · rw [unit_eq] at ih
        rw [lossy, units, unit_eq, octets_eq]
        exact .character c ih
      · rw [unit_eq] at ih
        rw [lossy, units, unit_eq, octets_eq]
        exact .replaced ill ih

/-- An ill-formed subpart at the front of octets is at least as long as another. -/
theorem IsIllFormedSubpart.length_le {part other octets : Bytes}
    (ill : IsIllFormedSubpart part octets) (other_ill : IsIllFormedSubpart other octets) :
    other.length ≤ part.length := by
  cases other_ill.opens with
  | inl opens => exact ill.longest other other_ill.isPrefix opens
  | inr single =>
      rw [single]
      exact List.length_pos_of_ne_nil ill.ne_nil

/-- An ill-formed subpart at the front of octets is determined by them. -/
theorem IsIllFormedSubpart.unique {part other octets : Bytes} (ill : IsIllFormedSubpart part octets)
    (other_ill : IsIllFormedSubpart other octets) : part = other :=
  have as_long := Nat.le_antisymm (other_ill.length_le ill) (ill.length_le other_ill)
  (List.prefix_of_prefix_length_le ill.isPrefix other_ill.isPrefix as_long.le).eq_of_length as_long

/-- The repaired text begins with the unit that comes first. -/
theorem lossy_of_ill {part rest : Bytes} (ill : IsIllFormedSubpart part (part ++ rest)) :
    lossy (part ++ rest) = replacement :: lossy rest := by
  obtain ⟨first, front, rfl⟩ := List.exists_cons_of_ne_nil ill.ne_nil
  rw [List.cons_append] at ill ⊢
  rcases unit_cases first (front ++ rest) with ⟨c, after, unit_eq, octets_eq⟩ |
    ⟨other, after, unit_eq, octets_eq, other_ill⟩
  · exact absurd ⟨after, octets_eq.symm⟩ (ill.no_character c)
  · obtain rfl := ill.unique (octets_eq ▸ other_ill)
    rw [← List.cons_append] at octets_eq
    obtain rfl := List.append_cancel_left octets_eq
    rw [lossy, units, unit_eq]
    rfl

/-- Lossy decoding gives the one text that repairs the octets. -/
theorem repairs_iff {octets : Bytes} {text : List Char} :
    Repairs octets text ↔ text = lossy octets := by
  constructor
  · intro repairs
    induction repairs with
    | nil => rw [lossy, units, List.map_nil]
    | character c later ih =>
        rw [ih, lossy, lossy, units_encoded]
        rfl
    | replaced ill later ih => rw [ih, lossy_of_ill ill]
  · rintro rfl
    exact repairs_lossy octets

example : lossy [0x61, 0xF0, 0x9F, 0x92, 0xC0, 0xAF] = "a\uFFFD\uFFFD\uFFFD".toList := by
  decide +kernel

/-! ## Strict decoding -/

/-- Strict decoding gives the text that the octets spell, and nothing of other octets. -/
theorem decode?_eq_some_iff {octets : Bytes} {text : List Char} :
    decode? octets = some text ↔ octets = Bytes.ofChars text := by
  constructor
  · intro decoded
    induction octets using units.induct generalizing text with
    | case1 =>
        rw [decode?, units] at decoded
        obtain rfl := Option.some.inj decoded
        rfl
    | case2 first rest ih =>
        rw [decode?, units] at decoded
        rcases unit_cases first rest with ⟨c, after, unit_eq, octets_eq⟩ | ⟨_, _, unit_eq, _⟩
        · rw [unit_eq, List.mapM_cons] at decoded
          rw [unit_eq] at ih
          obtain ⟨_, c_eq, more_decoded⟩ := Option.bind_eq_some_iff.mp decoded
          obtain rfl := Option.some.inj c_eq
          obtain ⟨more, more_eq, text_eq⟩ := Option.bind_eq_some_iff.mp more_decoded
          obtain rfl := Option.some.inj text_eq
          rw [octets_eq, Bytes.ofChars_cons]
          exact congrArg _ (ih more_eq)
        · rw [unit_eq, List.mapM_cons] at decoded
          cases decoded
  · rintro rfl
    exact decode?_ofChars text

end RemoteTail.Utf8
