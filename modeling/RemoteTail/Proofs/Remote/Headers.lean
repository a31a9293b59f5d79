import RemoteTail.Proofs.Json.Quoted
import RemoteTail.Proofs.Text.Maps
import RemoteTail.Proofs.Text.Trimming
import RemoteTail.Remote.Header

/-!
# Headers and the pairs that give them

Told by octets, a pair of texts gives a header if its name is a token and its
value is free of controls (`IsHeader`).  Pairs give headers if each of them does,
and then they are set one after another (`ofPairs_eq_ok_iff_insertAll`); or else
the first pair that gives none is reported (`ofPairs_eq_error_iff`).

Two lists of pairs give together what they give one over the other
(`ofPairs_append`).
-/

namespace RemoteTail.Header

/-! ## Names and values by their octets -/

/-- The octets of which header names are made. -/
def tokenOctets : Bytes :=
  Bytes.ofString
    "!#$%&'*+-.^_\x60|~0123456789ABCDEFGHIJKLMNOPQRSTUVWXYZabcdefghijklmnopqrstuvwxyz"

/-- A text is the name of a header: a token that is not too long. -/
structure IsToken (name : String) : Prop where
  nonempty : name ≠ ""
  octets : ∀ octet ∈ Bytes.ofString name, octet ∈ tokenOctets
  short : (Bytes.ofString name).length ≤ 65535

/-- A text may be the value of a header: it has no controls but tabs. -/
def IsFieldValue (value : String) : Prop :=
  ∀ octet ∈ Bytes.ofString value, octet = 0x09 ∨ 0x20 ≤ octet ∧ octet ≠ 0x7F

theorem isTokenChar_ascii :
    ∀ code < 0x80, isTokenChar (Char.ofNat code) = true ↔ UInt8.ofNat code ∈ tokenOctets := by
  decide +kernel

theorem lt_of_mem_tokenOctets {octet : UInt8} (member : octet ∈ tokenOctets) : octet < 0x80 := by
  have ascii : tokenOctets.all (· < 0x80) = true := by decide
  exact of_decide_eq_true (List.all_eq_true.mp ascii octet member)

theorem ascii_of_isTokenChar {c : Char} (token : isTokenChar c = true) : c.toNat < 0x80 := by
  simp only [isTokenChar, Bool.or_eq_true, Bool.and_eq_true, decide_eq_true_eq,
    List.contains_iff_mem, Char.le_def, UInt32.le_iff_toNat_le] at token
  rcases token with ((⟨_, high⟩ | ⟨_, high⟩) | ⟨_, high⟩) | mark
  · exact Nat.lt_of_le_of_lt high (by decide)
  · exact Nat.lt_of_le_of_lt high (by decide)
  · exact Nat.lt_of_le_of_lt high (by decide)
  · have marks : "!#$%&'*+-.^_\x60|~".toList.all (fun mark => mark.toNat < 0x80) = true := by
      decide
    exact of_decide_eq_true (List.all_eq_true.mp marks c mark)

theorem isTokenChar_iff {c : Char} :
    isTokenChar c = true ↔ ∀ octet ∈ String.utf8EncodeChar c, octet ∈ tokenOctets := by
  by_cases ascii : c.toNat < 0x80
  · rw [Json.Quoted.encoded_of_lt ascii, List.forall_mem_singleton, ← isTokenChar_ascii _ ascii,
      Char.ofNat_toNat]
  · refine iff_of_false (fun token => ascii (ascii_of_isTokenChar token)) fun octets => ?_
    obtain ⟨octet, rest, encoded⟩ := List.exists_cons_of_length_pos (Utf8.length_encoded_pos c)
    have member : octet ∈ String.utf8EncodeChar c := encoded ▸ List.mem_cons_self
    exact UInt8.not_lt.mpr (Json.Quoted.le_of_mem_encoded ascii octet member)
      (lt_of_mem_tokenOctets (octets octet member))

theorem isValueChar_iff {c : Char} :
    isValueChar c = true ↔
      ∀ octet ∈ String.utf8EncodeChar c, octet = 0x09 ∨ 0x20 ≤ octet ∧ octet ≠ 0x7F := by
  by_cases ascii : c.toNat < 0x80
  · rw [Json.Quoted.encoded_of_lt ascii, List.forall_mem_singleton]
    have decided : ∀ code < 0x80, isValueChar (Char.ofNat code) = true ↔
        UInt8.ofNat code = 0x09 ∨ 0x20 ≤ UInt8.ofNat code ∧ UInt8.ofNat code ≠ 0x7F := by
      decide +kernel
    rw [← decided _ ascii, Char.ofNat_toNat]
  · refine iff_of_true ?_ fun octet member => .inr ?_
    · simp only [isValueChar, Bool.or_eq_true, Bool.and_eq_true, decide_eq_true_eq]
      omega
    · have high := Json.Quoted.le_of_mem_encoded ascii octet member
      refine ⟨UInt8.le_trans (by decide) high, ?_⟩
      rintro rfl
      exact absurd high (by decide)

theorem forall_mem_ofString_iff {text : String} {P : UInt8 → Prop} :
    (∀ octet ∈ Bytes.ofString text, P octet) ↔
      ∀ c ∈ text.toList, ∀ octet ∈ String.utf8EncodeChar c, P octet :=
  List.forall_mem_flatMap

/-- A text of characters that may stand in names has one octet for each of them. -/
theorem length_ofChars_of_tokenChars {chars : List Char}
    (tokens : ∀ c ∈ chars, isTokenChar c = true) :
    (Bytes.ofChars chars).length = chars.length := by
  induction chars with
  | nil => rfl
  | cons c chars ih =>
      obtain ⟨first, others⟩ := List.forall_mem_cons.mp tokens
      rw [Bytes.ofChars_cons, Json.Quoted.encoded_of_lt (ascii_of_isTokenChar first),
        List.length_append, ih others, List.length_singleton, List.length_cons, Nat.add_comm]

theorem isName_iff {name : String} : isName name = true ↔ IsToken name := by
  have octets_iff : (∀ octet ∈ Bytes.ofString name, octet ∈ tokenOctets) ↔
      ∀ c ∈ name.toList, isTokenChar c = true :=
    forall_mem_ofString_iff.trans (forall₂_congr fun c _ => isTokenChar_iff.symm)
  have empty_iff : name = "" ↔ name.toList = [] := by
    rw [← String.toList_inj]
    rfl
  simp only [isName, Bool.and_eq_true, Bool.not_eq_true', List.isEmpty_eq_false_iff,
    decide_eq_true_eq, List.all_eq_true]
  constructor
  · rintro ⟨⟨some_char, short⟩, tokens⟩
    have length_eq := length_ofChars_of_tokenChars tokens
    exact ⟨fun empty => some_char (empty_iff.mp empty), octets_iff.mpr tokens,
      length_eq.trans_le short⟩
  · rintro ⟨nonempty, octets, short⟩
    have tokens := octets_iff.mp octets
    have length_eq := length_ofChars_of_tokenChars tokens
    exact ⟨⟨fun empty => nonempty (empty_iff.mpr empty), length_eq.symm.trans_le short⟩,
      tokens⟩

theorem isValue_iff {value : String} : isValue value = true ↔ IsFieldValue value := by
  rw [isValue, List.all_eq_true, IsFieldValue, forall_mem_ofString_iff]
  exact forall₂_congr fun c _ => isValueChar_iff

/-! ## Pairs -/

/-- A pair of texts gives a header, white space around them apart. -/
structure IsHeader (pair : String × String) : Prop where
  name : IsToken (Blank.trim pair.1)
  value : IsFieldValue (Blank.trim pair.2)

/-- The name of a pair as headers are known by it. -/
def lowerName (pair : String × String) : String :=
  (Blank.trim pair.1).map Char.toLower

/-- The name and the value that a pair gives. -/
def normal (pair : String × String) : String × String :=
  (lowerName pair, Blank.trim pair.2)

/-- What is reported of a pair that gives no header: its name as it stands if this is bad, and else
the name that its bad value would have had. -/
inductive Reports (pair : String × String) : Error → Prop where
  /-- The name is bad. -/
  | name (bad : ¬ IsToken (Blank.trim pair.1)) : Reports pair (.invalidHeader pair.1)
  /-- Only the value is bad. -/
  | value (good : IsToken (Blank.trim pair.1)) (bad : ¬ IsFieldValue (Blank.trim pair.2)) :
      Reports pair (.invalidHeader (lowerName pair))

variable {pair header : String × String} {pairs left right : List (String × String)} {error : Error}
  {collected headers general special : Headers}

theorem ofPair_of_isHeader (isHeader : IsHeader pair) : ofPair pair = .ok (normal pair) := by
  have name := isName_iff.mpr isHeader.name
  have value := isValue_iff.mpr isHeader.value
  simp only [ofPair, name, value, Bool.not_true, Bool.false_eq_true, if_false]
  rfl

theorem ofPair_of_reports (reports : Reports pair error) : ofPair pair = .error error := by
  cases reports with
  | name bad =>
      have refused := Bool.not_eq_true _ ▸ mt isName_iff.mp bad
      simp only [ofPair, refused, Bool.not_false, if_true]
  | value good bad =>
      have name := isName_iff.mpr good
      have refused := Bool.not_eq_true _ ▸ mt isValue_iff.mp bad
      simp only [ofPair, name, refused, Bool.not_true, Bool.not_false, Bool.false_eq_true, if_false,
        if_true]
      rfl

theorem isHeader_or_exists_reports (pair : String × String) :
    IsHeader pair ∨ ∃ error, Reports pair error := by
  by_cases name : IsToken (Blank.trim pair.1)
  · by_cases value : IsFieldValue (Blank.trim pair.2)
    · exact .inl ⟨name, value⟩
    · exact .inr ⟨_, .value name value⟩
  · exact .inr ⟨_, .name name⟩

/-! ## Lists of pairs -/

theorem add_of_isHeader (isHeader : IsHeader pair) :
    add collected pair = .ok (collected.insert (normal pair).1 (normal pair).2) := by
  rw [add, ofPair_of_isHeader isHeader]
  rfl

theorem add_of_reports (reports : Reports pair error) : add collected pair = .error error := by
  rw [add, ofPair_of_reports reports]
  rfl

theorem foldlM_add_of_isHeader (isHeader : ∀ pair ∈ pairs, IsHeader pair) :
    pairs.foldlM add collected = .ok (collected.insertAll (pairs.map normal)) := by
  induction pairs generalizing collected with
  | nil => rfl
  | cons pair pairs ih =>
      obtain ⟨first, others⟩ := List.forall_mem_cons.mp isHeader
      rw [List.foldlM_cons, add_of_isHeader first]
      exact ih others

/-- The first pair that gives no header is reported. -/
theorem foldlM_add_of_reports (isHeader : ∀ pair ∈ left, IsHeader pair)
    (reports : Reports pair error) :
    (left ++ pair :: right).foldlM add collected = .error error := by
  rw [List.foldlM_append, foldlM_add_of_isHeader isHeader]
  simp only [bind, Except.bind, List.foldlM_cons, add_of_reports reports]

/-- Either every pair of a list gives a header, or there is a first one that gives none. -/
theorem forall_isHeader_or_exists (pairs : List (String × String)) :
    (∀ pair ∈ pairs, IsHeader pair) ∨
      ∃ before pair after error, pairs = before ++ pair :: after ∧
        (∀ earlier ∈ before, IsHeader earlier) ∧ Reports pair error := by
  induction pairs with
  | nil => exact .inl (List.forall_mem_nil _)
  | cons pair pairs ih =>
      rcases isHeader_or_exists_reports pair with isHeader | ⟨error, reports⟩
      · rcases ih with others | ⟨before, bad, after, error, rfl, earlier, reports⟩
        · exact .inl (List.forall_mem_cons.mpr ⟨isHeader, others⟩)
        · exact .inr ⟨pair :: before, bad, after, error, rfl,
            List.forall_mem_cons.mpr ⟨isHeader, earlier⟩, reports⟩
      · exact .inr ⟨[], pair, pairs, error, rfl, List.forall_mem_nil _, reports⟩

/-- Pairs give headers if each of them gives one, and then they are set one after another. -/
theorem ofPairs_eq_ok_iff_insertAll :
    ofPairs pairs = .ok headers ↔
      (∀ pair ∈ pairs, IsHeader pair) ∧ headers = (∅ : Headers).insertAll (pairs.map normal) := by
  rcases forall_isHeader_or_exists pairs with
    isHeader | ⟨before, bad, after, error, rfl, earlier, reports⟩
  · rw [ofPairs, foldlM_add_of_isHeader isHeader, Except.ok.injEq, and_iff_right isHeader, eq_comm]
  · rw [ofPairs, foldlM_add_of_reports earlier reports]
    refine iff_of_false (fun given => by cases given) ?_
    rintro ⟨isHeader, _⟩
    have given := ofPair_of_isHeader (isHeader bad (List.mem_append_right _ List.mem_cons_self))
    rw [ofPair_of_reports reports] at given
    cases given

/-- Pairs give no headers if one of them gives none, and then the first such pair is reported. -/
theorem ofPairs_eq_error_iff :
    ofPairs pairs = .error error ↔
      ∃ before pair after, pairs = before ++ pair :: after ∧
        (∀ earlier ∈ before, IsHeader earlier) ∧ Reports pair error := by
  constructor
  · intro given
    rcases forall_isHeader_or_exists pairs with
      isHeader | ⟨before, bad, after, reported, rfl, earlier, reports⟩
    · rw [ofPairs, foldlM_add_of_isHeader isHeader] at given
      cases given
    · rw [ofPairs, foldlM_add_of_reports earlier reports] at given
      cases given
      exact ⟨before, bad, after, rfl, earlier, reports⟩
  · rintro ⟨before, pair, after, rfl, earlier, reports⟩
    exact foldlM_add_of_reports earlier reports

/-- Headers map each name to the value of the last pair that has it. -/
theorem get?_of_ofPairs (given : ofPairs pairs = .ok headers) (name : String) :
    headers.get? name = (pairs.map normal).reverse.lookup name := by
  rw [(ofPairs_eq_ok_iff_insertAll.mp given).2, TextMap.get?_insertAll, TextMap.get?_empty,
    Option.or_none]

/-- Two lists of pairs give together what the second gives over the first. -/
theorem ofPairs_append (general_given : ofPairs left = .ok general)
    (special_given : ofPairs right = .ok special) :
    ofPairs (left ++ right) = .ok (general.extend special) := by
  obtain ⟨left_headers, rfl⟩ := ofPairs_eq_ok_iff_insertAll.mp general_given
  obtain ⟨right_headers, rfl⟩ := ofPairs_eq_ok_iff_insertAll.mp special_given
  refine ofPairs_eq_ok_iff_insertAll.mpr
    ⟨List.forall_mem_append.mpr ⟨left_headers, right_headers⟩, ?_⟩
  rw [TextMap.extend_insertAll, List.map_append, TextMap.insertAll, TextMap.insertAll,
    TextMap.insertAll, List.foldl_append]

/-! ## Texts of the form `NAME: VALUE` -/

section

variable {given name value : String} {front behind : List Char}

theorem takeWhile_colon (no_colon : ':' ∉ front) :
    (front ++ ':' :: behind).takeWhile (· ≠ ':') = front := by
  rw [List.takeWhile_append_of_pos]
  · simp
  · exact fun c member => decide_eq_true fun same => no_colon (same ▸ member)

theorem dropWhile_colon (no_colon : ':' ∉ front) :
    (front ++ ':' :: behind).dropWhile (· ≠ ':') = ':' :: behind := by
  rw [List.dropWhile_append_of_pos]
  · simp
  · exact fun c member => decide_eq_true fun same => no_colon (same ▸ member)

theorem parse_of_colon (given_eq : given.toList = front ++ ':' :: behind) (no_colon : ':' ∉ front) :
    parse given =
      if (Blank.trimChars front).isEmpty then .error ⟨given⟩
      else
        .ok (String.ofList (Blank.trimChars front), String.ofList (Blank.trimChars behind)) := by
  rw [parse, given_eq, takeWhile_colon no_colon, dropWhile_colon no_colon]

theorem parse_of_no_colon (no_colon : ':' ∉ given.toList) : parse given = .error ⟨given⟩ := by
  have nothing : given.toList.dropWhile (· ≠ ':') = [] :=
    List.dropWhile_eq_nil_iff.mpr fun c member =>
      decide_eq_true fun same => no_colon (same ▸ member)
  simp only [parse, nothing]

/-- A text is divided at its first colon, if the name before it is not blank. -/
theorem parse_eq_ok_iff :
    parse given = .ok (name, value) ↔
      ∃ front behind, given.toList = front ++ ':' :: behind ∧ ':' ∉ front ∧ name ≠ "" ∧
        name = String.ofList (Blank.trimChars front) ∧
        value = String.ofList (Blank.trimChars behind) := by
  have empty_iff (chars : List Char) : chars.isEmpty = true ↔ String.ofList chars = "" := by
    rw [List.isEmpty_iff, ← String.toList_inj, String.toList_ofList]
    rfl
  constructor
  · intro parsed
    by_cases colon : ':' ∈ given.toList
    · obtain ⟨front, behind, given_eq, no_colon⟩ := List.eq_append_cons_of_mem colon
      rw [parse_of_colon given_eq no_colon] at parsed
      by_cases empty : String.ofList (Blank.trimChars front) = ""
      · simp only [empty_iff, empty, if_true, reduceCtorEq] at parsed
      · simp only [empty_iff, empty, if_false, Except.ok.injEq, Prod.mk.injEq] at parsed
        obtain ⟨rfl, rfl⟩ := parsed
        exact ⟨front, behind, given_eq, no_colon, empty, rfl, rfl⟩
    · rw [parse_of_no_colon colon] at parsed
      cases parsed
  · rintro ⟨front, behind, given_eq, no_colon, nonempty, rfl, rfl⟩
    rw [parse_of_colon given_eq no_colon, if_neg (mt (empty_iff _).mp nonempty)]

/-- What a text of this form is divided into: the name has no colon, neither part has white space
around it, and together they are divided in the same way. -/
theorem parse_of_parse (parsed : parse given = .ok (name, value)) :
    name ≠ "" ∧ ':' ∉ name.toList ∧ Blank.trim name = name ∧ Blank.trim value = value ∧
      parse (name ++ ":" ++ value) = .ok (name, value) := by
  obtain ⟨front, behind, _, no_colon, nonempty, rfl, rfl⟩ := parse_eq_ok_iff.mp parsed
  have trimmed_no_colon : ':' ∉ Blank.trimChars front :=
    fun member => no_colon (Blank.mem_of_mem_trimChars member)
  refine ⟨nonempty, ?_, Blank.trim_ofList_trimChars front, Blank.trim_ofList_trimChars behind, ?_⟩
  · rw [String.toList_ofList]
    exact trimmed_no_colon
  · refine parse_eq_ok_iff.mpr ⟨Blank.trimChars front, Blank.trimChars behind, ?_, trimmed_no_colon,
      nonempty, ?_, ?_⟩
    · simp only [String.toList_append, String.toList_ofList, List.append_assoc]
      rfl
    · rw [Blank.trimChars_trimChars]
    · rw [Blank.trimChars_trimChars]

end

end RemoteTail.Header
