import Scaffold.Text.Utf8

/-! Bytes and the texts that are read from them. Reading a text's own bytes gives the text back, and reading
other bytes gives at least one character for each byte that can begin one. -/
namespace Scaffold.Text

/-- The bytes of a text. -/
def encode (s : List Char) : List UInt8 := s.flatMap String.utf8EncodeChar

theorem toUTF8_toList (s : String) : s.toUTF8.data.toList = encode s.toList := by
  have bytes : s.toList.utf8Encode = s.toByteArray := by
    rw [← String.toByteArray_ofList, String.ofList_toList]
  rw [String.toUTF8_eq_toByteArray, ← bytes, List.utf8Encode, List.data_toByteArray]
  rfl

theorem isContinuation_iff {b : UInt8} : isContinuation b = true ↔ 0x80 ≤ b.toNat ∧ b.toNat ≤ 0xBF := by
  simp [isContinuation, UInt8.le_iff_toNat_le]

/-! One character. -/

/-- The bytes after the first one of a character are read as far as the rule for the first one goes. -/
theorem readChar_of_rule {first second low high : UInt8} {others : List UInt8}
    (rule : sequenceRule first = some (others.length + 1, low, high))
    (within : low ≤ second ∧ second ≤ high) (follow : ∀ b ∈ others, isContinuation b = true)
    (rest : List UInt8) :
    readChar first (second :: others ++ rest) =
      (Char.ofNat ((second :: others).foldl addContinuation (first.toNat % Nat.pow 2 (5 - others.length))),
        others.length + 1) := by
  have taken : (others ++ rest).take others.length = others := List.take_left
  have all : others.takeWhile isContinuation = others := by
    rw [← List.append_nil others, List.takeWhile_append_of_pos follow, List.takeWhile_nil]
  simp [readChar, rule, within, taken, all]

/-- How a character is encoded: its first byte and the bytes behind it. -/
structure Encodes (c : Char) (first : UInt8) (more : List UInt8) : Prop where
  bytes : String.utf8EncodeChar c = first :: more
  begins : isContinuation first = false
  follow : ∀ b ∈ more, isContinuation b = true
  read : ∀ rest, readChar first (more ++ rest) = (c, more.length)

/-- The byte behind the first one that has the six low bits of a number. -/
def tail (n : Nat) : UInt8 := UInt8.ofNat (n % 64 + 0x80)

theorem toNat_tail (n : Nat) : (tail n).toNat = n % 64 + 0x80 := by
  rw [tail, UInt8.toNat_ofNat']
  omega

theorem isContinuation_tail (n : Nat) : isContinuation (tail n) = true := by
  rw [isContinuation_iff, toNat_tail]
  omega

theorem follow_map_tail (ns : List Nat) : ∀ b ∈ ns.map tail, isContinuation b = true := by
  intro b member
  obtain ⟨n, -, rfl⟩ := List.mem_map.mp member
  exact isContinuation_tail n

theorem addContinuation_tail (n m : Nat) : addContinuation n (tail m) = 64 * n + m % 64 := by
  rw [addContinuation, toNat_tail]
  omega

theorem sequenceRule_eq (first : UInt8) : sequenceRule first =
    if first.toNat < 0x80 then some (0, 0, 0)
    else if 0xC2 ≤ first.toNat ∧ first.toNat ≤ 0xDF then some (1, 0x80, 0xBF)
    else if first.toNat = 0xE0 then some (2, 0xA0, 0xBF)
    else if first.toNat = 0xED then some (2, 0x80, 0x9F)
    else if 0xE1 ≤ first.toNat ∧ first.toNat ≤ 0xEF then some (2, 0x80, 0xBF)
    else if first.toNat = 0xF0 then some (3, 0x90, 0xBF)
    else if 0xF1 ≤ first.toNat ∧ first.toNat ≤ 0xF3 then some (3, 0x80, 0xBF)
    else if first.toNat = 0xF4 then some (3, 0x80, 0x8F)
    else none := by
  simp [sequenceRule, UInt8.lt_iff_toNat_lt, UInt8.le_iff_toNat_le, ← UInt8.toNat_inj]

/-- A character of more than one byte, by the rule for its first byte. -/
theorem encodes_of_rule {c : Char} {first low high : UInt8} {m : Nat} {ms : List Nat}
    (bytes : String.utf8EncodeChar c = first :: (m :: ms).map tail)
    (rule : sequenceRule first = some (ms.length + 1, low, high))
    (within : low.toNat ≤ (tail m).toNat ∧ (tail m).toNat ≤ high.toNat) (begins : 0xBF < first.toNat)
    (code : (m :: ms).foldl (fun n m => 64 * n + m % 64) (first.toNat % Nat.pow 2 (5 - ms.length)) = c.toNat) :
    Encodes c first ((m :: ms).map tail) where
  bytes := bytes
  begins := by
    rw [Bool.eq_false_iff, ne_eq, isContinuation_iff]
    omega
  follow := follow_map_tail (m :: ms)
  read rest := by
    have value : (tail m :: ms.map tail).foldl addContinuation (first.toNat % Nat.pow 2 (5 - ms.length)) =
        c.toNat := by
      rw [← code, ← List.map_cons, List.foldl_map]
      simp only [addContinuation_tail]
    rw [← List.length_map tail] at rule value
    rw [List.map_cons, readChar_of_rule rule (by simpa only [UInt8.le_iff_toNat_le] using within)
      (follow_map_tail ms), value, Char.ofNat_toNat, List.length_cons]

theorem toNat_leading {n k : Nat} (small : n + k < 256) : (UInt8.ofNat (n + k)).toNat = n + k := by
  rw [UInt8.toNat_ofNat']
  omega

theorem encodes_one {c : Char} (one : c.toNat ≤ 0x7F) : Encodes c (UInt8.ofNat c.toNat) [] := by
  have code : c.val.toNat = c.toNat := rfl
  have number : (UInt8.ofNat c.toNat).toNat = c.toNat := toNat_leading (n := c.toNat) (k := 0) (by omega)
  refine ⟨?_, ?_, nofun, fun rest => ?_⟩
  · simp only [String.utf8EncodeChar, code, if_pos one]
  · rw [Bool.eq_false_iff, ne_eq, isContinuation_iff, number]
    omega
  · rw [readChar, sequenceRule_eq, if_pos (by omega)]
    simp [number]

theorem encodes_two {c : Char} (one : ¬ c.toNat ≤ 0x7F) (two : c.toNat ≤ 0x7FF) :
    Encodes c (UInt8.ofNat (c.toNat / 64 % 32 + 0xC0)) [tail c.toNat] := by
  have code : c.val.toNat = c.toNat := rfl
  have number := toNat_leading (n := c.toNat / 64 % 32) (k := 0xC0) (by omega)
  have rule : sequenceRule (UInt8.ofNat (c.toNat / 64 % 32 + 0xC0)) = some (1, 0x80, 0xBF) := by
    rw [sequenceRule_eq, number, if_neg (by omega), if_pos (by omega)]
  change Encodes c _ ([c.toNat].map tail)
  refine encodes_of_rule ?_ rule ?_ (by omega) ?_
  · simp only [String.utf8EncodeChar, code, if_neg one, if_pos two]
    rfl
  · rw [toNat_tail]
    change 128 ≤ _ ∧ _ ≤ 191
    omega
  · rw [number]
    simp only [List.foldl_cons, List.foldl_nil, List.length_nil, Nat.pow_eq]
    omega

/-- The second of three bytes is in the range that the first one leaves to it: what is out of it would be
shorter, or half of a surrogate pair. -/
theorem exists_rule_three {n : Nat} (valid : n < 0xD800 ∨ 0xDFFF < n) (two : ¬ n ≤ 0x7FF) (three : n ≤ 0xFFFF) :
    ∃ low high, sequenceRule (UInt8.ofNat (n / 4096 % 16 + 0xE0)) = some (2, low, high) ∧
      low.toNat ≤ (tail (n / 64)).toNat ∧ (tail (n / 64)).toNat ≤ high.toNat := by
  rw [sequenceRule_eq, toNat_leading (by omega), toNat_tail, if_neg (by omega), if_neg (by omega)]
  split
  · refine ⟨0xA0, 0xBF, rfl, ?_⟩
    change 160 ≤ _ ∧ _ ≤ 191
    omega
  split
  · refine ⟨0x80, 0x9F, rfl, ?_⟩
    change 128 ≤ _ ∧ _ ≤ 159
    omega
  · rw [if_pos (by omega)]
    refine ⟨0x80, 0xBF, rfl, ?_⟩
    change 128 ≤ _ ∧ _ ≤ 191
    omega

/-- The second of four bytes is in the range that the first one leaves to it: what is out of it would be
shorter, or no character. -/
theorem exists_rule_four {n : Nat} (valid : n < 0x110000) (three : ¬ n ≤ 0xFFFF) :
    ∃ low high, sequenceRule (UInt8.ofNat (n / 262144 % 8 + 0xF0)) = some (3, low, high) ∧
      low.toNat ≤ (tail (n / 4096)).toNat ∧ (tail (n / 4096)).toNat ≤ high.toNat := by
  rw [sequenceRule_eq, toNat_leading (by omega), toNat_tail, if_neg (by omega), if_neg (by omega),
    if_neg (by omega), if_neg (by omega), if_neg (by omega)]
  split
  · refine ⟨0x90, 0xBF, rfl, ?_⟩
    change 144 ≤ _ ∧ _ ≤ 191
    omega
  split
  · refine ⟨0x80, 0xBF, rfl, ?_⟩
    change 128 ≤ _ ∧ _ ≤ 191
    omega
  · rw [if_pos (by omega)]
    refine ⟨0x80, 0x8F, rfl, ?_⟩
    change 128 ≤ _ ∧ _ ≤ 143
    omega

theorem encodes_three {c : Char} (two : ¬ c.toNat ≤ 0x7FF) (three : c.toNat ≤ 0xFFFF) :
    Encodes c (UInt8.ofNat (c.toNat / 4096 % 16 + 0xE0)) [tail (c.toNat / 64), tail c.toNat] := by
  have valid : c.toNat < 0xD800 ∨ 0xDFFF < c.toNat ∧ c.toNat < 0x110000 := c.valid
  have code : c.val.toNat = c.toNat := rfl
  have number := toNat_leading (n := c.toNat / 4096 % 16) (k := 0xE0) (by omega)
  obtain ⟨low, high, rule, within⟩ := exists_rule_three (by omega) two three
  change Encodes c _ ([c.toNat / 64, c.toNat].map tail)
  refine encodes_of_rule ?_ rule within (by omega) ?_
  · simp only [String.utf8EncodeChar, code, if_neg (show ¬ c.toNat ≤ 0x7F by omega), if_neg two, if_pos three]
    rfl
  · rw [number]
    simp only [List.foldl_cons, List.foldl_nil, List.length_cons, List.length_nil, Nat.pow_eq]
    omega

theorem encodes_four {c : Char} (three : ¬ c.toNat ≤ 0xFFFF) :
    Encodes c (UInt8.ofNat (c.toNat / 262144 % 8 + 0xF0))
      [tail (c.toNat / 4096), tail (c.toNat / 64), tail c.toNat] := by
  have valid : c.toNat < 0xD800 ∨ 0xDFFF < c.toNat ∧ c.toNat < 0x110000 := c.valid
  have code : c.val.toNat = c.toNat := rfl
  have number := toNat_leading (n := c.toNat / 262144 % 8) (k := 0xF0) (by omega)
  obtain ⟨low, high, rule, within⟩ := exists_rule_four (by omega) three
  change Encodes c _ ([c.toNat / 4096, c.toNat / 64, c.toNat].map tail)
  refine encodes_of_rule ?_ rule within (by omega) ?_
  · simp only [String.utf8EncodeChar, code, if_neg (show ¬ c.toNat ≤ 0x7F by omega),
      if_neg (show ¬ c.toNat ≤ 0x7FF by omega), if_neg three]
    rfl
  · rw [number]
    simp only [List.foldl_cons, List.foldl_nil, List.length_cons, List.length_nil, Nat.pow_eq]
    omega

theorem exists_encodes (c : Char) : ∃ first more, Encodes c first more := by
  by_cases one : c.toNat ≤ 0x7F
  · exact ⟨_, _, encodes_one one⟩
  by_cases two : c.toNat ≤ 0x7FF
  · exact ⟨_, _, encodes_two one two⟩
  by_cases three : c.toNat ≤ 0xFFFF
  · exact ⟨_, _, encodes_three two three⟩
  · exact ⟨_, _, encodes_four three⟩

/-! Texts. -/

theorem decodeLossy_cons (first : UInt8) (rest : List UInt8) :
    decodeLossy (first :: rest) =
      (readChar first rest).1 :: decodeLossy (rest.drop (readChar first rest).2) := by
  rw [decodeLossy]

theorem encode_cons (c : Char) (s : List Char) : encode (c :: s) = String.utf8EncodeChar c ++ encode s :=
  List.flatMap_cons

theorem encode_append (s t : List Char) : encode (s ++ t) = encode s ++ encode t := List.flatMap_append

theorem encode_flatten (parts : List (List Char)) : encode parts.flatten = (parts.map encode).flatten := by
  induction parts with
  | nil => rfl
  | cons s parts ih => rw [List.flatten_cons, encode_append, ih, List.map_cons, List.flatten_cons]

theorem decodeLossy_encode (s : List Char) : decodeLossy (encode s) = s := by
  induction s with
  | nil => rw [encode, List.flatMap_nil, decodeLossy]
  | cons c s ih =>
    obtain ⟨first, more, encodes⟩ := exists_encodes c
    rw [encode_cons, encodes.bytes, List.cons_append, decodeLossy_cons, encodes.read, List.drop_left, ih]

theorem encode_injective {s t : List Char} (same : encode s = encode t) : s = t := by
  rw [← decodeLossy_encode s, same, decodeLossy_encode]

/-! How many characters are read. -/

/-- How many of the bytes can begin a character. -/
def beginnings (bytes : List UInt8) : Nat := bytes.countP fun b => !isContinuation b

theorem beginnings_cons (b : UInt8) (bytes : List UInt8) :
    beginnings (b :: bytes) = beginnings bytes + if isContinuation b then 0 else 1 := by
  rw [beginnings, List.countP_cons]
  cases isContinuation b <;> rfl

theorem beginnings_append (xs ys : List UInt8) : beginnings (xs ++ ys) = beginnings xs + beginnings ys :=
  List.countP_append

theorem beginnings_of_follow {bytes : List UInt8} (follow : ∀ b ∈ bytes, isContinuation b = true) :
    beginnings bytes = 0 := by
  refine List.countP_eq_zero.mpr fun b member => ?_
  simp [follow b member]

theorem beginnings_encode (s : List Char) : beginnings (encode s) = s.length := by
  induction s with
  | nil => rfl
  | cons c s ih =>
    obtain ⟨first, more, encodes⟩ := exists_encodes c
    rw [encode_cons, encodes.bytes, beginnings_append, beginnings_cons, encodes.begins,
      beginnings_of_follow encodes.follow, ih, List.length_cons, Nat.add_comm]
    rfl

theorem sequenceRule_within {first low high : UInt8} {more : Nat}
    (rule : sequenceRule first = some (more + 1, low, high)) : 0x80 ≤ low ∧ high ≤ 0xBF := by
  rw [sequenceRule_eq] at rule
  repeat' split at rule
  all_goals
    cases rule
    try decide

/-- A second byte that the first one allows cannot begin a character, nor can those that are read behind it. -/
theorem follow_of_rule {first second low high : UInt8} {more : Nat} {rest : List UInt8} (positive : more ≠ 0)
    (rule : sequenceRule first = some (more, low, high))
    (within : (decide (low ≤ second) && decide (second ≤ high)) = true) :
    ∀ b ∈ (second :: rest).take (((rest.take (more - 1)).takeWhile isContinuation).length + 1),
      isContinuation b = true := by
  intro b member
  obtain ⟨more, rfl⟩ := Nat.exists_eq_succ_of_ne_zero positive
  have others := (List.takeWhile_prefix isContinuation).trans (List.take_prefix more rest)
  rw [List.take_succ_cons, Nat.succ_sub_one, ← List.prefix_iff_eq_take.mp others] at member
  rcases List.mem_cons.mp member with rfl | follows
  · obtain ⟨least, greatest⟩ := sequenceRule_within rule
    simp only [Bool.and_eq_true, decide_eq_true_eq] at within
    simp only [isContinuation, Bool.and_eq_true, decide_eq_true_eq]
    exact ⟨UInt8.le_trans least within.1, UInt8.le_trans within.2 greatest⟩
  · exact List.all_eq_true.mp List.all_takeWhile b follows

/-- The bytes that are passed over behind a first one cannot begin a character. -/
theorem readChar_skips (first : UInt8) (rest : List UInt8) :
    ∀ b ∈ rest.take (readChar first rest).2, isContinuation b = true := by
  fun_cases readChar first rest with
  | case4 more low high positive rule second rest within others whole =>
    rw [← whole]
    exact follow_of_rule (fun none => positive none) rule within
  | case5 more low high positive rule second rest within others =>
    rw [Nat.add_comm]
    exact follow_of_rule (fun none => positive none) rule within
  | _ => exact nofun

theorem beginnings_drop_readChar (first : UInt8) (rest : List UInt8) :
    beginnings (rest.drop (readChar first rest).2) = beginnings rest := by
  have cut := beginnings_append (rest.take (readChar first rest).2) (rest.drop (readChar first rest).2)
  rw [List.take_append_drop, beginnings_of_follow (readChar_skips first rest), Nat.zero_add] at cut
  exact cut.symm

theorem beginnings_le_length (bytes : List UInt8) : beginnings bytes ≤ (decodeLossy bytes).length := by
  fun_induction decodeLossy bytes with
  | case1 => exact Nat.le_refl 0
  | case2 first rest c more read ih =>
    have kept := beginnings_drop_readChar first rest
    rw [read] at kept
    dsimp only at kept
    rw [beginnings_cons, List.length_cons, ← kept]
    split <;> omega

theorem beginnings_lt_length (first : UInt8) (rest : List UInt8) :
    beginnings rest < (decodeLossy (first :: rest)).length := by
  rw [decodeLossy_cons, List.length_cons, ← beginnings_drop_readChar first rest]
  exact Nat.lt_succ_of_le (beginnings_le_length _)

/-! Pieces. -/

/-- There is nothing, or the first byte can begin a character. -/
def Begins (bytes : List UInt8) : Prop := ∀ b ∈ bytes.head?, isContinuation b = false

theorem begins_of_length {bytes : List UInt8} (few : (decodeLossy bytes).length ≤ beginnings bytes) :
    Begins bytes := by
  rintro b first
  obtain ⟨rest, rfl⟩ := List.head?_eq_some_iff.mp first
  have many := beginnings_lt_length b rest
  rw [beginnings_cons] at few
  cases follows : isContinuation b with
  | false => rfl
  | true =>
    rw [if_pos follows] at few
    omega

theorem beginnings_flatten_le (pieces : List (List UInt8)) :
    beginnings pieces.flatten ≤ (pieces.flatMap decodeLossy).length := by
  induction pieces with
  | nil => exact Nat.le_refl 0
  | cons piece pieces ih =>
    have here := beginnings_le_length piece
    rw [List.flatten_cons, beginnings_append, List.flatMap_cons, List.length_append]
    omega

/-- When the pieces have no more characters than can begin in all of them, each has no more than can
begin in it. -/
theorem begins_of_pieces {pieces : List (List UInt8)}
    (few : (pieces.flatMap decodeLossy).length ≤ beginnings pieces.flatten) :
    ∀ piece ∈ pieces, Begins piece := by
  induction pieces with
  | nil => exact nofun
  | cons piece pieces ih =>
    have here := beginnings_le_length piece
    have there := beginnings_flatten_le pieces
    rw [List.flatten_cons, beginnings_append, List.flatMap_cons, List.length_append] at few
    exact List.forall_mem_cons.mpr ⟨begins_of_length (by omega), ih (by omega)⟩

theorem begins_flatten {pieces : List (List UInt8)} (begins : ∀ piece ∈ pieces, Begins piece) :
    Begins pieces.flatten := by
  induction pieces with
  | nil => exact nofun
  | cons piece pieces ih =>
    obtain ⟨here, there⟩ := List.forall_mem_cons.mp begins
    cases piece with
    | nil => exact ih there
    | cons b piece => exact here

/-- A cut that is not in front of a byte in the middle of a character is a cut between two characters. -/
theorem exists_of_cut {front back : List UInt8} {s : List Char} (whole : front ++ back = encode s)
    (begins : Begins back) : ∃ before after, front = encode before ∧ back = encode after := by
  induction s generalizing front with
  | nil =>
    obtain ⟨rfl, rfl⟩ := List.append_eq_nil_iff.mp whole
    exact ⟨[], [], rfl, rfl⟩
  | cons c s ih =>
    obtain ⟨first, more, encodes⟩ := exists_encodes c
    cases front with
    | nil => exact ⟨[], c :: s, rfl, whole⟩
    | cons b front =>
      rw [encode_cons, encodes.bytes, List.cons_append, List.cons_append] at whole
      obtain ⟨rfl, behind⟩ := List.cons.inj whole
      rcases List.append_eq_append_iff.mp behind with ⟨rest, inside, rfl⟩ | ⟨rest, rfl, later⟩
      · cases rest with
        | nil =>
          rw [List.append_nil] at inside
          exact ⟨[c], s, by rw [← inside, ← encodes.bytes]; exact (List.append_nil _).symm, rfl⟩
        | cons x rest =>
          -- The cut would be in front of a byte that follows the first one of the character.
          have follows := encodes.follow x (by rw [inside]; simp)
          rw [begins x rfl] at follows
          cases follows
      · obtain ⟨before, after, rfl, rfl⟩ := ih later.symm
        exact ⟨c :: before, after, by rw [encode_cons, encodes.bytes, List.cons_append], rfl⟩

theorem exists_parts {pieces : List (List UInt8)} {s : List Char} (whole : pieces.flatten = encode s)
    (begins : ∀ piece ∈ pieces, Begins piece) : ∀ piece ∈ pieces, ∃ part, piece = encode part := by
  induction pieces generalizing s with
  | nil => exact nofun
  | cons piece pieces ih =>
    obtain ⟨-, there⟩ := List.forall_mem_cons.mp begins
    obtain ⟨before, after, here, rest⟩ := exists_of_cut whole (begins_flatten there)
    exact List.forall_mem_cons.mpr ⟨⟨before, here⟩, ih rest there⟩

/-- The pieces of a text's bytes, read one by one, give the text just when all of them are texts. -/
theorem flatMap_decodeLossy_eq_iff {pieces : List (List UInt8)} {s : List Char}
    (whole : pieces.flatten = encode s) :
    pieces.flatMap decodeLossy = s ↔ ∀ piece ∈ pieces, ∃ part, piece = encode part := by
  constructor
  · intro same
    exact exists_parts whole (begins_of_pieces (Nat.le_of_eq (by rw [same, whole, beginnings_encode])))
  · intro texts
    have joined : encode (pieces.flatMap decodeLossy) = pieces.flatten := by
      rw [List.flatMap_def, encode_flatten, List.map_map]
      have each : pieces.map (encode ∘ decodeLossy) = pieces := by
        refine (List.map_congr_left fun piece member => ?_).trans (List.map_id pieces)
        obtain ⟨part, rfl⟩ := texts piece member
        rw [Function.comp_apply, decodeLossy_encode, id]
      rw [each]
    exact encode_injective (joined.trans whole)

end Scaffold.Text
