import FollowGraph.Json.Reader
import FollowGraph.Json.Writer

/-!
# What is written as JSON is read back

A text that the writer made is read as the value that it was made of. The reader follows the writer
piece by piece: a character, escaped or not, pays for one step of `stringBody`, and what a value
leaves unread is exactly what was put after it. A number is the only piece without an end of its
own, so something must follow that cannot be a part of it (`Stops`).

Two kinds of values are left out: numbers with a fraction, whose texts are a matter of rounding, and
texts with surrogates that stand alone.
-/

set_option autoImplicit false

namespace FollowGraph.Json

/-! ## Characters -/

theorem hexValue?_digitChar : ∀ d < 16, hexValue? (Nat.digitChar d) = some d := by decide

/-- Four hexadecimal digits stand for the unit that they were written for. -/
theorem unit?_hexDigits {n : Nat} (h : n < 0x10000) :
    ∃ a b c d, Text.hexDigits 4 n = [a, b, c, d] ∧ unit? a b c d = some n := by
  refine ⟨_, _, _, _, rfl, ?_⟩
  have digit (m : Nat) : hexValue? (Nat.digitChar (m % 16)) = some (m % 16) :=
    hexValue?_digitChar _ (Nat.mod_lt _ (by decide))
  simp only [unit?, digit, Option.bind_eq_bind, Option.bind_some, Option.pure_def,
    Option.some.injEq]
  omega

/-- An escape that is no half of a pair stands for its own unit. -/
theorem escape_unit {n : Nat} (h : n < 0x10000) (whole : isHighSurrogate n = false)
    (start : List Char) (e : Char) (rest : List Char) :
    escape start (('u' :: Text.hexDigits 4 n) ++ e :: rest) = .ok (n, e :: rest) := by
  obtain ⟨a, b, c, d, digits, unit⟩ := unit?_hexDigits h
  simp [digits, escape, unit, whole]

/-- Two escapes that are a pair stand for one code point. -/
theorem escape_pair {high low : Nat} (hh : isHighSurrogate high = true)
    (hl : isLowSurrogate low = true) (start : List Char) (e : Char) (rest : List Char) :
    escape start (('u' :: Text.hexDigits 4 high) ++ unicodeEscape low ++ e :: rest) =
      .ok (0x10000 + (high - 0xD800) * 0x400 + (low - 0xDC00), e :: rest) := by
  have high_lt : high < 0x10000 := by
    simp only [isHighSurrogate, Bool.and_eq_true, decide_eq_true_eq] at hh
    omega
  have low_lt : low < 0x10000 := by
    simp only [isLowSurrogate, Bool.and_eq_true, decide_eq_true_eq] at hl
    omega
  obtain ⟨a, b, c, d, digits, unit⟩ := unit?_hexDigits high_lt
  obtain ⟨a', b', c', d', digits', unit'⟩ := unit?_hexDigits low_lt
  simp [unicodeEscape, digits, digits', escape, unit, hh, lowHalf, unit', hl]

theorem stringBody_plain {c : Char} (quote : c ≠ '"') (backslash : c ≠ '\\')
    (printable : 0x20 ≤ c.toNat) (start : List Char) (fuel : Nat) (read : List Nat)
    (rest : List Char) :
    stringBody start (fuel + 1) read (c :: rest) =
      stringBody start fuel (c.toNat :: read) rest := by
  simp [stringBody, Nat.not_lt.2 printable]

theorem stringBody_escape {start cs rest : List Char} {point : Nat}
    (escaped : escape start cs = .ok (point, rest)) (fuel : Nat) (read : List Nat) :
    stringBody start (fuel + 1) read ('\\' :: cs) = stringBody start fuel (point :: read) rest := by
  simp [stringBody, escaped]

/-- One character of a text, as it is written, is read in one step. -/
theorem stringBody_writeChar (start : List Char) (fuel : Nat) (read : List Nat) (c e : Char)
    (rest : List Char) :
    stringBody start (fuel + 1) read (writeChar c ++ e :: rest) =
      stringBody start fuel (c.toNat :: read) (e :: rest) := by
  have valid : c.toNat < 0xD800 ∨ 0xDFFF < c.toNat ∧ c.toNat < 0x110000 := c.valid
  have simple {letter : Char} (image : Char) (named : simpleEscape? letter = some image)
      (no_unit : letter ≠ 'u') (same : image.toNat = c.toNat) :
      stringBody start (fuel + 1) read (['\\', letter] ++ e :: rest) =
        stringBody start fuel (c.toNat :: read) (e :: rest) := by
    refine stringBody_escape ?_ fuel read
    simp [escape, no_unit, named, same]
  unfold writeChar
  dsimp only
  split
  · rename_i special
    rcases Bool.or_eq_true_iff.1 special with quote | backslash
    · cases eq_of_beq quote
      exact simple '"' rfl (by decide) rfl
    · cases eq_of_beq backslash
      exact simple '\\' rfl (by decide) rfl
  split
  · rename_i newline
    cases eq_of_beq newline
    exact simple '\n' rfl (by decide) rfl
  split
  · rename_i return_
    cases eq_of_beq return_
    exact simple '\r' rfl (by decide) rfl
  split
  · rename_i tab
    cases eq_of_beq tab
    exact simple '\t' rfl (by decide) rfl
  split
  · rename_i backspace
    exact simple '\x08' rfl (by decide) (eq_of_beq backspace).symm
  split
  · rename_i feed
    exact simple '\x0c' rfl (by decide) (eq_of_beq feed).symm
  split
  · rename_i special _ _ _ _ _ printable
    simp only [Bool.or_eq_true, beq_iff_eq, not_or] at special
    simp only [Bool.and_eq_true, decide_eq_true_eq] at printable
    exact stringBody_plain special.1 special.2 printable.1 start fuel read _
  split
  · rename_i basic
    have whole : isHighSurrogate c.toNat = false := (Bool.or_eq_false_iff.1 (isSurrogate_toNat c)).1
    exact stringBody_escape (escape_unit basic whole start e rest) fuel read
  · -- Beyond the basic plane: two halves of ten bits each.
    have high : isHighSurrogate (0xD800 + (c.toNat - 0x10000) / 0x400) = true := by
      simp [isHighSurrogate]
      omega
    have low : isLowSurrogate (0xDC00 + (c.toNat - 0x10000) % 0x400) = true := by
      simp [isLowSurrogate]
      omega
    have pair := escape_pair high low start e rest
    have point : 0x10000 + (0xD800 + (c.toNat - 0x10000) / 0x400 - 0xD800) * 0x400 +
        (0xDC00 + (c.toNat - 0x10000) % 0x400 - 0xDC00) = c.toNat := by omega
    rw [point] at pair
    exact stringBody_escape pair fuel read

/-! ## Texts -/

theorem ofPoints_toNat (cs : List Char) : ofPoints (cs.map Char.toNat) = .str (String.ofList cs) := by
  have none_alone : (cs.map Char.toNat).any isSurrogate = false := by
    simp [List.any_eq_false, isSurrogate_toNat]
  have same : (cs.map Char.toNat).map Char.ofNat = cs := by
    rw [List.map_map]
    exact (List.map_congr_left fun c _ => Char.ofNat_toNat c).trans (List.map_id cs)
  rw [ofPoints, none_alone, same]
  rfl

theorem stringBody_flatMap_writeChar (start : List Char) {cs : List Char} {fuel : Nat}
    (enough : cs.length < fuel) (read : List Nat) (rest : List Char) :
    stringBody start fuel read (cs.flatMap writeChar ++ '"' :: rest) =
      .ok (ofPoints (read.reverse ++ cs.map Char.toNat), rest) := by
  induction cs generalizing fuel read with
  | nil =>
    obtain ⟨fuel, rfl⟩ := Nat.exists_eq_succ_of_ne_zero (Nat.ne_of_gt enough)
    simp [stringBody]
  | cons c cs ih =>
    obtain ⟨fuel, rfl⟩ := Nat.exists_eq_succ_of_ne_zero (Nat.ne_of_gt (Nat.zero_lt_of_lt enough))
    have later := ih (Nat.lt_of_succ_lt_succ enough) (c.toNat :: read)
    -- What follows a character is never nothing: the closing quote is there at least.
    obtain ⟨e, more, next⟩ : ∃ e more, cs.flatMap writeChar ++ '"' :: rest = e :: more := by
      cases written : cs.flatMap writeChar ++ '"' :: rest with
      | nil => simp at written
      | cons e more => exact ⟨e, more, rfl⟩
    rw [next] at later
    rw [List.flatMap_cons, List.append_assoc, next, stringBody_writeChar, later]
    simp

/-- A text in quotes is read as what it was written for. -/
theorem stringBody_writeString (start : List Char) (s : String) {fuel : Nat}
    (enough : s.toList.length < fuel) (rest : List Char) :
    stringBody start fuel [] (s.toList.flatMap writeChar ++ '"' :: rest) = .ok (.str s, rest) := by
  rw [stringBody_flatMap_writeChar start enough, List.reverse_nil, List.nil_append, ofPoints_toNat,
    String.ofList_toList]

theorem writeChar_ne_nil (c : Char) : writeChar c ≠ [] := by
  unfold writeChar unicodeEscape
  dsimp only
  repeat' split
  all_goals simp

theorem length_le_flatMap_writeChar (cs : List Char) :
    cs.length ≤ (cs.flatMap writeChar).length := by
  induction cs with
  | nil => exact Nat.le_refl _
  | cons c cs ih =>
    have := List.length_pos_iff.2 (writeChar_ne_nil c)
    rw [List.flatMap_cons, List.length_append, List.length_cons]
    omega

/-! ## Integers -/

/-- What comes after a number and is no part of it. -/
def Stops (rest : List Char) : Prop :=
  ∀ c ∈ rest.head?, isDigit c = false ∧ c ≠ '.' ∧ c ≠ 'e' ∧ c ≠ 'E'

theorem numberTail_of_stops {rest : List Char} (stops : Stops rest) (negative : Bool)
    {whole : List Char} (short : whole.length ≤ Text.maxNumeralDigits) :
    numberTail negative whole rest =
      .ok (.int (if negative then -(digitsValue whole : Int) else digitsValue whole), rest) := by
  have no_fraction : fractionPart rest = none := by
    unfold fractionPart
    split
    · exact absurd rfl (stops '.' rfl).2.1
    · rfl
  have no_exponent : exponentPart rest = none := by
    unfold exponentPart
    dsimp only
    split
    · exact absurd rfl (stops 'e' rfl).2.2.1
    · exact absurd rfl (stops 'E' rfl).2.2.2
    · rfl
  simp [numberTail, no_fraction, no_exponent, Nat.not_lt.2 short]

theorem isDigit_of_mem_toDigits {n : Nat} {c : Char} (h : c ∈ Nat.toDigits 10 n) :
    isDigit c = true :=
  Nat.isDigit_of_mem_toDigits (by decide) (by decide) h

theorem digitsValue_toDigits (n : Nat) : digitsValue (Nat.toDigits 10 n) = n := by
  have value := Nat.ofDigitChars_toDigits (b := 10) (n := n) (by decide) (by decide)
  rwa [digitsValue, Text.ofDigits, List.foldl_map]

/-- A number above zero begins with another digit than zero. -/
theorem toDigits_eq_cons {n : Nat} (pos : 0 < n) :
    ∃ c cs, Nat.toDigits 10 n = c :: cs ∧ c ≠ '0' := by
  induction n using Nat.strongRecOn with
  | _ n ih =>
    rw [Nat.toDigits_eq_if (by decide)]
    split
    · rename_i small
      refine ⟨_, _, rfl, ?_⟩
      have digits : ∀ d < 10, 0 < d → Nat.digitChar d ≠ '0' := by decide
      exact digits n small pos
    · obtain ⟨c, cs, front, nonzero⟩ := ih (n / 10) (by omega) (by omega)
      exact ⟨c, cs ++ [Nat.digitChar (n % 10)], by rw [front, List.cons_append], nonzero⟩

/-- Digits with nothing after them that goes on with the number are read as a whole. -/
theorem number_digits (n : Nat) (short : (Nat.toDigits 10 n).length ≤ Text.maxNumeralDigits)
    {rest : List Char} (stops : Stops rest) :
    number (Nat.toDigits 10 n ++ rest) = .ok (.int n, rest) ∧
      number ('-' :: (Nat.toDigits 10 n ++ rest)) = .ok (.int (-n), rest) := by
  have tail (negative : Bool) := numberTail_of_stops stops negative short
  simp only [digitsValue_toDigits] at tail
  have digits : ∀ c ∈ Nat.toDigits 10 n, isDigit c = true := fun c => isDigit_of_mem_toDigits
  rcases Nat.eq_zero_or_pos n with rfl | pos
  · exact ⟨tail false, tail true⟩
  · obtain ⟨c, cs, written, nonzero⟩ := toDigits_eq_cons pos
    rw [written] at digits tail ⊢
    obtain ⟨first, others⟩ := List.forall_mem_cons.1 digits
    have no_sign : c ≠ '-' := fun sign => by simp [sign, isDigit] at first
    have ends : rest.takeWhile isDigit = [] ∧ rest.dropWhile isDigit = rest := by
      cases rest with
      | nil => exact ⟨rfl, rfl⟩
      | cons d more => simp [(stops d rfl).1]
    have taken : (cs ++ rest).takeWhile isDigit = cs := by
      rw [List.takeWhile_append_of_pos others, ends.1, List.append_nil]
    have dropped : (cs ++ rest).dropWhile isDigit = rest := by
      rw [List.dropWhile_append_of_pos others, ends.2]
    constructor
    · simpa [number, beq_false_of_ne no_sign, nonzero, first, taken, dropped] using tail false
    · simpa [number, nonzero, first, taken, dropped] using tail true

theorem number_writeInt (n : Int)
    (short : (Nat.toDigits 10 n.natAbs).length ≤ Text.maxNumeralDigits) {rest : List Char}
    (stops : Stops rest) : number (writeInt n ++ rest) = .ok (.int n, rest) := by
  obtain ⟨positive, negative⟩ := number_digits n.natAbs short stops
  unfold writeInt
  split
  · rw [List.cons_append, negative]
    congr 3
    omega
  · rw [positive]
    congr 3
    omega

theorem readValue_of_isDigit {c : Char} (digit : isDigit c = true) (fuel depth : Nat)
    (cs : List Char) :
    readValue (fuel + 1) depth (c :: cs) = number (c :: cs) ∧
      readValue (fuel + 1) depth ('-' :: c :: cs) = number ('-' :: c :: cs) := by
  -- No other beginning of a value has a digit there.
  constructor
  all_goals
    rw [readValue]
    all_goals
      rintro _ same
      cases same <;> exact absurd digit (by decide)

theorem readValue_writeInt (n : Int) (fuel depth : Nat) (rest : List Char) :
    readValue (fuel + 1) depth (writeInt n ++ rest) = number (writeInt n ++ rest) := by
  cases written : Nat.toDigits 10 n.natAbs with
  | nil => exact absurd written Nat.toDigits_ne_nil
  | cons c cs =>
    have digit : isDigit c = true :=
      isDigit_of_mem_toDigits (n := n.natAbs) (written ▸ List.mem_cons_self)
    obtain ⟨positive, negative⟩ := readValue_of_isDigit digit fuel depth (cs ++ rest)
    unfold writeInt
    rw [written]
    split
    · exact negative
    · exact positive

/-! ## Values -/

mutual

/-- A value that its text is read as, with lists and objects at most so deep in one another. -/
def Standard : Nat → Json → Prop
  | _, .null | _, .bool _ | _, .str _ => True
  | _, .int n => (Nat.toDigits 10 n.natAbs).length ≤ Text.maxNumeralDigits
  | _, .float _ | _, .unpaired _ | 0, .arr _ | 0, .obj _ => False
  | depth + 1, .arr items => StandardItems depth items
  | depth + 1, .obj members => (members.map Prod.fst).Nodup ∧ StandardMembers depth members

def StandardItems : Nat → List Json → Prop
  | _, [] => True
  | depth, item :: rest => Standard depth item ∧ StandardItems depth rest

def StandardMembers : Nat → List (String × Json) → Prop
  | _, [] => True
  | depth, (_, value) :: rest => Standard depth value ∧ StandardMembers depth rest

end

theorem standardItems_of_forall {depth : Nat} {items : List Json}
    (h : ∀ item ∈ items, item.Standard depth) : StandardItems depth items := by
  induction items with
  | nil => trivial
  | cons item rest ih =>
    obtain ⟨first, others⟩ := List.forall_mem_cons.1 h
    exact ⟨first, ih others⟩

/-- The text of a value begins with a character that is neither a blank nor the end of a list. -/
theorem writeChars_eq_cons {depth : Nat} {v : Json} (h : v.Standard depth) :
    ∃ c cs, writeChars v = c :: cs ∧ isJsonSpace c = false ∧ c ≠ ']' := by
  cases v with
  | null => exact ⟨_, _, rfl, rfl, by decide⟩
  | bool b => cases b <;> exact ⟨_, _, rfl, rfl, by decide⟩
  | int n =>
    rw [writeChars, writeInt]
    split
    · exact ⟨_, _, rfl, rfl, by decide⟩
    · cases written : Nat.toDigits 10 n.natAbs with
      | nil => exact absurd written Nat.toDigits_ne_nil
      | cons c cs =>
        have digit : isDigit c = true :=
          isDigit_of_mem_toDigits (n := n.natAbs) (written ▸ List.mem_cons_self)
        refine ⟨c, cs, rfl, ?_, fun same => ?_⟩
        · cases space : isJsonSpace c with
          | false => rfl
          | true =>
            simp only [isJsonSpace, Bool.or_eq_true, beq_iff_eq] at space
            rcases space with ((rfl | rfl) | rfl) | rfl <;> exact absurd digit (by decide)
        · exact absurd (same ▸ digit) (by decide)
  | float _ | unpaired _ => cases depth <;> cases h
  | str s =>
    rw [writeChars, writeString]
    exact ⟨_, _, rfl, rfl, by decide⟩
  | arr items =>
    rw [writeChars]
    exact ⟨_, _, rfl, rfl, by decide⟩
  | obj members =>
    rw [writeChars]
    exact ⟨_, _, rfl, rfl, by decide⟩

theorem writeItems_cons (item next : Json) (items : List Json) :
    writeItems (item :: next :: items) =
      writeChars item ++ ',' :: ' ' :: writeItems (next :: items) := by
  rw [writeItems]
  exact nofun

theorem writeItems_eq_append (item : Json) (items : List Json) :
    ∃ more, writeItems (item :: items) = writeChars item ++ more := by
  cases items with
  | nil => exact ⟨[], by rw [writeItems, List.append_nil]⟩
  | cons next rest => exact ⟨_, writeItems_cons item next rest⟩

theorem skipSpace_of_not_space {c : Char} (h : isJsonSpace c = false) (cs : List Char) :
    skipSpace (c :: cs) = c :: cs :=
  List.dropWhile_cons_of_neg (by simp [h])

theorem skipSpace_blank (cs : List Char) : skipSpace (' ' :: cs) = skipSpace cs := rfl

/-- No blank stands before the items of a list. -/
theorem skipSpace_writeItems {depth : Nat} {item : Json} (h : item.Standard depth)
    (items : List Json) (rest : List Char) :
    skipSpace (writeItems (item :: items) ++ rest) = writeItems (item :: items) ++ rest := by
  obtain ⟨c, cs, written, no_space, -⟩ := writeChars_eq_cons h
  obtain ⟨more, all⟩ := writeItems_eq_append item items
  rw [all, written]
  exact skipSpace_of_not_space no_space _

theorem skipSpace_writeChars {depth : Nat} {v : Json} (h : v.Standard depth) (rest : List Char) :
    skipSpace (writeChars v ++ rest) = writeChars v ++ rest := by
  obtain ⟨c, cs, written, no_space, -⟩ := writeChars_eq_cons h
  rw [written]
  exact skipSpace_of_not_space no_space _

theorem setMember_of_new {members : List (String × Json)} {key : String}
    (new : key ∉ members.map Prod.fst) (value : Json) :
    setMember members key value = members ++ [(key, value)] := by
  have absent : members.any (·.1 == key) = false := by
    rw [List.any_eq_false]
    intro m hm same
    exact new (eq_of_beq same ▸ List.mem_map_of_mem hm)
  rw [setMember, absent]
  rfl

theorem stops_of_delimiter {c : Char} (h : c = ',' ∨ c = ']' ∨ c = '}') (rest : List Char) :
    Stops (c :: rest) := by
  rintro _ ⟨⟩
  rcases h with rfl | rfl | rfl <;> decide

theorem writeMembers_cons (key : String) (value : Json) (next : String × Json)
    (members : List (String × Json)) :
    writeMembers ((key, value) :: next :: members) =
      writeString key ++ ':' :: ' ' :: (writeChars value ++
        ',' :: ' ' :: writeMembers (next :: members)) := by
  rw [writeMembers]
  · simp
  · exact nofun

theorem writeMembers_eq_cons (member : String × Json) (members : List (String × Json)) :
    ∃ more, writeMembers (member :: members) = '"' :: more := by
  obtain ⟨key, value⟩ := member
  cases members with
  | nil => exact ⟨_, by rw [writeMembers, writeString]; rfl⟩
  | cons next rest => exact ⟨_, writeMembers_cons key value next rest⟩

/-- What comes after a member: the end of the object, or another member. -/
def afterMember (fuel depth : Nat) (read : List (String × Json)) : List Char → ReadResult Json
  | '\x7d' :: rest => .ok (.obj read, rest)
  | ',' :: rest => readMembers fuel depth read (skipSpace rest)
  | rest => unexpectedAt rest

/-- A member is read up to its end, given that its value is. -/
theorem readMembers_member {depth fuel : Nat} {read : List (String × Json)} {key : String}
    {value : Json} {tail : List Char} (room : key.toList.length < fuel)
    (standard : value.Standard depth) (new : key ∉ read.map Prod.fst)
    (valued : readValue fuel depth (writeChars value ++ tail) = .ok (value, tail)) :
    readMembers (fuel + 1) depth read (writeString key ++ ':' :: ' ' :: (writeChars value ++ tail)) =
      afterMember fuel depth (read ++ [(key, value)]) (skipSpace tail) := by
  have named (start rest : List Char) := stringBody_writeString start key room rest
  have colon (rest : List Char) : skipSpace (':' :: rest) = ':' :: rest := rfl
  have display : (Json.str key).display = key := rfl
  simp only [writeString, List.cons_append, List.append_assoc, List.nil_append, readMembers, named,
    colon, skipSpace_blank, skipSpace_writeChars standard, valued, display, setMember_of_new new]
  rfl

mutual

/-- **Reading undoes writing**, whatever comes after the text, as long as no number goes on in it.
-/
theorem readValue_writeChars : ∀ (v : Json) {depth fuel : Nat} {rest : List Char},
    v.Standard depth → 2 * (writeChars v).length ≤ fuel → Stops rest →
      readValue fuel depth (writeChars v ++ rest) = .ok (v, rest)
  | _, _, 0, _, standard, enough, _ => by
    obtain ⟨c, cs, written, -⟩ := writeChars_eq_cons standard
    rw [written] at enough
    cases enough
  | .null, _, fuel + 1, _, _, _, _ => by simp [writeChars, readValue]
  | .bool true, _, fuel + 1, _, _, _, _ => by simp [writeChars, readValue]
  | .bool false, _, fuel + 1, _, _, _, _ => by simp [writeChars, readValue]
  | .int n, depth, fuel + 1, rest, standard, _, stops => by
    have short : (Nat.toDigits 10 n.natAbs).length ≤ Text.maxNumeralDigits := by
      cases depth <;> exact standard
    rw [writeChars, readValue_writeInt, number_writeInt n short stops]
  | .float _, depth, _ + 1, _, standard, _, _ => by cases depth <;> cases standard
  | .unpaired _, depth, _ + 1, _, standard, _, _ => by cases depth <;> cases standard
  | .str s, _, fuel + 1, rest, _, enough, _ => by
    have body := length_le_flatMap_writeChar s.toList
    simp only [writeChars, writeString, List.cons_append, List.append_assoc, List.nil_append,
      List.length_cons, List.length_append, List.length_nil] at enough ⊢
    rw [readValue]
    exact stringBody_writeString _ s (by omega) rest
  | .arr _, 0, _ + 1, _, standard, _, _ => by cases standard
  | .arr [], depth + 1, fuel + 1, rest, _, _, _ => by
    simp [writeChars, writeItems, readValue, skipSpace, isJsonSpace]
  | .arr (item :: items), depth + 1, fuel + 1, rest, standard, enough, _ => by
    simp only [writeChars, List.cons_append, List.append_assoc, List.nil_append, List.length_cons,
      List.length_append, List.length_nil] at enough ⊢
    have read : readItems fuel depth [] (writeItems (item :: items) ++ ']' :: rest) =
        .ok (.arr (item :: items), rest) :=
      readItems_writeItems (item :: items) nofun standard (by omega)
    obtain ⟨c, cs, written, no_space, no_end⟩ := writeChars_eq_cons standard.1
    obtain ⟨more, all⟩ := writeItems_eq_append item items
    rw [all, written] at read ⊢
    simpa [readValue, skipSpace_of_not_space no_space, no_end] using read
  | .obj _, 0, _ + 1, _, standard, _, _ => by cases standard
  | .obj [], depth + 1, fuel + 1, rest, _, _, _ => by
    simp [writeChars, writeMembers, readValue, skipSpace, isJsonSpace]
  | .obj (member :: members), depth + 1, fuel + 1, rest, standard, enough, _ => by
    simp only [writeChars, List.cons_append, List.append_assoc, List.nil_append, List.length_cons,
      List.length_append, List.length_nil] at enough ⊢
    have read : readMembers fuel depth [] (writeMembers (member :: members) ++ '\x7d' :: rest) =
        .ok (.obj (member :: members), rest) :=
      readMembers_writeMembers (member :: members) nofun standard.2 standard.1 (by omega)
    obtain ⟨more, quoted⟩ := writeMembers_eq_cons member members
    rw [quoted] at read ⊢
    simpa [readValue, skipSpace, isJsonSpace] using read

theorem readItems_writeItems : ∀ (items : List Json) {depth fuel : Nat} {read : List Json}
    {rest : List Char}, items ≠ [] → StandardItems depth items →
      2 * (writeItems items).length + 1 ≤ fuel →
      readItems fuel depth read (writeItems items ++ ']' :: rest) =
        .ok (.arr (read.reverse ++ items), rest)
  | [], _, _, _, _, none_there, _, _ => absurd rfl none_there
  | [item], depth, fuel + 1, read, rest, _, standard, enough => by
    rw [writeItems] at enough ⊢
    have value : readValue fuel depth (writeChars item ++ ']' :: rest) = .ok (item, ']' :: rest) :=
      readValue_writeChars item standard.1 (by omega) (stops_of_delimiter (.inr (.inl rfl)) rest)
    simp [readItems, value, skipSpace, isJsonSpace]
  | item :: next :: items, depth, fuel + 1, read, rest, _, standard, enough => by
    rw [writeItems_cons, List.length_append, List.length_cons, List.length_cons] at enough
    have value (more : List Char) : readValue fuel depth (writeChars item ++ ',' :: more) =
        .ok (item, ',' :: more) :=
      readValue_writeChars item standard.1 (by omega) (stops_of_delimiter (.inl rfl) more)
    have others : readItems fuel depth (item :: read) (writeItems (next :: items) ++ ']' :: rest) =
        .ok (.arr ((item :: read).reverse ++ next :: items), rest) :=
      readItems_writeItems (next :: items) nofun standard.2 (by omega)
    have blank := skipSpace_writeItems standard.2.1 items (']' :: rest)
    rw [writeItems_cons, List.append_assoc, List.cons_append, List.cons_append, readItems, value]
    simp [skipSpace_of_not_space, skipSpace_blank, isJsonSpace, blank, others]

theorem readMembers_writeMembers : ∀ (members : List (String × Json)) {depth fuel : Nat}
    {read : List (String × Json)} {rest : List Char}, members ≠ [] → StandardMembers depth members →
      ((read ++ members).map Prod.fst).Nodup → 2 * (writeMembers members).length + 1 ≤ fuel →
      readMembers fuel depth read (writeMembers members ++ '\x7d' :: rest) =
        .ok (.obj (read ++ members), rest)
  | [], _, _, _, _, none_there, _, _, _ => absurd rfl none_there
  | [(key, value)], depth, fuel + 1, read, rest, _, standard, once, enough => by
    have shorter := length_le_flatMap_writeChar key.toList
    simp only [writeMembers, writeString, List.length_append, List.length_cons, List.length_nil]
      at enough
    have valued : readValue fuel depth (writeChars value ++ '\x7d' :: rest) =
        .ok (value, '\x7d' :: rest) :=
      readValue_writeChars value standard.1 (by omega) (stops_of_delimiter (.inr (.inr rfl)) rest)
    have new : key ∉ read.map Prod.fst := by
      rw [List.map_append, List.nodup_append] at once
      exact fun there => once.2.2 key there key (by simp) rfl
    rw [writeMembers, List.append_assoc, List.cons_append, List.cons_append,
      readMembers_member (by omega) standard.1 new valued]
    rfl
  | (key, value) :: next :: members, depth, fuel + 1, read, rest, _, standard, once, enough => by
    have shorter := length_le_flatMap_writeChar key.toList
    rw [writeMembers_cons] at enough ⊢
    simp only [writeString, List.length_append, List.length_cons, List.length_nil] at enough
    have valued (more : List Char) : readValue fuel depth (writeChars value ++ ',' :: more) =
        .ok (value, ',' :: more) :=
      readValue_writeChars value standard.1 (by omega) (stops_of_delimiter (.inl rfl) more)
    have new : key ∉ read.map Prod.fst := by
      rw [List.map_append, List.nodup_append] at once
      exact fun there => once.2.2 key there key (by simp) rfl
    have others : readMembers fuel depth (read ++ [(key, value)])
        (writeMembers (next :: members) ++ '\x7d' :: rest) =
          .ok (.obj ((read ++ [(key, value)]) ++ next :: members), rest) :=
      readMembers_writeMembers (next :: members) nofun standard.2 (by simpa using once) (by omega)
    obtain ⟨more, quoted⟩ := writeMembers_eq_cons next members
    rw [List.append_assoc, List.cons_append, List.cons_append, List.append_assoc, List.cons_append,
      List.cons_append, readMembers_member (by omega) standard.1 new (valued _)]
    rw [quoted] at others ⊢
    simpa [afterMember, skipSpace, isJsonSpace] using others

end

/-- **The text of a value is read as the value.** -/
theorem readChars_write {depth : Nat} {v : Json} (h : v.Standard depth) :
    readChars depth v.write.toList = .ok v := by
  have stops : Stops [] := by
    rintro _ ⟨⟩
  have read : readValue (2 * (writeChars v).length + 2) depth (writeChars v ++ []) = .ok (v, []) :=
    readValue_writeChars v h (by omega) stops
  have no_blank := skipSpace_writeChars h []
  rw [List.append_nil] at read no_blank
  rw [write, String.toList_ofList, readChars, no_blank, read]
  rfl

/-- Quotes, line ends, control characters and characters beyond the basic plane. -/
example :
    (readChars 1 (write (.arr [.str "a\"b\\c", .str "\n\x07é", .str "😀"])).toList).toOption =
      some (.arr [.str "a\"b\\c", .str "\n\x07é", .str "😀"]) := by
  decide +kernel

end FollowGraph.Json
