import MonoioTungstenite.Lib.Bytes

/-! # UTF-8

A byte string is valid UTF-8 when it is the concatenation of the encodings of some characters
(`Valid`), and a prefix of valid UTF-8 when some bytes complete it (`ValidPrefix`).  The executable
side is the scanner of the Unicode standard's table of well-formed byte sequences: `scan` looks at
the first character only, `fromUtf8` validates a whole string and reports how far it is valid and,
where it is not, how many bytes the ill-formed sequence spans.

* `scan_scanned`: the ways the scanner ends (`Scanned`), from which what it says about lengths follows;
* `scan_encode`, `scan_char`: the scanner finds exactly the encoded characters;
* `scan_incomplete_iff`: it is undecided exactly on the proper prefixes of one character;
* `fromUtf8_cases`, `fromUtf8_ok_iff`: what validation says about a string;
* `fromUtf8_validPrefix_iff`: a string with no ill-formed sequence is a prefix of valid UTF-8.
-/

namespace Lib.Utf8

/-- The string is a sequence of encoded characters. -/
def Valid (bytes : List UInt8) : Prop :=
  ∃ chars : List Char, bytes = chars.flatMap String.utf8EncodeChar

/-- Some bytes complete the string to valid UTF-8. -/
def ValidPrefix (bytes : List UInt8) : Prop := ∃ more, Valid (bytes ++ more)

/-- A proper non-empty prefix of the encoding of one character. -/
def PartialChar (bytes : List UInt8) : Prop :=
  bytes ≠ [] ∧ ∃ (char : Char) (more : List UInt8), more ≠ [] ∧ bytes ++ more = String.utf8EncodeChar char

/-! ## The scanner -/

/-- What the first bytes of a string are: a character of some width, the beginning of one, or an
ill-formed sequence of some length. -/
inductive Scan where
  | char (width : Nat)
  | incomplete
  | invalid (length : Nat)
  deriving DecidableEq, Repr

/-- The width of the character a byte starts, `0` for a byte that starts none. -/
def charWidth (first : UInt8) : Nat :=
  if first.toNat < 0x80 then 1
  else if first.toNat < 0xC2 then 0
  else if first.toNat < 0xE0 then 2
  else if first.toNat < 0xF0 then 3
  else if first.toNat < 0xF5 then 4
  else 0

/-- The range of the second byte depends on the first: it excludes overlong forms, surrogates and
values past the last code point. -/
def secondInRange (first second : UInt8) : Bool :=
  let low := if first.toNat = 0xE0 then 0xA0 else if first.toNat = 0xF0 then 0x90 else 0x80
  let high := if first.toNat = 0xED then 0x9F else if first.toNat = 0xF4 then 0x8F else 0xBF
  decide (low ≤ second.toNat ∧ second.toNat ≤ high)

def isContinuation (byte : UInt8) : Bool := decide (0x80 ≤ byte.toNat ∧ byte.toNat ≤ 0xBF)

theorem charWidth_le (first : UInt8) : charWidth first ≤ 4 := by
  unfold charWidth; split_ifs <;> omega

theorem charWidth_eq_one_iff {first : UInt8} : charWidth first = 1 ↔ first.toNat < 0x80 := by
  grind [charWidth]

theorem charWidth_eq_two_iff {first : UInt8} :
    charWidth first = 2 ↔ 0xC2 ≤ first.toNat ∧ first.toNat < 0xE0 := by
  grind [charWidth]

theorem charWidth_eq_three_iff {first : UInt8} :
    charWidth first = 3 ↔ 0xE0 ≤ first.toNat ∧ first.toNat < 0xF0 := by
  grind [charWidth]

theorem charWidth_eq_four_iff {first : UInt8} :
    charWidth first = 4 ↔ 0xF0 ≤ first.toNat ∧ first.toNat < 0xF5 := by
  grind [charWidth]

theorem secondInRange_iff {first second : UInt8} :
    secondInRange first second = true ↔ 0x80 ≤ second.toNat ∧ second.toNat ≤ 0xBF ∧
      (first.toNat = 0xE0 → 0xA0 ≤ second.toNat) ∧ (first.toNat = 0xED → second.toNat ≤ 0x9F) ∧
      (first.toNat = 0xF0 → 0x90 ≤ second.toNat) ∧ (first.toNat = 0xF4 → second.toNat ≤ 0x8F) := by
  simp only [secondInRange, decide_eq_true_eq]
  split_ifs <;> omega

theorem isContinuation_iff {byte : UInt8} :
    isContinuation byte = true ↔ 0x80 ≤ byte.toNat ∧ byte.toNat ≤ 0xBF := by
  simp [isContinuation]

def scan : List UInt8 → Scan
  | [] => .incomplete
  | b0 :: rest =>
    if charWidth b0 = 0 then .invalid 1
    else if charWidth b0 = 1 then .char 1
    else match rest with
      | [] => .incomplete
      | b1 :: rest =>
        if ¬ secondInRange b0 b1 then .invalid 1
        else if charWidth b0 = 2 then .char 2
        else match rest with
          | [] => .incomplete
          | b2 :: rest =>
            if ¬ isContinuation b2 then .invalid 2
            else if charWidth b0 = 3 then .char 3
            else match rest with
              | [] => .incomplete
              | b3 :: _ => if ¬ isContinuation b3 then .invalid 3 else .char 4

/-- What the scanner says, and the bytes it has looked at: the first byte settles how many there are, and the
first one out of its range ends the sequence. -/
inductive Scanned : List UInt8 → Scan → Prop
  | empty : Scanned [] .incomplete
  | noStart {b0 : UInt8} {more : List UInt8} (none : charWidth b0 = 0) : Scanned (b0 :: more) (.invalid 1)
  | one {b0 : UInt8} {more : List UInt8} (width : charWidth b0 = 1) : Scanned (b0 :: more) (.char 1)
  | cutFirst {b0 : UInt8} (wide : 2 ≤ charWidth b0) : Scanned [b0] .incomplete
  | badSecond {b0 b1 : UInt8} {more : List UInt8} (wide : 2 ≤ charWidth b0) (bad : secondInRange b0 b1 = false) :
    Scanned (b0 :: b1 :: more) (.invalid 1)
  | two {b0 b1 : UInt8} {more : List UInt8} (width : charWidth b0 = 2) (second : secondInRange b0 b1 = true) :
    Scanned (b0 :: b1 :: more) (.char 2)
  | cutSecond {b0 b1 : UInt8} (wide : 3 ≤ charWidth b0) (second : secondInRange b0 b1 = true) :
    Scanned [b0, b1] .incomplete
  | badThird {b0 b1 b2 : UInt8} {more : List UInt8} (wide : 3 ≤ charWidth b0)
    (second : secondInRange b0 b1 = true) (bad : isContinuation b2 = false) :
    Scanned (b0 :: b1 :: b2 :: more) (.invalid 2)
  | three {b0 b1 b2 : UInt8} {more : List UInt8} (width : charWidth b0 = 3) (second : secondInRange b0 b1 = true)
    (third : isContinuation b2 = true) : Scanned (b0 :: b1 :: b2 :: more) (.char 3)
  | cutThird {b0 b1 b2 : UInt8} (width : charWidth b0 = 4) (second : secondInRange b0 b1 = true)
    (third : isContinuation b2 = true) : Scanned [b0, b1, b2] .incomplete
  | badFourth {b0 b1 b2 b3 : UInt8} {more : List UInt8} (width : charWidth b0 = 4)
    (second : secondInRange b0 b1 = true) (third : isContinuation b2 = true) (bad : isContinuation b3 = false) :
    Scanned (b0 :: b1 :: b2 :: b3 :: more) (.invalid 3)
  | four {b0 b1 b2 b3 : UInt8} {more : List UInt8} (width : charWidth b0 = 4) (second : secondInRange b0 b1 = true)
    (third : isContinuation b2 = true) (fourth : isContinuation b3 = true) :
    Scanned (b0 :: b1 :: b2 :: b3 :: more) (.char 4)

theorem scan_scanned (bytes : List UInt8) : Scanned bytes (scan bytes) := by
  fun_cases scan bytes with
  | case1 => exact .empty
  | case2 b0 more none => exact .noStart none
  | case3 b0 more _ one => exact .one one
  | case4 b0 zero one => exact .cutFirst (by omega)
  | case5 b0 zero one b1 more bad => exact .badSecond (by omega) (by simpa using bad)
  | case6 b0 zero one b1 more second two => exact .two two (by simpa using second)
  | case7 b0 zero one b1 second two => exact .cutSecond (by omega) (by simpa using second)
  | case8 b0 zero one b1 second two b2 more bad => exact .badThird (by omega) (by simpa using second) (by simpa using bad)
  | case9 b0 zero one b1 second two b2 more third three =>
    exact .three three (by simpa using second) (by simpa using third)
  | case10 b0 zero one b1 second two b2 third three =>
    have widest := charWidth_le b0
    exact .cutThird (by omega) (by simpa using second) (by simpa using third)
  | case11 b0 zero one b1 second two b2 third three b3 more bad =>
    have widest := charWidth_le b0
    exact .badFourth (by omega) (by simpa using second) (by simpa using third) (by simpa using bad)
  | case12 b0 zero one b1 second two b2 third three b3 more fourth =>
    have widest := charWidth_le b0
    exact .four (by omega) (by simpa using second) (by simpa using third) (by simpa using fourth)

theorem Scanned.scan_eq {bytes : List UInt8} {result : Scan} (scanned : Scanned bytes result) :
    scan bytes = result := by
  cases scanned <;> unfold scan <;> grind

/-- The scanner reads at most four bytes and decides on the first it needs. -/
theorem Scanned.append {bytes : List UInt8} {result : Scan} (scanned : Scanned bytes result)
    (decided : result ≠ .incomplete) (more : List UInt8) : Scanned (bytes ++ more) result := by
  cases scanned with
  | empty | cutFirst | cutSecond | cutThird => exact absurd rfl decided
  | noStart none => exact .noStart none
  | one width => exact .one width
  | badSecond wide bad => exact .badSecond wide bad
  | two width second => exact .two width second
  | badThird wide second bad => exact .badThird wide second bad
  | three width second third => exact .three width second third
  | badFourth width second third bad => exact .badFourth width second third bad
  | four width second third fourth => exact .four width second third fourth

theorem scan_append_of_ne_incomplete {bytes : List UInt8} (decided : scan bytes ≠ .incomplete)
    (more : List UInt8) : scan (bytes ++ more) = scan bytes :=
  ((scan_scanned bytes).append decided more).scan_eq

theorem scan_char_bounds {bytes : List UInt8} {width : Nat} (found : scan bytes = .char width) :
    1 ≤ width ∧ width ≤ 4 ∧ width ≤ bytes.length := by
  have scanned := scan_scanned bytes
  rw [found] at scanned
  cases scanned <;> simp

theorem scan_invalid_bounds {bytes : List UInt8} {length : Nat} (found : scan bytes = .invalid length) :
    1 ≤ length ∧ length ≤ 3 ∧ length ≤ bytes.length := by
  have scanned := scan_scanned bytes
  rw [found] at scanned
  cases scanned <;> simp

theorem scan_incomplete_length {bytes : List UInt8} (undecided : scan bytes = .incomplete) :
    bytes.length ≤ 3 := by
  have scanned := scan_scanned bytes
  rw [undecided] at scanned
  cases scanned <;> simp

/-- An undecided beginning lies inside the ill-formed sequence that its continuation turns out to be. -/
theorem incomplete_le_invalid {start more : List UInt8} {length : Nat}
    (undecided : scan start = .incomplete) (found : scan (start ++ more) = .invalid length) :
    start.length ≤ length := by
  have whole := scan_scanned (start ++ more)
  have cut := scan_scanned start
  rw [found] at whole
  rw [undecided] at cut
  -- what has been taken for the beginning of a character is not what ends the sequence
  cases cut with
  | empty => exact Nat.zero_le _
  | cutFirst wide => exact (scan_invalid_bounds found).1
  | cutSecond wide second =>
    cases whole with
    | noStart none => omega
    | badSecond _ bad => rw [second] at bad; cases bad
    | badThird | badFourth => simp
  | cutThird width second third =>
    cases whole with
    | noStart none => omega
    | badSecond _ bad => rw [second] at bad; cases bad
    | badThird _ _ bad => rw [third] at bad; cases bad
    | badFourth => simp

/-! ## The scanner finds the encoded characters -/

theorem char_range (char : Char) :
    char.val.toNat < 0xD800 ∨ (0xDFFF < char.val.toNat ∧ char.val.toNat < 0x110000) := char.valid

/-- The scanner finds an encoded character. -/
theorem scan_encode (char : Char) (more : List UInt8) :
    scan (String.utf8EncodeChar char ++ more) = .char (String.utf8EncodeChar char).length := by
  have range := char_range char
  unfold String.utf8EncodeChar
  generalize char.val.toNat = value at range
  dsimp only
  split_ifs with one two three
  · refine (Scanned.one ?_).scan_eq
    simp only [charWidth_eq_one_iff, UInt8.toNat_ofNat']; omega
  · refine (Scanned.two ?_ ?_).scan_eq
    · simp only [charWidth_eq_two_iff, UInt8.toNat_ofNat']; omega
    · simp only [secondInRange_iff, UInt8.toNat_ofNat']; omega
  · refine (Scanned.three ?_ ?_ ?_).scan_eq
    · simp only [charWidth_eq_three_iff, UInt8.toNat_ofNat']; omega
    · simp only [secondInRange_iff, UInt8.toNat_ofNat']; omega
    · simp only [isContinuation_iff, UInt8.toNat_ofNat']; omega
  · refine (Scanned.four ?_ ?_ ?_ ?_).scan_eq
    · simp only [charWidth_eq_four_iff, UInt8.toNat_ofNat']; omega
    · simp only [secondInRange_iff, UInt8.toNat_ofNat']; omega
    · simp only [isContinuation_iff, UInt8.toNat_ofNat']; omega
    · simp only [isContinuation_iff, UInt8.toNat_ofNat']; omega

theorem exists_char (value : Nat) (valid : value.isValidChar) : ∃ char : Char, char.val.toNat = value := by
  have small : value < UInt32.size := by
    rcases valid with low | ⟨_, high⟩ <;> simp only [UInt32.size] <;> omega
  have same : (UInt32.ofNat value).toNat = value := UInt32.toNat_ofNat_of_lt small
  exact ⟨⟨UInt32.ofNat value, by rw [UInt32.isValidChar, same]; exact valid⟩, same⟩

/-- A character is encoded by the bytes its value gives. -/
theorem encode_of_value {char : Char} {bytes : List UInt8} {value : Nat} (same : char.val.toNat = value)
    (encoded : (if value ≤ 0x7f then [UInt8.ofNat value]
      else if value ≤ 0x7ff then [UInt8.ofNat (value / 64 % 32 + 0xc0), UInt8.ofNat (value % 64 + 0x80)]
      else if value ≤ 0xffff then [UInt8.ofNat (value / 4096 % 16 + 0xe0),
        UInt8.ofNat (value / 64 % 64 + 0x80), UInt8.ofNat (value % 64 + 0x80)]
      else [UInt8.ofNat (value / 262144 % 8 + 0xf0), UInt8.ofNat (value / 4096 % 64 + 0x80),
        UInt8.ofNat (value / 64 % 64 + 0x80), UInt8.ofNat (value % 64 + 0x80)]) = bytes) :
    String.utf8EncodeChar char = bytes := by
  unfold String.utf8EncodeChar
  rw [same]
  exact encoded

/-- What the scanner finds is an encoded character. -/
theorem scan_char {bytes : List UInt8} {width : Nat} (found : scan bytes = .char width) :
    ∃ char : Char, bytes.take width = String.utf8EncodeChar char := by
  have scanned := scan_scanned bytes
  rw [found] at scanned
  cases scanned with
  | @one b0 more one =>
    have bound := b0.toNat_lt
    rw [charWidth_eq_one_iff] at one
    obtain ⟨char, same⟩ := exists_char (b0.toNat) (.inl (by omega))
    refine ⟨char, (encode_of_value same ?_).symm⟩
    rw [if_pos (by omega), ofNat_eq_of_toNat b0 (by omega)]
    rfl
  | @two b0 b1 more two second =>
    rw [charWidth_eq_two_iff] at two
    rw [secondInRange_iff] at second
    obtain ⟨char, same⟩ := exists_char ((b0.toNat - 0xC0) * 64 + (b1.toNat - 0x80))
      (by simp only [Nat.isValidChar]; omega)
    refine ⟨char, (encode_of_value same ?_).symm⟩
    rw [if_neg (by omega), if_pos (by omega), ofNat_eq_of_toNat b0 (by omega),
      ofNat_eq_of_toNat b1 (by omega)]
    rfl
  | @three b0 b1 b2 more three second third =>
    rw [charWidth_eq_three_iff] at three
    rw [secondInRange_iff] at second
    rw [isContinuation_iff] at third
    obtain ⟨char, same⟩ := exists_char
      ((b0.toNat - 0xE0) * 4096 + (b1.toNat - 0x80) * 64 + (b2.toNat - 0x80))
      (by simp only [Nat.isValidChar]; omega)
    refine ⟨char, (encode_of_value same ?_).symm⟩
    rw [if_neg (by omega), if_neg (by omega), if_pos (by omega),
      ofNat_eq_of_toNat b0 (by omega), ofNat_eq_of_toNat b1 (by omega),
      ofNat_eq_of_toNat b2 (by omega)]
    rfl
  | @four b0 b1 b2 b3 more four second third fourth =>
    rw [charWidth_eq_four_iff] at four
    rw [secondInRange_iff] at second
    rw [isContinuation_iff] at third fourth
    obtain ⟨char, same⟩ := exists_char
      ((b0.toNat - 0xF0) * 262144 + (b1.toNat - 0x80) * 4096 + (b2.toNat - 0x80) * 64 +
        (b3.toNat - 0x80))
      (by simp only [Nat.isValidChar]; omega)
    refine ⟨char, (encode_of_value same ?_).symm⟩
    rw [if_neg (by omega), if_neg (by omega), if_neg (by omega),
      ofNat_eq_of_toNat b0 (by omega), ofNat_eq_of_toNat b1 (by omega),
      ofNat_eq_of_toNat b2 (by omega), ofNat_eq_of_toNat b3 (by omega)]
    rfl

theorem scan_nil : scan [] = .incomplete := rfl

/-! ## Valid strings -/

theorem valid_nil : Valid [] := ⟨[], rfl⟩

theorem valid_char (char : Char) : Valid (String.utf8EncodeChar char) := ⟨[char], by simp⟩

theorem Valid.append {first second : List UInt8} (firstValid : Valid first) (secondValid : Valid second) :
    Valid (first ++ second) := by
  obtain ⟨chars, rfl⟩ := firstValid
  obtain ⟨more, rfl⟩ := secondValid
  exact ⟨chars ++ more, by simp⟩

/-- A valid string is empty or starts with a character. -/
theorem valid_cases {bytes : List UInt8} (valid : Valid bytes) :
    bytes = [] ∨ ∃ char rest, bytes = String.utf8EncodeChar char ++ rest ∧ Valid rest := by
  obtain ⟨chars, rfl⟩ := valid
  cases chars with
  | nil => exact .inl rfl
  | cons char chars => exact .inr ⟨char, _, by simp, chars, rfl⟩

/-- Encodings of characters cannot be confused: the first character of a string is unique. -/
theorem encode_append_inj {first second : Char} {left right : List UInt8}
    (equal : String.utf8EncodeChar first ++ left = String.utf8EncodeChar second ++ right) :
    String.utf8EncodeChar first = String.utf8EncodeChar second ∧ left = right := by
  have scanned := scan_encode first left
  rw [equal, scan_encode second right] at scanned
  exact List.append_inj equal (by simpa using scanned.symm)

theorem Valid.of_encode_append {char : Char} {rest : List UInt8}
    (valid : Valid (String.utf8EncodeChar char ++ rest)) : Valid rest := by
  rcases valid_cases valid with empty | ⟨other, tail, equal, tailValid⟩
  · simp at empty
  · rw [(encode_append_inj equal).2]
    exact tailValid

/-- What follows a valid string in a valid string is valid. -/
theorem Valid.of_append {first second : List UInt8} (firstValid : Valid first)
    (valid : Valid (first ++ second)) : Valid second := by
  obtain ⟨chars, rfl⟩ := firstValid
  induction chars with
  | nil => exact valid
  | cons char chars inductionHypothesis =>
    rw [List.flatMap_cons, List.append_assoc] at valid
    exact inductionHypothesis valid.of_encode_append

theorem valid_append_iff {first second : List UInt8} (firstValid : Valid first) :
    Valid (first ++ second) ↔ Valid second :=
  ⟨firstValid.of_append, firstValid.append⟩

theorem Valid.validPrefix {bytes : List UInt8} (valid : Valid bytes) : ValidPrefix bytes :=
  ⟨[], by simpa using valid⟩

theorem validPrefix_append_iff {first second : List UInt8} (firstValid : Valid first) :
    ValidPrefix (first ++ second) ↔ ValidPrefix second := by
  simp only [ValidPrefix, List.append_assoc, valid_append_iff firstValid]

theorem ValidPrefix.of_append {first second : List UInt8} (valid : ValidPrefix (first ++ second)) :
    ValidPrefix first := by
  obtain ⟨more, moreValid⟩ := valid
  exact ⟨second ++ more, by simpa using moreValid⟩

/-- The scanner splits a character off the front of any string that starts with one. -/
theorem scan_char_split {bytes : List UInt8} {width : Nat} (found : scan bytes = .char width) :
    Valid (bytes.take width) ∧ bytes = bytes.take width ++ bytes.drop width := by
  obtain ⟨char, encoded⟩ := scan_char found
  exact ⟨encoded ▸ valid_char char, (List.take_append_drop _ _).symm⟩

theorem not_validPrefix_of_scan_invalid {bytes : List UInt8} {length : Nat}
    (found : scan bytes = .invalid length) : ¬ ValidPrefix bytes := by
  rintro ⟨more, valid⟩
  have stable := scan_append_of_ne_incomplete (by rw [found]; exact nofun) more
  rw [found] at stable
  rcases valid_cases valid with empty | ⟨char, rest, equal, _⟩
  · rw [empty, scan_nil] at stable
    cases stable
  · rw [equal, scan_encode] at stable
    cases stable

/-! ## Unfinished characters -/

/-- The scanner is undecided on every proper prefix of a character. -/
theorem PartialChar.scan {bytes : List UInt8} (part : PartialChar bytes) : scan bytes = .incomplete := by
  obtain ⟨_, char, more, moreNonempty, equal⟩ := part
  by_contra decided
  have stable := scan_append_of_ne_incomplete decided more
  have whole := scan_encode char []
  rw [List.append_nil, ← equal, stable] at whole
  have bounds := scan_char_bounds whole
  have positive := List.length_pos_iff.mpr moreNonempty
  rw [List.length_append] at bounds
  omega

theorem exists_second (first : UInt8) : ∃ second, secondInRange first second = true := by
  by_cases e0 : first.toNat = 0xE0
  · exact ⟨0xA0, secondInRange_iff.mpr (by simp; omega)⟩
  · by_cases f0 : first.toNat = 0xF0
    · exact ⟨0x90, secondInRange_iff.mpr (by simp; omega)⟩
    · exact ⟨0x80, secondInRange_iff.mpr (by simp; omega)⟩

/-- What the scanner is undecided on can be completed to a character. -/
theorem exists_completion {bytes : List UInt8} (nonempty : bytes ≠ []) (undecided : scan bytes = .incomplete) :
    ∃ more, more ≠ [] ∧ scan (bytes ++ more) = .char (bytes ++ more).length := by
  have last : isContinuation 0x80 = true := by decide
  have scanned := scan_scanned bytes
  rw [undecided] at scanned
  cases scanned with
  | empty => exact absurd rfl nonempty
  | @cutFirst b0 wide =>
    have widest := charWidth_le b0
    obtain ⟨b1, second⟩ := exists_second b0
    obtain two | three | four : charWidth b0 = 2 ∨ charWidth b0 = 3 ∨ charWidth b0 = 4 := by omega
    · exact ⟨[b1], by simp, (Scanned.two two second).scan_eq⟩
    · exact ⟨[b1, 0x80], by simp, (Scanned.three three second last).scan_eq⟩
    · exact ⟨[b1, 0x80, 0x80], by simp, (Scanned.four four second last last).scan_eq⟩
  | @cutSecond b0 b1 wide second =>
    have widest := charWidth_le b0
    obtain three | four : charWidth b0 = 3 ∨ charWidth b0 = 4 := by omega
    · exact ⟨[0x80], by simp, (Scanned.three three second last).scan_eq⟩
    · exact ⟨[0x80, 0x80], by simp, (Scanned.four four second last last).scan_eq⟩
  | cutThird four second third => exact ⟨[0x80], by simp, (Scanned.four four second third last).scan_eq⟩

/-- The scanner is undecided exactly on the proper prefixes of one character. -/
theorem scan_incomplete_iff {bytes : List UInt8} (nonempty : bytes ≠ []) :
    scan bytes = .incomplete ↔ PartialChar bytes := by
  refine ⟨fun undecided => ?_, PartialChar.scan⟩
  obtain ⟨more, moreNonempty, completed⟩ := exists_completion nonempty undecided
  obtain ⟨char, encoded⟩ := scan_char completed
  rw [List.take_length] at encoded
  exact ⟨nonempty, char, more, moreNonempty, encoded⟩

theorem PartialChar.validPrefix {bytes : List UInt8} (part : PartialChar bytes) : ValidPrefix bytes := by
  obtain ⟨_, char, more, _, equal⟩ := part
  exact ⟨more, equal ▸ valid_char char⟩

theorem PartialChar.length_le {bytes : List UInt8} (part : PartialChar bytes) : bytes.length ≤ 3 :=
  scan_incomplete_length part.scan

/-- An unfinished character is not valid by itself. -/
theorem PartialChar.not_valid {bytes : List UInt8} (part : PartialChar bytes) : ¬ Valid bytes := by
  intro valid
  rcases valid_cases valid with empty | ⟨char, rest, equal, _⟩
  · exact part.1 empty
  · have undecided := part.scan
    rw [equal, scan_encode] at undecided
    cases undecided

/-- A valid string that starts with an unfinished character has its first character end later. -/
theorem PartialChar.length_lt_of_append {part more valid rest : List UInt8} (isPart : PartialChar part)
    (isValid : Valid valid) (nonempty : valid ≠ []) (equal : part ++ more = valid ++ rest) :
    part.length < valid.length := by
  rcases valid_cases isValid with empty | ⟨char, tail, rfl, _⟩
  · exact absurd empty nonempty
  · by_contra short
    rw [Nat.not_lt, List.length_append] at short
    -- otherwise the whole character is already a prefix of the part
    have split : part = String.utf8EncodeChar char ++ part.drop (String.utf8EncodeChar char).length := by
      have taken := congrArg (List.take (String.utf8EncodeChar char).length) equal
      rw [List.append_assoc, List.take_append_of_le_length (by omega), List.take_left] at taken
      conv_lhs => rw [← List.take_append_drop (String.utf8EncodeChar char).length part, taken]
    have undecided := isPart.scan
    rw [split, scan_encode] at undecided
    cases undecided

/-! ## Validation -/

/-- Where validation fails: the length of the longest valid prefix, and the length of the ill-formed
sequence that follows it, or `none` where the string ends inside a character. -/
structure Utf8Error where
  validUpTo : Nat
  errorLen : Option Nat
  deriving DecidableEq, Repr

def fromUtf8Loop : Nat → Nat → List UInt8 → Except Utf8Error Unit
  | _, _, [] => .ok ()
  | 0, offset, _ => .error ⟨offset, none⟩
  | fuel + 1, offset, bytes =>
    match scan bytes with
    | .char width => fromUtf8Loop fuel (offset + width) (bytes.drop width)
    | .incomplete => .error ⟨offset, none⟩
    | .invalid length => .error ⟨offset, some length⟩

/-- `from_utf8`: validates a string, one character at a time. -/
def fromUtf8 (bytes : List UInt8) : Except Utf8Error Unit := fromUtf8Loop bytes.length 0 bytes

theorem fromUtf8Loop_cases (fuel offset : Nat) (bytes : List UInt8) (enough : bytes.length ≤ fuel) :
    (fromUtf8Loop fuel offset bytes = .ok () ∧ Valid bytes) ∨
    ∃ valid rest, bytes = valid ++ rest ∧ Valid valid ∧ rest ≠ [] ∧
      ((scan rest = .incomplete ∧ fromUtf8Loop fuel offset bytes = .error ⟨offset + valid.length, none⟩) ∨
       ∃ length, scan rest = .invalid length ∧
         fromUtf8Loop fuel offset bytes = .error ⟨offset + valid.length, some length⟩) := by
  induction fuel generalizing offset bytes with
  | zero =>
    obtain rfl : bytes = [] := by simpa using enough
    exact .inl ⟨rfl, valid_nil⟩
  | succ fuel inductionHypothesis =>
    cases bytes with
    | nil => exact .inl ⟨rfl, valid_nil⟩
    | cons byte bytes =>
      simp only [fromUtf8Loop]
      cases scanned : scan (byte :: bytes) with
      | incomplete => exact .inr ⟨[], _, rfl, valid_nil, by simp, .inl ⟨scanned, rfl⟩⟩
      | invalid length => exact .inr ⟨[], _, rfl, valid_nil, by simp, .inr ⟨length, scanned, rfl⟩⟩
      | char width =>
        obtain ⟨positive, _, fits⟩ := scan_char_bounds scanned
        obtain ⟨charValid, split⟩ := scan_char_split scanned
        have shorter : ((byte :: bytes).drop width).length ≤ fuel := by
          rw [List.length_drop]; omega
        have taken : ((byte :: bytes).take width).length = width := by
          rw [List.length_take]; omega
        rcases inductionHypothesis (offset + width) _ shorter with
          ⟨loop, valid⟩ | ⟨valid, rest, equal, isValid, nonempty, stop⟩
        · exact .inl ⟨loop, by rw [split]; exact charValid.append valid⟩
        · refine .inr ⟨(byte :: bytes).take width ++ valid, rest, ?_, charValid.append isValid,
            nonempty, ?_⟩
          · rw [List.append_assoc, ← equal, ← split]
          · rw [List.length_append, taken, ← Nat.add_assoc]
            exact stop

/-- What validation says: the string is valid, or it is a valid string followed by the beginning of a
character or by an ill-formed sequence. -/
theorem fromUtf8_cases (bytes : List UInt8) :
    (fromUtf8 bytes = .ok () ∧ Valid bytes) ∨
    ∃ valid rest, bytes = valid ++ rest ∧ Valid valid ∧ rest ≠ [] ∧
      ((scan rest = .incomplete ∧ fromUtf8 bytes = .error ⟨valid.length, none⟩) ∨
       ∃ length, scan rest = .invalid length ∧
         fromUtf8 bytes = .error ⟨valid.length, some length⟩) := by
  simpa [fromUtf8] using fromUtf8Loop_cases bytes.length 0 bytes (Nat.le_refl _)

theorem fromUtf8_ok_iff {bytes : List UInt8} : fromUtf8 bytes = .ok () ↔ Valid bytes := by
  rcases fromUtf8_cases bytes with
    ⟨accepted, valid⟩ | ⟨valid, rest, rfl, isValid, nonempty, ⟨undecided, error⟩ | ⟨length, found, error⟩⟩
  · exact ⟨fun _ => valid, fun _ => accepted⟩
  · rw [error, valid_append_iff isValid]
    exact ⟨nofun, fun restValid => absurd restValid ((scan_incomplete_iff nonempty).mp undecided).not_valid⟩
  · rw [error, valid_append_iff isValid]
    exact ⟨nofun, fun restValid => absurd restValid.validPrefix (not_validPrefix_of_scan_invalid found)⟩

instance (bytes : List UInt8) : Decidable (Valid bytes) :=
  decidable_of_iff (fromUtf8 bytes = .ok ()) fromUtf8_ok_iff

/-- A string is the prefix of a valid one unless validation finds an ill-formed sequence in it. -/
theorem fromUtf8_validPrefix_iff {bytes : List UInt8} :
    ValidPrefix bytes ↔ ∀ error, fromUtf8 bytes = .error error → error.errorLen = none := by
  rcases fromUtf8_cases bytes with
    ⟨accepted, valid⟩ | ⟨valid, rest, rfl, isValid, nonempty, ⟨undecided, failed⟩ | ⟨length, found, failed⟩⟩
  · rw [accepted]
    exact ⟨fun _ => nofun, fun _ => valid.validPrefix⟩
  · have part := (scan_incomplete_iff nonempty).mp undecided
    rw [failed, validPrefix_append_iff isValid]
    exact ⟨fun _ error same => by cases same; rfl, fun _ => part.validPrefix⟩
  · rw [failed, validPrefix_append_iff isValid]
    exact ⟨fun validPrefix => absurd validPrefix (not_validPrefix_of_scan_invalid found),
      fun partly => absurd (partly _ rfl) (by simp)⟩

instance (bytes : List UInt8) : Decidable (ValidPrefix bytes) :=
  decidable_of_iff ((match fromUtf8 bytes with | .ok _ => true | .error error => error.errorLen.isNone) = true) (by
    rw [fromUtf8_validPrefix_iff]
    cases fromUtf8 bytes <;> simp)

/-- `é` cut after its first byte is an unfinished character. -/
example : fromUtf8 [0x61, 0xC3] = .error ⟨1, none⟩ := by decide

end Lib.Utf8
