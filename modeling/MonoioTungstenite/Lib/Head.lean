import Mathlib.Data.List.DropRight
import MonoioTungstenite.Lib.Ascii

/-! # Heads of messages

The head of an HTTP message: a start line, lines with a name and a value, and an empty line.  `write` puts a
head together and `read` takes it apart; reading gives back what was written, whatever follows the head
(`read_write`). -/

namespace Lib.Head

/-- A name and a value. -/
abbrev Field := List UInt8 × List UInt8

def crlf : List UInt8 := [13, 10]

def separator : List UInt8 := [58, 32]

def fieldLine (field : Field) : List UInt8 := field.1 ++ separator ++ field.2 ++ crlf

def fieldLines (fields : List Field) : List UInt8 := fields.flatMap fieldLine

def write (start : List UInt8) (fields : List Field) : List UInt8 := start ++ crlf ++ fieldLines fields ++ crlf

@[simp] theorem fieldLines_nil : fieldLines [] = [] := rfl

@[simp] theorem fieldLines_cons (field : Field) (fields : List Field) :
    fieldLines (field :: fields) = fieldLine field ++ fieldLines fields := rfl

@[simp] theorem fieldLines_append (first second : List Field) :
    fieldLines (first ++ second) = fieldLines first ++ fieldLines second := List.flatMap_append

/-- How reading ends: the head goes on, it is not well formed, or there are too many fields in it. -/
inductive Read (α : Type) where
  | more
  | malformed
  | tooMany
  | done (value : α) (rest : List UInt8)
  deriving DecidableEq, Repr

/-- The text up to the end of its first line, and what follows that. -/
def cutLine : List UInt8 → Option (List UInt8 × List UInt8)
  | [] => none
  | byte :: text =>
    if crlf.isPrefixOf (byte :: text) then some ([], text.tail)
    else (cutLine text).map fun (line, rest) => (byte :: line, rest)

def isBlank (byte : UInt8) : Bool := byte = 32 || byte = 9

/-- The text without the blanks around it. -/
def trim (text : List UInt8) : List UInt8 := (text.dropWhile isBlank).rdropWhile isBlank

/-- A line with a name in front of a colon, and a value behind it. -/
def readField (line : List UInt8) : Option Field :=
  match line.dropWhile (· ≠ 58) with
  | [] => none
  | _ :: value => some (line.takeWhile (· ≠ 58), trim value)

/-- The fields up to an empty line, with room for so many. -/
def readFields : Nat → Nat → List UInt8 → Read (List Field)
  | 0, _, _ => .more
  | fuel + 1, room, text =>
    match cutLine text with
    | none => .more
    | some ([], rest) => .done [] rest
    | some (line, rest) =>
      match room, readField line with
      | 0, _ => .tooMany
      | _, none => .malformed
      | room + 1, some field =>
        match readFields fuel room rest with
        | .done fields rest => .done (field :: fields) rest
        | other => other

/-- A start line and fields. -/
def read (room : Nat) (text : List UInt8) : Read (List UInt8 × List Field) :=
  match cutLine text with
  | none => .more
  | some (start, rest) =>
    match readFields (rest.length + 1) room rest with
    | .done fields rest => .done (start, fields) rest
    | .more => .more
    | .malformed => .malformed
    | .tooMany => .tooMany

/-- A line as it stands there: the name in front of the colon, and what follows the separator. -/
def cutField (line : List UInt8) : Field := (line.takeWhile (· ≠ 58), (line.dropWhile (· ≠ 58)).drop separator.length)

/-- The lines up to an empty one, so many at most. -/
def fieldsFrom : Nat → List UInt8 → List Field
  | 0, _ => []
  | fuel + 1, text =>
    match cutLine text with
    | none | some ([], _) => []
    | some (line, rest) => cutField line :: fieldsFrom fuel rest

/-- The fields of a head as they stand there, with nothing taken off. -/
def fieldsIn (text : List UInt8) : List Field :=
  match cutLine text with
  | none => []
  | some (_, rest) => fieldsFrom rest.length rest

/-! ## Reading what was written -/

/-- A line ends where it was ended. -/
theorem cutLine_append {line : List UInt8} (whole : 13 ∉ line) (rest : List UInt8) :
    cutLine (line ++ crlf ++ rest) = some (line, rest) := by
  induction line with
  | nil => rfl
  | cons byte line ih =>
    rw [List.mem_cons, not_or] at whole
    have inside : crlf.isPrefixOf (byte :: (line ++ crlf ++ rest)) = false := by
      simp [crlf, List.isPrefixOf, whole.1]
    show cutLine (byte :: (line ++ crlf ++ rest)) = _
    rw [cutLine, if_neg (by rw [inside]; exact Bool.false_ne_true), ih whole.2]
    rfl

/-- No blank stands at either end. -/
structure Trimmed (value : List UInt8) : Prop where
  first : ∀ byte ∈ value.head?, isBlank byte = false
  last : ∀ byte ∈ value.getLast?, isBlank byte = false

theorem trim_of_trimmed {value : List UInt8} (trimmed : Trimmed value) : trim (32 :: value) = value := by
  have front : (32 :: value).dropWhile isBlank = value := by
    rw [List.dropWhile_cons_of_pos (by decide)]
    cases value with
    | nil => rfl
    | cons byte rest => exact List.dropWhile_cons_of_neg (by simp [trimmed.first byte rfl])
  rw [trim, front]
  rcases List.eq_nil_or_concat value with rfl | ⟨rest, byte, rfl⟩
  · rfl
  · have solid : isBlank byte = false := trimmed.last byte (by simp)
    rw [List.concat_eq_append]
    exact List.rdropWhile_concat_neg isBlank rest byte (by simp [solid])

/-- A field that can be written: a name without a colon, neither with an end of line, and no blanks around the
value. -/
structure Writable (field : Field) : Prop where
  name : 13 ∉ field.1 ∧ 58 ∉ field.1
  value : 13 ∉ field.2
  trimmed : Trimmed field.2

/-- A line is cut at its first colon. -/
theorem cut_separator {name : List UInt8} (whole : 58 ∉ name) (value : List UInt8) :
    (name ++ separator ++ value).takeWhile (· ≠ 58) = name ∧
      (name ++ separator ++ value).dropWhile (· ≠ 58) = separator ++ value := by
  have front := forall_ne_of_not_mem whole
  rw [List.append_assoc, List.takeWhile_append_of_pos front, List.dropWhile_append_of_pos front]
  simp [separator]

theorem readField_write {field : Field} (writable : Writable field) :
    readField (field.1 ++ separator ++ field.2) = some field := by
  obtain ⟨name, value⟩ := cut_separator writable.name.2 field.2
  unfold readField
  rw [value, name]
  show some (field.1, trim (32 :: field.2)) = some field
  rw [trim_of_trimmed writable.trimmed]

theorem readFields_write {fields : List Field} (writable : ∀ field ∈ fields, Writable field) {room fuel : Nat}
    (fits : fields.length ≤ room) (enough : fields.length < fuel) (rest : List UInt8) :
    readFields fuel room (fieldLines fields ++ crlf ++ rest) = .done fields rest := by
  induction fields generalizing room fuel with
  | nil =>
    obtain ⟨fuel, rfl⟩ := Nat.exists_eq_succ_of_ne_zero (Nat.ne_zero_of_lt enough)
    rfl
  | cons field fields ih =>
    obtain ⟨fuel, rfl⟩ := Nat.exists_eq_succ_of_ne_zero (Nat.ne_zero_of_lt enough)
    obtain ⟨room, rfl⟩ := Nat.exists_eq_succ_of_ne_zero (Nat.ne_zero_of_lt (Nat.lt_of_lt_of_le (Nat.succ_pos _) fits))
    rw [List.forall_mem_cons] at writable
    have line : 13 ∉ field.1 ++ separator ++ field.2 := by
      simp [separator, writable.1.name.1, writable.1.value]
    have split : fieldLines (field :: fields) ++ crlf ++ rest =
        (field.1 ++ separator ++ field.2) ++ crlf ++ (fieldLines fields ++ crlf ++ rest) := by
      simp [fieldLine]
    have later := ih writable.2 (Nat.le_of_succ_le_succ fits) (Nat.lt_of_succ_lt_succ enough)
    have someLine : field.1 ++ separator ++ field.2 ≠ [] := by simp [separator]
    rw [split, readFields, cutLine_append line]
    obtain ⟨byte, text, same⟩ := List.exists_cons_of_ne_nil someLine
    have field' := readField_write writable.1
    rw [same] at field' ⊢
    simp only [field', later]

theorem length_le_fieldLines (fields : List Field) : fields.length ≤ (fieldLines fields).length := by
  induction fields with
  | nil => exact Nat.zero_le _
  | cons field fields ih =>
    simp only [fieldLines_cons, fieldLine, crlf, List.length_append, List.length_cons, List.length_nil]
    omega

/-- Reading gives back what was written. -/
theorem read_write {start : List UInt8} (whole : 13 ∉ start) {fields : List Field}
    (writable : ∀ field ∈ fields, Writable field) {room : Nat} (fits : fields.length ≤ room) (rest : List UInt8) :
    read room (write start fields ++ rest) = .done (start, fields) rest := by
  have split : write start fields ++ rest = start ++ crlf ++ (fieldLines fields ++ crlf ++ rest) := by
    simp [write]
  have short : fields.length ≤ (fieldLines fields ++ crlf ++ rest).length := by
    have lines := length_le_fieldLines fields
    rw [List.length_append, List.length_append]
    omega
  rw [split, read, cutLine_append whole]
  simp only [readFields_write writable fits (Nat.lt_succ_of_le short)]

/-- A name without a colon, and neither with an end of line. -/
structure Plain (field : Field) : Prop where
  name : 13 ∉ field.1 ∧ 58 ∉ field.1
  value : 13 ∉ field.2

theorem cutField_write {field : Field} (plain : Plain field) :
    cutField (field.1 ++ separator ++ field.2) = field := by
  obtain ⟨name, value⟩ := cut_separator plain.name.2 field.2
  rw [cutField, name, value, List.drop_left]

theorem fieldsFrom_write {fields : List Field} (plain : ∀ field ∈ fields, Plain field) {fuel : Nat}
    (enough : fields.length ≤ fuel) (rest : List UInt8) :
    fieldsFrom fuel (fieldLines fields ++ crlf ++ rest) = fields := by
  induction fields generalizing fuel with
  | nil =>
    cases fuel with
    | zero => rfl
    | succ fuel => rfl
  | cons field fields ih =>
    obtain ⟨fuel, rfl⟩ := Nat.exists_eq_succ_of_ne_zero (Nat.ne_zero_of_lt (Nat.lt_of_lt_of_le (Nat.succ_pos _) enough))
    rw [List.forall_mem_cons] at plain
    have line : 13 ∉ field.1 ++ separator ++ field.2 := by
      simp [separator, plain.1.name.1, plain.1.value]
    have split : fieldLines (field :: fields) ++ crlf ++ rest =
        (field.1 ++ separator ++ field.2) ++ crlf ++ (fieldLines fields ++ crlf ++ rest) := by
      simp [fieldLine]
    have someLine : field.1 ++ separator ++ field.2 ≠ [] := by simp [separator]
    have first := cutField_write plain.1
    rw [split, fieldsFrom, cutLine_append line]
    obtain ⟨byte, text, same⟩ := List.exists_cons_of_ne_nil someLine
    rw [same] at first ⊢
    simp only [first, ih plain.2 (Nat.le_of_succ_le_succ enough)]

/-- The fields that were written stand in the head. -/
theorem fieldsIn_write {start : List UInt8} (whole : 13 ∉ start) {fields : List Field}
    (plain : ∀ field ∈ fields, Plain field) : fieldsIn (write start fields) = fields := by
  have split : write start fields = start ++ crlf ++ (fieldLines fields ++ crlf ++ []) := by simp [write]
  have short : fields.length ≤ (fieldLines fields ++ crlf ++ []).length := by
    have lines := length_le_fieldLines fields
    rw [List.length_append, List.length_append]
    omega
  rw [split, fieldsIn, cutLine_append whole]
  exact fieldsFrom_write plain short []

/-! ## Reading what has arrived -/

/-- A line that has ended stays as it is, whatever follows. -/
theorem cutLine_more {text line rest : List UInt8} (cut : cutLine text = some (line, rest)) (more : List UInt8) :
    cutLine (text ++ more) = some (line, rest ++ more) := by
  induction text generalizing line with
  | nil => cases cut
  | cons byte text ih =>
    cases text with
    | nil =>
      -- a single byte ends no line
      have unended : crlf.isPrefixOf [byte] = false := by simp [crlf, List.isPrefixOf]
      rw [cutLine, if_neg (by rw [unended]; exact Bool.false_ne_true)] at cut
      cases cut
    | cons second text =>
      rw [List.cons_append, cutLine, show crlf.isPrefixOf (byte :: (second :: text ++ more)) =
        crlf.isPrefixOf (byte :: second :: text) by simp [crlf, List.isPrefixOf]]
      rw [cutLine] at cut
      split
      next ends =>
        rw [if_pos ends] at cut
        cases cut
        rfl
      next goesOn =>
        rw [if_neg goesOn] at cut
        obtain ⟨⟨first, behind⟩, found, same⟩ := Option.map_eq_some_iff.mp cut
        cases same
        rw [ih found]
        rfl

/-- How fields have been read: to an empty line, or behind a line with a field. -/
theorem readFields_inv {fuel room : Nat} {text rest : List UInt8} {fields : List Field}
    (done : readFields (fuel + 1) room text = .done fields rest) :
    (cutLine text = some ([], rest) ∧ fields = []) ∨
      ∃ byte line behind left field later, cutLine text = some (byte :: line, behind) ∧ room = left + 1 ∧
        readField (byte :: line) = some field ∧ readFields fuel left behind = .done later rest ∧
        fields = field :: later := by
  rw [readFields] at done
  split at done
  next => cases done
  next behind cut =>
    cases done
    exact .inl ⟨cut, rfl⟩
  next line behind notEmpty cut =>
    obtain ⟨byte, line, rfl⟩ := List.exists_cons_of_ne_nil notEmpty
    split at done
    next => cases done
    next => cases done
    next left field read =>
      split at done
      next later last ended =>
        cases done
        exact .inr ⟨byte, line, behind, left, field, later, cut, rfl, read, ended, rfl⟩
      next unended => exact absurd done (unended _ _)

theorem readFields_cons {fuel room : Nat} {text behind line : List UInt8} {byte : UInt8} {field : Field}
    (cut : cutLine text = some (byte :: line, behind)) (read : readField (byte :: line) = some field) :
    readFields (fuel + 1) (room + 1) text =
      match readFields fuel room behind with
      | .done fields rest => .done (field :: fields) rest
      | other => other := by
  rw [readFields, cut]
  simp only [read]

theorem readFields_more {fuel room : Nat} {text rest : List UInt8} {fields : List Field}
    (done : readFields fuel room text = .done fields rest) {other : Nat} (enough : fuel ≤ other) (more : List UInt8) :
    readFields other room (text ++ more) = .done fields (rest ++ more) := by
  induction fuel generalizing room text fields other with
  | zero => cases done
  | succ fuel ih =>
    obtain ⟨other, rfl⟩ := Nat.exists_eq_succ_of_ne_zero (Nat.ne_zero_of_lt enough)
    rcases readFields_inv done with ⟨cut, rfl⟩ | ⟨byte, line, behind, left, field, later, cut, rfl, read, ended, rfl⟩
    · rw [readFields, cutLine_more cut more]
    · rw [readFields_cons (cutLine_more cut more) read, ih ended (Nat.le_of_succ_le_succ enough)]

/-- Fields of which the end has not arrived. -/
theorem readFields_part {fuel room : Nat} {part more : List UInt8} (nonempty : more ≠ []) {fields : List Field}
    (done : readFields fuel room (part ++ more) = .done fields []) (other : Nat) :
    readFields other room part = .more := by
  induction other generalizing fuel room part fields with
  | zero => rfl
  | succ other ih =>
    cases cut : cutLine part with
    | none => rw [readFields, cut]
    | some found =>
      obtain ⟨start, behind⟩ := found
      have longer := cutLine_more cut more
      cases fuel with
      | zero => cases done
      | succ fuel =>
        rcases readFields_inv done with ⟨whole, rfl⟩ | ⟨byte, line, _, left, field, later, whole, rfl, read, ended, rfl⟩
        · -- the fields would have ended in front of the rest
          have same := Option.some.inj (longer.symm.trans whole)
          exact absurd (List.append_eq_nil_iff.mp (Prod.mk.inj same).2).2 nonempty
        · cases longer.symm.trans whole
          rw [readFields_cons cut read, ih ended]

theorem read_inv {room : Nat} {text rest : List UInt8} {value : List UInt8 × List Field}
    (done : read room text = .done value rest) :
    ∃ behind, cutLine text = some (value.1, behind) ∧
      readFields (behind.length + 1) room behind = .done value.2 rest := by
  rw [read] at done
  split at done
  next => cases done
  next start behind cut =>
    split at done
    next ended =>
      cases done
      exact ⟨behind, cut, ended⟩
    all_goals cases done

/-- What follows a head is left behind. -/
theorem read_more {room : Nat} {text rest : List UInt8} {value : List UInt8 × List Field}
    (done : read room text = .done value rest) (more : List UInt8) :
    read room (text ++ more) = .done value (rest ++ more) := by
  obtain ⟨behind, cut, ended⟩ := read_inv done
  have longer : behind.length + 1 ≤ (behind ++ more).length + 1 := by
    rw [List.length_append]
    omega
  rw [read, cutLine_more cut more]
  simp only [readFields_more ended longer]

/-- A head of which the end has not arrived. -/
theorem read_part {room : Nat} {part more : List UInt8} (nonempty : more ≠ []) {value : List UInt8 × List Field}
    (done : read room (part ++ more) = .done value []) : read room part = .more := by
  obtain ⟨_, whole, ended⟩ := read_inv done
  rw [read]
  cases cut : cutLine part with
  | none => rfl
  | some found =>
    obtain ⟨start, behind⟩ := found
    cases (cutLine_more cut more).symm.trans whole
    simp only [readFields_part nonempty ended]

end Lib.Head
