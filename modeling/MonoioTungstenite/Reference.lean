import MonoioTungstenite.Handshake

/-! # Crates that do what is documented

A small `httparse`, `http` and base64, for any hash.  They do what the handshake expects of the real ones
(`referenceCrates_documented`), so that nothing is asked of these that cannot be. -/

namespace MonoioTungstenite

open Lib (ascii)
open Lib.Head (Field)

/-! ## Base64 -/

/-- The character for six bits. -/
def base64Char (sextet : Nat) : UInt8 :=
  (ascii "ABCDEFGHIJKLMNOPQRSTUVWXYZabcdefghijklmnopqrstuvwxyz0123456789+/").getD sextet 61

/-- Four characters for three bytes, the last ones of which may be missing. -/
def base64Encode : List UInt8 → List UInt8
  | [] => []
  | [first] => [base64Char (first.toNat / 4), base64Char (first.toNat % 4 * 16), 61, 61]
  | [first, second] =>
    [base64Char (first.toNat / 4), base64Char (first.toNat % 4 * 16 + second.toNat / 16),
      base64Char (second.toNat % 16 * 4), 61]
  | first :: second :: third :: rest =>
    [base64Char (first.toNat / 4), base64Char (first.toNat % 4 * 16 + second.toNat / 16),
      base64Char (second.toNat % 16 * 4 + third.toNat / 64), base64Char (third.toNat % 64)] ++ base64Encode rest

theorem isBase64Byte_char (sextet : Nat) : isBase64Byte (base64Char sextet) = true := by
  have alphabet : (ascii "ABCDEFGHIJKLMNOPQRSTUVWXYZabcdefghijklmnopqrstuvwxyz0123456789+/").all isBase64Byte =
      true := by decide
  unfold base64Char
  rw [List.getD_eq_getElem?_getD]
  cases found : (ascii "ABCDEFGHIJKLMNOPQRSTUVWXYZabcdefghijklmnopqrstuvwxyz0123456789+/")[sextet]? with
  | none => decide
  | some byte => exact List.all_eq_true.mp alphabet byte (List.mem_of_getElem? found)

theorem base64Encode_alphabet (bytes : List UInt8) : (base64Encode bytes).all isBase64Byte = true := by
  have padding : isBase64Byte 61 = true := by decide
  induction bytes using base64Encode.induct with
  | case1 => rfl
  | case2 first => simp [base64Encode, isBase64Byte_char, padding]
  | case3 first second => simp [base64Encode, isBase64Byte_char, padding]
  | case4 first second third rest ih => simp [base64Encode, isBase64Byte_char, ih]

/-! ## Heads -/

/-- What a head comes to, when its first line is read like this. -/
def parseHead {α : Type} (readStart : List UInt8 → List Field → Option α) (room : Nat) (text : List UInt8) :
    Parsed α :=
  match Lib.Head.read room text with
  | .more => .Partial
  | .malformed => .failed .HeaderName
  | .tooMany => .failed .TooManyHeaders
  | .done (start, fields) rest =>
    match readStart start fields with
    | some head => .Complete (text.length - rest.length) head
    | none => .failed .Token

/-- A method, a target and a version. -/
def readRequestLine (start : List UInt8) (fields : List Field) : Option RawRequest :=
  match start.splitOn 32 with
  | [method, path, version] => if version = ascii "HTTP/1.1" then some ⟨method, path, 1, fields⟩ else none
  | _ => none

/-- A version, three digits and a reason. -/
def readStatusLine (start : List UInt8) (fields : List Field) : Option RawResponse :=
  match start.drop 9 with
  | hundreds :: tens :: ones :: _ =>
    some ⟨1, (hundreds.toNat - 48) * 100 + (tens.toNat - 48) * 10 + (ones.toNat - 48), fields⟩
  | _ => none

/-- A URI that is only a path and a query. -/
def parsePath (text : List UInt8) : Option Uri :=
  if valid : IsTarget text ∧ text.length ≤ 65534 then
    some ⟨none, none, some ⟨text, valid.1, valid.2⟩⟩
  else none

def referenceCrates (sha1 : List UInt8 → List UInt8) : Crates where
  sha1
  base64 := base64Encode
  iter := HeaderMap.entries
  canonicalReason := fun status => if status.code = 101 then some (ascii "Switching Protocols") else none
  parseUri := parsePath
  parseRequest := parseHead readRequestLine
  parseResponse := parseHead readStatusLine

/-! ## What they do -/

/-- A line for the handshake is one that the reader takes back. -/
theorem Writable.head {field : Field} (writable : Writable field) : Lib.Head.Writable field := by
  obtain ⟨⟨_, token⟩, printable⟩ := writable
  rw [List.all_eq_true] at token
  have visible := List.all_eq_true.mp printable.visible
  have blank : ∀ byte : UInt8, isPrintable byte = true → (byte ≠ 13 ∧ (byte ≠ 32 → Lib.Head.isBlank byte = false)) := by
    apply Lib.forall_byte
    decide +kernel
  constructor
  case name =>
    constructor
    · intro found
      exact absurd (token 13 found) (by decide)
    · intro found
      exact absurd (token 58 found) (by decide)
  case value => exact fun found => (blank 13 (visible 13 found)).1 rfl
  case trimmed =>
    constructor
    · intro byte first
      apply (blank byte (visible byte (List.mem_of_mem_head? first))).2
      rintro rfl
      exact printable.trimmed.1 first
    · intro byte last
      apply (blank byte (visible byte (List.mem_of_mem_getLast? last))).2
      rintro rfl
      exact printable.trimmed.2 last

theorem parseHead_write {α : Type} {readStart : List UInt8 → List Field → Option α} {start : List UInt8} {head : α}
    {fields : List Field} (understood : readStart start fields = some head) (whole : 13 ∉ start) {room : Nat}
    (few : fields.length ≤ room) (writable : ∀ field ∈ fields, Writable field) :
    parseHead readStart room (Lib.Head.write start fields) =
      .Complete (Lib.Head.write start fields).length head := by
  have read := Lib.Head.read_write whole (fun field found => (writable field found).head) few []
  rw [List.append_nil] at read
  rw [parseHead, read]
  simp only [understood, List.length_nil, Nat.sub_zero]

theorem PathAndQuery.asStr_valid (path : PathAndQuery) : IsTarget path.asStr ∧ path.asStr.length ≤ 65534 := by
  unfold asStr
  split
  · exact ⟨by decide, by decide⟩
  · exact ⟨path.valid, path.short⟩

theorem requestLine_whole (path : PathAndQuery) (version : Version) : 13 ∉ requestLine path version := by
  have target : 13 ∉ path.asStr := by
    intro found
    exact absurd (path.asStr_valid.1.visible 13 found) (by decide)
  have versions : 13 ∉ version.text := by cases version <;> decide
  have front : (13 : UInt8) ∉ ascii "GET " := by decide
  have blank : (13 : UInt8) ∉ ascii " " := by decide
  simp [requestLine, target, versions, front, blank]

/-- The words of a request line. -/
theorem requestLine_words (path : PathAndQuery) (version : Version) :
    (requestLine path version).splitOn 32 = [ascii "GET", path.asStr, version.text] := by
  have solid : ∀ byte ∈ path.asStr, (byte == 32) = false := by
    intro byte found
    apply beq_eq_false_iff_ne.mpr
    rintro rfl
    exact absurd (path.asStr_valid.1.visible 32 found) (by decide)
  have front : ∀ byte ∈ ascii "GET", (byte == 32) = false := by decide +kernel
  have versions : ∀ byte ∈ version.text, (byte == 32) = false := by cases version <;> decide +kernel
  have whole : requestLine path version = ascii "GET" ++ 32 :: (path.asStr ++ 32 :: version.text) := by
    simp [requestLine, ascii]
  rw [whole, List.splitOn_eq_splitOnP, List.splitOnP_append_cons_of_forall_mem front 32 rfl,
    List.splitOnP_append_cons_of_forall_mem solid 32 rfl, List.splitOnP_eq_singleton versions]

theorem readRequestLine_write (path : PathAndQuery) (fields : List Field) :
    readRequestLine (requestLine path .HTTP_11) fields = some ⟨ascii "GET", path.asStr, 1, fields⟩ := by
  rw [readRequestLine, requestLine_words]
  rfl

theorem readStatusLine_write (status : StatusCode) {reason : List UInt8}
    (printable : reason.all isPrintable = true) (fields : List Field) :
    readStatusLine (statusLine .HTTP_11 status reason) fields = some ⟨1, status.code, fields⟩ ∧
      13 ∉ statusLine .HTTP_11 status reason := by
  have least := status.least
  have most := status.most
  have digit : ∀ value, value < 10 → (UInt8.ofNat (48 + value)).toNat = 48 + value := by
    intro value small
    rw [UInt8.toNat_ofNat', Nat.mod_eq_of_lt]
    omega
  have hundreds := digit (status.code / 100) (by omega)
  have tens := digit (status.code / 10 % 10) (by omega)
  have ones := digit (status.code % 10) (by omega)
  constructor
  · have front : (statusLine .HTTP_11 status reason).drop 9 = status.digits ++ ascii " " ++ reason := by
      simp [statusLine, Version.text, ascii]
    rw [readStatusLine, front]
    simp only [StatusCode.digits, List.cons_append, hundreds, tens, ones]
    congr 2
    omega
  · have noReturn : ∀ value, value < 10 → UInt8.ofNat (48 + value) ≠ 13 := by
      intro value small same
      have number := congrArg UInt8.toNat same
      rw [digit value small] at number
      change 48 + value = 13 at number
      omega
    intro found
    simp only [statusLine, List.mem_append, StatusCode.digits, List.mem_cons, List.not_mem_nil, or_false] at found
    -- a return is neither a digit nor printable
    rcases found with (((version | blank) | first | second | third) | blank) | inside
    · exact absurd version (by decide)
    · exact absurd blank (by decide)
    · exact noReturn _ (by omega) first.symm
    · exact noReturn _ (by omega) second.symm
    · exact noReturn _ (by omega) third.symm
    · exact absurd blank (by decide)
    · exact absurd (List.all_eq_true.mp printable 13 inside) (by decide)

/-- A head that is complete has been read to its end. -/
theorem parseHead_inv {α : Type} {readStart : List UInt8 → List Field → Option α} {room : Nat} {text : List UInt8}
    {head : α} (complete : parseHead readStart room text = .Complete text.length head) :
    ∃ start fields, Lib.Head.read room text = .done (start, fields) [] ∧ readStart start fields = some head := by
  have nonempty : 0 < text.length := by
    apply List.length_pos_of_ne_nil
    rintro rfl
    cases complete
  unfold parseHead at complete
  split at complete
  next => cases complete
  next => cases complete
  next => cases complete
  next start fields rest done =>
    split at complete
    next understood =>
      injection complete with size same
      have nothing : rest = [] := List.eq_nil_of_length_eq_zero (by omega)
      rw [nothing] at done
      exact ⟨start, fields, done, by rw [understood, same]⟩
    next => cases complete

theorem parseHead_more {α : Type} {readStart : List UInt8 → List Field → Option α} {room : Nat} {text : List UInt8}
    {head : α} (complete : parseHead readStart room text = .Complete text.length head) (more : List UInt8) :
    parseHead readStart room (text ++ more) = .Complete text.length head := by
  obtain ⟨start, fields, done, understood⟩ := parseHead_inv complete
  rw [parseHead, Lib.Head.read_more done more]
  simp only [understood, List.nil_append, List.length_append, Nat.add_sub_cancel]

theorem parseHead_part {α : Type} {readStart : List UInt8 → List Field → Option α} {room : Nat}
    {part more : List UInt8} {head : α}
    (complete : parseHead readStart room (part ++ more) = .Complete (part ++ more).length head) (nonempty : more ≠ []) :
    parseHead readStart room part = .Partial := by
  obtain ⟨start, fields, done, _⟩ := parseHead_inv complete
  rw [parseHead, Lib.Head.read_part nonempty done]

theorem referenceCrates_delimits (sha1 : List UInt8 → List UInt8) : (referenceCrates sha1).Delimits where
  whole := parseHead_more
  part := parseHead_part

theorem referenceCrates_requestsDocumented (sha1 : List UInt8 → List UInt8) :
    (referenceCrates sha1).RequestsDocumented := by
  constructor
  case iter => exact fun headers name => rfl
  case base64 => exact base64Encode_alphabet
  case uri =>
    intro path absolute
    refine ⟨_, dif_pos path.asStr_valid, ?_⟩
    have nonempty : path.asStr.isEmpty = false := by
      cases text : path.asStr with
      | nil =>
        rw [PathAndQuery.Absolute, text] at absolute
        cases absolute
      | cons byte rest => rfl
    apply congrArg some
    exact if_neg (by rw [nonempty]; exact Bool.false_ne_true)
  case request =>
    intro room path fields absolute few writable
    exact parseHead_write (readRequestLine_write path fields) (requestLine_whole path .HTTP_11) few writable

theorem referenceCrates_documented (sha1 : List UInt8 → List UInt8) : (referenceCrates sha1).Documented := by
  constructor
  case toRequestsDocumented => exact referenceCrates_requestsDocumented sha1
  case reason =>
    intro status reason named
    have same : (if status.code = 101 then some (ascii "Switching Protocols") else none) = some reason := named
    split at same
    · cases same
      decide
    · cases same
  case response =>
    intro room status reason fields printable few writable
    obtain ⟨understood, whole⟩ := readStatusLine_write status printable fields
    exact parseHead_write understood whole few writable

end MonoioTungstenite
