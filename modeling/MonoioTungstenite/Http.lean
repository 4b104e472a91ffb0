import Mathlib.Data.List.DropRight
import MonoioTungstenite.Lib.Ascii
import MonoioTungstenite.Lib.Utf8

/-! # Requests and responses

What the handshake uses of the crate `http`: header names and values that are well formed by construction,
header maps with duplicates, and requests and responses.

A map is kept as the lines that were put into it.  In which order it is iterated is left to the crate; the
lines of one name keep their order. -/

namespace MonoioTungstenite

open Lib (ascii lower)

/-- A character of a token: what a header name is made of. -/
def isTokenByte (byte : UInt8) : Bool :=
  (48 ≤ byte && byte ≤ 57) || (65 ≤ byte && byte ≤ 90) || (97 ≤ byte && byte ≤ 122) ||
    [33, 35, 36, 37, 38, 39, 42, 43, 45, 46, 94, 95, 96, 124, 126].contains byte

/-- A token: a name as it may stand on a header line. -/
def IsToken (text : List UInt8) : Prop := text ≠ [] ∧ text.all isTokenByte = true

instance (text : List UInt8) : Decidable (IsToken text) := inferInstanceAs (Decidable (_ ∧ _))

theorem isTokenByte_lowerByte (byte : UInt8) : isTokenByte (Lib.lowerByte byte) = isTokenByte byte := by
  apply @Lib.forall_byte fun byte => isTokenByte (Lib.lowerByte byte) = isTokenByte byte
  decide +kernel

theorem isToken_lower {text : List UInt8} : IsToken (lower text) ↔ IsToken text := by
  unfold IsToken
  rw [Lib.all_lower isTokenByte_lowerByte, ne_eq, Lib.lower_eq_nil]

/-- `http::HeaderName`: a token in lower case. -/
structure HeaderName where
  bytes : List UInt8
  isToken : IsToken bytes
  lowerCase : lower bytes = bytes
  deriving DecidableEq

@[ext] theorem HeaderName.ext {left right : HeaderName} (same : left.bytes = right.bytes) : left = right := by
  cases left
  cases right
  cases same
  rfl

/-- `HeaderName::from_bytes` -/
def HeaderName.fromBytes (text : List UInt8) : Option HeaderName :=
  if isToken : IsToken text then some ⟨lower text, isToken_lower.mpr isToken, Lib.lower_lower text⟩ else none

/-- A byte that a header value may have. -/
def isValueByte (byte : UInt8) : Bool := byte = 9 || (32 ≤ byte && byte ≠ 127)

/-- A byte that `to_str` takes. -/
def isVisible (byte : UInt8) : Bool := byte = 9 || (32 ≤ byte && byte < 127)

/-- `http::HeaderValue` -/
structure HeaderValue where
  bytes : List UInt8
  valid : bytes.all isValueByte = true
  deriving DecidableEq

@[ext] theorem HeaderValue.ext {left right : HeaderValue} (same : left.bytes = right.bytes) : left = right := by
  cases left
  cases right
  cases same
  rfl

/-- `HeaderValue::from_bytes` -/
def HeaderValue.fromBytes (bytes : List UInt8) : Option HeaderValue :=
  if valid : bytes.all isValueByte = true then some ⟨bytes, valid⟩ else none

/-- `HeaderValue::to_str` -/
def HeaderValue.toStr (value : HeaderValue) : Option (List UInt8) :=
  if value.bytes.all isVisible then some value.bytes else none

/-- A value that `to_str` takes. -/
def HeaderValue.Legible (value : HeaderValue) : Prop := value.bytes.all isVisible = true

instance (value : HeaderValue) : Decidable value.Legible := inferInstanceAs (Decidable (_ = true))

theorem HeaderValue.toStr_of_legible {value : HeaderValue} (legible : value.Legible) : value.toStr = some value.bytes :=
  if_pos legible

theorem HeaderValue.toStr_of_not_legible {value : HeaderValue} (illegible : ¬ value.Legible) : value.toStr = none :=
  if_neg illegible

/-- A header line of a map. -/
abbrev HeaderLine := HeaderName × HeaderValue

/-- `http::HeaderMap` -/
structure HeaderMap where
  entries : List HeaderLine
  deriving DecidableEq

namespace HeaderMap

def new : HeaderMap := ⟨[]⟩

def append (name : HeaderName) (value : HeaderValue) (headers : HeaderMap) : HeaderMap :=
  ⟨headers.entries ++ [(name, value)]⟩

/-- The lines with this name, in whatever case it is given. -/
def named (headers : HeaderMap) (name : List UInt8) : List HeaderLine :=
  headers.entries.filter fun line => line.1.bytes = lower name

/-- The first value of a name. -/
def get (headers : HeaderMap) (name : List UInt8) : Option HeaderValue := (headers.named name).head?.map Prod.snd

/-- Takes the first value of a name out of the map, and drops the others. -/
def remove (headers : HeaderMap) (name : List UInt8) : Option HeaderValue × HeaderMap :=
  (headers.get name, ⟨headers.entries.filter fun line => line.1.bytes ≠ lower name⟩)

end HeaderMap

/-- `http::Version` -/
inductive Version where
  | HTTP_09
  | HTTP_10
  | HTTP_11
  | HTTP_2
  | HTTP_3
  deriving DecidableEq, Repr

namespace Version

/-- The versions in their order. -/
def rank : Version → Nat
  | .HTTP_09 => 9
  | .HTTP_10 => 10
  | .HTTP_11 => 11
  | .HTTP_2 => 20
  | .HTTP_3 => 30

/-- `impl Debug for Version` -/
def text : Version → List UInt8
  | .HTTP_09 => ascii "HTTP/0.9"
  | .HTTP_10 => ascii "HTTP/1.0"
  | .HTTP_11 => ascii "HTTP/1.1"
  | .HTTP_2 => ascii "HTTP/2.0"
  | .HTTP_3 => ascii "HTTP/3.0"

end Version

/-- A byte of a path: no blank, no control character and none of `#`, `<`, `>` and the backtick. -/
def isPathByte (byte : UInt8) : Bool := 33 ≤ byte && byte ≠ 127 && !([35, 60, 62, 96].contains byte)

/-- A byte of a query, where the backtick may stand and a double quote may not. -/
def isQueryByte (byte : UInt8) : Bool := 33 ≤ byte && byte ≠ 127 && !([34, 35, 60, 62].contains byte)

/-- A path, and the query behind a question mark, in UTF-8: what `http` stores and `httparse` takes for a target. -/
def IsTarget (text : List UInt8) : Prop :=
  (text.takeWhile (· ≠ 63)).all isPathByte = true ∧ (text.dropWhile (· ≠ 63)).all isQueryByte = true ∧
    Lib.Utf8.Valid text

instance (text : List UInt8) : Decidable (IsTarget text) := inferInstanceAs (Decidable (_ ∧ _))

/-- Neither a blank nor the end of a line stands in a target. -/
theorem IsTarget.visible {text : List UInt8} (target : IsTarget text) : ∀ byte ∈ text, 33 ≤ byte := by
  obtain ⟨path, query, _⟩ := target
  intro byte found
  rw [← List.takeWhile_append_dropWhile (p := (· ≠ 63)) (l := text), List.mem_append] at found
  rcases found with inPath | inQuery
  · have this := List.all_eq_true.mp path byte inPath
    simp only [isPathByte, Bool.and_eq_true, decide_eq_true_eq] at this
    exact this.1.1
  · have this := List.all_eq_true.mp query byte inQuery
    simp only [isQueryByte, Bool.and_eq_true, decide_eq_true_eq] at this
    exact this.1.1

/-- `http::uri::PathAndQuery`; a URI has at most 65534 bytes. -/
structure PathAndQuery where
  data : List UInt8
  valid : IsTarget data
  short : data.length ≤ 65534
  deriving DecidableEq

/-- `PathAndQuery::as_str` -/
def PathAndQuery.asStr (path : PathAndQuery) : List UInt8 := if path.data.isEmpty then ascii "/" else path.data

/-- `http::Uri` -/
structure Uri where
  scheme : Option (List UInt8)
  authority : Option (List UInt8)
  pathAndQuery : Option PathAndQuery
  deriving DecidableEq

/-- `PathAndQuery::path` -/
def PathAndQuery.path (path : PathAndQuery) : List UInt8 :=
  let text := path.data.takeWhile (· ≠ 63)
  if text.isEmpty then ascii "/" else text

/-- `PathAndQuery::query` -/
def PathAndQuery.query (path : PathAndQuery) : Option (List UInt8) :=
  match path.data.dropWhile (· ≠ 63) with
  | [] => none
  | _ :: query => some query

namespace Uri

/-- `Authority::host`: what follows the last `@`, without the port; an IPv6 literal keeps its brackets. -/
def hostOf (authority : List UInt8) : List UInt8 :=
  match authority.rtakeWhile (· ≠ 64) with
  | 91 :: rest => 91 :: rest.takeWhile (· ≠ 93) ++ [93]
  | hostPort => hostPort.takeWhile (· ≠ 58)

/-- `Uri::host` -/
def host (uri : Uri) : Option (List UInt8) := uri.authority.map hostOf

/-- The number that these digits stand for. -/
def decimal (digits : List UInt8) : Nat := digits.foldl (fun value digit => value * 10 + (digit.toNat - 48)) 0

/-- `u16::from_str`, which takes a sign. -/
def parseU16 (text : List UInt8) : Option Nat :=
  let digits := if text.head? = some 43 then text.tail else text
  if ¬ digits.isEmpty ∧ digits.all (fun digit => 48 ≤ digit && digit ≤ 57) ∧ decimal digits < 65536 then
    some (decimal digits)
  else none

/-- `Uri::port_u16`: what follows the last colon, if it is a number. -/
def portU16 (uri : Uri) : Option Nat :=
  uri.authority.bind fun authority =>
    if authority.contains 58 then parseU16 (authority.rtakeWhile (· ≠ 58)) else none

end Uri

/-- `http::Request<()>` -/
structure Request where
  method : List UInt8
  uri : Uri
  version : Version
  headers : HeaderMap
  deriving DecidableEq

/-- `http::StatusCode` -/
structure StatusCode where
  code : Nat
  least : 100 ≤ code
  most : code < 1000
  deriving DecidableEq

namespace StatusCode

def SWITCHING_PROTOCOLS : StatusCode := ⟨101, by decide, by decide⟩

/-- `StatusCode::from_u16` -/
def fromU16 (code : Nat) : Option StatusCode :=
  if range : 100 ≤ code ∧ code < 1000 then some ⟨code, range.1, range.2⟩ else none

def isSuccess (status : StatusCode) : Bool := 200 ≤ status.code && status.code < 300

/-- The three digits of the code. -/
def digits (status : StatusCode) : List UInt8 :=
  [UInt8.ofNat (48 + status.code / 100), UInt8.ofNat (48 + status.code / 10 % 10), UInt8.ofNat (48 + status.code % 10)]

end StatusCode

/-- `http::Response` -/
structure Response (β : Type) where
  status : StatusCode
  version : Version
  headers : HeaderMap
  body : β
  deriving DecidableEq

/-! ## Header maps -/

namespace HeaderMap

theorem mem_named {headers : HeaderMap} {name : List UInt8} {line : HeaderLine} :
    line ∈ headers.named name ↔ line ∈ headers.entries ∧ line.1.bytes = lower name := by
  simp [named]

/-- The first value of a name is the value of a line. -/
theorem get_mem {headers : HeaderMap} {name : List UInt8} {value : HeaderValue}
    (found : headers.get name = some value) : ∃ line ∈ headers.entries, line.1.bytes = lower name ∧ line.2 = value := by
  obtain ⟨line, first, same⟩ := Option.map_eq_some_iff.mp found
  have listed := mem_named.mp (List.mem_of_mem_head? first)
  exact ⟨line, listed.1, listed.2, same⟩

/-- What is named like this depends on the lines of this name only. -/
theorem get_congr {left right : HeaderMap} {name : List UInt8} (same : left.named name = right.named name) :
    left.get name = right.get name := by
  rw [get, get, same]

theorem named_remove {headers : HeaderMap} {name other : List UInt8} (differ : lower other ≠ lower name) :
    (headers.remove name).2.named other = headers.named other := by
  unfold remove named
  rw [List.filter_filter]
  apply List.filter_congr
  intro line _
  by_cases same : line.1.bytes = lower other
  · simp [same, differ]
  · simp [same]

/-- Taking out a name that is there makes the map smaller. -/
theorem length_remove {headers : HeaderMap} {name : List UInt8} {value : HeaderValue}
    (found : headers.get name = some value) :
    (headers.remove name).2.entries.length < headers.entries.length := by
  obtain ⟨line, listed, same, _⟩ := get_mem found
  apply List.length_filter_lt_length_iff_exists.mpr
  exact ⟨line, listed, by simpa using same⟩

end HeaderMap

/-- `impl IntoIterator for HeaderMap`: all lines, those of one name in their order. -/
def Iterates (iter : HeaderMap → List HeaderLine) : Prop :=
  ∀ headers name, (iter headers).filter (fun line => line.1.bytes = lower name) = headers.named name

/-- Iterating yields the lines of the map in some order. -/
theorem Iterates.perm {iter : HeaderMap → List HeaderLine} (iterates : Iterates iter) (headers : HeaderMap) :
    (iter headers).Perm headers.entries := by
  apply List.perm_iff_count.mpr
  intro line
  have same := congrArg (List.count line) (iterates headers line.1.bytes)
  have kept : ∀ lines : List HeaderLine,
      (lines.filter fun other => other.1.bytes = lower line.1.bytes).count line = lines.count line :=
    fun lines => List.count_filter (decide_eq_true line.1.lowerCase.symm)
  exact (kept (iter headers)).symm.trans (same.trans (kept headers.entries))

end MonoioTungstenite
