import MonoioTungstenite.Lib.Head

/-! # Lists in header values

A value with a list in it has elements between commas, with blanks around them.  Cutting such a value at spaces as
well finds no word that is not an element (`mem_elements_of_word`); an element with a tab beside it is not found
then. -/

namespace Lib.Head

/-- The elements of a list, without the blanks around them. -/
def elements (value : List UInt8) : List (List UInt8) := (value.splitOn 44).map trim

/-- A text that is there, without blanks. -/
structure Solid (word : List UInt8) : Prop where
  nonempty : word ≠ []
  whole : ∀ byte ∈ word, isBlank byte = false

/-! ## Blanks around a text -/

theorem trim_split (text : List UInt8) :
    ∃ front back, text = front ++ (trim text ++ back) ∧ (∀ byte ∈ front, isBlank byte = true) ∧
      ∀ byte ∈ back, isBlank byte = true := by
  refine ⟨text.takeWhile isBlank, (text.dropWhile isBlank).rtakeWhile isBlank, ?_, ?_, ?_⟩
  · rw [trim, List.rdropWhile_append_rtakeWhile, List.takeWhile_append_dropWhile]
  · exact fun byte => List.mem_takeWhile_imp
  · exact fun byte => List.mem_rtakeWhile_imp

theorem trim_eq_self {value : List UInt8} (trimmed : Trimmed value) : trim value = value := by
  have front : trim (32 :: value) = trim value := by
    rw [trim, List.dropWhile_cons_of_pos (by decide), ← trim]
  rw [← front, trim_of_trimmed trimmed]

/-! ## Cutting at spaces -/

/-- A byte that a value is cut at. -/
def isSpace (byte : UInt8) : Bool := byte = 32

theorem isBlank_of_isSpace {byte : UInt8} (space : isSpace byte = true) : isBlank byte = true := by
  simp only [isSpace, decide_eq_true_eq] at space
  simp [isBlank, space]

/-- Blanks in front of a text have no words in them. -/
theorem mem_splitOnP_of_front {front rest word : List UInt8} (blank : ∀ byte ∈ front, isBlank byte = true)
    (solid : Solid word) (found : word ∈ (front ++ rest).splitOnP isSpace) : word ∈ rest.splitOnP isSpace := by
  induction front with
  | nil => exact found
  | cons byte front ih =>
    rw [List.forall_mem_cons] at blank
    rw [List.cons_append, List.splitOnP_cons_eq_if_modifyHead] at found
    split at found
    next space =>
      -- a space ends an empty piece
      cases List.mem_cons.mp found with
      | inl nothing => exact absurd nothing solid.nonempty
      | inr behind => exact ih blank.2 behind
    next =>
      -- a tab goes to the first piece, which is no word then
      cases pieces : (front ++ rest).splitOnP isSpace with
      | nil => exact absurd pieces (List.splitOnP_ne_nil _ _)
      | cons first others =>
        rw [pieces, List.modifyHead_cons] at found
        cases List.mem_cons.mp found with
        | inl begins =>
          have tab := solid.whole byte (begins ▸ List.mem_cons_self)
          exact absurd (blank.1.symm.trans tab) (by decide)
        | inr behind => exact ih blank.2 (pieces ▸ List.mem_cons_of_mem first behind)

/-- The only word in a text with blanks around it is that text. -/
theorem eq_of_mem_splitOnP {text word back : List UInt8} (whole : ∀ byte ∈ text, isBlank byte = false)
    (blank : ∀ byte ∈ back, isBlank byte = true) (solid : Solid word)
    (found : word ∈ (text ++ back).splitOnP isSpace) : word = text := by
  -- what stands beside the text up to the first space: tabs, if there is anything
  have tabs : ∀ byte ∈ text ++ back.takeWhile (!isSpace ·), isSpace byte = false := by
    intro byte listed
    cases List.mem_append.mp listed with
    | inl inside =>
      cases space : isSpace byte with
      | false => rfl
      | true => exact absurd ((isBlank_of_isSpace space).symm.trans (whole byte inside)) (by decide)
    | inr beside => simpa using List.mem_takeWhile_imp beside
  have first : word = text ++ back.takeWhile (!isSpace ·) → word = text := by
    intro same
    cases beside : back.takeWhile (!isSpace ·) with
    | nil => rw [same, beside, List.append_nil]
    | cons tab others =>
      have listed : tab ∈ back.takeWhile (!isSpace ·) := beside ▸ List.mem_cons_self
      have isTab := blank tab ((List.takeWhile_prefix _).subset listed)
      exact absurd (isTab.symm.trans (solid.whole tab (same ▸ List.mem_append_right text listed))) (by decide)
  have split : text ++ back = (text ++ back.takeWhile (!isSpace ·)) ++ back.dropWhile (!isSpace ·) := by
    rw [List.append_assoc, List.takeWhile_append_dropWhile]
  rw [split] at found
  cases behind : back.dropWhile (!isSpace ·) with
  | nil =>
    rw [behind, List.append_nil, List.splitOnP_eq_singleton tabs, List.mem_singleton] at found
    exact first found
  | cons space rest =>
    have isSpace' : isSpace space = true := by
      have stops := List.head?_dropWhile_not (!isSpace ·) back
      rw [behind] at stops
      simpa using stops
    rw [behind, List.splitOnP_append_cons_of_forall_mem tabs space isSpace'] at found
    cases List.mem_cons.mp found with
    | inl same => exact first same
    | inr later =>
      -- behind the space there are only blanks, and no word among them
      have blanks : ∀ byte ∈ rest, isBlank byte = true := by
        intro byte listed
        apply blank byte
        apply (List.dropWhile_suffix (!isSpace ·)).subset
        rw [behind]
        exact List.mem_cons_of_mem space listed
      have nowhere := @mem_splitOnP_of_front rest [] word blanks solid (by rwa [List.append_nil])
      exact absurd (List.mem_singleton.mp nowhere) solid.nonempty

/-! ## Words and elements -/

/-- Cutting at two kinds of separators cuts at the ones, and then what is left at the others. -/
theorem splitOnP_or {α : Type} (left right : α → Bool) (text : List α) :
    text.splitOnP (fun item => left item || right item) =
      (text.splitOnP right).flatMap (List.splitOnP left) := by
  -- an item ends a piece, or ends a word in the first piece, or goes to its first word
  induction text with
  | nil => rfl
  | cons item text ih =>
    rw [List.splitOnP_cons_eq_if_modifyHead, List.splitOnP_cons_eq_if_modifyHead, ih]
    cases pieces : text.splitOnP right with
    | nil => exact absurd pieces (List.splitOnP_ne_nil _ _)
    | cons first others =>
      by_cases isRight : right item = true
      · simp [isRight]
      · by_cases isLeft : left item = true
        · simp [isRight, isLeft, List.splitOnP_cons_eq_if_modifyHead]
        · cases words : first.splitOnP left with
          | nil => exact absurd words (List.splitOnP_ne_nil _ _)
          | cons word more => simp [isRight, isLeft, words, List.splitOnP_cons_eq_if_modifyHead]

/-- Where all elements are words, a word of the value is an element. -/
theorem mem_elements_of_word {value word : List UInt8} (list : ∀ element ∈ elements value, Solid element)
    (solid : Solid word) (found : word ∈ value.splitOnP fun byte => byte = 32 || byte = 44) :
    word ∈ elements value := by
  have cut : (value.splitOnP fun byte => byte = 32 || byte = 44) = (value.splitOn 44).flatMap (List.splitOnP isSpace) := by
    rw [List.splitOn_eq_splitOnP, ← splitOnP_or]
    rfl
  rw [cut] at found
  obtain ⟨piece, listed, inside⟩ := List.mem_flatMap.mp found
  have element : trim piece ∈ elements value := List.mem_map_of_mem listed
  -- the piece is its element with blanks around it
  obtain ⟨front, back, split, blankFront, blankBack⟩ := trim_split piece
  rw [split] at inside
  have word := mem_splitOnP_of_front blankFront solid inside
  rw [eq_of_mem_splitOnP (list _ element).whole blankBack solid word]
  exact element

theorem elements_ne_nil (value : List UInt8) : elements value ≠ [] := by
  rw [elements, List.splitOn_eq_splitOnP]
  exact fun none => List.splitOnP_ne_nil _ _ (List.map_eq_nil_iff.mp none)

theorem elements_of_whole {value : List UInt8} (whole : 44 ∉ value) (trimmed : Trimmed value) :
    elements value = [value] := by
  have one : value.splitOn 44 = [value] := by
    rw [List.splitOn_eq_splitOnP]
    apply List.splitOnP_eq_singleton
    rintro byte found
    simpa using fun same : byte = 44 => whole (same ▸ found)
  rw [elements, one, List.map_singleton, trim_eq_self trimmed]

theorem eq_of_elements_eq_singleton {value element : List UInt8} (trimmed : Trimmed value)
    (single : elements value = [element]) : value = element := by
  obtain ⟨piece, pieces, rfl⟩ := List.map_eq_singleton_iff.mp single
  have same : value = piece := by
    rw [← @List.intercalate_splitOn _ value _ _ 44, pieces, List.intercalate_singleton]
  rw [← same, trim_eq_self trimmed]

theorem mem_intercalate {α : Type} {separator item : α} {pieces : List (List α)}
    (found : item ∈ [separator].intercalate pieces) : item = separator ∨ ∃ piece ∈ pieces, item ∈ piece := by
  induction pieces with
  | nil => cases found
  | cons piece pieces ih =>
    cases pieces with
    | nil =>
      rw [List.intercalate_singleton] at found
      exact .inr ⟨piece, List.mem_cons_self, found⟩
    | cons next pieces =>
      rw [List.intercalate_cons_cons, List.mem_append, List.mem_append, List.mem_singleton] at found
      rcases found with (within | same) | behind
      · exact .inr ⟨piece, List.mem_cons_self, within⟩
      · exact .inl same
      · exact (ih behind).imp id fun ⟨other, listed, inside⟩ => ⟨other, List.mem_cons_of_mem piece listed, inside⟩

/-- What holds of commas, blanks and the bytes of the elements holds of all bytes. -/
theorem forall_mem_of_elements {test : UInt8 → Prop} {value : List UInt8} (comma : test 44)
    (blank : ∀ byte, isBlank byte = true → test byte)
    (inside : ∀ element ∈ elements value, ∀ byte ∈ element, test byte) : ∀ byte ∈ value, test byte := by
  have pieces : ∀ piece ∈ value.splitOn 44, ∀ byte ∈ piece, test byte := by
    intro piece listed byte found
    obtain ⟨front, back, split, blankFront, blankBack⟩ := trim_split piece
    rw [split, List.mem_append, List.mem_append] at found
    rcases found with early | within | late
    · exact blank byte (blankFront byte early)
    · exact inside _ (List.mem_map_of_mem listed) byte within
    · exact blank byte (blankBack byte late)
  intro byte found
  rw [← @List.intercalate_splitOn _ value _ _ 44] at found
  cases mem_intercalate found with
  | inl same => exact same ▸ comma
  | inr within =>
    obtain ⟨piece, listed, inside⟩ := within
    exact pieces piece listed byte inside

end Lib.Head
