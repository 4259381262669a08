/-!
# Parts of texts

A text falls into pieces at every separator, and into two parts at a number of bytes; a cut at a
number of bytes fails where it would go through a character. A text can stand inside another one,
and it can read as a count or as a number with a point.
-/

namespace OnnxCorpus.Text

/-! ### Pieces -/

/-- The texts between separators. -/
def pieces (separator : Char) : List Char → List (List Char)
  | [] => [[]]
  | c :: rest =>
    if c = separator then [] :: pieces separator rest
    else
      match pieces separator rest with
      | [] => [[c]]
      | piece :: more => (c :: piece) :: more

/-- There is a piece, also of an empty text. -/
theorem pieces_ne_nil (separator : Char) (text : List Char) : pieces separator text ≠ [] := by
  cases text with
  | nil => simp [pieces]
  | cons c rest =>
    rw [pieces]
    split
    · simp
    · split <;> simp

/-- No piece is longer than the text. -/
theorem length_le_of_mem_pieces {separator : Char} {text piece : List Char}
    (h : piece ∈ pieces separator text) : piece.length ≤ text.length := by
  induction text generalizing piece with
  | nil => simp_all [pieces]
  | cons c rest ih =>
    obtain ⟨first, more, he⟩ := List.exists_cons_of_ne_nil (pieces_ne_nil separator rest)
    rw [pieces] at h
    rw [List.length_cons]
    split at h
    · rcases List.mem_cons.1 h with rfl | later
      · exact Nat.zero_le _
      · exact Nat.le_succ_of_le (ih later)
    · rw [he] at h ih
      rcases List.mem_cons.1 h with rfl | later
      · exact Nat.succ_le_succ (ih List.mem_cons_self)
      · exact Nat.le_succ_of_le (ih (List.mem_cons_of_mem _ later))

theorem pieces_of_not_mem {separator : Char} {text : List Char} (h : separator ∉ text) :
    pieces separator text = [text] := by
  induction text with
  | nil => rfl
  | cons c rest ih =>
    rw [List.mem_cons, not_or] at h
    rw [pieces, if_neg (Ne.symm h.1), ih h.2]

/-- A separator between two texts keeps their pieces apart. -/
theorem pieces_append_cons (separator : Char) (before after : List Char) :
    pieces separator (before ++ separator :: after) =
      pieces separator before ++ pieces separator after := by
  induction before with
  | nil => simp [pieces]
  | cons c rest ih =>
    obtain ⟨first, more, he⟩ := List.exists_cons_of_ne_nil (pieces_ne_nil separator rest)
    rw [List.cons_append, pieces, ih, he, pieces, he]
    split <;> rfl

/-! ### Cuts -/

/-- The characters before a number of bytes. -/
def takeBytes? (n : Nat) : List Char → Option (List Char)
  | [] => if n = 0 then some [] else none
  | c :: rest =>
    if n = 0 then some []
    else if c.utf8Size ≤ n then (takeBytes? (n - c.utf8Size) rest).map (c :: ·)
    else none

/-- The characters after a number of bytes. -/
def dropBytes? (n : Nat) : List Char → Option (List Char)
  | [] => if n = 0 then some [] else none
  | c :: rest =>
    if n = 0 then some (c :: rest)
    else if c.utf8Size ≤ n then dropBytes? (n - c.utf8Size) rest
    else none

/-! ### Texts inside texts -/

/-- Whether a list stands somewhere in another one. -/
def occursIn (needle : List Char) : List Char → Bool
  | [] => needle.isEmpty
  | c :: rest => needle.isPrefixOf (c :: rest) || occursIn needle rest

/-- Whether a text stands somewhere in another one. -/
def isPartOf (part text : String) : Bool := occursIn part.toList text.toList

/-- A list is found exactly when something stands before it and something after it. -/
theorem occursIn_iff {needle text : List Char} :
    occursIn needle text = true ↔ ∃ before after, text = before ++ needle ++ after := by
  induction text with
  | nil =>
    simp only [occursIn, List.isEmpty_iff]
    constructor
    · rintro rfl
      exact ⟨[], [], rfl⟩
    · rintro ⟨before, after, h⟩
      have := h.symm
      simp only [List.append_eq_nil_iff] at this
      exact this.1.2
  | cons c rest ih =>
    simp only [occursIn, Bool.or_eq_true, ih, List.isPrefixOf_iff_prefix]
    constructor
    · rintro (⟨after, h⟩ | ⟨before, after, rfl⟩)
      · exact ⟨[], after, by simp [h]⟩
      · exact ⟨c :: before, after, rfl⟩
    · rintro ⟨_ | ⟨b, before⟩, after, h⟩
      · exact .inl ⟨after, by simpa using h.symm⟩
      · simp only [List.cons_append, List.cons.injEq] at h
        exact .inr ⟨before, after, h.2⟩

/-! ### Counts and numbers

Counts are decimal digits with an optional plus sign, below 64 bits. The texts that read as numbers
with a point are an optional sign, then digits with an optional point among them and an optional
exponent, or a word for what is no finite number. -/

/-- The number that a text of decimal digits spells, with an optional plus sign, below
`2 ^ 64`. -/
def readCount? (text : String) : Option Nat :=
  let digits := match text.toList with
    | '+' :: rest => rest
    | cs => cs
  if digits.isEmpty ∨ ¬digits.all Char.isDigit then none
  else
    let n := digits.foldl (fun n c => 10 * n + (c.toNat - '0'.toNat)) 0
    if n < UInt64.size then some n else none

/-- A text without the sign at its start. -/
def dropSign : List Char → List Char
  | '+' :: rest | '-' :: rest => rest
  | text => text

/-- Whether a text is an exponent or empty. -/
def isExponent : List Char → Bool
  | [] => true
  | e :: rest =>
    let digits := dropSign rest
    (e == 'e' || e == 'E') && !digits.isEmpty && digits.all Char.isDigit

/-- Whether a text reads as a number. There is a digit before the point or after it. -/
def isNumber (text : List Char) : Bool :=
  let text := dropSign text
  let whole := text.takeWhile Char.isDigit
  let (fraction, exponent) := match text.dropWhile Char.isDigit with
    | '.' :: rest => (rest.takeWhile Char.isDigit, rest.dropWhile Char.isDigit)
    | rest => ([], rest)
  String.ofList (text.map Char.toLower) ∈ ["inf", "infinity", "nan"] ||
    (!(whole ++ fraction).isEmpty && isExponent exponent)

end OnnxCorpus.Text
