import ContainerKernel.Proofs.Containers
import ContainerKernel.Proofs.OutlineCursors
import ContainerKernel.Settings.Render

/-!
# Words in bytes and as scalars

The words of outlines are narrow: each character is one byte. So a text of such
characters comes back from its bytes, is a source of one chunk if it is short, and
is not changed by trimming.

A word that means nothing but itself is written without quotes and read as a text
(`IsName`). The words of numbers are written by `Settings.numberValue` and read as
the same integers, for all words of 64 bits. Other ways to write a number are not
treated.
-/

namespace ContainerKernel

/-! ## Bytes -/

/-- Whether every character is one byte. -/
def IsNarrow (text : List Char) : Prop :=
  ∀ value ∈ text, value.toNat < 128

/-- What holds of the first characters holds of every narrow one. -/
theorem forall_narrow {P : Char → Prop} (checked : ∀ number < 128, P (Char.ofNat number))
    {value : Char} (narrow : value.toNat < 128) : P value :=
  Char.ofNat_toNat value ▸ checked value.toNat narrow

/-- A narrow character is encoded as the byte of its number. -/
theorem encodeChars_cons {value : Char} (narrow : value.toNat < 128) (rest : List Char) :
    ∃ byte : UInt8, encodeChars (value :: rest) = byte :: encodeChars rest ∧
      byte.toNat = value.toNat := by
  have one : value.utf8Size = 1 :=
    Char.utf8Size_eq_one_iff.mpr (UInt32.le_iff_toNat_le.mpr (Nat.le_of_lt_succ narrow))
  refine ⟨value.val.toUInt8, ?_, ?_⟩
  · rw [encodeChars, List.flatMap_cons, String.utf8EncodeChar_eq_singleton one]
    rfl
  · rw [UInt32.toNat_toUInt8]
    exact Nat.mod_eq_of_lt (Nat.lt_trans narrow (by decide))

namespace Piece

/-- The byte of a narrow character is read as that character. -/
theorem leading_narrow {value : Char} {byte : UInt8} (narrow : value.toNat < 128)
    (same : byte.toNat = value.toNat) (rest : Bytes) : leading byte rest = some (value, 0) := by
  have small : byte < 0x80 := UInt8.lt_iff_toNat_lt.mpr (same ▸ narrow)
  unfold leading
  rw [if_pos small, charOf, same, Char.ofNat_toNat]

/-- The pieces of a narrow text are its characters. -/
theorem cut_encodeChars {text : List Char} (narrow : IsNarrow text) :
    cut (encodeChars text) = text.map .char := by
  induction text with
  | nil => rfl
  | cons value rest inductionHypothesis =>
    obtain ⟨first, others⟩ := List.forall_mem_cons.mp narrow
    obtain ⟨byte, encoded, same⟩ := encodeChars_cons first rest
    rw [cut, encoded, cutAfter, leading_narrow first same, List.map_cons,
      ← inductionHypothesis others]
    rfl

end Piece

/-- A narrow text comes back from its bytes. -/
theorem decodeChars?_encodeChars {text : List Char} (narrow : IsNarrow text) :
    decodeChars? (encodeChars text) = some text := by
  rw [decodeChars?, Piece.cut_encodeChars narrow]
  clear narrow
  induction text with
  | nil => rfl
  | cons value rest inductionHypothesis =>
    rw [List.map_cons, List.mapM_cons, inductionHypothesis]
    rfl

/-- Texts with the same bytes are the same. -/
theorem encodeChars_injective {first second : List Char}
    (same : encodeChars first = encodeChars second) : first = second := by
  have encoded : first.utf8Encode = second.utf8Encode := congrArg List.toByteArray same
  rw [← String.toByteArray_ofList, ← String.toByteArray_ofList, String.toByteArray_inj] at encoded
  exact String.ofList_inj.mp encoded

/-- Texts are encoded one after the other. -/
theorem encodeChars_append (first second : List Char) :
    encodeChars (first ++ second) = encodeChars first ++ encodeChars second :=
  List.flatMap_append

/-- A narrow text has as many bytes as characters. -/
theorem length_encodeChars {text : List Char} (narrow : IsNarrow text) :
    (encodeChars text).length = text.length := by
  induction text with
  | nil => rfl
  | cons value rest inductionHypothesis =>
    obtain ⟨first, others⟩ := List.forall_mem_cons.mp narrow
    obtain ⟨byte, encoded, _⟩ := encodeChars_cons first rest
    rw [encoded, List.length_cons, List.length_cons, inductionHypothesis others]

/-- Trimming does not change a text without blanks. -/
theorem trim_encodeChars {text : List Char} (narrow : IsNarrow text)
    (unblank : ∀ value ∈ text, isBlank value = false) :
    trim (encodeChars text) = encodeChars text := by
  have kept {pieces : List Piece} (unblank : ∀ piece ∈ pieces, piece.isBlank = false) :
      pieces.dropWhile Piece.isBlank = pieces := by
    cases pieces with
    | nil => rfl
    | cons piece rest =>
      rw [List.dropWhile_cons, unblank piece List.mem_cons_self]
      rfl
  have pieces : ∀ piece ∈ text.map Piece.char, piece.isBlank = false := by
    simpa [Piece.isBlank] using unblank
  rw [trim, trimList, Piece.cut_encodeChars narrow, kept pieces,
    kept fun piece member => pieces piece (List.mem_reverse.mp member), List.reverse_reverse,
    Piece.join, List.flatMap_map]
  rfl

namespace Document

/-- Bytes that begin with a narrow character announce no encoding. -/
theorem Encoding.announced_narrow {bytes : Bytes}
    (narrow : ∀ byte ∈ bytes.head?, byte.toNat < 128) :
    Encoding.announced bytes = (.utf8, bytes) := by
  unfold Encoding.announced
  split
  · exact absurd (narrow 0xFF rfl) (by decide)
  · exact absurd (narrow 0xFE rfl) (by decide)
  · exact absurd (narrow 0xEF rfl) (by decide)
  · rfl

/-- A chunk of narrow characters is read to its end. -/
theorem Encoding.readChunk_narrow {text : List Char} (narrow : IsNarrow text)
    (allowed : ∀ value ∈ text, isAllowed value = true) {bound : Nat}
    (enough : text.length ≤ bound) :
    Encoding.utf8.readChunk bound (encodeChars text) = some (text, []) := by
  induction text generalizing bound with
  | nil => cases bound <;> rfl
  | cons value rest inductionHypothesis =>
    obtain ⟨first, others⟩ := List.forall_mem_cons.mp narrow
    obtain ⟨allowedFirst, allowedOthers⟩ := List.forall_mem_cons.mp allowed
    obtain ⟨byte, encoded, same⟩ := encodeChars_cons first rest
    cases bound with
    | zero => cases enough
    | succ bound =>
      have following := inductionHypothesis others allowedOthers (Nat.le_of_succ_le_succ enough)
      have small : byte < 0x80 := UInt8.lt_iff_toNat_lt.mpr (same ▸ first)
      have read : Encoding.utf8.read byte (encodeChars rest) = .char value (encodeChars rest) := by
        simp [Encoding.read, readUtf8, announcedWidth, small, Piece.leading_narrow first same]
      rw [encoded, readChunk, read]
      simp only [allowedFirst, if_true, following, Option.map_some]

/-- A short text of narrow characters is a source of one chunk. -/
theorem Source.ofBytes_narrow {text : List Char} (narrow : IsNarrow text)
    (allowed : ∀ value ∈ text, isAllowed value = true) (short : text.length ≤ chunkSize) :
    Source.ofBytes (encodeChars text) = ⟨[text], true⟩ := by
  have length := length_encodeChars narrow
  have whole : (encodeChars text).take chunkSize = encodeChars text :=
    List.take_of_length_le (length ▸ short)
  have nothing : (encodeChars text).drop chunkSize = [] :=
    List.drop_of_length_le (length ▸ short)
  have unmarked : ∀ byte ∈ (encodeChars text).head?, byte.toNat < 128 := by
    cases text with
    | nil => nofun
    | cons value rest =>
      have first := narrow value List.mem_cons_self
      obtain ⟨byte, encoded, same⟩ := encodeChars_cons first rest
      rw [encoded]
      rintro byte ⟨⟩
      exact same ▸ first
  have following (bound : Nat) : readChunks .utf8 bound [] [] = ⟨[], true⟩ := by
    cases bound <;> rfl
  simp only [ofBytes, whole, nothing, Encoding.announced_narrow unmarked,
    Encoding.readChunk_narrow narrow allowed short, following]

/-! ## The characters of words -/

/-- The characters of outlines are narrow. -/
theorem narrow_of_isOutlineChar {value : Char} (inOutline : isOutlineChar value = true) :
    value.toNat < 128 := by
  have numbers := toNat_of_isOutlineChar inOutline
  omega

/-- A document may hold the characters of outlines. -/
theorem isAllowed_of_isOutlineChar {value : Char} (inOutline : isOutlineChar value = true) :
    isAllowed value = true :=
  forall_narrow (P := fun value => isOutlineChar value = true → isAllowed value = true)
    (by decide +kernel) (narrow_of_isOutlineChar inOutline) inOutline

/-- The characters of words are neither blanks nor signs, and are written as they are. -/
theorem plain_of_isWordChar {value : Char} (word : isWordChar value = true) :
    isBlank value = false ∧ isWritable value = true ∧ Shape.isLeadingSign value = false :=
  forall_narrow
    (P := fun value => isWordChar value = true →
      isBlank value = false ∧ isWritable value = true ∧ Shape.isLeadingSign value = false)
    (by decide +kernel) (narrow_of_isOutlineChar (isOutlineChar_of_isWordChar word)) word

/-- A character of words is none of the others. -/
theorem ne_of_isWordChar {value sign : Char} (word : isWordChar value = true)
    (foreign : isWordChar sign = false) : value ≠ sign := by
  rintro rfl
  rw [word] at foreign
  cases foreign

/-- A word is narrow. -/
theorem IsWord.narrow {word : List Char} (isWord : IsWord word) : IsNarrow word :=
  fun value member =>
    narrow_of_isOutlineChar (isOutlineChar_of_isWordChar (isWord.plain value member))

/-- Trimming does not change a word. -/
theorem IsWord.trim {word : List Char} (isWord : IsWord word) :
    trim (encodeChars word) = encodeChars word :=
  trim_encodeChars isWord.narrow fun value member =>
    (plain_of_isWordChar (isWord.plain value member)).1

/-- A word in bytes is not empty. -/
theorem IsWord.encoded_ne_nil {word : List Char} (isWord : IsWord word) :
    encodeChars word ≠ [] := by
  intro empty
  have length := length_encodeChars isWord.narrow
  rw [empty] at length
  exact isWord.nonempty (List.length_eq_zero_iff.mp length.symm)

/-- No character of a word satisfies a condition that only others satisfy. -/
theorem IsWord.any_eq_false {word : List Char} (isWord : IsWord word) {condition : Char → Bool}
    (foreign : ∀ value, isWordChar value = true → condition value = false) :
    word.any condition = false := by
  simp only [List.any_eq_false, Bool.not_eq_true]
  exact fun value member => foreign value (isWord.plain value member)

/-! ## Words without quotes -/

namespace Shape

/-- A word has no sign at its start. -/
theorem leadingSigns_word {word : List Char} (isWord : IsWord word) :
    leadingSigns word = (false, false) := by
  obtain ⟨first, rest, rfl, begins⟩ := isWord.first
  have plain := (plain_of_isWordChar begins).2.2
  have question : first ≠ '?' := ne_of_isWordChar begins (by decide)
  have colon : first ≠ ':' := ne_of_isWordChar begins (by decide)
  by_cases dash : first = '-'
  · subst dash
    obtain ⟨second, later, rfl, _⟩ := isWord.dashed rest rfl
    have word := isWord.plain second (by simp)
    simp [leadingSigns, isLeadingSign, atBlank, isSpaceOrTab_of_isWordChar word,
      isBreak_of_isWordChar word]
  · simp [leadingSigns, plain, question, colon, dash]

/-- A word has no sign behind its first character. -/
theorem laterSigns_word {word : List Char} (plain : ∀ value ∈ word, isWordChar value = true)
    (afterBlank : Bool) : laterSigns afterBlank word = (false, false) := by
  induction word generalizing afterBlank with
  | nil => rfl
  | cons value rest inductionHypothesis =>
    obtain ⟨first, others⟩ := List.forall_mem_cons.mp plain
    have unsigned : value ≠ ',' ∧ value ≠ '?' ∧ value ≠ '[' ∧ value ≠ ']' ∧ value ≠ '\x7b' ∧
        value ≠ '\x7d' ∧ value ≠ ':' ∧ value ≠ '#' := by
      refine ⟨?_, ?_, ?_, ?_, ?_, ?_, ?_, ?_⟩
      all_goals exact ne_of_isWordChar first (by decide)
    simp [laterSigns, inductionHypothesis others, unsigned]

/-- A word does not begin like a marker of a document. -/
theorem startsLikeMarker_word {word : List Char} (isWord : IsWord word) :
    startsLikeMarker word = false := by
  unfold startsLikeMarker
  split
  · obtain ⟨second, later, same, other⟩ := isWord.dashed _ rfl
    exact absurd (List.cons.inj same).1.symm other
  · exact absurd (isWord.plain '.' List.mem_cons_self) (by decide)
  · rfl

/-- No two neighbours satisfy conditions the first of which nothing satisfies. -/
theorem hasNeighbours_eq_false {first second : Char → Bool} {text : List Char}
    (never : ∀ value ∈ text, first value = false) : hasNeighbours first second text = false := by
  induction text with
  | nil => rfl
  | cons value rest inductionHypothesis =>
    obtain ⟨here, later⟩ := List.forall_mem_cons.mp never
    cases rest with
    | nil => rfl
    | cons next rest => simp [hasNeighbours, here, inductionHypothesis later]

/-- A word can stand without quotes. -/
theorem plainOutside_word {word : List Char} (isWord : IsWord word) :
    (ofText word).plainOutside = true := by
  have nonempty : word.isEmpty = false := by simpa using isWord.nonempty
  have unbroken : ∀ value ∈ word, isBreak value = false :=
    fun value member => isBreak_of_isWordChar (isWord.plain value member)
  have unspaced : ∀ value ∈ word, decide (value = ' ') = false :=
    fun value member => decide_eq_false (ne_of_isWordChar (isWord.plain value member) (by decide))
  have unblank : ∀ value ∈ word, (decide (value = ' ') || isBreak value) = false :=
    fun value member => Bool.or_eq_false_iff.mpr ⟨unspaced value member, unbroken value member⟩
  have unstarted {text : List Char}
      (unblank : ∀ value ∈ text, (decide (value = ' ') || isBreak value) = false) :
      startsWith (fun value => decide (value = ' ') || isBreak value) text = false := by
    cases text with
    | nil => rfl
    | cons value rest => exact unblank value List.mem_cons_self
  have lines : word.any isBreak = false := isWord.any_eq_false fun _ => isBreak_of_isWordChar
  have tabs : word.any (· = '\t') = false :=
    isWord.any_eq_false fun _ plain => decide_eq_false (ne_of_isWordChar plain (by decide))
  have special : (word.any fun value => value ≠ '\t' && !isWritable value) = false :=
    isWord.any_eq_false fun _ plain => by simp [(plain_of_isWordChar plain).2.1]
  simp only [ofText, nonempty, Bool.false_eq_true, if_false, lines, tabs, special,
    unstarted unblank, unstarted fun value member => unblank value (List.mem_reverse.mp member),
    hasNeighbours_eq_false unbroken, hasNeighbours_eq_false unspaced,
    startsLikeMarker_word isWord, leadingSigns_word isWord,
    laterSigns_word fun value member => isWord.plain value (List.mem_of_mem_drop member)]
  rfl

end Shape

/-- A word that means nothing but itself. -/
structure IsName (word : List Char) : Prop where
  isWord : IsWord word
  isText : TextField.readsAsText word = true

/-- The words of the program are names if they pass a test. -/
theorem isName_of_check {word : List Char}
    (checked : (word.all isWordChar && word.head?.any (· ≠ '-') &&
      TextField.readsAsText word) = true) : IsName word := by
  simp only [Bool.and_eq_true, List.all_eq_true] at checked
  obtain ⟨⟨plain, begins⟩, isText⟩ := checked
  refine ⟨⟨plain, ?_, ?_⟩, isText⟩
  · rintro rfl
    cases begins
  · rintro rest rfl
    cases begins

/-- A name is written as it is. -/
theorem IsName.textValue {word : List Char} (isName : IsName word) :
    Settings.textValue (encodeChars word) = word := by
  have isWord := isName.isWord
  have nonempty : word.isEmpty = false := by simpa using isWord.nonempty
  have unbroken : word.any (· = '\n') = false :=
    isWord.any_eq_false fun _ plain => decide_eq_false (ne_of_isWordChar plain (by decide))
  have wanted : TextField.wantedStyle word = .plain := by
    simp [TextField.wantedStyle, unbroken, isName.isText]
  have chosen : Shape.chosenStyle false false .plain word = .plain := by
    simp [Shape.chosenStyle, Shape.plainOutside_word isWord]
  simp [Settings.textValue, TextField.written, decodeChars?_encodeChars isWord.narrow, wanted,
    TextField.inStyle, chosen, Page.putScalar, nonempty, Page.putSign, Page.putAll]

/-- What is a text where timestamps count is one where they do not count. -/
theorem Meaning.ofText_of_text {text : List Char} (meant : Meaning.ofText true text = .text)
    (timestamps : Bool) : Meaning.ofText timestamps text = .text := by
  cases timestamps with
  | true => exact meant
  | false =>
    unfold Meaning.ofText at meant ⊢
    cases known : words.lookup text with
    | some meaning =>
      rw [known] at meant
      exact meant
    | none =>
      rw [known] at meant
      cases text with
      | nil => exact meant
      | cons first rest =>
        dsimp only at meant ⊢
        by_cases point : first = '.'
        · rw [if_pos point] at meant ⊢
          exact meant
        rw [if_neg point] at meant ⊢
        by_cases numeric : (first.isDigit || decide (first = '+') || decide (first = '-')) = true
        · rw [if_pos numeric] at meant ⊢
          by_cases timed : (true && Timestamp.isTimestamp (first :: rest)) = true
          · rw [if_pos timed] at meant
            cases meant
          · rw [if_neg timed] at meant
            exact meant
        · rw [if_neg numeric]

/-- A name means a text. -/
theorem IsName.meaning {word : List Char} (isName : IsName word) (timestamps : Bool) :
    Meaning.ofText timestamps word = .text := by
  have isText := isName.isText
  simp only [TextField.readsAsText, Bool.and_eq_true, decide_eq_true_eq] at isText
  exact Meaning.ofText_of_text isText.1.1 timestamps

end Document

/-- The names of the fields of a settings document. -/
def Settings.labels : List String :=
  ["list", "growth", "max_len", "string", "faults", "policy", "exit_code"]

namespace Document

/-- The name of a field of a settings document means nothing but itself. -/
theorem isName_label {label : String} (member : label ∈ Settings.labels) : IsName label.toList :=
  have checked : ∀ label ∈ Settings.labels, (label.toList.all isWordChar &&
      label.toList.head?.any (· ≠ '-') && TextField.readsAsText label.toList) = true := by decide
  isName_of_check (checked label member)

/-! ## Numbers -/

/-- With one digit more the value is multiplied by the base and the digit is
added. -/
theorem digitsValue?_append {base value : Nat} {digit : Char} (digits : List Char)
    (found : digitValue? digit = some value) (small : value < base) :
    digitsValue? base (digits ++ [digit]) =
      (digitsValue? base digits).map fun number => number * base + value := by
  simp only [digitsValue?, List.foldlM_append, List.foldlM_cons, List.foldlM_nil, found, small,
    if_true]
  cases List.foldlM (m := Option) _ 0 digits <;> rfl

/-- The digits below ten are read as themselves, and only zero is written as
zero. -/
theorem digitChar_decimal : ∀ digit < 10, digitValue? (Nat.digitChar digit) = some digit ∧
    (0 < digit → Nat.digitChar digit ≠ '0') := by
  decide

/-- The digits of a number write the number. -/
theorem digitsValue?_toDigits (number : Nat) :
    digitsValue? 10 (Nat.toDigits 10 number) = some number := by
  induction number using Nat.strongRecOn with
  | ind number inductionHypothesis =>
    by_cases small : number < 10
    · rw [Nat.toDigits_of_lt_base small, ← List.nil_append [_],
        digitsValue?_append [] (digitChar_decimal number small).1 small]
      simp [digitsValue?]
    · have last := Nat.mod_lt number (show 0 < 10 by decide)
      rw [Nat.toDigits_of_base_le (by decide) (by omega),
        digitsValue?_append _ (digitChar_decimal _ last).1 last,
        inductionHypothesis (number / 10) (by omega), Option.map_some]
      congr 1
      omega

/-- Only zero begins with a zero. -/
theorem toDigits_first {number : Nat} (positive : 0 < number) :
    ∃ first rest, Nat.toDigits 10 number = first :: rest ∧ first ≠ '0' := by
  induction number using Nat.strongRecOn with
  | ind number inductionHypothesis =>
    by_cases small : number < 10
    · exact ⟨_, [], Nat.toDigits_of_lt_base small, (digitChar_decimal number small).2 positive⟩
    · obtain ⟨first, rest, same, nonzero⟩ :=
        inductionHypothesis (number / 10) (by omega) (by omega)
      refine ⟨first, rest ++ [Nat.digitChar (number % 10)], ?_, nonzero⟩
      rw [Nat.toDigits_of_base_le (by decide) (by omega), same]
      rfl

/-- The digits of a number are read as the number, and in no other base. -/
theorem natural?_toDigits (number : Nat) : natural? (Nat.toDigits 10 number) = some number := by
  by_cases zero : number = 0
  · subst zero
    decide
  · obtain ⟨first, rest, same, nonzero⟩ := toDigits_first (Nat.pos_of_ne_zero zero)
    have decimal : naturalIn? 10 (first :: rest) = some number := by
      rw [← same, naturalIn?, digitsValue?_toDigits, same]
      rfl
    rw [same]
    unfold natural?
    split
    case h_8 => exact decimal
    all_goals
      next shape =>
        cases shape
        exact absurd rfl nonzero

/-- A number is written with decimal digits only. -/
theorem isDigit_toDigits (number : Nat) :
    ∀ digit ∈ Nat.toDigits 10 number, digit.isDigit = true :=
  fun _ member => Nat.isDigit_of_mem_toDigits (by decide) (by decide) member

/-- A number that is not negative is written as its digits. -/
theorem numberValue_nonneg {number : Int} (nonneg : ¬ number < 0) :
    Settings.numberValue number = Nat.toDigits 10 number.natAbs := by
  rw [Settings.numberValue, if_neg nonneg]
  rfl

/-- A negative number has a sign before its digits. -/
theorem numberValue_negative {number : Int} (negative : number < 0) :
    Settings.numberValue number = '-' :: Nat.toDigits 10 number.natAbs := by
  rw [Settings.numberValue, if_pos negative]
  rfl

/-- A number in decimal is the encoding of its word. -/
theorem decimal_eq (number : Int) : decimal number = encodeChars (Settings.numberValue number) := by
  unfold decimal Settings.numberValue
  split <;> rfl

/-- A number is written with digits and a sign. -/
theorem mem_numberValue {number : Int} {value : Char}
    (member : value ∈ Settings.numberValue number) : value = '-' ∨ value.isDigit = true := by
  by_cases negative : number < 0
  · rw [numberValue_negative negative] at member
    exact (List.mem_cons.mp member).imp_right (isDigit_toDigits _ value)
  · rw [numberValue_nonneg negative] at member
    exact .inr (isDigit_toDigits _ value member)

/-- Without a sign before it a number is read as it is. -/
theorem signed?_digits {read : List Char → Option Nat} {digits : List Char} {number : Nat}
    (all : ∀ digit ∈ digits, digit.isDigit = true) (found : read digits = some number)
    (holds : Word.holds number = true) : signed? read digits = some (number : Int) := by
  unfold signed?
  split
  · exact absurd (all '-' List.mem_cons_self) (by decide)
  · exact absurd (all '+' List.mem_cons_self) (by decide)
  · simp [found, holds]

/-- With a sign before it a number is read as the opposite one. -/
theorem signed?_negative {read : List Char → Option Nat} {digits : List Char} {number : Nat}
    (found : read digits = some number) (holds : Word.holds (-number) = true) :
    signed? read ('-' :: digits) = some (-number : Int) := by
  simp [signed?, found, holds]

/-- A written word is read as the same word. -/
theorem word?_numberValue {number : Int} (holds : Word.holds number = true) :
    word? natural? (Settings.numberValue number) = some number := by
  have signed : signed? natural? (Settings.numberValue number) = some number := by
    by_cases negative : number < 0
    · have value : -(number.natAbs : Int) = number := by omega
      rw [← value] at holds
      rw [numberValue_negative negative, signed?_negative (natural?_toDigits _) holds, value]
    · have value : (number.natAbs : Int) = number := by omega
      rw [← value] at holds
      rw [numberValue_nonneg negative,
        signed?_digits (isDigit_toDigits _) (natural?_toDigits _) holds, value]
  rw [word?, signed]
  rfl

/-- Whether a text starts like a number: with a digit, or with one behind a sign. -/
def startsNumber : List Char → Bool
  | '-' :: digit :: _ => digit.isDigit
  | first :: _ => first.isDigit
  | [] => false

/-- A written number starts like a number. -/
theorem startsNumber_numberValue (number : Int) :
    startsNumber (Settings.numberValue number) = true := by
  obtain ⟨first, rest, same⟩ := List.exists_cons_of_ne_nil (@Nat.toDigits_ne_nil number.natAbs 10)
  have digit := isDigit_toDigits number.natAbs first (by simp [same])
  by_cases negative : number < 0
  · rw [numberValue_negative negative, same]
    exact digit
  · rw [numberValue_nonneg negative, same]
    unfold startsNumber
    split
    · next shape =>
      cases shape
      exact absurd digit (by decide)
    · next shape =>
      cases shape
      exact digit
    · next shape => cases shape

/-- What starts like a number begins with a digit or a sign. -/
theorem first_of_startsNumber {first : Char} {rest : List Char}
    (numeric : startsNumber (first :: rest) = true) : first = '-' ∨ first.isDigit = true := by
  unfold startsNumber at numeric
  split at numeric
  · next shape =>
    cases shape
    exact .inl rfl
  · next shape =>
    cases shape
    exact .inr numeric
  · cases numeric

/-- What starts like a number and is no timestamp is read as a number. -/
theorem Meaning.ofText_number {text : List Char} (numeric : startsNumber text = true)
    (untimed : Timestamp.isTimestamp text = false) (timestamps : Bool) :
    Meaning.ofText timestamps text = Meaning.ofNumber text := by
  have others : ∀ word ∈ words, startsNumber word.1 = false := by decide
  have unknown : words.lookup text = none := by
    rw [List.lookup_eq_none_iff]
    intro word member
    refine bne_iff_ne.mpr ?_
    rintro rfl
    rw [others word member] at numeric
    cases numeric
  unfold Meaning.ofText
  rw [unknown]
  cases text with
  | nil => cases numeric
  | cons first rest =>
    have begins : (first.isDigit || first = '+' || first = '-') = true := by
      obtain dash | digit := first_of_startsNumber numeric
      · simp [dash]
      · simp [digit]
    have pointless : first ≠ '.' := by
      rintro rfl
      exact absurd begins (by decide)
    simp only [pointless, if_false, begins, if_true, untimed, Bool.and_false, Bool.false_eq_true]

/-- Digits alone are no timestamp, however many they are. -/
theorem isTimestamp_digits {digits : List Char} (all : ∀ digit ∈ digits, digit.isDigit = true) :
    Timestamp.isTimestamp digits = false := by
  have whole : digits.takeWhile Char.isDigit = digits := by
    rw [← List.append_nil digits, List.takeWhile_append_of_pos all]
    rfl
  have undated : Timestamp.takeDate digits = none := by
    simp only [Timestamp.takeDate, whole]
    split
    · next four =>
      rw [List.drop_of_length_le (Nat.le_of_eq four)]
      rfl
    · rfl
  rw [Timestamp.isTimestamp, undated]

/-- **A written word means the same integer**, whether timestamps count or not. -/
theorem ofText_numberValue {number : Int} (holds : Word.holds number = true) (timestamps : Bool) :
    Meaning.ofText timestamps (Settings.numberValue number) = .integer number := by
  have untimed : Timestamp.isTimestamp (Settings.numberValue number) = false := by
    by_cases negative : number < 0
    · rw [numberValue_negative negative]
      rfl
    · rw [numberValue_nonneg negative]
      exact isTimestamp_digits (isDigit_toDigits _)
  have plain : (Settings.numberValue number).filter (· ≠ '_') = Settings.numberValue number := by
    refine List.filter_eq_self.mpr fun value member => decide_eq_true ?_
    rintro rfl
    obtain dash | digit := mem_numberValue member
    · cases dash
    · cases digit
  rw [Meaning.ofText_number (startsNumber_numberValue number) untimed, Meaning.ofNumber, plain,
    word?_numberValue holds]

/-- A written number is a word of an outline. -/
theorem isWord_numberValue (number : Int) : IsWord (Settings.numberValue number) := by
  have nonempty := @Nat.toDigits_ne_nil number.natAbs 10
  have digits := isDigit_toDigits number.natAbs
  refine ⟨fun value member => ?_, ?_, fun rest same => ?_⟩
  · obtain rfl | digit := mem_numberValue member
    · rfl
    · simp [isWordChar, Char.isAlphanum, digit]
  · simp [Settings.numberValue, nonempty]
  · by_cases negative : number < 0
    · rw [numberValue_negative negative] at same
      obtain ⟨second, later, shape⟩ := List.exists_cons_of_ne_nil nonempty
      refine ⟨second, later, (List.cons.inj same).2 ▸ shape, ?_⟩
      rintro rfl
      exact absurd (digits '-' (by simp [shape])) (by decide)
    · rw [numberValue_nonneg negative] at same
      exact absurd (digits '-' (by simp [same])) (by decide)

/-- A written word of 64 bits has at most a sign and nineteen digits. -/
theorem length_numberValue {number : Int} (holds : Word.holds number = true) :
    (Settings.numberValue number).length ≤ 20 := by
  have small : number.natAbs < 10 ^ 19 := by
    obtain ⟨low, high⟩ := (Word.holds_iff number).mp holds
    unfold Word.smallest at low
    unfold Word.largest at high
    omega
  have digits := (Nat.length_toDigits_le_iff (b := 10) (by decide) (by decide)).mpr small
  by_cases negative : number < 0
  · rw [numberValue_negative negative, List.length_cons]
    omega
  · rw [numberValue_nonneg negative]
    omega

end Document

end ContainerKernel
