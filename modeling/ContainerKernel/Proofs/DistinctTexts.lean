import ContainerKernel.Proofs.PlainWords

/-!
# Numbers and bytes that are written differently

Messages write numbers in decimal and bytes between quotes, and from the text one can
tell what was written. For numbers this rests on the digits, and on the sign being no
digit. A character between single quotes is shown in one of four ways, and the first two bytes
tell which (`QuoteWay.ofBytes`): only an escape begins with a backslash, and the byte
behind it is a quote or a backslash, the letter of a control character, or the mark of a
number in hexadecimal. These are all different, so the ways do not get mixed up, and
within each of them what follows tells the character.
-/

namespace ContainerKernel

open Document

/-! ## Numbers -/

/-- The digits of a number tell the number. -/
theorem toDigits_injective {first second : Nat}
    (same : Nat.toDigits 10 first = Nat.toDigits 10 second) : first = second := by
  rw [← @Nat.ofDigitChars_ten_toDigits first, same, Nat.ofDigitChars_ten_toDigits]

/-- The sign is no digit. -/
theorem sign_not_mem_toDigits (number : Nat) : '-' ∉ Nat.toDigits 10 number := by
  intro member
  have digit := isDigit_toDigits number '-' member
  revert digit
  decide

/-- Different numbers are written differently. -/
theorem decimal_injective {first second : Int} (same : decimal first = decimal second) :
    first = second := by
  rw [decimal_eq, decimal_eq] at same
  have chars := encodeChars_injective same
  by_cases negative : first < 0 <;> by_cases negativeToo : second < 0
  · rw [numberValue_negative negative, numberValue_negative negativeToo] at chars
    have digits := toDigits_injective (List.cons.inj chars).2
    omega
  · rw [numberValue_negative negative, numberValue_nonneg negativeToo] at chars
    exact absurd (chars ▸ List.mem_cons_self) (sign_not_mem_toDigits second.natAbs)
  · rw [numberValue_nonneg negative, numberValue_negative negativeToo] at chars
    exact absurd (chars.symm ▸ List.mem_cons_self) (sign_not_mem_toDigits first.natAbs)
  · rw [numberValue_nonneg negative, numberValue_nonneg negativeToo] at chars
    have digits := toDigits_injective chars
    omega

/-- A number in decimal begins with the sign or with a digit. -/
theorem decimal_lead (number : Int) :
    ∃ lead rest, decimal number = lead :: rest ∧
      (lead = 45 ∨ 48 ≤ lead.toNat ∧ lead.toNat ≤ 57) := by
  have numeric := startsNumber_numberValue number
  rw [decimal_eq]
  cases chars : Settings.numberValue number with
  | nil =>
    rw [chars] at numeric
    cases numeric
  | cons value rest =>
    rw [chars] at numeric
    obtain rfl | digit := first_of_startsNumber numeric
    · exact ⟨45, _, rfl, .inl rfl⟩
    · have bounds : 48 ≤ value.toNat ∧ value.toNat ≤ 57 := Char.isDigit_iff_toNat.mp digit
      have narrow : value.toNat < 128 := by omega
      obtain ⟨lead, encoded, same⟩ := encodeChars_cons narrow rest
      exact ⟨lead, _, encoded, .inr (same ▸ bounds)⟩

/-! ## Characters between quotes -/

/-- The first bytes of a text tell its first character. -/
theorem utf8EncodeChar_lead {first second : Char} {rest others : Bytes}
    (same : String.utf8EncodeChar first ++ rest = String.utf8EncodeChar second ++ others) :
    first = second := by
  have decoded := congrArg (fun bytes => bytes.toByteArray.utf8DecodeChar? 0) same
  simp only [List.toByteArray_append, ByteArray.utf8DecodeChar?_utf8EncodeChar_append] at decoded
  exact Option.some.inj decoded

/-- Hexadecimal digits are different. -/
theorem hexDigit_injective : ∀ first < 16, ∀ second < 16,
    hexDigit first = hexDigit second → first = second := by
  decide

/-- As many digits as a number has tell the number. -/
theorem hexDigits_injective {width first second : Nat} (fits : first < Nat.pow 16 width)
    (fitsToo : second < Nat.pow 16 width)
    (same : hexDigits width first = hexDigits width second) : first = second := by
  induction width generalizing first second with
  | zero =>
    have none : Nat.pow 16 0 = 1 := rfl
    omega
  | succ width inductionHypothesis =>
    have more : Nat.pow 16 (width + 1) = Nat.pow 16 width * 16 := rfl
    obtain ⟨higher, lowest⟩ := List.append_inj' same rfl
    have last := hexDigit_injective _ (Nat.mod_lt first (by decide)) _
      (Nat.mod_lt second (by decide)) (List.cons.inj lowest).1
    have others := inductionHypothesis (by omega) (by omega) higher
    omega

/-- The letters of control characters tell the character. -/
theorem controlLetter?_injective {first second : Char} {letter : UInt8}
    (has : controlLetter? first = some letter) (hasToo : controlLetter? second = some letter) :
    first = second := by
  apply Char.toNat_inj.mp
  unfold controlLetter? at has hasToo
  split at has <;> cases has <;> split at hasToo <;> simp_all

/-- The ways to show a character between quotes: as it is, behind a backslash, by a letter
behind a backslash, or by its number. -/
inductive QuoteWay where
  | plain
  | escaped
  | letter
  | number
deriving DecidableEq, Repr

/-- The way in which bytes show a character. -/
def QuoteWay.ofBytes : Bytes → QuoteWay
  | 92 :: mark :: _ =>
    if mark = 39 ∨ mark = 92 then escaped
    else if mark = 120 ∨ mark = 117 ∨ mark = 85 then number
    else letter
  | _ => plain

/-- How many hexadecimal digits follow a mark. -/
def hexWidth (mark : UInt8) : Nat :=
  if mark = 120 then 2 else if mark = 117 then 4 else 8

/-- The bytes show the character in the given way. -/
inductive Shown (value : Char) (bytes : Bytes) : QuoteWay → Prop where
  | plain (same : bytes = String.utf8EncodeChar value) : Shown value bytes .plain
  | escaped (same : bytes = 92 :: String.utf8EncodeChar value) : Shown value bytes .escaped
  | letter {letter : UInt8} (has : controlLetter? value = some letter)
      (same : bytes = [92, letter]) : Shown value bytes .letter
  | number (mark : UInt8) (fits : value.toNat < Nat.pow 16 (hexWidth mark))
      (same : bytes = 92 :: mark :: hexDigits (hexWidth mark) value.toNat) :
      Shown value bytes .number

/-- Only a backslash has a backslash for its first byte. -/
theorem ofBytes_plain {value : Char} (other : value ≠ '\\') :
    QuoteWay.ofBytes (String.utf8EncodeChar value) = .plain := by
  unfold QuoteWay.ofBytes
  split
  · next mark rest backslash =>
    have same : String.utf8EncodeChar value ++ [] =
        String.utf8EncodeChar '\\' ++ mark :: rest := by
      rw [backslash, List.append_nil]
      rfl
    exact absurd (utf8EncodeChar_lead same) other
  · rfl

/-- The letters of control characters are none of the other marks. -/
theorem ofBytes_letter {value : Char} {letter : UInt8}
    (has : controlLetter? value = some letter) : QuoteWay.ofBytes [92, letter] = .letter := by
  unfold controlLetter? at has
  split at has <;> cases has <;> rfl

/-- A character between single quotes is shown in the way that its bytes tell. -/
theorem shown_quoteChar (value : Char) :
    Shown value (quoteChar '\'' value) (QuoteWay.ofBytes (quoteChar '\'' value)) := by
  unfold quoteChar
  split
  · next either =>
    have way : QuoteWay.ofBytes (92 :: String.utf8EncodeChar value) = .escaped := by
      obtain rfl | rfl := either <;> rfl
    rw [way]
    exact .escaped rfl
  · next neither =>
    split
    · rw [ofBytes_plain fun same => neither (.inr same)]
      exact .plain rfl
    · split
      · next letter has =>
        rw [ofBytes_letter has]
        exact .letter has rfl
      · have word : value.toNat < 4294967296 := UInt32.toNat_lt value.val
        split
        · exact .number 120 (by simp [hexWidth]; omega) rfl
        · split
          · exact .number 117 (by simp [hexWidth]; omega) rfl
          · exact .number 85 (by simp [hexWidth]; omega) rfl

/-- In one way different characters are shown differently. -/
theorem Shown.injective {first second : Char} {bytes : Bytes} {way : QuoteWay}
    (shown : Shown first bytes way) (shownToo : Shown second bytes way) : first = second := by
  cases shown with
  | plain same =>
    cases shownToo with
    | plain sameToo => exact utf8EncodeChar_lead (congrArg (· ++ []) (same.symm.trans sameToo))
  | escaped same =>
    cases shownToo with
    | escaped sameToo =>
      have tails := (List.cons.inj (same.symm.trans sameToo)).2
      exact utf8EncodeChar_lead (congrArg (· ++ []) tails)
  | letter has same =>
    cases shownToo with
    | letter hasToo sameToo =>
      cases same.symm.trans sameToo
      exact controlLetter?_injective has hasToo
  | number mark fits same =>
    cases shownToo with
    | number markToo fitsToo sameToo =>
      obtain ⟨marks, digits⟩ := List.cons.inj (List.cons.inj (same.symm.trans sameToo)).2
      subst marks
      exact Char.toNat_inj.mp (hexDigits_injective fits fitsToo digits)

/-- Different characters are shown differently between single quotes. -/
theorem quoteChar_injective {first second : Char}
    (same : quoteChar '\'' first = quoteChar '\'' second) : first = second := by
  have shown := shown_quoteChar first
  rw [same] at shown
  exact shown.injective (shown_quoteChar second)

/-- The characters of bytes have the numbers of the bytes. -/
theorem toNat_ofNat_byte {number : Nat} (small : number < 256) :
    (Char.ofNat number).toNat = number := by
  have valid : number.isValidChar := .inl (by omega)
  delta Char.ofNat
  rw [dif_pos valid]
  rfl

/-- Different bytes are quoted differently. -/
theorem quotedByte_injective {first second : UInt8}
    (same : quotedByte first = quotedByte second) : first = second := by
  have shown := List.append_cancel_left (List.append_cancel_right same)
  have chars := congrArg Char.toNat (quoteChar_injective shown)
  rw [toNat_ofNat_byte first.toNat_lt, toNat_ofNat_byte second.toNat_lt] at chars
  exact UInt8.toNat_inj.mp chars

end ContainerKernel
