import Grading.Json.Token
import Grading.Json.Value
import Grading.Proofs.SummaryNumber

namespace Grading.Json

/-! The tokens of texts as they are written. A text can be cut behind each of its tokens, and spaces
between them make no difference. -/

section

variable {α β : Type} {first : Except Fault α} {next : α → Except Fault β} {value : α} {result : β}

theorem bind_eq_ok_iff :
    first >>= next = .ok result ↔ ∃ value, first = .ok value ∧ next value = .ok result := by
  cases first with
  | error fault => exact ⟨nofun, fun ⟨_, isOk, _⟩ => nomatch isOk⟩
  | ok value => exact ⟨fun isNext => ⟨value, rfl, isNext⟩, fun ⟨_, rfl, isNext⟩ => isNext⟩

theorem bind_eq_ok (isFirst : first = .ok value) (isNext : next value = .ok result) :
    first >>= next = .ok result := bind_eq_ok_iff.mpr ⟨value, isFirst, isNext⟩

end

/-! ## Taking tokens -/

section

variable {text rest : List Char} {digits : List Nat} {exponent : Option (Bool × List Nat)}
  {literal : Number.Literal} {negative : Bool}

theorem requiredDigits_eq_ok_iff : requiredDigits text = .ok (digits, rest) ↔
    scanDigits text = (digits, rest) ∧ digits ≠ [] := by
  rcases scanned : scanDigits text with ⟨_ | ⟨digit, found⟩, after⟩
  · cases after <;> simp +contextual [requiredDigits, scanned]
  · simp only [requiredDigits, scanned, Except.ok.injEq, Prod.mk.injEq]
    grind

theorem wholeDigits_eq_ok_iff : wholeDigits text = .ok (digits, rest) ↔
    requiredDigits text = .ok (digits, rest) ∧ ∀ digit more, digits ≠ 0 :: digit :: more := by
  rw [wholeDigits, bind_eq_ok_iff]
  constructor
  · rintro ⟨found, required, chosen⟩
    split at chosen
    · cases chosen
    · rename_i isWhole
      cases chosen
      exact ⟨required, fun digit more isZero => isWhole digit more rest (by rw [isZero])⟩
  · rintro ⟨required, isWhole⟩
    refine ⟨_, required, ?_⟩
    split
    · rename_i digit more after isZero
      exact absurd (Prod.mk.inj isZero).1 (isWhole digit more)
    · rfl

theorem length_of_requiredDigits (read : requiredDigits text = .ok (digits, rest)) :
    rest.length < text.length := by
  rcases requiredDigits_eq_ok_iff.mp read with ⟨scanned, filled⟩
  have whole := length_scanDigits text
  rw [scanned] at whole
  have := List.length_pos_of_ne_nil filled
  simp only at whole
  omega

theorem length_of_fractionDigits (read : fractionDigits text = .ok (digits, rest)) :
    rest.length ≤ text.length := by
  unfold fractionDigits at read
  split at read
  · exact Nat.le_succ_of_le (Nat.le_of_lt (length_of_requiredDigits read))
  · cases read
    exact Nat.le_refl _

theorem length_of_exponentDigits (read : exponentDigits text = .ok (exponent, rest)) :
    rest.length ≤ text.length := by
  unfold exponentDigits at read
  split at read
  · split at read
    · rcases bind_eq_ok_iff.mp read with ⟨found, required, isFound⟩
      cases isFound
      have shorter := length_of_requiredDigits required
      rw [List.length_cons]
      split at shorter <;> simp only [List.length_cons] at shorter ⊢ <;> omega
    · cases read
      exact Nat.le_refl _
  · cases read
    exact Nat.le_refl _

theorem length_of_scanLiteral (read : scanLiteral negative text = .ok (literal, rest)) :
    rest.length < text.length := by
  rcases bind_eq_ok_iff.mp read with ⟨⟨whole, behind⟩, isWhole, read⟩
  rcases bind_eq_ok_iff.mp read with ⟨⟨fraction, late⟩, isFraction, read⟩
  rcases bind_eq_ok_iff.mp read with ⟨⟨exponent, last⟩, isExponent, read⟩
  cases read
  have first := length_of_requiredDigits (wholeDigits_eq_ok_iff.mp isWhole).1
  have second := length_of_fractionDigits isFraction
  have third := length_of_exponentDigits isExponent
  omega

theorem length_scanNumber (negative : Bool) (text : List Char) :
    (scanNumber negative text).2.length ≤ text.length - 1 := by
  unfold scanNumber
  split
  · rename_i read
    exact Nat.le_sub_one_of_lt (length_of_scanLiteral read)
  · exact Nat.zero_le _

theorem length_scanWord (token : Token) (expected text : List Char) :
    (scanWord token expected text).2.length ≤ text.length := by
  fun_induction scanWord token expected text with
  | case1 => exact Nat.le_refl _
  | case2 => exact Nat.zero_le _
  | case3 expected character text induction => exact Nat.le_succ_of_le induction
  | case4 => exact Nat.zero_le _

theorem length_scanToken (character : Char) (rest : List Char) :
    (scanToken character rest).2.length ≤ rest.length := by
  unfold scanToken
  split
  case h_7 => exact length_scanText false [] rest
  case h_8 => exact length_scanWord _ _ rest
  case h_9 => exact length_scanWord _ _ rest
  case h_10 => exact length_scanWord _ _ rest
  case h_11 => exact Nat.le_trans (length_scanNumber true rest) (Nat.sub_le _ _)
  case h_12 =>
    split
    · exact length_scanNumber false (character :: rest)
    · exact Nat.zero_le _
  all_goals exact Nat.le_refl _

theorem tokensWithin_eq {fuel other : Nat} (enough : text.length ≤ fuel)
    (also : text.length ≤ other) : tokensWithin fuel text = tokensWithin other text := by
  induction fuel generalizing other text with
  | zero =>
      cases List.eq_nil_of_length_eq_zero (Nat.le_zero.mp enough)
      cases other <;> rfl
  | succ fuel induction =>
      cases text with
      | nil => cases other <;> rfl
      | cons character rest =>
          cases other with
          | zero => cases also
          | succ other =>
              rw [List.length_cons, Nat.succ_le_succ_iff] at enough also
              have shorter := length_scanToken character rest
              rw [tokensWithin, tokensWithin, induction enough also]
              dsimp only
              rw [induction (Nat.le_trans shorter enough) (Nat.le_trans shorter also)]

theorem tokens_cons (character : Char) (rest : List Char) :
    tokens (character :: rest) =
      if isSpace character then tokens rest
      else (scanToken character rest).1 :: tokens (scanToken character rest).2 := by
  rw [tokens, List.length_cons, tokensWithin]
  dsimp only
  rw [tokensWithin_eq (length_scanToken character rest) (Nat.le_refl _)]
  rfl

theorem tokens_of_scanToken {character : Char} {token : Token} (visible : isSpace character = false)
    (scanned : scanToken character text = (token, rest)) :
    tokens (character :: text) = token :: tokens rest := by
  rw [tokens_cons, visible, scanned]
  rfl

theorem tokens_spaces {spaces : List Char} (areSpaces : ∀ character ∈ spaces, isSpace character)
    (rest : List Char) : tokens (spaces ++ rest) = tokens rest := by
  induction spaces with
  | nil => rfl
  | cons character spaces induction =>
      rcases List.forall_mem_cons.mp areSpaces with ⟨isFirst, areLater⟩
      rw [List.cons_append, tokens_cons, if_pos isFirst, induction areLater]

end

/-! ## Texts in quotes -/

theorem hexValue?_controlEscape {code : Nat} (isControl : code < 0x20) :
    Text.hexValue? ['0', '0', Text.hexDigit (code / 16), Text.hexDigit (code % 16)] =
      some code := by
  have all : ∀ code < 0x20, Text.hexValue?
      ['0', '0', Text.hexDigit (code / 16), Text.hexDigit (code % 16)] = some code := by decide
  exact all code isControl

theorem readEscape_control {character : Char} (isControl : character.toNat < 0x20)
    (rest : List Char) :
    readEscape ('0' :: '0' :: Text.hexDigit (character.toNat / 16) ::
      Text.hexDigit (character.toNat % 16) :: rest) = .character character rest := by
  have notLeading : isLeadingHalf character.toNat = false := by
    rw [isLeadingHalf, Bool.and_eq_false_iff, decide_eq_false_iff_not]
    omega
  have notTrailing : isTrailingHalf character.toNat = false := by
    rw [isTrailingHalf, Bool.and_eq_false_iff, decide_eq_false_iff_not]
    omega
  rw [readEscape, hexEscape, hexValue?_controlEscape isControl]
  simp only [notLeading, notTrailing, Bool.false_eq_true, if_false, Char.ofNat_toNat]

theorem scanText_letter {letter value : Char} (isEscape : escaped? letter = some value)
    (read rest : List Char) :
    scanText false read ('\\' :: letter :: rest) = scanText false (value :: read) rest := by
  have notHex : letter ≠ 'u' := by
    rintro rfl
    cases isEscape
  rw [scanText, isEscape]
  exact notHex

theorem scanText_plain {character : Char} (notQuote : character ≠ '"') (notSlash : character ≠ '\\')
    (notControl : ¬character.toNat < 0x20) (read rest : List Char) :
    scanText false read (character :: rest) = scanText false (character :: read) rest := by
  rw [scanText, if_neg notControl]
  · exact notQuote
  · exact fun isSlash _ => notSlash isSlash
  · exact fun _ isSlash _ => notSlash isSlash
  · exact fun _ _ isSlash _ => notSlash isSlash

theorem scanText_controlEscape {character : Char} (isControl : character.toNat < 0x20)
    (read rest : List Char) :
    scanText false read (Value.controlEscape character.toNat ++ rest) =
      scanText false (character :: read) rest := by
  have escape := readEscape_control isControl rest
  rw [Value.controlEscape, List.cons_append, List.cons_append, scanText]
  split
  · rename_i isEscape
    cases escape.symm.trans isEscape
    rfl
  · rename_i isEscape
    cases escape.symm.trans isEscape
  · rename_i isEscape
    cases escape.symm.trans isEscape

/-- A character is read back from what is written for it. -/
theorem scanText_escape (read : List Char) (character : Char) (rest : List Char) :
    scanText false read (Value.escape character ++ rest) =
      scanText false (character :: read) rest := by
  unfold Value.escape
  split
  case h_8 notQuote notSlash _ _ _ _ _ =>
    split
    · rename_i isControl
      exact scanText_controlEscape isControl read rest
    · rename_i notControl
      exact scanText_plain notQuote notSlash notControl read rest
  all_goals exact scanText_letter rfl read rest

theorem scanText_flatMap_escape (read text rest : List Char) :
    scanText false read (text.flatMap Value.escape ++ '"' :: rest) =
      (.text (String.ofList (read.reverse ++ text)), rest) := by
  induction text generalizing read with
  | nil => rw [List.flatMap_nil, List.nil_append, scanText, List.append_nil]; rfl
  | cons character text induction =>
      rw [List.flatMap_cons, List.append_assoc, scanText_escape, induction, List.reverse_cons,
        List.append_assoc, List.singleton_append]

theorem tokens_quoted (text : String) (rest : List Char) :
    tokens (Value.quoted text ++ rest) = .text text :: tokens rest := by
  rw [Value.quoted, List.cons_append, List.cons_append, List.append_assoc, List.singleton_append]
  refine tokens_of_scanToken (by decide) ?_
  have scanned := scanText_flatMap_escape [] text.toList rest
  rw [List.reverse_nil, List.nil_append, String.ofList_toList] at scanned
  exact scanned

/-! ## Words -/

theorem scanWord_append (token : Token) (word rest : List Char) :
    scanWord token word (word ++ rest) = (token, rest) := by
  induction word with
  | nil => rfl
  | cons letter word induction =>
      rw [List.cons_append, scanWord, if_pos rfl, induction]

theorem tokens_null (rest : List Char) : tokens ("null".toList ++ rest) = .null :: tokens rest :=
  tokens_of_scanToken (by decide) (scanWord_append .null "ull".toList rest)

theorem tokens_true (rest : List Char) :
    tokens ("true".toList ++ rest) = .boolean true :: tokens rest :=
  tokens_of_scanToken (by decide) (scanWord_append (.boolean true) "rue".toList rest)

theorem tokens_false (rest : List Char) :
    tokens ("false".toList ++ rest) = .boolean false :: tokens rest :=
  tokens_of_scanToken (by decide) (scanWord_append (.boolean false) "alse".toList rest)

/-! ## Numbers -/

/-- Whether a number ends where the text begins. -/
def EndsNumber (rest : List Char) : Prop :=
  ∀ character ∈ rest.head?,
    character.isDigit = false ∧ character ≠ '.' ∧ character ≠ 'e' ∧ character ≠ 'E'

theorem endsNumber_nil : EndsNumber [] := fun _ isHead => nomatch isHead

/-- What a digit stands for. -/
def digitOf (character : Char) : Nat := character.toNat - '0'.toNat

theorem eq_zero_of_digitOf {character : Char} (isDigit : character.isDigit = true)
    (isZero : digitOf character = 0) : character = '0' := by
  simp only [Char.isDigit, Bool.and_eq_true, decide_eq_true_eq, ge_iff_le,
    UInt32.le_iff_toNat_le] at isDigit
  have least : 48 ≤ character.toNat := isDigit.1
  have most : character.toNat - 48 = 0 := isZero
  apply Char.toNat_inj.mp
  change character.toNat = 48
  omega

section

variable {digits rest : List Char} {value : Nat}

theorem scanDigits_append (areDigits : ∀ character ∈ digits, character.isDigit = true)
    (ends : EndsNumber rest) : scanDigits (digits ++ rest) = (digits.map digitOf, rest) := by
  induction digits with
  | nil =>
      cases rest with
      | nil => rfl
      | cons character rest =>
          have notDigit := (ends character rfl).1
          simp [scanDigits, Text.digit?, notDigit]
  | cons character digits induction =>
      rcases List.forall_mem_cons.mp areDigits with ⟨isDigit, areLater⟩
      rw [List.cons_append, scanDigits, Text.digit?, if_pos isDigit, induction areLater]
      rfl

theorem head?_toDigits_ne (positive : 0 < value) : (Nat.toDigits 10 value).head? ≠ some '0' := by
  induction value using Nat.strongRecOn with
  | ind value induction =>
      rw [Nat.toDigits_eq_if (by decide)]
      split
      · rename_i below
        have all : ∀ value < 10, 0 < value → [value.digitChar].head? ≠ some '0' := by decide
        exact all value below positive
      · rw [List.head?_append_of_ne_nil _ Nat.toDigits_ne_nil]
        exact induction (value / 10) (by omega) (by omega)

/-- Only zero is written with a zero in front. -/
theorem map_toDigits_ne (value digit : Nat) (more : List Nat) :
    (Nat.toDigits 10 value).map digitOf ≠ 0 :: digit :: more := by
  intro leads
  rcases List.map_eq_cons_iff.mp leads with ⟨first, others, isText, isZero, later⟩
  have isDigit : first.isDigit = true :=
    Text.isDigit_of_mem_toDigits (isText ▸ List.mem_cons_self)
  rcases Nat.eq_zero_or_pos value with nothing | positive
  · rw [nothing, Nat.toDigits_zero] at isText
    cases isText
    cases later
  · apply head?_toDigits_ne positive
    rw [isText, List.head?_cons, eq_zero_of_digitOf isDigit isZero]

theorem scanLiteral_toDigits (negative : Bool) (value : Nat) (ends : EndsNumber rest) :
    scanLiteral negative (Nat.toDigits 10 value ++ rest) =
      .ok (⟨negative, (Nat.toDigits 10 value).map digitOf, [], none⟩, rest) := by
  have areDigits : ∀ character ∈ Nat.toDigits 10 value, character.isDigit = true :=
    fun _ => Text.isDigit_of_mem_toDigits
  have isWhole : wholeDigits (Nat.toDigits 10 value ++ rest) =
      .ok ((Nat.toDigits 10 value).map digitOf, rest) := by
    refine wholeDigits_eq_ok_iff.mpr ⟨requiredDigits_eq_ok_iff.mpr ?_, map_toDigits_ne value⟩
    exact ⟨scanDigits_append areDigits ends, by simp [Nat.toDigits_ne_nil]⟩
  have noFraction : fractionDigits rest = .ok ([], rest) := by
    unfold fractionDigits
    split
    · exact absurd rfl (ends '.' rfl).2.1
    · rfl
  have noExponent : exponentDigits rest = .ok (none, rest) := by
    unfold exponentDigits
    split
    · rename_i mark rest
      rcases ends mark rfl with ⟨-, -, notSmall, notCapital⟩
      rw [if_neg (not_or.mpr ⟨notSmall, notCapital⟩)]
    · rfl
  exact bind_eq_ok isWhole (bind_eq_ok noFraction (bind_eq_ok noExponent rfl))

theorem le_ofDigitChars (digits : List Char) (value : Nat) :
    value ≤ Nat.ofDigitChars 10 digits value := by
  induction digits generalizing value with
  | nil => exact Nat.le_refl _
  | cons character digits induction =>
      rw [Nat.ofDigitChars_cons]
      have := induction (10 * value + (character.toNat - '0'.toNat))
      omega

theorem leading_map_digitOf (below : Nat.ofDigitChars 10 digits value < Nat.pow 2 64) :
    Number.leading value (digits.map digitOf) = (Nat.ofDigitChars 10 digits value, 0) := by
  induction digits generalizing value with
  | nil => rfl
  | cons character digits induction =>
      rw [Nat.ofDigitChars_cons] at below ⊢
      have fits := Nat.lt_of_le_of_lt (le_ofDigitChars _ _) below
      rw [List.map_cons, Number.leading, Number.appendDigit?, digitOf, if_pos fits]
      exact induction below

theorem leading_toDigits (below : value < Nat.pow 2 64) :
    Number.leading 0 ((Nat.toDigits 10 value).map digitOf) = (value, 0) := by
  have isValue := Nat.ofDigitChars_ten_toDigits (n := value)
  rw [leading_map_digitOf (by rwa [isValue]), isValue]

theorem scanNumber_natural (below : value < Nat.pow 2 64) (ends : EndsNumber rest) :
    scanNumber false (Nat.toDigits 10 value ++ rest) = (.number (.natural value), rest) := by
  rw [scanNumber, scanLiteral_toDigits false value ends]
  simp [Number.ofLiteral?, leading_toDigits below]

theorem scanNumber_negative (positive : 0 < value) (bound : value ≤ Nat.pow 2 63)
    (ends : EndsNumber rest) :
    scanNumber true (Nat.toDigits 10 value ++ rest) = (.number (.negative value), rest) := by
  have below : value < Nat.pow 2 64 := Nat.lt_of_le_of_lt bound (by decide)
  rw [scanNumber, scanLiteral_toDigits true value ends]
  simp [Number.ofLiteral?, leading_toDigits below, positive, bound]

theorem scanToken_of_isDigit {character : Char} (isDigit : character.isDigit = true)
    (rest : List Char) : scanToken character rest = scanNumber false (character :: rest) := by
  unfold scanToken
  split
  case h_12 => rw [if_pos isDigit]
  all_goals exact absurd isDigit (by decide)

theorem isSpace_of_isDigit {character : Char} (isDigit : character.isDigit = true) :
    isSpace character = false := by
  rw [Bool.eq_false_iff]
  intro isBlank
  simp only [isSpace, Bool.or_eq_true, beq_iff_eq] at isBlank
  rcases isBlank with ((rfl | rfl) | rfl) | rfl <;> exact absurd isDigit (by decide)

theorem tokens_natural (below : value < Nat.pow 2 64) (ends : EndsNumber rest) :
    tokens ((Number.natural value).text.toList ++ rest) =
      .number (.natural value) :: tokens rest := by
  have scanned := scanNumber_natural below ends
  rw [Number.text, Text.toList_toString]
  rcases isText : Nat.toDigits 10 value with _ | ⟨character, digits⟩
  · exact absurd isText Nat.toDigits_ne_nil
  · have isDigit : character.isDigit = true :=
      Text.isDigit_of_mem_toDigits (isText ▸ List.mem_cons_self)
    rw [isText, List.cons_append] at scanned
    rw [List.cons_append]
    exact tokens_of_scanToken (isSpace_of_isDigit isDigit)
      ((scanToken_of_isDigit isDigit _).trans scanned)

theorem tokens_negative (positive : 0 < value) (bound : value ≤ Nat.pow 2 63)
    (ends : EndsNumber rest) :
    tokens ((Number.negative value).text.toList ++ rest) =
      .number (.negative value) :: tokens rest := by
  rw [Number.text, String.toList_append, Text.toList_toString, List.append_assoc]
  exact tokens_of_scanToken (by decide) (scanNumber_negative positive bound ends)

end

end Grading.Json
