import Mathlib.Tactic.Common
import Pagewise.Json.Token
import Pagewise.Json.Printer

/-!
# Printed text, token by token

What is printed in front of a text is cut off as the tokens that were printed, and the cut is
clean: the rest of the text is left as it is. For a string that is so because of its escapes, for a
numeral because punctuation follows it.

* `scanString?_escaped`: an escaped string is read back, whatever characters it has.
* `scan?_printInt`: an integer of 64 bits is read back.
* `Cuts`: a text with its tokens, whatever follows. `Cuts.append`, `Cuts.bracketed` and
  `cuts_printMember` put texts together.
-/

namespace Pagewise.Json

/-! ## Strings -/

/-- The escape of a control character is read as its number. -/
theorem hexNumber?_control : ∀ n < 32,
    Text.hexNumber? ['0', '0', Text.hexDigit (n / 16), Text.hexDigit (n % 16)] = some n := by
  decide

theorem decode?_unit_control {n : Nat} (control : n < 32) (rest : List Piece) :
    Piece.decode? (.unit n :: rest) = (Piece.decode? rest).map (Char.ofNat n :: ·) := by
  have low : Piece.isLow n = false := by simp [Piece.isLow]; omega
  have high : Piece.isHigh n = false := by simp [Piece.isHigh]; omega
  rw [Piece.decode?.eq_def]
  simp [low, high]

section Characters

variable {c e : Char} {text rest : List Char} {pieces : List Piece}

theorem scanString?_letter (he : escaped? e = some c)
    (h : scanString? text = some (pieces, rest)) :
    scanString? ('\\' :: e :: text) = some (.char c :: pieces, rest) := by
  rw [scanString?, he, h]
  · rfl
  · rintro _ _ _ _ _ rfl -
    exact absurd he nofun

/-- **One escaped character is one piece of a string**, which stands for that character. -/
theorem scanString?_escapeChar (c : Char) (h : scanString? text = some (pieces, rest)) :
    ∃ piece, scanString? (escapeChar c ++ text) = some (piece :: pieces, rest) ∧
      Piece.decode? (piece :: pieces) = (Piece.decode? pieces).map (c :: ·) := by
  unfold escapeChar
  -- the seven characters that are escaped by a letter or by themselves
  iterate 7
    split
    · subst c
      exact ⟨.char _, scanString?_letter rfl h, rfl⟩
  split
  case isTrue control =>
    refine ⟨.unit c.toNat, ?_, ?_⟩
    · simp only [List.cons_append, List.nil_append]
      rw [scanString?, hexNumber?_control _ control, h]
      rfl
    · rw [decode?_unit_control control, Char.ofNat_toNat]
  case isFalse =>
    refine ⟨.char c, ?_, rfl⟩
    rw [List.singleton_append, scanString?]
    all_goals simp_all

end Characters

/-- **An escaped string ends at its own closing quote** and stands for the string. -/
theorem scanString?_escaped (s rest : List Char) :
    ∃ pieces, scanString? (s.flatMap escapeChar ++ '"' :: rest) = some (pieces, rest) ∧
      Piece.decode? pieces = some s := by
  induction s with
  | nil => exact ⟨[], rfl, rfl⟩
  | cons c s ih =>
    obtain ⟨pieces, hscan, hdecode⟩ := ih
    obtain ⟨piece, hpiece, hadd⟩ := scanString?_escapeChar c hscan
    refine ⟨piece :: pieces, ?_, ?_⟩
    · rw [List.flatMap_cons, List.append_assoc, hpiece]
    · rw [hadd, hdecode, Option.map_some]

/-! ## What follows a value -/

/-- Nothing in front of a text goes on in it: the text is over, or begins with punctuation. -/
def Breaks (text : List Char) : Prop :=
  ∀ c ∈ text.head?, (punctuation? c).isSome

theorem punctuation?_cases {c : Char} (h : (punctuation? c).isSome) :
    c = '[' ∨ c = ']' ∨ c = '\x7b' ∨ c = '\x7d' ∨ c = ',' ∨ c = ':' := by
  unfold punctuation? at h
  grind

theorem Breaks.nil : Breaks [] :=
  nofun

theorem Breaks.cons {c : Char} {t : Token} (hc : punctuation? c = some t) (text : List Char) :
    Breaks (c :: text) := by
  rintro _ ⟨⟩
  rw [hc]
  rfl

theorem Breaks.append {a b : List Char} (ha : Breaks a) (hb : Breaks b) : Breaks (a ++ b) := by
  cases a with
  | nil => exact hb
  | cons c a => exact ha

/-! ## Numerals -/

theorem isDigit_of_mem_toDigits {n : Nat} {c : Char} (h : c ∈ Nat.toDigits 10 n) :
    Decimal.isDigit c := by
  have := Nat.isDigit_of_mem_toDigits (by decide) (by decide) h
  simpa [Decimal.isDigit, Char.isDigit, Char.le_def] using this

theorem toDigits_eq_cons (n : Nat) :
    ∃ c digits, Nat.toDigits 10 n = c :: digits ∧ Decimal.isDigit c := by
  cases h : Nat.toDigits 10 n with
  | nil => exact absurd h Nat.toDigits_ne_nil
  | cons c digits => exact ⟨c, digits, rfl, isDigit_of_mem_toDigits (h ▸ List.mem_cons_self)⟩

theorem head?_toDigits {n : Nat} (positive : 0 < n) : (Nat.toDigits 10 n).head? ≠ some '0' := by
  induction n using Nat.strongRecOn with
  | ind n ih =>
    rw [Nat.toDigits_eq_if (by decide)]
    split
    case isTrue small => simpa using Nat.ne_of_gt positive
    case isFalse large =>
      have shorter := ih (n / 10) (by omega) (by omega)
      obtain ⟨c, digits, heq, -⟩ := toDigits_eq_cons (n / 10)
      rw [heq] at shorter ⊢
      exact shorter

/-- Only zero is written with a zero in front. -/
theorem length_toDigits_of_head? {n : Nat} (h : (Nat.toDigits 10 n).head? = some '0') :
    (Nat.toDigits 10 n).length ≤ 1 := by
  rcases Nat.eq_zero_or_pos n with rfl | positive
  · exact Nat.le_refl 1
  · exact absurd h (head?_toDigits positive)

/-- Digits are all taken in while the number that they stand for fits into 64 bits. -/
theorem accumulate_eq {n : Nat} {digits : List Char}
    (fits : Nat.ofDigitChars 10 digits n ≤ maxUnsigned 64) :
    Numeral.accumulate n digits = (Nat.ofDigitChars 10 digits n, []) := by
  induction digits generalizing n with
  | nil => rfl
  | cons c digits ih =>
    rw [Nat.ofDigitChars_cons] at fits ⊢
    have : 10 * n + Decimal.digitValue c ≤ maxUnsigned 64 := by
      refine Nat.le_trans ?_ fits
      rw [Nat.ofDigitChars_eq_ofDigitChars_zero]
      exact Nat.le_trans (Nat.le_mul_of_pos_left _ (Nat.pow_pos (by decide))) (Nat.le_add_right _ _)
    rw [Numeral.accumulate, if_pos this]
    exact ih fits

theorem number?_toDigits {negative : Bool} {n : Nat} (fits : n ≤ maxUnsigned 64)
    (word : Number.isWord (if negative then -(n : Int) else n)) (sign : negative → n ≠ 0) :
    Numeral.number? ⟨negative, Nat.toDigits 10 n, none, none⟩ =
      some (.int (if negative then -(n : Int) else n)) := by
  have value : Nat.ofDigitChars 10 (Nat.toDigits 10 n) 0 = n := Nat.ofDigitChars_ten_toDigits
  have taken : Numeral.accumulate 0 (Nat.toDigits 10 n) = (n, []) := by
    rw [accumulate_eq (value.symm ▸ fits), value]
  simp only [Numeral.number?, taken]
  rw [if_pos]
  cases negative with
  | false => simpa using word
  | true => simpa [sign rfl] using word

section Scanning

variable {rest : List Char}

theorem span_toDigits (n : Nat) (hrest : Breaks rest) :
    Decimal.span (Nat.toDigits 10 n ++ rest) = (Nat.toDigits 10 n, rest) := by
  have digits : ∀ c ∈ Nat.toDigits 10 n, Decimal.isDigit c := fun _ => isDigit_of_mem_toDigits
  rw [Decimal.span, List.takeWhile_append_of_pos digits, List.dropWhile_append_of_pos digits]
  cases rest with
  | nil => simp
  | cons c rest =>
    have : Decimal.isDigit c = false := by
      rcases punctuation?_cases (hrest c rfl) with rfl | rfl | rfl | rfl | rfl | rfl <;> rfl
    simp [this]

theorem scanFraction?_of_breaks (hrest : Breaks rest) :
    Numeral.scanFraction? rest = some (none, rest) := by
  unfold Numeral.scanFraction?
  split
  · exact absurd (hrest _ rfl) (by decide)
  · rfl

theorem scanExponent?_of_breaks (hrest : Breaks rest) :
    Numeral.scanExponent? rest = some (none, rest) := by
  cases rest with
  | nil => rfl
  | cons c rest =>
    rcases punctuation?_cases (hrest c rfl) with rfl | rfl | rfl | rfl | rfl | rfl <;> rfl

theorem scanUnsigned?_toDigits (negative : Bool) (n : Nat) (hrest : Breaks rest) :
    Numeral.scanUnsigned? negative (Nat.toDigits 10 n ++ rest) =
      some (⟨negative, Nat.toDigits 10 n, none, none⟩, rest) := by
  simp only [Numeral.scanUnsigned?, span_toDigits n hrest]
  rw [if_neg, scanFraction?_of_breaks hrest]
  · simp [scanExponent?_of_breaks hrest]
  · simpa [Nat.toDigits_ne_nil] using length_toDigits_of_head?

theorem scan?_toDigits (n : Nat) (hrest : Breaks rest) :
    Numeral.scan? (Nat.toDigits 10 n ++ rest) =
      some (⟨false, Nat.toDigits 10 n, none, none⟩, rest) := by
  rw [← scanUnsigned?_toDigits false n hrest]
  obtain ⟨c, digits, heq, hc⟩ := toDigits_eq_cons n
  rw [heq, List.cons_append, Numeral.scan?]
  rintro _ ⟨⟩
  exact absurd hc (by decide)

/-- **An integer that fits into 64 bits is read back as it was printed**, in front of punctuation
and at the end of a text. -/
theorem scan?_printInt {n : Int} (word : Number.isWord n) (hrest : Breaks rest) :
    ∃ numeral, Numeral.scan? ((printInt n).toList ++ rest) = some (numeral, rest) ∧
      numeral.number? = some (.int n) := by
  have bounds : minSigned 64 ≤ n ∧ n ≤ maxUnsigned 64 := by simpa [Number.isWord] using word
  have least : minSigned 64 = -(2 ^ 63) := by decide
  have greatest : maxUnsigned 64 = 2 ^ 64 - 1 := by decide
  rw [printInt]
  split
  case isTrue negative =>
    obtain ⟨k, rfl⟩ : ∃ k : Nat, n = -(k : Int) := ⟨n.natAbs, by omega⟩
    refine ⟨⟨true, Nat.toDigits 10 k, none, none⟩, ?_, ?_⟩
    · rw [String.toList_append, Nat.toList_repr, Int.natAbs_neg, Int.natAbs_natCast]
      exact scanUnsigned?_toDigits true k hrest
    · exact number?_toDigits (by omega) word (by omega)
  case isFalse nonnegative =>
    obtain ⟨k, rfl⟩ : ∃ k : Nat, n = k := ⟨n.natAbs, by omega⟩
    refine ⟨⟨false, Nat.toDigits 10 k, none, none⟩, ?_, ?_⟩
    · rw [Nat.toList_repr, Int.natAbs_natCast, scan?_toDigits k hrest]
    · exact number?_toDigits (by omega) word nofun

end Scanning

/-- Whether a numeral can begin with a character. -/
def startsNumeral (c : Char) : Bool :=
  c = '-' || Decimal.isDigit c

theorem printInt_eq_cons (n : Int) :
    ∃ c text, (printInt n).toList = c :: text ∧ startsNumeral c := by
  rw [printInt]
  split
  · exact ⟨'-', Nat.toDigits 10 n.natAbs, by simp, rfl⟩
  · obtain ⟨c, digits, heq, hc⟩ := toDigits_eq_cons n.natAbs
    exact ⟨c, digits, by rw [Nat.toList_repr, heq], by simp [startsNumeral, hc]⟩

theorem isBlank_of_startsNumeral {c : Char} (hc : startsNumeral c) : isBlank c = false := by
  rw [Bool.eq_false_iff]
  intro h
  simp only [isBlank, Bool.or_eq_true, decide_eq_true_eq] at h
  rcases h with ((rfl | rfl) | rfl) | rfl <;> exact absurd hc (by decide)

theorem punctuation?_of_startsNumeral {c : Char} (hc : startsNumeral c) :
    punctuation? c = none := by
  rw [← Option.not_isSome_iff_eq_none]
  intro h
  rcases punctuation?_cases h with rfl | rfl | rfl | rfl | rfl | rfl <;>
    exact absurd hc (by decide)

theorem scanValue?_of_startsNumeral {c : Char} (hc : startsNumeral c) (text : List Char) :
    scanValue? (c :: text) =
      (Numeral.scan? (c :: text)).map fun (n, rest) => (.number n.number?, rest) := by
  have literal : scanLiteral? (c :: text) = none := by
    unfold scanLiteral?
    split
    case h_4 => rfl
    all_goals
      rename_i heq
      cases heq
      exact absurd hc (by decide)
  unfold scanValue?
  split
  case h_1 heq =>
    cases heq
    exact absurd hc (by decide)
  case h_2 => rw [literal]

/-! ## Tokens -/

/-- **A text that is cut into these tokens**, whatever follows it, as long as that goes on with
punctuation or not at all. Only a numeral would not end without it. -/
def Cuts (text : List Char) (tokens : List Token) : Prop :=
  ∀ rest, Breaks rest → Token.ofText? (text ++ rest) = (Token.ofText? rest).map (tokens ++ ·)

theorem Cuts.nil : Cuts [] [] := by
  intro rest _
  simp

theorem Cuts.append {a b : List Char} {as bs : List Token} (ha : Cuts a as) (hb : Cuts b bs)
    (hbreak : Breaks b) : Cuts (a ++ b) (as ++ bs) := by
  intro rest hrest
  rw [List.append_assoc, ha _ (hbreak.append hrest), hb rest hrest, Option.map_map]
  simp [Function.comp_def]

theorem isBlank_of_punctuation? {c : Char} (h : (punctuation? c).isSome) : isBlank c = false := by
  rcases punctuation?_cases h with rfl | rfl | rfl | rfl | rfl | rfl <;> rfl

theorem Cuts.cons {c : Char} {t : Token} {text : List Char} {tokens : List Token}
    (hc : punctuation? c = some t) (h : Cuts text tokens) : Cuts (c :: text) (t :: tokens) := by
  intro rest hrest
  have blank : isBlank c = false := isBlank_of_punctuation? (by rw [hc]; rfl)
  rw [List.cons_append, Token.ofText?, if_neg (by simp [blank]), hc]
  simp only
  rw [h rest hrest, Option.map_map]
  rfl

/-- A string, a literal or a numeral is one token. -/
theorem cuts_value {c : Char} {text : List Char} {t : Token} (blank : isBlank c = false)
    (hc : punctuation? c = none)
    (h : ∀ rest, Breaks rest → scanValue? (c :: (text ++ rest)) = some (t, rest)) :
    Cuts (c :: text) [t] := by
  intro rest hrest
  rw [List.cons_append, Token.ofText?, if_neg (by simp [blank]), hc]
  simp only
  split
  case h_1 found =>
    rw [h rest hrest] at found
    cases found
    simp
  case h_2 found => simp [h rest hrest] at found

theorem cuts_null : Cuts "null".toList [.null] :=
  cuts_value rfl rfl fun _ _ => rfl

theorem cuts_bool (b : Bool) : Cuts (print (.bool b)).toList [.bool b] := by
  cases b
  · exact cuts_value rfl rfl fun _ _ => rfl
  · exact cuts_value rfl rfl fun _ _ => rfl

theorem cuts_quote (s : String) : Cuts (quote s).toList [.string (some s)] := by
  have text : (quote s).toList = '"' :: (s.toList.flatMap escapeChar ++ ['"']) := by
    simp [quote]
  rw [text]
  refine cuts_value rfl rfl fun rest _ => ?_
  obtain ⟨pieces, hscan, hdecode⟩ := scanString?_escaped s.toList rest
  rw [List.append_assoc, List.singleton_append, scanValue?, hscan]
  simp [hdecode]

theorem cuts_printInt {n : Int} (word : Number.isWord n) :
    Cuts (printInt n).toList [.number (some (.int n))] := by
  obtain ⟨c, text, htext, hc⟩ := printInt_eq_cons n
  rw [htext]
  refine cuts_value (isBlank_of_startsNumeral hc) (punctuation?_of_startsNumeral hc)
    fun rest hrest => ?_
  obtain ⟨numeral, hscan, hnumber⟩ := scan?_printInt word hrest
  rw [htext, List.cons_append] at hscan
  rw [scanValue?_of_startsNumeral hc, hscan, ← hnumber]
  rfl

/-! ## Lists -/

/-- The texts of later items or members, each behind a comma. -/
def later (texts : List String) : List Char :=
  texts.flatMap fun text => ',' :: text.toList

theorem breaks_later (texts : List String) : Breaks (later texts) := by
  cases texts with
  | nil => exact .nil
  | cons text texts => exact .cons rfl _

theorem toList_intercalate_cons (text : String) (texts : List String) :
    (",".intercalate (text :: texts)).toList = text.toList ++ later texts := by
  induction texts generalizing text with
  | nil => simp [later]
  | cons next texts ih =>
    rw [String.intercalate_cons_cons, String.toList_append, String.toList_append, ih]
    simp [later]

theorem toList_printArray (text : String) (texts : List String) :
    (printArray (text :: texts)).toList = '[' :: (text.toList ++ (later texts ++ [']'])) := by
  rw [printArray, String.toList_append, String.toList_append, toList_intercalate_cons]
  simp

theorem toList_printObject (text : String) (texts : List String) :
    (printObject (text :: texts)).toList =
      '\x7b' :: (text.toList ++ (later texts ++ ['\x7d'])) := by
  rw [printObject, String.toList_append, String.toList_append, toList_intercalate_cons]
  simp

/-- The tokens of an array or object that is not empty. -/
theorem Cuts.bracketed {opening closing : Char} {t t' : Token} {text : List Char}
    {texts : List String} {as bs : List Token} (hopen : punctuation? opening = some t)
    (hclose : punctuation? closing = some t') (ha : Cuts text as) (hb : Cuts (later texts) bs) :
    Cuts (opening :: (text ++ (later texts ++ [closing]))) (t :: (as ++ (bs ++ [t']))) := by
  have close : Breaks [closing] := .cons hclose []
  exact .cons hopen
    (ha.append (hb.append (.cons hclose .nil) close) ((breaks_later texts).append close))

theorem cuts_printMember (key : String) {text : String} {tokens : List Token}
    (h : Cuts text.toList tokens) :
    Cuts (printMember key text).toList (.string (some key) :: .colon :: tokens) := by
  have parts : (printMember key text).toList = (quote key).toList ++ ':' :: text.toList := by
    simp [printMember]
  rw [parts]
  exact (cuts_quote key).append (.cons rfl h) (.cons rfl _)

end Pagewise.Json
