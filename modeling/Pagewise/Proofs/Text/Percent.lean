import Pagewise.Text.Hex
import Pagewise.Text.Percent

/-!
# Segments and what they stand for

A segment of a path holds unreserved characters and escapes, each a percent sign with two
hexadecimal digits in upper case. It is read byte by byte: an escape is the byte of its number, any
other character the bytes that it has in UTF-8; and the bytes are read as UTF-8 in turn.

* `Segment`: what may stand between two slashes of a path that was written by `encode`. It holds no
  delimiter (`Segment.not_mem`).
* `segment_encode`: every text is written as a segment.
* `decode?_encode`: a text that was written is read back, so different texts are written
  differently (`encode_injective`).
-/

namespace Pagewise.Text.Percent

/-! ## Segments -/

/-- The characters that stand for themselves: letters and digits of ASCII and four marks. -/
def Plain (c : Char) : Prop :=
  ('A' ≤ c ∧ c ≤ 'Z') ∨ ('a' ≤ c ∧ c ≤ 'z') ∨ ('0' ≤ c ∧ c ≤ '9') ∨ c ∈ ['-', '_', '.', '~']

instance (c : Char) : Decidable (Plain c) :=
  inferInstanceAs (Decidable (_ ∨ _))

/-- The hexadecimal digits in upper case. -/
def UpperHex (c : Char) : Prop :=
  ('0' ≤ c ∧ c ≤ '9') ∨ ('A' ≤ c ∧ c ≤ 'F')

instance (c : Char) : Decidable (UpperHex c) :=
  inferInstanceAs (Decidable (_ ∨ _))

/-- **Segments of a path**: characters that stand for themselves, and escapes. -/
inductive Segment : List Char → Prop
  | nil : Segment []
  | plain {c : Char} {s : List Char} (hc : Plain c) (h : Segment s) : Segment (c :: s)
  | escape {high low : Char} {s : List Char} (hhigh : UpperHex high) (hlow : UpperHex low)
      (h : Segment s) : Segment ('%' :: high :: low :: s)

/-- The characters at which a URL is taken apart. -/
def delimiters : List Char := ['/', '?', '#']

variable {s t : List Char}

theorem Segment.append (hs : Segment s) (ht : Segment t) : Segment (s ++ t) := by
  induction hs with
  | nil => exact ht
  | plain hc _ ih => exact .plain hc ih
  | escape hhigh hlow _ ih => exact .escape hhigh hlow ih

theorem UpperHex.plain {c : Char} (h : UpperHex c) : Plain c := by
  obtain h | ⟨hA, hF⟩ := h
  · exact .inr (.inr (.inl h))
  · exact .inl ⟨hA, Char.le_trans hF (by decide)⟩

theorem Plain.not_mem_delimiters {c : Char} (h : Plain c) : c ∉ delimiters := by
  intro hc
  obtain rfl | rfl | rfl : c = '/' ∨ c = '?' ∨ c = '#' := by simpa [delimiters] using hc
  all_goals revert h; decide

/-- No delimiter stands in a segment. -/
theorem Segment.not_mem (h : Segment s) {c : Char} (hc : c ∈ delimiters) : c ∉ s := by
  induction h with
  | nil => exact List.not_mem_nil
  | plain hplain _ ih =>
    refine List.not_mem_cons_of_ne_of_not_mem ?_ ih
    rintro rfl
    exact hplain.not_mem_delimiters hc
  | escape hhigh hlow _ ih =>
    refine List.not_mem_cons_of_ne_of_not_mem ?_
      (List.not_mem_cons_of_ne_of_not_mem ?_ (List.not_mem_cons_of_ne_of_not_mem ?_ ih))
    · rintro rfl
      revert hc
      decide
    · rintro rfl
      exact hhigh.plain.not_mem_delimiters hc
    · rintro rfl
      exact hlow.plain.not_mem_delimiters hc

/-! ## Reading -/

/-- The bytes that a segment stands for. -/
def bytes? : List Char → Option (List UInt8)
  | [] => some []
  | '%' :: high :: low :: s =>
    (hexValue? high).bind fun h => (hexValue? low).bind fun l =>
      (bytes? s).map (UInt8.ofNat (16 * h + l) :: ·)
  | '%' :: _ => none
  | c :: s => (bytes? s).map (String.utf8EncodeChar c ++ ·)

/-- The text that a segment stands for. -/
def decode? (s : String) : Option String :=
  (bytes? s.toList).bind fun bytes => String.fromUTF8? bytes.toByteArray

theorem bytes?_plain {c : Char} (h : c ≠ '%') :
    bytes? (c :: s) = (bytes? s).map (String.utf8EncodeChar c ++ ·) := by
  rw [bytes?.eq_def]
  split <;> simp_all

/-! ## What is written -/

theorem upperHex_hexDigit : ∀ n < 16, UpperHex (hexDigit n) := by
  decide

theorem hexValue?_hexDigit : ∀ n < 16, hexValue? (hexDigit n) = some n := by
  decide

/-- An unreserved byte is a character of ASCII that stands for itself. -/
theorem plain_of_isUnreserved : ∀ n < 128, isUnreserved (UInt8.ofNat n) →
    Plain (Char.ofNat n) ∧ String.utf8EncodeChar (Char.ofNat n) = [UInt8.ofNat n] := by
  decide

theorem toNat_lt_of_isUnreserved {b : UInt8} (h : isUnreserved b) : b.toNat < 128 := by
  simp [isUnreserved] at h
  omega

theorem segment_encodeByte (b : UInt8) : Segment (encodeByte b) := by
  unfold encodeByte
  have hb : b.toNat < 256 := b.toNat_lt
  split
  case isTrue h =>
    have hplain := plain_of_isUnreserved b.toNat (toNat_lt_of_isUnreserved h)
    rw [UInt8.ofNat_toNat] at hplain
    exact .plain (hplain h).1 .nil
  case isFalse =>
    exact .escape (upperHex_hexDigit _ (by omega)) (upperHex_hexDigit _ (by omega)) .nil

/-- One byte is read back, whatever follows. -/
theorem bytes?_encodeByte (b : UInt8) (s : List Char) :
    bytes? (encodeByte b ++ s) = (bytes? s).map (b :: ·) := by
  unfold encodeByte
  have hb : b.toNat < 256 := b.toNat_lt
  split
  case isTrue h =>
    have hplain := plain_of_isUnreserved b.toNat (toNat_lt_of_isUnreserved h)
    rw [UInt8.ofNat_toNat] at hplain
    obtain ⟨hc, hencode⟩ := hplain h
    have hne : Char.ofNat b.toNat ≠ '%' := fun heq => absurd (heq ▸ hc) (by decide)
    rw [List.cons_append, List.nil_append, bytes?_plain hne, hencode]
    rfl
  case isFalse =>
    have hvalue : 16 * (b.toNat / 16) + b.toNat % 16 = b.toNat := Nat.div_add_mod _ _
    simp only [List.cons_append, List.nil_append, bytes?]
    rw [hexValue?_hexDigit _ (by omega), hexValue?_hexDigit _ (by omega), Option.bind_some,
      Option.bind_some, hvalue, UInt8.ofNat_toNat]

theorem bytes?_encodeBytes (bytes : List UInt8) :
    bytes? (bytes.flatMap encodeByte) = some bytes := by
  induction bytes with
  | nil => rfl
  | cons b bytes ih => rw [List.flatMap_cons, bytes?_encodeByte, ih, Option.map_some]

/-- **Every text is written as a segment.** -/
theorem segment_encode (s : String) : Segment (encode s).toList := by
  rw [encode, String.toList_ofList]
  induction utf8 s.toList with
  | nil => exact .nil
  | cons b bytes ih =>
    rw [List.flatMap_cons]
    exact (segment_encodeByte b).append ih

/-- **A text that was written is read back.** -/
theorem decode?_encode (s : String) : decode? (encode s) = some s := by
  have hbytes : (utf8 s.toList).toByteArray = s.toByteArray := String.utf8Encode_toList
  rw [decode?, encode, String.toList_ofList, bytes?_encodeBytes, Option.bind_some, hbytes]
  exact dif_pos s.isValidUTF8

/-- Different texts are written differently. -/
theorem encode_injective {s t : String} (h : encode s = encode t) : s = t :=
  Option.some.inj <| calc
    some s = decode? (encode s) := (decode?_encode s).symm
    _ = decode? (encode t) := by rw [h]
    _ = some t := decode?_encode t

end Pagewise.Text.Percent
