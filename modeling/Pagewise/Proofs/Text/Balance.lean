/-!
# Balanced texts

A text is balanced when its brackets match and its double quotes come in pairs. The two are told
apart: a bracket between quotes is a bracket like any other, and so quotes may stand between
brackets and brackets between quotes.

* `Dyck`: the words in which brackets match, with the decision procedure `closes`
  (`closes_nil_iff`).
* `Balanced`: balanced texts. They can be put one behind the other (`Balanced.append`,
  `Balanced.intercalate`), in brackets (`Balanced.wrap`) and in quotes (`Balanced.quoted`).
-/

namespace Pagewise.Text

/-! ## Words in which brackets match -/

/-- The bracket that closes an opening one. -/
def closing? : Char → Option Char
  | '(' => some ')'
  | '[' => some ']'
  | '\x7b' => some '\x7d'
  | _ => none

/-- Whether a character is a closing bracket. -/
def isClosing (c : Char) : Bool :=
  c = ')' || c = ']' || c = '\x7d'

/-- **Words in which brackets match.** -/
inductive Dyck : List Char → Prop
  | nil : Dyck []
  /-- What is no bracket may stand anywhere. -/
  | plain {c : Char} {s : List Char} (hopen : closing? c = none) (hclose : isClosing c = false)
      (h : Dyck s) : Dyck (c :: s)
  /-- An opening bracket is closed by its own closing one, and a word stands between them. -/
  | wrap {opening closing : Char} {s t : List Char} (hpair : closing? opening = some closing)
      (hs : Dyck s) (ht : Dyck t) : Dyck (opening :: (s ++ closing :: t))

/-- Whether brackets match, when a word has to close those that are still due as well, the first of
them first. -/
def closes : List Char → List Char → Bool
  | due, [] => due.isEmpty
  | due, c :: s =>
    match closing? c with
    | some closing => closes (closing :: due) s
    | none =>
      if isClosing c then
        match due with
        | [] => false
        | d :: due => c == d && closes due s
      else closes due s

/-- Words with the brackets that are due between them. -/
def Closes : List Char → List Char → Prop
  | [], s => Dyck s
  | d :: due, s => ∃ t u, Dyck t ∧ Closes due u ∧ s = t ++ d :: u

variable {s t due : List Char} {opening closing : Char}

theorem closing?_eq_some : closing? opening = some closing ↔
    opening = '(' ∧ closing = ')' ∨ opening = '[' ∧ closing = ']' ∨
      opening = '\x7b' ∧ closing = '\x7d' := by
  constructor
  · intro h
    unfold closing? at h
    split at h
    · exact .inl ⟨rfl, (Option.some.inj h).symm⟩
    · exact .inr (.inl ⟨rfl, (Option.some.inj h).symm⟩)
    · exact .inr (.inr ⟨rfl, (Option.some.inj h).symm⟩)
    · cases h
  · rintro (⟨rfl, rfl⟩ | ⟨rfl, rfl⟩ | ⟨rfl, rfl⟩) <;> rfl

/-- A bracket that closes another one opens none itself. -/
theorem closing_spec (h : closing? opening = some closing) :
    closing? closing = none ∧ isClosing closing = true := by
  obtain ⟨-, rfl⟩ | ⟨-, rfl⟩ | ⟨-, rfl⟩ := closing?_eq_some.mp h <;> exact ⟨rfl, rfl⟩

/-- Words in which brackets match can be put one behind the other. -/
theorem Dyck.append (hs : Dyck s) (ht : Dyck t) : Dyck (s ++ t) := by
  induction hs with
  | nil => exact ht
  | plain hopen hclose _ ih => exact .plain hopen hclose ih
  | @wrap opening closing s u hpair hs _ _ ih =>
    rw [List.cons_append, List.append_assoc, List.cons_append]
    exact .wrap hpair hs ih

theorem Closes.prepend (ht : Dyck t) (h : Closes due s) : Closes due (t ++ s) := by
  cases due with
  | nil => exact ht.append h
  | cons d due =>
    obtain ⟨v, u, hv, hu, rfl⟩ := h
    exact ⟨t ++ v, u, ht.append hv, hu, (List.append_assoc ..).symm⟩

/-- What an opening bracket makes due is closed behind a word of its own. -/
theorem Closes.open (hpair : closing? opening = some closing) (h : Closes (closing :: due) s) :
    Closes due (opening :: s) := by
  obtain ⟨v, u, hv, hu, rfl⟩ := h
  cases due with
  | nil => exact .wrap hpair hv hu
  | cons d due =>
    obtain ⟨v', u', hv', hu', rfl⟩ := hu
    refine ⟨opening :: (v ++ closing :: v'), u', .wrap hpair hv hv', hu', ?_⟩
    rw [List.cons_append, List.append_assoc, List.cons_append]

theorem closes_open (hpair : closing? opening = some closing) :
    closes due (opening :: s) = closes (closing :: due) s := by
  rw [closes.eq_def due (opening :: s)]
  simp only [hpair]

theorem closes_plain {c : Char} (hopen : closing? c = none) (hclose : isClosing c = false) :
    closes due (c :: s) = closes due s := by
  rw [closes.eq_def due (c :: s)]
  simp only [hopen, hclose, Bool.false_eq_true, if_false]

theorem closes_due {c d : Char} (hopen : closing? c = none) (hclose : isClosing c = true) :
    closes (d :: due) (c :: s) = (c == d && closes due s) := by
  rw [closes.eq_def (d :: due) (c :: s)]
  simp only [hopen, hclose, if_true]

theorem closes_sound (h : closes due s = true) : Closes due s := by
  induction s generalizing due with
  | nil =>
    cases due with
    | nil => exact .nil
    | cons d due => cases h
  | cons c s ih =>
    cases hopen : closing? c with
    | some closing =>
      rw [closes_open hopen] at h
      exact (ih h).open hopen
    | none =>
      cases hclose : isClosing c with
      | false =>
        rw [closes_plain hopen hclose] at h
        exact (ih h).prepend (.plain hopen hclose .nil)
      | true =>
        cases due with
        | nil =>
          unfold closes at h
          rw [hopen, hclose] at h
          cases h
        | cons d due =>
          rw [closes_due hopen hclose, Bool.and_eq_true] at h
          obtain rfl := eq_of_beq h.1
          exact ⟨[], s, .nil, ih h.2, rfl⟩

/-- A word in which brackets match is of no concern to what is due. -/
theorem closes_append (hs : Dyck s) : closes due (s ++ t) = closes due t := by
  induction hs generalizing due t with
  | nil => rfl
  | plain hopen hclose _ ih => rw [List.cons_append, closes_plain hopen hclose, ih]
  | wrap hpair _ _ ihs ihu =>
    obtain ⟨hopen, hclose⟩ := closing_spec hpair
    rw [List.cons_append, List.append_assoc, List.cons_append, closes_open hpair, ihs,
      closes_due hopen hclose, beq_self_eq_true, Bool.true_and, ihu]

/-- **Whether brackets match is decided by one pass over a word.** -/
theorem closes_nil_iff : closes [] s = true ↔ Dyck s := by
  refine ⟨closes_sound, fun h => ?_⟩
  have happend : closes [] (s ++ []) = closes [] [] := closes_append h
  rwa [List.append_nil] at happend

instance (s : List Char) : Decidable (Dyck s) :=
  decidable_of_iff _ closes_nil_iff

/-! ## Balanced texts -/

/-- **Balanced texts**: their brackets match, and their double quotes come in pairs. -/
structure Balanced (text : String) : Prop where
  brackets : Dyck text.toList
  quotes : 2 ∣ text.toList.count '"'

theorem balanced_iff {text : String} :
    Balanced text ↔ Dyck text.toList ∧ 2 ∣ text.toList.count '"' :=
  ⟨fun h => ⟨h.brackets, h.quotes⟩, fun h => ⟨h.1, h.2⟩⟩

instance (text : String) : Decidable (Balanced text) :=
  decidable_of_iff _ balanced_iff.symm

/-- Brackets have to match each other, not only in number. -/
example : ¬ Balanced "([)]" := by decide

variable {text text' before after : String}

theorem Balanced.append (h : Balanced text) (h' : Balanced text') : Balanced (text ++ text') where
  brackets := by
    rw [String.toList_append]
    exact h.brackets.append h'.brackets
  quotes := by
    rw [String.toList_append, List.count_append]
    exact Nat.dvd_add h.quotes h'.quotes

/-- Balanced texts in brackets are balanced. -/
theorem Balanced.wrap (h : Balanced text) (hpair : closing? opening = some closing)
    (hbefore : before.toList = [opening]) (hafter : after.toList = [closing]) :
    Balanced (before ++ text ++ after) where
  brackets := by
    rw [String.toList_append, String.toList_append, hbefore, hafter]
    exact .wrap hpair h.brackets .nil
  quotes := by
    have hnone : [opening].count '"' = 0 ∧ [closing].count '"' = 0 := by
      obtain ⟨rfl, rfl⟩ | ⟨rfl, rfl⟩ | ⟨rfl, rfl⟩ := closing?_eq_some.mp hpair <;> exact ⟨rfl, rfl⟩
    rw [String.toList_append, String.toList_append, hbefore, hafter, List.count_append,
      List.count_append, hnone.1, hnone.2, Nat.zero_add]
    exact h.quotes

/-- Balanced texts in double quotes are balanced. -/
theorem Balanced.quoted (h : Balanced text) : Balanced ("\"" ++ text ++ "\"") where
  brackets := by
    have hquote : Dyck "\"".toList := by decide
    rw [String.toList_append, String.toList_append]
    exact (hquote.append h.brackets).append hquote
  quotes := by
    have hone : "\"".toList.count '"' = 1 := by decide
    rw [String.toList_append, String.toList_append, List.count_append, List.count_append, hone]
    have := h.quotes
    omega

/-- Balanced texts with balanced ones between them are balanced. -/
theorem Balanced.intercalate {texts : List String} (hbetween : Balanced text)
    (h : ∀ t ∈ texts, Balanced t) : Balanced (text.intercalate texts) := by
  induction texts with
  | nil =>
    rw [String.intercalate_nil]
    decide
  | cons t texts ih =>
    have ht := h t List.mem_cons_self
    have hrest := ih fun t hmem => h t (List.mem_cons_of_mem _ hmem)
    cases texts with
    | nil =>
      rw [String.intercalate_singleton]
      exact ht
    | cons t' texts =>
      rw [String.intercalate_cons_cons]
      exact (ht.append hbetween).append hrest

/-- A text without brackets and quotes is balanced. -/
theorem balanced_of_plain
    (h : ∀ c ∈ text.toList, closing? c = none ∧ isClosing c = false ∧ c ≠ '"') :
    Balanced text where
  brackets := by
    generalize text.toList = s at h
    induction s with
    | nil => exact .nil
    | cons c s ih =>
      obtain ⟨hopen, hclose, -⟩ := h c List.mem_cons_self
      exact .plain hopen hclose (ih fun c hmem => h c (List.mem_cons_of_mem _ hmem))
  quotes := by
    have hnone : text.toList.count '"' = 0 := List.count_eq_zero.mpr fun hmem => (h _ hmem).2.2 rfl
    rw [hnone]
    exact Nat.dvd_zero 2

/-- Numerals are balanced. -/
theorem balanced_repr (n : Nat) : Balanced (Nat.repr n) := by
  refine balanced_of_plain fun c hc => ?_
  rw [Nat.toList_repr] at hc
  have hdigit : c.isDigit = true := Nat.isDigit_of_mem_toDigits (by decide) (by decide) hc
  refine ⟨Option.eq_none_iff_forall_ne_some.mpr fun closing hpair => ?_,
    Bool.eq_false_iff.mpr ?_, ?_⟩
  · obtain ⟨rfl, -⟩ | ⟨rfl, -⟩ | ⟨rfl, -⟩ := closing?_eq_some.mp hpair <;> cases hdigit
  · intro hclose
    have : c = ')' ∨ c = ']' ∨ c = '\x7d' := by simpa [isClosing, or_assoc] using hclose
    obtain rfl | rfl | rfl := this <;> cases hdigit
  · rintro rfl
    cases hdigit

end Pagewise.Text
