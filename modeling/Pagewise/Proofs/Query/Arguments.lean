import Mathlib.Algebra.GroupWithZero.Nat
import Pagewise.Query.Render

/-!
# Arguments of calls

A list among the arguments of a call is not taken apart. Its items are joined in the same way as the
arguments are, so its text is that of its items as arguments of their own, however deep lists stand
in lists. A list without items is the exception: its text is empty, and has its comma all the same.

* `Expr.pieces`: what an argument puts between the commas. By `Expr.joined_pieces` and the lemma
  beside it, joining joined texts is joining all of them.
* `listed_length`: each text in a listing but the first costs a comma and a blank, so a listing shows
  how many texts are in it.
* **`Expr.list_arguments_spread`**: the items of a list can take its place among the arguments,
  unless it is empty and there are others.
-/

namespace Pagewise

/-! ## Listings -/

theorem listed_append {texts later : List String} (h : texts ≠ []) (h' : later ≠ []) :
    listed (texts ++ later) = listed texts ++ ", " ++ listed later :=
  String.intercalate_append_of_ne_nil h h'

/-- Each text but the first costs a comma and a blank. -/
theorem listed_length (texts : List String) :
    (listed texts).length = (texts.map String.length).sum + 2 * (texts.length - 1) := by
  induction texts with
  | nil => rfl
  | cons text rest ih =>
    cases rest with
    | nil => simp [listed]
    | cons next rest =>
      have hcomma : (", " : String).length = 2 := rfl
      have hsplit := listed_append (List.cons_ne_nil text []) (List.cons_ne_nil next rest)
      have hsingle : listed [text] = text := String.intercalate_singleton
      rw [List.singleton_append, hsingle] at hsplit
      rw [hsplit, String.length_append, String.length_append, ih, hcomma]
      simp only [List.map_cons, List.sum_cons, List.length_cons]
      omega

namespace Expr

/-! ## Pieces -/

mutual

/-- What an expression puts between the commas of a call: a list the pieces of its items, and
anything else itself. A list without items is a piece, as its text is empty but there. -/
def pieces : Expr → List Expr
  | .list (item :: items) => item.pieces ++ piecesAll items
  | e => [e]

/-- The pieces of arguments. -/
def piecesAll : List Expr → List Expr
  | [] => []
  | e :: rest => e.pieces ++ piecesAll rest

end

/-- Whether an expression is a list. -/
def isList : Expr → Bool
  | .list _ => true
  | _ => false

/-- What stands in arguments, or in lists in them at any depth, and is no list itself. -/
def leaves (args : List Expr) : List Expr :=
  (piecesAll args).filter fun e => !e.isList

theorem pieces_of_not_isList {e : Expr} (h : e.isList = false) : e.pieces = [e] := by
  cases e <;> first | rfl | cases h

theorem pieces_ne_nil : ∀ e : Expr, e.pieces ≠ []
  | .list (item :: items) => by
    rw [pieces]
    exact List.append_ne_nil_of_left_ne_nil (pieces_ne_nil item) _
  | .list [] | .raw _ | .var _ | .call _ _ | .subquery _ | .object _ => List.cons_ne_nil _ _

theorem piecesAll_append (es fs : List Expr) :
    piecesAll (es ++ fs) = piecesAll es ++ piecesAll fs := by
  induction es with
  | nil => rfl
  | cons e es ih => rw [List.cons_append, piecesAll, ih, piecesAll, List.append_assoc]

/-- A list with items has the pieces of its items. -/
theorem pieces_list {items : List Expr} (h : items ≠ []) : (list items).pieces = piecesAll items := by
  cases items with
  | nil => exact absurd rfl h
  | cons item items => rw [pieces, piecesAll]

mutual

/-- The only list that is a piece is the one without items. -/
theorem eq_list_nil_of_mem_pieces {p : Expr} (hp : p.isList = true) :
    ∀ e : Expr, p ∈ e.pieces → p = .list []
  | .list [] => by
    rw [pieces.eq_def]
    exact List.mem_singleton.mp
  | .list (item :: items) => by
    rw [pieces, List.mem_append]
    rintro (h | h)
    · exact eq_list_nil_of_mem_pieces hp item h
    · exact eq_list_nil_of_mem_piecesAll hp items h
  | .raw _ | .var _ | .call _ _ | .subquery _ | .object _ => fun h => by
    rw [pieces_of_not_isList rfl] at h
    cases List.mem_singleton.mp h
    cases hp

theorem eq_list_nil_of_mem_piecesAll {p : Expr} (hp : p.isList = true) :
    ∀ es : List Expr, p ∈ piecesAll es → p = .list []
  | [] => fun h => nomatch h
  | e :: rest => by
    rw [piecesAll, List.mem_append]
    rintro (h | h)
    · exact eq_list_nil_of_mem_pieces hp e h
    · exact eq_list_nil_of_mem_piecesAll hp rest h

end

/-! ## Joining -/

/-- The texts of expressions in a clause, with commas between them. -/
def joined (es : List Expr) : Except QueryError String :=
  listed <$> renderAll .clause es

theorem renderAll_append (place : Place) (es fs : List Expr) :
    renderAll place (es ++ fs) = do
      let texts ← renderAll place es
      let later ← renderAll place fs
      return texts ++ later := by
  induction es with
  | nil =>
    rw [List.nil_append, renderAll]
    cases renderAll place fs <;> rfl
  | cons e es ih =>
    rw [List.cons_append, renderAll, renderAll, ih]
    simp only [bind_assoc, pure_bind, List.cons_append]

theorem length_of_renderAll {place : Place} {es : List Expr} {texts : List String}
    (h : renderAll place es = .ok texts) : texts.length = es.length := by
  induction es generalizing texts with
  | nil => obtain rfl := Except.ok.inj h; rfl
  | cons e es ih =>
    rw [renderAll] at h
    cases he : e.render place with
    | error err => rw [he] at h; cases h
    | ok text =>
      cases hes : renderAll place es with
      | error err => rw [he, hes] at h; cases h
      | ok rest =>
        rw [he, hes] at h
        obtain rfl := Except.ok.inj h
        rw [List.length_cons, List.length_cons, ih hes]

theorem joined_single (e : Expr) : joined [e] = e.render .clause := by
  unfold joined renderAll renderAll
  cases e.render .clause with
  | error err => rfl
  | ok text => exact congrArg Except.ok String.intercalate_singleton

theorem joined_append {es fs : List Expr} (h : es ≠ []) (h' : fs ≠ []) :
    joined (es ++ fs) = do
      let text ← joined es
      let later ← joined fs
      return text ++ ", " ++ later := by
  unfold joined
  rw [renderAll_append]
  cases hes : renderAll .clause es with
  | error err => rfl
  | ok texts =>
    cases hfs : renderAll .clause fs with
    | error err => rfl
    | ok later =>
      have htexts : texts ≠ [] := by
        rintro rfl
        exact h (List.length_eq_zero_iff.mp (length_of_renderAll hes).symm)
      have hlater : later ≠ [] := by
        rintro rfl
        exact h' (List.length_eq_zero_iff.mp (length_of_renderAll hfs).symm)
      exact congrArg Except.ok (listed_append htexts hlater)

theorem piecesAll_ne_nil {es : List Expr} (h : es ≠ []) : piecesAll es ≠ [] := by
  cases es with
  | nil => exact absurd rfl h
  | cons e rest => exact List.append_ne_nil_of_left_ne_nil (pieces_ne_nil e) _

mutual

/-- An argument has the text of its pieces. -/
theorem joined_pieces : ∀ e : Expr, joined e.pieces = e.render .clause
  | .list (item :: items) => by
    rw [pieces, ← piecesAll, joined_piecesAll (item :: items)]
    cases h : renderAll .clause (item :: items) <;> simp [Expr.render, joined, h]
  | .list [] => rfl
  | .raw _ | .var _ | .call _ _ | .subquery _ | .object _ => joined_single _

/-- **Joining joined texts is joining all of them.** -/
theorem joined_piecesAll : ∀ es : List Expr, joined (piecesAll es) = joined es
  | [] => rfl
  -- A single argument has no comma behind it, so there is nothing to split there.
  | [e] => by rw [piecesAll, piecesAll, List.append_nil, joined_pieces e, joined_single]
  | e :: next :: rest => by
    have hrest : next :: rest ≠ [] := List.cons_ne_nil _ _
    have hsplit := joined_append (List.cons_ne_nil e []) hrest
    rw [piecesAll, joined_append (pieces_ne_nil e) (piecesAll_ne_nil hrest), joined_pieces e,
      joined_piecesAll (next :: rest), ← joined_single e]
    exact hsplit.symm

end

/-! ## Lists without items -/

/-- The text of a call with the texts between its parentheses. -/
def callText (function : String) (texts : List String) : String :=
  function ++ "(" ++ listed texts ++ ")"

theorem render_call (function : String) (args : List Expr) (place : Place) :
    (call function args).render place = callText function <$> renderAll .clause args := by
  rw [Expr.render]
  cases renderAll .clause args <;> rfl

theorem callText_inj {function : String} {texts texts' : List String} :
    callText function texts = callText function texts' ↔ listed texts = listed texts' := by
  unfold callText
  rw [String.append_left_inj, String.append_right_inj]

/-- A call shows what its arguments are joined to. -/
theorem render_call_eq_iff (function : String) (args args' : List Expr) (place : Place) :
    (call function args).render place = (call function args').render place ↔
      joined args = joined args' := by
  rw [render_call, render_call, joined, joined]
  cases renderAll .clause args with
  | error err =>
    cases renderAll .clause args' with
    | error err' => exact Iff.rfl
    | ok texts' => exact iff_of_false nofun nofun
  | ok texts =>
    cases renderAll .clause args' with
    | error err' => exact iff_of_false nofun nofun
    | ok texts' =>
      have hinj : callText function texts = callText function texts' ↔
          listed texts = listed texts' := callText_inj
      exact ⟨fun h => congrArg Except.ok (hinj.mp (Except.ok.inj h)),
        fun h => congrArg Except.ok (hinj.mpr (Except.ok.inj h))⟩

/-- Texts that are fewer but no shorter are listed otherwise, unless one empty text is left out. -/
theorem listed_eq_iff_of_fewer {texts texts' : List String}
    (hsum : (texts'.map String.length).sum = (texts.map String.length).sum)
    (hfewer : texts'.length < texts.length) :
    listed texts = listed texts' ↔ texts.length = 1 := by
  constructor
  · intro h
    have hlength := congrArg String.length h
    rw [listed_length, listed_length, hsum] at hlength
    omega
  · intro hone
    obtain ⟨text, rfl⟩ := List.length_eq_one_iff.mp hone
    obtain rfl : texts' = [] := List.length_eq_zero_iff.mp (Nat.lt_one_iff.mp hfewer)
    have hempty : text = "" := by simpa using hsum.symm
    rw [hempty]
    rfl

/-- **Arguments without some of their empty lists**: both fail alike, or the texts of both have one
length taken together. -/
inductive Thinned (es es' : List Expr) : Prop
  | failed {err : QueryError} (h : renderAll .clause es = .error err)
      (h' : renderAll .clause es' = .error err)
  | texts {texts texts' : List String} (h : renderAll .clause es = .ok texts)
      (h' : renderAll .clause es' = .ok texts')
      (hsum : (texts'.map String.length).sum = (texts.map String.length).sum)

namespace Thinned

variable {es es' : List Expr}

theorem refl (es : List Expr) : Thinned es es := by
  cases h : renderAll .clause es with
  | error err => exact .failed h h
  | ok texts => exact .texts h h rfl

theorem keep (e : Expr) (h : Thinned es es') : Thinned (e :: es) (e :: es') := by
  cases he : e.render .clause with
  | error err =>
    have hfails (rest : List Expr) : renderAll .clause (e :: rest) = .error err := by
      rw [renderAll, he]
      rfl
    exact .failed (hfails es) (hfails es')
  | ok text =>
    have hcons (rest : List Expr) :
        renderAll .clause (e :: rest) = (text :: ·) <$> renderAll .clause rest := by
      rw [renderAll, he]
      rfl
    cases h with
    | @failed err h h' =>
      have hfails {rest : List Expr} (hrest : renderAll .clause rest = .error err) :
          renderAll .clause (e :: rest) = .error err := by
        rw [hcons, hrest]
        rfl
      exact .failed (hfails h) (hfails h')
    | texts h h' hsum =>
      have htexts {rest : List Expr} {texts : List String}
          (hrest : renderAll .clause rest = .ok texts) :
          renderAll .clause (e :: rest) = .ok (text :: texts) := by
        rw [hcons, hrest]
        rfl
      refine .texts (htexts h) (htexts h') ?_
      rw [List.map_cons, List.map_cons, List.sum_cons, List.sum_cons, hsum]

theorem drop (h : Thinned es es') : Thinned (.list [] :: es) es' := by
  have hcons (rest : List Expr) :
      renderAll .clause (.list [] :: rest) = ("" :: ·) <$> renderAll .clause rest := rfl
  cases h with
  | @failed err h h' =>
    have hfails : renderAll .clause (.list [] :: es) = .error err := by
      rw [hcons, h]
      rfl
    exact .failed hfails h'
  | @texts texts texts' h h' hsum =>
    have htexts : renderAll .clause (.list [] :: es) = .ok ("" :: texts) := by
      rw [hcons, h]
      rfl
    refine .texts htexts h' ?_
    rw [hsum, List.map_cons, List.sum_cons, String.length_empty, Nat.zero_add]

/-- Whether empty lists that are left out are missed. -/
theorem joined_eq_iff (h : Thinned es es') (hfewer : es'.length < es.length) :
    joined es = joined es' ↔ es.length = 1 ∨ ∃ err, renderAll .clause es = .error err := by
  cases h with
  | @failed err h h' =>
    refine iff_of_true ?_ (.inr ⟨err, h⟩)
    rw [joined, joined, h, h']
  | texts h h' hsum =>
    rw [← length_of_renderAll h, ← length_of_renderAll h'] at hfewer
    rw [← length_of_renderAll h, ← listed_eq_iff_of_fewer hsum hfewer, joined, joined, h, h']
    refine ⟨fun heq => .inl (Except.ok.inj heq), ?_⟩
    rintro (heq | ⟨err, herr⟩)
    · exact congrArg Except.ok heq
    · cases herr

end Thinned

/-- The leaves are the pieces without empty lists. -/
theorem thinned_leaves (args : List Expr) : Thinned (piecesAll args) (leaves args) := by
  have hlists : ∀ p ∈ piecesAll args, p.isList = true → p = .list [] :=
    fun p hp hlist => eq_list_nil_of_mem_piecesAll hlist args hp
  unfold leaves
  generalize piecesAll args = ps at hlists
  induction ps with
  | nil => exact .refl []
  | cons p ps ih =>
    obtain ⟨hhead, htail⟩ := List.forall_mem_cons.mp hlists
    cases hp : p.isList with
    | true =>
      rw [List.filter_cons_of_neg (by simp [hp]), hhead hp]
      exact (ih htail).drop
    | false =>
      rw [List.filter_cons_of_pos (by simp [hp])]
      exact (ih htail).keep p

theorem thinned_append (before after : List Expr) :
    Thinned (before ++ .list [] :: after) (before ++ after) := by
  induction before with
  | nil => exact (Thinned.refl after).drop
  | cons e before ih => exact ih.keep e

/-- A list with items has their pieces. -/
theorem piecesAll_list (before after : List Expr) {items : List Expr} (h : items ≠ []) :
    piecesAll (before ++ .list items :: after) = piecesAll (before ++ items ++ after) := by
  rw [piecesAll_append, piecesAll, pieces_list h, piecesAll_append, piecesAll_append,
    List.append_assoc]

theorem render_call_eq_error_iff (function : String) (args : List Expr) (place : Place) :
    (∃ err, (call function args).render place = .error err) ↔
      ∃ err, renderAll .clause args = .error err := by
  rw [render_call]
  cases renderAll .clause args with
  | error err => exact iff_of_true ⟨err, rfl⟩ ⟨err, rfl⟩
  | ok texts => exact iff_of_false (fun ⟨_, h⟩ => nomatch h) (fun ⟨_, h⟩ => nomatch h)

/-- **How lists among arguments are spread.** The text of a call has the texts of all pieces of its
arguments between the parentheses, with commas between them, where an empty list, at any depth of
lists, is a piece without text. So these are the texts of the leaves alone exactly when there is no
empty list, or nothing but one, or the call has no text. Likewise the items of a list can take its
place among the arguments, without a change to the text or the error, exactly when it has items, or
is the only argument, or the call has no text. -/
theorem list_arguments_spread (function : String) :
    (∀ args place, (call function args).render place =
      (fun texts => function ++ "(" ++ ", ".intercalate texts ++ ")") <$>
        renderAll .clause (piecesAll args)) ∧
      (∀ args place, (call function args).render place =
          (fun texts => function ++ "(" ++ ", ".intercalate texts ++ ")") <$>
            renderAll .clause (leaves args) ↔
        (∀ p ∈ piecesAll args, p.isList = false) ∨ piecesAll args = [.list []] ∨
          ∃ err, (call function args).render place = .error err) ∧
      ∀ before items after place,
        (call function (before ++ .list items :: after)).render place =
            (call function (before ++ items ++ after)).render place ↔
          items ≠ [] ∨ (before = [] ∧ after = []) ∨
            ∃ err, (call function (before ++ .list items :: after)).render place = .error err := by
  have hpieces (args : List Expr) (place : Place) :
      (call function args).render place = (call function (piecesAll args)).render place :=
    (render_call_eq_iff function _ _ place).mpr (joined_piecesAll args).symm
  refine ⟨fun args place => ?_, fun args place => ?_, fun before items after place => ?_⟩
  · rw [hpieces, render_call]
    rfl
  · change _ = callText function <$> renderAll .clause (leaves args) ↔ _
    rw [hpieces, ← render_call function (leaves args) place, render_call_eq_iff]
    by_cases hnone : ∀ p ∈ piecesAll args, p.isList = false
    · -- All pieces are leaves.
      have hleaves : leaves args = piecesAll args :=
        List.filter_eq_self.mpr fun p hp => by rw [hnone p hp]; rfl
      exact iff_of_true (congrArg joined hleaves.symm) (.inl hnone)
    · obtain ⟨p, hp, hlist⟩ : ∃ p ∈ piecesAll args, p.isList = true := by simpa using hnone
      have hfewer : (leaves args).length < (piecesAll args).length :=
        List.length_filter_lt_length_iff_exists.mpr ⟨p, hp, by simp [hlist]⟩
      have hsingle : (piecesAll args).length = 1 ↔ piecesAll args = [.list []] := by
        refine ⟨fun hone => ?_, fun heq => by rw [heq]; rfl⟩
        obtain ⟨e, he⟩ := List.length_eq_one_iff.mp hone
        obtain rfl : p = e := List.mem_singleton.mp (he ▸ hp)
        rw [he, eq_list_nil_of_mem_piecesAll hlist args hp]
      rw [(thinned_leaves args).joined_eq_iff hfewer, hsingle, render_call_eq_error_iff]
      exact (or_iff_right hnone).symm
  · by_cases hitems : items = []
    · -- Without items the list is a piece of its own, and leaving it out is seen by the commas.
      subst hitems
      have hfewer : (before ++ after).length < (before ++ .list [] :: after).length := by simp
      have hsingle : (before ++ list [] :: after).length = 1 ↔ before = [] ∧ after = [] := by
        rw [List.length_append, List.length_cons, ← List.length_eq_zero_iff,
          ← List.length_eq_zero_iff]
        omega
      rw [List.append_nil, render_call_eq_iff, (thinned_append before after).joined_eq_iff hfewer,
        hsingle, render_call_eq_error_iff]
      exact (or_iff_right (not_not_intro rfl)).symm
    · rw [hpieces, hpieces (before ++ items ++ after), piecesAll_list before after hitems]
      exact iff_of_true rfl (.inl hitems)

/-- An empty list between two arguments leaves a gap, where its items would leave none. -/
theorem empty_list_leaves_gap :
    (call "F" [.raw "a", .list [], .raw "b"]).render .clause = .ok "F(a, , b)" ∧
      (call "F" [.raw "a", .raw "b"]).render .clause = .ok "F(a, b)" ∧
      "F(a, , b)" ≠ "F(a, b)" :=
  ⟨rfl, rfl, by decide⟩

/-- Lists in lists are spread, and an empty list is where it is the only argument. -/
example :
    (call "F" [.list [.raw "a", .list [.raw "b"]], .raw "c"]).render .clause = .ok "F(a, b, c)" ∧
      (call "F" [.list [.list []]]).render .clause = .ok "F()" :=
  ⟨rfl, rfl⟩

end Expr

end Pagewise
