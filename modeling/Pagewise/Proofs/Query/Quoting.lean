import Pagewise.Proofs.Query.Retouching

/-!
# Inverted variables

A variable that is inverted is written in quotes as the value of a key: of an object literal,
directly or in lists that are the value, or of a `RETURN` mapping, there only directly. Everywhere
else the flag is of no effect, also in calls and sub-queries within such a value.

* `Place.quotes`: the places of values of keys.
* `Query.unflagged`, `Expr.unflagged`: a tree without the flags at all other places. Trees that are
  the same without them differ in these flags alone.
* `Query.spelled`, `Expr.spelled`: a tree without any flags, in which a variable has the quotes in
  its name.
* **`Query.flags_only_quote`**: what the flags of variables do to texts.
-/

namespace Pagewise

/-- Whether an inverted variable is written in quotes in a place: whether it is the value of a key
there. -/
def Place.quotes : Place → Bool
  | .field | .member => true
  | .source | .clause => false

/-- Clears the flag of each variable that is not the value of a key. -/
def unflagging : Retouch where
  var place v := if place.quotes then v else { v with inverted := false }
  binds := id
  options := id

/-- Clears the flag of each variable; an inverted one that is the value of a key takes the quotes
into its name. -/
def spelling : Retouch where
  var place v := ⟨if place.quotes && v.inverted then "\"" ++ v.name ++ "\"" else v.name, false⟩
  binds := id
  options := id

theorem keepsText_unflagging : unflagging.KeepsText := by
  intro place v
  cases place <;> rfl

theorem keepsText_spelling : spelling.KeepsText := by
  rintro place ⟨name, inverted⟩
  cases place <;> cases inverted <;> rfl

namespace Expr

/-- An expression in some place without the flags that are of no effect. -/
def unflagged (place : Place) (e : Expr) : Expr := e.retouch unflagging place

/-- An expression in some place without flags. -/
def spelled (place : Place) (e : Expr) : Expr := e.retouch spelling place

/-- Flags of variables that are not the value of a key are of no effect. -/
theorem render_eq_of_unflagged {place : Place} {e e' : Expr}
    (h : e.unflagged place = e'.unflagged place) : e.render place = e'.render place := by
  rw [← render_retouch keepsText_unflagging place e, ← render_retouch keepsText_unflagging place e']
  exact congrArg (Expr.render place) h

end Expr

namespace Query

/-- A query without the flags that are of no effect. -/
def unflagged (q : Query) : Query := q.retouch unflagging

/-- A query without flags. -/
def spelled (q : Query) : Query := q.retouch spelling

variable {q q' : Query}

theorem execute_eq_of_unflagged (h : q.unflagged = q'.unflagged) (c : Connection) :
    (q.execute c).1 = (q'.execute c).1 := by
  have hrender := (interchangeable_of_retouch keepsText_unflagging h).render_eq
  have hbinds := congrArg Query.binds h
  have hoptions := congrArg Query.options h
  rw [unflagged, unflagged, retouch_eq, retouch_eq] at hbinds hoptions
  have hbinds' : q.binds = q'.binds := hbinds
  have hoptions' : q.options = q'.options := hoptions
  rw [execute_eq, execute_eq, hrender, hbinds', hoptions']

/-- **What the flags of variables do to texts.** Take two expressions, or two queries, that are the
same but for the flags of variables, any number of them at any depth, that are neither the value of
a key of an object literal, directly or in lists within lists, nor directly the value of a key of a
`RETURN` mapping. Then both have the same text or the same error, wherever they stand, are rendered,
used or executed. And any expression or query has the text of the same one without flags in which
each inverted variable that is such a value has the quotes in its name; for the text of a variable
is its name, in quotes where it is inverted and such a value. -/
theorem flags_only_quote :
    (∀ (place : Place) (e e' : Expr), e.unflagged place = e'.unflagged place →
      e.render place = e'.render place) ∧
      (∀ q q' : Query, q.unflagged = q'.unflagged →
        q.render.1 = q'.render.1 ∧ q.text = q'.text ∧
          (∀ position, q.nestedText position = q'.nestedText position) ∧
          ∀ c, (q.execute c).1 = (q'.execute c).1) ∧
      (∀ (place : Place) (e : Expr), e.render place = (e.spelled place).render place) ∧
      (∀ q : Query, q.render.1 = q.spelled.render.1 ∧ q.text = q.spelled.text ∧
        ∀ position, q.nestedText position = q.spelled.nestedText position) ∧
      ∀ (place : Place) (v : Var), (Expr.var v).render place =
        .ok (if place.quotes && v.inverted then "\"" ++ v.name ++ "\"" else v.name) := by
  refine ⟨fun place e e' h => Expr.render_eq_of_unflagged h, fun q q' h => ?_, fun place e => ?_,
    fun q => ?_, fun place v => ?_⟩
  · have hsame := interchangeable_of_retouch keepsText_unflagging h
    exact ⟨hsame.render_eq, hsame.text, hsame.nestedText, execute_eq_of_unflagged h⟩
  · exact (Expr.render_retouch keepsText_spelling place e).symm
  · have hsame := retouch_interchangeable keepsText_spelling q
    exact ⟨hsame.render_eq.symm, hsame.text.symm, fun position => (hsame.nestedText position).symm⟩
  · obtain ⟨name, inverted⟩ := v
    cases place <;> cases inverted <;> rfl

/-- Within the value of a key, the flags in a call and in a list of a `RETURN` mapping are of no
effect, and the one in a list within a list is. -/
theorem flags_only_quote_members :
    let returned (inverted : Bool) : Query := (ofCollection "c").result
      (.mapping [("k", .list [.var ⟨"y", inverted⟩]), ("l", .var ⟨"w", true⟩)])
    let e (inverted : Bool) : Expr := .object [
      ("a", .call "F" [.var ⟨"x", inverted⟩, .subquery (returned inverted)]),
      ("b", .list [.list [.var ⟨"z", true⟩, .var ⟨"z", false⟩]])]
    (e true).unflagged .clause = (e false).unflagged .clause ∧
      (e true).render .clause = (e false).render .clause ∧
      (e true).render .clause = .ok ("\x7b\"a\": F(x, (FOR obj IN c RETURN " ++
        "\x7b\"k\": y, \"l\": \"w\"\x7d)), \"b\": [[\"z\", z]]\x7d") := by
  intro returned e
  have hsame : (e true).unflagged .clause = (e false).unflagged .clause := rfl
  exact ⟨hsame, flags_only_quote.1 .clause _ _ hsame, rfl⟩

end Query

end Pagewise
