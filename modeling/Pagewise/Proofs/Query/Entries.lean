import Pagewise.Query.Edit
import Pagewise.Proofs.Query.Clauses
import Pagewise.Proofs.Query.Comparing

/-!
# Entries in any order

An object literal or a `RETURN` mapping can be put together in many ways: from entries in any order,
some of them overwritten by later ones, from a mapping with distinct keys, or entry by entry. All
that counts is the value that each key is given last (`Keyed.last?`). Entries that agree in this make the
same expression and the same query, with the keys in ascending order.

* `Expr.LiteralOf`, `Query.Returning`: the ways in which entries are put into an object literal and
  into what a query returns. By `LiteralOf.eq_ofEntries` and `Returning.eq_result` all of them come
  to the same.
* `Expr.render_object_eq_ok`, `Query.exists_return_of_compose`: how entries are written.
* **`Query.entries_canonical`**: entries that stand for the same mapping make the same expression
  and the same query, in whose texts each key stands once, in ascending order.
-/

namespace Pagewise

namespace Keyed

universe u

variable {α : Type u} {es m : List (String × α)}

/-- The value that a key is given last. -/
def last? (key : String) (entries : List (String × α)) : Option α :=
  get? key entries.reverse

/-- Entries that stand for the same mapping, when it is told which values count as the same. -/
def Alike (Same : α → α → Prop) (es es' : List (String × α)) : Prop :=
  ∀ key, Option.Rel Same (last? key es) (last? key es')

theorem get?_ofList_eq (key : String) (es : List (String × α)) :
    get? key (ofList es) = last? key es :=
  get?_ofList es key

/-- There is one mapping in order with the values that keys are given last. -/
theorem eq_ofList (h : Sorted m) (hget : ∀ key, get? key m = last? key es) : m = ofList es :=
  h.ext (sorted_ofList es) fun key => by rw [hget, get?_ofList_eq]

/-- A key that occurs once is given its value last. -/
theorem last?_of_nodup (h : (m.map (·.1)).Nodup) (key : String) : last? key m = get? key m :=
  (get?_perm h m.reverse_perm.symm key).symm

theorem Alike.ofList_eq {es es' : List (String × α)} (h : Alike (· = ·) es es') :
    ofList es = ofList es' := by
  refine (sorted_ofList es).ext (sorted_ofList es') fun key => ?_
  rw [get?_ofList_eq, get?_ofList_eq]
  have hrel := h key
  generalize last? key es = o, last? key es' = o' at hrel ⊢
  cases hrel with
  | none => rfl
  | some hsame => rw [hsame]

theorem mem_ofList_iff {key : String} {value : α} :
    (key, value) ∈ ofList es ↔ last? key es = some value := by
  rw [← get?_ofList_eq, get?_eq_some_iff (sorted_ofList es).nodup_keys]

end Keyed

/-! ## Object literals -/

namespace Expr

variable {es m : List (String × Expr)} {e : Expr}

/-- **The ways to put entries into an object literal.** -/
inductive LiteralOf (es : List (String × Expr)) : Expr → Prop
  /-- The entries are taken one after the other. -/
  | entries : LiteralOf es (.ofEntries es)
  /-- They were collected in a mapping in the order of its keys. -/
  | ordered {m : List (String × Expr)} (hsorted : Keyed.Sorted m)
      (hget : ∀ key, Keyed.get? key m = Keyed.last? key es) : LiteralOf es (.object m)
  /-- They were collected in a mapping that lists its entries in no order of its own. -/
  | unordered {m : List (String × Expr)} (hkeys : (m.map (·.1)).Nodup)
      (hget : ∀ key, Keyed.get? key m = Keyed.last? key es) : LiteralOf es (.ofEntries m)

/-- All ways make the same literal. -/
theorem LiteralOf.eq_ofEntries (h : LiteralOf es e) : e = .ofEntries es := by
  cases h with
  | entries => rfl
  | ordered hsorted hget => rw [Keyed.eq_ofList hsorted hget, ofEntries]
  | unordered hkeys hget =>
    refine congrArg object (Keyed.eq_ofList (Keyed.sorted_ofList _) fun key => ?_)
    rw [Keyed.get?_ofList_eq, Keyed.last?_of_nodup hkeys, hget]

/-- Literals compare equal when the values that each key is given last do. -/
theorem ofEntries_equals {es es' : List (String × Expr)}
    (h : Keyed.Alike (fun a b => a.equals b = true) es es') :
    entriesEqual (Keyed.ofList es) (Keyed.ofList es') = true := by
  refine entriesEqual_of_get? (Keyed.sorted_ofList es) (Keyed.sorted_ofList es') fun key => ?_
  rw [Keyed.get?_ofList_eq, Keyed.get?_ofList_eq]
  exact h key

/-! ## How entries are written -/

/-- The text of an object with these keys and these texts of their values. -/
def entriesText (keys texts : List String) : String :=
  "\x7b" ++ ", ".intercalate (List.zipWith
    (fun key text => "\"" ++ key ++ "\"" ++ ": " ++ text) keys texts) ++ "\x7d"

/-- Entries have texts when all their values have. -/
theorem renderEntries_eq_ok {place : Place} {lines : List String} :
    renderEntries place m = .ok lines ↔
      ∃ texts, m.map (fun e => e.2.render place) = texts.map .ok ∧
        lines = List.zipWith entryText (m.map (·.1)) texts := by
  induction m generalizing lines with
  | nil =>
    constructor
    · intro h
      obtain rfl := Except.ok.inj h
      exact ⟨[], rfl, rfl⟩
    · rintro ⟨texts, htexts, rfl⟩
      obtain rfl := List.map_eq_nil_iff.mp htexts.symm
      rfl
  | cons a rest ih =>
    obtain ⟨key, value⟩ := a
    rw [renderEntries]
    constructor
    · intro h
      cases hvalue : value.render place with
      | error err => rw [hvalue] at h; cases h
      | ok text =>
        cases hrest : renderEntries place rest with
        | error err => rw [hvalue, hrest] at h; cases h
        | ok later =>
          rw [hvalue, hrest] at h
          obtain rfl := Except.ok.inj h
          obtain ⟨texts, htexts, rfl⟩ := ih.mp hrest
          refine ⟨text :: texts, ?_, rfl⟩
          rw [List.map_cons, List.map_cons, htexts, hvalue]
    · rintro ⟨texts, htexts, rfl⟩
      cases texts with
      | nil => cases htexts
      | cons text texts =>
        obtain ⟨hvalue, hrest⟩ := List.cons.inj htexts
        have hlater := ih.mpr ⟨texts, hrest, rfl⟩
        rw [show value.render place = .ok text from hvalue, hlater]
        rfl

/-- An object literal is written with its keys in their order, each with the text of its value. -/
theorem render_object_eq_ok {place : Place} {text : String} :
    (object m).render place = .ok text ↔
      ∃ texts, m.map (fun e => e.2.render .member) = texts.map .ok ∧
        text = entriesText (m.map (·.1)) texts := by
  rw [render]
  constructor
  · intro h
    cases hlines : renderEntries .member m with
    | error err => rw [hlines] at h; cases h
    | ok lines =>
      rw [hlines] at h
      obtain rfl := Except.ok.inj h
      obtain ⟨texts, htexts, rfl⟩ := renderEntries_eq_ok.mp hlines
      exact ⟨texts, htexts, rfl⟩
  · rintro ⟨texts, htexts, rfl⟩
    rw [renderEntries_eq_ok.mpr ⟨texts, htexts, rfl⟩]
    rfl

end Expr

namespace Query

variable {q r : Query} {es : List (String × Expr)}

/-- The text of a query ends with what it returns. -/
theorem exists_return_of_compose {text : String} (h : q.compose = .ok text) :
    ∃ front value, q.yield.render q.rowVar = .ok value ∧ text = front ++ " RETURN " ++ value := by
  obtain ⟨texts, htexts, rfl⟩ := compose_eq_ok.mp h
  obtain ⟨front, last, rfl, hfront, hlast⟩ := List.map_eq_append_iff.mp htexts.symm
  obtain ⟨t, rfl, hreturn⟩ := List.map_eq_singleton_iff.mp hlast
  have hne : front ≠ [] := by
    rintro rfl
    simp at hfront
  cases hvalue : q.yield.render q.rowVar with
  | error err => rw [hvalue] at hreturn; cases hreturn
  | ok value =>
    rw [hvalue] at hreturn
    obtain rfl : t = "RETURN " ++ value := Except.ok.inj hreturn
    refine ⟨" ".intercalate front, value, rfl, ?_⟩
    have hblank : " RETURN " = " " ++ "RETURN " := rfl
    rw [String.intercalate_append_of_ne_nil hne (List.cons_ne_nil _ _),
      String.intercalate_singleton, hblank, String.append_assoc, String.append_assoc,
      String.append_assoc]

/-! ## What a query returns -/

/-- A query with entries added one by one to what it returns. -/
def withFields (q : Query) (entries : List (String × Expr)) : Query :=
  entries.foldl (fun q e => q.resultField e.1 e.2) q

/-- **The ways to put entries into what a query returns.** -/
inductive Returning (q : Query) : List (String × Expr) → Query → Prop
  /-- They are given at once. -/
  | atOnce (es : List (String × Expr)) : Returning q es (q.result (.ofEntries es))
  /-- They were collected in a mapping in the order of its keys. -/
  | ordered {es m : List (String × Expr)} (hsorted : Keyed.Sorted m)
      (hget : ∀ key, Keyed.get? key m = Keyed.last? key es) : Returning q es (q.result (.mapping m))
  /-- They are added one by one, in place of something that is no mapping. -/
  | oneByOne (start : Yield) (hstart : ∀ fields, start ≠ .mapping fields)
      {es : List (String × Expr)} (hne : es ≠ []) : Returning q es ((q.result start).withFields es)
  /-- Further entries are added one by one. -/
  | later {es : List (String × Expr)} {r : Query} (h : Returning q es r)
      (later : List (String × Expr)) : Returning q (es ++ later) (r.withFields later)

theorem withFields_mapping (q : Query) (m es : List (String × Expr)) :
    (q.result (.mapping m)).withFields es = q.result (.mapping (Keyed.insertAll m es)) := by
  induction es generalizing m with
  | nil => rfl
  | cons e rest ih => exact ih (Keyed.insert e.1 e.2 m)

/-- All ways make the same query. -/
theorem Returning.eq_result (h : q.Returning es r) : r = q.result (.ofEntries es) := by
  induction h with
  | atOnce => rfl
  | ordered hsorted hget => rw [Keyed.eq_ofList hsorted hget, Yield.ofEntries]
  | oneByOne start hstart hne =>
    obtain ⟨e, rest, rfl⟩ := List.exists_cons_of_ne_nil hne
    -- What is no mapping has no entries that could stay.
    have hfields : start.fields = [] := by
      cases start with
      | mapping fields => exact absurd rfl (hstart fields)
      | _ => rfl
    have hfirst : (q.result start).resultField e.1 e.2 =
        q.result (.mapping (Keyed.insert e.1 e.2 [])) := by
      rw [← hfields]
      rfl
    rw [withFields, List.foldl_cons, hfirst]
    exact withFields_mapping q _ rest
  | later _ later ih =>
    rw [ih, Yield.ofEntries, withFields_mapping, Yield.ofEntries, Keyed.ofList_append]

/-- Queries that are equal but for what they return compare equal when that does. -/
theorem result_equals {q q' : Query} (h : (q.result .rowVar).equals (q'.result .rowVar) = true)
    {y y' : Yield} (hy : y.equals y' = true) : (q.result y).equals (q'.result y') = true := by
  obtain ⟨hrowVar, hcollection, hsource, hnested, hlets, hfilters, hgroupings, hsortKeys, hlimit,
    -, hrest⟩ := equals_iff.mp h
  exact equals_iff.mpr ⟨hrowVar, hcollection, hsource, hnested, hlets, hfilters, hgroupings,
    hsortKeys, hlimit, hy, hrest⟩

/-- The text of a query that returns entries ends with them, each key with the text of its value. -/
theorem Returning.exists_entries (h : q.Returning es r) (hfrozen : r.frozenText? = none)
    {text : String} (htext : r.render.1 = .ok text) :
    ∃ front texts, (Keyed.ofList es).map (fun e => e.2.render .field) = texts.map .ok ∧
      text = front ++ " RETURN " ++ Expr.entriesText ((Keyed.ofList es).map (·.1)) texts := by
  rw [r.renders.text_eq, text_eq, hfrozen] at htext
  obtain ⟨front, value, hvalue, rfl⟩ := exists_return_of_compose htext
  obtain rfl := h.eq_result
  have hyield : (Yield.mapping (Keyed.ofList es)).render q.rowVar = .ok value := hvalue
  rw [Yield.render] at hyield
  cases hlines : Expr.renderEntries .field (Keyed.ofList es) with
  | error err => rw [hlines] at hyield; cases hyield
  | ok lines =>
    rw [hlines] at hyield
    obtain rfl := Except.ok.inj hyield
    obtain ⟨texts, htexts, rfl⟩ := Expr.renderEntries_eq_ok.mp hlines
    exact ⟨front, texts, htexts, rfl⟩

/-- **Entries that stand for the same mapping make the same expression and the same query.** Take
entries in which each key is given the same value last, whatever came before. Object literals that
are made from them are equal, in whatever way they are made: from the entries, from a mapping in the
order of its keys, or from one that lists its entries in any order. Queries that return them are
equal too, when they are equal but for what they return: whether the entries are given at once,
collected in a mapping, added one by one in place of something that is no mapping, or added one by
one to some that were given before, any number of times. If the last values only compare equal, then
so do the expressions and the queries, and they have the same texts. In an object literal and behind
`RETURN` stand the keys that there are, in strictly ascending order, each with the text of the value
that it is given last. -/
theorem entries_canonical :
    (∀ es es' : List (String × Expr), Keyed.Alike (· = ·) es es' →
      (∀ e e', Expr.LiteralOf es e → Expr.LiteralOf es' e' → e = e') ∧
        ∀ q r r' : Query, q.Returning es r → q.Returning es' r' → r = r') ∧
      (∀ es es' : List (String × Expr), Keyed.Alike (fun a b => a.equals b = true) es es' →
        (∀ e e', Expr.LiteralOf es e → Expr.LiteralOf es' e' →
          e.equals e' = true ∧ ∀ place, e.render place = e'.render place) ∧
          ∀ q q' r r' : Query, (q.result .rowVar).equals (q'.result .rowVar) = true →
            q.Returning es r → q'.Returning es' r' →
              r.equals r' = true ∧ r.render.1 = r'.render.1 ∧ r.text = r'.text ∧
                ∀ position, r.nestedText position = r'.nestedText position) ∧
      ∀ es : List (String × Expr), ∃ m : List (String × Expr),
        (m.map (·.1)).Pairwise (· < ·) ∧
          (∀ key value, (key, value) ∈ m ↔ Keyed.last? key es = some value) ∧
          (∀ e place text, Expr.LiteralOf es e → (e.render place = .ok text ↔
            ∃ texts, m.map (fun e => e.2.render .member) = texts.map .ok ∧
              text = Expr.entriesText (m.map (·.1)) texts)) ∧
          ∀ (q r : Query) (text : String), q.Returning es r → r.frozenText? = none →
            r.render.1 = .ok text →
              ∃ front texts, m.map (fun e => e.2.render .field) = texts.map .ok ∧
                text = front ++ " RETURN " ++ Expr.entriesText (m.map (·.1)) texts := by
  refine ⟨fun es es' h => ⟨fun e e' he he' => ?_, fun q r r' hr hr' => ?_⟩,
    fun es es' h => ⟨fun e e' he he' => ?_, fun q q' r r' hq hr hr' => ?_⟩, fun es => ?_⟩
  · rw [he.eq_ofEntries, he'.eq_ofEntries, Expr.ofEntries, Expr.ofEntries, h.ofList_eq]
  · rw [hr.eq_result, hr'.eq_result, Yield.ofEntries, Yield.ofEntries, h.ofList_eq]
  · obtain rfl := he.eq_ofEntries
    obtain rfl := he'.eq_ofEntries
    have hequals : (Expr.ofEntries es).equals (Expr.ofEntries es') = true :=
      Expr.equals_object_iff.mpr ⟨_, rfl, Expr.ofEntries_equals h⟩
    exact ⟨hequals, fun place => Expr.render_eq_of_equals place hequals⟩
  · obtain rfl := hr.eq_result
    obtain rfl := hr'.eq_result
    have hyield := Yield.equals_mapping_iff.mpr ⟨_, rfl, Expr.ofEntries_equals h⟩
    have hequals := result_equals hq hyield
    have hsame := interchangeable_of_equals hequals
    exact ⟨hequals, hsame.render_eq, hsame.text, hsame.nestedText⟩
  · refine ⟨Keyed.ofList es, (Keyed.sorted_ofList es).keys, fun key value => Keyed.mem_ofList_iff,
      fun e place text he => ?_, fun q r text hr hfrozen htext => hr.exists_entries hfrozen htext⟩
    obtain rfl := he.eq_ofEntries
    exact Expr.render_object_eq_ok

/-- Entries of which one is overwritten are added one by one, in place of a single expression, and
the two that are left are given at once. -/
theorem entries_canonical_overwritten :
    let es : List (String × Expr) := [("b", .raw "1"), ("a", .raw "u.a"), ("b", .raw "u.b")]
    let es' : List (String × Expr) := [("a", .raw "u.a"), ("b", .raw "u.b")]
    let q : Query := (ofCollection "user").iterateAs "u"
    let r : Query := (q.result (.single (.raw "u"))).withFields es
    Keyed.Alike (· = ·) es es' ∧ Expr.ofEntries es = Expr.ofEntries es' ∧
      r = q.result (.ofEntries es') ∧
      r.render.1 = .ok "FOR u IN user RETURN \x7b\"a\": u.a, \"b\": u.b\x7d" := by
  intro es es' q r
  have hsame : Keyed.Alike (· = ·) es es' := by
    intro key
    by_cases hb : key = "b"
    · subst hb
      exact .some rfl
    · by_cases ha : key = "a"
      · subst ha
        exact .some rfl
      · simp [Keyed.last?, Keyed.get?, es, es', ha, hb]
  obtain ⟨hexpr, hquery⟩ := entries_canonical.1 es es' hsame
  have hr : q.Returning es r :=
    .oneByOne (.single (.raw "u")) (fun _ => Yield.noConfusion) (List.cons_ne_nil _ _)
  exact ⟨hsame, hexpr _ _ .entries .entries, hquery q _ _ hr (.atOnce es'), rfl⟩

end Query

end Pagewise
