import Pagewise.Query.Basic

/-!
# Equality of queries

Two queries are equal when all they hold is: clauses, bind variables, options, and whether and
which text is kept. Bind values are compared as JSON values (`Json.equals`). Entries of object
literals and mappings are compared in their order, which is the order of their keys.

* `Expr.equals_call_iff` and its like: what compares equal to an expression of a given form.
* `Query.equals_iff`: what it takes for queries to compare equal.
-/

namespace Pagewise

mutual

/-- Equality of expressions. -/
def Expr.equals : Expr → Expr → Bool
  | .raw a, .raw b => a == b
  | .var a, .var b => a == b
  | .call f as, .call g bs => f == g && Expr.allEqual as bs
  | .subquery a, .subquery b => a.equals b
  | .object as, .object bs => Expr.entriesEqual as bs
  | .list as, .list bs => Expr.allEqual as bs
  | _, _ => false

/-- Equality one by one. -/
def Expr.allEqual : List Expr → List Expr → Bool
  | [], [] => true
  | a :: as, b :: bs => a.equals b && Expr.allEqual as bs
  | _, _ => false

/-- Equality of entries with names. -/
def Expr.entriesEqual : List (String × Expr) → List (String × Expr) → Bool
  | [], [] => true
  | (k, a) :: as, (l, b) :: bs => k == l && a.equals b && Expr.entriesEqual as bs
  | _, _ => false

/-- Equality of expressions that may be missing. -/
def Expr.optionsEqual : Option Expr → Option Expr → Bool
  | none, none => true
  | some a, some b => a.equals b
  | _, _ => false

/-- Equality of the pairs of a `COLLECT` clause. -/
def Grouping.pairsEqual : List (Expr × Expr) → List (Expr × Expr) → Bool
  | [], [] => true
  | (a, b) :: ps, (c, d) :: qs => a.equals c && b.equals d && Grouping.pairsEqual ps qs
  | _, _ => false

/-- Equality of `COLLECT` clauses. -/
def Grouping.allEqual : List Grouping → List Grouping → Bool
  | [], [] => true
  | ⟨ps, into⟩ :: as, ⟨qs, other⟩ :: bs =>
    Grouping.pairsEqual ps qs && into == other && Grouping.allEqual as bs
  | _, _ => false

/-- Equality of what is returned. -/
def Yield.equals : Yield → Yield → Bool
  | .rowVar, .rowVar => true
  | .single a, .single b => a.equals b
  | .mapping as, .mapping bs => Expr.entriesEqual as bs
  | _, _ => false

/-- Equality of queries, in all that they hold. -/
def Query.equals : Query → Query → Bool
  | ⟨rowVar, collection, source, nested, lets, filters, groupings, sortKeys, limit, yield, binds,
      options, cacheEnabled, frozen, snapshot⟩,
    ⟨rowVar', collection', source', nested', lets', filters', groupings', sortKeys', limit',
      yield', binds', options', cacheEnabled', frozen', snapshot'⟩ =>
    rowVar == rowVar' && collection == collection' && Expr.optionsEqual source source'
      && Expr.allEqual nested nested' && Expr.entriesEqual lets lets' && filters == filters'
      && Grouping.allEqual groupings groupings' && sortKeys == sortKeys' && limit == limit'
      && yield.equals yield' && Json.membersEqual binds binds' && options == options'
      && cacheEnabled == cacheEnabled' && frozen == frozen' && snapshot == snapshot'

end

/-! ## What compares equal to a given form -/

namespace Expr

theorem equals_raw_iff {text : String} {e : Expr} : (raw text).equals e = true ↔ e = .raw text := by
  rw [equals.eq_def]
  cases e <;> simp [@eq_comm _ text]

theorem equals_var_iff {v : Var} {e : Expr} : (var v).equals e = true ↔ e = .var v := by
  rw [equals.eq_def]
  cases e <;> simp [@eq_comm _ v]

theorem equals_call_iff {f : String} {args : List Expr} {e : Expr} :
    (call f args).equals e = true ↔ ∃ args', e = .call f args' ∧ allEqual args args' = true := by
  rw [equals.eq_def]
  cases e <;> simp [@eq_comm _ f, and_assoc]

theorem equals_subquery_iff {q : Query} {e : Expr} :
    (subquery q).equals e = true ↔ ∃ q', e = .subquery q' ∧ q.equals q' = true := by
  rw [equals.eq_def]
  cases e <;> simp

theorem equals_object_iff {members : List (String × Expr)} {e : Expr} :
    (object members).equals e = true ↔
      ∃ members', e = .object members' ∧ entriesEqual members members' = true := by
  rw [equals.eq_def]
  cases e <;> simp

theorem equals_list_iff {items : List Expr} {e : Expr} :
    (list items).equals e = true ↔ ∃ items', e = .list items' ∧ allEqual items items' = true := by
  rw [equals.eq_def]
  cases e <;> simp

theorem allEqual_nil_iff {es : List Expr} : allEqual [] es = true ↔ es = [] := by
  rw [allEqual.eq_def]
  cases es <;> simp

theorem allEqual_cons_iff {a : Expr} {as es : List Expr} :
    allEqual (a :: as) es = true ↔
      ∃ b bs, es = b :: bs ∧ a.equals b = true ∧ allEqual as bs = true := by
  rw [allEqual.eq_def]
  cases es <;> simp [and_assoc]

theorem entriesEqual_nil_iff {es : List (String × Expr)} : entriesEqual [] es = true ↔ es = [] := by
  rw [entriesEqual.eq_def]
  cases es <;> simp

theorem entriesEqual_cons_iff {k : String} {a : Expr} {as es : List (String × Expr)} :
    entriesEqual ((k, a) :: as) es = true ↔
      ∃ b bs, es = (k, b) :: bs ∧ a.equals b = true ∧ entriesEqual as bs = true := by
  rw [entriesEqual.eq_def]
  cases es with
  | nil => simp
  | cons e bs =>
    obtain ⟨l, b⟩ := e
    simp [@eq_comm _ k, and_assoc]

theorem optionsEqual_none_iff {o : Option Expr} : optionsEqual none o = true ↔ o = none := by
  rw [optionsEqual.eq_def]
  cases o <;> simp

theorem optionsEqual_some_iff {a : Expr} {o : Option Expr} :
    optionsEqual (some a) o = true ↔ ∃ b, o = some b ∧ a.equals b = true := by
  rw [optionsEqual.eq_def]
  cases o <;> simp

end Expr

namespace Grouping

theorem pairsEqual_nil_iff {ps : List (Expr × Expr)} : pairsEqual [] ps = true ↔ ps = [] := by
  rw [pairsEqual.eq_def]
  cases ps <;> simp

theorem pairsEqual_cons_iff {a b : Expr} {ps qs : List (Expr × Expr)} :
    pairsEqual ((a, b) :: ps) qs = true ↔
      ∃ c d rest, qs = (c, d) :: rest ∧ a.equals c = true ∧ b.equals d = true ∧
        pairsEqual ps rest = true := by
  rw [pairsEqual.eq_def]
  cases qs with
  | nil => simp
  | cons q rest =>
    obtain ⟨c, d⟩ := q
    simp [and_assoc]

theorem allEqual_nil_iff {gs : List Grouping} : allEqual [] gs = true ↔ gs = [] := by
  rw [allEqual.eq_def]
  cases gs <;> simp

theorem allEqual_cons_iff {ps : List (Expr × Expr)} {into : Option String}
    {as gs : List Grouping} :
    allEqual (⟨ps, into⟩ :: as) gs = true ↔
      ∃ qs bs, gs = ⟨qs, into⟩ :: bs ∧ pairsEqual ps qs = true ∧ allEqual as bs = true := by
  rw [allEqual.eq_def]
  cases gs with
  | nil => simp
  | cons g bs =>
    obtain ⟨qs, other⟩ := g
    simp [@eq_comm _ into, and_assoc, and_left_comm]

end Grouping

namespace Yield

theorem equals_rowVar_iff {y : Yield} : rowVar.equals y = true ↔ y = .rowVar := by
  rw [equals.eq_def]
  cases y <;> simp

theorem equals_single_iff {a : Expr} {y : Yield} :
    (single a).equals y = true ↔ ∃ b, y = .single b ∧ a.equals b = true := by
  rw [equals.eq_def]
  cases y <;> simp

theorem equals_mapping_iff {fields : List (String × Expr)} {y : Yield} :
    (mapping fields).equals y = true ↔
      ∃ fields', y = .mapping fields' ∧ Expr.entriesEqual fields fields' = true := by
  rw [equals.eq_def]
  cases y <;> simp

end Yield

/-- Queries are compared in all that they hold. -/
theorem Query.equals_iff {q r : Query} : q.equals r = true ↔
    q.rowVar = r.rowVar ∧ q.collection = r.collection ∧
      Expr.optionsEqual q.source r.source = true ∧ Expr.allEqual q.nested r.nested = true ∧
      Expr.entriesEqual q.lets r.lets = true ∧ q.filters = r.filters ∧
      Grouping.allEqual q.groupings r.groupings = true ∧ q.sortKeys = r.sortKeys ∧
      q.limit = r.limit ∧ q.yield.equals r.yield = true ∧
      Json.membersEqual q.binds r.binds = true ∧ q.options = r.options ∧
      q.cacheEnabled = r.cacheEnabled ∧ q.frozen = r.frozen ∧ q.snapshot = r.snapshot := by
  cases q
  cases r
  rw [equals.eq_def]
  simp only [Bool.and_eq_true, beq_iff_eq, and_assoc]

end Pagewise
