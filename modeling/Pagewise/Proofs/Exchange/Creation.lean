import Pagewise.Cursor.Basic
import Pagewise.Proofs.Json.Reading

/-!
# The body that creates a cursor

Whatever a query and its bind variables hold, none of it breaks out of its place in the body: a
reader finds the four members and in them the values that were written.

* `Creation.Readable`: the bodies that a reader can take in.
* `Creation.ofText?_print`: what a reader finds in them.
* **`Statement.creation_read_back`**: the body of a request for a cursor is read back, and no other
  request for a cursor has that body.
-/

namespace Pagewise

namespace Creation

variable {c c' : Creation}

/-- **A body that a reader can take in**: its numbers are integers of 64 bits, the members of its
objects are in order, and its arrays and objects are not nested too deeply. -/
structure Readable (c : Creation) : Prop where
  batchSize : ∀ n, c.batchSize = some n → n ≤ maxUnsigned 64
  binds : (Json.object c.binds).Exact
  /-- The body itself and the bind variables are two of the objects that are open at once. -/
  depth : c.toJson.depth ≤ Json.maxDepth

/-- The batch size as it is written. -/
def batchSizeJson (c : Creation) : Json :=
  c.batchSize.elim .null fun n => .number (.int n)

theorem batchSizeJson_inj (h : c.batchSizeJson = c'.batchSizeJson) :
    c.batchSize = c'.batchSize := by
  rcases c with ⟨_, _, _ | n, _⟩ <;> rcases c' with ⟨_, _, _ | n', _⟩
  · rfl
  · cases h
  · cases h
  · injection h with h
    injection h with h
    exact congrArg some (Int.ofNat.inj h)

theorem exact_batchSizeJson (h : c.Readable) : c.batchSizeJson.Exact := by
  unfold batchSizeJson
  cases hsize : c.batchSize with
  | none => trivial
  | some n =>
    have fits := h.batchSize n hsize
    have least : minSigned 64 = -(2 ^ 63) := by decide
    have word : Json.Number.isWord n := by
      simp only [Json.Number.isWord, Bool.and_eq_true, decide_eq_true_eq]
      omega
    exact word

theorem toJson_eq (c : Creation) :
    c.toJson = .object [("query", .string c.query), ("count", .bool c.count),
      ("batchSize", c.batchSizeJson), ("bindVars", .object c.binds)] := by
  rw [toJson, batchSizeJson]
  cases c.batchSize <;> rfl

/-- **The four members are read back**, in the order of their keys. -/
theorem ofText?_print (h : c.Readable) :
    Json.ofText? c.print = some (.object [("batchSize", c.batchSizeJson),
      ("bindVars", .object c.binds), ("count", .bool c.count), ("query", .string c.query)]) := by
  have exact : Json.MembersExact [("query", .string c.query), ("count", .bool c.count),
      ("batchSize", c.batchSizeJson), ("bindVars", .object c.binds)] :=
    ⟨trivial, trivial, exact_batchSizeJson h, h.binds, trivial⟩
  have hd := h.depth
  rw [toJson_eq] at hd
  rw [print, toJson_eq, Json.ofText?_printObject exact hd]
  simp only [Keyed.ofList, Keyed.insertAll, List.foldl_cons, List.foldl_nil, Keyed.insert,
    String.reduceLT, String.reduceEq, ↓reduceIte]

/-- **Bodies with one text are equal.** -/
theorem print_inj (h : c.Readable) (h' : c'.Readable) (heq : c.print = c'.print) : c = c' := by
  have found := ofText?_print h
  rw [heq, ofText?_print h'] at found
  obtain ⟨hsize, hbinds, hcount, hquery⟩ : c'.batchSizeJson = c.batchSizeJson ∧
      c'.binds = c.binds ∧ c'.count = c.count ∧ c'.query = c.query := by simpa using found
  have hsize := batchSizeJson_inj hsize
  cases c
  cases c'
  simp_all

end Creation

namespace Statement

/-- **The body of a request for a cursor is read back** as an object with just the four members that
it was made of, whatever characters the query and the bind variables hold and however the values
are nested. So no two requests for cursors have one body, unless they agree in all four. -/
theorem creation_read_back (s : Statement) (query : String) (count : Bool)
    (batchSize : Option Nat) (h : Creation.Readable ⟨query, count, batchSize, s.binds⟩) :
    (s.creation query count batchSize).body.bind Json.ofText? =
        some (.object [("batchSize", batchSize.elim .null fun n => .number (.int n)),
          ("bindVars", .object s.binds), ("count", .bool count), ("query", .string query)]) ∧
      ∀ (s' : Statement) (query' : String) (count' : Bool) (batchSize' : Option Nat),
        Creation.Readable ⟨query', count', batchSize', s'.binds⟩ →
          (s'.creation query' count' batchSize').body = (s.creation query count batchSize).body →
            query' = query ∧ count' = count ∧ batchSize' = batchSize ∧ s'.binds = s.binds := by
  refine ⟨Creation.ofText?_print h, fun s' query' count' batchSize' h' heq => ?_⟩
  have texts : Creation.print ⟨query', count', batchSize', s'.binds⟩ =
      Creation.print ⟨query, count, batchSize, s.binds⟩ := Option.some.inj heq
  injection Creation.print_inj h' h texts with hquery hcount hsize hbinds
  exact ⟨hquery, hcount, hsize, hbinds⟩

/-- A query that tries to end its string and the object, and values at the limits of the integers,
with control characters, and nested. -/
theorem creation_read_back_hostile :
    let query := "RETURN \"\\\"\n\t\x07\",\"count\":false\x7d"
    let s : Statement := ⟨"http://db", query, true, some 4294967295,
      [("a", .array [.number (.int (-9223372036854775808)),
          .number (.int 18446744073709551615), .array []]),
        ("b", .object [("\x00\"\x1f", .null), ("é", .object [])])]⟩
    Creation.Readable ⟨query, true, s.batchSize, s.binds⟩ ∧
      (s.creation query true s.batchSize).body.bind Json.ofText? =
        some (.object [("batchSize", .number (.int 4294967295)), ("bindVars", .object s.binds),
          ("count", .bool true), ("query", .string query)]) ∧
      (s.creation query false s.batchSize).body ≠ (s.creation query true s.batchSize).body := by
  intro query s
  have least : Json.Number.isWord (-9223372036854775808) := by decide
  have greatest : Json.Number.isWord 18446744073709551615 := by decide
  have sorted (key key' : String) (v v' : Json) (h : key < key') :
      Keyed.Sorted [(key, v), (key', v')] :=
    List.pairwise_pair.2 h
  have binds : (Json.object s.binds).Exact :=
    ⟨sorted _ _ _ _ (by simp only [String.reduceLT]), ⟨least, greatest, trivial, trivial⟩,
      ⟨sorted _ _ _ _ (by simp only [String.reduceLT]), trivial, ⟨.nil, trivial⟩, trivial⟩, trivial⟩
  have readable (count : Bool) : Creation.Readable ⟨query, count, s.batchSize, s.binds⟩ :=
    ⟨by rintro _ ⟨⟩; decide, binds, by cases count <;> decide⟩
  obtain ⟨hread, hother⟩ := creation_read_back s query true s.batchSize (readable true)
  refine ⟨readable true, hread, fun heq => ?_⟩
  obtain ⟨-, hcount, -⟩ := hother s query false s.batchSize (readable false) heq
  cases hcount

end Statement

end Pagewise
