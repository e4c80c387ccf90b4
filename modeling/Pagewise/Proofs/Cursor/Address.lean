import Pagewise.Proofs.Cursor.Journal
import Pagewise.Proofs.Text.Percent

/-!
# Where the cursors of a database are

A cursor is addressed by the name that the server gave it, which can be any text. The name is the
last segment of the address, percent-encoded, so that it is told apart from every other name and
stays within its segment, whatever characters it holds.

* `Demand.addressed`: what is asked for with `PUT` and `DELETE`.
* **`Reader.cursor_addresses`**: the addresses that sessions use, and what is read out of them.
-/

namespace Pagewise

/-- What comes before the name in the address of a cursor. -/
theorem cursorPathOf_eq (id : String) :
    cursorPathOf id = "/_api/cursor/" ++ Text.Percent.encode id :=
  rfl

/-- The pages of a cursor are asked for with `PUT`, its end with `DELETE`, and nothing else is. -/
theorem Demand.addressed {s : Statement} {d : Demand}
    (h : (d.request s).method = .put ∨ (d.request s).method = .delete) :
    ∃ id, d.request s = s.advance id ∨ d.request s = s.deletion id := by
  cases d with
  | create => rcases h with h | h <;> cases h
  | advance id => exact ⟨id, .inl rfl⟩
  | delete id => exact ⟨id, .inr rfl⟩

namespace Reader

variable {α : Type}

open Text.Percent in
/-- **Addresses are faithful to names.** A cursor is advanced and deleted at one address: the path
of the cursors behind the endpoint, and as the last segment the name of the cursor in
percent-encoding. It is a segment for every name, so no name brings in a delimiter of its own, and
read as UTF-8 it gives back the name, so that different names have different addresses. Whatever a
session sends with `PUT` and `DELETE` goes to such an address. -/
theorem cursor_addresses (s : Statement) :
    (∀ id : String,
      s.advance id = ⟨.put, s.endpoint ++ "/_api/cursor/" ++ encode id, none, none⟩ ∧
        s.deletion id = ⟨.delete, s.endpoint ++ "/_api/cursor/" ++ encode id, none, none⟩ ∧
        Segment (encode id).toList ∧ decode? (encode id) = some id ∧
        ∀ c ∈ ['/', '?', '#'], c ∉ (encode id).toList) ∧
      (∀ id id' : String, (s.advance id).url = (s.advance id').url → id = id') ∧
      ∀ (decode : Decoder α) (w : Wire) (ops : List (Op α)), ∃ requests : List Request,
        ((⟨s.cursor, decode⟩ : Reader α).run w ops).2.2.sent = w.sent ++ requests ∧
          ∀ r ∈ requests, r.method = .put ∨ r.method = .delete →
            ∃ id, r = s.advance id ∨ r = s.deletion id := by
  refine ⟨fun id => ⟨?_, ?_, segment_encode id, decode?_encode id, fun c hc => ?_⟩,
    fun id id' h => ?_, fun decode w ops => ?_⟩
  · rw [Statement.advance, cursorPathOf_eq, String.append_assoc]
    rfl
  · rw [Statement.deletion, cursorPathOf_eq, String.append_assoc]
    rfl
  · exact (segment_encode id).not_mem hc
  · have hpath : cursorPathOf id = cursorPathOf id' := (String.append_right_inj s.endpoint).mp h
    rw [cursorPathOf_eq, cursorPathOf_eq, String.append_right_inj] at hpath
    exact encode_injective hpath
  · have hrun := Reader.records_run ⟨s.cursor, decode⟩ w ops (Cursor.wellFormed_cursor s)
    refine ⟨_, hrun.carried.sent_eq, fun r hr hmethod => ?_⟩
    obtain ⟨x, -, rfl⟩ := List.mem_map.mp hr
    exact x.1.addressed hmethod

/-- A name that would climb the path and begin a query stays one segment. -/
theorem cursor_addresses_climbing :
    let s : Statement := ⟨"http://db", "RETURN 1", true, none, []⟩
    (s.deletion "../ü?%").url = "http://db/_api/cursor/..%2F%C3%BC%3F%25" ∧
      Text.Percent.decode? "..%2F%C3%BC%3F%25" = some "../ü?%" ∧
      (s.deletion "../ü?%").url ≠ (s.advance "7").url := by
  intro s
  obtain ⟨hid, hdiffer, -⟩ := @cursor_addresses Json s
  have hencode : Text.Percent.encode "../ü?%" = "..%2F%C3%BC%3F%25" := by decide
  obtain ⟨hadvance, hdeletion, -, hdecode, -⟩ := hid "../ü?%"
  rw [hencode] at hdeletion hdecode
  refine ⟨congrArg (·.url) hdeletion, hdecode, fun hsame => ?_⟩
  exact absurd (hdiffer "../ü?%" "7" hsame) (by decide)

end Reader

end Pagewise
