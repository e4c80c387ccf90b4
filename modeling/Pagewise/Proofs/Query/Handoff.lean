import Pagewise.Proofs.Query.History
import Pagewise.Proofs.Cursor.Journal

/-!
# From a query to the wire

An execution hands a cursor the text of the query, the bind variables and the options; the cursor
sends nothing before it is asked for rows. Whatever it is asked for first, the first request that it
sends creates the cursor on the server.

* `Creation.print_eq`: the body of that request, member by member.
* `Reader.stepJournal_of_unstarted`: whatever pulls rows first fetches the first page first.
* **`first_request`**: what the first request of an execution says, in terms of the calls that made
  the query.
-/

namespace Pagewise

/-! ## The body that creates a cursor -/

/-- The text of a body that creates a cursor. -/
def creationText (query : String) (count : Bool) (batchSize : Option Nat)
    (binds : List (String × Json)) : String :=
  "\x7b" ++ ",".intercalate [
    "\"query\":" ++ Json.quote query,
    "\"count\":" ++ (if count then "true" else "false"),
    "\"batchSize\":" ++ batchSize.elim "null" Nat.repr,
    "\"bindVars\":" ++ (Json.object binds).print] ++ "\x7d"

theorem Creation.print_eq (query : String) (count : Bool) (batchSize : Option Nat)
    (binds : List (String × Json)) :
    Creation.print ⟨query, count, batchSize, binds⟩ =
      creationText query count batchSize binds := by
  cases count <;> cases batchSize <;> rfl

/-! ## The first request -/

/-- Between two wires this request was sent, and any others behind it. -/
def Wire.SendsFirst (w w' : Wire) (request : Request) : Prop :=
  ∃ later, w'.sent = w.sent ++ request :: later

/-- Whether an operation pulls rows or asks about them. -/
def Op.pulls {α : Type} : Op α → Bool
  | .next | .first | .last | .length | .isEmpty => true
  | .close | .decodeWith _ => false

/-- Whether an operation needs the number of rows. -/
def Op.counts {α : Type} : Op α → Bool
  | .last | .length | .isEmpty => true
  | .next | .first | .close | .decodeWith _ => false

variable {α : Type} {c c' : Cursor} {w w' : Wire} {j : Journal}

namespace Cursor

/-- The first page is asked for with the cursor's own text and batch size. -/
theorem Records.sendsFirst {count : Bool} (hphase : c.phase = .unstarted)
    (h : c.Records w (c.fetchEvent count w :: j) c' w') :
    w.SendsFirst w' (c.creation c.query count c.batchSize) := by
  refine ⟨j.exchanges.map fun x => x.1.request c.toStatement, ?_⟩
  rw [h.carried.sent_eq, ← List.singleton_append, Journal.exchanges_append,
    Journal.exchanges_single, fetchEvent, pageDemand?, hphase]
  rfl

theorem nextJournal_of_unstarted (hwf : c.WellFormed) (hphase : c.phase = .unstarted) :
    ∃ later, c.nextJournal w = c.fetchEvent c.count w :: later := by
  have hf : c.phase ≠ .failed := by rw [hphase]; exact nofun
  have he : c.phase ≠ .exhausted := by rw [hphase]; exact nofun
  have hbuffer : c.buffer = [] := (hwf.unstarted hphase).2.2.1
  rcases hfetch : c.fetch c.count w with ⟨err | _, c₁, w₁⟩
  · exact ⟨[], nextJournal_of_error hf he hbuffer (.inl hphase) hfetch⟩
  · exact ⟨_, nextJournal_of_ok hf he hbuffer (.inl hphase) hfetch⟩

theorem firstJournal_of_unstarted (hphase : c.phase = .unstarted) :
    ∃ later, c.firstJournal w = c.fetchEvent c.count w :: later := by
  unfold firstJournal
  rw [hphase]
  rcases hfetch : c.fetch c.count w with ⟨err | _, c₁, w₁⟩
  · exact ⟨[], rfl⟩
  · exact ⟨_, rfl⟩

theorem lengthJournal_of_unstarted (hwf : c.WellFormed) (hphase : c.phase = .unstarted) :
    c.lengthJournal w = [c.fetchEvent true w] := by
  have htotal : c.total = none := (hwf.unstarted hphase).2.2.2.2
  rw [lengthJournal, htotal, hphase]

theorem lastJournal_of_unstarted (hwf : c.WellFormed) (hphase : c.phase = .unstarted) :
    ∃ later, c.lastJournal w = c.fetchEvent true w :: later := by
  have hf : ¬c.phase = .failed := by rw [hphase]; exact nofun
  rw [lastJournal, if_neg hf, lengthJournal_of_unstarted hwf hphase]
  split <;> exact ⟨_, rfl⟩

end Cursor

namespace Reader

/-- **Whatever pulls rows first, fetches the first page first.** -/
theorem stepJournal_of_unstarted {r : Reader α} {op : Op α} (hwf : r.cursor.WellFormed)
    (hphase : r.cursor.phase = .unstarted) (hop : op.pulls = true) :
    ∃ later, r.stepJournal w op =
      r.cursor.fetchEvent (op.counts || r.cursor.count) w :: later := by
  cases op with
  | next => exact Cursor.nextJournal_of_unstarted hwf hphase
  | first => exact Cursor.firstJournal_of_unstarted hphase
  | last => exact Cursor.lastJournal_of_unstarted hwf hphase
  | length | isEmpty => exact ⟨[], Cursor.lengthJournal_of_unstarted hwf hphase⟩
  | close | decodeWith _ => cases hop

/-- The rows of a stream are pulled one by one, so what it sends comes behind what its first row
takes. -/
theorem sent_drain (r : Reader α) (w : Wire) :
    ∃ later, (r.drain w).2.sent = (r.cursor.next w).wire.sent ++ later := by
  fun_induction r.drain w with
  | case1 r w e c₁ w₁ hnext => exact ⟨[], by rw [hnext, List.append_nil]⟩
  | case2 r w c₁ w₁ hnext => exact ⟨[], by rw [hnext, List.append_nil]⟩
  | case3 r w row c₁ w₁ hnext e hrow => exact ⟨[], by rw [hnext, List.append_nil]⟩
  | case4 r w row c₁ w₁ hnext value hrow values w₂ hrest ih =>
    obtain ⟨later, hlater⟩ := ih
    rw [(Cursor.records_next c₁ w₁).carried.sent_eq, List.append_assoc, hrest] at hlater
    exact ⟨_, by rw [hnext]; exact hlater⟩

/-- **Whatever pulls rows first, the first request creates the cursor.** -/
theorem sendsFirst_step (s : Statement) (decode : Decoder α) (w : Wire) {op : Op α}
    (hop : op.pulls = true) :
    w.SendsFirst (step ⟨s.cursor, decode⟩ w op).2.2
      (s.creation s.query (op.counts || s.count) s.batchSize) := by
  have hwf := Cursor.wellFormed_cursor s
  have hrecords := records_step ⟨s.cursor, decode⟩ w op hwf
  obtain ⟨later, hjournal⟩ :=
    stepJournal_of_unstarted (r := ⟨s.cursor, decode⟩) (w := w) hwf rfl hop
  rw [hjournal] at hrecords
  have hfirst := hrecords.sendsFirst rfl
  exact hfirst

theorem sendsFirst_drain (s : Statement) (decode : Decoder α) (w : Wire) :
    w.SendsFirst (drain ⟨s.cursor, decode⟩ w).2 (s.creation s.query s.count s.batchSize) := by
  have hop : Op.pulls (.next : Op α) = true := rfl
  obtain ⟨later, hstep⟩ := sendsFirst_step s decode w hop
  have hnext : (s.cursor.next w).wire.sent =
      w.sent ++ s.creation s.query s.count s.batchSize :: later := hstep
  obtain ⟨rows, hdrain⟩ := sent_drain ⟨s.cursor, decode⟩ w
  refine ⟨later ++ rows, ?_⟩
  rw [hdrain, hnext, List.append_assoc, List.cons_append]

end Reader

/-! ## What an execution hands over -/

namespace Query

/-- The bind variables of a life, the last one last. -/
def bound (calls : List Call) : List (String × Json) :=
  ((calls.filterMap Call.edit?).filterMap Edit.binds?).flatten

/-- The options that were set last in a life. -/
def staged (calls : List Call) : CursorOptions :=
  ((calls.filterMap Call.edit?).filterMap Edit.options?).getLast?.getD .unset

/-- The request that creates the cursor of a query: the text, whether to count the rows, the size of
a batch and the bind variables, in this order and nothing else. -/
def opening (c : Connection) (text : String) (calls : List Call) (counts : Bool) : Request where
  method := .post
  url := c.endpoint ++ "/_api/cursor"
  body := some (creationText text (counts || (staged calls).count.getD c.defaults.count)
    ((staged calls).batchSize.or c.defaults.batchSize) (Keyed.ofList (bound calls)))
  timeout := none

/-- What a connection asks for with the cursor of a query. -/
def statement (c : Connection) (text : String) (calls : List Call) : Statement where
  endpoint := c.endpoint
  query := text
  count := (staged calls).count.getD c.defaults.count
  batchSize := (staged calls).batchSize.or c.defaults.batchSize
  binds := Keyed.ofList (bound calls)

theorem creation_eq (c : Connection) (text : String) (calls : List Call) (counts : Bool) :
    (statement c text calls).creation text (counts || (statement c text calls).count)
      (statement c text calls).batchSize = opening c text calls counts := by
  rw [opening, ← Creation.print_eq]
  rfl

variable {o o' : Origin} {calls calls' : List Call} {q q' : Query}

theorem binds_of_run (h : o.query.run calls = .ok q) : q.binds = Keyed.ofList (bound calls) :=
  congrArg (fun r => r.binds) (thawed_eq_declared h)

theorem options_of_run (h : o.query.run calls = .ok q) : q.options = staged calls :=
  congrArg (fun r => r.options) (thawed_eq_declared h)

/-- The cursor that an execution makes. -/
theorem execute_eq_ok (h : o.query.run calls = .ok q) {c : Connection} {cursor : Cursor} :
    (q.execute c).1 = .ok cursor ↔ ∃ text, q.render.1 = .ok text ∧
      cursor = (statement c text calls).cursor := by
  have hcursor (text : String) :
      (statement c text calls).cursor = c.cursor text q.binds q.options := by
    rw [binds_of_run h, options_of_run h]
    rfl
  rw [execute_eq]
  cases q.render.1 with
  | error e => simp
  | ok text => simp [hcursor, eq_comm]

/-- Variables that were bound to the same values last are the same variables. -/
theorem bound_eq (hbound : ∀ name,
    Keyed.get? name (bound calls).reverse = Keyed.get? name (bound calls').reverse) :
    Keyed.ofList (bound calls) = Keyed.ofList (bound calls') := by
  refine (Keyed.sorted_ofList _).ext (Keyed.sorted_ofList _) fun name => ?_
  rw [Keyed.get?_ofList, Keyed.get?_ofList]
  exact hbound name

/-- **What the first request of an execution says.** The cursor that an execution makes sends
nothing by itself. Whatever pulls rows from it first, with any decoder and over any wire, the first
request that is sent creates the cursor, with the text that a rendering gives, the options that were
set last, completed by the defaults of the connection, and the bind variables of the query itself,
each with the value that it was bound to last. The rows are counted also when the number of them was
asked for. Another life with the same text and options, whose variables were bound to the same
values last, in whatever order, makes the same cursor and the same request. -/
theorem first_request (h : o.query.run calls = .ok q) (c : Connection) {cursor : Cursor}
    (hexecute : (q.execute c).1 = .ok cursor) :
    ∃ text, q.render.1 = .ok text ∧
      (∀ (α : Type) (decode : Decoder α) (w : Wire),
        (∀ op : Op α, op.pulls = true →
          w.SendsFirst (Reader.step ⟨cursor, decode⟩ w op).2.2 (opening c text calls op.counts)) ∧
        w.SendsFirst (Reader.drain ⟨cursor, decode⟩ w).2 (opening c text calls false)) ∧
      (∀ name, Keyed.get? name (Keyed.ofList (bound calls)) =
        Keyed.get? name (bound calls).reverse) ∧
      ∀ (o' : Origin) (calls' : List Call) (q' : Query), o'.query.run calls' = .ok q' →
        q'.render.1 = .ok text → staged calls' = staged calls →
        (∀ name, Keyed.get? name (bound calls').reverse = Keyed.get? name (bound calls).reverse) →
          (q'.execute c).1 = .ok cursor ∧
            ∀ counts, opening c text calls' counts = opening c text calls counts := by
  obtain ⟨text, htext, hcursor⟩ := (execute_eq_ok h).mp hexecute
  refine ⟨text, htext, fun α decode w => ?_, fun name => Keyed.get?_ofList _ _, ?_⟩
  · subst hcursor
    refine ⟨fun op hop => ?_, ?_⟩
    · rw [← creation_eq]
      exact Reader.sendsFirst_step (statement c text calls) decode w hop
    · rw [← creation_eq, Bool.false_or]
      exact Reader.sendsFirst_drain (statement c text calls) decode w
  · intro o' calls' q' h' htext' hstaged hbound
    have hbinds := bound_eq hbound
    refine ⟨?_, fun counts => ?_⟩
    · refine (execute_eq_ok h').mpr ⟨text, htext', ?_⟩
      rw [hcursor, statement, statement, hbinds, hstaged]
    · rw [opening, opening, hbinds, hstaged]

/-- A variable is bound twice, and the number of rows is asked for first. -/
theorem first_request_length :
    let calls : List Call := [.edit (.filter "obj.a == @a"),
      .edit (.bind [("b", .number (.int 1)), ("a", .null)]), .edit (.fetchWith ⟨none, some 5⟩),
      .edit (.bind [("a", .bool true)])]
    let c : Connection := ⟨"http://db", ⟨false, some 100⟩⟩
    ∃ q cursor, (Origin.collection "user").query.run calls = .ok q ∧
      (q.execute c).1 = .ok cursor ∧
      ∀ w : Wire, w.SendsFirst (Reader.step (Reader.raw cursor) w .length).2.2
        ⟨.post, "http://db/_api/cursor", some (
          "\x7b\"query\":\"FOR obj IN user FILTER obj.a == @a RETURN obj\",\"count\":true,"
            ++ "\"batchSize\":5,\"bindVars\":\x7b\"a\":true,\"b\":1\x7d\x7d"), none⟩ := by
  intro calls c
  have hrun : (Origin.collection "user").query.run calls = .ok _ := rfl
  refine ⟨_, _, hrun, rfl, fun w => ?_⟩
  obtain ⟨text, htext, hsends, -⟩ := first_request hrun c rfl
  obtain rfl := Except.ok.inj htext
  exact (hsends Json .ok w).1 .length rfl

end Query

end Pagewise
