import Pagewise.Cursor.Decoder
import Pagewise.Proofs.Cursor.Event

/-!
# Streams give what pulling gives

A stream of rows is unfolded from a reader: each item is what `next` gives, and the stream is over
with the end of the result or with the first error. Pulling can go on after a row that the decoder
refused, the stream does not. How a stream is polled is left open; an `Unfolding` is any machine
that unfolds it so.

* `Reader.Pulled`: values that are pulled one after the other, and what comes behind them.
* `Reader.pulled_drain`: the items of a stream are pulled.
* `Pulled.run_eq`, `Pulled.polls_eq`: what repeated `next` and what repeated polling give.
* **`Reader.stream_pulls`**: a stream gives what repeated `next` gives, by the same requests.
-/

namespace Pagewise

/-! ## Unfolding -/

/-- A step that a stream is unfolded by: it gives an item and the state to go on from, or the end,
or it fails. -/
abbrev Unfolds (σ ι : Type) := σ → Wire → Except Error (Option (ι × σ)) × Wire

/-- **A machine that unfolds a stream**, one item for each poll. Ready at a state it makes the step
there. It ends at the end and with an error, and then gives nothing any more. -/
structure Unfolding {σ ι : Type} (step : Unfolds σ ι) where
  State : Type
  ready : σ → State
  Ended : State → Prop
  poll : State → Wire → Option (Except Error ι) × State × Wire
  poll_item : ∀ {x y : σ} {i : ι} {w v : Wire}, step x w = (.ok (some (i, y)), v) →
    poll (ready x) w = (some (.ok i), ready y, v)
  poll_over : ∀ {x : σ} {w v : Wire}, step x w = (.ok none, v) →
    ∃ t, Ended t ∧ poll (ready x) w = (none, t, v)
  poll_error : ∀ {x : σ} {e : Error} {w v : Wire}, step x w = (.error e, v) →
    ∃ t, Ended t ∧ poll (ready x) w = (some (.error e), t, v)
  poll_ended : ∀ {t : State} {w : Wire}, Ended t → ∃ t', Ended t' ∧ poll t w = (none, t', w)

namespace Unfolding

variable {σ ι : Type} {step : Unfolds σ ι}

/-- The machine that holds the state to go on from, and nothing once it has ended. -/
def ofStep (step : Unfolds σ ι) : Unfolding step where
  State := Option σ
  ready := some
  Ended := (· = none)
  poll
    | none, w => (none, none, w)
    | some x, w =>
      match step x w with
      | (.ok (some (i, y)), v) => (some (.ok i), some y, v)
      | (.ok none, v) => (none, none, v)
      | (.error e, v) => (some (.error e), none, v)
  poll_item h := by simp only [h]
  poll_over h := ⟨none, rfl, by simp only [h]⟩
  poll_error h := ⟨none, rfl, by simp only [h]⟩
  poll_ended h := ⟨none, rfl, by rw [h]⟩

/-- What so many polls give, one after the other, and the wire afterwards. -/
def polls (u : Unfolding step) : Nat → u.State → Wire → List (Option (Except Error ι)) × Wire
  | 0, _, w => ([], w)
  | n + 1, t, w =>
    ((u.poll t w).1 :: (u.polls n (u.poll t w).2.1 (u.poll t w).2.2).1,
      (u.polls n (u.poll t w).2.1 (u.poll t w).2.2).2)

variable {u : Unfolding step} {t : u.State} {w : Wire}

/-- A machine that has ended leaves the wire alone. -/
theorem polls_of_ended (h : u.Ended t) (n : Nat) :
    u.polls n t w = ((List.range n).map fun _ => none, w) := by
  induction n generalizing t with
  | zero => rfl
  | succ n ih =>
    obtain ⟨t', h', hpoll⟩ := u.poll_ended (w := w) h
    rw [polls, hpoll, ih h', List.range_succ_eq_map, List.map_cons, List.map_map]
    rfl

end Unfolding

/-! ## Pulling -/

namespace Reader

variable {α : Type} {r r' : Reader α} {w w' v : Wire} {value : α} {values : List α}
  {ending : Option Error}

/-- The step that a stream of rows is unfolded by: the next row, and the reader that is left. -/
def pull : Unfolds (Reader α) α := fun r w =>
  ((r.decode.apply (r.cursor.next w).result).map fun row =>
      row.map fun value => (value, { r with cursor := (r.cursor.next w).cursor }),
    (r.cursor.next w).wire)

theorem step_next_eq (r : Reader α) (w : Wire) :
    r.step w .next =
      ((r.pull w).1.map fun pulled => .row (pulled.map Prod.fst),
        { r with cursor := (r.cursor.next w).cursor }, (r.pull w).2) := by
  simp only [step, after, rowReply, pull]
  cases r.decode.apply (r.cursor.next w).result with
  | error _ => rfl
  | ok row => cases row <;> rfl

theorem step_of_pull_value (h : r.pull w = (.ok (some (value, r')), v)) :
    r.step w .next = (.ok (.row (some value)), r', v) := by
  have hleft : { r with cursor := (r.cursor.next w).cursor } = r' := by
    simp only [pull, Prod.mk.injEq] at h
    cases hrow : r.decode.apply (r.cursor.next w).result with
    | error _ =>
      rw [hrow] at h
      cases h.1
    | ok row =>
      rw [hrow] at h
      cases row with
      | none => cases h.1
      | some _ => exact (Prod.mk.inj (Option.some.inj (Except.ok.inj h.1))).2
  rw [step_next_eq, h, hleft]
  rfl

/-- **Values that are pulled** one after the other, what comes behind them, the end of the result or
an error, and the wire then. -/
inductive Pulled : Reader α → Wire → List α → Option Error → Wire → Prop
  | ended {r : Reader α} {w v : Wire} (h : r.pull w = (.ok none, v)) : Pulled r w [] none v
  | error {r : Reader α} {w v : Wire} {e : Error} (h : r.pull w = (.error e, v)) :
      Pulled r w [] (some e) v
  | value {r r' : Reader α} {w w' v : Wire} {value : α} {values : List α} {ending : Option Error}
      (h : r.pull w = (.ok (some (value, r')), w')) (later : Pulled r' w' values ending v) :
      Pulled r w (value :: values) ending v

/-- The items of a stream: the values, and the error behind them if there is one. -/
def streamItems (values : List α) (ending : Option Error) : List (Except Error α) :=
  values.map .ok ++ (ending.map .error).toList

/-- **The items of a stream are pulled.** -/
theorem pulled_drain (r : Reader α) (w : Wire) :
    ∃ values ending, r.Pulled w values ending (r.drain w).2 ∧
      (r.drain w).1 = streamItems values ending := by
  fun_induction r.drain w with
  | case1 r w e c₁ w₁ hnext =>
    exact ⟨[], some e, .error (by rw [pull, hnext]; rfl), rfl⟩
  | case2 r w c₁ w₁ hnext => exact ⟨[], none, .ended (by rw [pull, hnext]; rfl), rfl⟩
  | case3 r w row c₁ w₁ hnext e hrow =>
    refine ⟨[], some e, .error ?_, rfl⟩
    rw [pull, hnext, Decoder.apply, hrow]
    rfl
  | case4 r w row c₁ w₁ hnext value hrow items w₂ hrest ih =>
    obtain ⟨values, ending, hpulled, hitems⟩ := ih
    rw [hrest] at hpulled hitems
    refine ⟨value :: values, ending, .value ?_ hpulled, congrArg (.ok value :: ·) hitems⟩
    rw [pull, hnext, Decoder.apply, hrow]
    rfl

namespace Pulled

/-- **What repeated `next` gives**: the values as rows, and then the end or the error. -/
theorem run_eq (h : r.Pulled w values ending v) :
    (r.run w (List.replicate (values.length + 1) .next)).1 =
        values.map (fun value => .ok (.row (some value))) ++
          [ending.elim (.ok (.row none)) .error] ∧
      (r.run w (List.replicate (values.length + 1) .next)).2.2 = v := by
  induction h with
  | ended h | error h => simp [run, step_next_eq, h, Except.map]
  | value h _ ih =>
    rw [List.length_cons, List.replicate_succ]
    simp only [run, step_of_pull_value h]
    exact ⟨congrArg _ ih.1, ih.2⟩

/-- **What repeated polling gives**: one item after the other, and then nothing for ever. Each poll
is one `next`, up to the one that ends the stream. -/
theorem polls_eq (u : Unfolding (@pull α)) (h : r.Pulled w values ending v) (n : Nat) :
    (u.polls n (u.ready r) w).1 = (List.range n).map ((streamItems values ending)[·]?) ∧
      (u.polls n (u.ready r) w).2 =
        (r.run w (List.replicate (min n (values.length + 1)) .next)).2.2 := by
  induction h generalizing n with
  | @ended r w v h =>
    cases n with
    | zero => exact ⟨rfl, rfl⟩
    | succ n =>
      obtain ⟨t, hended, hpoll⟩ := u.poll_over h
      rw [Unfolding.polls, hpoll, Unfolding.polls_of_ended hended, List.length_nil,
        Nat.succ_min_succ, Nat.min_zero, List.range_succ_eq_map, List.map_cons, List.map_map,
        List.replicate_one]
      simp only [run, step_next_eq, h, and_true]
      rfl
  | @error r w v e h =>
    cases n with
    | zero => exact ⟨rfl, rfl⟩
    | succ n =>
      obtain ⟨t, hended, hpoll⟩ := u.poll_error h
      rw [Unfolding.polls, hpoll, Unfolding.polls_of_ended hended, List.length_nil,
        Nat.succ_min_succ, Nat.min_zero, List.range_succ_eq_map, List.map_cons, List.map_map,
        List.replicate_one]
      simp only [run, step_next_eq, h, and_true]
      rfl
  | @value r r' w w' v value values ending h _ ih =>
    cases n with
    | zero => exact ⟨rfl, rfl⟩
    | succ n =>
      obtain ⟨hitems, hwire⟩ := ih n
      rw [Unfolding.polls, u.poll_item h, List.length_cons, Nat.succ_min_succ, hitems, hwire,
        List.range_succ_eq_map, List.replicate_succ]
      simp only [run, step_of_pull_value h]
      simp [streamItems]

end Pulled

/-- **A stream gives what pulling gives.** Values come one after the other, and behind them the end
of the result or an error. Repeated `next` gives the values as rows, and then the end or the error;
the stream gives the values, and then the error if there is one. Whatever machine unfolds it, item
after item is given, one for each poll, and then nothing for ever; and what was polled so far has
gone over the wire as so many `next` would have, none of them behind the one that ended it. -/
theorem stream_pulls (r : Reader α) (w : Wire) (u : Unfolding (@pull α)) :
    ∃ (values : List α) (ending : Option Error),
      (r.run w (List.replicate (values.length + 1) .next)).1 =
          values.map (fun value => .ok (.row (some value))) ++
            [ending.elim (.ok (.row none)) .error] ∧
        (r.drain w).1 = values.map .ok ++ (ending.map .error).toList ∧
        (r.drain w).2 = (r.run w (List.replicate (values.length + 1) .next)).2.2 ∧
        ∀ n, (u.polls n (u.ready r) w).1 = (List.range n).map ((r.drain w).1[·]?) ∧
          (u.polls n (u.ready r) w).2 =
            (r.run w (List.replicate (min n (values.length + 1)) .next)).2.2 := by
  obtain ⟨values, ending, hpulled, hitems⟩ := r.pulled_drain w
  obtain ⟨hreplies, hwire⟩ := hpulled.run_eq
  refine ⟨values, ending, hreplies, hitems, hwire.symm, fun n => ?_⟩
  rw [hitems]
  exact hpulled.polls_eq u n

/-- Three rows, of which the decoder refuses the second one: pulling goes on to the third row, and the
stream ends with the refusal. Both have sent one request. -/
theorem stream_pulls_refused :
    let s : Statement := ⟨"http://db", "FOR d IN c RETURN d", false, none, []⟩
    let created : Answer :=
      .ok ⟨201, "\x7b\"id\":\"7\",\"hasMore\":true,\"result\":[\"a\",1,\"b\"]\x7d"⟩
    let w : Wire := .ofAnswers [created]
    let r : Reader String := ⟨s.cursor, Decoder.string⟩
    let u := Unfolding.ofStep (@pull String)
    (r.drain w).1 = [.ok "a", .error .json] ∧
      (r.run w [.next, .next, .next]).1 =
        [.ok (.row (some "a")), .error .json, .ok (.row (some "b"))] ∧
      (u.polls 3 (u.ready r) w).1 = [some (.ok "a"), some (.error .json), none] ∧
      (u.polls 3 (u.ready r) w).2.sent = [s.creation s.query false none] := by
  intro s created w r u
  obtain ⟨hreplies, hpolled, hsent⟩ :
      (r.run w [.next, .next, .next]).1 =
        [.ok (.row (some "a")), .error .json, .ok (.row (some "b"))] ∧
      (u.polls 3 (u.ready r) w).1 = [some (.ok "a"), some (.error .json), none] ∧
      ∀ n < 3, (r.run w (List.replicate (n + 1) .next)).2.2.sent =
        [s.creation s.query false none] := by
    decide +kernel
  obtain ⟨values, ending, -, -, -, hpolls⟩ := stream_pulls r w u
  obtain ⟨hitems, hwire⟩ := hpolls 3
  refine ⟨?_, hreplies, hpolled, ?_⟩
  · rw [hpolled] at hitems
    match (r.drain w).1, hitems with
    | [_, _], rfl => rfl
  · have hmin : min 3 (values.length + 1) = min 2 values.length + 1 := by omega
    rw [hwire, hmin]
    exact hsent _ (by omega)

end Reader

end Pagewise
