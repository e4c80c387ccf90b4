import Pagewise.Connection

/-!
# Handles of collections

A connection keeps the handle of every collection that was looked up, so that a name has one handle
for good. Clones of a connection keep nothing of their own: what is looked up through one of them is
looked up in the registry that they share (`Connections.step`).

* `Registry.handle?`: the handle that a name has. A look-up adds its own name and changes no other
  (`Registry.handle?_lookup`).
* `Registry.WellFormed`: names in order, each with a handle of its own.
* `Connections.step_cases`: what one call does.
* `Connections.Accounts`: registries hold what was found, and nothing else. Every call keeps that
  (`Accounts.step`), and so every run does (`Accounts.run`).
* **`Connections.handles_by_name`**: what look-ups find, through connections and their clones in any
  order.
-/

namespace Pagewise

namespace Registry

/-! ## One registry -/

/-- The handle that a name has. -/
def handle? (r : Registry) (name : String) : Option Collection :=
  Keyed.get? name r.handles

/-- **What registries are like**: names are in order, a handle carries its name, and no two handles
are the same. -/
structure WellFormed (r : Registry) : Prop where
  sorted : Keyed.Sorted r.handles
  named : ∀ e ∈ r.handles, e.2.name = e.1
  numbered : ∀ e ∈ r.handles, e.2.serial < r.handles.length
  distinct : ∀ e ∈ r.handles, ∀ e' ∈ r.handles, e.2.serial = e'.2.serial → e = e'

variable {r : Registry} {name other : String} {handle : Collection}

/-- A name that has a handle keeps it. -/
theorem lookup_of_handle? (h : r.handle? name = some handle) : r.lookup name = (handle, r) := by
  rw [handle?] at h
  rw [lookup, h]

/-- A new name gets a handle with the next number. -/
theorem lookup_of_new (h : r.handle? name = none) :
    r.lookup name =
      (⟨r.handles.length, name⟩, ⟨Keyed.insert name ⟨r.handles.length, name⟩ r.handles⟩) := by
  rw [handle?] at h
  rw [lookup, h]

/-- A look-up gives its name the handle that it finds, and leaves every other name as it is. -/
theorem handle?_lookup (r : Registry) (name other : String) :
    (r.lookup name).2.handle? other =
      if other = name then some (r.lookup name).1 else r.handle? other := by
  cases h : r.handle? name with
  | some handle =>
    rw [lookup_of_handle? h]
    split
    case isTrue heq => rw [heq, h]
    case isFalse => rfl
  | none =>
    rw [lookup_of_new h]
    exact Keyed.get?_insert ..

/-- The names with handles are known, and no others. -/
theorem mem_known_iff : name ∈ r.known ↔ ∃ handle, r.handle? name = some handle :=
  Keyed.mem_keys_iff

theorem wellFormed_empty : empty.WellFormed :=
  ⟨Keyed.sorted_nil, nofun, nofun, nofun⟩

namespace WellFormed

theorem known_ascending (h : r.WellFormed) : r.known.Pairwise (· < ·) :=
  h.sorted.keys

/-- Names that come in any order are sorted into the order of those that are known. -/
theorem mergeSort_eq_known (h : r.WellFormed) {names : List String} (hnames : names.Perm r.known) :
    names.mergeSort = r.known := by
  have hsorted : names.mergeSort.Pairwise (· ≤ ·) := by
    have htrans (a b c : String) (h : decide (a ≤ b)) (h' : decide (b ≤ c)) : decide (a ≤ c) :=
      decide_eq_true (String.le_trans (of_decide_eq_true h) (of_decide_eq_true h'))
    have htotal (a b : String) : decide (a ≤ b) || decide (b ≤ a) := by
      simpa using String.le_total a b
    exact (List.pairwise_mergeSort htrans htotal names).imp of_decide_eq_true
  have hknown : r.known.Pairwise (· ≤ ·) :=
    h.known_ascending.imp fun hlt => String.not_lt.mp (String.lt_asymm hlt)
  exact List.Perm.eq_of_pairwise (fun _ _ _ _ => String.le_antisymm) hsorted hknown
    ((List.mergeSort_perm names _).trans hnames)

theorem name_eq (h : r.WellFormed) (hname : r.handle? name = some handle) : handle.name = name :=
  h.named _ (Keyed.mem_of_get? hname)

/-- Names with one handle are the same. -/
theorem name_unique {handle' : Collection} (h : r.WellFormed) (hname : r.handle? name = some handle)
    (hother : r.handle? other = some handle') (hserial : handle.serial = handle'.serial) :
    name = other :=
  congrArg (·.1)
    (h.distinct _ (Keyed.mem_of_get? hname) _ (Keyed.mem_of_get? hother) hserial)

/-- **A look-up leaves a registry well-formed.** -/
theorem lookup (h : r.WellFormed) (name : String) : (r.lookup name).2.WellFormed := by
  cases hnew : r.handle? name with
  | some handle =>
    rw [lookup_of_handle? hnew]
    exact h
  | none =>
    rw [lookup_of_new hnew]
    have hlength : (Keyed.insert name (⟨r.handles.length, name⟩ : Collection) r.handles).length =
        r.handles.length + 1 := Keyed.length_insert_of_new hnew
    refine ⟨h.sorted.insert _ _, fun e he => ?_, fun e he => ?_, fun e he e' he' hserial => ?_⟩
    · rcases Keyed.mem_insert he with rfl | he
      · rfl
      · exact h.named e he
    · rw [hlength]
      rcases Keyed.mem_insert he with rfl | he
      · exact Nat.lt_succ_self _
      · exact Nat.lt_succ_of_lt (h.numbered e he)
    -- The new number is larger than all that are there.
    · rcases Keyed.mem_insert he with rfl | he <;> rcases Keyed.mem_insert he' with rfl | he'
      · rfl
      · exact absurd hserial.symm (Nat.ne_of_lt (h.numbered e' he'))
      · exact absurd hserial (Nat.ne_of_lt (h.numbered e he))
      · exact h.distinct e he e' he' hserial

end WellFormed

end Registry

/-! ## Connections and their clones -/

/-- Connections with the registries that they use. A connection that is made afresh has a registry
of its own; a clone uses that of the connection it was made from. Connections and registries are
told apart by the order in which they were made. -/
structure Connections where
  registries : List Registry
  /-- For each connection, the registry that it uses. -/
  uses : List Nat
deriving DecidableEq, Repr

namespace Connections

/-- No connection was made. -/
def empty : Connections := ⟨[], []⟩

/-- What is done with connections. -/
inductive Call where
  /-- A connection is made afresh. -/
  | connect
  /-- A connection is cloned. -/
  | clone (origin : Nat)
  /-- A collection is looked up through a connection. -/
  | lookup (through : Nat) (name : String)
deriving DecidableEq, Repr

/-- What a look-up found: the registry of the connection that it was made through, the name, and the
handle that was found. -/
structure Finding where
  registry : Nat
  name : String
  handle : Collection
deriving DecidableEq, Repr

/-- Makes a call, with what is found if it is a look-up. There is no call through a connection that
was not made. -/
def step (s : Connections) : Call → Option (Option Finding × Connections)
  | .connect => some (none, ⟨s.registries ++ [.empty], s.uses ++ [s.registries.length]⟩)
  | .clone origin =>
    (s.uses[origin]?).map fun i => (none, { s with uses := s.uses ++ [i] })
  | .lookup through name =>
    (s.uses[through]?).bind fun i => (s.registries[i]?).map fun r =>
      (some ⟨i, name, (r.lookup name).1⟩,
        { s with registries := s.registries.set i (r.lookup name).2 })

/-- Makes calls one after the other, with all that is found. -/
def run (s : Connections) : List Call → Option (List Finding × Connections)
  | [] => some ([], s)
  | call :: calls =>
    (s.step call).bind fun first => (first.2.run calls).map fun later =>
      (first.1.toList ++ later.1, later.2)

variable {s s' : Connections} {found later : List Finding} {finding : Option Finding} {call : Call}
  {calls : List Call}

/-- **What a call does**: there is a connection more, with a registry of its own or with one that is
used, or a registry is looked into. -/
theorem step_cases (h : s.step call = some (finding, s')) :
    (finding = none ∧
        s' = ⟨s.registries ++ [.empty], s.uses ++ [s.registries.length]⟩) ∨
      (∃ i ∈ s.uses, finding = none ∧ s' = { s with uses := s.uses ++ [i] }) ∨
      ∃ i r name, s.registries[i]? = some r ∧ finding = some ⟨i, name, (r.lookup name).1⟩ ∧
        s' = { s with registries := s.registries.set i (r.lookup name).2 } := by
  cases call with
  | connect =>
    cases h
    exact .inl ⟨rfl, rfl⟩
  | clone origin =>
    obtain ⟨i, hi, heq⟩ := Option.map_eq_some_iff.mp h
    cases heq
    exact .inr (.inl ⟨i, List.mem_of_getElem? hi, rfl, rfl⟩)
  | lookup through name =>
    obtain ⟨i, -, hmade⟩ := Option.bind_eq_some_iff.mp h
    obtain ⟨r, hr, heq⟩ := Option.map_eq_some_iff.mp hmade
    cases heq
    exact .inr (.inr ⟨i, r, name, hr, rfl, rfl⟩)

theorem run_cons_eq_some (h : s.run (call :: calls) = some (later, s')) :
    ∃ finding m rest, s.step call = some (finding, m) ∧ m.run calls = some (rest, s') ∧
      later = finding.toList ++ rest := by
  obtain ⟨⟨finding, m⟩, hstep, hlater⟩ := Option.bind_eq_some_iff.mp h
  obtain ⟨⟨rest, last⟩, hrest, heq⟩ := Option.map_eq_some_iff.mp hlater
  cases heq
  exact ⟨finding, m, rest, hstep, hrest, rfl⟩

/-- **Registries account for what was found**: every name has the handle that was found under it,
and no other name has one. -/
structure Accounts (s : Connections) (found : List Finding) : Prop where
  uses : ∀ i ∈ s.uses, i < s.registries.length
  wellFormed : ∀ r ∈ s.registries, r.WellFormed
  held : ∀ i r, s.registries[i]? = some r → ∀ name handle,
    r.handle? name = some handle ↔ ⟨i, name, handle⟩ ∈ found
  registry : ∀ f ∈ found, f.registry < s.registries.length

theorem accounts_empty : empty.Accounts [] :=
  ⟨nofun, nofun, nofun, nofun⟩

namespace Accounts

/-- The registry of a new connection holds nothing, and nothing was found in it. -/
theorem connect (h : s.Accounts found) :
    (⟨s.registries ++ [.empty], s.uses ++ [s.registries.length]⟩ : Connections).Accounts found := by
  refine ⟨fun i hi => ?_, fun r hr => ?_, fun i r hr name handle => ?_, fun f hf => ?_⟩
  · rw [List.length_append, List.length_singleton]
    rcases List.mem_append.mp hi with hi | hi
    · exact Nat.lt_succ_of_lt (h.uses i hi)
    · obtain rfl := List.mem_singleton.mp hi
      exact Nat.lt_succ_self _
  · rcases List.mem_append.mp hr with hr | hr
    · exact h.wellFormed r hr
    · obtain rfl := List.mem_singleton.mp hr
      exact Registry.wellFormed_empty
  · by_cases hi : i < s.registries.length
    · rw [List.getElem?_append_left hi] at hr
      exact h.held i r hr name handle
    · have hempty : r = .empty := by
        rw [List.getElem?_append_right (Nat.le_of_not_lt hi)] at hr
        exact List.mem_singleton.mp (List.mem_of_getElem? hr)
      rw [hempty]
      exact ⟨nofun, fun hf => absurd (h.registry _ hf) hi⟩
  · rw [List.length_append]
    exact Nat.lt_add_right _ (h.registry f hf)

/-- A clone uses a registry that is there. -/
theorem clone (h : s.Accounts found) {i : Nat} (hi : i ∈ s.uses) :
    ({ s with uses := s.uses ++ [i] } : Connections).Accounts found := by
  refine ⟨fun k hk => ?_, h.wellFormed, h.held, h.registry⟩
  rcases List.mem_append.mp hk with hk | hk
  · exact h.uses k hk
  · obtain rfl := List.mem_singleton.mp hk
    exact h.uses k hi

/-- A look-up in one registry is accounted for there, and leaves the others as they are. -/
theorem lookup (h : s.Accounts found) {i : Nat} {r : Registry} (hr : s.registries[i]? = some r)
    (name : String) :
    ({ s with registries := s.registries.set i (r.lookup name).2 } : Connections).Accounts
      (found ++ [⟨i, name, (r.lookup name).1⟩]) := by
  have hi : i < s.registries.length := (List.getElem?_eq_some_iff.mp hr).1
  have hwf : r.WellFormed := h.wellFormed r (List.mem_of_getElem? hr)
  refine ⟨fun k hk => ?_, fun r' hr' => ?_, fun k r' hr' other handle => ?_, fun f hf => ?_⟩
  · rw [List.length_set]
    exact h.uses k hk
  · rcases List.mem_or_eq_of_mem_set hr' with hr' | rfl
    · exact h.wellFormed r' hr'
    · exact hwf.lookup name
  · rw [List.mem_append, List.mem_singleton]
    by_cases hk : k = i
    · subst hk
      rw [List.getElem?_set_self hi] at hr'
      obtain rfl := Option.some.inj hr'
      rw [Registry.handle?_lookup, ← h.held k r hr, Finding.mk.injEq]
      by_cases hother : other = name
      · subst hother
        rw [if_pos rfl, Option.some.injEq]
        refine ⟨fun hmade => .inr ⟨rfl, rfl, hmade.symm⟩, fun hheld => ?_⟩
        rcases hheld with hheld | ⟨-, -, hmade⟩
        · rw [Registry.lookup_of_handle? hheld]
        · exact hmade.symm
      · rw [if_neg hother]
        simp [hother]
    · rw [List.getElem?_set_ne (Ne.symm hk)] at hr'
      rw [h.held k r' hr']
      simp [hk]
  · rw [List.length_set]
    rcases List.mem_append.mp hf with hf | hf
    · exact h.registry f hf
    · obtain rfl := List.mem_singleton.mp hf
      exact hi

/-- **Every call keeps the accounts.** -/
theorem step (h : s.Accounts found) (hstep : s.step call = some (finding, s')) :
    s'.Accounts (found ++ finding.toList) := by
  rcases step_cases hstep with ⟨rfl, rfl⟩ | ⟨i, hi, rfl, rfl⟩ | ⟨i, r, name, hr, rfl, rfl⟩
  · rw [Option.toList_none, List.append_nil]
    exact h.connect
  · rw [Option.toList_none, List.append_nil]
    exact h.clone hi
  · exact h.lookup hr name

/-- **Every run keeps the accounts.** -/
theorem run (h : s.Accounts found) (hrun : s.run calls = some (later, s')) :
    s'.Accounts (found ++ later) := by
  induction calls generalizing s found later with
  | nil =>
    cases hrun
    rwa [List.append_nil]
  | cons call calls ih =>
    obtain ⟨finding, m, rest, hstep, hrest, rfl⟩ := run_cons_eq_some hrun
    rw [← List.append_assoc]
    exact ih (h.step hstep) hrest

/-- What was found is held by its registry. -/
theorem exists_held (h : s.Accounts found) {f : Finding} (hf : f ∈ found) :
    ∃ r, s.registries[f.registry]? = some r ∧ r.WellFormed ∧
      r.handle? f.name = some f.handle := by
  have hr := List.getElem?_eq_getElem (h.registry f hf)
  exact ⟨_, hr, h.wellFormed _ (List.getElem_mem _), (h.held _ _ hr _ _).mpr hf⟩

end Accounts

/-- A connection keeps its registry. -/
theorem uses_step (h : s.step call = some (finding, s')) : s.uses <+: s'.uses := by
  rcases step_cases h with ⟨-, rfl⟩ | ⟨i, -, -, rfl⟩ | ⟨i, r, name, -, -, rfl⟩
  · exact List.prefix_append _ _
  · exact List.prefix_append _ _
  · exact List.prefix_rfl

theorem uses_run (h : s.run calls = some (later, s')) : s.uses <+: s'.uses := by
  induction calls generalizing s later with
  | nil =>
    cases h
    exact List.prefix_rfl
  | cons call calls ih =>
    obtain ⟨finding, m, rest, hstep, hrest, -⟩ := run_cons_eq_some h
    exact (uses_step hstep).trans (ih hrest)

/-- **Handles go by names.** Take any run of calls, with look-ups through connections and their
clones in any order, and compare what was found in one registry. Two look-ups found the same handle
exactly when they asked for the same name. A handle carries the name that was asked for, and its
query begins over this collection. The names that are known are in strictly ascending order, and
they are those that were asked for; a table without an order that hands them out, however it does,
has them sorted into this list.

Whatever is called later, a name keeps the handle that was found under it, and a connection keeps
its registry. A look-up through a connection that is there finds a handle in the registry of that
connection, and a clone uses the same registry. -/
theorem handles_by_name (h : empty.run calls = some (found, s)) :
    (∀ f ∈ found, ∀ f' ∈ found, f.registry = f'.registry →
      (f.handle.serial = f'.handle.serial ↔ f.name = f'.name) ∧
        (f.handle = f'.handle ↔ f.name = f'.name)) ∧
      (∀ f ∈ found, f.handle.name = f.name ∧ f.handle.query = Query.ofCollection f.name) ∧
      (∀ i r, s.registries[i]? = some r → r.known.Pairwise (· < ·) ∧
        (∀ name, name ∈ r.known ↔ ∃ f ∈ found, f.registry = i ∧ f.name = name) ∧
        ∀ names : List String, names.Perm r.known → names.mergeSort = r.known) ∧
      (∀ calls' later s', s.run calls' = some (later, s') → s.uses <+: s'.uses ∧
        ∀ f ∈ found, ∃ r, s'.registries[f.registry]? = some r ∧
          r.handle? f.name = some f.handle) ∧
      ∀ c i, s.uses[c]? = some i →
        (∀ name, ∃ handle s', s.step (.lookup c name) = some (some ⟨i, name, handle⟩, s')) ∧
          ∃ s', s.step (.clone c) = some (none, s') ∧ s'.uses = s.uses ++ [i] := by
  have haccounts : s.Accounts found := accounts_empty.run h
  have hnamed : ∀ f ∈ found, f.handle.name = f.name := by
    intro f hf
    obtain ⟨r, -, hwf, hheld⟩ := haccounts.exists_held hf
    exact hwf.name_eq hheld
  refine ⟨fun f hf f' hf' hregistry => ?_, fun f hf => ⟨hnamed f hf, ?_⟩, fun i r hr => ⟨?_, ?_, ?_⟩,
    fun calls' later s' hrun => ⟨uses_run hrun, fun f hf => ?_⟩, fun c i hi => ⟨fun name => ?_, ?_⟩⟩
  · obtain ⟨r, hr, hwf, hheld⟩ := haccounts.exists_held hf
    obtain ⟨r', hr', -, hheld'⟩ := haccounts.exists_held hf'
    obtain rfl : r = r' := Option.some.inj (hr.symm.trans (hregistry ▸ hr'))
    have hsame (hname : f.name = f'.name) : f.handle = f'.handle :=
      Option.some.inj (hheld.symm.trans (hname ▸ hheld'))
    have hserial := hwf.name_unique hheld hheld'
    exact ⟨⟨hserial, fun hname => congrArg (·.serial) (hsame hname)⟩,
      ⟨fun hhandle => hserial (congrArg (·.serial) hhandle), hsame⟩⟩
  · rw [Collection.query, hnamed f hf]
  · exact (haccounts.wellFormed r (List.mem_of_getElem? hr)).known_ascending
  · intro name
    rw [Registry.mem_known_iff]
    constructor
    · rintro ⟨handle, hheld⟩
      exact ⟨_, (haccounts.held i r hr name handle).mp hheld, rfl, rfl⟩
    · rintro ⟨f, hf, rfl, rfl⟩
      exact ⟨f.handle, (haccounts.held _ r hr _ _).mpr hf⟩
  · exact fun names hnames =>
      (haccounts.wellFormed r (List.mem_of_getElem? hr)).mergeSort_eq_known hnames
  · obtain ⟨r, hr, -, hheld⟩ :=
      (haccounts.run hrun).exists_held (List.mem_append_left later hf)
    exact ⟨r, hr, hheld⟩
  · have hlt : i < s.registries.length := haccounts.uses i (List.mem_of_getElem? hi)
    rw [step, hi, Option.bind_some, List.getElem?_eq_getElem hlt]
    exact ⟨_, _, rfl⟩
  · rw [step, hi]
    exact ⟨_, rfl, rfl⟩

/-- A connection, its clone and another connection: what is looked up through the clone is there
already, but for a name that only the other connection knows. -/
theorem handles_by_name_cloned :
    let calls : List Call := [.connect, .lookup 0 "users", .clone 0, .connect, .lookup 2 "orders",
      .lookup 1 "orders", .lookup 1 "users"]
    let found : List Finding := [⟨0, "users", ⟨0, "users"⟩⟩, ⟨1, "orders", ⟨0, "orders"⟩⟩,
      ⟨0, "orders", ⟨1, "orders"⟩⟩, ⟨0, "users", ⟨0, "users"⟩⟩]
    let s : Connections := ⟨[⟨[("orders", ⟨1, "orders"⟩), ("users", ⟨0, "users"⟩)]⟩,
      ⟨[("orders", ⟨0, "orders"⟩)]⟩], [0, 0, 1]⟩
    empty.run calls = some (found, s) ∧
      (∀ f ∈ found, ∀ f' ∈ found, f.registry = f'.registry →
        (f.handle.serial = f'.handle.serial ↔ f.name = f'.name)) ∧
      ∀ r, s.registries[0]? = some r → ∀ name, name ∈ r.known ↔
        ∃ f ∈ found, f.registry = 0 ∧ f.name = name := by
  intro calls found s
  have h : empty.run calls = some (found, s) := rfl
  obtain ⟨hsame, -, hknown, -⟩ := handles_by_name h
  exact ⟨h, fun f hf f' hf' hregistry => (hsame f hf f' hf' hregistry).1,
    fun r hr => (hknown 0 r hr).2.1⟩

end Connections

end Pagewise
