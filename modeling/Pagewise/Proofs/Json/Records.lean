import Pagewise.Json.Record

/-!
# What a record is read from

A record is read from the nodes that are given for its fields. An object gives them under their
names, an array in their order. So neither the order of the members nor members with other names
decide anything.

* `Node.Gives`: how a node is written that gives a record its fields.
* **`Node.gives_iff`**: these are the nodes that fields are found in.
* **`Node.gives_iff_of_perm`**: the order of members and members with other names do not matter.
-/

namespace Pagewise.Json.Node

variable {names : List String} {name : String} {fields : List (String × Node)}
  {members members' extra : List (Option String × Node)} {given : String → Option Node}

/-- The nodes that members give for a name, in the order of the text. -/
def nodesOf (name : String) (members : List (Option String × Node)) : List Node :=
  members.filterMap fun m => if m.1 = some name then some m.2 else none

/-- **How a node is written that gives a record its fields.** -/
inductive Gives (names : List String) : Node → (String → Option Node) → Prop
  /-- An object: every key is readable, and no field is given twice. -/
  | object {members : List (Option String × Node)} {given : String → Option Node}
      (hkeys : ∀ m ∈ members, m.1 ≠ none)
      (hgiven : ∀ name ∈ names, nodesOf name members = (given name).toList) :
      Gives names (.object members) given
  /-- An array: the fields come in their order, and the last ones may be missing. -/
  | array {items : List Node} {given : String → Option Node} (hlength : items.length ≤ names.length)
      (hgiven : ∀ i (h : i < names.length), given names[i] = items[i]?) :
      Gives names (.array items) given

/-- What is read from the node of a field, or what the field is when there is none. -/
def Reads {α : Type} (given : Option Node) (absent : α) (read : Node → Option α) (value : α) :
    Prop :=
  given.elim (value = absent) fun node => read node = some value

theorem field?_eq_some_iff {α : Type} {absent value : α} {read : Node → Option α} :
    field? fields name absent read = some value ↔
      Reads (Keyed.get? name fields) absent read value := by
  unfold field? Reads
  cases Keyed.get? name fields with
  | none => exact Option.some_inj.trans eq_comm
  | some node => exact .rfl

theorem nonneg_of_intWithin? {node : Node} {n high : Int}
    (h : intWithin? 0 high node = some n) : 0 ≤ n := by
  unfold intWithin? at h
  split at h
  · split at h
    · rename_i hbounds
      obtain rfl := Option.some.inj h
      exact hbounds.1
    · cases h
  · cases h

/-- A number that is read where a count may stand is not negative. -/
theorem nonneg_of_reads {given : Option Node} {high : Int} {number : Option Int}
    (h : Reads given none (nullable? (intWithin? 0 high)) number) : ∀ n ∈ number, 0 ≤ n := by
  rintro n rfl
  cases given with
  | none => cases h
  | some node =>
    simp only [Reads, Option.elim_some] at h
    unfold nullable? at h
    split at h
    · cases h
    · obtain ⟨m, hm, heq⟩ := Option.map_eq_some_iff.mp h
      obtain rfl := Option.some.inj heq
      exact nonneg_of_intWithin? hm

/-! ## Objects -/

theorem nodesOf_cons_self (node : Node) :
    nodesOf name ((some name, node) :: members) = node :: nodesOf name members :=
  List.filterMap_cons_some (if_pos rfl)

theorem nodesOf_cons_of_ne {key : Option String} (h : key ≠ some name) (node : Node) :
    nodesOf name ((key, node) :: members) = nodesOf name members :=
  List.filterMap_cons_none (if_neg h)

theorem any_eq_isSome_get? (name : String) (fields : List (String × Node)) :
    fields.any (·.1 = name) = (Keyed.get? name fields).isSome := by
  induction fields with
  | nil => rfl
  | cons f rest ih =>
    rw [List.any_cons, Keyed.get?, ih]
    by_cases h : name = f.1
    · simp [h]
    · simp [h, Ne.symm h]

/-- The fields that are found are the nodes that the members give. -/
theorem nodesOf_of_namedFields? (h : namedFields? names members = some fields) :
    (∀ m ∈ members, m.1 ≠ none) ∧
      ∀ name ∈ names, nodesOf name members = (Keyed.get? name fields).toList := by
  induction members generalizing fields with
  | nil =>
    obtain rfl := Option.some.inj h
    exact ⟨List.forall_mem_nil _, fun _ _ => rfl⟩
  | cons m rest ih =>
    obtain ⟨key, node⟩ := m
    simp only [namedFields?, Option.bind_eq_bind, Option.bind_eq_some_iff] at h
    obtain ⟨k, rfl, found, hrest, h⟩ := h
    obtain ⟨hkeys, hgiven⟩ := ih hrest
    refine ⟨List.forall_mem_cons.mpr ⟨Option.some_ne_none k, hkeys⟩, fun name hname => ?_⟩
    by_cases hk : k ∈ names
    · rw [if_pos hk] at h
      split at h
      · cases h
      · rename_i hfresh
        obtain rfl := Option.some.inj h
        rw [Keyed.get?]
        by_cases hsame : name = k
        · subst hsame
          rw [any_eq_isSome_get?, Bool.not_eq_true, Option.isSome_eq_false_iff,
            Option.isNone_iff_eq_none] at hfresh
          rw [nodesOf_cons_self, hgiven name hname, hfresh, if_pos rfl]
          rfl
        · rw [nodesOf_cons_of_ne (by simpa using Ne.symm hsame), if_neg hsame]
          exact hgiven name hname
    · rw [if_neg hk] at h
      obtain rfl := Option.some.inj h
      rw [nodesOf_cons_of_ne (by rintro ⟨⟩; exact hk hname)]
      exact hgiven name hname

/-- Fields are found when every key is readable and no field is given twice. -/
theorem exists_namedFields? (hkeys : ∀ m ∈ members, m.1 ≠ none)
    (honce : ∀ name ∈ names, (nodesOf name members).length ≤ 1) :
    ∃ fields, namedFields? names members = some fields := by
  induction members with
  | nil => exact ⟨[], rfl⟩
  | cons m rest ih =>
    obtain ⟨key, node⟩ := m
    obtain ⟨hkey, hreadable⟩ := List.forall_mem_cons.mp hkeys
    obtain ⟨k, rfl⟩ := Option.ne_none_iff_exists'.mp hkey
    have hshorter : ∀ name ∈ names, (nodesOf name rest).length ≤ 1 := fun name hname =>
      Nat.le_trans ((List.sublist_cons_self _ rest).filterMap _).length_le (honce name hname)
    obtain ⟨fields, hfields⟩ := ih hreadable hshorter
    simp only [namedFields?, hfields, Option.bind_eq_bind, Option.bind_some]
    by_cases hk : k ∈ names
    · have hlength := honce k hk
      rw [nodesOf_cons_self, (nodesOf_of_namedFields? hfields).2 k hk] at hlength
      have hnone : Keyed.get? k fields = none := by
        cases hget : Keyed.get? k fields with
        | none => rfl
        | some _ =>
          rw [hget] at hlength
          exact absurd hlength (by simp)
      rw [if_pos hk, any_eq_isSome_get?, hnone]
      exact ⟨_, rfl⟩
    · rw [if_neg hk]
      exact ⟨_, rfl⟩

/-! ## Arrays -/

theorem get?_zip (hnodup : names.Nodup) {i : Nat} (h : i < names.length) (items : List Node) :
    Keyed.get? names[i] (names.zip items) = items[i]? := by
  induction names generalizing items i with
  | nil => exact absurd h (Nat.not_lt_zero i)
  | cons name rest ih =>
    obtain ⟨hname, hrest⟩ := List.nodup_cons.mp hnodup
    cases items with
    | nil => rfl
    | cons item items =>
      rw [List.zip_cons_cons, Keyed.get?]
      cases i with
      | zero => exact if_pos rfl
      | succ i =>
        have hlt : i < rest.length := Nat.lt_of_succ_lt_succ h
        have hne : rest[i] ≠ name := fun heq => hname (heq ▸ List.getElem_mem hlt)
        rw [List.getElem_cons_succ, if_neg hne, List.getElem?_cons_succ]
        exact ih hrest hlt items

/-! ## Records -/

/-- **A record is read from the nodes that are given for its fields.** -/
theorem gives_iff (hnodup : names.Nodup) {node : Node} :
    node.Gives names given ↔
      ∃ fields, node.fields? names = some fields ∧
        ∀ name ∈ names, Keyed.get? name fields = given name := by
  constructor
  · rintro (@⟨members, _, hkeys, hgiven⟩ | @⟨items, _, hlength, hgiven⟩)
    · have honce : ∀ name ∈ names, (nodesOf name members).length ≤ 1 := by
        intro name hname
        rw [hgiven name hname]
        exact Option.length_toList_le
      obtain ⟨fields, hfields⟩ := exists_namedFields? hkeys honce
      refine ⟨fields, hfields, fun name hname => ?_⟩
      have hsame := (nodesOf_of_namedFields? hfields).2 name hname
      rw [hgiven name hname] at hsame
      simpa using congrArg List.head? hsame.symm
    · refine ⟨names.zip items, if_pos hlength, fun name hname => ?_⟩
      obtain ⟨i, h, rfl⟩ := List.mem_iff_getElem.mp hname
      rw [get?_zip hnodup h, hgiven i h]
  · rintro ⟨fields, hfields, hget⟩
    cases node with
    | object members =>
      obtain ⟨hkeys, hgiven⟩ := nodesOf_of_namedFields? hfields
      refine .object hkeys fun name hname => ?_
      rw [hgiven name hname, hget name hname]
    | array items =>
      rw [fields?] at hfields
      split at hfields
      · rename_i hlength
        obtain rfl := Option.some.inj hfields
        refine .array hlength fun i h => ?_
        rw [← hget _ (List.getElem_mem h), get?_zip hnodup h]
      · cases hfields
    | null | bool | number | string => cases hfields

/-- A member that a record with the given names does not look at: it has a key of another name. -/
def Skipped (names : List String) (m : Option String × Node) : Prop :=
  ∃ key, m.1 = some key ∧ key ∉ names

theorem nodesOf_of_skipped (hname : name ∈ names) (h : ∀ m ∈ extra, Skipped names m) :
    nodesOf name extra = [] := by
  refine List.filterMap_eq_nil_iff.mpr fun m hm => if_neg fun hkey => ?_
  obtain ⟨key, hkey', hne⟩ := h m hm
  obtain rfl := Option.some.inj (hkey'.symm.trans hkey)
  exact hne hname

theorem perm_toList_iff {nodes : List Node} {node : Option Node} :
    nodes.Perm node.toList ↔ nodes = node.toList := by
  cases node with
  | none => exact List.perm_nil
  | some _ => exact List.perm_singleton

/-- **Neither the order of members nor members with other names matter.** -/
theorem gives_iff_of_perm (hperm : members'.Perm (members ++ extra))
    (hextra : ∀ m ∈ extra, Skipped names m) :
    (Node.object members').Gives names given ↔ (Node.object members).Gives names given := by
  have hnodes : ∀ name ∈ names, (nodesOf name members').Perm (nodesOf name members) := by
    intro name hname
    have happend : nodesOf name (members ++ extra) = nodesOf name members ++ nodesOf name extra :=
      List.filterMap_append
    rw [nodesOf_of_skipped hname hextra, List.append_nil] at happend
    exact happend ▸ hperm.filterMap _
  have hkeys : (∀ m ∈ members', m.1 ≠ none) ↔ ∀ m ∈ members, m.1 ≠ none := by
    constructor
    · exact fun h m hm => h m (hperm.mem_iff.mpr (List.mem_append_left extra hm))
    · intro h m hm
      rcases List.mem_append.mp (hperm.mem_iff.mp hm) with hm | hm
      · exact h m hm
      · obtain ⟨key, hkey, -⟩ := hextra m hm
        exact hkey ▸ Option.some_ne_none key
  constructor
  · rintro (@⟨_, _, hreadable, hgiven⟩)
    refine .object (hkeys.mp hreadable) fun name hname => perm_toList_iff.mp ?_
    exact (hnodes name hname).symm.trans (.of_eq (hgiven name hname))
  · rintro (@⟨_, _, hreadable, hgiven⟩)
    refine .object (hkeys.mpr hreadable) fun name hname => perm_toList_iff.mp ?_
    exact (hnodes name hname).trans (.of_eq (hgiven name hname))

end Pagewise.Json.Node
