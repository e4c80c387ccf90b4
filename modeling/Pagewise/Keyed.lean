/-!
# Entries kept in the order of their keys

Object literals, `RETURN` mappings, bind variables and JSON objects are lists of entries with
strictly ascending keys, compared by code point. Such a list is the only one with its entries,
so two mappings agree exactly when their lists are equal.

Main statements:
* `Sorted.insert`, `sorted_ofList`: the order is kept, so a key occurs at most once;
* `get?_insert`, `get?_ofList`: a key holds the value written to it last;
* `Sorted.ext`: mappings that agree at every key are equal;
* `get?_perm`: entries with distinct keys hold the same values in any order;
* `mem_keys_iff`: a key holds a value when it is among the keys;
* `Sorted.ofList_eq`: entries that are in order already stay as they are.
-/

namespace Pagewise.Keyed

universe u

variable {α : Type u}

/-- Every key is smaller than the keys behind it. -/
def Sorted (m : List (String × α)) : Prop :=
  m.Pairwise fun a b => a.1 < b.1

/-- Writes one entry; an entry of the same key gives way. -/
def insert (key : String) (value : α) : List (String × α) → List (String × α)
  | [] => [(key, value)]
  | e :: rest =>
    if key < e.1 then (key, value) :: e :: rest
    else if key = e.1 then (key, value) :: rest
    else e :: insert key value rest

/-- Writes entries one after the other, so the last one of a key stays. -/
def insertAll (m entries : List (String × α)) : List (String × α) :=
  entries.foldl (fun m e => insert e.1 e.2 m) m

/-- The mapping that entries in any order stand for. -/
def ofList (entries : List (String × α)) : List (String × α) :=
  insertAll [] entries

theorem ofList_append (entries later : List (String × α)) :
    ofList (entries ++ later) = insertAll (ofList entries) later :=
  List.foldl_append

/-- The value at a key. -/
def get? (key : String) : List (String × α) → Option α
  | [] => none
  | e :: rest => if key = e.1 then some e.2 else get? key rest

/-- What is done to every value can be done before an entry is written or after. -/
theorem insert_map {β : Type u} (f : α → β) (key : String) (value : α) (m : List (String × α)) :
    insert key (f value) (m.map fun e => (e.1, f e.2)) =
      (insert key value m).map fun e => (e.1, f e.2) := by
  induction m with
  | nil => rfl
  | cons a rest ih =>
    rw [List.map_cons, insert, insert]
    split
    · rfl
    · split
      · rfl
      · rw [List.map_cons, ih]

/-! ## Order -/

theorem sorted_nil : Sorted ([] : List (String × α)) :=
  List.Pairwise.nil

theorem mem_insert {key : String} {value : α} {m : List (String × α)} {e : String × α}
    (h : e ∈ insert key value m) : e = (key, value) ∨ e ∈ m := by
  induction m with
  | nil => simpa [insert] using h
  | cons a rest ih =>
    unfold insert at h
    split at h
    · simpa using h
    · split at h
      · rcases List.mem_cons.1 h with h | h
        · exact .inl h
        · exact .inr (List.mem_cons_of_mem _ h)
      · rcases List.mem_cons.1 h with h | h
        · exact .inr (h ▸ List.mem_cons_self)
        · exact (ih h).imp_right (List.mem_cons_of_mem _)

theorem Sorted.insert {m : List (String × α)} (h : Sorted m) (key : String) (value : α) :
    Sorted (insert key value m) := by
  induction m with
  | nil => exact List.pairwise_singleton _ _
  | cons a rest ih =>
    obtain ⟨below, tail⟩ := List.pairwise_cons.1 h
    unfold Keyed.insert
    split
    case isTrue smaller =>
      refine List.pairwise_cons.2 ⟨fun e he => ?_, h⟩
      rcases List.mem_cons.1 he with rfl | he
      · exact smaller
      · exact String.lt_trans smaller (below e he)
    case isFalse notSmaller =>
      split
      case isTrue same => exact List.pairwise_cons.2 ⟨fun e he => same ▸ below e he, tail⟩
      case isFalse different =>
        refine List.pairwise_cons.2 ⟨fun e he => ?_, ih tail⟩
        rcases mem_insert he with rfl | he
        · exact Decidable.byContradiction fun notLarger =>
            different (String.le_antisymm (String.not_lt.1 notLarger) (String.not_lt.1 notSmaller))
        · exact below e he

theorem Sorted.insertAll {m : List (String × α)} (h : Sorted m) (entries : List (String × α)) :
    Sorted (insertAll m entries) := by
  induction entries generalizing m with
  | nil => exact h
  | cons e rest ih => exact ih (h.insert e.1 e.2)

theorem sorted_ofList (entries : List (String × α)) : Sorted (ofList entries) :=
  sorted_nil.insertAll entries

/-- The keys of a mapping are in ascending order themselves. -/
theorem Sorted.keys {m : List (String × α)} (h : Sorted m) :
    (m.map (·.1)).Pairwise (· < ·) :=
  List.pairwise_map.mpr h

theorem Sorted.nodup_keys {m : List (String × α)} (h : Sorted m) : (m.map (·.1)).Nodup :=
  h.keys.imp fun smaller => String.ne_of_lt smaller

/-! ## Look-up -/

theorem get?_insert (key : String) (value : α) (m : List (String × α)) (k : String) :
    get? k (insert key value m) = if k = key then some value else get? k m := by
  induction m with
  | nil => simp [insert, get?]
  | cons a rest ih =>
    unfold insert
    split
    · simp [get?]
    · split
      case isTrue same => by_cases h : k = key <;> simp_all [get?]
      case isFalse different =>
        rw [get?, ih, get?]
        by_cases h : k = key <;> by_cases h' : k = a.1 <;> simp_all

theorem get?_insertAll (entries m : List (String × α)) (k : String) :
    get? k (insertAll m entries) = (get? k entries.reverse).or (get? k m) := by
  induction entries generalizing m with
  | nil => simp [insertAll, get?]
  | cons e rest ih =>
    have step : insertAll m (e :: rest) = insertAll (insert e.1 e.2 m) rest := rfl
    have back (l : List (String × α)) :
        get? k (l ++ [e]) = (get? k l).or (if k = e.1 then some e.2 else none) := by
      induction l with
      | nil => simp [get?]
      | cons a l ihl =>
        rw [List.cons_append, get?, get?, ihl]
        split <;> simp
    rw [step, ih, get?_insert, List.reverse_cons, back, Option.or_assoc]
    split <;> simp

theorem get?_ofList (entries : List (String × α)) (k : String) :
    get? k (ofList entries) = get? k entries.reverse := by
  rw [ofList, get?_insertAll]
  simp [get?]

/-- The keys of a mapping are those that hold a value. -/
theorem mem_keys_iff {key : String} {m : List (String × α)} :
    key ∈ m.map (·.1) ↔ ∃ value, get? key m = some value := by
  induction m with
  | nil => simp [get?]
  | cons a rest ih =>
    rw [List.map_cons, List.mem_cons, get?]
    by_cases h : key = a.1
    · simp [h]
    · simpa [h] using ih

/-- An entry with a new key is one entry more. -/
theorem length_insert_of_new {key : String} {value : α} {m : List (String × α)}
    (h : get? key m = none) : (insert key value m).length = m.length + 1 := by
  induction m with
  | nil => rfl
  | cons a rest ih =>
    have hne : key ≠ a.1 := fun heq => by simp [get?, heq] at h
    rw [get?, if_neg hne] at h
    rw [insert, if_neg hne]
    split
    · rfl
    · rw [List.length_cons, ih h, List.length_cons]

theorem get?_head (e : String × α) (rest : List (String × α)) :
    get? e.1 (e :: rest) = some e.2 :=
  if_pos rfl

theorem get?_eq_none {key : String} {m : List (String × α)} (h : ∀ e ∈ m, key < e.1) :
    get? key m = none := by
  induction m with
  | nil => rfl
  | cons a rest ih =>
    obtain ⟨smaller, below⟩ := List.forall_mem_cons.1 h
    rw [get?, if_neg (String.ne_of_lt smaller)]
    exact ih below

/-- A key that holds a value is not smaller than the first one. -/
theorem not_lt_head {key : String} {e : String × α} {rest : List (String × α)}
    (below : ∀ e' ∈ rest, e.1 < e'.1) (found : get? key (e :: rest) ≠ none) : ¬key < e.1 := by
  intro smaller
  refine found (get?_eq_none fun e' he' => ?_)
  rcases List.mem_cons.1 he' with rfl | he'
  · exact smaller
  · exact String.lt_trans smaller (below e' he')

/-- Mappings that hold values at the same keys have the same first key. -/
theorem Sorted.head_eq {a b : String × α} {rest rest' : List (String × α)} (h : Sorted (a :: rest))
    (h' : Sorted (b :: rest'))
    (hkeys : ∀ k, get? k (a :: rest) = none ↔ get? k (b :: rest') = none) : a.1 = b.1 := by
  obtain ⟨below, -⟩ := List.pairwise_cons.1 h
  obtain ⟨below', -⟩ := List.pairwise_cons.1 h'
  have notSmaller : ¬a.1 < b.1 := not_lt_head below' <| by
    rw [Ne, ← hkeys, get?_head]
    exact nofun
  have notLarger : ¬b.1 < a.1 := not_lt_head below <| by
    rw [Ne, hkeys, get?_head]
    exact nofun
  exact String.le_antisymm (String.not_lt.1 notLarger) (String.not_lt.1 notSmaller)

/-- Behind the first entry its key holds nothing, and any other key what it held. -/
theorem Sorted.get?_tail {a : String × α} {rest : List (String × α)} (h : Sorted (a :: rest))
    (k : String) : get? k rest = if k = a.1 then none else get? k (a :: rest) := by
  split
  case isTrue same => exact same ▸ get?_eq_none (List.pairwise_cons.1 h).1
  case isFalse different => rw [get?, if_neg different]

/-- Mappings that agree at every key are equal. -/
theorem Sorted.ext {m m' : List (String × α)} (h : Sorted m) (h' : Sorted m')
    (hget : ∀ k, get? k m = get? k m') : m = m' := by
  induction m generalizing m' with
  | nil =>
    cases m' with
    | nil => rfl
    | cons b rest' => simpa [get?] using hget b.1
  | cons a rest ih =>
    cases m' with
    | nil => simpa [get?] using hget a.1
    | cons b rest' =>
      have same : a.1 = b.1 := h.head_eq h' fun k => by rw [hget]
      have value : a.2 = b.2 := by simpa [get?, same] using hget a.1
      have rests : rest = rest' := ih (List.pairwise_cons.1 h).2 (List.pairwise_cons.1 h').2
        fun k => by rw [h.get?_tail, h'.get?_tail, hget, same]
      rw [rests, Prod.ext same value]

/-! ## Distinct keys in any order -/

theorem mem_of_get? {m : List (String × α)} {key : String} {value : α}
    (h : get? key m = some value) : (key, value) ∈ m := by
  induction m with
  | nil => cases h
  | cons a rest ih =>
    rw [get?] at h
    split at h
    case isTrue hkey =>
      obtain rfl := Option.some.inj h
      exact hkey ▸ List.mem_cons_self
    case isFalse => exact List.mem_cons_of_mem _ (ih h)

theorem get?_eq_some_iff {m : List (String × α)} (h : (m.map (·.1)).Nodup) {key : String}
    {value : α} : get? key m = some value ↔ (key, value) ∈ m := by
  induction m with
  | nil => simp [get?]
  | cons a rest ih =>
    obtain ⟨fresh, distinct⟩ := List.nodup_cons.1 h
    rw [get?, List.mem_cons]
    by_cases hkey : key = a.1
    · have absent : (key, value) ∉ rest := fun hmem =>
        fresh (List.mem_map.mpr ⟨_, hmem, hkey⟩)
      rw [if_pos hkey, or_iff_left absent, Option.some.injEq, Prod.ext_iff]
      exact ⟨fun hvalue => ⟨hkey, hvalue.symm⟩, fun hentry => hentry.2.symm⟩
    · have other : (key, value) ≠ a := fun hentry => hkey (congrArg (·.1) hentry)
      rw [if_neg hkey, ih distinct, or_iff_right other]

/-- Entries with distinct keys hold the same values in any order. -/
theorem get?_perm {m m' : List (String × α)} (h : (m.map (·.1)).Nodup) (hperm : m.Perm m')
    (key : String) : get? key m = get? key m' := by
  have h' : (m'.map (·.1)).Nodup := (hperm.map _).nodup h
  refine Option.ext fun value => ?_
  rw [get?_eq_some_iff h, get?_eq_some_iff h', hperm.mem_iff]

/-! ## Entries in order -/

theorem insert_eq_append {key : String} {value : α} {m : List (String × α)}
    (h : ∀ e ∈ m, e.1 < key) : insert key value m = m ++ [(key, value)] := by
  induction m with
  | nil => rfl
  | cons a rest ih =>
    obtain ⟨smaller, below⟩ := List.forall_mem_cons.1 h
    rw [insert, if_neg (String.lt_asymm smaller), if_neg (String.ne_of_lt smaller).symm, ih below]
    rfl

theorem Sorted.insertAll_eq {m entries : List (String × α)} (h : Sorted (m ++ entries)) :
    Keyed.insertAll m entries = m ++ entries := by
  induction entries generalizing m with
  | nil => exact (List.append_nil m).symm
  | cons e rest ih =>
    have below : ∀ e' ∈ m, e'.1 < e.1 := fun e' he' =>
      (List.pairwise_append.1 h).2.2 e' he' e List.mem_cons_self
    have step : Keyed.insertAll m (e :: rest) = Keyed.insertAll (m ++ [e]) rest :=
      congrArg (Keyed.insertAll · rest) (insert_eq_append below)
    rw [List.append_cons] at h ⊢
    rw [step, ih h]

/-- Entries that are in order already stand for themselves. -/
theorem Sorted.ofList_eq {m : List (String × α)} (h : Sorted m) : ofList m = m :=
  insertAll_eq h

end Pagewise.Keyed
