import Pagewise.Json.Node
import Pagewise.Proofs.Json.Tokens

/-!
# Printed values are read back

The text of a value is cut into the tokens of that value and of no other, the tokens are read as the
value as it is written, and that stands for the value itself. Each step is one mutual induction over
values, items and members, with whatever surrounds the value left open: the rest of the text, the
arrays and objects around it, and the levels that are left.

* `cuts_print`: the text of a value and its tokens.
* `read?_tokens`: the tokens of a value and its node.
* `value?_node`: the node of a value and the value.
* **`ofText?_print_iff`**: an exact value is read back from its text, if it is not too deep.
* `ofText?_printObject`: the same of an object with its members in any order.
-/

namespace Pagewise.Json

/-! ## Values that text keeps -/

mutual

/-- How many arrays and objects are open at the innermost place of a value. -/
def depth : Json → Nat
  | .array items => itemsDepth items + 1
  | .object members => membersDepth members + 1
  | _ => 0

/-- The greatest depth of the items of an array. -/
def itemsDepth : List Json → Nat
  | [] => 0
  | v :: rest => max v.depth (itemsDepth rest)

/-- The greatest depth of the values of an object. -/
def membersDepth : List (String × Json) → Nat
  | [] => 0
  | (_, v) :: rest => max v.depth (membersDepth rest)

end

mutual

/-- **A value that text keeps as it is**: it has no doubles, its integers fit into 64 bits, and the
members of its objects are in the order of their keys. -/
def Exact : Json → Prop
  | .number (.int n) => Number.isWord n
  | .number (.real _) => False
  | .array items => ItemsExact items
  | .object members => Keyed.Sorted members ∧ MembersExact members
  | _ => True

/-- Every item of an array is exact. -/
def ItemsExact : List Json → Prop
  | [] => True
  | v :: rest => v.Exact ∧ ItemsExact rest

/-- Every value of an object is exact. -/
def MembersExact : List (String × Json) → Prop
  | [] => True
  | (_, v) :: rest => v.Exact ∧ MembersExact rest

end

/-! ## From text to tokens -/

mutual

/-- The tokens of the text of a value. -/
def tokens : Json → List Token
  | .null => [.null]
  | .bool b => [.bool b]
  | .number n => [.number (some n)]
  | .string s => [.string (some s)]
  | .array [] => [.openArray, .closeArray]
  | .array (v :: rest) => .openArray :: (v.tokens ++ (itemTokens rest ++ [.closeArray]))
  | .object [] => [.openObject, .closeObject]
  | .object ((k, v) :: rest) =>
    .openObject :: .string (some k) :: .colon :: (v.tokens ++ (memberTokens rest ++ [.closeObject]))

/-- The tokens of the later items of an array, each item behind a comma. -/
def itemTokens : List Json → List Token
  | [] => []
  | v :: rest => .comma :: (v.tokens ++ itemTokens rest)

/-- The tokens of the later members of an object, each member behind a comma. -/
def memberTokens : List (String × Json) → List Token
  | [] => []
  | (k, v) :: rest => .comma :: .string (some k) :: .colon :: (v.tokens ++ memberTokens rest)

end

mutual

/-- **The text of a value is cut into its tokens**, so nothing in it breaks out of its place. -/
theorem cuts_print : (v : Json) → v.Exact → Cuts v.print.toList v.tokens
  | .null, _ => cuts_null
  | .bool b, _ => cuts_bool b
  | .number (.int n), h => cuts_printInt h
  | .number (.real _), h => h.elim
  | .string s, _ => cuts_quote s
  | .array [], _ => .cons rfl (.cons rfl .nil)
  | .array (v :: rest), h => by
    rw [print, printItems, toList_printArray, tokens]
    exact .bracketed rfl rfl (cuts_print v h.1) (cuts_printItems rest h.2)
  | .object members, h => cuts_printObject members h.2

/-- The members of an object need not be in the order of their keys. -/
theorem cuts_printObject : (members : List (String × Json)) → MembersExact members →
    Cuts (print (.object members)).toList (tokens (.object members))
  | [], _ => .cons rfl (.cons rfl .nil)
  | (k, v) :: rest, h => by
    rw [print, printMembers, toList_printObject, tokens]
    exact .bracketed rfl rfl (cuts_printMember k (cuts_print v h.1)) (cuts_printMembers rest h.2)

theorem cuts_printItems : (items : List Json) → ItemsExact items →
    Cuts (later (printItems items)) (itemTokens items)
  | [], _ => .nil
  | v :: rest, h =>
    .cons rfl ((cuts_print v h.1).append (cuts_printItems rest h.2) (breaks_later _))

theorem cuts_printMembers : (members : List (String × Json)) → MembersExact members →
    Cuts (later (printMembers members)) (memberTokens members)
  | [], _ => .nil
  | (k, v) :: rest, h =>
    .cons rfl ((cuts_printMember k (cuts_print v h.1)).append (cuts_printMembers rest h.2)
      (breaks_later _))

end

/-! ## From tokens to nodes -/

mutual

/-- A value as it is written. -/
def node : Json → Node
  | .null => .null
  | .bool b => .bool b
  | .number n => .number (some n)
  | .string s => .string (some s)
  | .array items => .array (itemNodes items)
  | .object members => .object (memberNodes members)

/-- The items of an array as they are written. -/
def itemNodes : List Json → List Node
  | [] => []
  | v :: rest => v.node :: itemNodes rest

/-- The members of an object as they are written. -/
def memberNodes : List (String × Json) → List (Option String × Node)
  | [] => []
  | (k, v) :: rest => (some k, v.node) :: memberNodes rest

end

open Node

/-- No value begins with the end of an array. -/
theorem tokens_eq_cons (v : Json) : ∃ t rest, v.tokens = t :: rest ∧ t ≠ .closeArray := by
  cases v with
  | array items => cases items <;> exact ⟨.openArray, _, rfl, nofun⟩
  | object members =>
    rcases members with _ | ⟨⟨k, v⟩, rest⟩ <;> exact ⟨.openObject, _, rfl, nofun⟩
  | null | bool | number | string => exact ⟨_, [], rfl, nofun⟩

/-- An array that is not empty opens with its first item. -/
theorem read?_openArray (stack : List Frame) (v : Json) (rest : List Token) :
    read? stack (.openArray :: (v.tokens ++ rest)) =
      read? (.array [] :: stack) (v.tokens ++ rest) := by
  obtain ⟨t, tail, heq, hne⟩ := v.tokens_eq_cons
  rw [heq, List.cons_append, read?]
  rintro _ ⟨⟩
  exact hne rfl

mutual

/-- **The tokens of a value are read as that value**, inside whatever is open and whatever
follows. -/
theorem read?_tokens (stack : List Frame) (rest : List Token) :
    (v : Json) → read? stack (v.tokens ++ rest) = resume? stack v.node rest
  | .null | .bool _ | .number _ | .string _ => rfl
  | .array [] => rfl
  | .array (v :: items) => by
    rw [tokens, List.cons_append, List.append_assoc, read?_openArray, read?_tokens,
      List.append_assoc, List.singleton_append, resume?_itemTokens]
    rfl
  | .object [] => rfl
  | .object ((k, v) :: members) => by
    rw [tokens, List.cons_append, List.cons_append, List.cons_append, List.append_assoc, read?,
      read?_tokens, List.append_assoc, List.singleton_append, resume?_memberTokens]
    rfl

theorem resume?_itemTokens (stack : List Frame) (rest : List Token) (done : List Node)
    (value : Node) : (items : List Json) →
      resume? (.array done :: stack) value (itemTokens items ++ .closeArray :: rest) =
        resume? stack (.array ((value :: done).reverse ++ itemNodes items)) rest
  | [] => by
    rw [itemNodes, List.append_nil]
    rfl
  | v :: items => by
    rw [itemTokens, List.cons_append, List.append_assoc, resume?, read?_tokens,
      resume?_itemTokens, itemNodes, List.reverse_cons, List.append_assoc]
    rfl

theorem resume?_memberTokens (stack : List Frame) (rest : List Token)
    (done : List (Option String × Node)) (key : Option String) (value : Node) :
    (members : List (String × Json)) →
      resume? (.object done key :: stack) value (memberTokens members ++ .closeObject :: rest) =
        resume? stack (.object (((key, value) :: done).reverse ++ memberNodes members)) rest
  | [] => by
    rw [memberNodes, List.append_nil]
    rfl
  | (k, v) :: members => by
    rw [memberTokens, List.cons_append, List.cons_append, List.cons_append, List.append_assoc,
      resume?, read?_tokens, resume?_memberTokens, memberNodes, List.reverse_cons,
      List.append_assoc]
    rfl

end

/-- The whole text of a value is read as its node. -/
theorem Cuts.ofText? {v : Json} (h : Cuts v.print.toList v.tokens) :
    Node.ofText? v.print = some v.node := by
  have cut := h [] .nil
  have read := read?_tokens [] [] v
  rw [List.append_nil] at cut read
  rw [Node.ofText?, cut, Token.ofText?, Option.map_some, List.append_nil, Option.bind_some,
    ofTokens?, read]
  rfl

/-! ## From nodes to values -/

mutual

/-- **The node of an exact value stands for that value**, on as many levels as it has and more. -/
theorem value?_node {depth : Nat} : (v : Json) → v.Exact → v.depth ≤ depth →
    v.node.value? depth = some v
  | .null, _, _ | .bool _, _, _ | .number _, _, _ | .string _, _, _ => rfl
  | .array items, h, hd => by
    cases depth with
    | zero => exact absurd hd (Nat.not_succ_le_zero _)
    | succ depth =>
      rw [node, value?, itemValues?_itemNodes items h (Nat.le_of_succ_le_succ hd)]
      rfl
  | .object members, h, hd => by
    cases depth with
    | zero => exact absurd hd (Nat.not_succ_le_zero _)
    | succ depth =>
      rw [node, value?, memberValues?_memberNodes members h.2 (Nat.le_of_succ_le_succ hd),
        Option.map_some, h.1.ofList_eq]

theorem itemValues?_itemNodes {depth : Nat} : (items : List Json) → ItemsExact items →
    itemsDepth items ≤ depth → itemValues? depth (itemNodes items) = some items
  | [], _, _ => rfl
  | v :: rest, h, hd => by
    rw [itemNodes, itemValues?, value?_node v h.1 (Nat.le_trans (Nat.le_max_left _ _) hd),
      itemValues?_itemNodes rest h.2 (Nat.le_trans (Nat.le_max_right _ _) hd)]
    rfl

theorem memberValues?_memberNodes {depth : Nat} : (members : List (String × Json)) →
    MembersExact members → membersDepth members ≤ depth →
      memberValues? depth (memberNodes members) = some members
  | [], _, _ => rfl
  | (k, v) :: rest, h, hd => by
    rw [memberNodes, memberValues?, value?_node v h.1 (Nat.le_trans (Nat.le_max_left _ _) hd),
      memberValues?_memberNodes rest h.2 (Nat.le_trans (Nat.le_max_right _ _) hd)]
    rfl

end

mutual

/-- **No value is nested more deeply than there are levels.** -/
theorem value?_node_of_deep {depth : Nat} : (v : Json) → depth < v.depth →
    v.node.value? depth = none
  | .null, h | .bool _, h | .number _, h | .string _, h => absurd h (Nat.not_lt_zero depth)
  | .array items, h => by
    cases depth with
    | zero => rfl
    | succ depth =>
      rw [node, value?, itemValues?_of_deep items (Nat.lt_of_succ_lt_succ h)]
      rfl
  | .object members, h => by
    cases depth with
    | zero => rfl
    | succ depth =>
      rw [node, value?, memberValues?_of_deep members (Nat.lt_of_succ_lt_succ h)]
      rfl

theorem itemValues?_of_deep {depth : Nat} : (items : List Json) → depth < itemsDepth items →
    itemValues? depth (itemNodes items) = none
  | [], h => absurd h (Nat.not_lt_zero depth)
  | v :: rest, h => by
    rw [itemNodes, itemValues?]
    obtain hv | hrest : depth < v.depth ∨ depth < itemsDepth rest := by
      rw [itemsDepth] at h
      omega
    · rw [value?_node_of_deep v hv]
      rfl
    · rw [itemValues?_of_deep rest hrest]
      cases v.node.value? depth <;> rfl

theorem memberValues?_of_deep {depth : Nat} : (members : List (String × Json)) →
    depth < membersDepth members → memberValues? depth (memberNodes members) = none
  | [], h => absurd h (Nat.not_lt_zero depth)
  | (k, v) :: rest, h => by
    rw [memberNodes, memberValues?]
    obtain hv | hrest : depth < v.depth ∨ depth < membersDepth rest := by
      rw [membersDepth] at h
      omega
    · rw [value?_node_of_deep v hv]
      rfl
    · rw [memberValues?_of_deep rest hrest]
      cases v.node.value? depth <;> rfl

end

/-! ## Whole texts -/

/-- **An exact value is read back from its text just when it is not nested too deeply.** -/
theorem ofText?_print_iff {v : Json} (h : v.Exact) :
    ofText? v.print = some v ↔ v.depth ≤ maxDepth := by
  rw [ofText?, (cuts_print v h).ofText?, Option.bind_some]
  constructor
  · intro hread
    refine Nat.le_of_not_lt fun deep => ?_
    rw [value?_node_of_deep v deep] at hread
    cases hread
  · exact value?_node v h

/-- An object with its members in any order is read as the mapping that they stand for. -/
theorem ofText?_printObject {members : List (String × Json)} (h : MembersExact members)
    (hd : membersDepth members < maxDepth) :
    ofText? (print (.object members)) = some (.object (Keyed.ofList members)) := by
  have values := memberValues?_memberNodes members h (Nat.le_pred_of_lt hd)
  rw [ofText?, (cuts_printObject members h).ofText?, Option.bind_some, node]
  exact congrArg (Option.map fun ms => object (Keyed.ofList ms)) values

end Pagewise.Json
