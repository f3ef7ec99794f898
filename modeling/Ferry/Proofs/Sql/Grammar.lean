import Ferry.Proofs.Sql.Token

set_option autoImplicit false

/-! # Insert statements

An `INSERT` with literals for its values, and how it is read from its tokens. The tokens are first
cut at parentheses into nodes, which have no nodes in them, and what stands in parentheses or at the
end is then cut at commas. A statement read this way is the whole text: nothing can follow it. -/

namespace Ferry.Sql

/-! ## Statements -/

/-- An expression that stands for a value. -/
inductive Expr
  | null
  | bool (value : Bool)
  | number (negative : Bool) (numeral : String)
  /-- A text, and the type that it is read as if there is a cast. -/
  | text (content : String) (type : Option String)
deriving DecidableEq

/-- A column is set to what the row that could not be inserted has in a column. -/
structure Assignment where
  column : String
  excluded : String
deriving DecidableEq

/-- What is done with a row whose key is there already. -/
inductive Action
  | nothing
  | update (assignments : List Assignment)
deriving DecidableEq

/-- A statement that inserts rows. -/
structure Statement where
  schema : String
  table : String
  columns : List String
  rows : List (List Expr)
  /-- The columns of the key and the action, if the statement has an `ON CONFLICT`. -/
  conflict : Option (List String × Action)
deriving DecidableEq

/-! ## Nodes -/

/-- A token outside of parentheses, or all that stands between two of them. -/
inductive Node
  | leaf (token : Token)
  | group (content : List Token)
deriving DecidableEq

/-- Cut tokens at parentheses. Behind an opening one its content so far is at hand. -/
def nodesFrom? : Option (List Token) → List Token → Option (List Node)
  | none, [] => some []
  | some _, [] => none
  | none, t :: rest =>
    if t = .symbol '(' then nodesFrom? (some []) rest
    else if t = .symbol ')' then none
    else (nodesFrom? none rest).map (.leaf t :: ·)
  | some content, t :: rest =>
    if t = .symbol '(' then none
    else if t = .symbol ')' then (nodesFrom? none rest).map (.group content :: ·)
    else nodesFrom? (some (content ++ [t])) rest

namespace Node

/-- The tokens of a node. -/
def tokens : Node → List Token
  | leaf t => [t]
  | group content => .symbol '(' :: content ++ [.symbol ')']

/-- Parentheses stand at the ends of groups only. -/
def Flat : Node → Prop
  | leaf t => t ≠ .symbol '(' ∧ t ≠ .symbol ')'
  | group content => ∀ t ∈ content, t ≠ .symbol '(' ∧ t ≠ .symbol ')'

theorem flat_leaf_word (w : String) : (leaf (.word w)).Flat := by simp [Flat]

theorem flat_leaf_name (name : String) : (leaf (.name name)).Flat := by simp [Flat]

end Node

theorem nodesFrom?_content (content rest : List Token) {more : List Token}
    (h : ∀ t ∈ more, t ≠ .symbol '(' ∧ t ≠ .symbol ')') :
    nodesFrom? (some content) (more ++ .symbol ')' :: rest)
      = (nodesFrom? none rest).map (.group (content ++ more) :: ·) := by
  induction more generalizing content with
  | nil => simp [nodesFrom?]
  | cons t more ih =>
      obtain ⟨ht, hmore⟩ := List.forall_mem_cons.1 h
      rw [List.cons_append, nodesFrom?, if_neg ht.1, if_neg ht.2, ih _ hmore, List.append_assoc]
      rfl

/-- Flat nodes are cut out of their tokens again. -/
theorem nodesFrom?_tokens {nodes : List Node} (h : ∀ node ∈ nodes, node.Flat) :
    nodesFrom? none (nodes.flatMap Node.tokens) = some nodes := by
  induction nodes with
  | nil => rfl
  | cons node rest ih =>
      obtain ⟨hnode, hrest⟩ := List.forall_mem_cons.1 h
      rw [List.flatMap_cons]
      cases node with
      | leaf t =>
          rw [Node.tokens, List.singleton_append, nodesFrom?, if_neg hnode.1, if_neg hnode.2,
            ih hrest]
          rfl
      | group content =>
          have hcontent := nodesFrom?_content [] (rest.flatMap Node.tokens) hnode
          rw [ih hrest] at hcontent
          rw [Node.tokens, List.cons_append, List.cons_append, List.append_assoc, nodesFrom?,
            if_pos rfl]
          exact hcontent

/-! ## Lists -/

/-- Items with commas between. -/
def listed (items : List (List Token)) : List Token := [.symbol ','].intercalate items

/-- Read items that stand between commas. There can be none. -/
def items? {α : Type} (item? : List Token → Option α) (ts : List Token) : Option (List α) :=
  if ts = [] then some [] else (ts.splitOn (.symbol ',')).mapM item?

/-- No comma and no parenthesis. -/
def Token.Inner (t : Token) : Prop := t ≠ .symbol ',' ∧ t ≠ .symbol '(' ∧ t ≠ .symbol ')'

section
variable {α : Type} {make : α → List Token} {item? : List Token → Option α} {xs : List α}

theorem listed_cons_cons (item next : List Token) (rest : List (List Token)) :
    listed (item :: next :: rest) = item ++ .symbol ',' :: listed (next :: rest) := by
  rw [listed, List.intercalate_cons_cons, List.append_assoc]
  rfl

theorem mem_listed {items : List (List Token)} {t : Token} (h : t ∈ listed items) :
    t = .symbol ',' ∨ ∃ item ∈ items, t ∈ item := by
  induction items with
  | nil => simp [listed] at h
  | cons item rest ih =>
      cases rest with
      | nil =>
          rw [listed, List.intercalate_singleton] at h
          exact .inr ⟨item, List.mem_singleton_self _, h⟩
      | cons next rest =>
          rw [listed_cons_cons, List.mem_append, List.mem_cons] at h
          rcases h with h | h | h
          · exact .inr ⟨item, List.mem_cons_self, h⟩
          · exact .inl h
          · refine (ih h).imp_right (fun ⟨item', hmem, ht⟩ => ?_)
            exact ⟨item', List.mem_cons_of_mem _ hmem, ht⟩

theorem flat_listed (hinner : ∀ x, ∀ t ∈ make x, t.Inner) {t : Token}
    (h : t ∈ listed (xs.map make)) : t ≠ .symbol '(' ∧ t ≠ .symbol ')' := by
  rcases mem_listed h with rfl | ⟨item, hitem, ht⟩
  · decide
  · obtain ⟨x, -, rfl⟩ := List.mem_map.1 hitem
    exact (hinner x t ht).2

/-- Items that are not empty and have no commas are read back. -/
theorem items?_listed (hread : ∀ x, item? (make x) = some x) (hne : ∀ x, make x ≠ [])
    (hinner : ∀ x, ∀ t ∈ make x, t.Inner) : items? item? (listed (xs.map make)) = some xs := by
  cases xs with
  | nil => rfl
  | cons x rest =>
      have hlisted : listed ((x :: rest).map make) ≠ [] := by
        cases rest with
        | nil =>
            rw [List.map_singleton, listed, List.intercalate_singleton]
            exact hne x
        | cons y rest => simp [listed_cons_cons]
      have hcommas : ∀ item ∈ (x :: rest).map make, Token.symbol ',' ∉ item := by
        rintro item hitem hmem
        obtain ⟨y, -, rfl⟩ := List.mem_map.1 hitem
        exact (hinner y _ hmem).1 rfl
      have hread' : item? ∘ make = fun x => pure x := funext hread
      rw [items?, if_neg hlisted, listed, List.splitOn_intercalate _ hcommas (by simp),
        List.mapM_map, hread', List.mapM_pure, List.map_id']
      rfl

end

/-! ## Names, expressions and assignments -/

/-- The tokens of a name. -/
def nameTokens (name : String) : List Token := [.name name]

/-- Read a name. -/
def name? : List Token → Option String
  | [.name name] => some name
  | _ => none

namespace Expr

/-- The tokens of an expression. -/
def tokens : Expr → List Token
  | null => [.word "NULL"]
  | bool b => [.word (if b then "TRUE" else "FALSE")]
  | number negative numeral => (if negative then [.symbol '-'] else []) ++ [.number numeral]
  | text content none => [.text content]
  | text content (some type) => [.text content, .cast, .word type]

/-- Read an expression. -/
def ofTokens? : List Token → Option Expr
  | [.word w] =>
    if w = "NULL" then some null
    else if w = "TRUE" then some (bool true)
    else if w = "FALSE" then some (bool false)
    else none
  | [.number numeral] => some (number false numeral)
  | [.symbol '-', .number numeral] => some (number true numeral)
  | [.text content] => some (text content none)
  | [.text content, .cast, .word type] => some (text content (some type))
  | _ => none

theorem ofTokens?_tokens (e : Expr) : ofTokens? e.tokens = some e := by
  cases e with
  | null => rfl
  | bool b => cases b <;> rfl
  | number negative numeral => cases negative <;> rfl
  | text content type => cases type <;> rfl

theorem tokens_ne_nil (e : Expr) : e.tokens ≠ [] := by
  cases e with
  | number negative numeral => cases negative <;> simp [tokens]
  | text content type => cases type <;> simp [tokens]
  | _ => simp [tokens]

theorem inner_of_mem_tokens (e : Expr) : ∀ t ∈ e.tokens, t.Inner := by
  cases e with
  | number negative numeral => cases negative <;> simp [tokens, Token.Inner]
  | text content type => cases type <;> simp [tokens, Token.Inner]
  | _ => simp [tokens, Token.Inner]

end Expr

namespace Assignment

/-- The tokens of an assignment. -/
def tokens (a : Assignment) : List Token :=
  [.name a.column, .symbol '=', .word "EXCLUDED", .symbol '.', .name a.excluded]

/-- Read an assignment. -/
def ofTokens? : List Token → Option Assignment
  | [.name column, .symbol '=', .word "EXCLUDED", .symbol '.', .name excluded] =>
    some ⟨column, excluded⟩
  | _ => none

theorem ofTokens?_tokens (a : Assignment) : ofTokens? a.tokens = some a := rfl

theorem inner_of_mem_tokens (a : Assignment) : ∀ t ∈ a.tokens, t.Inner := by
  simp [tokens, Token.Inner]

end Assignment

theorem names_listed (names : List String) :
    items? name? (listed (names.map nameTokens)) = some names :=
  items?_listed (fun _ => rfl) (fun _ => List.cons_ne_nil _ _) (by simp [nameTokens, Token.Inner])

theorem exprs_listed (es : List Expr) :
    items? Expr.ofTokens? (listed (es.map Expr.tokens)) = some es :=
  items?_listed Expr.ofTokens?_tokens Expr.tokens_ne_nil Expr.inner_of_mem_tokens

theorem assignments_listed (as : List Assignment) :
    items? Assignment.ofTokens? (listed (as.map Assignment.tokens)) = some as :=
  items?_listed Assignment.ofTokens?_tokens (fun _ => List.cons_ne_nil _ _)
    Assignment.inner_of_mem_tokens

/-! ## Reading a statement -/

/-- The token that stands outside of parentheses. -/
def Node.leaf? : Node → Option Token
  | .leaf t => some t
  | .group _ => none

/-- Read tuples between commas, and what follows them. -/
def rows? : List Node → Option (List (List Expr) × List Node)
  | .group ts :: .leaf (.symbol ',') :: rest => do
    let row ← items? Expr.ofTokens? ts
    let (rows, rest) ← rows? rest
    some (row :: rows, rest)
  | .group ts :: rest => do
    let row ← items? Expr.ofTokens? ts
    some ([row], rest)
  | _ => none

/-- Read an action that is all that is left. -/
def Action.ofNodes? : List Node → Option Action
  | [.leaf (.word "NOTHING")] => some .nothing
  | .leaf (.word "UPDATE") :: .leaf (.word "SET") :: rest => do
    let ts ← rest.mapM Node.leaf?
    let assignments ← items? Assignment.ofTokens? ts
    some (.update assignments)
  | _ => none

/-- Read the key and the action, if there is anything left. -/
def conflict? : List Node → Option (Option (List String × Action))
  | [] => some none
  | .leaf (.word "ON") :: .leaf (.word "CONFLICT") :: .group key :: .leaf (.word "DO") :: rest => do
    let key ← items? name? key
    let action ← Action.ofNodes? rest
    some (some (key, action))
  | _ => none

/-- Read a statement. -/
def Statement.ofNodes? : List Node → Option Statement
  | .leaf (.word "INSERT") :: .leaf (.word "INTO") :: .leaf (.name schema) :: .leaf (.symbol '.')
      :: .leaf (.name table) :: .group columns :: .leaf (.word "VALUES") :: rest => do
    let columns ← items? name? columns
    let (rows, rest) ← rows? rest
    let conflict ← conflict? rest
    some ⟨schema, table, columns, rows, conflict⟩
  | _ => none

/-- Read the text of a statement. -/
def read (sql : String) : Option Statement := do
  let ts ← tokenize sql
  let nodes ← nodesFrom? none ts
  Statement.ofNodes? nodes

/-! ## Reading back what is laid out -/

/-- A list of names in parentheses. -/
def namesNode (names : List String) : Node := .group (listed (names.map nameTokens))

/-- A tuple. -/
def rowNode (row : List Expr) : Node := .group (listed (row.map Expr.tokens))

/-- Tuples with commas between. -/
def rowNodes (rows : List (List Expr)) : List Node :=
  (rows.map rowNode).intersperse (.leaf (.symbol ','))

/-- The nodes of an action. -/
def Action.nodes : Action → List Node
  | nothing => [.leaf (.word "NOTHING")]
  | update assignments =>
    .leaf (.word "UPDATE") :: .leaf (.word "SET")
      :: (listed (assignments.map Assignment.tokens)).map .leaf

/-- The nodes of a key and an action. -/
def conflictNodes : Option (List String × Action) → List Node
  | none => []
  | some (key, action) =>
    .leaf (.word "ON") :: .leaf (.word "CONFLICT") :: namesNode key :: .leaf (.word "DO")
      :: action.nodes

/-- The nodes of a statement. -/
def Statement.nodes (s : Statement) : List Node :=
  .leaf (.word "INSERT") :: .leaf (.word "INTO") :: .leaf (.name s.schema) :: .leaf (.symbol '.')
    :: .leaf (.name s.table) :: namesNode s.columns :: .leaf (.word "VALUES")
    :: (rowNodes s.rows ++ conflictNodes s.conflict)

/-- The tokens of a statement. -/
def Statement.tokens (s : Statement) : List Token := s.nodes.flatMap Node.tokens

theorem rows?_rowNodes {rows : List (List Expr)} (hrows : rows ≠ [])
    (conflict : Option (List String × Action)) :
    rows? (rowNodes rows ++ conflictNodes conflict) = some (rows, conflictNodes conflict) := by
  induction rows with
  | nil => exact absurd rfl hrows
  | cons row rest ih =>
      cases rest with
      | nil =>
          -- What follows the last tuple does not begin with a comma.
          cases conflict with
          | none => simp [rowNodes, rowNode, conflictNodes, rows?, exprs_listed]
          | some conflict => simp [rowNodes, rowNode, conflictNodes, rows?, exprs_listed]
      | cons next rest =>
          have hrest := ih (List.cons_ne_nil _ _)
          simp only [rowNodes, List.map_cons, List.intersperse_cons_cons, List.cons_append, rowNode,
            rows?, exprs_listed, Option.bind_eq_bind, Option.bind_some] at hrest ⊢
          rw [hrest]
          rfl

theorem Action.ofNodes?_nodes (action : Action) : ofNodes? action.nodes = some action := by
  cases action with
  | nothing => rfl
  | update assignments =>
      have hleaves : ∀ ts : List Token, (ts.map Node.leaf).mapM Node.leaf? = some ts := fun ts => by
        rw [List.mapM_map]
        exact (List.mapM_pure (m := Option)).trans (congrArg some (List.map_id' ts))
      simp [nodes, ofNodes?, hleaves, assignments_listed]

theorem conflict?_conflictNodes (conflict : Option (List String × Action)) :
    conflict? (conflictNodes conflict) = some conflict := by
  cases conflict with
  | none => rfl
  | some conflict =>
      simp [conflictNodes, conflict?, namesNode, names_listed, Action.ofNodes?_nodes]

theorem Statement.ofNodes?_nodes {s : Statement} (hrows : s.rows ≠ []) :
    ofNodes? s.nodes = some s := by
  simp [nodes, ofNodes?, namesNode, names_listed, rows?_rowNodes hrows, conflict?_conflictNodes]

theorem flat_namesNode (names : List String) : (namesNode names).Flat := fun _ ht =>
  flat_listed (by simp [nameTokens, Token.Inner]) ht

theorem flat_rowNode (row : List Expr) : (rowNode row).Flat := fun _ ht =>
  flat_listed Expr.inner_of_mem_tokens ht

theorem flat_rowNodes (rows : List (List Expr)) : ∀ node ∈ rowNodes rows, node.Flat := by
  induction rows with
  | nil => exact fun _ hnode => nomatch hnode
  | cons row rest ih =>
      cases rest with
      | nil => exact List.forall_mem_singleton.2 (flat_rowNode row)
      | cons next rest =>
          have hcomma : (Node.leaf (.symbol ',')).Flat := by simp [Node.Flat]
          rw [rowNodes, List.map_cons, List.map_cons, List.intersperse_cons_cons]
          exact List.forall_mem_cons.2 ⟨flat_rowNode row, List.forall_mem_cons.2 ⟨hcomma, ih⟩⟩

theorem Action.flat_nodes (action : Action) : ∀ node ∈ action.nodes, node.Flat := by
  cases action with
  | nothing => simp [nodes, Node.Flat]
  | update assignments =>
      have hflat : ∀ t ∈ listed (assignments.map Assignment.tokens), (Node.leaf t).Flat :=
        fun _ ht => flat_listed Assignment.inner_of_mem_tokens ht
      simpa [nodes, Node.Flat] using hflat

theorem flat_conflictNodes (conflict : Option (List String × Action)) :
    ∀ node ∈ conflictNodes conflict, node.Flat := by
  cases conflict with
  | none => exact fun _ hnode => nomatch hnode
  | some conflict =>
      simp only [conflictNodes, List.forall_mem_cons]
      exact ⟨Node.flat_leaf_word _, Node.flat_leaf_word _, flat_namesNode _, Node.flat_leaf_word _,
        conflict.2.flat_nodes⟩

theorem Statement.flat_nodes (s : Statement) : ∀ node ∈ s.nodes, node.Flat := by
  simp only [nodes, List.forall_mem_cons, List.forall_mem_append]
  exact ⟨Node.flat_leaf_word _, Node.flat_leaf_word _, Node.flat_leaf_name _, by simp [Node.Flat],
    Node.flat_leaf_name _, flat_namesNode _, Node.flat_leaf_word _, flat_rowNodes _,
    flat_conflictNodes _⟩

/-- A statement is read back from its tokens. -/
theorem Statement.read_of_tokens {s : Statement} {sql : String} (hrows : s.rows ≠ [])
    (h : tokenize sql = some s.tokens) : read sql = some s := by
  simp only [read, h, tokens, nodesFrom?_tokens s.flat_nodes, ofNodes?_nodes hrows,
    Option.bind_eq_bind, Option.bind_some]

end Ferry.Sql
