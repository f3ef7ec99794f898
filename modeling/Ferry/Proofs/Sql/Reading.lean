import Ferry.Proofs.Sql.Insert
import Ferry.Proofs.Sql.Literal
import Mathlib.Data.List.Forall2

set_option autoImplicit false

/-! # Statements that write rows are read back

Nothing that stands in a name or in a value can change what a statement does: the text that writes
rows is cut into tokens and read as one statement, with the names and the values that it was made
of. -/

namespace Ferry.Sql

open Identifier (Usable quotedForm quotedNames)

/-! ## Pieces -/

section
variable {α : Type} {f : α → String} {g : α → List Token} {xs : List α} {name : String}
  {names columns key : List String} {s t : String} {ts us : List Token}

/-- Pieces with commas between are a list of tokens. -/
theorem tokens_join (h : ∀ x ∈ xs, tokens (f x).toList = some (g x)) :
    tokens (Text.join ", " (xs.map f)).toList = some (listed (xs.map g)) := by
  induction xs with
  | nil => rfl
  | cons x rest ih =>
      obtain ⟨hx, hrest⟩ := List.forall_mem_cons.1 h
      cases rest with
      | nil =>
          rw [List.map_singleton, List.map_singleton, Text.join_singleton, listed,
            List.intercalate_singleton]
          exact hx
      | cons y rest =>
          have hblank := tokens_separator .blank (ih hrest)
          have hcomma := tokens_append .comma hx hblank
          rw [List.map_cons, List.map_cons, Text.join_cons_cons, List.map_cons, List.map_cons,
            listed_cons_cons]
          simpa [separatorTokens] using hcomma

/-- A piece in parentheses, and what follows. -/
theorem tokens_enclosed {xs ys : List Char} (hxs : tokens xs = some ts)
    (hys : tokens ys = some us) :
    tokens ('(' :: xs ++ ')' :: ys) = some (.symbol '(' :: ts ++ .symbol ')' :: us) := by
  have hclose := tokens_append .closing hxs hys
  have hopen := tokens_separator .opening hclose
  simpa [separatorTokens] using hopen

theorem quotedForm_toList (name : String) : (quotedForm name).toList = quotedChars '"' name := by
  simp [quotedForm, quotedChars]

theorem tokens_quotedForm (h : Usable name) :
    tokens (quotedForm name).toList = some (nameTokens name) := by
  rw [quotedForm_toList]
  exact tokens_name (Identifier.usable_iff.1 h)

theorem tokens_quotedNames (h : ∀ name ∈ names, Usable name) :
    tokens (quotedNames names).toList = some (listed (names.map nameTokens)) :=
  tokens_join (fun name hname => tokens_quotedForm (h name hname))

theorem tokens_assignment (h : Usable name) :
    tokens (assignment (quotedForm name)).toList = some (Assignment.mk name name).tokens := by
  have hissue := Identifier.usable_iff.1 h
  have hexcluded := tokens_word_name (w := "EXCLUDED") rfl hissue
  have hequals : tokens ['='] = some [.symbol '='] := rfl
  have hright := tokens_append .blank hequals hexcluded
  have hassignment := tokens_append .blank (tokens_name hissue) hright
  simpa [assignment, quotedForm_toList, Assignment.tokens, separatorTokens] using hassignment

/-- A row is cut into a tuple. -/
theorem tokens_tuple (row : Row) :
    tokens (tuple row).toList = some (rowNode (row.map Expr.ofValue)).tokens := by
  have hrow := tokens_join (g := Expr.tokens ∘ Expr.ofValue)
    (fun v (_ : v ∈ row) => Expr.tokens_literal v)
  have htuple := tokens_enclosed hrow tokens_nil
  rw [rowNode, Node.tokens, List.map_map]
  simpa [tuple] using htuple

theorem flatMap_rowNodes (rows : List (List Expr)) :
    (rowNodes rows).flatMap Node.tokens = listed (rows.map (fun row => (rowNode row).tokens)) := by
  induction rows with
  | nil => rfl
  | cons row rest ih =>
      cases rest with
      | nil => simp [rowNodes, listed]
      | cons next rest =>
          rw [rowNodes, List.map_cons, List.map_cons, List.intersperse_cons_cons, List.map_cons,
            List.map_cons, listed_cons_cons, List.flatMap_cons, List.flatMap_cons]
          exact congrArg (fun ts => (rowNode row).tokens ++ .symbol ',' :: ts) ih

theorem tokens_rows (rows : List Row) :
    tokens (Text.join ", " (rows.map tuple)).toList
      = some ((rowNodes (rows.map (fun row => row.map Expr.ofValue))).flatMap Node.tokens) := by
  rw [flatMap_rowNodes, List.map_map]
  exact tokens_join (fun row _ => tokens_tuple row)

/-- What is done with a row whose key is there already: nothing if all columns are in the key, else
    every other column is set to its value in the row that could not be inserted. -/
def overwriting (columns key : List String) : Action :=
  if ∀ c ∈ columns, c ∈ key then .nothing
  else .update ((columns.filter (fun c => c ∉ key)).map (fun c => ⟨c, c⟩))

theorem overwriting_eq (columns key : List String) :
    overwriting columns key = if overwritten columns key = [] then .nothing
      else .update ((overwritten columns key).map (fun c => ⟨c, c⟩)) := by
  have hfilter : columns.filter (fun c => c ∉ key) = overwritten columns key := by
    simp [overwritten]
  have hall : (∀ c ∈ columns, c ∈ key) ↔ overwritten columns key = [] := by
    simp [overwritten, List.filter_eq_nil_iff]
  rw [overwriting, hfilter]
  simp only [hall]

theorem flatMap_leaves (ts : List Token) : (ts.map Node.leaf).flatMap Node.tokens = ts := by
  rw [List.flatMap_map]
  exact List.flatMap_singleton' ts

theorem tokens_actionText (h : ∀ name ∈ columns, Usable name) (key : List String) :
    tokens (actionText columns key).toList
      = some (.word "DO" :: (overwriting columns key).nodes.flatMap Node.tokens) := by
  rw [actionText, overwriting_eq]
  split
  · exact rfl
  · have hupdates : ∀ c ∈ overwritten columns key,
        tokens (assignment (quotedForm c)).toList = some (Assignment.mk c c).tokens := fun c hc =>
      tokens_assignment (h c (List.mem_filter.1 hc).1)
    have hset := tokens_word_blank (w := "SET") rfl (tokens_join hupdates)
    have hupdate := tokens_word_blank (w := "UPDATE") rfl hset
    have hdo := tokens_separator .blank (tokens_word_blank (w := "DO") rfl hupdate)
    simpa [Action.nodes, flatMap_leaves, Node.tokens, separatorTokens, Function.comp_def] using hdo

/-- The key and the action behind a piece that is complete. -/
theorem tokens_clause {xs : List Char} {conflictKey : Option (List String)}
    (hxs : tokens xs = some ts) (hcolumns : ∀ name ∈ columns, Usable name)
    (hkey : ∀ name ∈ conflictKey.getD [], Usable name) :
    tokens (xs ++ ((conflictKey.map (clauseText columns)).getD "").toList)
      = some (ts ++ (conflictNodes (conflictKey.map
          (fun key => (key, overwriting columns key)))).flatMap Node.tokens) := by
  cases conflictKey with
  | none => simpa [conflictNodes] using hxs
  | some key =>
      have hgroup := tokens_enclosed (tokens_quotedNames hkey) (tokens_actionText hcolumns key)
      have hon := tokens_word_blank (w := "ON") rfl (tokens_word_blank (w := "CONFLICT") rfl hgroup)
      have hclause := tokens_append .blank hxs hon
      rw [Option.map_some, Option.getD_some]
      unfold clauseText
      simpa [conflictNodes, namesNode, Node.tokens, separatorTokens] using hclause

/-! ## Statements -/

variable {target : WriteTarget} {rows : List Row} {sql : String}

/-- The statement that writes rows. -/
def Statement.ofRows (target : WriteTarget) (rows : List Row) : Statement where
  schema := target.schema
  table := target.table
  columns := target.columns
  rows := rows.map (fun row => row.map Expr.ofValue)
  conflict := target.conflictKey.map (fun key => (key, overwriting target.columns key))

/-- The text that writes rows is cut into the tokens of the statement. -/
theorem tokenize_text (h : ∀ name ∈ Sql.names target, Usable name) :
    tokenize (text target rows) = some (Statement.ofRows target rows).tokens := by
  obtain ⟨⟨hschema, htable⟩, hcolumns, hkey⟩ := forall_names_iff.1 h
  -- From the end of the text to its beginning, one more piece in front at each step.
  have hbody := tokens_clause (tokens_rows rows) hcolumns hkey
  have hvalues := tokens_separator .blank (tokens_word_blank (w := "VALUES") rfl hbody)
  have hgroup := tokens_enclosed (tokens_quotedNames hcolumns) hvalues
  have hname := tokens_append .blank
    (tokens_qualified (Identifier.usable_iff.1 hschema) (Identifier.usable_iff.1 htable)) hgroup
  have hinto := tokens_word_blank (w := "INSERT") rfl (tokens_word_blank (w := "INTO") rfl hname)
  unfold text
  simpa [tokenize, quotedForm_toList, Statement.ofRows, Statement.tokens, Statement.nodes,
    namesNode, Node.tokens, separatorTokens] using hinto

/-- The expression stands for the value: it is written as the literal of the value, and a text or a
    document is in it as it is. -/
structure Expr.StandsFor (e : Expr) (v : Value) : Prop where
  spelling : e.spelling = literal v
  text : ∀ s, v = .text s → e = .text s none
  json : ∀ d, v = .json d → e = .text d.compact none

/-- The statement writes rows to a target, and nothing else. -/
structure Statement.Writes (s : Statement) (target : WriteTarget) (rows : List Row) : Prop where
  schema : s.schema = target.schema
  table : s.table = target.table
  columns : s.columns = target.columns
  /-- A tuple for each row, with an expression for each of its values. -/
  rows : List.Forall₂ (List.Forall₂ Expr.StandsFor) s.rows rows
  /-- There is an expression for each column. -/
  width : ∀ row ∈ s.rows, row.length = target.columns.length
  conflict : s.conflict
    = target.conflictKey.map (fun key => (key, overwriting target.columns key))

theorem Expr.standsFor_ofValue (v : Value) : (ofValue v).StandsFor v where
  spelling := spelling_ofValue v
  text := by
    rintro s rfl
    rfl
  json := by
    rintro d rfl
    rfl

theorem Statement.writes_ofRows (h : ∀ row ∈ rows, row.length = target.columns.length) :
    (Statement.ofRows target rows).Writes target rows where
  schema := rfl
  table := rfl
  columns := rfl
  rows := by
    have hrow (row : Row) : List.Forall₂ Expr.StandsFor (row.map Expr.ofValue) row :=
      List.forall₂_map_left_iff.2 (List.forall₂_same.2 (fun v _ => Expr.standsFor_ofValue v))
    exact List.forall₂_map_left_iff.2 (List.forall₂_same.2 (fun row _ => hrow row))
  width := by
    intro exprs hexprs
    obtain ⟨row, hrow, rfl⟩ := List.mem_map.1 hexprs
    rw [List.length_map, h row hrow]
  conflict := rfl

/-- Whatever stands in the names and in the values, the text that writes at least one row is read as
    one statement that writes just these rows to just this target. -/
theorem insert_read_back (hrows : rows ≠ []) (h : insert target rows = .ok sql) :
    ∃ statement, read sql = some statement ∧ statement.Writes target rows := by
  obtain ⟨hwidth, hnames, rfl⟩ := insert_eq_ok_iff.1 h
  have hne : (Statement.ofRows target rows).rows ≠ [] := by
    simpa [Statement.ofRows] using hrows
  exact ⟨_, Statement.read_of_tokens hne (tokenize_text hnames), Statement.writes_ofRows hwidth⟩

end

/-! ### A hostile row -/

namespace Sample

/-- Quotes of both kinds, a backslash and the end of a statement in names and in a text. -/
def hostile : WriteTarget :=
  ⟨"public", "the \"users\"", ["id", "note\") VALUES (1); --"], some ["id"]⟩

/-- A row of it. -/
def hostileRows : List Row := [[.int (-7), .text "\\'); DROP TABLE users; --"]]

/-- The text that writes it. -/
def hostileText : String :=
  "INSERT INTO \"public\".\"the \"\"users\"\"\" (\"id\", \"note\"\") VALUES (1); --\")"
    ++ " VALUES (-7, '\\''); DROP TABLE users; --') ON CONFLICT (\"id\")"
    ++ " DO UPDATE SET \"note\"\") VALUES (1); --\" = EXCLUDED.\"note\"\") VALUES (1); --\""

end Sample

theorem sample_insert_read_back :
    Sample.hostileRows ≠ [] ∧ insert Sample.hostile Sample.hostileRows = .ok Sample.hostileText ∧
      ∃ statement, read Sample.hostileText = some statement
        ∧ statement.Writes Sample.hostile Sample.hostileRows := by
  have hne : Sample.hostileRows ≠ [] := List.cons_ne_nil _ _
  have hinsert : insert Sample.hostile Sample.hostileRows = .ok Sample.hostileText :=
    insert_eq_ok_iff.2 ⟨by decide, by decide, by decide +kernel⟩
  exact ⟨hne, hinsert, insert_read_back hne hinsert⟩

end Ferry.Sql
