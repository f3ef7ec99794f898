import Ferry.Proofs.Sql.Reading

set_option autoImplicit false

/-! # Names that are quoted together

Columns are quoted as a list and a table together with its schema. Either text can be had just if
each of its names can be quoted, and it is read back as the names that it was made of
(`names_read_back`): whatever stands in the names, no two lists, no two tables and no list and table
have one text. -/

namespace Ferry.Sql

open Identifier (Usable quote quoteEach firstBad? quotedForm)

/-- Names that stand together in a statement. -/
inductive Naming
  /-- Names with commas between. -/
  | listed (names : List String)
  /-- A table in its schema. -/
  | qualified (schema table : String)
deriving DecidableEq

namespace Naming

/-- The names in their order. -/
def names : Naming → List String
  | listed names => names
  | qualified schema table => [schema, table]

/-- What stands between two names. -/
def separator : Naming → String
  | listed _ => ", "
  | qualified _ _ => "."

/-- The text in which the names are quoted. -/
def text : Naming → Except MigrationError String
  | listed names => Identifier.quoteList names
  | qualified schema table => Identifier.qualify schema table

/-- The tokens of the text. -/
def tokens : Naming → List Token
  | listed names => Sql.listed (names.map nameTokens)
  | qualified schema table => [.name schema, .symbol '.', .name table]

/-- Read names from tokens. -/
def ofTokens? : List Token → Option Naming
  | [.name schema, .symbol '.', .name table] => some (qualified schema table)
  | ts => (items? name? ts).map listed

/-- Read names from a text. -/
def read (sql : String) : Option Naming := (tokenize sql).bind ofTokens?

variable {naming : Naming} {sql : String} {e : MigrationError}

theorem text_eq (naming : Naming) :
    naming.text = (quoteEach naming.names).map (Text.join naming.separator) := by
  cases naming with
  | listed names => rfl
  | qualified schema table => exact Identifier.qualify_eq schema table

theorem text_isOk_iff : naming.text.isOk ↔ ∀ name ∈ naming.names, (quote name).isOk := by
  rw [text_eq, isOk_map, isOk_iff]
  simp only [Identifier.quoteEach_eq_ok_iff, exists_and_left, exists_eq, and_true,
    Identifier.quote_isOk_iff]

theorem text_eq_error_iff : naming.text = .error e ↔
    ∃ bad, firstBad? naming.names = some bad ∧ quote bad = .error e := by
  rw [text_eq, map_eq_error_iff, Identifier.quoteEach_eq_error_iff]

/-- No list of names has a point in it. -/
theorem ofTokens?_tokens (naming : Naming) : ofTokens? naming.tokens = some naming := by
  cases naming with
  | qualified schema table => rfl
  | listed names =>
      unfold ofTokens?
      split
      · next schema table heq =>
          have hpoint : Token.symbol '.' ∈ Sql.listed (names.map nameTokens) := by
            rw [tokens] at heq
            simp [heq]
          rcases mem_listed hpoint with h | ⟨item, hitem, hmem⟩
          · cases h
          · obtain ⟨name, -, rfl⟩ := List.mem_map.1 hitem
            cases List.mem_singleton.1 hmem
      · rw [tokens, names_listed]
        rfl

theorem tokenize_text (h : naming.text = .ok sql) : tokenize sql = some naming.tokens := by
  cases naming with
  | listed names =>
      obtain ⟨husable, rfl⟩ := Identifier.quoteList_eq_ok_iff.1 h
      exact tokens_quotedNames husable
  | qualified schema table =>
      obtain ⟨⟨hschema, htable⟩, rfl⟩ := Identifier.qualify_eq_ok_iff.1 h
      have hqualified := tokens_qualified (Identifier.usable_iff.1 hschema)
        (Identifier.usable_iff.1 htable)
      simpa [tokenize, quotedForm_toList, tokens] using hqualified

theorem read_text (h : naming.text = .ok sql) : read sql = some naming := by
  rw [read, tokenize_text h, Option.bind_some, ofTokens?_tokens]

end Naming

/-- A name can be quoted if it is not empty, has no NUL character and at most 63 bytes. Names can be
    quoted together if each of them can, and otherwise the error is that of the first that cannot.
    The text is read back as the names, so it is the text of no others. -/
theorem names_read_back (name : String) (naming : Naming) (e : MigrationError) (sql : String) :
    ((quote name).isOk ↔ name ≠ "" ∧ '\x00' ∉ name.toList ∧ name.utf8ByteSize ≤ 63) ∧
    (quote name = .error e → ∃ issue : Identifier.Issue, e = .config issue.message) ∧
    (naming.text.isOk ↔ ∀ name ∈ naming.names, (quote name).isOk) ∧
    (naming.text = .error e ↔
      ∃ bad, firstBad? naming.names = some bad ∧ quote bad = .error e) ∧
    (naming.text = .ok sql →
      Naming.read sql = some naming ∧ ∀ other : Naming, other.text = .ok sql → other = naming) := by
  refine ⟨?_, ?_, Naming.text_isOk_iff, Naming.text_eq_error_iff, ?_⟩
  · rw [Identifier.quote_isOk_iff]
    exact Identifier.usable_iff_short
  · intro h
    obtain ⟨issue, -, rfl⟩ := Identifier.quote_eq_error_iff.1 h
    exact ⟨issue, rfl⟩
  · intro h
    have hread := Naming.read_text h
    refine ⟨hread, ?_⟩
    intro other hother
    exact Option.some.inj ((Naming.read_text hother).symm.trans hread)

/-- A table whose name looks like a point between two names, and a name that is refused. -/
theorem sample_names_read_back :
    (∃ issue : Identifier.Issue,
      MigrationError.config "Identifier cannot be empty" = .config issue.message) ∧
    (Naming.qualified "public" "a\".\"b").text = .ok "\"public\".\"a\"\".\"\"b\"" ∧
    Naming.read "\"public\".\"a\"\".\"\"b\"" = some (.qualified "public" "a\".\"b") ∧
    ∀ other : Naming, other.text = .ok "\"public\".\"a\"\".\"\"b\"" →
      other = .qualified "public" "a\".\"b" := by
  have hempty : quote "" = .error (.config "Identifier cannot be empty") := rfl
  have htext : (Naming.qualified "public" "a\".\"b").text
      = .ok "\"public\".\"a\"\".\"\"b\"" := rfl
  obtain ⟨-, hrefused, -, -, hread⟩ := names_read_back "" (.qualified "public" "a\".\"b")
    (.config "Identifier cannot be empty") "\"public\".\"a\"\".\"\"b\""
  obtain ⟨hback, honly⟩ := hread htext
  exact ⟨hrefused hempty, htext, hback, honly⟩

end Ferry.Sql
