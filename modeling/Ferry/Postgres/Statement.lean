import Ferry.Postgres.Decoder

set_option autoImplicit false

/-! # Statements

What is sent to a server. A statement has its text, and what the text does: the commands it is
made of, and the tables that it is about. -/

namespace Ferry.Postgres

/-- The query for the columns of all tables of a schema. Arrays and types of one's own go by the
    name of their type. -/
def columnsQuery : String := "
    SELECT
        c.table_name::text,
        c.column_name::text,
        CASE
            WHEN c.data_type IN ('ARRAY', 'USER-DEFINED') THEN c.udt_name::text
            ELSE c.data_type::text
        END,
        c.is_nullable::text = 'YES',
        c.column_default::text,
        c.ordinal_position::int4
    FROM information_schema.columns c
    JOIN information_schema.tables t
      ON t.table_schema = c.table_schema
     AND t.table_name = c.table_name
    WHERE c.table_schema = $1
      AND t.table_type = 'BASE TABLE'
    ORDER BY c.table_name, c.ordinal_position
"

/-- The query for the columns of all primary keys of a schema, in key order. -/
def primaryKeysQuery : String := "
    SELECT t.relname::text, a.attname::text
    FROM pg_catalog.pg_constraint c
    JOIN pg_catalog.pg_class t ON t.oid = c.conrelid
    JOIN pg_catalog.pg_namespace n ON n.oid = t.relnamespace
    JOIN pg_catalog.pg_attribute a ON a.attrelid = t.oid AND a.attnum = ANY(c.conkey)
    WHERE n.nspname = $1
      AND c.contype = 'p'
    ORDER BY t.relname, array_position(c.conkey, a.attnum)
"

/-- A statement. Tables are given by name, and once more as they stand in the text. -/
inductive Statement
  /-- A query that only shows that the server answers. -/
  | probe
  | columns (schema : String)
  | primaryKeys (schema : String)
  /-- Start a transaction that only reads, and declare a cursor in it. -/
  | openCursor (cursor select table : String) (columns : List Column)
  | fetch (size : Nat) (cursor : String)
  /-- Close the cursor and end its transaction. -/
  | closeCursor (cursor : String)
  | startTransaction
  | truncate (table qualified : String)
  | insert (table : String) (rows : Nat) (sql : String)
  | commit
  | rollback
  | count (table qualified : String)
deriving DecidableEq, Inhabited

/-- What a statement does to a transaction, one command after another. -/
inductive Command
  | start
  /-- End the transaction. -/
  | finish
  /-- Anything else. -/
  | work
deriving DecidableEq, Repr

namespace Statement

/-- The text of a statement. -/
def text : Statement → String
  | probe => "SELECT 1"
  | columns _ => columnsQuery
  | primaryKeys _ => primaryKeysQuery
  | openCursor cursor select _ _ =>
    "BEGIN READ ONLY; DECLARE " ++ cursor ++ " NO SCROLL CURSOR FOR " ++ select
  | fetch size cursor => "FETCH FORWARD " ++ toString size ++ " FROM " ++ cursor
  | closeCursor cursor => "CLOSE " ++ cursor ++ "; COMMIT"
  | startTransaction => "BEGIN"
  | truncate _ qualified => "TRUNCATE TABLE " ++ qualified
  | insert _ _ sql => sql
  | commit => "COMMIT"
  | rollback => "ROLLBACK"
  | count _ qualified => "SELECT COUNT(*) FROM " ++ qualified

/-- The parameters that go with the text. -/
def parameters : Statement → List String
  | columns schema | primaryKeys schema => [schema]
  | _ => []

/-- The commands of a statement, in order. -/
def commands : Statement → List Command
  | openCursor .. => [.start, .work]
  | closeCursor _ => [.work, .finish]
  | startTransaction => [.start]
  | commit | rollback => [.finish]
  | _ => [.work]

end Statement

end Ferry.Postgres
