import Ferry.Backend.Basic
import Ferry.Identifier
import Ferry.Document.Parser
import Ferry.Schema.DataType

set_option autoImplicit false

/-! # Reading column values

The server sends every value with the type of its column, and a decoder reads values of exactly
one such type. The decoder of a column is chosen by the column's declared type. A column of a type
that no decoder reads is selected as text, and so is a numeric one, since its digits may be more
than an exact decimal holds. -/

namespace Ferry.Postgres

/-! ## Values as they are sent -/

/-- The types of values as the server sends them. -/
inductive WireType
  | bool
  | int2
  | int4
  | int8
  | float4
  | float8
  | text
  | bytes
  | uuid
  | timestamp
  | timestampUtc
  | date
  | time
  | json
deriving DecidableEq, Inhabited, Repr

/-- A value as the server sends it: its type, and its content unless it is null. Numbers are
    decimal, floating-point numbers are their bits in hexadecimal, bytes are hexadecimal, and
    dates and times are counted from the start of the year 2000, in days or microseconds. -/
structure Wire where
  type : WireType
  content : Option String
deriving DecidableEq, Inhabited

/-! ## Decoders -/

/-- How the values of a column are read. -/
inductive Decoder
  | bool
  | int2
  | int4
  | int8
  | float4
  | float8
  /-- A numeric value, sent as text. -/
  | numeric
  | text
  | bytes
  | uuid
  | timestamp
  | timestampUtc
  | date
  | time
  | json
  /-- A value of any other type, sent as text. -/
  | cast
deriving DecidableEq, Inhabited, Repr

namespace Decoder

/-- The names of the types that each decoder reads. -/
def typeNames : List (Decoder × List String) :=
  [(bool, ["boolean", "bool"]),
   (int2, ["smallint", "int2"]),
   (int4, ["integer", "int", "int4"]),
   (int8, ["bigint", "int8"]),
   (float4, ["real", "float4"]),
   (float8, ["double precision", "float8"]),
   (numeric, ["numeric", "decimal"]),
   (text, ["text", "character varying", "varchar", "character", "char", "bpchar", "name"]),
   (bytes, ["bytea"]),
   (uuid, ["uuid"]),
   (timestamp, ["timestamp without time zone", "timestamp"]),
   (timestampUtc, ["timestamp with time zone", "timestamptz"]),
   (date, ["date"]),
   (time, ["time without time zone", "time"]),
   (json, ["json", "jsonb"])]

/-- The decoder of a type in its normal form. -/
def ofNormal (t : String) : Decoder :=
  ((typeNames.find? (fun e => e.2.contains t)).map (·.1)).getD cast

/-- The decoder of a declared type. -/
def ofType (dataType : String) : Decoder := ofNormal (normalizeType dataType)

/-- Whether a column is selected as text. -/
def needsCast (d : Decoder) : Bool := d == numeric || d == cast

/-- The type of the values that a decoder reads. -/
def wireType : Decoder → WireType
  | bool => .bool
  | int2 => .int2
  | int4 => .int4
  | int8 => .int8
  | float4 => .float4
  | float8 => .float8
  | numeric | text | cast => .text
  | bytes => .bytes
  | uuid => .uuid
  | timestamp => .timestamp
  | timestampUtc => .timestampUtc
  | date => .date
  | time => .time
  | json => .json

/-- A numeric value: an exact decimal if that has the same text, else the text. -/
def readNumeric (s : String) : Value :=
  match Number.Decimal.parse? s with
  | some d => if d.text = s then .decimal d else .text s
  | none => .text s

/-- A floating-point number from its bits. -/
def readFloat (s : String) : Option Number.Binary64 :=
  (Text.hexNat 0 s.toList).map (fun n => ⟨UInt64.ofNat n⟩)

/-- The value of a content that is not null. -/
def read (d : Decoder) (s : String) : Option Value :=
  match d with
  | bool => some (.bool (s == "t"))
  | int2 | int4 | int8 => (Text.integer? s.toList).map .int
  | float4 => (readFloat s).map (fun x => .float x.toSingle)
  | float8 => (readFloat s).map .float
  | numeric => some (readNumeric s)
  | text | cast => some (.text s)
  | bytes => (Text.bytesOfHex s.toList).map .bytes
  | uuid => (Uuid.parse? s).map .uuid
  | timestamp => do return .timestamp (← Calendar.Moment.ofMicros? (← Text.integer? s.toList))
  | timestampUtc => do
    return .timestampUtc (← Calendar.Moment.ofMicros? (← Text.integer? s.toList))
  | date => do return .date (← Calendar.Date.ofDays? (← Text.integer? s.toList))
  | time => (Text.integer? s.toList).map (fun n => .time (Calendar.Clock.ofMicros n))
  | json => (Document.parse? s).map .json

/-- Read a value; there is none when it has another type than the decoder reads. -/
def decode (d : Decoder) (w : Wire) : Option Value :=
  if w.type ≠ d.wireType then none
  else
    match w.content with
    | none => some .null
    | some s => d.read s

/-- Read the values of a row from place `place` on, or give the place of the first value that
    cannot be read. -/
def decodeRow (place : Nat) : List Decoder → List Wire → Except Nat Row
  | d :: ds, w :: ws =>
    match d.decode w with
    | none => .error place
    | some v => (decodeRow (place + 1) ds ws).map (v :: ·)
  | _, _ => .ok []

/-- Read rows, or give the place of the first value that cannot be read. -/
def decodeRows (ds : List Decoder) : List (List Wire) → Except Nat (List Row)
  | [] => .ok []
  | r :: rest => do
    let row ← decodeRow 0 ds r
    let rows ← decodeRows ds rest
    return row :: rows

theorem decodeRows_length (ds : List Decoder) (rs : List (List Wire)) (rows : List Row)
    (h : decodeRows ds rs = .ok rows) : rows.length = rs.length := by
  induction rs generalizing rows with
  | nil => cases h; rfl
  | cons r rest ih =>
    simp only [decodeRows, bind, Except.bind, pure, Except.pure] at h
    split at h
    · cases h
    · split at h
      · cases h
      · rename_i tail ht
        cases h
        simp [ih tail ht]

end Decoder

/-! ## Selecting columns -/

/-- A column in a list of columns to select. -/
def selectColumn (c : Column) : Except MigrationError String :=
  (Identifier.quote c.name).map
    (fun q => if (Decoder.ofType c.dataType).needsCast then q ++ "::text" else q)

/-- The columns of a list of columns to select. -/
def selectColumns : List Column → Except MigrationError (List String)
  | [] => .ok []
  | c :: rest => do
    let s ← selectColumn c
    let ss ← selectColumns rest
    return s :: ss

/-- The query for the rows of a request. -/
def select (r : ReadRequest) : Except MigrationError String := do
  let columns ← selectColumns r.columns
  let table ← Identifier.qualify r.schema r.table
  return "SELECT " ++ Text.join ", " columns ++ " FROM " ++ table

end Ferry.Postgres
