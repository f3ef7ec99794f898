import Ferry.Config.Document
import Ferry.Config.Load
import Ferry.Proofs.Config.Outline
import Ferry.Proofs.Document.Regular
import Ferry.Proofs.Outcome

set_option autoImplicit false

/-! # Fingerprints name configurations

A configuration that was read is regular (`Config.regular_of_parse`): its numbers fit their types,
and no object in it has the form in which a number is written. So the text that the fingerprint is
taken of tells everything of it but the passwords (`fingerprint_text_identifies`). -/

namespace Ferry

open Yaml (Data Fields Node)

/-! ## Documents of values -/

namespace Document

variable {d : Document} {members : List (String × Document)}

theorem unmarked_ofMembers {key : String} {value : Document} {more : List (String × Document)}
    (hkey : key ≠ numberMarker) (h : ∀ e ∈ (key, value) :: more, Unmarked e.2) :
    Unmarked (ofMembers ((key, value) :: more)) :=
  .object (fun _ => exists_unmarked_ofEntries hkey)
    (fun e he => h e (Keyed.mem_of_mem_ofEntries he))

/-- An object with the key that marks a number alone is read as that number. -/
theorem unmarked_closeObject (h : ∀ e ∈ members, Unmarked e.2)
    (hclose : closeObject members = some d) : Unmarked d := by
  unfold closeObject at hclose
  split at hclose
  · split_ifs at hclose with hkey
    · split at hclose
      · unfold number? at hclose
        split at hclose <;> cases hclose
        exact .number
      · cases hclose
    · cases hclose
      exact unmarked_ofMembers hkey h
  · split_ifs at hclose with hkey
    cases hclose
    exact unmarked_ofMembers hkey h
  · cases hclose
    exact .object (fun hne => absurd rfl hne) (by simp)

end Document

namespace Yaml.Data

open Document (Unmarked unmarked_closeObject)

theorem unmarked_floatDocument (x : Number.Binary64) : Unmarked (floatDocument x) := by
  unfold floatDocument
  split
  · exact .number
  · exact .null

mutual

/-- By induction on the value, with its items and its entries. -/
theorem unmarked_document? : ∀ (data : Data) {d : Document}, data.document? = some d → Unmarked d
  | .null, _, h => by cases h; exact .null
  | .bool _, _, h => by cases h; exact .bool
  | .int _, _, h => by cases h; exact .number
  | .float x, _, h => by cases h; exact unmarked_floatDocument x
  | .string _, _, h => by cases h; exact .string
  | .sequence items, _, h => by
      rw [document?, Option.map_eq_some_iff] at h
      obtain ⟨documents, hread, rfl⟩ := h
      exact .array (unmarked_documents? items hread)
  | .mapping entries, _, h => by
      rw [document?, Option.bind_eq_bind, Option.bind_eq_some_iff] at h
      obtain ⟨members, hread, hclose⟩ := h
      exact unmarked_closeObject (unmarked_members? entries hread) hclose

theorem unmarked_documents? : ∀ (items : List Data) {documents : List Document},
    documents? items = some documents → ∀ d ∈ documents, Unmarked d
  | [], _, h => by cases h; simp
  | item :: rest, _, h => by
      simp only [documents?, Option.bind_eq_bind, Option.bind_eq_some_iff, Option.pure_def,
        Option.some.injEq] at h
      obtain ⟨d, hd, documents, hrest, rfl⟩ := h
      exact List.forall_mem_cons.2 ⟨unmarked_document? item hd, unmarked_documents? rest hrest⟩

theorem unmarked_members? : ∀ (entries : List (Data × Data)) {members : List (String × Document)},
    members? entries = some members → ∀ e ∈ members, Unmarked e.2
  | [], _, h => by cases h; simp
  | (key, value) :: rest, _, h => by
      simp only [members?, Option.bind_eq_bind, Option.bind_eq_some_iff, Option.pure_def,
        Option.some.injEq] at h
      obtain ⟨name, -, d, hd, members, hrest, rfl⟩ := h
      exact List.forall_mem_cons.2 ⟨unmarked_document? value hd, unmarked_members? rest hrest⟩

end

end Yaml.Data

/-! ## Reading fields -/

namespace Yaml

variable {α : Type} {a default : α} {fields : Fields} {name : String}
  {read : Node → Except String α}

theorem Fields.required_eq_ok (h : fields.required name read = .ok a) : ∃ n, read n = .ok a := by
  unfold Fields.required at h
  split at h
  · exact ⟨_, h⟩
  · cases h

theorem Fields.optional_eq_ok (h : fields.optional name default read = .ok a) :
    a = default ∨ ∃ n, read n = .ok a := by
  unfold Fields.optional at h
  split at h
  · exact .inr ⟨_, h⟩
  · cases h
    exact .inl rfl

theorem Node.natural_lt {bound k : Nat} {n : Node} (h : n.natural bound = .ok k) : k < bound := by
  simp only [natural, bind_eq_ok_iff] at h
  obtain ⟨words, -, h⟩ := h
  split at h
  · split at h
    · next hlt =>
      cases h
      exact hlt
    · cases h
  · cases h

/-- A number that may be left out is below its bound if its default is. -/
theorem Fields.natural_lt {bound k d : Nat} (hd : d < bound)
    (h : fields.optional name d (Node.natural bound) = .ok k) : k < bound := by
  rcases optional_eq_ok h with rfl | ⟨n, hn⟩
  · exact hd
  · exact Node.natural_lt hn

end Yaml

/-! ## Reading configurations -/

theorem ConfigShape.unmarked_document {data : Data} {d : Document}
    (h : ConfigShape.document data = .ok d) : d.Unmarked := by
  unfold ConfigShape.document at h
  split at h
  · next hread =>
    cases h
    exact data.unmarked_document? hread
  · cases h

namespace Constant

variable {c : Constant} {entries : List (Data × Data)}

theorem unmarked_of_columnOfEntries (h : columnOfEntries entries = .ok c) : c.Unmarked := by
  simp only [columnOfEntries, bind_eq_ok_iff] at h
  obtain ⟨found, -, name, -, h⟩ := h
  split at h
  · cases h
    simp [Unmarked]
  · cases h
    simp [Unmarked]
  · simp only [bind_eq_ok_iff] at h
    obtain ⟨d, hd, h⟩ := h
    cases h
    simpa [Unmarked] using ConfigShape.unmarked_document hd

theorem unmarked_of_valueOfEntries (h : valueOfEntries entries = .ok c) : c.Unmarked := by
  simp only [valueOfEntries, bind_eq_ok_iff] at h
  obtain ⟨found, -, h⟩ := h
  split at h
  · simp only [bind_eq_ok_iff] at h
    obtain ⟨d, hd, h⟩ := h
    cases h
    exact ConfigShape.unmarked_document hd
  · cases h

theorem unmarked_of_ofData {data : Data} (h : ofData data = .ok c) : c.Unmarked := by
  unfold ofData at h
  split at h
  · split at h
    · next hcolumn =>
      cases h
      exact unmarked_of_columnOfEntries hcolumn
    · exact unmarked_of_valueOfEntries h
  · cases h

end Constant

theorem Entry.unmarked_of_ofNode {room : Nat} {n : Node} {e : Entry} (h : ofNode room n = .ok e) :
    e.Unmarked := by
  simp only [ofNode, bind_eq_ok_iff] at h
  obtain ⟨fields, -, table, -, mode, -, columns, -, constants, hconstants, key, -, h⟩ := h
  cases h
  intro c hc
  rcases Fields.optional_eq_ok hconstants with rfl | ⟨node, hread⟩
  · cases hc
  · simp only [constantsOfNode, bind_eq_ok_iff] at hread
    obtain ⟨entries, -, read, hentries, h⟩ := hread
    cases h
    obtain ⟨entry, -, hentry⟩ := exists_of_mem_mapM hentries (Keyed.mem_of_mem_ofEntries hc)
    obtain ⟨name, -, hentry⟩ := bind_eq_ok_iff.1 hentry
    obtain ⟨data, -, hentry⟩ := bind_eq_ok_iff.1 hentry
    obtain ⟨constant, hconstant, hpair⟩ := bind_eq_ok_iff.1 hentry
    cases hpair
    exact Constant.unmarked_of_ofData hconstant

theorem Settings.regular_of_ofNode {room : Nat} {n : Node} {s : Settings}
    (h : ofNode room n = .ok s) : s.Regular := by
  simp only [ofNode, bind_eq_ok_iff] at h
  obtain ⟨fields, -, batchSize, hbatch, identical, -, exclude, -, timeout, htimeout, connections,
    hconnections, tables, htables, h⟩ := h
  cases h
  refine ⟨Fields.natural_lt (by decide) hbatch, Fields.natural_lt (by decide) htimeout,
    Fields.natural_lt (by decide) hconnections, fun e he => ?_⟩
  rcases Fields.optional_eq_ok htables with rfl | ⟨node, hread⟩
  · cases he
  · simp only [Node.list, bind_eq_ok_iff] at hread
    obtain ⟨items, -, hitems⟩ := hread
    obtain ⟨item, -, hitem⟩ := exists_of_mem_mapM hitems he
    exact Entry.unmarked_of_ofNode hitem

theorem Settings.regular_default : Settings.default.Regular :=
  ⟨by decide, by decide, by decide, fun e he => by cases he⟩

theorem Endpoint.port_lt {n : Node} {e : Endpoint} (h : ofNode n = .ok e) : e.port < 2 ^ 16 := by
  simp only [ofNode, bind_eq_ok_iff] at h
  obtain ⟨fields, -, host, -, port, hport, database, -, user, -, password, -, schema, -, mode, -,
    h⟩ := h
  cases h
  exact Fields.natural_lt (by decide) hport

namespace Config

variable {c d : Config} {text text' : String}

theorem regular_of_ofNode {n : Node} (h : ofNode n = .ok c) : c.Regular := by
  simp only [ofNode, bind_eq_ok_iff] at h
  obtain ⟨fields, -, source, hsource, target, htarget, migration, hmigration, h⟩ := h
  cases h
  obtain ⟨sourceNode, hsource⟩ := Fields.required_eq_ok hsource
  obtain ⟨targetNode, htarget⟩ := Fields.required_eq_ok htarget
  refine ⟨Endpoint.port_lt hsource, Endpoint.port_lt htarget, ?_⟩
  rcases Fields.optional_eq_ok hmigration with rfl | ⟨node, hread⟩
  · exact Settings.regular_default
  · exact Settings.regular_of_ofNode hread

/-- A configuration that was read is regular. -/
theorem regular_of_parse (h : parse text = .ok c) : c.Regular := by
  unfold parse parseWith at h
  split at h
  · cases h
  · split at h
    · cases h
    · next hread =>
      cases h
      exact regular_of_ofNode hread

theorem regular_of_ofText (h : ofText text = .ok c) : c.Regular := by
  simp only [ofText, bind_eq_ok_iff] at h
  obtain ⟨parsed, hparsed, -, -, hsame⟩ := h
  cases hsame
  exact regular_of_parse hparsed

end Config

/-! ## Fingerprints -/

/-- The same connection, but for the password. -/
structure Endpoint.SameButPassword (a b : Endpoint) : Prop where
  host : a.host = b.host
  port : a.port = b.port
  database : a.database = b.database
  user : a.user = b.user
  schema : a.schema = b.schema
  ssl_mode : a.sslMode = b.sslMode

/-- The same configuration, but for both passwords. -/
structure Config.SameButPasswords (c d : Config) : Prop where
  source : c.source.SameButPassword d.source
  target : c.target.SameButPassword d.target
  migration : c.migration = d.migration

variable {c d : Config}

theorem Endpoint.sameButPassword_iff {a b : Endpoint} :
    a.SameButPassword b ↔ { a with password := "" } = { b with password := "" } := by
  rw [Endpoint.mk.injEq]
  exact ⟨fun ⟨host, port, database, user, schema, mode⟩ =>
      ⟨host, port, database, user, rfl, schema, mode⟩,
    fun ⟨host, port, database, user, _, schema, mode⟩ =>
      ⟨host, port, database, user, schema, mode⟩⟩

theorem Config.sameButPasswords_iff : c.SameButPasswords d ↔ c.blanked = d.blanked := by
  rw [blanked, blanked, Config.mk.injEq, ← Endpoint.sameButPassword_iff,
    ← Endpoint.sameButPassword_iff]
  exact ⟨fun h => ⟨h.source, h.target, h.migration⟩, fun h => ⟨h.1, h.2.1, h.2.2⟩⟩

theorem Config.Regular.blanked (h : c.Regular) : c.blanked.Regular :=
  ⟨h.source_port, h.target_port, h.migration⟩

theorem Config.blanked_withPasswords (c : Config) (p : Passwords) :
    (c.withPasswords p).blanked = c.blanked := rfl

theorem Config.fingerprintText_withPasswords (c : Config) (p : Passwords) :
    (c.withPasswords p).fingerprintText = c.fingerprintText := by
  rw [fingerprintText, c.blanked_withPasswords p, fingerprintText]

/-- A fingerprint is the digest of a text, and the texts of two accepted configurations are the
    same just when the configurations agree on everything but their passwords. So neither the text
    nor the fingerprint changes with the passwords. -/
theorem fingerprint_text_identifies {text text' : String} (hc : Config.ofText text = .ok c)
    (hd : Config.ofText text' = .ok d) :
    (c.fingerprint = Sha256.ofText c.fingerprintText ∧
        d.fingerprint = Sha256.ofText d.fingerprintText) ∧
      (c.fingerprintText = d.fingerprintText ↔ c.SameButPasswords d) ∧
      (c.SameButPasswords d → c.fingerprint = d.fingerprint) ∧
      ∀ p, (c.withPasswords p).fingerprintText = c.fingerprintText ∧
        (c.withPasswords p).fingerprint = c.fingerprint := by
  have hsame : c.fingerprintText = d.fingerprintText ↔ c.SameButPasswords d := by
    rw [Config.sameButPasswords_iff]
    exact ⟨Config.yaml_inj (Config.regular_of_ofText hc).blanked
      (Config.regular_of_ofText hd).blanked, congrArg Config.yaml⟩
  refine ⟨⟨rfl, rfl⟩, hsame, ?_, ?_⟩
  · intro h
    exact congrArg Sha256.ofText (hsame.2 h)
  · intro p
    have htext := c.fingerprintText_withPasswords p
    exact ⟨htext, congrArg Sha256.ofText htext⟩

namespace Sample

/-- A configuration that fills one column with a value. -/
def filledText (value : String) : String :=
  "source:\n host: h\n database: old\n user: u\n password: p\n"
    ++ "target:\n host: h\n database: new\n user: u\n"
    ++ "migration:\n tables:\n - table: t\n   constants:\n    c:\n     value: " ++ value

/-- The constants of a configuration as texts. -/
def constantTexts (c : Config) : List String :=
  c.migration.tables.flatMap (fun e => e.constants.map (fun filled => filled.2.toDocument.compact))

/-- The configuration is accepted, and its one constant is this text. -/
theorem filledText_accepted (value constant : String)
    (h : (Config.ofText (filledText value)).toOption.map constantTexts = some [constant]) :
    ∃ c, Config.ofText (filledText value) = .ok c ∧ constantTexts c = [constant] := by
  obtain ⟨c, hc, hconstants⟩ := Option.map_eq_some_iff.1 h
  exact ⟨c, toOption_eq_some_iff.1 hc, hconstants⟩

end Sample

/-- A number and the text of its digits are told apart. -/
theorem sample_fingerprint_text_identifies : ∃ c d : Config,
    Config.ofText (Sample.filledText "1") = .ok c ∧
      Config.ofText (Sample.filledText "'1'") = .ok d ∧
      c.fingerprintText ≠ d.fingerprintText ∧
      c.fingerprint = Sha256.ofText c.fingerprintText ∧
      (c.withPasswords ⟨some "other", none⟩).fingerprint = c.fingerprint := by
  obtain ⟨c, hc, hnumber⟩ :=
    Sample.filledText_accepted "1" "\x7b\"value\":1\x7d" (by decide +kernel)
  obtain ⟨d, hd, htext⟩ :=
    Sample.filledText_accepted "'1'" "\x7b\"value\":\"1\"\x7d" (by decide +kernel)
  obtain ⟨⟨hdigest, -⟩, hsame, -, hpassword⟩ := fingerprint_text_identifies hc hd
  refine ⟨c, d, hc, hd, fun heq => ?_, hdigest, (hpassword _).2⟩
  have hconstants : Sample.constantTexts c = Sample.constantTexts d := by
    rw [Sample.constantTexts, Sample.constantTexts, (hsame.1 heq).migration]
  rw [hnumber, htext] at hconstants
  exact absurd hconstants (by decide)

end Ferry
