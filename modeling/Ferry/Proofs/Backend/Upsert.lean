import Ferry.Plan.Basic
import Ferry.Proofs.Backend.Service
import Ferry.Proofs.Value

set_option autoImplicit false

/-! # A target that merges rows

A target whose tables are lists of records. A write without a conflict key puts its rows behind
those that are there. A write with one takes its rows one by one: the first record with an equal key
gets the written columns of the row, and if there is none the row becomes a record of its own, with
null in all other columns.

Rows that are written once more after they were written change nothing: `upsertAll_idem`. The first
time each of them has found or made its record, and of several rows with one key only the last
counts. -/

namespace Ferry

/-! ## Records -/

/-- A record of a table, as the value under each name. -/
abbrev Record := String → Value

/-- A row as a record, with null under every other name. -/
def Record.ofRow (columns : List String) (row : Row) : Record := fun name =>
  (valueAt? name columns row).getD .null

/-- A record with the columns of another one. -/
def Record.overwrite (columns : List String) (p r : Record) : Record := fun name =>
  if name ∈ columns then p name else r name

/-- Whether two records have equal values under every name of a key. -/
def Record.sameKey (key : List String) (r p : Record) : Bool :=
  key.all (fun name => (r name).equals (p name))

namespace Record

variable {columns key : List String} {p q r : Record} {name : String} {row : Row}

theorem sameKey_iff :
    sameKey key r p = true ↔ ∀ name ∈ key, (r name).equals (p name) = true := by
  rw [sameKey, List.all_eq_true]

theorem sameKey_symm (h : sameKey key r p = true) : sameKey key p r = true := by
  rw [sameKey_iff] at h ⊢
  exact fun name hname => Value.equals_symm (h name hname)

theorem sameKey_trans (hrp : sameKey key r p = true) (hpq : sameKey key p q = true) :
    sameKey key r q = true := by
  rw [sameKey_iff] at hrp hpq ⊢
  exact fun name hname => Value.equals_trans (hrp name hname) (hpq name hname)

/-- A record that found its like has the key of it afterwards. -/
theorem sameKey_overwrite (h : sameKey key r p = true) (hp : sameKey key p p = true) :
    sameKey key (overwrite columns p r) p = true := by
  rw [sameKey_iff] at h hp ⊢
  intro name hname
  unfold overwrite
  by_cases hcolumn : name ∈ columns
  · rw [if_pos hcolumn]
    exact hp name hname
  · rw [if_neg hcolumn]
    exact h name hname

theorem overwrite_overwrite :
    overwrite columns q (overwrite columns p r) = overwrite columns q r := by
  funext name
  by_cases hcolumn : name ∈ columns <;> simp [overwrite, hcolumn]

theorem overwrite_eq (h : ∀ name, name ∉ columns → r name = p name) :
    overwrite columns p r = p := by
  funext name
  by_cases hcolumn : name ∈ columns
  · exact if_pos hcolumn
  · exact (if_neg hcolumn).trans (h name hcolumn)

theorem ofRow_of_not_mem (h : name ∉ columns) : ofRow columns row name = .null := by
  have hnone : valueAt? name columns row = none := by
    induction columns generalizing row with
    | nil => rfl
    | cons c cs ih =>
        rw [List.mem_cons, not_or] at h
        cases row with
        | nil => rfl
        | cons v vs =>
            rw [valueAt?, if_neg (Ne.symm h.1)]
            exact ih h.2
  rw [ofRow, hnone]
  rfl

end Record

/-! ## Merging one record -/

/-- The first record with the key of `p` gets its columns; if there is none `p` is put last. -/
def upsert (columns key : List String) (p : Record) : List Record → List Record
  | [] => [p]
  | r :: rest =>
    if Record.sameKey key r p then Record.overwrite columns p r :: rest
    else r :: upsert columns key p rest

/-- Whether some record has the key of `p`. -/
def Holds (key : List String) (p : Record) (content : List Record) : Prop :=
  ∃ r ∈ content, Record.sameKey key r p = true

section
variable {columns key : List String} {p q r : Record} {content rest : List Record}

theorem upsert_of_same (h : Record.sameKey key r p = true) :
    upsert columns key p (r :: rest) = Record.overwrite columns p r :: rest := if_pos h

theorem upsert_of_not_same (h : ¬ Record.sameKey key r p = true) :
    upsert columns key p (r :: rest) = r :: upsert columns key p rest := if_neg h

theorem holds_upsert_self (hp : Record.sameKey key p p = true) :
    Holds key p (upsert columns key p content) := by
  induction content with
  | nil => exact ⟨p, List.mem_cons_self, hp⟩
  | cons r rest ih =>
      by_cases hsame : Record.sameKey key r p = true
      · rw [upsert_of_same hsame]
        exact ⟨_, List.mem_cons_self, Record.sameKey_overwrite hsame hp⟩
      · rw [upsert_of_not_same hsame]
        obtain ⟨r', hr', hfound⟩ := ih
        exact ⟨r', List.mem_cons_of_mem _ hr', hfound⟩

theorem Holds.upsert (h : Holds key p content) (hq : Record.sameKey key q q = true) :
    Holds key p (upsert columns key q content) := by
  induction content with
  | nil =>
      obtain ⟨r, hr, -⟩ := h
      cases hr
  | cons r rest ih =>
      obtain ⟨found, hfound, hkey⟩ := h
      by_cases hsame : Record.sameKey key r q = true
      · rw [upsert_of_same hsame]
        rcases List.mem_cons.1 hfound with rfl | hfound
        · -- The record that `p` finds is the one that was overwritten: it has kept its key.
          refine ⟨_, List.mem_cons_self, ?_⟩
          exact Record.sameKey_trans (Record.sameKey_overwrite hsame hq)
            (Record.sameKey_trans (Record.sameKey_symm hsame) hkey)
        · exact ⟨found, List.mem_cons_of_mem _ hfound, hkey⟩
      · rw [upsert_of_not_same hsame]
        rcases List.mem_cons.1 hfound with rfl | hfound
        · exact ⟨_, List.mem_cons_self, hkey⟩
        · obtain ⟨r', hr', hfound'⟩ := ih ⟨found, hfound, hkey⟩
          exact ⟨r', List.mem_cons_of_mem _ hr', hfound'⟩

/-- Of two records with one key only the second counts. -/
theorem upsert_upsert_of_same (hpq : Record.sameKey key p q = true)
    (hp : Record.sameKey key p p = true) (houtside : ∀ name, name ∉ columns → p name = q name) :
    upsert columns key q (upsert columns key p content) = upsert columns key q content := by
  induction content with
  | nil =>
      change upsert columns key q [p] = [q]
      rw [upsert_of_same hpq, Record.overwrite_eq houtside]
  | cons r rest ih =>
      by_cases hsame : Record.sameKey key r p = true
      · have hfirst : Record.sameKey key (Record.overwrite columns p r) q = true :=
          Record.sameKey_trans (Record.sameKey_overwrite hsame hp) hpq
        rw [upsert_of_same hsame, upsert_of_same hfirst, Record.overwrite_overwrite,
          upsert_of_same (Record.sameKey_trans hsame hpq)]
      · have hother : ¬ Record.sameKey key r q = true := fun hrq =>
          hsame (Record.sameKey_trans hrq (Record.sameKey_symm hpq))
        rw [upsert_of_not_same hsame, upsert_of_not_same hother, upsert_of_not_same hother, ih]

/-- Records with different keys can change places once the first has found its record. -/
theorem upsert_comm (columns : List String) (hpq : ¬ Record.sameKey key p q = true)
    (hp : Record.sameKey key p p = true) (hq : Record.sameKey key q q = true)
    (h : Holds key p content) :
    upsert columns key q (upsert columns key p content)
      = upsert columns key p (upsert columns key q content) := by
  induction content with
  | nil =>
      obtain ⟨r, hr, -⟩ := h
      cases hr
  | cons r rest ih =>
      by_cases hrp : Record.sameKey key r p = true
      · have hrq : ¬ Record.sameKey key r q = true := fun hrq =>
          hpq (Record.sameKey_trans (Record.sameKey_symm hrp) hrq)
        have hfirst : ¬ Record.sameKey key (Record.overwrite columns p r) q = true := fun h' =>
          hpq (Record.sameKey_trans (Record.sameKey_symm (Record.sameKey_overwrite hrp hp)) h')
        rw [upsert_of_same hrp, upsert_of_not_same hfirst, upsert_of_not_same hrq,
          upsert_of_same hrp]
      · have hrest : Holds key p rest := by
          obtain ⟨found, hfound, hkey⟩ := h
          rcases List.mem_cons.1 hfound with rfl | hfound
          · exact absurd hkey hrp
          · exact ⟨found, hfound, hkey⟩
        by_cases hrq : Record.sameKey key r q = true
        · have hfirst : ¬ Record.sameKey key (Record.overwrite columns q r) p = true := fun h' =>
            hrp (Record.sameKey_trans hrq
              (Record.sameKey_trans (Record.sameKey_symm (Record.sameKey_overwrite hrq hq)) h'))
          rw [upsert_of_not_same hrp, upsert_of_same hrq, upsert_of_same hrq,
            upsert_of_not_same hfirst]
        · rw [upsert_of_not_same hrp, upsert_of_not_same hrq, upsert_of_not_same hrq,
            upsert_of_not_same hrp, ih hrest]

end

/-! ## Merging many records -/

/-- Merge records one by one. -/
def upsertAll (columns key : List String) (ps content : List Record) : List Record :=
  ps.foldl (fun content p => upsert columns key p content) content

/-- A record that can be merged: it is null outside the columns, and equal to itself on the key. -/
structure Mergeable (columns key : List String) (p : Record) : Prop where
  outside : ∀ name, name ∉ columns → p name = .null
  self : Record.sameKey key p p = true

section
variable {columns key : List String} {p q : Record} {ps content : List Record}

theorem Holds.upsertAll (h : Holds key p content) (hps : ∀ q ∈ ps, Mergeable columns key q) :
    Holds key p (upsertAll columns key ps content) := by
  induction ps generalizing content with
  | nil => exact h
  | cons q rest ih =>
      exact ih (h.upsert (hps q List.mem_cons_self).self)
        (fun q' hq' => hps q' (List.mem_cons_of_mem _ hq'))

/-- Merging a record makes no difference if one with its key is still to come. -/
theorem upsertAll_absorb (hp : Mergeable columns key p) (hps : ∀ q ∈ ps, Mergeable columns key q)
    (hheld : Holds key p content) (hsame : ∃ q ∈ ps, Record.sameKey key p q = true) :
    upsertAll columns key ps (upsert columns key p content) = upsertAll columns key ps content := by
  induction ps generalizing content with
  | nil =>
      obtain ⟨q, hq, -⟩ := hsame
      cases hq
  | cons q rest ih =>
      have hq := hps q List.mem_cons_self
      by_cases hpq : Record.sameKey key p q = true
      · have houtside : ∀ name, name ∉ columns → p name = q name := fun name hname =>
          (hp.outside name hname).trans (hq.outside name hname).symm
        exact congrArg (upsertAll columns key rest) (upsert_upsert_of_same hpq hp.self houtside)
      · have hlater : ∃ q ∈ rest, Record.sameKey key p q = true := by
          obtain ⟨q', hq', hfound⟩ := hsame
          rcases List.mem_cons.1 hq' with rfl | hq'
          · exact absurd hfound hpq
          · exact ⟨q', hq', hfound⟩
        have hswap := upsert_comm columns hpq hp.self hq.self hheld
        exact (congrArg (upsertAll columns key rest) hswap).trans
          (ih (fun q' hq' => hps q' (List.mem_cons_of_mem _ hq')) (hheld.upsert hq.self) hlater)

/-- Merging a record can wait if none with its key is to come. -/
theorem upsertAll_comm (hp : Mergeable columns key p) (hps : ∀ q ∈ ps, Mergeable columns key q)
    (hheld : Holds key p content) (hnone : ∀ q ∈ ps, ¬ Record.sameKey key p q = true) :
    upsertAll columns key ps (upsert columns key p content)
      = upsert columns key p (upsertAll columns key ps content) := by
  induction ps generalizing content with
  | nil => rfl
  | cons q rest ih =>
      have hq := hps q List.mem_cons_self
      have hswap := upsert_comm columns (hnone q List.mem_cons_self) hp.self hq.self hheld
      exact (congrArg (upsertAll columns key rest) hswap).trans
        (ih (fun q' hq' => hps q' (List.mem_cons_of_mem _ hq')) (hheld.upsert hq.self)
          (fun q' hq' => hnone q' (List.mem_cons_of_mem _ hq')))

/-- Records that were merged change nothing when they are merged once more. -/
theorem upsertAll_idem (hps : ∀ p ∈ ps, Mergeable columns key p) :
    upsertAll columns key ps (upsertAll columns key ps content)
      = upsertAll columns key ps content := by
  induction ps generalizing content with
  | nil => rfl
  | cons p rest ih =>
      have hp := hps p List.mem_cons_self
      have hrest : ∀ q ∈ rest, Mergeable columns key q := fun q hq =>
        hps q (List.mem_cons_of_mem _ hq)
      -- The first record has found or made its like, so it is there after all others as well.
      have hfirst : Holds key p (upsert columns key p content) := holds_upsert_self hp.self
      have hlast := hfirst.upsertAll hrest
      change upsertAll columns key rest (upsert columns key p
        (upsertAll columns key rest (upsert columns key p content)))
          = upsertAll columns key rest (upsert columns key p content)
      by_cases hsame : ∃ q ∈ rest, Record.sameKey key p q = true
      · rw [upsertAll_absorb hp hrest (hlast) hsame, ih hrest]
      · have hnone : ∀ q ∈ rest, ¬ Record.sameKey key p q = true := fun q hq hpq =>
          hsame ⟨q, hq, hpq⟩
        have hagain : upsert columns key p (upsert columns key p content)
            = upsert columns key p content :=
          upsert_upsert_of_same hp.self hp.self (fun _ _ => rfl)
        rw [← upsertAll_comm hp hrest hfirst hnone, hagain, ih hrest]

end

/-! ## The target -/

/-- Rows are appended, or merged if there is a key; each of them counts. -/
def upserting : Storage (List Record) where
  empty := []
  put w rows content :=
    match w.conflictKey with
    | none => content ++ rows.map (Record.ofRow w.columns)
    | some key => upsertAll w.columns key (rows.map (Record.ofRow w.columns)) content
  count _ rows _ := rows.length

/-- Whether no value of a key is not-a-number. -/
def keysComparable (w : WriteTarget) (rows : List Row) : Bool :=
  w.conflictKey.all (fun key =>
    rows.all (fun row => key.all (fun name => !(Record.ofRow w.columns row name).isNaN)))

theorem keysComparable_iff {w : WriteTarget} {rows : List Row} :
    keysComparable w rows = true ↔ ∀ key, w.conflictKey = some key → ∀ row ∈ rows, ∀ name ∈ key,
      (Record.ofRow w.columns row name).isNaN = false := by
  cases hkey : w.conflictKey <;> simp [keysComparable, hkey]

/-- Whether no value of a key that is written is not-a-number. -/
def Step.keysComparable : Step → Bool
  | .write w rows _ => Ferry.keysComparable w rows
  | _ => true

/-- What is true of the rows of each write is true of all rows that are written. -/
theorem keysComparable_written {w : WriteTarget} {steps : List Step}
    (hconcerns : ∀ x ∈ steps, x.Concerns w) (h : ∀ x ∈ steps, x.keysComparable = true) :
    keysComparable w (written steps).flatten = true := by
  rw [keysComparable_iff]
  intro key hkey row hrow
  obtain ⟨batch, hbatch, hrow⟩ := List.mem_flatten.1 hrow
  obtain ⟨x, hx, hwritten⟩ := List.mem_filterMap.1 hbatch
  cases x with
  | write w' rows o =>
      cases hwritten
      have hsame : w' = w := hconcerns _ hx
      subst hsame
      exact keysComparable_iff.1 (h _ hx) key hkey row hrow
  | _ => cases hwritten

/-- Rows that were merged change nothing when they are written once more. -/
theorem upserting_put_put {w : WriteTarget} {rows : List Row} {key : List String}
    (hkey : w.conflictKey = some key) (hrows : keysComparable w rows = true)
    (content : List Record) :
    upserting.put w rows (upserting.put w rows content) = upserting.put w rows content := by
  have hmergeable : ∀ p ∈ rows.map (Record.ofRow w.columns), Mergeable w.columns key p := by
    intro p hp
    obtain ⟨row, hrow, rfl⟩ := List.mem_map.1 hp
    refine ⟨fun name hname => Record.ofRow_of_not_mem hname, Record.sameKey_iff.2 ?_⟩
    exact fun name hname =>
      Value.equals_self_iff.2 (keysComparable_iff.1 hrows key hkey row hrow name hname)
  simp only [upserting, hkey]
  exact upsertAll_idem hmergeable

/-- It makes no difference how rows are cut into writes. -/
theorem upserting_rowWise : upserting.RowWise where
  nil {w c} := by
    cases hkey : w.conflictKey with
    | none => simp only [upserting, hkey, List.map_nil, List.append_nil]
    | some key => simp only [upserting, hkey, upsertAll, List.map_nil, List.foldl_nil]
  append {w xs ys c} := by
    cases hkey : w.conflictKey with
    | none => simp only [upserting, hkey, List.map_append, List.append_assoc]
    | some key => simp only [upserting, hkey, upsertAll, List.map_append, List.foldl_append]

end Ferry
