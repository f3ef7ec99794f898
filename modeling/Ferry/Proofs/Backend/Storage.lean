import Ferry.Proofs.Backend.Publication

set_option autoImplicit false

/-! # How a target keeps its tables

A `Storage` says what an emptied table holds, what a write makes of a table, and how many rows the
target counts then. `Stores` is the contract of a target that keeps its tables in this way: what a
session does is staged, and comes to the tables when the session is committed and not otherwise. It
says nothing about which calls fail. A target that keeps the contract of `Publication` keeps this
one too, with the rows of a table appended. -/

namespace Ferry

open Memory (Content Contents)

/-- How a target keeps one table, in whatever form it keeps it. -/
structure Storage (κ : Type) where
  /-- A table without rows. -/
  empty : κ
  /-- A table after rows were written to it. -/
  put : WriteTarget → List Row → κ → κ
  /-- The number of rows that the target counts as written. -/
  count : WriteTarget → List Row → κ → Nat

/-- The table that a call changes. -/
def Step.changes? : Step → Option String
  | .truncate _ table _ => some table
  | .write target _ _ => some target.table
  | _ => none

/-- A call changes nothing but the table of a target, in the way that the target says. -/
def Step.Concerns (w : WriteTarget) : Step → Prop
  | .truncate schema table _ => schema = w.schema ∧ table = w.table
  | .write target _ _ => target = w
  | _ => True

theorem Step.Concerns.changes {x : Step} {w : WriteTarget} {name : String} (h : x.Concerns w)
    (hname : x.changes? = some name) : name = w.table := by
  cases x with
  | truncate schema table o =>
      cases hname
      exact h.2
  | write target rows o =>
      cases hname
      exact congrArg WriteTarget.table h
  | _ => cases hname

namespace Storage

variable {κ : Type} (storage : Storage κ)

/-! ## All tables -/

/-- The tables after one of them was emptied. -/
def clear (table : String) (c : String → κ) : String → κ := fun name =>
  if name = table then storage.empty else c name

/-- The tables after rows were written to one of them. -/
def write (target : WriteTarget) (rows : List Row) (c : String → κ) : String → κ := fun name =>
  if name = target.table then storage.put target rows (c name) else c name

/-- The tables after a call, as its session sees them. -/
def effect (c : String → κ) : Step → String → κ
  | .truncate _ table (.ok _) => storage.clear table c
  | .write target rows (.ok _) => storage.write target rows c
  | _ => c

/-- The tables after some calls, as their session sees them. -/
def after (steps : List Step) (c : String → κ) : String → κ := steps.foldl storage.effect c

section
variable {storage} {c : String → κ} {x : Step} {xs ys : List Step} {target : WriteTarget}
  {rows : List Row} {name table : String}

theorem clear_self : storage.clear table c table = storage.empty := if_pos rfl

theorem clear_of_ne (h : name ≠ table) : storage.clear table c name = c name := if_neg h

theorem write_self :
    storage.write target rows c target.table = storage.put target rows (c target.table) :=
  if_pos rfl

theorem write_of_ne (h : name ≠ target.table) : storage.write target rows c name = c name :=
  if_neg h

/-- Calls leave the tables that none of them changes. -/
theorem after_of_unchanged (h : ∀ x ∈ xs, x.changes? ≠ some name) :
    storage.after xs c name = c name := by
  induction xs generalizing c with
  | nil => rfl
  | cons x rest ih =>
      have hfirst : storage.effect c x name = c name := by
        have hx := h x List.mem_cons_self
        cases x with
        | truncate schema table o =>
            cases o with
            | error e => rfl
            | ok u => exact clear_of_ne (fun heq => hx (congrArg some heq.symm))
        | write target rows o =>
            cases o with
            | error e => rfl
            | ok n => exact write_of_ne (fun heq => hx (congrArg some heq.symm))
        | _ => rfl
      exact (ih (fun y hy => h y (List.mem_cons_of_mem x hy))).trans hfirst

/-- What calls make of a table depends on that table alone. -/
theorem after_congr {d : String → κ} (h : c name = d name) :
    storage.after xs c name = storage.after xs d name := by
  induction xs generalizing c d with
  | nil => exact h
  | cons x rest ih =>
      refine ih ?_
      cases x with
      | truncate schema table o =>
          cases o with
          | error e => exact h
          | ok u => simp only [effect, clear, h]
      | write target rows o =>
          cases o with
          | error e => exact h
          | ok n => simp only [effect, write, h]
      | _ => exact h

@[simp] theorem after_nil : storage.after [] c = c := rfl

@[simp] theorem after_cons :
    storage.after (x :: xs) c = storage.after xs (storage.effect c x) := rfl

@[simp] theorem after_append :
    storage.after (xs ++ ys) c = storage.after ys (storage.after xs c) := List.foldl_append

end

end Storage

/-- A storage that takes rows one by one. -/
structure Storage.RowWise {κ : Type} (storage : Storage κ) : Prop where
  nil {w c} : storage.put w [] c = c
  append {w xs ys c} : storage.put w (xs ++ ys) c = storage.put w ys (storage.put w xs c)

/-! ## The contract -/

/-- What a target holds, and what a session will make of it when it is committed. -/
structure Stores {σ κ : Type} (b : Backend σ) (storage : Storage κ) where
  content : σ → String → κ
  staged : b.Session → (String → κ) → String → κ
  openCursor {r s o s'} : b.openCursor r s = (o, s') → content s' = content s
  nextBatch {c s o c' s'} : b.nextBatch c s = (o, c', s') → content s' = content s
  closeCursor {c s o s'} : b.closeCursor c s = (o, s') → content s' = content s
  /-- A session begins with nothing staged. -/
  beginSession {s o s'} : b.beginSession s = (o, s') →
    content s' = content s ∧ ∀ k, o = .ok k → staged k = id
  truncate {schema table k s o k' s'} : b.truncate schema table k s = (o, k', s') →
    content s' = content s ∧ (o.isOk → staged k' = storage.clear table ∘ staged k)
  write {target rows k s o k' s'} : b.write target rows k s = (o, k', s') →
    content s' = content s ∧ (o.isOk → staged k' = storage.write target rows ∘ staged k)
  /-- All that was staged comes to the tables at once, or nothing of it. -/
  commit {k s o s'} : b.commit k s = (o, s') →
    content s' = if o.isOk then staged k (content s) else content s
  rollback {k s o s'} : b.rollback k s = (o, s') → content s' = content s

/-! ## What a session sees -/

section
variable {σ κ : Type} {b : Backend σ} {storage : Storage κ} (T : Stores b storage)
  {k k' : b.Session} {s s' : σ}

/-- The tables as a session sees them: with what it has staged. -/
def Stores.view (k : b.Session) (s : σ) : String → κ := T.staged k (T.content s)

theorem Stores.view_begun (h : b.beginSession s = (.ok k, s')) : T.view k s' = T.content s := by
  obtain ⟨hsame, hnone⟩ := T.beginSession h
  rw [view, hnone k rfl, hsame]
  rfl

theorem Stores.view_read {c c' : b.Cursor} {o : Except MigrationError (List Row)}
    (h : b.nextBatch c s = (o, c', s')) : T.view k s' = T.view k s := by
  rw [view, T.nextBatch h]
  rfl

theorem Stores.view_emptied {schema table : String}
    (h : b.truncate schema table k s = (.ok (), k', s')) :
    T.view k' s' = storage.clear table (T.view k s) := by
  obtain ⟨hsame, hstaged⟩ := T.truncate h
  rw [view, hstaged rfl, hsame]
  rfl

theorem Stores.view_written {target : WriteTarget} {rows : List Row} {n : Nat}
    (h : b.write target rows k s = (.ok n, k', s')) :
    T.view k' s' = storage.write target rows (T.view k s) := by
  obtain ⟨hsame, hstaged⟩ := T.write h
  rw [view, hstaged rfl, hsame]
  rfl

end

/-! ## Tables that only grow -/

namespace Memory

/-- Rows are put behind those that are there, and each of them counts. -/
def appending : Storage Content where
  empty := ⟨0, []⟩
  put _ rows c := { c with rows := c.rows ++ rows }
  count _ rows _ := rows.length

theorem appending_rowWise : appending.RowWise where
  nil := by simp [appending]
  append := by simp [appending]

theorem clear_appending (table : String) (c : Contents) :
    appending.clear table c = c.apply (.empty table) := rfl

theorem write_appending (target : WriteTarget) (rows : List Row) (c : Contents) :
    appending.write target rows c = c.apply (.append target.table rows) := by
  funext name
  by_cases hname : name = target.table
  · subst hname
    simp [Storage.write, appending, Contents.apply]
  · simp [Storage.write, Contents.apply, hname]

theorem after_appending (steps : List Step) (c : Contents) :
    appending.after steps c = c.applyAll (Ferry.staged steps) := by
  induction steps generalizing c with
  | nil => rfl
  | cons x rest ih =>
      have hfirst : appending.effect c x = c.applyAll x.staged?.toList := by
        cases x with
        | truncate schema table o => cases o <;> rfl
        | write target rows o =>
            cases o with
            | error e => rfl
            | ok n => exact write_appending target rows c
        | _ => rfl
      rw [Storage.after_cons, ih, staged_cons, Contents.applyAll_append, hfirst]

end Memory

/-- What a backend publishes are tables that only grow, unless they are emptied. -/
def Publication.stores {σ : Type} {b : Backend σ} (P : Publication b) :
    Stores b Memory.appending where
  content := P.published
  staged k c := Contents.applyAll c (P.staged k)
  openCursor := P.openCursor
  nextBatch := P.nextBatch
  closeCursor := P.closeCursor
  beginSession h := by
    obtain ⟨hsame, hnone⟩ := P.beginSession h
    refine ⟨hsame, fun k hk => ?_⟩
    funext c
    rw [hnone k hk, Contents.applyAll_nil, id]
  truncate h := by
    obtain ⟨hsame, hstaged⟩ := P.truncate h
    refine ⟨hsame, fun hok => ?_⟩
    funext c
    rw [hstaged hok, Contents.applyAll_append]
    exact (Memory.clear_appending ..).symm
  write h := by
    obtain ⟨hsame, hstaged⟩ := P.write h
    refine ⟨hsame, fun hok => ?_⟩
    funext c
    rw [hstaged hok, Contents.applyAll_append]
    exact (Memory.write_appending ..).symm
  commit := P.commit
  rollback := P.rollback

end Ferry
