import NativeBlock.Proofs.WriterState

/-!
# The workspace changes no block

A writer draws its buffers from a workspace, hands them back, and keeps a dictionary column's
texts and keys in the workspace's scratch. Nothing the workspace held before reaches a block:
every buffer is drawn empty, the room reserved for a buffer never reaches a byte, and a dictionary
column clears the scratch as it opens. So a sequence of calls answers the same, the blocks' bytes
and every error included, whatever workspace its writer was started on: however many idle buffers
it holds, with whatever former bytes and room, whatever its limit and initial capacity, and
whatever an earlier dictionary column, finished or abandoned, left in the scratch.

The proof erases from a session all that the workspace could have reached (`WriteSession.bare`):
the workspace itself, the room of every buffer, and the scratch while no dictionary column is
open. A call made on the erased session answers as on the session itself and leaves the same
session once erased (`WriteSession.call_bare`), so two sessions equal once erased answer alike
over any run.

The workspace itself only ever has buffers drawn from it and handed back, and its scratch
replaced (`Workspace.Moves`). A buffer handed back is kept only below the limit, so a workspace
within its limit stays within it, at every point of a run and once the session is dropped.

Main statement: `workspace_invisible`.
-/

namespace NativeBlock

/-! ## What the workspace can reach -/

/-- The buffer with its room forgotten. -/
def Buffer.bare (b : Buffer) : Buffer := ⟨b.bytes, 0⟩

@[simp] theorem Buffer.bare_bare (b : Buffer) : b.bare.bare = b.bare := rfl

/-- The slot with its buffer's room forgotten. -/
def ColumnSlot.bare (s : ColumnSlot) : ColumnSlot := { s with buf := s.buf.bare }

def ValueWriter.bare {c : Codec} (cw : ValueWriter c) : ValueWriter c :=
  { cw with slot := cw.slot.bare }

def NullableWriter.bare {c : Codec} (cw : NullableWriter c) : NullableWriter c :=
  { cw with slot := cw.slot.bare }

def DictionaryWriter.bare (cw : DictionaryWriter) : DictionaryWriter :=
  { cw with slot := cw.slot.bare }

/-- The open column with its buffer's room forgotten. -/
def OpenColumn.bare : OpenColumn → OpenColumn
  | .value c w => .value c w.bare
  | .nullable c w => .nullable c w.bare
  | .dictionary w => .dictionary w.bare

/-- A workspace with no buffer to give and none kept, and `d` as its scratch. -/
def Workspace.bare (d : DictionaryScratch) : Workspace := ⟨0, 0, #[], d⟩

/-- The writer on the workspace that holds only the scratch `d`, every buffer's room
forgotten. -/
def BlockWriter.bare (w : BlockWriter) (d : DictionaryScratch) : BlockWriter :=
  { w with ws := Workspace.bare d, buffers := w.buffers.map Buffer.bare }

/-- Two computations equal once their results are mapped fail alike, or both succeed with
results that the map sends to one value. -/
theorem Except.map_eq_map_cases {ε α β : Type} {f : α → β} {a b : Except ε α}
    (same : a.map f = b.map f) :
    (∃ e, a = .error e ∧ b = .error e) ∨ ∃ x y, a = .ok x ∧ b = .ok y ∧ f x = f y := by
  cases a with
  | error e =>
    cases b with
    | error e' => exact .inl ⟨e, rfl, by cases same; rfl⟩
    | ok y => cases same
  | ok x =>
    cases b with
    | error e => cases same
    | ok y => exact .inr ⟨x, y, rfl, rfl, Except.ok.inj same⟩

namespace WriteSession

/-- The scratch a later call can read: the workspace's while a dictionary column is open. Any
other column leaves it unread until a dictionary column clears it. -/
def liveScratch (s : WriteSession) : DictionaryScratch :=
  match s.column with
  | some (.dictionary _) => s.writer.ws.scratch
  | _ => .empty

/-- The session with all that the workspace could have reached erased. -/
def bare (s : WriteSession) : WriteSession :=
  ⟨s.writer.bare s.liveScratch, s.column.map OpenColumn.bare, none⟩

end WriteSession

@[simp] theorem Workspace.release_bare (d : DictionaryScratch) (b : Buffer) :
    (Workspace.bare d).release b = Workspace.bare d := by
  simp [Workspace.release, Workspace.bare]

/-! ## Column writers read no room -/

theorem ValueWriter.write_bare {c : Codec} (cw : ValueWriter c) (v : c.Value) :
    cw.bare.write v = ((cw.write v).1, (cw.write v).2.bare) := by
  by_cases full : cw.slot.rows ≤ cw.written
  · rw [write_of_full full, write_of_full (show cw.bare.slot.rows ≤ cw.bare.written from full)]
    rfl
  · have room : cw.bare.written < cw.bare.slot.rows := Nat.lt_of_not_le full
    cases encoded : c.encode v with
    | ok bytes =>
      rw [write_of_ok room encoded, write_of_ok (Nat.lt_of_not_le full) encoded]
      rfl
    | error e =>
      rw [write_of_error room encoded, write_of_error (Nat.lt_of_not_le full) encoded]
      rfl

theorem NullableWriter.write_bare {c : Codec} (cw : NullableWriter c) (o : Option c.Value) :
    cw.bare.write o = ((cw.write o).1, (cw.write o).2.bare) := by
  by_cases full : cw.slot.rows ≤ cw.written
  · rw [write_of_full full, write_of_full (show cw.bare.slot.rows ≤ cw.bare.written from full)]
    rfl
  · have room : cw.bare.written < cw.bare.slot.rows := Nat.lt_of_not_le full
    cases o with
    | none =>
      rw [write_of_none room, write_of_none (Nat.lt_of_not_le full)]
      rfl
    | some v =>
      cases encoded : c.encode v with
      | ok bytes =>
        rw [write_of_some room encoded, write_of_some (Nat.lt_of_not_le full) encoded]
        rfl
      | error e =>
        rw [write_of_error room encoded, write_of_error (Nat.lt_of_not_le full) encoded]
        rfl

theorem DictionaryWriter.write_bare (cw : DictionaryWriter) (d : DictionaryScratch) (v : String) :
    cw.bare.write d v = ((cw.write d v).1, (cw.write d v).2.1.bare, (cw.write d v).2.2) := by
  by_cases full : cw.slot.rows ≤ cw.written
  · rw [write_of_full full, write_of_full (show cw.bare.slot.rows ≤ cw.bare.written from full)]
    rfl
  · rw [write_of_room (Nat.lt_of_not_le full),
      write_of_room (show cw.bare.written < cw.bare.slot.rows from Nat.lt_of_not_le full)]
    rfl

namespace OpenColumn

@[simp] theorem bare_bare (o : OpenColumn) : o.bare.bare = o.bare := by
  cases o <;> rfl

@[simp] theorem slot_bare (o : OpenColumn) : o.bare.slot = o.slot.bare := by
  cases o <;> rfl

end OpenColumn

/-! ## Block writers read no workspace -/

namespace BlockWriter

variable {w : BlockWriter}

@[simp] theorem bare_bare (d d' : DictionaryScratch) : (w.bare d).bare d' = w.bare d' := by
  simp [bare, Buffer.bare, Function.comp_def]

@[simp] theorem rows_bare (d : DictionaryScratch) : (w.bare d).rows = w.rows := rfl

@[simp] theorem segments_bare (d : DictionaryScratch) : (w.bare d).segments = w.segments := by
  simp [bare, segments, Buffer.bare, Function.comp_def]

@[simp] theorem bare_abandon (d : DictionaryScratch) (slot : ColumnSlot) :
    (w.abandon slot).bare d = w.bare d :=
  rfl

@[simp] theorem bare_withScratch (d d' : DictionaryScratch) : (w.withScratch d).bare d' = w.bare d' :=
  rfl

theorem checkComplete_bare (d : DictionaryScratch) : (w.bare d).checkComplete = w.checkComplete :=
  rfl

/-- Opening a column answers alike on the erased writer, and leaves the same slot and writer once
erased: the buffer drawn is empty whatever the workspace gave. -/
theorem openColumn_bare (w : BlockWriter) (d d' : DictionaryScratch) (name : String)
    (ty : ColumnType) (hint : Nat) :
    ((w.bare d).openColumn name ty hint).map (fun o => (o.1.bare, o.2.bare d')) =
      (w.openColumn name ty hint).map (fun o => (o.1.bare, o.2.bare d')) := by
  unfold openColumn
  by_cases sealed : w.sealed = true
  · rw [if_pos sealed, if_pos (show (w.bare d).sealed = true from sealed)]
  · rw [if_neg sealed, if_neg (show ¬(w.bare d).sealed = true from sealed)]
    by_cases full : w.columns ≤ w.started
    · rw [if_pos full, if_pos (show (w.bare d).columns ≤ (w.bare d).started from full)]
      rfl
    · rw [if_neg full, if_neg (show ¬(w.bare d).columns ≤ (w.bare d).started from full)]
      simp [Except.map, bare, Buffer.bare, ColumnSlot.bare, Buffer.setBytes, Workspace.acquire,
        Function.comp_def]

/-- Committing a column answers alike on the erased writer and leaves the same writer once
erased. -/
theorem commit_bare (d d' : DictionaryScratch) (slot : ColumnSlot) (written : Nat) :
    ((w.bare d).commit slot.bare written).1 = (w.commit slot written).1 ∧
      ((w.bare d).commit slot.bare written).2.bare d' = (w.commit slot written).2.bare d' := by
  by_cases all : written = w.rows
  · rw [commit_of_rows all, commit_of_rows (show written = (w.bare d).rows from all)]
    refine ⟨rfl, ?_⟩
    simp [bare, Buffer.bare, ColumnSlot.bare, Function.comp_def]
  · rw [commit_of_short all, commit_of_short (show written ≠ (w.bare d).rows from all)]
    exact ⟨rfl, by simp⟩

/-- Finishing a dictionary column reads the scratch and nothing else of the workspace. -/
theorem finishDictionary_bare (d' : DictionaryScratch) (c : DictionaryWriter) :
    ((w.bare w.ws.scratch).finishDictionary c.bare).1 = (w.finishDictionary c).1 ∧
      ((w.bare w.ws.scratch).finishDictionary c.bare).2.bare d' =
        (w.finishDictionary c).2.bare d' := by
  by_cases all : c.written = w.rows
  · have scratch : (w.bare w.ws.scratch).ws.scratch = w.ws.scratch := rfl
    unfold finishDictionary
    rw [if_pos all, if_pos (show c.bare.written = (w.bare w.ws.scratch).rows from all)]
    dsimp only
    rw [scratch]
    cases Dictionary.encode w.ws.scratch.entries w.ws.scratch.cardinality w.ws.scratch.keys.toList with
    | ok payload => exact commit_bare _ d' (c.slot.setBytes (c.slot.buf.bytes ++ payload)) c.written
    | error e => exact ⟨rfl, by simp⟩
  · rw [finishDictionary_of_short all,
      finishDictionary_of_short (show c.bare.written ≠ (w.bare w.ws.scratch).rows from all)]
    exact ⟨rfl, by simp⟩

theorem finish_bare (d d' : DictionaryScratch) :
    (w.bare d).finish.1 = w.finish.1 ∧ (w.bare d).finish.2.bare d' = w.finish.2.bare d' := by
  unfold finish
  rw [checkComplete_bare, segments_bare]
  cases w.checkComplete with
  | error e => exact ⟨rfl, bare_bare d d'⟩
  | ok u => exact ⟨rfl, rfl⟩

theorem finishCompressed_bare (d d' : DictionaryScratch) (c : Compression) :
    ((w.bare d).finishCompressed c).1 = (w.finishCompressed c).1 ∧
      ((w.bare d).finishCompressed c).2.bare d' = (w.finishCompressed c).2.bare d' := by
  unfold finishCompressed
  rw [checkComplete_bare, segments_bare]
  cases w.checkComplete with
  | error e => exact ⟨rfl, bare_bare d d'⟩
  | ok u =>
    cases c.compress w.segments with
    | error e => exact ⟨rfl, bare_bare d d'⟩
    | ok out => exact ⟨rfl, rfl⟩

end BlockWriter

/-! ## Sessions answer as their erasure does -/

namespace WriteSession

variable {s : WriteSession}

theorem bare_of_closed (closed : s.column = none) :
    s.bare = ⟨s.writer.bare .empty, none, none⟩ := by
  simp [bare, liveScratch, closed]

theorem liveScratch_bare (s : WriteSession) : s.bare.liveScratch = s.liveScratch := by
  unfold bare liveScratch
  cases s.column with
  | none => rfl
  | some o => cases o <;> rfl

@[simp] theorem bare_bare (s : WriteSession) : s.bare.bare = s.bare := by
  show ⟨s.bare.writer.bare s.bare.liveScratch, s.bare.column.map OpenColumn.bare, none⟩ = s.bare
  rw [liveScratch_bare]
  simp [bare, Option.map_map, Function.comp_def]

/-- A session with no open column, once erased, is its writer's erasure with the empty
scratch. -/
theorem bare_closed_with (s : WriteSession) (w : BlockWriter) :
    ({ s.closeColumn with writer := w } : WriteSession).bare = ⟨w.bare .empty, none, none⟩ :=
  bare_of_closed (column_closeColumn s)

/-- Dropping the open column hands back a buffer that the erased workspace does not keep. -/
theorem writer_bare_closeColumn (s : WriteSession) :
    s.bare.closeColumn.writer = s.closeColumn.writer.bare s.liveScratch := by
  unfold closeColumn
  cases open_ : s.column with
  | none => simp [bare, open_]
  | some o =>
    simp only [bare, open_, Option.map_some]
    show { s.writer.bare s.liveScratch with
      ws := (Workspace.bare s.liveScratch).release o.bare.slot.buf } = _
    rw [Workspace.release_bare]
    rfl

theorem bare_closeColumn (s : WriteSession) : s.bare.closeColumn.bare = s.closeColumn.bare := by
  rw [bare_of_closed (column_closeColumn _), bare_of_closed (column_closeColumn _),
    writer_bare_closeColumn, BlockWriter.bare_bare]

/-- The session a column opens, once erased, holds only the slot's bytes and the writer's
erasure: a dictionary column has just cleared the scratch. -/
theorem bare_opened (t : WriteSession) (spec : ColumnSpec) (slot : ColumnSlot) (w : BlockWriter) :
    ({ t with writer := { w with ws := w.ws.preparedFor spec },
              column := some (.fresh slot w.rows spec) } : WriteSession).bare =
      ⟨w.bare .empty, some (.fresh slot.bare w.rows spec), none⟩ := by
  cases spec <;> rfl

theorem create_bare (s : WriteSession) (name : String) (spec : ColumnSpec) :
    (s.bare.create name spec).map bare = (s.create name spec).map bare := by
  have opened := s.closeColumn.writer.openColumn_bare s.liveScratch .empty name spec.columnType
    (spec.hint s.closeColumn.writer.rows)
  rw [create_eq, create_eq, writer_bare_closeColumn, BlockWriter.rows_bare]
  rcases Except.map_eq_map_cases opened with ⟨e, ranBare, ran⟩ | ⟨o', o, ranBare, ran, opened⟩
  · rw [ranBare, ran]
    rfl
  · rw [ranBare, ran]
    -- The two openings agree once erased, the row count included.
    obtain ⟨slot, writer⟩ := Prod.mk.inj opened
    have rows : o'.2.rows = o.2.rows := by
      rw [← BlockWriter.rows_bare (d := .empty), writer, BlockWriter.rows_bare]
    simp only [Except.map]
    rw [bare_opened, bare_opened, slot, writer, rows]

/-- Writing a row reads only the open column's bytes and, for a dictionary column, the live
scratch. -/
theorem writeRow_bare (s : WriteSession) {o : OpenColumn} (open_ : s.column = some o)
    (row : (spec : ColumnSpec) → spec.Input) :
    (s.bare.writeRow o.bare (row o.bare.spec)).1 = (s.writeRow o (row o.spec)).1 ∧
      (s.bare.writeRow o.bare (row o.bare.spec)).2.bare = (s.writeRow o (row o.spec)).2.bare := by
  cases o with
  | value c w =>
    simp only [OpenColumn.bare, OpenColumn.spec, writeRow, ValueWriter.write_bare, true_and]
    simp [bare, setColumn, liveScratch, open_, OpenColumn.bare, ValueWriter.bare, ColumnSlot.bare]
  | nullable c w =>
    simp only [OpenColumn.bare, OpenColumn.spec, writeRow, NullableWriter.write_bare, true_and]
    simp [bare, setColumn, liveScratch, open_, OpenColumn.bare, NullableWriter.bare, ColumnSlot.bare]
  | dictionary w =>
    -- The erased session keeps the scratch of its open dictionary column.
    have live : s.bare.writer.ws.scratch = s.writer.ws.scratch := by
      simp [bare, liveScratch, open_, BlockWriter.bare, Workspace.bare]
    simp only [OpenColumn.bare, OpenColumn.spec, writeRow, live, DictionaryWriter.write_bare,
      true_and]
    simp [bare, liveScratch, open_, OpenColumn.bare, DictionaryWriter.bare, ColumnSlot.bare]

/-- Committing the open column reads the slot's bytes and, for a dictionary column, the live
scratch. -/
theorem commitColumn_bare (s : WriteSession) {o : OpenColumn} (open_ : s.column = some o) :
    (s.bare.commitColumn o.bare).1 = (s.commitColumn o).1 ∧
      (s.bare.commitColumn o.bare).2.bare = (s.commitColumn o).2.bare := by
  rw [bare_of_closed (column_commitColumn _ _), bare_of_closed (column_commitColumn _ _)]
  have live : s.bare.writer = s.writer.bare s.liveScratch := rfl
  cases o with
  | value c w =>
    have committed := BlockWriter.commit_bare (w := s.writer) s.liveScratch .empty w.slot w.written
    rw [← live] at committed
    exact ⟨committed.1, by rw [show (s.bare.commitColumn (OpenColumn.value c w).bare).2.writer =
      (s.bare.writer.commit w.slot.bare w.written).2 from rfl, committed.2]; rfl⟩
  | nullable c w =>
    have committed := BlockWriter.commit_bare (w := s.writer) s.liveScratch .empty w.slot w.written
    rw [← live] at committed
    exact ⟨committed.1, by rw [show (s.bare.commitColumn (OpenColumn.nullable c w).bare).2.writer =
      (s.bare.writer.commit w.slot.bare w.written).2 from rfl, committed.2]; rfl⟩
  | dictionary w =>
    have scratch : s.liveScratch = s.writer.ws.scratch := by simp [liveScratch, open_]
    have finished := BlockWriter.finishDictionary_bare (w := s.writer) .empty w
    rw [← scratch, ← live] at finished
    exact ⟨finished.1, by rw [show (s.bare.commitColumn (OpenColumn.dictionary w).bare).2.writer =
      (s.bare.writer.finishDictionary w.bare).2 from rfl, finished.2]; rfl⟩

theorem finish_bare (s : WriteSession) (c : Option Compression) :
    (s.bare.finish c).1 = (s.finish c).1 ∧ (s.bare.finish c).2.bare = (s.finish c).2.bare := by
  cases c with
  | none =>
    have finished := BlockWriter.finish_bare (w := s.closeColumn.writer) s.liveScratch .empty
    rw [← writer_bare_closeColumn] at finished
    refine ⟨finished.1, ?_⟩
    show ({ s.bare.closeColumn with writer := s.bare.closeColumn.writer.finish.2 } :
        WriteSession).bare = ({ s.closeColumn with writer := s.closeColumn.writer.finish.2 } :
        WriteSession).bare
    rw [bare_closed_with, bare_closed_with, finished.2]
  | some c =>
    have finished := BlockWriter.finishCompressed_bare (w := s.closeColumn.writer) s.liveScratch
      .empty c
    rw [← writer_bare_closeColumn] at finished
    refine ⟨finished.1, ?_⟩
    show ({ s.bare.closeColumn with writer := (s.bare.closeColumn.writer.finishCompressed c).2 } :
        WriteSession).bare =
      ({ s.closeColumn with writer := (s.closeColumn.writer.finishCompressed c).2 } :
        WriteSession).bare
    rw [bare_closed_with, bare_closed_with, finished.2]

theorem finishOwned_bare (s : WriteSession) :
    s.bare.finishOwned.1 = s.finishOwned.1 ∧ s.bare.finishOwned.2.bare = s.finishOwned.2.bare := by
  have finished := BlockWriter.finish_bare (w := s.closeColumn.writer) s.liveScratch .empty
  rw [← writer_bare_closeColumn] at finished
  exact ⟨finished.1, rfl⟩

/-- A call made on the erased session answers as on the session and leaves the same session once
erased. -/
theorem call_bare (s : WriteSession) (c : WriteCall) :
    (s.bare.call c).1 = (s.call c).1 ∧ (s.bare.call c).2.bare = (s.call c).2.bare := by
  cases c with
  | create name spec =>
    cases spec with
    | error e =>
      rw [call_create_error, call_create_error]
      exact ⟨rfl, bare_closeColumn s⟩
    | ok spec =>
      rw [call_create_ok, call_create_ok]
      rcases Except.map_eq_map_cases (create_bare s name spec) with
        ⟨e, ranBare, ran⟩ | ⟨t', t, ranBare, ran, created⟩
      · rw [ranBare, ran]
        exact ⟨rfl, bare_closeColumn s⟩
      · rw [ranBare, ran]
        exact ⟨rfl, created⟩
  | write row =>
    cases open_ : s.column with
    | none =>
      have closed : s.bare.column = none := by simp [bare, open_]
      rw [call_write_none row open_, call_write_none row closed]
      exact ⟨rfl, bare_bare s⟩
    | some o =>
      have opened : s.bare.column = some o.bare := by simp [bare, open_]
      rw [call_write row open_, call_write row opened]
      obtain ⟨answer, next⟩ := writeRow_bare s open_ row
      exact ⟨by rw [answer], next⟩
  | finishColumn =>
    cases open_ : s.column with
    | none =>
      have closed : s.bare.column = none := by simp [bare, open_]
      rw [call_finishColumn_none open_, call_finishColumn_none closed]
      exact ⟨rfl, bare_bare s⟩
    | some o =>
      have opened : s.bare.column = some o.bare := by simp [bare, open_]
      rw [call_finishColumn open_, call_finishColumn opened]
      obtain ⟨answer, next⟩ := commitColumn_bare s open_
      exact ⟨by rw [answer], next⟩
  | dropColumn =>
    cases open_ : s.column with
    | none =>
      have closed : s.bare.column = none := by simp [bare, open_]
      rw [call_dropColumn_none open_, call_dropColumn_none closed]
      exact ⟨rfl, bare_bare s⟩
    | some o =>
      have opened : s.bare.column = some o.bare := by simp [bare, open_]
      rw [call_dropColumn open_, call_dropColumn opened]
      exact ⟨rfl, bare_closeColumn s⟩
  | finish c =>
    obtain ⟨answer, next⟩ := finish_bare s c
    rw [call_finish, call_finish]
    exact ⟨by rw [answer], next⟩
  | finishOwned =>
    obtain ⟨answer, next⟩ := finishOwned_bare s
    rw [call_finishOwned, call_finishOwned]
    exact ⟨by rw [answer], next⟩

/-- Two sessions equal once erased answer alike over any run of calls. -/
theorem runCalls_of_bare_eq {t : WriteSession} (same : s.bare = t.bare) (calls : List WriteCall) :
    (runCalls call s calls).1 = (runCalls call t calls).1 := by
  refine runCalls_answers_eq call (R := fun s t => s.bare = t.bare) ?_ s t calls same
  intro s t c same
  obtain ⟨answer, next⟩ := call_bare s c
  obtain ⟨answer', next'⟩ := call_bare t c
  rw [same] at answer next
  exact ⟨answer.symm.trans answer', next.symm.trans next'⟩

/-- A new session keeps nothing of its workspace but the empty buffer drawn for its header. -/
theorem bare_start (ws : Workspace) (columns rows : Nat) :
    (start ws columns rows).bare = (start Workspace.default columns rows).bare := rfl

end WriteSession

/-! ## What a writer does to its workspace -/

namespace Workspace

/-- The workspaces a writer can leave of `ws`: buffers drawn and handed back, and the scratch
replaced, in any order and number. -/
inductive Moves (ws : Workspace) : Workspace → Prop
  | refl : Moves ws ws
  | acquire {v : Workspace} (hint : Nat) : Moves ws v → Moves ws (v.acquire hint).2
  | release {v : Workspace} (buf : Buffer) : Moves ws v → Moves ws (v.release buf)
  | scratch {v : Workspace} (d : DictionaryScratch) : Moves ws v → Moves ws { v with scratch := d }

@[simp] theorem limit_acquire (ws : Workspace) (hint : Nat) : (ws.acquire hint).2.limit = ws.limit :=
  rfl

@[simp] theorem limit_release (ws : Workspace) (buf : Buffer) : (ws.release buf).limit = ws.limit := by
  unfold release
  split <;> rfl

theorem pooled_acquire_le (ws : Workspace) (hint : Nat) : (ws.acquire hint).2.pooled ≤ ws.pooled := by
  simp [acquire, pooled]

/-- A buffer handed back is kept only below the limit. -/
theorem pooled_release_le (ws : Workspace) (buf : Buffer) (within : ws.pooled ≤ ws.limit) :
    (ws.release buf).pooled ≤ ws.limit := by
  unfold release
  split
  · exact within
  · rename_i kept
    simp only [pooled, Array.size_push]
    omega

namespace Moves

variable {ws v u : Workspace}

theorem trans (first : ws.Moves v) (second : v.Moves u) : ws.Moves u := by
  induction second with
  | refl => exact first
  | acquire hint _ ih => exact ih.acquire hint
  | release buf _ ih => exact ih.release buf
  | scratch d _ ih => exact ih.scratch d

theorem releaseAll (moved : ws.Moves v) (bufs : List Buffer) : ws.Moves (v.releaseAll bufs) := by
  induction bufs generalizing v with
  | nil => exact moved
  | cons buf bufs ih => exact ih (moved.release buf)

/-- Drawing and handing back buffers never changes the limit. -/
theorem limit_eq (moved : ws.Moves v) : v.limit = ws.limit := by
  induction moved with
  | refl => rfl
  | acquire hint _ ih => rw [limit_acquire, ih]
  | release buf _ ih => rw [limit_release, ih]
  | scratch d _ ih => exact ih

/-- A workspace within its limit stays within it. -/
theorem pooled_le (moved : ws.Moves v) (within : ws.pooled ≤ ws.limit) : v.pooled ≤ ws.limit := by
  induction moved with
  | refl => exact within
  | acquire hint _ ih => exact (pooled_acquire_le _ hint).trans ih
  | @release v buf moved ih =>
    rw [← moved.limit_eq] at ih ⊢
    exact pooled_release_le v buf ih
  | scratch d _ ih => exact ih

end Moves

end Workspace

namespace BlockWriter

variable (w : BlockWriter)

theorem moves_openColumn {name : String} {ty : ColumnType} {hint : Nat} {slot : ColumnSlot}
    {w' : BlockWriter} (opened : w.openColumn name ty hint = .ok (slot, w')) : w.ws.Moves w'.ws := by
  rcases openColumn_cases w name ty hint with ⟨-, failed⟩ | ⟨-, -, msg, failed⟩ | ⟨-, -, ok⟩
  · rw [failed] at opened
    cases opened
  · rw [failed] at opened
    cases opened
  · rw [ok] at opened
    cases opened
    exact Workspace.Moves.refl.acquire (columnRoom name ty hint)

theorem moves_commit (slot : ColumnSlot) (written : Nat) : w.ws.Moves (w.commit slot written).2.ws := by
  by_cases all : written = w.rows
  · rw [commit_of_rows all]
    exact .refl
  · rw [commit_of_short all]
    exact Workspace.Moves.refl.release slot.buf

theorem moves_finishDictionary (c : DictionaryWriter) : w.ws.Moves (w.finishDictionary c).2.ws := by
  by_cases all : c.written = w.rows
  · unfold finishDictionary
    rw [if_pos all]
    dsimp only
    split
    · exact moves_commit w _ _
    · exact Workspace.Moves.refl.release c.slot.buf
  · rw [finishDictionary_of_short all]
    exact Workspace.Moves.refl.release c.slot.buf

theorem moves_drop : w.ws.Moves w.drop := Workspace.Moves.refl.releaseAll _

theorem moves_finish : w.ws.Moves w.finish.2.ws := by
  rcases finish_cases w with ⟨e, -, finished⟩ | ⟨-, finished⟩
  · rw [finished]
    exact .refl
  · rw [finished]
    exact moves_drop w

theorem moves_finishCompressed (c : Compression) : w.ws.Moves (w.finishCompressed c).2.ws := by
  rcases finishCompressed_cases w c with ⟨e, finished⟩ | ⟨-, out, finished⟩
  · rw [finished]
    exact .refl
  · rw [finished]
    exact moves_drop w

end BlockWriter

namespace WriteSession

/-- The workspace the session draws from and hands back to: the one handed back once a consuming
finish has ended the writer, else the writer's. -/
def workspace (s : WriteSession) : Workspace := s.handedBack.getD s.writer.ws

variable {s : WriteSession}

theorem moves_workspace {s s' : WriteSession} (kept : s'.handedBack = s.handedBack)
    (moved : s.writer.ws.Moves s'.writer.ws) : s.workspace.Moves s'.workspace := by
  unfold workspace
  rw [kept]
  cases s.handedBack with
  | none => exact moved
  | some _ => exact .refl

@[simp] theorem handedBack_closeColumn (s : WriteSession) :
    s.closeColumn.handedBack = s.handedBack := by
  unfold closeColumn
  split <;> rfl

theorem moves_closeColumn_ws (s : WriteSession) : s.writer.ws.Moves s.closeColumn.writer.ws := by
  unfold closeColumn
  cases s.column with
  | none => exact .refl
  | some o => exact Workspace.Moves.refl.release o.slot.buf

theorem moves_closeColumn (s : WriteSession) : s.workspace.Moves s.closeColumn.workspace :=
  moves_workspace (handedBack_closeColumn s) (moves_closeColumn_ws s)

theorem moves_create {name : String} {spec : ColumnSpec} {s' : WriteSession}
    (created : s.create name spec = .ok s') : s.workspace.Moves s'.workspace := by
  rw [create_eq] at created
  cases opened : s.closeColumn.writer.openColumn name spec.columnType
      (spec.hint s.closeColumn.writer.rows) with
  | error e =>
    rw [opened] at created
    cases created
  | ok o =>
    rw [opened] at created
    cases created
    -- The column's buffer is drawn after the open one's is handed back; a dictionary column then
    -- clears the scratch.
    have drawn := BlockWriter.moves_openColumn _ opened
    refine (moves_closeColumn s).trans (moves_workspace rfl ?_)
    cases spec with
    | value c => exact drawn
    | nullable c => exact drawn
    | dictionary => exact drawn.scratch _

theorem moves_writeRow {o : OpenColumn} (v : o.spec.Input) :
    s.workspace.Moves (s.writeRow o v).2.workspace := by
  cases o with
  | value c w => exact .refl
  | nullable c w => exact .refl
  | dictionary w => exact moves_workspace rfl (Workspace.Moves.refl.scratch _)

theorem moves_commitColumn (o : OpenColumn) : s.workspace.Moves (s.commitColumn o).2.workspace := by
  refine moves_workspace rfl ?_
  cases o with
  | value c w => exact BlockWriter.moves_commit _ _ _
  | nullable c w => exact BlockWriter.moves_commit _ _ _
  | dictionary w => exact BlockWriter.moves_finishDictionary _ _

/-- Every call only draws buffers from the workspace, hands them back and replaces the
scratch. -/
theorem moves_call (s : WriteSession) (c : WriteCall) : s.workspace.Moves (s.call c).2.workspace := by
  have closed := moves_closeColumn s
  cases c with
  | create name spec =>
    rw [call_create]
    split
    · rename_i s' created
      cases spec with
      | error e => cases created
      | ok spec => exact moves_create created
    · exact closed
  | write row =>
    cases open_ : s.column with
    | none =>
      rw [call_write_none row open_]
      exact .refl
    | some o =>
      rw [call_write row open_]
      exact moves_writeRow _
  | finishColumn =>
    cases open_ : s.column with
    | none =>
      rw [call_finishColumn_none open_]
      exact .refl
    | some o =>
      rw [call_finishColumn open_]
      exact moves_commitColumn o
  | dropColumn =>
    cases open_ : s.column with
    | none =>
      rw [call_dropColumn_none open_]
      exact .refl
    | some o =>
      rw [call_dropColumn open_]
      exact closed
  | finish c =>
    rw [call_finish]
    cases c with
    | none =>
      rw [finish_none]
      exact closed.trans (moves_workspace rfl (BlockWriter.moves_finish _))
    | some c =>
      rw [finish_some]
      exact closed.trans (moves_workspace rfl (BlockWriter.moves_finishCompressed _ c))
  | finishOwned =>
    -- The workspace handed back is the first one, or the ended writer's once every buffer is back.
    rw [call_finishOwned]
    show s.workspace.Moves ((some (s.closeColumn.handedBack.getD
      s.closeColumn.writer.finish.2.drop)).getD (BlockWriter.new Workspace.default 0 0).ws)
    refine closed.trans ?_
    unfold workspace
    cases s.closeColumn.handedBack with
    | none => exact (BlockWriter.moves_finish _).trans (BlockWriter.moves_drop _)
    | some _ => exact .refl

/-- Dropping the session hands the open column's buffer and every segment's buffer back. -/
theorem moves_dropped (s : WriteSession) : s.workspace.Moves s.dropped := by
  unfold dropped workspace
  cases s.handedBack with
  | none => exact (moves_closeColumn_ws s).trans (BlockWriter.moves_drop _)
  | some _ => exact .refl

theorem moves_runCalls (s : WriteSession) (calls : List WriteCall) :
    s.workspace.Moves (runCalls call s calls).2.workspace :=
  runCalls_invariant call (P := fun t => s.workspace.Moves t.workspace)
    (fun t c moved => moved.trans (moves_call t c)) s calls .refl

end WriteSession

/-- A block's bytes do not depend on the workspace it is written with. Whatever workspace a
session starts on (any idle buffers, with any former bytes and room, any limit and initial
capacity, and any scratch an earlier dictionary column left), any sequence of calls answers exactly
as on a new default workspace: the same blocks, byte for byte, and the same errors at the same
calls. The limit never changes, and a workspace within its limit stays within it at every point
of the run and once the session is dropped, its open column and unfinished writer with it. -/
theorem workspace_invisible (ws : Workspace) (columns rows : Nat) (calls : List WriteCall) :
    (runCalls WriteSession.call (WriteSession.start ws columns rows) calls).1 =
      (runCalls WriteSession.call (WriteSession.start Workspace.default columns rows) calls).1 ∧
    (ws.pooled ≤ ws.limit →
      let s := (runCalls WriteSession.call (WriteSession.start ws columns rows) calls).2
      s.workspace.limit = ws.limit ∧ s.workspace.pooled ≤ ws.limit ∧
        s.dropped.limit = ws.limit ∧ s.dropped.pooled ≤ ws.limit) := by
  -- A new session has drawn the header's buffer.
  have moved : ws.Moves
      (runCalls WriteSession.call (WriteSession.start ws columns rows) calls).2.workspace :=
    (Workspace.Moves.refl.acquire 20).trans
      (WriteSession.moves_runCalls (WriteSession.start ws columns rows) calls)
  have dropped := moved.trans (WriteSession.moves_dropped _)
  refine ⟨WriteSession.runCalls_of_bare_eq (WriteSession.bare_start ws columns rows) calls,
    fun within => ⟨moved.limit_eq, moved.pooled_le within, dropped.limit_eq,
      dropped.pooled_le within⟩⟩

/-- A workspace holding one idle buffer of former bytes and what a dictionary column left in its
scratch, used for a block whose dictionary column is dropped unfinished before the writer is
ended, still holds at most two idle buffers. -/
theorem workspace_invisible_leftovers :
    (⟨2, 16, #[⟨⟨#[7, 7]⟩, 32⟩], ⟨#["x"], ⟨#[1, 120]⟩, #[0, 0]⟩⟩ : Workspace).pooled ≤ 2 ∧
    (runCalls WriteSession.call
      (WriteSession.start ⟨2, 16, #[⟨⟨#[7, 7]⟩, 32⟩], ⟨#["x"], ⟨#[1, 120]⟩, #[0, 0]⟩⟩ 1 0)
      [.create "s" (.ok .dictionary), .dropColumn, .finishOwned]).2.dropped.pooled ≤ 2 :=
  ⟨by decide, ((workspace_invisible ⟨2, 16, #[⟨⟨#[7, 7]⟩, 32⟩], ⟨#["x"], ⟨#[1, 120]⟩, #[0, 0]⟩⟩ 1 0
    [.create "s" (.ok .dictionary), .dropColumn, .finishOwned]).2 (by decide)).2.2.2⟩

end NativeBlock
