import NativeBlock.Block.ReadSession
import NativeBlock.Proofs.Framing

/-!
# Reader operations

A `ReadOp` runs on a reader and leaves one whether it fails or returns. The operations that take a
column are a run of steps that only look at the reader (the header is read at a position of its
own, the type checked, the rows measured), ended by `commit`. Two consequences are drawn here
once, by one rule per step of a `do` block:

* `ReadOp.CommitsLast`: the operation leaves the reader as it was, or returns with the reader moved
  past one column. A failure therefore changes nothing (`CommitsLast.state_of_error`).
* `ReadOp.result` of each operation is the computation in `Except` that reads the header, checks it
  and measures the rows, then hands back the moved reader (`BlockReader.nextColumn_eq` and its
  siblings), the form in which the cursor and framing proofs use it.
-/

namespace NativeBlock

namespace ReadOp

variable {α β : Type} {r r' : BlockReader}

/-! ## Outcomes step by step -/

theorem outcome_of_ok {op : ReadOp α} {a : α} (ran : op r = .ok a r') :
    op.outcome r = (.ok a, r') := by
  simp only [outcome, ran]

theorem outcome_of_error {op : ReadOp α} {e : Error} (ran : op r = .error e r') :
    op.outcome r = (.error e, r') := by
  simp only [outcome, ran]

@[simp] theorem outcome_get : (get : ReadOp BlockReader).outcome r = (.ok r, r) := rfl

@[simp] theorem outcome_pure (a : α) : (pure a : ReadOp α).outcome r = (.ok a, r) := rfl

@[simp] theorem outcome_ofExcept (x : Except Error α) :
    (MonadExcept.ofExcept x : ReadOp α).outcome r = (x, r) := by
  cases x <;> rfl

@[simp] theorem outcome_commit (start span : Nat) :
    (BlockReader.commit start span).outcome r = (.ok (), r.advance start span) := rfl

theorem outcome_bind_of_ok {x : ReadOp α} {f : α → ReadOp β} {a : α}
    (ran : x.outcome r = (.ok a, r')) : (x >>= f).outcome r = (f a).outcome r' := by
  cases h : x r with
  | ok a' s =>
    rw [outcome_of_ok h, Prod.mk.injEq, Except.ok.injEq] at ran
    obtain ⟨rfl, rfl⟩ := ran
    simp only [outcome, bind, EStateM.bind, h]
  | error e s =>
    rw [outcome_of_error h] at ran
    cases ran

theorem outcome_bind_of_error {x : ReadOp α} {f : α → ReadOp β} {e : Error}
    (failed : x.outcome r = (.error e, r')) : (x >>= f).outcome r = (.error e, r') := by
  cases h : x r with
  | ok a s =>
    rw [outcome_of_ok h] at failed
    cases failed
  | error e' s =>
    rw [outcome_of_error h, Prod.mk.injEq, Except.error.injEq] at failed
    obtain ⟨rfl, rfl⟩ := failed
    simp only [outcome, bind, EStateM.bind, h]

theorem outcome_map (f : α → β) (x : ReadOp α) :
    (f <$> x).outcome r = ((x.outcome r).1.map f, (x.outcome r).2) := by
  cases h : x r with
  | ok a s =>
    rw [outcome_of_ok h]
    simp only [outcome, Functor.map, EStateM.map, h, Except.map]
  | error e s =>
    rw [outcome_of_error h]
    simp only [outcome, Functor.map, EStateM.map, h, Except.map]

/-! ## Operations that commit last -/

/-- The operation never moves the reader. -/
def Keeps (op : ReadOp α) : Prop := ∀ r, (op.outcome r).2 = r

/-- The operation moves the reader only by committing one column as it returns: it leaves the
reader as it was, or succeeds with the reader moved past one column. -/
def CommitsLast (op : ReadOp α) : Prop :=
  ∀ r, (op.outcome r).2 = r ∨ ∃ a start span, op.outcome r = (.ok a, r.advance start span)

theorem keeps_get : Keeps (get : ReadOp BlockReader) := fun _ => rfl

theorem keeps_ofExcept (x : Except Error α) : Keeps (MonadExcept.ofExcept x : ReadOp α) :=
  fun _ => by rw [outcome_ofExcept]

theorem Keeps.commitsLast {op : ReadOp α} (keeps : Keeps op) : CommitsLast op :=
  fun r => .inl (keeps r)

theorem Keeps.map {op : ReadOp α} (keeps : Keeps op) (f : α → β) : Keeps (f <$> op) :=
  fun r => by rw [outcome_map, keeps r]

/-- A step that keeps the reader, followed by operations that commit last, commits last. -/
theorem CommitsLast.bind {x : ReadOp α} {f : α → ReadOp β} (first : Keeps x)
    (rest : ∀ a, CommitsLast (f a)) : CommitsLast (x >>= f) := by
  intro r
  have stays := first r
  rcases ran : x.outcome r with ⟨_ | a, s⟩
  · rw [ran] at stays
    subst stays
    exact .inl (by rw [outcome_bind_of_error ran])
  · rw [ran] at stays
    subst stays
    rw [outcome_bind_of_ok ran]
    exact rest a s

theorem CommitsLast.map {op : ReadOp α} (commits : CommitsLast op) (f : α → β) :
    CommitsLast (f <$> op) := by
  intro r
  rcases commits r with same | ⟨a, start, span, ran⟩
  · exact .inl (by rw [outcome_map, same])
  · exact .inr ⟨f a, start, span, by rw [outcome_map, ran]; rfl⟩

/-- The commit itself, followed by the value handed back. -/
theorem commitsLast_commit (start span : Nat) (a : α) :
    CommitsLast (BlockReader.commit start span >>= fun _ => pure a) :=
  fun _ => .inr ⟨a, start, span, by rw [outcome_bind_of_ok (outcome_commit start span)]; rfl⟩

/-- An operation that commits last and fails leaves the reader it was run on. -/
theorem CommitsLast.state_of_error {op : ReadOp α} (commits : CommitsLast op) {e : Error}
    (failed : (op.outcome r).1 = .error e) : (op.outcome r).2 = r := by
  rcases commits r with same | ⟨a, start, span, ran⟩
  · exact same
  · rw [ran] at failed
    cases failed

/-! ## Results -/

@[simp] theorem result_get_bind (f : BlockReader → ReadOp α) :
    (get >>= f).result r = (f r).result r := by
  simp only [result, outcome_bind_of_ok outcome_get]

@[simp] theorem result_ofExcept_bind (x : Except Error α) (f : α → ReadOp β) :
    (MonadExcept.ofExcept x >>= f).result r = x >>= fun a => (f a).result r := by
  cases x with
  | error e =>
    rw [result, outcome_bind_of_error (outcome_ofExcept _)]
    rfl
  | ok a =>
    rw [result, outcome_bind_of_ok (outcome_ofExcept _)]
    rfl

@[simp] theorem result_commit (start span : Nat) (a : α) :
    (BlockReader.commit start span >>= fun _ => pure a).result r =
      pure (a, r.advance start span) := by
  rw [result, outcome_bind_of_ok (outcome_commit start span)]
  rfl

theorem result_map (f : α → β) (x : ReadOp α) :
    (f <$> x).result r = (x.result r).map fun p => (f p.1, p.2) := by
  cases h : (x.outcome r).1 with
  | error e => simp only [result, outcome_map, h, Except.map]
  | ok a => simp only [result, outcome_map, h, Except.map]

end ReadOp

namespace BlockReader

open ReadOp

variable (r : BlockReader)

/-! ## Each operation commits last -/

theorem takeColumn_commitsLast (codec : Codec) : CommitsLast (takeColumn codec) :=
  CommitsLast.bind keeps_get fun _ => CommitsLast.bind (keeps_ofExcept _) fun opened =>
    CommitsLast.bind (keeps_ofExcept _) fun span => commitsLast_commit opened.2 span _

theorem takeNullable_commitsLast (codec : Codec) : CommitsLast (takeNullable codec) :=
  CommitsLast.bind keeps_get fun _ => CommitsLast.bind (keeps_ofExcept _) fun opened =>
    CommitsLast.bind (keeps_ofExcept _) fun split =>
      commitsLast_commit opened.2 (split.1 + split.2) _

theorem takeDictionary_commitsLast : CommitsLast takeDictionary :=
  CommitsLast.bind keeps_get fun _ => CommitsLast.bind (keeps_ofExcept _) fun opened =>
    CommitsLast.bind (keeps_ofExcept _) fun d => commitsLast_commit opened.2 d.consumed _

theorem skipColumn_commitsLast : CommitsLast skipColumn :=
  CommitsLast.bind keeps_get fun _ => CommitsLast.bind (keeps_ofExcept _) fun read =>
    CommitsLast.bind (keeps_ofExcept _) fun _ =>
      CommitsLast.bind (keeps_ofExcept _) fun span => commitsLast_commit read.2 span _

theorem takeCursor_commitsLast (spec : ColumnSpec) : CommitsLast (takeCursor spec) := by
  cases spec with
  | value c => exact (takeColumn_commitsLast c).map _
  | nullable c => exact (takeNullable_commitsLast c).map _
  | dictionary => exact takeDictionary_commitsLast.map _

/-! ## The operations' results -/

/-- Taking a column opens it, measures its rows from where its header ends, and moves past them. -/
theorem nextColumn_eq (codec : Codec) :
    r.nextColumn codec = (do
      let opened ← r.openColumn codec.columnType
      let span ← Except.within (columnPlace opened.1) (Codec.span codec (r.tail opened.2) r.rows)
      pure (⟨opened.1, (r.tail opened.2).extract 0 span, 0, r.rows, 0⟩, r.advance opened.2 span)) := by
  simp only [nextColumn, takeColumn, result_get_bind, result_ofExcept_bind, result_commit]

theorem nextNullable_eq (codec : Codec) :
    r.nextNullable codec = (do
      let opened ← r.openColumn (.nullable codec.columnType)
      let data := r.tail opened.2
      let split ← Except.within (columnPlace opened.1) (do
        let mask ← Codec.fixedSpan data r.rows 1
        let values ← Codec.span codec (data.extract mask data.size) r.rows
        pure (mask, values))
      pure (⟨opened.1, data.extract 0 split.1, data.extract split.1 (split.1 + split.2), 0, r.rows,
        0⟩, r.advance opened.2 (split.1 + split.2))) := by
  simp only [nextNullable, takeNullable, result_get_bind, result_ofExcept_bind, result_commit]

theorem nextDictionary_eq :
    r.nextDictionary = (do
      let opened ← r.openColumn (.lowCardinality .string)
      let d ← Except.within (columnPlace opened.1) (Dictionary.decode (r.tail opened.2) r.rows)
      pure (⟨opened.1, d.dictionary, d.keys, d.keyWidth, r.rows, 0⟩,
        r.advance opened.2 d.consumed)) := by
  simp only [nextDictionary, takeDictionary, result_get_bind, result_ofExcept_bind, result_commit]

theorem skip_eq :
    r.skip = (do
      let read ← r.readHeader
      let t ← read.1.columnType
      let span ← Except.within (columnPlace read.1.name) (ColumnType.span (r.tail read.2) r.rows t)
      pure (read.1, r.advance read.2 span)) := by
  simp only [skip, skipColumn, result_get_bind, result_ofExcept_bind, result_commit]

@[simp] theorem result_takeCursor_value (c : Codec) :
    (takeCursor (.value c)).result r = (r.nextColumn c).map fun p => (.value c p.1, p.2) :=
  result_map _ _

@[simp] theorem result_takeCursor_nullable (c : Codec) :
    (takeCursor (.nullable c)).result r = (r.nextNullable c).map fun p => (.nullable c p.1, p.2) :=
  result_map _ _

@[simp] theorem result_takeCursor_dictionary :
    (takeCursor .dictionary).result r = r.nextDictionary.map fun p => (.dictionary p.1, p.2) :=
  result_map _ _

end BlockReader

end NativeBlock
