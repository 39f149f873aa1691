import NativeBlock.Proofs.RowBoundaries
import NativeBlock.Proofs.TypeCheck
import NativeBlock.Proofs.Prefixes

/-!
# Where a type mismatch comes from

A block reader fails with a type mismatch in one place: `BlockReader.openColumn`, when a column's
declared type is not the one asked for. Every other step fails with another kind of error
(`NoMismatch`): reading the counts and a column's header, reading a type string, building the
codec of a type, measuring a column's rows, decoding a row, and every answer of a cursor. So a
column taken for the type its own header declares is taken, or refused for another reason
(`BlockReader.nextColumn_noMismatch` and its two companions).

`NoMismatch` composes like the computations it describes (`NoMismatch.bind`, `.within`, `.ite`,
`.mapM`), and the proofs follow each function's own code.
-/

namespace NativeBlock

/-- Every failure of the computation is of a kind other than a type mismatch. -/
def NoMismatch {α : Type} (x : Except Error α) : Prop :=
  ∀ e, x = .error e → e.kind ≠ "TypeMismatch"

namespace NoMismatch

variable {α β : Type}

theorem ok (a : α) : NoMismatch (.ok a : Except Error α) := by
  intro e run
  cases run

theorem error {e : Error} (kind : e.kind ≠ "TypeMismatch") :
    NoMismatch (.error e : Except Error α) := by
  intro e' run
  cases run
  exact kind

/-- A failure passed on with its place added keeps its kind. -/
theorem error_within {e : Error} (kind : e.kind ≠ "TypeMismatch") (place : String) :
    NoMismatch (.error (e.within place) : Except Error α) :=
  error (by rw [Error.kind_within]; exact kind)

theorem bind {x : Except Error α} {f : α → Except Error β} (first : NoMismatch x)
    (rest : ∀ a, x = .ok a → NoMismatch (f a)) : NoMismatch (x >>= f) := by
  intro e run
  cases ran : x with
  | error e' =>
    rw [ran] at run
    cases run
    exact first e ran
  | ok a =>
    rw [ran] at run
    exact rest a ran e run

theorem within {x : Except Error α} (inner : NoMismatch x) (place : String) :
    NoMismatch (Except.within place x) := by
  intro e run
  cases ran : x with
  | error e' =>
    rw [ran, Except.within_error] at run
    cases run
    rw [Error.kind_within]
    exact inner e' ran
  | ok a =>
    rw [ran] at run
    cases run

theorem map {x : Except Error α} (inner : NoMismatch x) (f : α → β) : NoMismatch (x.map f) := by
  intro e run
  cases ran : x with
  | error e' =>
    rw [ran] at run
    cases run
    exact inner e ran
  | ok a =>
    rw [ran] at run
    cases run

theorem mapM {l : List α} {f : α → Except Error β} (each : ∀ a ∈ l, NoMismatch (f a)) :
    NoMismatch (l.mapM f) := by
  induction l with
  | nil => exact ok _
  | cons a l ih =>
    rw [List.mapM_cons]
    refine bind (each a (List.mem_cons_self ..)) fun _ _ => ?_
    refine bind (ih fun b mem => each b (List.mem_cons_of_mem a mem)) fun _ _ => ok _

theorem ite {c : Prop} [Decidable c] {x y : Except Error α} (yes : NoMismatch x)
    (no : NoMismatch y) : NoMismatch (if c then x else y) := by
  by_cases h : c
  · rw [if_pos h]
    exact yes
  · rw [if_neg h]
    exact no

end NoMismatch

/-- A reader that fails only by framing fails with no type mismatch. -/
theorem Dictionary.FailsFraming.kind_ne {α : Type} {read : EStateM Error Nat α}
    (frames : FailsFraming read) {pos p : Nat} {e : Error} (run : read pos = .error e p) :
    e.kind ≠ "TypeMismatch" := by
  obtain ⟨m, rfl⟩ := frames pos e p run
  simp [Error.kind]

/-! ## Reading a block's counts and a column's header -/

namespace BlockReader

theorem new_noMismatch (bytes : ByteArray) : NoMismatch (BlockReader.new bytes) := by
  unfold new
  split
  · rename_i e p failed
    exact NoMismatch.error_within ((Dictionary.readGroups_failsFraming bytes 0 0).kind_ne failed) _
  · split
    · rename_i e p failed
      exact NoMismatch.error_within ((Dictionary.readGroups_failsFraming bytes 0 0).kind_ne failed) _
    · exact NoMismatch.ok _

theorem header_failsFraming (bytes : ByteArray) : Dictionary.FailsFraming (do
    let name ← Wire.readText bytes
    let typeName ← Wire.readText bytes
    pure ⟨name, typeName⟩ : EStateM Error Nat ColumnHeader) :=
  .bind (Dictionary.readText_failsFraming bytes) fun _ =>
    .bind (Dictionary.readText_failsFraming bytes) fun _ => .pure _

theorem readHeader_noMismatch (r : BlockReader) : NoMismatch r.readHeader := by
  unfold readHeader
  split
  · exact NoMismatch.error (by simp [Error.kind])
  · dsimp only
    split
    · exact NoMismatch.ok _
    · rename_i e p failed
      exact NoMismatch.error_within ((header_failsFraming r.bytes).kind_ne failed) _

theorem peek_noMismatch (r : BlockReader) : NoMismatch r.peek :=
  (readHeader_noMismatch r).map _

end BlockReader

/-! ## Reading a type string -/

namespace ColumnType

theorem splitArgs_go_noMismatch (cs : List Char) (depth : Nat) (quoted : Bool) (cur : List Char)
    (done : List (List Char)) : NoMismatch (splitArgs.go cs depth quoted cur done) := by
  induction cs generalizing depth quoted cur done with
  | nil =>
    rw [splitArgs.go]
    refine NoMismatch.ite (NoMismatch.error (by simp [Error.kind])) ?_
    exact NoMismatch.ite (NoMismatch.error (by simp [Error.kind])) (NoMismatch.ok _)
  | cons c rest ih =>
    rw [splitArgs.go]
    refine NoMismatch.ite (ih _ _ _ _) (NoMismatch.ite (ih _ _ _ _) (NoMismatch.ite ?_ ?_))
    · exact NoMismatch.ite (NoMismatch.error (by simp [Error.kind])) (ih _ _ _ _)
    · exact NoMismatch.ite (ih _ _ _ _) (ih _ _ _ _)

theorem splitArgs_noMismatch (inner : List Char) : NoMismatch (splitArgs inner) :=
  splitArgs_go_noMismatch inner 0 false [] []

theorem expectArgs_noMismatch (head : String) (n : Nat) (args : List (List Char)) :
    NoMismatch (expectArgs head n args) :=
  NoMismatch.ite (NoMismatch.ok _) (NoMismatch.error (by simp [Error.kind]))

theorem numberArg_noMismatch (head : String) (max : Nat) (arg : List Char) :
    NoMismatch (numberArg head max arg) := by
  unfold numberArg
  split
  · exact NoMismatch.ok _
  · exact NoMismatch.error (by simp [Error.kind])

theorem quotedArg_noMismatch (arg : List Char) : NoMismatch (quotedArg arg) := by
  unfold quotedArg
  split
  · exact NoMismatch.ite (NoMismatch.ok _) (NoMismatch.error (by simp [Error.kind]))
  · exact NoMismatch.error (by simp [Error.kind])

theorem plain_noMismatch (s : String) : NoMismatch (plain s) := by
  unfold plain
  refine NoMismatch.ite (NoMismatch.error (by simp [Error.kind])) ?_
  split
  · exact NoMismatch.ok _
  · exact NoMismatch.error (by simp [Error.kind])

end ColumnType

theorem DecimalWidth.ofPrecision_noMismatch (precision : Nat) :
    NoMismatch (DecimalWidth.ofPrecision precision) := by
  unfold DecimalWidth.ofPrecision
  refine NoMismatch.ite (NoMismatch.error (by simp [Error.kind])) ?_
  refine NoMismatch.ite (NoMismatch.ok _) (NoMismatch.ite (NoMismatch.ok _) ?_)
  exact NoMismatch.ite (NoMismatch.ok _)
    (NoMismatch.ite (NoMismatch.ok _) (NoMismatch.error (by simp [Error.kind])))

namespace ColumnType

theorem decimalOf_noMismatch (precision scale : Nat) : NoMismatch (decimalOf precision scale) := by
  unfold decimalOf
  refine NoMismatch.bind (DecimalWidth.ofPrecision_noMismatch precision) fun _ _ => ?_
  split
  · exact NoMismatch.error (by simp [Error.kind])
  · exact NoMismatch.ok _

theorem shorthand_noMismatch (head : String) (w : DecimalWidth) (args : List (List Char)) :
    NoMismatch (parseWithin.shorthand head w args) :=
  NoMismatch.bind (expectArgs_noMismatch _ _ _) fun _ _ =>
    NoMismatch.bind (numberArg_noMismatch _ _ _) fun _ _ => decimalOf_noMismatch _ _

/-- Reading a type string fails by framing, by a number out of range or by an unsupported type,
never by a type mismatch. -/
theorem parseWithin_noMismatch (fuel : Nat) (cs : List Char) : NoMismatch (parseWithin fuel cs) := by
  induction fuel generalizing cs with
  | zero => exact NoMismatch.error (by simp [Error.kind])
  | succ fuel ih =>
    rw [parseWithin]
    split
    · exact plain_noMismatch _
    · split
      · exact NoMismatch.error (by simp [Error.kind])
      · refine NoMismatch.bind (splitArgs_noMismatch _) fun args _ => ?_
        split
        · -- `FixedString(N)`
          refine NoMismatch.bind (expectArgs_noMismatch _ _ _) fun _ _ =>
            NoMismatch.bind (numberArg_noMismatch _ _ _) fun _ _ => ?_
          exact NoMismatch.ite (NoMismatch.error (by simp [Error.kind])) (NoMismatch.ok _)
        · -- `DateTime64(S[, 'zone'])`: the arguments picked apart, then the scale read.
          extract_lets picked
          have tail : ∀ pair, NoMismatch (picked pair) := by
            intro pair
            obtain ⟨scaleArg, timezone⟩ := pair
            refine NoMismatch.bind (numberArg_noMismatch _ _ _) fun _ _ => ?_
            dsimp only
            exact NoMismatch.ite
              (NoMismatch.bind (NoMismatch.error (by simp [Error.kind])) fun _ _ => NoMismatch.ok _)
              (NoMismatch.ok _)
          split
          · exact NoMismatch.bind (NoMismatch.ok _) fun pair _ => tail pair
          · exact NoMismatch.bind (quotedArg_noMismatch _) fun _ _ =>
              NoMismatch.bind (NoMismatch.ok _) fun pair _ => tail pair
          · exact NoMismatch.bind (NoMismatch.error (by simp [Error.kind])) fun pair _ => tail pair
        · -- `Decimal(P, S)`
          exact NoMismatch.bind (expectArgs_noMismatch _ _ _) fun _ _ =>
            NoMismatch.bind (numberArg_noMismatch _ _ _) fun _ _ =>
              NoMismatch.bind (numberArg_noMismatch _ _ _) fun _ _ => decimalOf_noMismatch _ _
        · exact shorthand_noMismatch _ _ _
        · exact shorthand_noMismatch _ _ _
        · exact shorthand_noMismatch _ _ _
        · exact shorthand_noMismatch _ _ _
        · -- `Nullable(T)`: the inner type read with the rest of the budget.
          exact NoMismatch.bind (expectArgs_noMismatch _ _ _) fun _ _ =>
            NoMismatch.bind (ih _) fun _ _ =>
              NoMismatch.ite (NoMismatch.error (by simp [Error.kind])) (NoMismatch.ok _)
        · exact NoMismatch.bind (expectArgs_noMismatch _ _ _) fun _ _ =>
            NoMismatch.bind (ih _) fun _ _ => NoMismatch.ok _
        · exact NoMismatch.error (by simp [Error.kind])

theorem parse_noMismatch (s : String) : NoMismatch (parse s) :=
  parseWithin_noMismatch _ _

end ColumnType

theorem ColumnHeader.columnType_noMismatch (h : ColumnHeader) : NoMismatch h.columnType :=
  (ColumnType.parse_noMismatch h.typeName).within _

/-! ## Codecs for a type -/

theorem Zone.parse_noMismatch (name : String) : NoMismatch (Zone.parse name) := by
  unfold Zone.parse
  split
  · exact NoMismatch.ok _
  · exact NoMismatch.error (by simp [Error.kind])

namespace Codec

theorem fixedString?_noMismatch (size : Nat) : NoMismatch (fixedString? size) := by
  unfold fixedString?
  split
  · split
    · exact NoMismatch.ok _
    · exact NoMismatch.error (by simp [Error.kind])
  · exact NoMismatch.error (by simp [Error.kind])

theorem dateTime64?_noMismatch (scale : Nat) (zone : Option String) :
    NoMismatch (dateTime64? scale zone) := by
  unfold dateTime64?
  split
  · split
    · exact NoMismatch.ok _
    · split
      · split
        · exact NoMismatch.ok _
        · exact NoMismatch.error (by simp [Error.kind])
      · exact NoMismatch.error (Zone.parse_noMismatch _ _ ‹_›)
  · exact NoMismatch.error (by simp [Error.kind])

theorem decimal?_noMismatch (storage : DecimalWidth) (precision scale : Nat) :
    NoMismatch (decimal? storage precision scale) := by
  unfold decimal?
  split
  · rename_i e failed
    exact NoMismatch.error (DecimalWidth.ofPrecision_noMismatch precision e failed)
  · split
    · exact NoMismatch.error (by simp [Error.kind])
    · split
      · exact NoMismatch.ok _
      · exact NoMismatch.error (by simp [Error.kind])

/-- Building the codec of a type fails only by the checks of its parameters, or because a
wrapper has no codec of its own. -/
theorem ofColumnType_noMismatch (t : ColumnType) : NoMismatch (ofColumnType t) := by
  cases t with
  | fixedString n => exact fixedString?_noMismatch n
  | dateTime64 s tz => exact dateTime64?_noMismatch s tz
  | decimal p s =>
    exact NoMismatch.bind (DecimalWidth.ofPrecision_noMismatch p) fun _ _ => decimal?_noMismatch _ _ _
  | nullable _ | lowCardinality _ => exact NoMismatch.error (by simp [Error.kind])
  | _ => exact NoMismatch.ok _

/-! ## Measuring a column's rows -/

theorem fixedSpan_noMismatch (data : ByteArray) (rows width : Nat) :
    NoMismatch (fixedSpan data rows width) :=
  NoMismatch.ite (NoMismatch.error (by simp [Error.kind]))
    (NoMismatch.ite (NoMismatch.error (by simp [Error.kind])) (NoMismatch.ok _))

theorem textSpanFrom_noMismatch (data : ByteArray) (rows row pos : Nat) :
    NoMismatch (textSpanFrom data rows row pos) := by
  fun_induction textSpanFrom data rows row pos with
  | case1 row pos more e after failed =>
    exact NoMismatch.error_within ((Dictionary.readGroups_failsFraming data 0 0).kind_ne failed) _
  | case2 => assumption
  | case3 => exact NoMismatch.error (by simp [Error.kind])
  | case4 => exact NoMismatch.ok _

theorem span_noMismatch (c : Codec) (data : ByteArray) (rows : Nat) :
    NoMismatch (span c data rows) := by
  unfold span
  split
  · exact fixedSpan_noMismatch _ _ _
  · exact textSpanFrom_noMismatch _ _ _ _

end Codec

theorem Dictionary.decode_noMismatch (data : ByteArray) (rows : Nat) :
    NoMismatch (Dictionary.decode data rows) := by
  intro e failed
  rcases Dictionary.decode_error_cases failed with ⟨⟨m, rfl⟩, -⟩ | ⟨⟨m, rfl⟩, -⟩ | ⟨⟨m, rfl⟩, -⟩ <;>
    simp [Error.kind]

/-! ## Decoding a row -/

namespace Codec

/-- A slot fails past the end of its bytes, or as its interpretation does. -/
theorem slot_kind {α : Type} {data : ByteArray} {width pos p : Nat}
    {f : List UInt8 → Except Error α} {e : Error} (interprets : ∀ bs, NoMismatch (f bs))
    (run : slot data width f pos = .error e p) : e.kind ≠ "TypeMismatch" := by
  unfold slot at run
  split at run
  · split at run
    · cases run
    · cases run
      exact interprets _ e ‹_›
  · cases run
    simp [Error.kind]

theorem dateOfDays_noMismatch (n : Int) : NoMismatch (dateOfDays n) := by
  intro e failed
  obtain ⟨m, rfl⟩ := dateOfDays_error failed
  simp [Error.kind]

theorem slotText_noMismatch (at_ : Nat) (bs : List UInt8) : NoMismatch (slotText at_ bs) := by
  intro e failed
  rw [slotText_error failed]
  simp [Error.kind]

theorem ofTicks_noMismatch (ticks : Int) (scale : Nat) : NoMismatch (Instant.ofTicks ticks scale) := by
  intro e failed
  obtain ⟨m, rfl⟩ := ofTicks_error failed
  simp [Error.kind]

theorem decimal96OfSlot_noMismatch (w : DecimalWidth) (scale : Nat) (bs : List UInt8) :
    NoMismatch (decimal96OfSlot w scale bs) := by
  unfold decimal96OfSlot
  split
  · exact NoMismatch.ok _
  · exact NoMismatch.error (by simp [Error.kind])

theorem fixedOfSlot_noMismatch (w : DecimalWidth) (scale : Nat) (bs : List UInt8) :
    NoMismatch (fixedOfSlot w scale bs) := by
  unfold fixedOfSlot
  split
  · exact NoMismatch.ok _
  · exact NoMismatch.error (by simp [Error.kind])

/-- Decoding a row fails past the end of its bytes or on a value the type refuses, never with a
type mismatch. -/
theorem decode_kind {c : Codec} {data : ByteArray} {pos p : Nat} {e : Error}
    (run : decode c data pos = .error e p) : e.kind ≠ "TypeMismatch" := by
  -- Every codec but `String` reads a slot; each interpretation fails only as its values do.
  cases c with
  | string => exact (Dictionary.readText_failsFraming data).kind_ne run
  | fixedString n _ _ =>
    simp only [decode] at run
    exact slot_kind (slotText_noMismatch pos) run
  | date =>
    simp only [decode] at run
    exact slot_kind (fun _ => dateOfDays_noMismatch _) run
  | date32 =>
    simp only [decode] at run
    exact slot_kind (fun _ => dateOfDays_noMismatch _) run
  | dateTime64 s _ _ _ =>
    simp only [decode] at run
    exact slot_kind (fun _ => ofTicks_noMismatch _ _) run
  | decimal storage _ s _ _ =>
    cases storage with
    | d32 =>
      simp only [decode] at run
      exact slot_kind (decimal96OfSlot_noMismatch .d32 s) run
    | d64 =>
      simp only [decode] at run
      exact slot_kind (decimal96OfSlot_noMismatch .d64 s) run
    | d128 =>
      simp only [decode] at run
      exact slot_kind (fixedOfSlot_noMismatch .d128 s) run
    | d256 =>
      simp only [decode] at run
      exact slot_kind (fixedOfSlot_noMismatch .d256 s) run
  | _ =>
    simp only [decode] at run
    exact slot_kind (fun _ => NoMismatch.ok _) run

end Codec

/-! ## A cursor's answers -/

section Answers

variable {σ α : Type} {index rows : σ → Nat} {exhausted : σ → Error}
  {next : σ → Except Error α × σ}

/-- What every request answers, every answer of running the cursor out does. -/
theorem CursorRequests.forall_mem_drain (requests : CursorRequests index rows exhausted next)
    {drain : σ → List (Except Error α)}
    (drain_eq : ∀ c, drain c = if index c < rows c then (next c).1 :: drain (next c).2 else [])
    {P : Except Error α → Prop} (answers : ∀ c, P (next c).1) : ∀ c, ∀ a ∈ drain c, P a := by
  suffices ∀ n c, rows c - index c = n → ∀ a ∈ drain c, P a from fun c => this _ c rfl
  intro n
  -- On the rows left, which every request on a row left lowers.
  induction n using Nat.strong_induction_on with
  | _ n ih =>
    intro c left a mem
    rw [drain_eq c] at mem
    by_cases more : index c < rows c
    · rw [if_pos more] at mem
      rcases List.mem_cons.mp mem with rfl | later
      · exact answers c
      · have kept := requests.rows_next c
        have moved : index c < index (next c).2 := by
          cases answer : (next c).1 with
          | ok b => rw [requests.index_ok c b answer]; omega
          | error e => rw [requests.index_error c e more answer]; omega
        exact ih _ (by omega) (next c).2 rfl a later
    · rw [if_neg more] at mem
      cases mem

end Answers

namespace ValueCursor

variable {codec : Codec}

theorem next_noMismatch (c : ValueCursor codec) : NoMismatch c.next.1 := by
  unfold next
  dsimp only
  split
  · exact NoMismatch.error (by simp [exhausted, Error.kind])
  · split
    · split
      · exact NoMismatch.error_within (by simp [Error.kind]) _
      · exact NoMismatch.ok _
    · exact NoMismatch.error_within (Codec.decode_kind ‹_›) _

theorem drain_noMismatch (c : ValueCursor codec) : ∀ a ∈ c.drain, NoMismatch a :=
  requests.forall_mem_drain drain_eq next_noMismatch c

end ValueCursor

namespace NullableCursor

variable {codec : Codec}

theorem next_noMismatch (c : NullableCursor codec) : NoMismatch c.next.1 := by
  unfold next
  dsimp only
  split
  · exact NoMismatch.error (by simp [exhausted, Error.kind])
  · split
    · rename_i e failed
      refine NoMismatch.error_within ?_ _
      unfold isNull at failed
      split at failed
      · cases failed
      · cases failed
        simp [Error.kind]
    · split
      · exact NoMismatch.ok _
      · exact NoMismatch.error_within (Codec.decode_kind ‹_›) _

theorem drain_noMismatch (c : NullableCursor codec) : ∀ a ∈ c.drain, NoMismatch a :=
  requests.forall_mem_drain drain_eq next_noMismatch c

end NullableCursor

namespace DictionaryCursor

theorem next_noMismatch (c : DictionaryCursor) : NoMismatch c.next.1 := by
  unfold next
  dsimp only
  split
  · exact NoMismatch.error (by simp [exhausted, Error.kind])
  · split
    · exact NoMismatch.ok _
    · rename_i e failed
      refine NoMismatch.error_within ?_ _
      split at failed
      · cases failed
        simp [Error.kind]
      · split at failed
        · cases failed
        · cases failed
          simp [Error.kind]

theorem drain_noMismatch (c : DictionaryCursor) : ∀ a ∈ c.drain, NoMismatch a :=
  requests.forall_mem_drain drain_eq next_noMismatch c

end DictionaryCursor

/-! ## Taking a column of the declared type -/

namespace BlockReader

variable {r : BlockReader}

/-- A column whose declared type reads as the type asked for opens, or fails as reading its header
does. -/
theorem openColumn_noMismatch {expected : ColumnType}
    (declares : ∀ h start, r.readHeader = .ok (h, start) →
      ColumnType.parse h.typeName = .ok expected) :
    NoMismatch (r.openColumn expected) := by
  cases read : r.readHeader with
  | error e =>
    rw [openColumn_error read]
    exact NoMismatch.error (readHeader_noMismatch r e read)
  | ok found =>
    obtain ⟨h, start⟩ := found
    rw [openColumn_of_header read, if_pos (.inr (declares h start read))]
    exact NoMismatch.ok _

theorem nextColumn_noMismatch {c : Codec}
    (declares : ∀ h start, r.readHeader = .ok (h, start) →
      ColumnType.parse h.typeName = .ok c.columnType) :
    NoMismatch (r.nextColumn c) := by
  rw [nextColumn_eq]
  refine NoMismatch.bind (openColumn_noMismatch declares) fun opened _ => ?_
  exact NoMismatch.bind ((Codec.span_noMismatch _ _ _).within _) fun _ _ => NoMismatch.ok _

theorem nextNullable_noMismatch {c : Codec}
    (declares : ∀ h start, r.readHeader = .ok (h, start) →
      ColumnType.parse h.typeName = .ok (.nullable c.columnType)) :
    NoMismatch (r.nextNullable c) := by
  rw [nextNullable_eq]
  refine NoMismatch.bind (openColumn_noMismatch declares) fun opened _ => ?_
  have measured :=
    NoMismatch.bind (Codec.fixedSpan_noMismatch (r.tail opened.2) r.rows 1) fun mask _ =>
      NoMismatch.bind
        (Codec.span_noMismatch c ((r.tail opened.2).extract mask (r.tail opened.2).size) r.rows)
        fun values _ => NoMismatch.ok (mask, values)
  exact NoMismatch.bind (measured.within _) fun _ _ => NoMismatch.ok _

theorem nextDictionary_noMismatch
    (declares : ∀ h start, r.readHeader = .ok (h, start) →
      ColumnType.parse h.typeName = .ok (.lowCardinality .string)) :
    NoMismatch r.nextDictionary := by
  rw [nextDictionary_eq]
  refine NoMismatch.bind (openColumn_noMismatch declares) fun opened _ => ?_
  exact NoMismatch.bind ((Dictionary.decode_noMismatch _ _).within _) fun _ _ => NoMismatch.ok _

end BlockReader

end NativeBlock
