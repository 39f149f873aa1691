import NativeBlock.Block.Cursor
import NativeBlock.Proofs.Framing

/-!
# One protocol for every cursor

The three cursors read their rows differently, but a request does the same to each
(`CursorRequests`): once every row is out it fails with the column's bounds error and changes
nothing; while rows are left it keeps the row count and either hands out the row and moves the
index on by one, or fails and moves the index to the end. The iterator's step (`iterStep`)
answers only while rows are left.

Everything a caller sees through any sequence of requests follows from that alone
(`CursorProtocol`, by `CursorRequests.protocol`): the index never goes back nor past the row
count, the first failure ends the column, after which every request fails with the bounds error
and the iterator gives nothing; running the iterator out yields rows handed out followed by at
most one failure, and exactly the rows left, all handed out, when none fails, so the size hint is
exact.

Main statement: `cursors_keep_one_protocol`. All three cursors keep the protocol, and a nullable
cursor reads the value under every row from its values, null or not, and hands out a null exactly
for a row whose mask byte is not zero.
-/

namespace NativeBlock

section Protocol

variable {σ α : Type} {index rows : σ → Nat} {exhausted : σ → Error}
  {next : σ → Except Error α × σ}

/-- What one request does to a cursor with `index` of `rows` rows handed out, whatever its rows
hold. Once every row is out it fails with the column's `exhausted` error and changes nothing.
Otherwise it keeps the row count and the column, and hands out the row and moves on by one, or
fails and moves to the end. -/
structure CursorRequests (index rows : σ → Nat) (exhausted : σ → Error)
    (next : σ → Except Error α × σ) : Prop where
  at_end : ∀ c, rows c ≤ index c → next c = (.error (exhausted c), c)
  rows_next : ∀ c, rows (next c).2 = rows c
  exhausted_next : ∀ c, exhausted (next c).2 = exhausted c
  index_ok : ∀ c a, (next c).1 = .ok a → index (next c).2 = index c + 1
  index_error : ∀ c e, index c < rows c → (next c).1 = .error e → index (next c).2 = rows c

/-- The protocol a cursor keeps through any sequence of requests: `next` hands out a row,
`remaining` counts the rows left, `next?` is the iterator's step, `sizeHint` its count of the
items to come, and `drain` runs the iterator out. -/
structure CursorProtocol (index rows : σ → Nat) (exhausted : σ → Error)
    (next : σ → Except Error α × σ) (remaining : σ → Nat)
    (next? : σ → Option (Except Error α) × σ) (sizeHint : σ → Nat × Option Nat)
    (drain : σ → List (Except Error α)) : Prop where
  /-- The iterator's step moves the cursor as a request does, so `k` requests of either kind
  leave it at the `k`-th iterate of `next`. -/
  next?_snd : ∀ c, (next? c).2 = (next c).2
  /-- A request never moves the index back... -/
  index_le_next : ∀ c, index c ≤ index (next c).2
  /-- ...and any number of them keep the row count, and the index within it. -/
  iterate_le : ∀ c k, index c ≤ rows c →
    rows ((fun c => (next c).2)^[k] c) = rows c ∧ index ((fun c => (next c).2)^[k] c) ≤ rows c
  /-- A row handed out moves the index on by exactly one. -/
  index_ok : ∀ c a, (next c).1 = .ok a → index (next c).2 = index c + 1
  /-- A failure moves the index to the end. From there on, whatever is asked, every request
  fails with the column's bounds error and the iterator gives nothing. -/
  after_error : ∀ c e k, index c ≤ rows c → (next c).1 = .error e →
    let d := (fun c => (next c).2)^[k] (next c).2
    index d = rows c ∧ next d = (.error (exhausted c), d) ∧ next? d = (none, d) ∧
      (exhausted c).kind = "Bounds"
  /-- Running the iterator out yields the items of its steps until it gives nothing... -/
  drain_next? : ∀ c, ((next? c).1 = none ∧ drain c = []) ∨
    ∃ a, (next? c).1 = some a ∧ drain c = a :: drain (next? c).2
  /-- The rows left are those not yet handed out... -/
  remaining_eq : ∀ c, remaining c = rows c - index c
  /-- ...and running the iterator out yields rows handed out, then at most one failure: exactly
  the rows left when none fails, fewer before a failure. -/
  drain_shape : ∀ c, ∃ vs : List α, (drain c = vs.map .ok ∧ vs.length = remaining c) ∨
    ∃ e, drain c = vs.map .ok ++ [.error e] ∧ vs.length < remaining c
  /-- The size hint is the rows left, as lower and as upper bound. -/
  sizeHint_eq : ∀ c, sizeHint c = (remaining c, some (remaining c))

namespace CursorRequests

/-- A request whose every outcome is one the protocol allows keeps the rules of requests. -/
theorem of_outcomes
    (outcomes : ∀ c, (rows c ≤ index c ∧ next c = (.error (exhausted c), c)) ∨
      (index c < rows c ∧ rows (next c).2 = rows c ∧ exhausted (next c).2 = exhausted c ∧
        ((∃ a, (next c).1 = .ok a ∧ index (next c).2 = index c + 1) ∨
          ∃ e, (next c).1 = .error e ∧ index (next c).2 = rows c))) :
    CursorRequests index rows exhausted next where
  at_end c out := by
    rcases outcomes c with ⟨-, same⟩ | ⟨more, -⟩
    · exact same
    · exact absurd more (Nat.not_lt.mpr out)
  rows_next c := by
    rcases outcomes c with ⟨-, same⟩ | ⟨-, kept, -⟩
    · rw [same]
    · exact kept
  exhausted_next c := by
    rcases outcomes c with ⟨-, same⟩ | ⟨-, -, kept, -⟩
    · rw [same]
    · exact kept
  index_ok c a answered := by
    rcases outcomes c with ⟨-, same⟩ | ⟨-, -, -, ⟨a', -, moved⟩ | ⟨e, failed, -⟩⟩
    · rw [same] at answered
      cases answered
    · exact moved
    · rw [failed] at answered
      cases answered
  index_error c e more failed := by
    rcases outcomes c with ⟨out, -⟩ | ⟨-, -, -, ⟨a, answered, -⟩ | ⟨e', -, ended⟩⟩
    · exact absurd more (Nat.not_lt.mpr out)
    · rw [answered] at failed
      cases failed
    · exact ended

variable (requests : CursorRequests index rows exhausted next)
include requests

/-- Once every row is out a request leaves the cursor as it is. -/
theorem step_of_le {c : σ} (out : rows c ≤ index c) : (next c).2 = c := by
  rw [requests.at_end c out]

/-- Once every row is out any number of requests leave the cursor as it is. -/
theorem iterate_of_le {c : σ} (out : rows c ≤ index c) (k : Nat) :
    (fun c => (next c).2)^[k] c = c :=
  Function.iterate_fixed (requests.step_of_le out) k

theorem index_le_next (c : σ) : index c ≤ index (next c).2 := by
  by_cases more : index c < rows c
  · cases answer : (next c).1 with
    | ok a =>
      rw [requests.index_ok c a answer]
      exact Nat.le_succ _
    | error e =>
      rw [requests.index_error c e more answer]
      exact Nat.le_of_lt more
  · rw [requests.step_of_le (Nat.le_of_not_lt more)]

theorem index_next_le (c : σ) (inside : index c ≤ rows c) : index (next c).2 ≤ rows c := by
  by_cases more : index c < rows c
  · cases answer : (next c).1 with
    | ok a =>
      rw [requests.index_ok c a answer]
      exact more
    | error e => rw [requests.index_error c e more answer]
  · rw [requests.step_of_le (Nat.le_of_not_lt more)]
    exact inside

/-- Any number of requests keep the row count, and the index within it. -/
theorem iterate_le (c : σ) (k : Nat) (inside : index c ≤ rows c) :
    rows ((fun c => (next c).2)^[k] c) = rows c ∧ index ((fun c => (next c).2)^[k] c) ≤ rows c := by
  induction k with
  | zero => exact ⟨rfl, inside⟩
  | succ k ih =>
    obtain ⟨same, within⟩ := ih
    rw [Function.iterate_succ_apply', requests.rows_next, same]
    have moved := requests.index_next_le _ (by rw [same]; exact within)
    rw [same] at moved
    exact ⟨rfl, moved⟩

/-- A failure, the first or one at the end, leaves the index at the end. -/
theorem index_of_error {c : σ} {e : Error} (inside : index c ≤ rows c)
    (failed : (next c).1 = .error e) : index (next c).2 = rows c := by
  by_cases more : index c < rows c
  · exact requests.index_error c e more failed
  · rw [requests.step_of_le (Nat.le_of_not_lt more)]
    omega

/-- Running the iterator out from a cursor with `n` rows left yields rows handed out, then at
most one failure: `n` rows when none fails. -/
theorem drain_shape {drain : σ → List (Except Error α)}
    (drain_eq : ∀ c, drain c = if index c < rows c then (next c).1 :: drain (next c).2 else []) :
    ∀ n c, rows c - index c = n → ∃ vs : List α, (drain c = vs.map .ok ∧ vs.length = n) ∨
      ∃ e, drain c = vs.map .ok ++ [.error e] ∧ vs.length < n := by
  intro n
  -- On the rows left, which a request that hands out a row lowers by one.
  induction n using Nat.strong_induction_on with
  | _ n ih =>
    intro c left
    rw [drain_eq c]
    by_cases more : index c < rows c
    · rw [if_pos more]
      have kept := requests.rows_next c
      cases answer : (next c).1 with
      | ok a =>
        have moved := requests.index_ok c a answer
        obtain ⟨vs, ⟨rest, counted⟩ | ⟨e, rest, counted⟩⟩ :=
          ih (n - 1) (by omega) (next c).2 (by omega)
        · exact ⟨a :: vs, .inl ⟨by rw [rest]; rfl, by rw [List.length_cons]; omega⟩⟩
        · exact ⟨a :: vs, .inr ⟨e, by rw [rest]; rfl, by rw [List.length_cons]; omega⟩⟩
      | error e =>
        have ended := requests.index_error c e more answer
        have empty : drain (next c).2 = [] := by
          rw [drain_eq, if_neg (by omega)]
        exact ⟨[], .inr ⟨e, by rw [empty]; rfl, by rw [List.length_nil]; omega⟩⟩
    · rw [if_neg more]
      exact ⟨[], .inl ⟨rfl, by rw [List.length_nil]; omega⟩⟩

/-- A cursor whose requests keep the rules keeps the protocol, with the iterator's step and size
hint every cursor has and the run of the iterator by its own equation. -/
theorem protocol {remaining : σ → Nat} {next? : σ → Option (Except Error α) × σ}
    {sizeHint : σ → Nat × Option Nat} {drain : σ → List (Except Error α)}
    (bounds : ∀ c, ∃ m, exhausted c = .bounds m) (remaining_eq : ∀ c, remaining c = rows c - index c)
    (next?_eq : ∀ c, next? c = iterStep index rows next c)
    (hint_eq : ∀ c, sizeHint c = exactHint (remaining c))
    (drain_eq : ∀ c, drain c = if index c < rows c then (next c).1 :: drain (next c).2 else []) :
    CursorProtocol index rows exhausted next remaining next? sizeHint drain where
  next?_snd c := by
    rw [next?_eq]
    unfold iterStep
    by_cases more : index c < rows c
    · rw [if_pos more]
    · rw [if_neg more, requests.step_of_le (Nat.le_of_not_lt more)]
  index_le_next := requests.index_le_next
  iterate_le := requests.iterate_le
  index_ok := requests.index_ok
  after_error c e k inside failed := by
    have ended := requests.index_of_error inside failed
    have out : rows (next c).2 ≤ index (next c).2 := by
      rw [requests.rows_next, ended]
    obtain ⟨m, bounded⟩ := bounds c
    dsimp only
    rw [requests.iterate_of_le out k]
    refine ⟨ended, ?_, ?_, by rw [bounded]; rfl⟩
    · rw [requests.at_end _ out, requests.exhausted_next]
    · rw [next?_eq]
      unfold iterStep
      rw [if_neg (Nat.not_lt.mpr out)]
  drain_next? c := by
    rw [next?_eq, drain_eq c]
    unfold iterStep
    by_cases more : index c < rows c
    · rw [if_pos more, if_pos more]
      exact .inr ⟨_, rfl, rfl⟩
    · rw [if_neg more, if_neg more]
      exact .inl ⟨rfl, rfl⟩
  remaining_eq := remaining_eq
  drain_shape c := requests.drain_shape drain_eq _ c (remaining_eq c).symm
  sizeHint_eq c := hint_eq c

end CursorRequests

end Protocol

/-! ## The three cursors -/

namespace ValueCursor

variable {codec : Codec}

/-- A request at the end fails and changes nothing; one on a row left reads the row and moves on
by one, or fails and ends the column, the last row's check that every byte was used included. -/
theorem requests : CursorRequests (fun c : ValueCursor codec => c.index) (fun c => c.rows)
    (fun c => exhausted c.name c.rows) (fun c => c.next) := by
  refine CursorRequests.of_outcomes fun c => ?_
  by_cases out : c.rows ≤ c.index
  · exact .inl ⟨out, by simp only [next, if_pos out]⟩
  · refine .inr ⟨Nat.lt_of_not_le out, ?_⟩
    unfold next
    simp only [if_neg out]
    split
    · split
      · exact ⟨rfl, rfl, .inr ⟨_, rfl, rfl⟩⟩
      · exact ⟨rfl, rfl, .inl ⟨_, rfl, rfl⟩⟩
    · exact ⟨rfl, rfl, .inr ⟨_, rfl, rfl⟩⟩

theorem drain_eq (c : ValueCursor codec) :
    c.drain = if c.index < c.rows then c.next.1 :: c.next.2.drain else [] := by
  rw [drain]

theorem protocol : CursorProtocol (fun c : ValueCursor codec => c.index) (fun c => c.rows)
    (fun c => exhausted c.name c.rows) (fun c => c.next) (fun c => c.remaining)
    (fun c => c.next?) (fun c => c.sizeHint) (fun c => c.drain) :=
  requests.protocol (fun _ => ⟨_, rfl⟩) (fun _ => rfl) (fun _ => rfl) (fun _ => rfl) drain_eq

end ValueCursor

namespace NullableCursor

variable {codec : Codec}

/-- A request at the end fails and changes nothing; one on a row left reads its mask byte and the
value under it and moves on by one, or fails on either and ends the column. -/
theorem requests : CursorRequests (fun c : NullableCursor codec => c.index) (fun c => c.rows)
    (fun c => exhausted c.name c.rows) (fun c => c.next) := by
  refine CursorRequests.of_outcomes fun c => ?_
  by_cases out : c.rows ≤ c.index
  · exact .inl ⟨out, by simp only [next, if_pos out]⟩
  · refine .inr ⟨Nat.lt_of_not_le out, ?_⟩
    unfold next
    simp only [if_neg out]
    split
    · exact ⟨rfl, rfl, .inr ⟨_, rfl, rfl⟩⟩
    · split
      · exact ⟨rfl, rfl, .inl ⟨_, rfl, rfl⟩⟩
      · exact ⟨rfl, rfl, .inr ⟨_, rfl, rfl⟩⟩

theorem drain_eq (c : NullableCursor codec) :
    c.drain = if c.index < c.rows then c.next.1 :: c.next.2.drain else [] := by
  rw [drain]

theorem protocol : CursorProtocol (fun c : NullableCursor codec => c.index) (fun c => c.rows)
    (fun c => exhausted c.name c.rows) (fun c => c.next) (fun c => c.remaining)
    (fun c => c.next?) (fun c => c.sizeHint) (fun c => c.drain) :=
  requests.protocol (fun _ => ⟨_, rfl⟩) (fun _ => rfl) (fun _ => rfl) (fun _ => rfl) drain_eq

/-- A row a nullable cursor hands out was read from the values whatever its mask byte, so the
position moved past the value under it, a null's placeholder included; the row is a null
exactly when its mask byte is not zero. -/
theorem next_ok {c : NullableCursor codec} {o : Option codec.Value} (answered : c.next.1 = .ok o) :
    ∃ b v, c.mask[c.index]? = some b ∧ Codec.decode codec c.values c.pos = .ok v c.next.2.pos ∧
      o = if b = 0 then some v else none := by
  by_cases out : c.rows ≤ c.index
  · simp only [next, if_pos out] at answered
    cases answered
  · unfold next at answered ⊢
    simp only [if_neg out] at answered ⊢
    unfold isNull at answered ⊢
    cases byte : c.mask[c.index]? with
    | none =>
      simp only [byte] at answered
      cases answered
    | some b =>
      simp only [byte] at answered ⊢
      cases decoded : Codec.decode codec c.values c.pos with
      | error e p =>
        simp only [decoded] at answered
        cases answered
      | ok v p =>
        simp only [decoded, Except.ok.injEq] at answered ⊢
        refine ⟨b, v, rfl, rfl, ?_⟩
        rw [← answered]
        by_cases zero : b = 0 <;> simp [zero]

end NullableCursor

namespace DictionaryCursor

/-- A request at the end fails and changes nothing; one on a row left looks its key up and moves
on by one, or fails and ends the column. -/
theorem requests : CursorRequests (fun c : DictionaryCursor => c.index) (fun c => c.rows)
    (fun c => exhausted c.name c.rows) (fun c => c.next) := by
  refine CursorRequests.of_outcomes fun c => ?_
  by_cases out : c.rows ≤ c.index
  · exact .inl ⟨out, by simp only [next, if_pos out]⟩
  · refine .inr ⟨Nat.lt_of_not_le out, ?_⟩
    unfold next
    simp only [if_neg out]
    split
    · exact ⟨rfl, rfl, .inl ⟨_, rfl, rfl⟩⟩
    · exact ⟨rfl, rfl, .inr ⟨_, rfl, rfl⟩⟩

theorem drain_eq (c : DictionaryCursor) :
    c.drain = if c.index < c.rows then c.next.1 :: c.next.2.drain else [] := by
  rw [drain]

theorem protocol : CursorProtocol (fun c : DictionaryCursor => c.index) (fun c => c.rows)
    (fun c => exhausted c.name c.rows) (fun c => c.next) (fun c => c.remaining)
    (fun c => c.next?) (fun c => c.sizeHint) (fun c => c.drain) :=
  requests.protocol (fun _ => ⟨_, rfl⟩) (fun _ => rfl) (fun _ => rfl) (fun _ => rfl) drain_eq

end DictionaryCursor

/-- Value, nullable and dictionary cursors keep one protocol through any sequence of requests and
iterator steps: the index never goes back nor past the row count, a row handed out moves it on by
one, the first failure moves it to the end, after which every request fails with the column's
bounds error and the iterator gives nothing. Running the iterator out yields rows handed out and
at most one failure after them, exactly the rows left when none fails, which the size hint gives
as both bounds. A nullable cursor reads the value under every row it hands out, null or not, and
the row is a null exactly when its mask byte is not zero. -/
theorem cursors_keep_one_protocol :
    (∀ codec : Codec, CursorProtocol (fun c : ValueCursor codec => c.index) (fun c => c.rows)
      (fun c => exhausted c.name c.rows) (fun c => c.next) (fun c => c.remaining)
      (fun c => c.next?) (fun c => c.sizeHint) (fun c => c.drain)) ∧
    (∀ codec : Codec, CursorProtocol (fun c : NullableCursor codec => c.index) (fun c => c.rows)
      (fun c => exhausted c.name c.rows) (fun c => c.next) (fun c => c.remaining)
      (fun c => c.next?) (fun c => c.sizeHint) (fun c => c.drain)) ∧
    CursorProtocol (fun c : DictionaryCursor => c.index) (fun c => c.rows)
      (fun c => exhausted c.name c.rows) (fun c => c.next) (fun c => c.remaining)
      (fun c => c.next?) (fun c => c.sizeHint) (fun c => c.drain) ∧
    (∀ (codec : Codec) (c : NullableCursor codec) o, c.next.1 = .ok o →
      ∃ b v, c.mask[c.index]? = some b ∧ Codec.decode codec c.values c.pos = .ok v c.next.2.pos ∧
        o = if b = 0 then some v else none) :=
  ⟨fun _ => ValueCursor.protocol, fun _ => NullableCursor.protocol, DictionaryCursor.protocol,
    fun _ _ _ answered => NullableCursor.next_ok answered⟩

end NativeBlock
