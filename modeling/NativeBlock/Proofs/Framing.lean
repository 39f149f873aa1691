import Mathlib
import NativeBlock.Error

/-!
# Framed readers

Everything that reads a block walks a byte buffer from a position. A reader is *framed* when a
successful run from `pos` to `stop` has looked at no byte at or beyond `stop`: any buffer that
holds the same bytes below `stop` gives the same answer, and a buffer that ends between `pos`
and `stop` makes the reader fail. Framing is what makes a block self-delimiting: appending bytes
changes nothing that was read, and cutting a block short makes some read fail.

* `AgreeBelow n data data'`: `data'` holds the bytes of `data` at every index below `n` that it
  has. Prefixes (`agreeBelow_extract`) and extensions (`agreeBelow_append`) agree.
* `Placed data pos bytes`: `bytes` stand in `data` from `pos` on; the round trips of the format
  are stated for encoded bytes placed anywhere in a buffer.
* `Framed read`, with `Framed.bind`: a reader that runs framed readers one after another is
  framed.
-/

namespace NativeBlock

/-! ## Buffers that agree below a bound -/

/-- `data'` holds the bytes of `data` at every index below `n` that `data'` has. -/
def AgreeBelow (n : Nat) (data data' : ByteArray) : Prop :=
  ∀ i, i < n → i < data'.size → data'[i]? = data[i]?

theorem getElem?_append_left {a b : ByteArray} {i : Nat} (h : i < a.size) :
    (a ++ b)[i]? = a[i]? := by
  have size : i < (a ++ b).size := by
    rw [ByteArray.size_append]
    omega
  rw [getElem?_pos (a ++ b) i size, getElem?_pos a i h, ByteArray.getElem_append_left h]

theorem getElem?_extract {data : ByteArray} {start stop i : Nat}
    (h : i < (data.extract start stop).size) :
    (data.extract start stop)[i]? = data[start + i]? := by
  rw [getElem?_pos _ i h, getElem?_pos data (start + i) (ByteArray.getElem_extract_aux h),
    ByteArray.getElem_extract]

namespace AgreeBelow

theorem refl (n : Nat) (data : ByteArray) : AgreeBelow n data data :=
  fun _ _ _ => rfl

theorem mono {n m : Nat} {data data' : ByteArray} (agree : AgreeBelow n data data')
    (le : m ≤ n) : AgreeBelow m data data' :=
  fun i lt size => agree i (Nat.lt_of_lt_of_le lt le) size

/-- Two buffers that agree below `n` and both reach `stop ≤ n` hold the same bytes there. -/
theorem extract_eq {n start stop : Nat} {data data' : ByteArray} (agree : AgreeBelow n data data')
    (le : stop ≤ n) (reach : stop ≤ data.size) (reach' : stop ≤ data'.size) :
    data'.extract start stop = data.extract start stop := by
  apply ByteArray.ext_getElem
  · simp only [ByteArray.size_extract]
    omega
  · intro i lt lt'
    have inside : start + i < stop := by
      simp only [ByteArray.size_extract] at lt
      omega
    have same := agree (start + i) (by omega) (by omega)
    rw [← getElem?_extract lt, ← getElem?_extract lt'] at same
    rw [getElem?_pos _ i lt, getElem?_pos _ i lt'] at same
    exact Option.some.inj same

/-- Dropping the same number of bytes from both buffers keeps them agreeing, below the bound
moved down by as much. -/
theorem drop {n : Nat} {data data' : ByteArray} (agree : AgreeBelow n data data') (start : Nat) :
    AgreeBelow (n - start) (data.extract start data.size) (data'.extract start data'.size) := by
  intro i lt size
  rw [getElem?_extract size, agree (start + i) (by omega) (by
    simp only [ByteArray.size_extract] at size
    omega)]
  by_cases inside : start + i < data.size
  · have size' : i < (data.extract start data.size).size := by
      simp only [ByteArray.size_extract]
      omega
    rw [getElem?_extract size']
  · have size' : ¬ i < (data.extract start data.size).size := by
      simp only [ByteArray.size_extract]
      omega
    rw [getElem?_neg data (start + i) inside, getElem?_neg _ i size']

end AgreeBelow

/-- A buffer agrees with every extension of it, below its own size. -/
theorem agreeBelow_append {n : Nat} {data : ByteArray} (extra : ByteArray) (le : n ≤ data.size) :
    AgreeBelow n data (data ++ extra) :=
  fun _ lt _ => getElem?_append_left (Nat.lt_of_lt_of_le lt le)

/-- A prefix of a buffer agrees with it below every bound. -/
theorem agreeBelow_extract (n k : Nat) (data : ByteArray) :
    AgreeBelow n data (data.extract 0 k) := by
  intro i _ size
  rw [getElem?_extract size, Nat.zero_add]

/-! ## Bytes as lists -/

theorem toList_loop_eq (bs : ByteArray) (i : Nat) (r : List UInt8) :
    ByteArray.toList.loop bs i r = r.reverse ++ bs.data.toList.drop i := by
  fun_induction ByteArray.toList.loop bs i r with
  | case1 i r lt ih =>
    have split := List.drop_eq_getElem_cons (show i < bs.data.toList.length by simpa using lt)
    have inside : i < bs.data.size := lt
    rw [ih, split]
    simp [ByteArray.get!, getElem!_pos bs.data i inside]
  | case2 i r ge =>
    have past : bs.data.toList.length ≤ i := by
      simpa using Nat.le_of_not_lt ge
    rw [List.drop_eq_nil_of_le past, List.append_nil]

theorem toList_eq_data_toList (bs : ByteArray) : bs.toList = bs.data.toList := by
  simp [ByteArray.toList, toList_loop_eq]

@[simp] theorem toList_toByteArray (l : List UInt8) : l.toByteArray.toList = l := by
  rw [toList_eq_data_toList, List.toList_data_toByteArray]

@[simp] theorem toList_empty : ByteArray.empty.toList = [] := by
  rw [toList_eq_data_toList]
  rfl

@[simp] theorem toByteArray_toList (b : ByteArray) : b.toList.toByteArray = b := by
  apply ByteArray.ext
  apply Array.toList_inj.mp
  rw [List.toList_data_toByteArray, toList_eq_data_toList]

theorem eq_of_toList_eq {a b : ByteArray} (same : a.toList = b.toList) : a = b := by
  rw [← toByteArray_toList a, same, toByteArray_toList]

@[simp] theorem toList_byteArray_append (a b : ByteArray) : (a ++ b).toList = a.toList ++ b.toList := by
  rw [toList_eq_data_toList, toList_eq_data_toList, toList_eq_data_toList,
    ByteArray.toList_data_append]

/-! ## Bytes placed in a buffer -/

/-- `bytes` stand in `data` from `pos` on. -/
def Placed (data : ByteArray) (pos : Nat) (bytes : ByteArray) : Prop :=
  pos + bytes.size ≤ data.size ∧ data.extract pos (pos + bytes.size) = bytes

namespace Placed

theorem getElem? {data bytes : ByteArray} {pos i : Nat} (placed : Placed data pos bytes)
    (lt : i < bytes.size) : data[pos + i]? = bytes[i]? := by
  have lt' : i < (data.extract pos (pos + bytes.size)).size := by
    rw [placed.2]
    exact lt
  rw [← getElem?_extract lt', placed.2]

/-- The first part of placed bytes is placed at the same position. -/
theorem left {data a b : ByteArray} {pos : Nat} (placed : Placed data pos (a ++ b)) :
    Placed data pos a := by
  obtain ⟨reach, same⟩ := placed
  rw [ByteArray.size_append] at reach
  rw [ByteArray.size_append, ← Nat.add_assoc,
    ByteArray.extract_eq_extract_append_extract (pos + a.size) (by omega) (by omega)] at same
  exact ⟨by omega, ByteArray.append_inj_left same (by simp only [ByteArray.size_extract]; omega)⟩

/-- The second part of placed bytes is placed after the first. -/
theorem right {data a b : ByteArray} {pos : Nat} (placed : Placed data pos (a ++ b)) :
    Placed data (pos + a.size) b := by
  have first := placed.left.2
  obtain ⟨reach, same⟩ := placed
  rw [ByteArray.size_append] at reach
  rw [ByteArray.size_append, ← Nat.add_assoc,
    ByteArray.extract_eq_extract_append_extract (pos + a.size) (by omega) (by omega), first]
    at same
  exact ⟨by omega, (ByteArray.append_right_inj a).mp same⟩

/-- Bytes between a prefix and a suffix are placed after the prefix. -/
theorem middle (pre bytes post : ByteArray) : Placed (pre ++ bytes ++ post) pre.size bytes := by
  refine ⟨by simp only [ByteArray.size_append]; omega, ?_⟩
  rw [ByteArray.append_assoc, ByteArray.extract_append, Nat.sub_self, Nat.add_sub_cancel_left,
    ByteArray.extract_append_eq_left rfl]
  have empty : pre.extract pre.size (pre.size + bytes.size) = ByteArray.empty := by
    rw [ByteArray.extract_eq_empty_iff]
    omega
  rw [empty, ByteArray.empty_append]

/-- Placed bytes of a known size: they fit and the buffer's bytes there are them. -/
theorem sized {data bytes : ByteArray} {pos n : Nat} (placed : Placed data pos bytes)
    (size : bytes.size = n) : pos + n ≤ data.size ∧ data.extract pos (pos + n) = bytes :=
  size ▸ placed

/-- Bytes placed in a buffer stay placed behind anything written before the buffer. -/
theorem after (a : ByteArray) {b c : ByteArray} {pos : Nat} (placed : Placed b pos c) :
    Placed (a ++ b) (a.size + pos) c := by
  refine ⟨by rw [ByteArray.size_append]; have := placed.1; omega, ?_⟩
  rw [Nat.add_assoc, ByteArray.extract_append_size_add]
  exact placed.2

/-- Bytes at the front of a buffer are placed at its start. -/
theorem front (bytes post : ByteArray) : Placed (bytes ++ post) 0 bytes := by
  simpa using middle ByteArray.empty bytes post

end Placed

/-! ## Framed readers -/

section EStateM

variable {ε σ α β : Type}

theorem bind_apply (x : EStateM ε σ α) (f : α → EStateM ε σ β) (s : σ) :
    (x >>= f) s = match x s with
      | .ok a t => f a t
      | .error e t => .error e t := rfl

theorem bind_ok_of_ok {x : EStateM ε σ α} {f : α → EStateM ε σ β} {s t : σ} {a : α}
    (first : x s = .ok a t) : (x >>= f) s = f a t := by
  rw [bind_apply, first]

theorem bind_error_of_error {x : EStateM ε σ α} {f : α → EStateM ε σ β} {s t : σ} {e : ε}
    (first : x s = .error e t) : (x >>= f) s = .error e t := by
  rw [bind_apply, first]

@[simp] theorem get_apply (s : σ) : (get : EStateM ε σ σ) s = .ok s s := rfl

@[simp] theorem set_apply (s t : σ) : (set t : EStateM ε σ PUnit) s = .ok .unit t := rfl

@[simp] theorem pure_apply (a : α) (s : σ) : (pure a : EStateM ε σ α) s = .ok a s := rfl

@[simp] theorem throw_apply (e : ε) (s : σ) : (throw e : EStateM ε σ α) s = .error e s := rfl

@[simp] theorem throw_bind_eq (e : ε) (f : α → EStateM ε σ β) :
    (throw e >>= f : EStateM ε σ β) = throw e := rfl

/-- A sequence succeeds only when its first reader does, and the rest succeeds after it. -/
theorem bind_eq_ok {x : EStateM ε σ α} {f : α → EStateM ε σ β} {s u : σ} {b : β}
    (run : (x >>= f) s = .ok b u) : ∃ a t, x s = .ok a t ∧ f a t = .ok b u := by
  rw [bind_apply] at run
  split at run
  · exact ⟨_, _, ‹_›, run⟩
  · cases run

/-- A computation that may fail succeeds in sequence only when each of its parts does. -/
theorem except_bind_eq_ok {x : Except ε α} {f : α → Except ε β} {b : β}
    (run : (x >>= f) = .ok b) : ∃ a, x = .ok a ∧ f a = .ok b := by
  cases x with
  | error e => cases run
  | ok a => exact ⟨a, rfl, run⟩

/-- A computation whose answer is mapped succeeds only when the computation does. -/
theorem except_map_eq_ok {x : Except ε α} {f : α → β} {b : β} (run : x.map f = .ok b) :
    ∃ a, x = .ok a ∧ f a = b := by
  cases x with
  | error e => cases run
  | ok a => exact ⟨a, rfl, Except.ok.inj run⟩

end EStateM

/-- A reader is framed when a successful run from a position `pos` within the buffer to `stop`
moved forward, stayed within the buffer, and read nothing at or beyond `stop`: a buffer that
agrees below `stop` and reaches it gives the same answer, and one that ends between `pos` and
`stop` makes the reader fail. -/
def Framed {α : Type} (read : ByteArray → EStateM Error Nat α) : Prop :=
  ∀ data pos a stop, pos ≤ data.size → read data pos = .ok a stop →
    pos ≤ stop ∧ stop ≤ data.size ∧
    ∀ data', AgreeBelow stop data data' →
      (stop ≤ data'.size → read data' pos = .ok a stop) ∧
      (pos ≤ data'.size → data'.size < stop → ∃ e s, read data' pos = .error e s)

namespace Framed

variable {α β : Type}

theorem pure (a : α) : Framed (fun _ => (Pure.pure a : EStateM Error Nat α)) := by
  intro data pos b stop inside run
  cases run
  exact ⟨Nat.le_refl _, inside, fun _ _ => ⟨fun _ => rfl, fun reach short => absurd short (by omega)⟩⟩

theorem get : Framed (fun _ => (MonadState.get : EStateM Error Nat Nat)) := by
  intro data pos b stop inside run
  cases run
  exact ⟨Nat.le_refl _, inside, fun _ _ => ⟨fun _ => rfl, fun reach short => absurd short (by omega)⟩⟩

theorem throw (e : Error) : Framed (fun _ => (MonadExcept.throw e : EStateM Error Nat α)) := by
  intro data pos a stop _ run
  cases run

/-- A choice that does not look at the buffer between two framed readers is framed. -/
theorem ite (c : Prop) [Decidable c] {yes no : ByteArray → EStateM Error Nat α}
    (framedYes : Framed yes) (framedNo : Framed no) :
    Framed (fun data => if c then yes data else no data) := by
  by_cases h : c
  · simpa only [if_pos h] using framedYes
  · simpa only [if_neg h] using framedNo

/-- Running one framed reader after another is framed. -/
theorem bind {first : ByteArray → EStateM Error Nat α} {rest : α → ByteArray → EStateM Error Nat β}
    (framedFirst : Framed first) (framedRest : ∀ a, Framed (rest a)) :
    Framed (fun data => first data >>= fun a => rest a data) := by
  intro data pos b stop inside run
  obtain ⟨a, mid, ran, ranRest⟩ := bind_eq_ok run
  obtain ⟨forward, within, agreeing⟩ := framedFirst data pos a mid inside ran
  obtain ⟨forward', within', agreeing'⟩ := framedRest a data mid b stop within ranRest
  refine ⟨Nat.le_trans forward forward', within', fun data' agree => ⟨fun reach => ?_, fun start short => ?_⟩⟩
  · have again := (agreeing data' (agree.mono forward')).1 (Nat.le_trans forward' reach)
    show (first data' >>= fun a => rest a data') pos = _
    rw [bind_ok_of_ok again]
    exact (agreeing' data' agree).1 reach
  · by_cases early : data'.size < mid
    · obtain ⟨e, s, failed⟩ := (agreeing data' (agree.mono forward')).2 start early
      exact ⟨e, s, bind_error_of_error failed⟩
    · have again := (agreeing data' (agree.mono forward')).1 (Nat.le_of_not_lt early)
      show ∃ e s, (first data' >>= fun a => rest a data') pos = _
      rw [bind_ok_of_ok again]
      exact (agreeing' data' agree).2 (Nat.le_of_not_lt early) short

end Framed

end NativeBlock
