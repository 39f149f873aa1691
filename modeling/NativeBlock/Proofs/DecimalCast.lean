import NativeBlock.Proofs.Rescale

/-!
# Moving a decimal between widths

`FixedDecimal.cast` moves a value into a width at least as wide by `widen`, and into a narrower
one through a 128-bit integer. `widen` moves a value beyond 128 bits digit by digit: truncating
division takes off the digits of its magnitude (`peelDigits_eq_digits`), and `rebuildDigits`
pushes them back on the right, each added to a nonnegative number and taken away from a negative
one. Every intermediate of that rebuilding lies between zero and the result, so the checked
steps fail exactly when the result is no word (`rebuildDigits_eq`): the digits come back as the
value itself, the least and the greatest word included.

Main statement: `cast_exact`, a cast succeeds exactly when the unscaled integer is a word of the
target width, and then keeps the integer and the scale.
-/

namespace NativeBlock

/-- The integer of magnitude `a`, negative when `negative` holds. -/
def Decimal.signed (negative : Bool) (a : Nat) : Int := if negative then -(a : Int) else a

open Decimal

theorem Decimal.signed_zero (negative : Bool) : signed negative 0 = 0 := by
  cases negative <;> rfl

theorem Decimal.signed_natAbs (v : Int) : signed (decide (v < 0)) v.natAbs = v := by
  unfold signed
  by_cases negative : v < 0
  · simp only [negative, decide_true, if_true]
    omega
  · simp only [negative, decide_false, Bool.false_eq_true, if_false]
    omega

namespace DecimalWidth

variable {w : DecimalWidth}

theorem bound_pos (w : DecimalWidth) : 0 < w.bound := by
  cases w <;> decide

theorem word?_of_fits {v : Int} (fits : w.Fits v) : w.word? v = some ⟨v, fits⟩ :=
  dif_pos fits

theorem word?_of_not_fits {v : Int} (outside : ¬ w.Fits v) : w.word? v = none :=
  dif_neg outside

theorem val_of_word?_eq_some {v : Int} {u : {u : Int // w.Fits u}} (made : w.word? v = some u) :
    u.1 = v := by
  unfold word? at made
  split at made
  · cases made
    rfl
  · cases made

/-- A word's range holds every number between zero and any of its words. -/
theorem fits_signed_of_le {negative : Bool} {a b : Nat} (le : a ≤ b)
    (fits : w.Fits (signed negative b)) : w.Fits (signed negative a) := by
  have positive := bound_pos w
  unfold Fits signed at *
  cases negative <;> simp only [Bool.false_eq_true, if_false, if_true] at * <;> omega

theorem fits_of_lt_ten {d : Nat} (small : d < 10) : w.Fits d := by
  have digit : w.Fits (signed false d) := fits_signed_of_le (b := 9) (by omega) (by cases w <;> decide)
  simpa [signed] using digit

/-- A wider width holds every word of a narrower one. -/
theorem Fits.widen {w' : DecimalWidth} {v : Int} (wider : w.bytes ≤ w'.bytes) (fits : w.Fits v) :
    w'.Fits v := by
  have bounds : w.bound ≤ w'.bound := by
    cases w <;> cases w' <;> first | decide | (simp only [bytes] at wider; omega)
  unfold Fits at *
  omega

/-- Pushing a digit onto a signed magnitude is checked once, on the result: the product by ten
lies between zero and it. -/
theorem pushDigit?_signed (negative : Bool) (a d : Nat) :
    w.pushDigit? negative (signed negative a) d = w.word? (signed negative (10 * a + d)) := by
  have tens : signed negative a * 10 = signed negative (10 * a) := by
    cases negative <;> simp only [signed, Bool.false_eq_true, if_true, if_false] <;> omega
  have pushed : (if negative then signed negative (10 * a) - d else signed negative (10 * a) + d) =
      signed negative (10 * a + d) := by
    cases negative <;> simp only [signed, Bool.false_eq_true, if_true, if_false] <;> omega
  unfold pushDigit?
  rw [tens]
  by_cases fits : w.Fits (signed negative (10 * a + d))
  · have fitsTens : w.Fits (signed negative (10 * a)) := fits_signed_of_le (by omega) fits
    rw [word?_of_fits fitsTens]
    exact congrArg w.word? pushed
  · by_cases fitsTens : w.Fits (signed negative (10 * a))
    · rw [word?_of_fits fitsTens]
      exact congrArg w.word? pushed
    · rw [word?_of_not_fits fitsTens, word?_of_not_fits fits]
      rfl

/-! ## Truncating division by ten -/

theorem tdiv_ten_eq (v : Int) : v.tdiv 10 = if 0 ≤ v then v / 10 else -((-v) / 10) := by
  split
  · exact Int.tdiv_eq_ediv_of_nonneg ‹_›
  · rw [← Int.tdiv_eq_ediv_of_nonneg (by omega), Int.neg_tdiv, Int.neg_neg]

theorem fits_tdiv_ten {v : Int} (fits : w.Fits v) : w.Fits (v.tdiv 10) := by
  have positive := bound_pos w
  rw [tdiv_ten_eq]
  unfold Fits at *
  split <;> omega

theorem tdiv?_ten {v : Int} (fits : w.Fits v) : w.tdiv? v 10 = some (v.tdiv 10) := by
  unfold tdiv?
  rw [if_neg (by decide), word?_of_fits (fits_tdiv_ten fits)]
  rfl

theorem tmod?_ten {v : Int} (fits : w.Fits v) : w.tmod? v 10 = some (v.tmod 10) := by
  unfold tmod?
  rw [tdiv?_ten fits]
  rfl

theorem fits_tmod_ten (w : DecimalWidth) (v : Int) : w.Fits (v.tmod 10) := by
  have digit : w.Fits (signed (decide (v.tmod 10 < 0)) (v.tmod 10).natAbs) :=
    fits_signed_of_le (b := 9) (by rw [Int.natAbs_tmod]; exact Nat.le_of_lt_succ (Nat.mod_lt _ (by decide)))
      (by cases decide (v.tmod 10 < 0) <;> cases w <;> decide)
  rwa [signed_natAbs] at digit

end DecimalWidth

namespace FixedDecimal

open DecimalWidth

variable {w : DecimalWidth}

/-! ## Taking digits off and pushing them back -/

/-- Truncating division takes off the decimal digits of a word's magnitude, lowest first, and
never fails: every quotient is again a word and every remainder a 128-bit integer. -/
theorem peelDigits_eq_digits {v : Int} (fits : w.Fits v) :
    peelDigits w v = some (Nat.digits 10 v.natAbs) := by
  induction v using peelDigits.induct w with
  | case1 =>
    rw [peelDigits, dif_pos rfl]
    rfl
  | case2 v nonzero ih =>
    have quotient := tdiv?_ten fits
    have rest := ih (v.tdiv 10) quotient (fits_tdiv_ten fits)
    rw [peelDigits, dif_neg nonzero]
    simp only [tmod?_ten fits, Option.bind_eq_bind, Option.bind_some,
      word?_of_fits (fits_tmod_ten .d128 v)]
    split
    · rename_i noQuotient
      rw [quotient] at noQuotient
      cases noQuotient
    · rename_i q someQuotient
      rw [quotient] at someQuotient
      cases someQuotient
      rw [rest, Nat.digits_def' (by decide) (Int.natAbs_pos.mpr nonzero), Int.natAbs_tmod,
        Int.natAbs_tdiv]
      rfl

/-- Pushing a digit `d` onto `a`, then the digits `ds`, most significant first: the value is the
same as pushing `d :: ds` onto `a` at once. -/
theorem push_value (a d : Nat) (ds : List Nat) :
    a * 10 ^ (d :: ds).length + Nat.ofDigits 10 (d :: ds).reverse =
      (10 * a + d) * 10 ^ ds.length + Nat.ofDigits 10 ds.reverse := by
  rw [List.reverse_cons, Nat.ofDigits_append, Nat.ofDigits_singleton, List.length_reverse,
    List.length_cons, Nat.pow_succ]
  ring

/-- Pushing more digits never makes a magnitude smaller. -/
theorem le_push_value (a d : Nat) (ds : List Nat) :
    10 * a + d ≤ (10 * a + d) * 10 ^ ds.length + Nat.ofDigits 10 ds.reverse :=
  calc 10 * a + d ≤ (10 * a + d) * 10 ^ ds.length :=
        Nat.le_mul_of_pos_right _ (Nat.pow_pos (by decide))
    _ ≤ _ := Nat.le_add_right _ _

/-- Pushing decimal digits, most significant first, onto a signed magnitude is checked once, on
the result: every intermediate lies between zero and it. -/
theorem foldlM_pushDigits {negative : Bool} {ds : List Nat} (small : ∀ d ∈ ds, d < 10)
    (acc : {u : Int // w.Fits u}) (a : Nat) (start : acc.1 = signed negative a) :
    ds.foldlM (fun (acc : {u : Int // w.Fits u}) (d : Nat) => do
        let _ ← w.word? d
        w.pushDigit? negative acc.1 d) acc =
      w.word? (signed negative (a * 10 ^ ds.length + Nat.ofDigits 10 ds.reverse)) := by
  induction ds generalizing acc a with
  | nil =>
    have same : acc = ⟨signed negative a, start ▸ acc.2⟩ := Subtype.ext start
    simp only [List.foldlM_nil, List.length_nil, Nat.pow_zero, Nat.mul_one, List.reverse_nil,
      Nat.ofDigits_nil, Nat.add_zero]
    rw [word?_of_fits (start ▸ acc.2), ← same]
    rfl
  | cons d ds ih =>
    have digit : d < 10 := small d List.mem_cons_self
    have rest : ∀ e ∈ ds, e < 10 := fun e mem => small e (List.mem_cons_of_mem d mem)
    rw [List.foldlM_cons, push_value]
    simp only [word?_of_fits (fits_of_lt_ten digit), Option.bind_eq_bind, Option.bind_some, start,
      pushDigit?_signed]
    by_cases pushed : w.Fits (signed negative (10 * a + d))
    · rw [word?_of_fits pushed, Option.bind_some]
      exact ih rest _ _ rfl
    · have outside := fun fits => pushed (fits_signed_of_le (le_push_value a d ds) fits)
      rw [word?_of_not_fits pushed, word?_of_not_fits outside]
      rfl

/-- Rebuilding a word from its digits, most significant first, checks only the result. -/
theorem rebuildDigits_eq {negative : Bool} {ds : List Nat} (small : ∀ d ∈ ds, d < 10) :
    rebuildDigits w negative ds = w.word? (signed negative (Nat.ofDigits 10 ds.reverse)) := by
  unfold rebuildDigits
  rw [foldlM_pushDigits small _ 0 (signed_zero negative).symm, Nat.zero_mul, Nat.zero_add]

/-- Widening digit by digit gives the value itself, checked once as a word of the target
width. -/
theorem peelRebuild_eq {w' : DecimalWidth} {v : Int} (fits : w.Fits v) :
    (peelDigits w v >>= fun ds => rebuildDigits w' (decide (v < 0)) ds.reverse) = w'.word? v := by
  have small : ∀ d ∈ (Nat.digits 10 v.natAbs).reverse, d < 10 :=
    fun d mem => Nat.digits_lt_base (by decide) (List.mem_reverse.mp mem)
  rw [peelDigits_eq_digits fits, Option.bind_eq_bind, Option.bind_some, rebuildDigits_eq small,
    List.reverse_reverse, Nat.ofDigits_digits, signed_natAbs]

/-- Both ways of widening agree: a word of `w` moves into `w'` exactly when it is a word there. -/
theorem widen_eq_word? {w' : DecimalWidth} {v : Int} (fits : w.Fits v) :
    widen w w' v = w'.word? v := by
  unfold widen
  split
  · rename_i small made
    rw [val_of_word?_eq_some made]
  · exact peelRebuild_eq fits

/-- Either branch of a cast checks the unscaled integer once, as a word of the target width: a
narrower width holds only 128-bit integers. -/
theorem moved_eq_word? {w' : DecimalWidth} {v : Int} (fits : w.Fits v) :
    (if w.bytes ≤ w'.bytes then widen w w' v
      else (DecimalWidth.d128.word? v).bind fun small => w'.word? small.1) = w'.word? v := by
  split
  · exact widen_eq_word? fits
  · rename_i narrower
    cases made : DecimalWidth.d128.word? v with
    | some small =>
      rw [Option.bind_some, val_of_word?_eq_some made]
    | none =>
      have outside : ¬ w'.Fits v := by
        intro fits'
        have within : w'.bytes ≤ DecimalWidth.d128.bytes := by
          cases w <;> cases w' <;> simp only [DecimalWidth.bytes] at narrower ⊢ <;> omega
        rw [word?_of_fits (Fits.widen within fits')] at made
        cases made
      rw [word?_of_not_fits outside]
      rfl

theorem cast_eq_ok_iff {d : FixedDecimal w} {w' : DecimalWidth} {r : FixedDecimal w'} :
    d.cast w' = .ok r ↔ r.unscaled = d.unscaled ∧ r.scale = d.scale := by
  unfold cast
  dsimp only
  rw [moved_eq_word? d.fits]
  by_cases fits : w'.Fits d.unscaled
  · rw [word?_of_fits fits]
    constructor
    · intro made
      cases made
      exact ⟨rfl, rfl⟩
    · rintro ⟨unscaled, scale⟩
      exact congrArg Except.ok (eq_of_unscaled_scale unscaled.symm scale.symm)
  · rw [word?_of_not_fits fits]
    constructor
    · intro failed
      cases failed
    · rintro ⟨unscaled, -⟩
      exact absurd (unscaled ▸ r.fits) fits

/-- A cast moves a value to another width exactly when its unscaled integer is a word there, and
keeps the integer and the scale. The digit-by-digit path of widening gives the integer back
unchanged, checked once in the target width, so the least and greatest words come through. -/
theorem cast_exact (w w' : DecimalWidth) (d : FixedDecimal w) :
    ((∃ r, d.cast w' = .ok r) ↔ w'.Fits d.unscaled) ∧
    (∀ r, d.cast w' = .ok r → r.unscaled = d.unscaled ∧ r.scale = d.scale) ∧
    (peelDigits w d.unscaled >>= fun ds => rebuildDigits w' (decide (d.unscaled < 0)) ds.reverse) =
      w'.word? d.unscaled := by
  refine ⟨⟨?_, ?_⟩, fun r => cast_eq_ok_iff.mp, peelRebuild_eq d.fits⟩
  · rintro ⟨r, run⟩
    obtain ⟨same, -⟩ := cast_eq_ok_iff.mp run
    exact same ▸ r.fits
  · intro fits
    exact ⟨⟨d.unscaled, d.scale, fits⟩, cast_eq_ok_iff.mpr ⟨rfl, rfl⟩⟩

end FixedDecimal

end NativeBlock
