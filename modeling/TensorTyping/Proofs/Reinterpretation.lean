import TensorTyping.Op.Conversion
import TensorTyping.Proofs.Size
import TensorTyping.Proofs.Ty.Unification
import TensorTyping.Proofs.Ty.WellFormed

/-!
# Reinterpreting the bits of a tensor

The widths of all elements are powers of two, so of two different widths the smaller one divides the
other. A wide element becomes a trailing dimension of narrow ones. Which side is the operand does
not matter, and the bits of all elements together are as many before as after.
-/

namespace TensorTyping

/-! ### Widths -/

theorem IntWidth.exists_bits_eq (width : IntWidth) : ∃ k, width.bits = 2 ^ k := by
  cases width with
  | w2 => exact ⟨1, rfl⟩
  | w4 => exact ⟨2, rfl⟩
  | w8 => exact ⟨3, rfl⟩
  | w16 => exact ⟨4, rfl⟩
  | w32 => exact ⟨5, rfl⟩
  | w64 => exact ⟨6, rfl⟩

theorem FloatFormat.exists_bits_eq (format : FloatFormat) : ∃ k, format.bits = 2 ^ k := by
  cases format with
  | f8E4M3FN | f8E5M2 => exact ⟨3, rfl⟩
  | bf16 | f16 => exact ⟨4, rfl⟩
  | f32 => exact ⟨5, rfl⟩
  | f64 => exact ⟨6, rfl⟩

theorem Ty.exists_bitwidth?_eq {t : Ty} {width : Nat} (known : t.bitwidth? = some width) :
    ∃ k, width = 2 ^ k := by
  induction t using induct with
  | int w signed =>
    obtain rfl := Option.some.inj known
    exact w.exists_bits_eq
  | bool => exact ⟨0, (Option.some.inj known).symm⟩
  | float format =>
    obtain rfl := Option.some.inj known
    exact format.exists_bits_eq
  | complex component =>
    obtain rfl := Option.some.inj known
    exact component.exists_bits_eq
  | quantized storage expressed scale zeroPoint ih => exact ih known
  | _ => simp [bitwidth?] at known

namespace Op

theorem exists_elementBitwidth_eq {t : Ty} {width : Nat} (known : elementBitwidth t = .ok width) :
    ∃ k, width = 2 ^ k := by
  cases t with
  | complex component =>
    obtain rfl := Except.ok.inj known
    obtain ⟨k, bits⟩ := component.exists_bits_eq
    exact ⟨k + 1, by rw [bits, Nat.pow_succ, Nat.mul_comm]⟩
  | _ =>
    rw [elementBitwidth, Check.needPart_eq_ok] at known
    · exact Ty.exists_bitwidth?_eq known
    · simp

theorem elementBitwidth_pos {t : Ty} {width : Nat} (known : elementBitwidth t = .ok width) :
    0 < width := by
  obtain ⟨k, rfl⟩ := exists_elementBitwidth_eq known
  exact Nat.two_pow_pos k

/-- Of two widths the smaller one divides the other. -/
theorem elementBitwidth_dvd {a b : Ty} {v w : Nat} (wide : elementBitwidth a = .ok v)
    (narrow : elementBitwidth b = .ok w) (less : w < v) : w ∣ v := by
  obtain ⟨i, rfl⟩ := exists_elementBitwidth_eq wide
  obtain ⟨j, rfl⟩ := exists_elementBitwidth_eq narrow
  have exponents : j < i := (Nat.pow_lt_pow_iff_right (Nat.lt_succ_self 1)).mp less
  exact Nat.pow_dvd_pow 2 (Nat.le_of_lt exponents)

end Op

/-! ### Shapes -/

namespace Shape

theorem compatibleDims_iff_forall₂ {a b : List Extent} :
    compatibleDims a b = true ↔ List.Forall₂ (fun x y : Extent => x.compatible y = true) a b := by
  induction a generalizing b with
  | nil => cases b <;> simp [compatibleDims]
  | cons dim rest ih => cases b <;> simp [compatibleDims, ih]

/-- Known extents that agree are as many elements. -/
theorem size_eq_of_compatibleDims {a b : List Extent} {n m : Int}
    (agree : compatibleDims a b = true) (left : size? (.ranked a) = some n)
    (right : size? (.ranked b) = some m) : n = m := by
  obtain ⟨extents, rfl, rfl⟩ := size?_eq_some.mp left
  obtain ⟨extents', rfl, rfl⟩ := size?_eq_some.mp right
  rw [compatibleDims_iff_forall₂, List.forall₂_map_left_iff, List.forall₂_map_right_iff] at agree
  have same : List.Forall₂ Eq extents extents' :=
    agree.imp fun x y agree => by simpa [Extent.compatible] using agree
  rw [List.forall₂_eq_eq_eq] at same
  rw [same]

/-- The narrow extents are the wide ones and a trailing dimension of `ratio` elements, as far as
    they are known. -/
def Splits (wide narrow : List Extent) (ratio : Nat) : Prop :=
  ∃ (lead : List Extent) (trailing : Extent), narrow = lead ++ [trailing] ∧
    compatibleDims lead wide = true ∧ trailing.compatible (some (ratio : Int)) = true

theorem Splits.size_eq {wide narrow : List Extent} {ratio : Nat} {n m : Int}
    (splits : Splits wide narrow ratio) (whole : size? (.ranked wide) = some n)
    (parts : size? (.ranked narrow) = some m) : m = n * ratio := by
  obtain ⟨lead, trailing, rfl, agree, counted⟩ := splits
  obtain ⟨k, last, leadSize, single, rfl⟩ := size?_append_eq_some.mp parts
  rw [size?_singleton] at single
  subst single
  obtain rfl := size_eq_of_compatibleDims agree leadSize whole
  obtain rfl : last = ratio := by simpa [Extent.compatible] using counted
  rfl

/-- The shapes, of elements of widths `v` and `w`, can hold the same bits. -/
inductive Repacks (v w : Nat) : Shape → Shape → Prop
  | fromUnranked (s : Shape) : Repacks v w .unranked s
  | toUnranked (s : Shape) : Repacks v w s .unranked
  | keeping {dims dims' : List Extent} (same : v = w) (agree : compatibleDims dims dims' = true) :
      Repacks v w (.ranked dims) (.ranked dims')
  | narrowing {wide narrow : List Extent} (less : w < v) (splits : Splits wide narrow (v / w)) :
      Repacks v w (.ranked wide) (.ranked narrow)
  | widening {wide narrow : List Extent} (less : v < w) (splits : Splits wide narrow (w / v)) :
      Repacks v w (.ranked narrow) (.ranked wide)

theorem Repacks.symm {v w : Nat} {s s' : Shape} (repacks : Repacks v w s s') :
    Repacks w v s' s := by
  cases repacks with
  | fromUnranked => exact .toUnranked s'
  | toUnranked => exact .fromUnranked s
  | keeping same agree => exact .keeping same.symm (compatibleDims_comm _ _ ▸ agree)
  | narrowing less splits => exact .widening less splits
  | widening less splits => exact .narrowing less splits

/-- Where the smaller width divides the other, no bits are lost or made. -/
theorem Repacks.bits_eq {v w : Nat} {s s' : Shape} {n m : Int} (repacks : Repacks v w s s')
    (divides : w < v → w ∣ v) (divides' : v < w → v ∣ w) (size : s.size? = some n)
    (size' : s'.size? = some m) : n * v = m * w := by
  cases repacks with
  | fromUnranked => cases size
  | toUnranked => cases size'
  | keeping same agree => rw [same, size_eq_of_compatibleDims agree size size']
  | narrowing less splits =>
    have whole : ((v / w : Nat) : Int) * w = v := by
      exact_mod_cast Nat.div_mul_cancel (divides less)
    rw [splits.size_eq size size', Int.mul_assoc, whole]
  | widening less splits =>
    have whole : ((w / v : Nat) : Int) * v = w := by
      exact_mod_cast Nat.div_mul_cancel (divides' less)
    rw [splits.size_eq size' size, Int.mul_assoc, whole]

end Shape

namespace Op

/-! ### Accepted reinterpretations -/

variable {a b : Tensor} {v w : Nat}

theorem verifyNarrowing_eq_ok {wide narrow : List Extent} {ratio : Nat} {u : Unit} :
    verifyNarrowing a b wide narrow ratio = .ok u ↔ Shape.Splits wide narrow ratio := by
  simp only [verifyNarrowing, Check.bind_eq_ok, Check.ensure_eq_ok]
  constructor
  · rintro ⟨-, ranks, -, agree, last, found, counted⟩
    rcases List.eq_nil_or_concat' narrow with rfl | ⟨lead, trailing, rfl⟩
    · simp at ranks
    · obtain rfl : trailing = last := by simpa using itemAt_last_eq_ok.mp found
      exact ⟨lead, trailing, rfl, by simpa using agree, counted⟩
  · rintro ⟨lead, trailing, rfl, agree, counted⟩
    have length := (Shape.compatibleDims_iff_forall₂.mp agree).length_eq
    exact ⟨(), by simp [length], (), by simpa using agree, trailing,
      itemAt_last_eq_ok.mpr (by simp), counted⟩

theorem verifyBitcast_eq_ok {u : Unit} (positive : 0 < v) (positive' : 0 < w) :
    verifyBitcast a b v w = .ok u ↔ Shape.Repacks v w a.shape b.shape := by
  have narrowing := Check.floorDiv_of_pos (Int.natCast_pos.mpr positive') v
  have widening := Check.floorDiv_of_pos (Int.natCast_pos.mpr positive) w
  obtain ⟨element, shape⟩ := a
  obtain ⟨element', shape'⟩ := b
  cases shape with
  | unranked => exact iff_of_true rfl (.fromUnranked _)
  | ranked dims =>
    cases shape' with
    | unranked => exact iff_of_true rfl (.toUnranked _)
    | ranked dims' =>
      simp only [verifyBitcast]
      rcases Nat.lt_trichotomy w v with less | equal | less
      · rw [if_neg (Nat.ne_of_gt less), if_pos less, narrowing, Check.ok_bind, ← Int.natCast_ediv,
          verifyNarrowing_eq_ok]
        refine ⟨.narrowing less, fun repacks => ?_⟩
        cases repacks with
        | narrowing _ splits => exact splits
        | keeping same => omega
        | widening less' => omega
      · rw [if_pos equal.symm, Check.ensure_eq_ok]
        refine ⟨.keeping equal.symm, fun repacks => ?_⟩
        cases repacks with
        | keeping _ agree => exact agree
        | narrowing less => omega
        | widening less => omega
      · rw [if_neg (Nat.ne_of_lt less), if_neg (Nat.lt_asymm less), widening, Check.ok_bind,
          ← Int.natCast_ediv, verifyNarrowing_eq_ok]
        refine ⟨.widening less, fun repacks => ?_⟩
        cases repacks with
        | widening _ splits => exact splits
        | keeping same => omega
        | narrowing less' => omega

/-- Bits can be reinterpreted between tensors whose elements have a width and whose shapes can hold
    the same bits. -/
theorem inferBitcastConvert_eq_ok {types : List Ty} :
    inferBitcastConvert a.ty b.ty = .ok types ↔
      ∃ v w, elementBitwidth a.element = .ok v ∧ elementBitwidth b.element = .ok w ∧
        Shape.Repacks v w a.shape b.shape ∧ types = [b.ty] := by
  have verified {v w : Nat} (width : elementBitwidth a.element = .ok v)
      (width' : elementBitwidth b.element = .ok w) :
      verifyBitcast a b v w = .ok () ↔ Shape.Repacks v w a.shape b.shape :=
    verifyBitcast_eq_ok (elementBitwidth_pos width) (elementBitwidth_pos width')
  simp only [inferBitcastConvert, Tensor.needTensor_ty, Check.ok_bind, Check.bind_eq_ok,
    Check.pure_eq, Except.ok.injEq]
  constructor
  · rintro ⟨v, width, w, width', ⟨⟩, accepted, rfl⟩
    exact ⟨v, w, width, width', (verified width width').mp accepted, rfl⟩
  · rintro ⟨v, w, width, width', repacks, rfl⟩
    exact ⟨v, width, w, width', (), (verified width width').mpr repacks, rfl⟩

theorem exists_inferBitcastConvert_symm
    (accepted : ∃ types, inferBitcastConvert a.ty b.ty = .ok types) :
    ∃ types, inferBitcastConvert b.ty a.ty = .ok types := by
  obtain ⟨_, accepted⟩ := accepted
  obtain ⟨v, w, width, width', repacks, -⟩ := inferBitcastConvert_eq_ok.mp accepted
  exact ⟨_, inferBitcastConvert_eq_ok.mpr ⟨w, v, width', width, repacks.symm, rfl⟩⟩

/-- Reinterpreting bits works in both directions or in none. The elements of static tensors take as
    many bits before as after, whatever their types are. -/
theorem inferBitcastConvert_symm_and_bits_eq (a b : Tensor) :
    ((∃ types, inferBitcastConvert a.ty b.ty = .ok types) ↔
      ∃ types, inferBitcastConvert b.ty a.ty = .ok types) ∧
    ((∃ types, inferBitcastConvert a.ty b.ty = .ok types) → a.shape.isStatic = true →
      b.shape.isStatic = true →
        ∃ (n m : Int) (v w : Nat), a.shape.size? = some n ∧ b.shape.size? = some m ∧
          elementBitwidth a.element = .ok v ∧ elementBitwidth b.element = .ok w ∧
          n * v = m * w) := by
  refine ⟨⟨exists_inferBitcastConvert_symm, exists_inferBitcastConvert_symm⟩, ?_⟩
  rintro ⟨types, accepted⟩ static static'
  obtain ⟨v, w, width, width', repacks, -⟩ := inferBitcastConvert_eq_ok.mp accepted
  obtain ⟨n, size⟩ := Shape.exists_size_of_isStatic static
  obtain ⟨m, size'⟩ := Shape.exists_size_of_isStatic static'
  have bits := repacks.bits_eq (elementBitwidth_dvd width width') (elementBitwidth_dvd width' width)
    size size'
  exact ⟨n, m, v, w, size, size', width, width', bits⟩

/-- Complex numbers of 128 bits and quantized numbers that are stored in four bits. -/
theorem inferBitcastConvert_symm_and_bits_eq_complex :
    let wide : Tensor := ⟨.complex .f64, .ranked [some 2, some 3]⟩
    let narrow : Tensor :=
      ⟨.quantized (.int .w4 true) (.float .f32) (.ofInt 1) 0, .ranked [some 2, some 3, some 32]⟩
    inferBitcastConvert wide.ty narrow.ty = .ok [narrow.ty] ∧
      (∃ types, inferBitcastConvert narrow.ty wide.ty = .ok types) ∧
      wide.shape.size? = some 6 ∧ elementBitwidth wide.element = .ok 128 ∧
      narrow.shape.size? = some 192 ∧ elementBitwidth narrow.element = .ok 4 ∧
      (6 : Int) * 128 = 192 * 4 := by
  intro wide narrow
  have accepted : inferBitcastConvert wide.ty narrow.ty = .ok [narrow.ty] := rfl
  obtain ⟨symmetric, conserved⟩ := inferBitcastConvert_symm_and_bits_eq wide narrow
  obtain ⟨n, m, v, w, size, size', width, width', bits⟩ := conserved ⟨_, accepted⟩ rfl rfl
  obtain rfl : 6 = n := Option.some.inj size
  obtain rfl : 192 = m := Option.some.inj size'
  obtain rfl : 128 = v := Except.ok.inj width
  obtain rfl : 4 = w := Except.ok.inj width'
  exact ⟨accepted, symmetric.mp ⟨_, accepted⟩, size, width, size', width', bits⟩

end Op

end TensorTyping
