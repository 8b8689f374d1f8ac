import TensorTyping.Proofs.Refinement.Control
import TensorTyping.Proofs.Totality.Control
import TensorTyping.Proofs.Ty.Static

/-!
# The types of a value carried through a loop

A value carried through a loop has a type as operand, as argument of the condition, as argument
and as result of the body, and as result of the loop. A loop compares each of them with the type
of the operand alone. So they all agree where that type leaves nothing unknown, and where it does
leave something unknown there is a loop that is accepted without agreement.
-/

namespace TensorTyping

namespace Ty

variable {a b c d : Ty} {types : List Ty} {what : String}

/-! ### Agreement of several types -/

/-- Any two of the types are compatible. -/
def Agree (types : List Ty) : Prop :=
  ∀ a ∈ types, ∀ b ∈ types, a.checkCompatible b = .ok true

/-- The types at one position of lists of types. -/
def column (i : Nat) (lists : List (List Ty)) : List Ty := lists.filterMap fun types => types[i]?

theorem agree_iff_pairwise (formed : FormedAll types) :
    Agree types ↔ types.Pairwise fun a b => compatible false a b = true := by
  simp only [pairwise_compatible_iff formed, Agree, checkCompatible_eq_ok_true]

theorem Agree.mono {types' : List Ty} (agree : Agree types) (inside : types' ⊆ types) :
    Agree types' :=
  fun a ha b hb => agree a (inside ha) b (inside hb)

theorem agree_pair (ha : a.WellFormed) (hb : b.WellFormed) (agree : compatible false b a = true) :
    Agree [a, b] := by
  have symm := compatible_symm hb ha agree
  rw [agree_iff_pairwise (by simp [FormedAll, ha, hb])]
  simpa using symm

/-- What two compatible types say together is compatible with both. -/
theorem agree_merge (ha : a.WellFormed) (hb : b.WellFormed) (agree : compatible false a b = true) :
    Agree [a, b, merge a b] := by
  have formed := ha.merge hb
  have refl := (compatible_merge ha hb formed agree).mp (compatible_refl formed)
  rw [agree_iff_pairwise (by simp [FormedAll, ha, hb, formed])]
  simp [agree, refl.1, refl.2]

/-- Where types are all compatible with a first one, it and what it says together with the last
    of them add nothing to the agreement of the others. -/
theorem agree_around_iff (ha : a.WellFormed) (hb : b.WellFormed) (hc : c.WellFormed)
    (hd : d.WellFormed) (hca : compatible false c a = true) (hda : compatible false d a = true)
    (hba : compatible false b a = true) :
    Agree [a, c, d, b, merge a b] ↔ Agree [c, d, b] := by
  have formed := ha.merge hb
  have hab := compatible_symm hb ha hba
  have hac := compatible_symm hc ha hca
  have had := compatible_symm hd ha hda
  have merged := (agree_iff_pairwise (by simp [FormedAll, ha, hb, formed])).mp
    (agree_merge ha hb hab)
  -- the merged type agrees with another one just when both of its parts do
  have beside : ∀ x, x.WellFormed → compatible false a x = true →
      compatible false x b = true → compatible false x (merge a b) = true := by
    intro x hx hax hxb
    have both := (compatible_merge ha hb hx hab).mpr ⟨hax, compatible_symm hx hb hxb⟩
    exact compatible_symm formed hx both
  rw [agree_iff_pairwise (by simp [FormedAll, ha, hb, hc, hd, formed]),
    agree_iff_pairwise (by simp [FormedAll, hb, hc, hd])]
  simp only [List.pairwise_cons, List.forall_mem_cons, List.not_mem_nil, false_implies,
    implies_true, List.Pairwise.nil, and_true] at merged ⊢
  constructor
  · rintro ⟨-, ⟨hcd, hcb, -⟩, ⟨hdb, -⟩, -⟩
    exact ⟨⟨hcd, hcb⟩, hdb⟩
  · rintro ⟨⟨hcd, hcb⟩, hdb⟩
    exact ⟨⟨hac, had, hab, merged.1.2⟩, ⟨hcd, hcb, beside c hc hac hcb⟩,
      ⟨hdb, beside d hd had hdb⟩, merged.2⟩

/-! ### Two lists of types -/

theorem collect_itemAt_pair {as bs : List Ty} {i : Nat} (ha : i < as.length) (hb : i < bs.length) :
    collect (itemAt · i) [as, bs] = .ok [as[i], bs[i]] := by
  simp only [Check.collect_eq_ok, itemAt_natCast_eq_ok, List.forall₂_cons, List.Forall₂.nil,
    List.getElem?_eq_getElem ha, List.getElem?_eq_getElem hb, and_self]

theorem unifyLists_pair_eq_ok {as bs results : List Ty} :
    unifyLists [as, bs] what = .ok results ↔
      List.Forall₂ (fun a b => compatible false a b = true) as bs ∧
        List.zipWith merge as bs = results := by
  simp only [unifyLists, Check.bind_eq_ok, Check.ensure_eq_ok]
  constructor
  · rintro ⟨_, lengths, unified⟩
    replace unified := Check.collect_eq_ok.mp unified
    have same : bs.length = as.length := by simpa using lengths
    have count : results.length = as.length := by simpa using unified.length_eq.symm
    have each : ∀ i (ha : i < as.length) (hb : i < bs.length) (hr : i < results.length),
        compatible false as[i] bs[i] = true ∧ merge as[i] bs[i] = results[i] := by
      intro i ha hb hr
      have entry := unified.get (by simpa using ha) hr
      simp only [List.get_eq_getElem, List.getElem_range, collect_itemAt_pair ha hb,
        Check.ok_bind] at entry
      exact unifyList_pair_eq_ok.mp entry
    refine ⟨List.forall₂_iff_get.mpr ⟨same.symm, fun i ha hb => ?_⟩, ?_⟩
    · exact (each i ha hb (count ▸ ha)).1
    · refine List.ext_getElem (by simp [same, count]) fun i hz hr => ?_
      rw [List.getElem_zipWith]
      exact (each i _ _ hr).2
  · rintro ⟨all, rfl⟩
    have same := all.length_eq
    refine ⟨(), by simp [same], Check.collect_eq_ok.mpr ?_⟩
    refine List.forall₂_iff_get.mpr ⟨by simp [same], fun i hi hr => ?_⟩
    have ha : i < as.length := by simpa using hi
    have hb : i < bs.length := same ▸ ha
    simp only [List.get_eq_getElem, List.getElem_range, collect_itemAt_pair ha hb, Check.ok_bind,
      List.getElem_zipWith]
    exact unifyList_pair_eq_ok.mpr ⟨all.get ha hb, rfl⟩

end Ty

namespace Op

open Ty

variable {operands results : List Ty} {cond body : Region}

/-! ### Accepted loops -/

theorem verifyCondition_eq_ok {u : Unit} :
    verifyCondition operands cond = .ok u ↔
      List.Forall₂ (fun a e => compatible false a e = true) cond.arguments operands ∧
        ∃ result, cond.results = [result] ∧ isCondition result = true := by
  unfold verifyCondition
  simp only [Check.bind_eq_ok, verifyCarried_eq_ok]
  obtain ⟨arguments, results⟩ := cond
  rcases results with _ | ⟨result, _ | ⟨second, rest⟩⟩
  · simp
  · simp [Check.ensure_eq_ok]
  · simp

theorem While.infer_eq_ok :
    While.infer ⟨operands, some cond, some body⟩ = .ok results ↔
      (∃ result, cond.results = [result] ∧ isCondition result = true) ∧
      (∀ types ∈ [cond.arguments, body.arguments, body.results],
        List.Forall₂ (fun a e => compatible false a e = true) types operands) ∧
      List.Forall₂ (fun a b => compatible false a b = true) operands body.results ∧
        List.zipWith merge operands body.results = results := by
  simp only [While.infer, Check.bind_eq_ok, Check.needPart_eq_ok, verifyCondition_eq_ok,
    verifyCarried_eq_ok, unifyLists_pair_eq_ok, List.forall_mem_cons, List.not_mem_nil,
    false_implies, implies_true, and_true, Option.some.injEq, exists_eq_left']
  constructor
  · rintro ⟨-, ⟨arguments, condition⟩, -, arguments', -, results', unified⟩
    exact ⟨condition, ⟨arguments, arguments', results'⟩, unified⟩
  · rintro ⟨condition, ⟨arguments, arguments', results'⟩, unified⟩
    exact ⟨(), ⟨arguments, condition⟩, (), arguments', (), results', unified⟩

/-- What an accepted loop says about the value carried at one position. -/
theorem While.carried_at {i : Nat} {t : Ty}
    (accepted : While.infer ⟨operands, some cond, some body⟩ = .ok results)
    (found : operands[i]? = some t) :
    ∃ c d b, cond.arguments[i]? = some c ∧ body.arguments[i]? = some d ∧
      body.results[i]? = some b ∧ results[i]? = some (merge t b) ∧
      compatible false c t = true ∧ compatible false d t = true ∧ compatible false b t = true := by
  obtain ⟨-, each, both, rfl⟩ := While.infer_eq_ok.mp accepted
  have entry : ∀ types ∈ [cond.arguments, body.arguments, body.results],
      ∃ a, types[i]? = some a ∧ compatible false a t = true := by
    intro types member
    have related := Check.forall₂_getElem? (each types member) i
    rw [found] at related
    generalize types[i]? = entry at related ⊢
    cases related with
    | some agree => exact ⟨_, rfl, agree⟩
  obtain ⟨c, foundC, hc⟩ := entry cond.arguments (by simp)
  obtain ⟨d, foundD, hd⟩ := entry body.arguments (by simp)
  obtain ⟨b, foundB, hb⟩ := entry body.results (by simp)
  have merged : (List.zipWith merge operands body.results)[i]? = some (merge t b) := by
    rw [List.getElem?_zipWith, found, foundB]
  exact ⟨c, d, b, foundC, foundD, foundB, merged, hc, hd, hb⟩

theorem While.length_of_infer
    (accepted : While.infer ⟨operands, some cond, some body⟩ = .ok results) :
    ∀ types ∈ [cond.arguments, body.arguments, body.results, results],
      types.length = operands.length := by
  obtain ⟨-, each, both, rfl⟩ := While.infer_eq_ok.mp accepted
  have carried := fun types member => (each types member).length_eq
  simp only [List.forall_mem_cons] at carried ⊢
  simp [carried]

/-- What an accepted loop says about the types that a carried value has around it. -/
theorem While.agree_of_infer (formed : FormedAll operands) (condFormed : cond.WellFormed)
    (bodyFormed : body.WellFormed)
    (accepted : While.infer ⟨operands, some cond, some body⟩ = .ok results) (i : Nat) :
    (∀ types ∈ [cond.arguments, body.arguments, body.results, results],
      Agree (column i [operands, types])) ∧
    Agree (column i [operands, body.results, results]) ∧
    (Agree (column i [operands, cond.arguments, body.arguments, body.results, results]) ↔
      Agree (column i [cond.arguments, body.arguments, body.results])) ∧
    ((∀ t, operands[i]? = some t → t.isStatic = true) →
      Agree (column i [cond.arguments, body.arguments, body.results])) := by
  cases found : operands[i]? with
  | none =>
    have beyond : ∀ types ∈ [cond.arguments, body.arguments, body.results, results],
        types[i]? = none := by
      intro types member
      rw [List.getElem?_eq_none_iff] at found ⊢
      rwa [While.length_of_infer accepted types member]
    simp only [List.forall_mem_cons] at beyond
    simp [column, found, beyond, Agree]
  | some t =>
    obtain ⟨c, d, b, foundC, foundD, foundB, foundR, hc, hd, hb⟩ :=
      While.carried_at accepted found
    have formedT := formed t (List.mem_of_getElem? found)
    have formedC := condFormed.arguments c (List.mem_of_getElem? foundC)
    have formedD := bodyFormed.arguments d (List.mem_of_getElem? foundD)
    have formedB := bodyFormed.results b (List.mem_of_getElem? foundB)
    have merged := agree_merge formedT formedB (compatible_symm formedB formedT hb)
    have result : Agree [t, merge t b] := merged.mono (by simp)
    simp only [List.forall_mem_cons, column, List.filterMap_cons, List.filterMap_nil, found, foundC,
      foundD, foundB, foundR, List.not_mem_nil, false_implies, implies_true, and_true,
      Option.some.injEq, forall_eq']
    refine ⟨⟨agree_pair formedT formedC hc, agree_pair formedT formedD hd,
      agree_pair formedT formedB hb, result⟩, merged,
      agree_around_iff formedT formedB formedC formedD hc hd hb, fun static => ?_⟩
    -- the three types meet in the type of the operand, through which agreement is transitive
    have through : ∀ x y, x.WellFormed → y.WellFormed → compatible false x t = true →
        compatible false y t = true → compatible false x y = true := fun x y hx hy hxt hyt =>
      compatible_trans hx formedT hy static hxt (compatible_symm hy formedT hyt)
    rw [agree_iff_pairwise (by simp [FormedAll, formedB, formedC, formedD])]
    simp only [List.pairwise_cons, List.forall_mem_cons, List.not_mem_nil, false_implies,
      implies_true, List.Pairwise.nil, and_true]
    exact ⟨⟨through c d formedC formedD hc hd, through c b formedC formedB hc hb⟩,
      through d b formedD formedB hd hb⟩

/-- A body that takes and yields the operands with their unknown extents filled in in different
    ways is accepted. -/
theorem While.infer_filled (formed : FormedAll operands) :
    While.infer ⟨operands, some ⟨operands, [(Tensor.scalar .i1).ty]⟩,
        some ⟨operands.map (Ty.filled 0), operands.map (Ty.filled 1)⟩⟩ =
      .ok (List.zipWith merge operands (operands.map (Ty.filled 1))) := by
  have zero : ∀ t ∈ operands, compatible false (t.filled 0) t = true := fun t member =>
    (formed t member).filled_compatible (by decide)
  have one : ∀ t ∈ operands, compatible false (t.filled 1) t = true := fun t member =>
    (formed t member).filled_compatible (by decide)
  have one' : ∀ t ∈ operands, compatible false t (t.filled 1) = true := fun t member =>
    compatible_symm ((formed t member).filled (by decide)) (formed t member) (one t member)
  have self : ∀ t ∈ operands, compatible false t t = true := fun t member =>
    compatible_refl (formed t member)
  refine While.infer_eq_ok.mpr ⟨⟨_, rfl, rfl⟩, ?_, ?_, rfl⟩
  · simpa [List.forall₂_map_left_iff, List.forall₂_same] using ⟨self, zero, one⟩
  · simpa [List.forall₂_map_right_iff, List.forall₂_same] using one'

/-- An accepted loop compares all types that a carried value has around it with the type of the
    operand, so that they agree with each other just when the types in the regions do. They do so
    in every accepted loop just when the type of the operand leaves nothing unknown. -/
theorem While.carried_agree_iff_static (operands : List Ty) (formed : FormedAll operands) :
    (∀ (cond body : Region) (results : List Ty), cond.WellFormed → body.WellFormed →
      While.infer ⟨operands, some cond, some body⟩ = .ok results →
      (∀ types ∈ [cond.arguments, body.arguments, body.results, results],
        types.length = operands.length ∧ ∀ i, Agree (column i [operands, types])) ∧
      ∀ i, Agree (column i [operands, body.results, results]) ∧
        (Agree (column i [operands, cond.arguments, body.arguments, body.results, results]) ↔
          Agree (column i [cond.arguments, body.arguments, body.results]))) ∧
    ∀ (i : Nat) (t : Ty), operands[i]? = some t →
      (t.isStatic = true ↔
        ∀ (cond body : Region) (results : List Ty), cond.WellFormed → body.WellFormed →
          While.infer ⟨operands, some cond, some body⟩ = .ok results →
          Agree (column i
            [operands, cond.arguments, body.arguments, body.results, results])) := by
  refine ⟨fun cond body results condFormed bodyFormed accepted => ?_, fun i t found => ⟨?_, ?_⟩⟩
  · have positions := While.agree_of_infer formed condFormed bodyFormed accepted
    refine ⟨fun types member => ⟨While.length_of_infer accepted types member, fun i => ?_⟩,
      fun i => ⟨(positions i).2.1, (positions i).2.2.1⟩⟩
    exact (positions i).1 types member
  · intro static cond body results condFormed bodyFormed accepted
    obtain ⟨-, -, inside, known⟩ := While.agree_of_infer formed condFormed bodyFormed accepted i
    refine inside.mpr (known fun t' found' => ?_)
    obtain rfl := Option.some.inj (found.symm.trans found')
    exact static
  · intro agree
    have filledFormed : ∀ n : Int, 0 ≤ n → FormedAll (operands.map (Ty.filled n)) := by
      intro n nonneg t' member
      obtain ⟨t, member', rfl⟩ := List.mem_map.mp member
      exact (formed t member').filled nonneg
    have predicate : FormedAll [(Tensor.scalar .i1).ty] :=
      .single (Tensor.scalar_wellFormed rfl .bool).ty
    have filled := agree _ _ _ ⟨formed, predicate⟩
      ⟨filledFormed 0 (by decide), filledFormed 1 (by decide)⟩ (While.infer_filled formed)
    have both := filled (t.filled 0) (by simp [column, found]) (t.filled 1)
      (by simp [column, found])
    exact isStatic_of_filled (by decide) (checkCompatible_eq_ok_true.mp both)

theorem While.carried_agree_iff_static_vectors :
    let vector : Ty := .tensor (.float .f32) (.ranked [none])
    let two : Ty := .tensor (.float .f32) (.ranked [some 2])
    let three : Ty := .tensor (.float .f32) (.ranked [some 3])
    let operands := [vector, two]
    let body : Region := ⟨[two, two], [three, two]⟩
    While.infer ⟨operands, some ⟨operands, [(Tensor.scalar .i1).ty]⟩, some body⟩ =
        .ok [three, two] ∧
      ¬ Agree (column 0 [operands, operands, body.arguments, body.results, [three, two]]) ∧
      Agree (column 1 [operands, operands, body.arguments, body.results, [three, two]]) := by
  intro vector two three operands body
  have accepted : While.infer ⟨operands, some ⟨operands, [(Tensor.scalar .i1).ty]⟩, some body⟩ =
      .ok [three, two] := rfl
  have formed : FormedAll operands := by unfold FormedAll; decide
  have condFormed : Region.WellFormed ⟨operands, [(Tensor.scalar .i1).ty]⟩ :=
    ⟨formed, .single (by decide)⟩
  have bodyFormed : body.WellFormed := by constructor <;> unfold FormedAll <;> decide
  obtain ⟨everywhere, positions⟩ := While.carried_agree_iff_static operands formed
  refine ⟨accepted, ?_, ?_⟩
  · rw [((everywhere _ body _ condFormed bodyFormed accepted).2 0).2]
    intro agree
    have differ := agree two (by simp [column, body]) three (by simp [column, body])
    cases differ
  · exact (positions 1 two rfl).mp rfl _ body _ condFormed bodyFormed accepted

end Op

end TensorTyping
