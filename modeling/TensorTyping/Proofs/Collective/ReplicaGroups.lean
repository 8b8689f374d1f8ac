import Mathlib.Data.List.Forall2
import Mathlib.Data.List.Nodup
import Mathlib.Data.List.Perm.Subperm
import TensorTyping.Proofs.Items
import TensorTyping.ReplicaGroups

/-!
# Replica groups are partitions

A grid of replica groups is accepted exactly when its ids are those from zero up to their number,
each once, and the groups have the sizes that are asked for. By counting, ids of which none is
missing are a permutation, so the search for a bad id only serves the message. A grid that is
rejected is told each rule it breaks, once and in the order of the rules.
-/

namespace TensorTyping

namespace ReplicaGroups

variable {sameSize : Bool} {expected : Option Int} {rows : List (List Int)}

/-! ### The rules about a grid that has ids -/

/-- The rules about the groups, in the order in which they are reported. -/
inductive Rule where
  | equalSizes
  | permutation
  | expectedSize
  deriving DecidableEq

namespace Rule

/-- All rules in order. -/
def all : List Rule := [.equalSizes, .permutation, .expectedSize]

/-- What a rule asks of the rows of a grid. -/
def Holds (sameSize : Bool) (expected : Option Int) (rows : List (List Int)) : Rule → Prop
  | .equalSizes => sameSize = true → ∀ a ∈ rows, ∀ b ∈ rows, a.length = b.length
  | .permutation =>
      let ids := rows.flatMap (idsOf sameSize)
      ids.Perm ((List.range ids.length).map Int.ofNat)
  | .expectedSize => ∀ size ∈ expected, ∀ row ∈ rows, ((idsOf sameSize row).length : Int) = size

instance (sameSize : Bool) (expected : Option Int) (rows : List (List Int)) :
    (rule : Rule) → Decidable (rule.Holds sameSize expected rows)
  | .equalSizes =>
      inferInstanceAs (Decidable (sameSize = true → ∀ a ∈ rows, ∀ b ∈ rows, a.length = b.length))
  | .permutation =>
      inferInstanceAs (Decidable (List.Perm (rows.flatMap (idsOf sameSize)) _))
  | .expectedSize =>
      inferInstanceAs (Decidable (∀ size ∈ expected, ∀ row ∈ rows,
        ((idsOf sameSize row).length : Int) = size))

/-- The rules that a grid breaks, in order. -/
def broken (sameSize : Bool) (expected : Option Int) (rows : List (List Int)) : List Rule :=
  all.filter fun rule => ¬ rule.Holds sameSize expected rows

/-- The entry tells truly how the rows break the rule. -/
def Reports (sameSize : Bool) (expected : Option Int) (rows : List (List Int)) :
    Rule → String → Prop
  | .equalSizes, entry =>
      let first := (rows.headD []).length
      ∃ (i : Nat) (row : List Int), rows[i]? = some row ∧ row.length ≠ first ∧
        entry = s!"replica groups should have the same size: group 0 has {first} ids " ++
          s!"but group {i} has {row.length}"
  | .permutation, entry =>
      let ids := rows.flatMap (idsOf sameSize)
      (∃ id ∈ ids, id < 0 ∧ entry = s!"Invalid replica id {id}") ∨
        (∃ id, 2 ≤ ids.count id ∧ entry = s!"replica id #{id} seen more than once") ∨
        ∃ id < ids.length, Int.ofNat id ∉ ids ∧
          entry = s!"replica id #{id} not seen in replica groups"
  | .expectedSize, entry =>
      ∃ size ∈ expected, ∃ (i : Nat) (row : List Int), rows[i]? = some row ∧
        ((idsOf sameSize row).length : Int) ≠ size ∧
        entry = s!"group size of replica_groups must be {size}, " ++
          s!"but group {i} has {(idsOf sameSize row).length}"

end Rule

/-! ### Groups of one size -/

theorem find?_zipIdx_eq_none {test : List Int × Nat → Bool} :
    rows.zipIdx.find? test = none ↔ ∀ i row, rows[i]? = some row → test (row, i) = false := by
  rw [List.find?_eq_none]
  constructor
  · intro none i row found
    exact Bool.eq_false_iff.mpr (none (row, i) (List.mk_mem_zipIdx_iff_getElem?.mpr found))
  · rintro none ⟨row, i⟩ member
    exact Bool.eq_false_iff.mp (none i row (List.mk_mem_zipIdx_iff_getElem?.mp member))

/-- The size that is asked for is that of the first row. -/
theorem unevenness?_eq (present : rows ≠ []) :
    unevenness? sameSize rows =
      .ok (if sameSize then sizeViolation? (rows.headD []).length rows else none) := by
  cases rows with
  | nil => exact absurd rfl present
  | cons first rest =>
    cases sameSize with
    | false => rfl
    | true =>
      have found : itemAt (first :: rest) 0 = .ok first := itemAt_zero_eq_ok.mpr rfl
      rw [unevenness?, if_pos rfl, if_pos rfl, found]
      rfl

theorem sizeViolation?_eq_none :
    sizeViolation? (rows.headD []).length rows = none ↔
      ∀ a ∈ rows, ∀ b ∈ rows, a.length = b.length := by
  simp only [sizeViolation?, Option.map_eq_none_iff, find?_zipIdx_eq_none, bne_eq_false_iff_eq]
  constructor
  · intro none a ha b hb
    obtain ⟨i, foundA⟩ := List.mem_iff_getElem?.mp ha
    obtain ⟨j, foundB⟩ := List.mem_iff_getElem?.mp hb
    exact (none i a foundA).trans (none j b foundB).symm
  · intro alike i row found
    have member := List.mem_of_getElem? found
    cases rows with
    | nil => cases member
    | cons first rest => exact alike row member first List.mem_cons_self

theorem reports_of_sizeViolation? {entry : String}
    (violation : sizeViolation? (rows.headD []).length rows = some entry) :
    Rule.Reports sameSize expected rows .equalSizes entry := by
  obtain ⟨⟨row, i⟩, found, rfl⟩ := Option.map_eq_some_iff.mp violation
  have member := List.mk_mem_zipIdx_iff_getElem?.mp (List.mem_of_find?_eq_some found)
  have differs := List.find?_some found
  exact ⟨i, row, member, by simpa using differs, rfl⟩

/-! ### Ids from zero up to their number -/

theorem nodup_numbers (count : Nat) : ((List.range count).map Int.ofNat).Nodup :=
  List.Nodup.map (fun _ _ => Int.ofNat.inj) List.nodup_range

/-- Ids of which none is missing are a permutation: there is no place left for any other. -/
theorem missingId?_eq_none {ids : List Int} :
    missingId? ids = none ↔ ids.Perm ((List.range ids.length).map Int.ofNat) := by
  simp only [missingId?, Option.map_eq_none_iff, List.find?_eq_none, Bool.not_eq_true',
    Bool.not_eq_false, List.contains_iff_mem]
  constructor
  · intro none
    have within : (List.range ids.length).map Int.ofNat ⊆ ids := by
      intro id member
      obtain ⟨n, inRange, rfl⟩ := List.mem_map.mp member
      exact none n inRange
    exact ((List.subperm_of_subset (nodup_numbers _) within).perm_of_length_le (by simp)).symm
  · intro perm n inRange
    exact perm.mem_iff.mpr (List.mem_map_of_mem inRange)

/-- The scan for a bad id finds none among distinct ids that are not negative. -/
theorem badId?_eq_none_of_nodup {seen ids : List Int} (nonneg : ∀ id ∈ ids, 0 ≤ id)
    (unique : (seen ++ ids).Nodup) : badId? seen ids = none := by
  induction ids generalizing seen with
  | nil => rfl
  | cons id rest ih =>
    have moved : (seen ++ id :: rest).Perm (id :: seen ++ rest) := List.perm_middle
    have unique' := moved.nodup_iff.mp unique
    have fresh : id ∉ seen := fun member =>
      (List.nodup_cons.mp unique').1 (List.mem_append_left rest member)
    obtain ⟨first, others⟩ := List.forall_mem_cons.mp nonneg
    rw [badId?, if_neg (by omega), if_neg (by simpa using fresh)]
    exact ih others unique'

/-- The ids that were seen before count when the scan reports a repeated one. -/
theorem reports_of_badId? {seen ids : List Int} {entry : String}
    (violation : badId? seen ids = some entry) :
    (∃ id ∈ ids, id < 0 ∧ entry = s!"Invalid replica id {id}") ∨
      ∃ id, 2 ≤ (seen ++ ids).count id ∧ entry = s!"replica id #{id} seen more than once" := by
  induction ids generalizing seen with
  | nil => cases violation
  | cons id rest ih =>
    rw [badId?] at violation
    split at violation
    · rename_i negative
      exact .inl ⟨id, List.mem_cons_self, negative, (Option.some.inj violation).symm⟩
    · split at violation
      · rename_i repeated
        have before : 0 < seen.count id :=
          List.count_pos_iff.mpr (List.contains_iff_mem.mp repeated)
        refine .inr ⟨id, ?_, (Option.some.inj violation).symm⟩
        rw [List.count_append, List.count_cons_self]
        omega
      · have moved (id' : Int) : (seen ++ id :: rest).count id' = (id :: seen ++ rest).count id' :=
          List.perm_middle.count_eq id'
        rcases ih violation with ⟨id', member, negative, text⟩ | ⟨id', twice, text⟩
        · exact .inl ⟨id', List.mem_cons_of_mem _ member, negative, text⟩
        · exact .inr ⟨id', moved id' ▸ twice, text⟩

theorem idViolation?_eq_none {ids : List Int} :
    idViolation? ids = none ↔ ids.Perm ((List.range ids.length).map Int.ofNat) := by
  rw [idViolation?, Option.orElse_eq_orElse, Option.orElse_eq_or, Option.or_eq_none_iff,
    missingId?_eq_none]
  refine and_iff_right_of_imp fun perm => badId?_eq_none_of_nodup ?_ ?_
  · intro id member
    obtain ⟨n, -, rfl⟩ := List.mem_map.mp (perm.mem_iff.mp member)
    exact Int.natCast_nonneg n
  · exact perm.nodup_iff.mpr (nodup_numbers _)

theorem reports_of_idViolation? {entry : String}
    (violation : idViolation? (rows.flatMap (idsOf sameSize)) = some entry) :
    Rule.Reports sameSize expected rows .permutation entry := by
  rw [idViolation?] at violation
  cases bad : badId? [] (rows.flatMap (idsOf sameSize)) with
  | some text =>
    rw [bad] at violation
    obtain rfl := Option.some.inj violation
    rcases reports_of_badId? bad with negative | repeated
    · exact Or.inl negative
    · exact Or.inr (Or.inl repeated)
  | none =>
    rw [bad] at violation
    obtain ⟨id, found, rfl⟩ := Option.map_eq_some_iff.mp violation
    have inRange := List.mem_range.mp (List.mem_of_find?_eq_some found)
    have missing := List.find?_some found
    exact Or.inr (Or.inr ⟨id, inRange, by simpa using missing, rfl⟩)

/-! ### Groups of the expected size -/

theorem expectedViolation?_eq_none :
    expectedViolation? sameSize (.ofExtent expected) rows = none ↔
      Rule.Holds sameSize expected rows .expectedSize := by
  cases expected with
  | none => simp [expectedViolation?, Payload.ofExtent, Rule.Holds]
  | some size =>
    simp only [expectedViolation?, Payload.ofExtent, Option.map_eq_none_iff, find?_zipIdx_eq_none,
      Payload.isInt, Bool.not_eq_false', beq_iff_eq, Rule.Holds, Option.mem_some_iff, forall_eq']
    constructor
    · intro all row member
      obtain ⟨i, found⟩ := List.mem_iff_getElem?.mp member
      exact (all i row found).symm
    · intro all i row found
      exact (all row (List.mem_of_getElem? found)).symm

theorem reports_of_expectedViolation? {entry : String}
    (violation : expectedViolation? sameSize (.ofExtent expected) rows = some entry) :
    Rule.Reports sameSize expected rows .expectedSize entry := by
  cases expected with
  | none => cases violation
  | some size =>
    obtain ⟨⟨row, i⟩, found, rfl⟩ := Option.map_eq_some_iff.mp violation
    have member := List.mk_mem_zipIdx_iff_getElem?.mp (List.mem_of_find?_eq_some found)
    have differs := List.find?_some found
    refine ⟨size, rfl, i, row, member, ?_, rfl⟩
    intro same
    simp [Payload.ofExtent, Payload.isInt, same] at differs

/-! ### All rules together -/

/-- A rule that holds has no entry, and a rule that is broken has one. -/
theorem forall₂_reports {rule : Rule} {violation? : Option String}
    (none_iff : violation? = none ↔ rule.Holds sameSize expected rows)
    (reports : ∀ entry, violation? = some entry → rule.Reports sameSize expected rows entry) :
    List.Forall₂ (Rule.Reports sameSize expected rows)
      ([rule].filter fun rule => ¬ rule.Holds sameSize expected rows) violation?.toList := by
  cases violation? with
  | none => simp [none_iff.mp rfl]
  | some entry =>
    have fails : ¬ rule.Holds sameSize expected rows := fun holds => by
      cases none_iff.mpr holds
    simp [fails, reports entry rfl]

theorem exists_violations (sameSize : Bool) (expected : Option Int) (present : rows ≠ []) :
    ∃ entries, violations sameSize (.ofExtent expected) rows = .ok entries ∧
      List.Forall₂ (Rule.Reports sameSize expected rows) (Rule.broken sameSize expected rows)
        entries := by
  have sizes : List.Forall₂ (Rule.Reports sameSize expected rows)
      ([Rule.equalSizes].filter fun rule => ¬ rule.Holds sameSize expected rows)
      (if sameSize then sizeViolation? (rows.headD []).length rows else none).toList := by
    apply forall₂_reports
    · cases sameSize with
      | false => simp [Rule.Holds]
      | true =>
        rw [if_pos rfl, sizeViolation?_eq_none]
        exact ⟨fun alike _ => alike, fun holds => holds rfl⟩
    · intro entry violation
      split at violation
      · exact reports_of_sizeViolation? violation
      · cases violation
  have ids : List.Forall₂ (Rule.Reports sameSize expected rows)
      ([Rule.permutation].filter fun rule => ¬ rule.Holds sameSize expected rows)
      (idViolation? (rows.flatMap (idsOf sameSize))).toList :=
    forall₂_reports idViolation?_eq_none fun _ => reports_of_idViolation?
  have expectedSizes : List.Forall₂ (Rule.Reports sameSize expected rows)
      ([Rule.expectedSize].filter fun rule => ¬ rule.Holds sameSize expected rows)
      (expectedViolation? sameSize (.ofExtent expected) rows).toList :=
    forall₂_reports expectedViolation?_eq_none fun _ => reports_of_expectedViolation?
  have parts := List.rel_append (List.rel_append sizes ids) expectedSizes
  simp only [← List.filter_append] at parts
  refine ⟨_, ?_, parts⟩
  rw [violations, unevenness?_eq present]
  rfl

theorem violations_eq_nil (present : rows ≠ []) :
    violations sameSize (.ofExtent expected) rows = .ok [] ↔
      ∀ rule : Rule, rule.Holds sameSize expected rows := by
  obtain ⟨entries, found, reports⟩ := exists_violations sameSize expected present
  have listed : ∀ rule, rule ∈ Rule.all := fun rule => by cases rule <;> decide
  rw [found, Except.ok.injEq, ← List.length_eq_zero_iff, ← reports.length_eq,
    List.length_eq_zero_iff, Rule.broken, List.filter_eq_nil_iff]
  simp only [listed, true_implies, decide_eq_true_eq, not_not]

theorem ne_nil_of_ids (nonempty : rows.flatMap (idsOf sameSize) ≠ []) : rows ≠ [] := by
  rintro rfl
  exact nonempty rfl

theorem verifyRows_eq_ok {result : List (List Int)} :
    verifyRows rows sameSize (.ofExtent expected) = .ok result ↔
      result = rows ∧ rows.flatMap (idsOf sameSize) ≠ [] ∧
        ∀ rule : Rule, rule.Holds sameSize expected rows := by
  by_cases empty : rows.flatMap (idsOf sameSize) = []
  · simp [verifyRows, empty]
  · have present := ne_nil_of_ids empty
    obtain ⟨entries, found, -⟩ := exists_violations sameSize expected present
    rw [← violations_eq_nil present, verifyRows, if_neg (by simpa using empty), found,
      Check.ok_bind]
    cases entries with
    | nil => simp [empty, eq_comm]
    | cons first others => simp

/-- A grid that has ids and is rejected is told every rule that it breaks. -/
theorem verifyRows_eq_error {fault : Fault} (nonempty : rows.flatMap (idsOf sameSize) ≠ [])
    (rejected : verifyRows rows sameSize (.ofExtent expected) = .error fault) :
    ∃ message notes, fault = .diagnostic { kind := .invalidReplicaGroups, message, notes } ∧
      List.Forall₂ (Rule.Reports sameSize expected rows) (Rule.broken sameSize expected rows)
        (message :: notes) := by
  obtain ⟨entries, found, reports⟩ :=
    exists_violations sameSize expected (ne_nil_of_ids nonempty)
  rw [verifyRows, if_neg (by simpa using nonempty), found, Check.ok_bind] at rejected
  cases entries with
  | nil => cases rejected
  | cons first others => exact ⟨first, others, (Except.error.inj rejected).symm, reports⟩

/-! ### Groups of one size, counted -/

theorem foldl_max_replicate (size count : Nat) :
    (List.replicate count size).foldl max size = size := by
  induction count with
  | zero => rfl
  | succ count ih => rw [List.replicate_succ, List.foldl_cons, Nat.max_self, ih]

/-- Groups of one size whose ids are numbered from zero on have that size, and together as many ids
    as there are groups of that size. -/
theorem groupSize_of_equalSizes (nonempty : rows.flatMap (idsOf true) ≠ [])
    (alike : ∀ a ∈ rows, ∀ b ∈ rows, a.length = b.length)
    (perm : Rule.Holds true expected rows .permutation) :
    ∃ size, groupSize rows = .ok size ∧ 1 ≤ size ∧
      (rows.flatMap (idsOf true)).length = rows.length * size := by
  cases rows with
  | nil => exact absurd rfl nonempty
  | cons first rest =>
    -- No id is negative, so none is a padding and every group counts all its ids.
    have counts : ∀ row ∈ first :: rest, (idsOf false row).length = first.length := by
      intro row member
      have own : idsOf false row = row := by
        refine List.filter_eq_self.mpr fun id inside => ?_
        have among : id ∈ (first :: rest).flatMap (idsOf true) :=
          List.mem_flatMap.mpr ⟨row, member, inside⟩
        obtain ⟨n, -, rfl⟩ := List.mem_map.mp (perm.mem_iff.mp among)
        simp [paddingId]
      rw [own]
      exact alike row member first List.mem_cons_self
    have sizes : (first :: rest).map (fun row => (idsOf false row).length) =
        List.replicate (rest.length + 1) first.length := List.map_eq_replicate_iff.mpr counts
    have lengths : (first :: rest).map (fun row => (idsOf true row).length) =
        List.replicate (rest.length + 1) first.length :=
      List.map_eq_replicate_iff.mpr fun row member => alike row member first List.mem_cons_self
    have total : ((first :: rest).flatMap (idsOf true)).length =
        (first :: rest).length * first.length := by
      rw [List.length_flatMap, lengths, List.sum_replicate_nat, List.length_cons]
    refine ⟨first.length, ?_, ?_, total⟩
    · rw [groupSize, sizes]
      exact congrArg Except.ok (foldl_max_replicate _ _)
    · have positive := List.length_pos_iff.mpr nonempty
      rw [total] at positive
      exact Nat.pos_of_mul_pos_left positive

/-- The validator accepts exactly the partitions of the ids from zero up to their number, with
    groups of one size or of the expected size where these are asked for, and it gives the rows
    back. A grid that has ids is rejected with one entry for each broken rule, in the order of the
    rules. In groups of one size, that size is positive and the ids are as many as the groups
    take. -/
theorem verify_decides_partition {groups : Payload} {rows : List (List Int)}
    (decoded : groups.decodeRows = .ok (some rows)) (sameSize : Bool) (expected : Option Int) :
    let ids := rows.flatMap (idsOf sameSize)
    let answer := verify groups sameSize (.ofExtent expected)
    (∀ result, answer = .ok result ↔
      result = rows ∧ ids ≠ [] ∧ ∀ rule : Rule, rule.Holds sameSize expected rows) ∧
    (ids ≠ [] → ∀ fault, answer = .error fault →
      ∃ message notes, fault = .diagnostic { kind := .invalidReplicaGroups, message, notes } ∧
        List.Forall₂ (Rule.Reports sameSize expected rows) (Rule.broken sameSize expected rows)
          (message :: notes)) ∧
    (sameSize = true → answer = .ok rows →
      ∃ size, groupSize rows = .ok size ∧ 1 ≤ size ∧ ids.length = rows.length * size) := by
  intro ids answer
  have same : answer = verifyRows rows sameSize (.ofExtent expected) := by
    simp only [answer, verify, decoded, Check.ok_bind]
  rw [same]
  refine ⟨fun result => verifyRows_eq_ok, fun nonempty fault => verifyRows_eq_error nonempty, ?_⟩
  rintro rfl accepted
  obtain ⟨-, nonempty, rules⟩ := verifyRows_eq_ok.mp accepted
  exact groupSize_of_equalSizes nonempty (rules .equalSizes rfl) (rules .permutation)

/-- Groups that are filled up are accepted when they may differ in size, and a grid that breaks
    every rule is told so three times. -/
theorem verify_decides_partition_padded_and_broken :
    let padded : Payload := .list [.ofInts [3, 1, 2], .ofInts [0, -1, -1]]
    let broken : Payload := .list [.ofInts [0, 1], .ofInts [1]]
    padded.decodeRows = .ok (some [[3, 1, 2], [0, -1, -1]]) ∧
      verify padded false .null = .ok [[3, 1, 2], [0, -1, -1]] ∧
      broken.decodeRows = .ok (some [[0, 1], [1]]) ∧
      ∃ message notes, verify broken true (.int 2) =
          .error (.diagnostic { kind := .invalidReplicaGroups, message, notes }) ∧
        List.Forall₂ (Rule.Reports true (some 2) [[0, 1], [1]]) Rule.all (message :: notes) := by
  intro padded broken
  have paddedRows : padded.decodeRows = .ok (some [[3, 1, 2], [0, -1, -1]]) := rfl
  have brokenRows : broken.decodeRows = .ok (some [[0, 1], [1]]) := rfl
  obtain ⟨accepts, -, -⟩ := verify_decides_partition paddedRows false none
  obtain ⟨accepts', rejects, -⟩ := verify_decides_partition brokenRows true (some 2)
  refine ⟨paddedRows, (accepts _).mpr ⟨rfl, by decide, ?_⟩, brokenRows, ?_⟩
  · intro rule
    cases rule <;> decide
  · cases answer : verify broken true (.ofExtent (some 2)) with
    | ok result =>
      have unequal := ((accepts' result).mp answer).2.2 .equalSizes
      exact absurd unequal (by decide)
    | error fault =>
      obtain ⟨message, notes, rfl, reports⟩ := rejects (by decide) fault answer
      exact ⟨message, notes, answer, reports⟩

end ReplicaGroups

end TensorTyping
