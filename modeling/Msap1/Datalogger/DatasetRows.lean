import Msap1.Datalogger.Generator

/-! The rows of a dataset against their windows, and their cells against exact arithmetic. -/

namespace Msap1.Datalogger

open Meter (MeasurementPeriod MeasurementQuality)

def decimalText (number : Decimal) : Bytes :=
  (if number.negative then text "-" else []) ++ decimal number.whole ++
    (if number.fraction = [] then [] else text "." ++ number.fraction.map digitByte)

theorem digitByte_eq_zero_iff {digit : Nat} (small : digit < 10) :
    digitByte digit = digitByte 0 ↔ digit = 0 := by
  interval_cases digit <;> decide

theorem decimal_eq_zero_iff (number : Nat) : decimal number = text "0" ↔ number = 0 := by
  constructor
  · intro same
    by_contra differs
    have digits : (Nat.digits 10 number).reverse.map digitByte = [digitByte 0] := by
      rw [decimal, if_neg differs] at same
      exact same
    obtain ⟨digit, only, zero⟩ := List.map_eq_singleton_iff.mp digits
    have single : Nat.digits 10 number = [digit] := by
      rw [← List.reverse_reverse (Nat.digits 10 number), only, List.reverse_singleton]
    have small : digit < 10 := by
      apply Nat.digits_lt_base (by decide : 1 < 10) (m := number)
      rw [single]
      exact List.mem_singleton_self digit
    have none : digit = 0 := (digitByte_eq_zero_iff small).mp zero
    have value := Nat.ofDigits_digits 10 number
    rw [single, none] at value
    exact differs value.symm
  · rintro rfl
    rfl

theorem fractionDigits_eq (places remainder divisor : Nat) :
    fractionDigits places remainder divisor =
      (Decimal.expansion places remainder divisor).map digitByte := by
  induction places generalizing remainder with
  | zero => rfl
  | succ places ih =>
      rw [fractionDigits, Decimal.expansion, ih]
      split
      · rfl
      · rfl

theorem rdropWhile_digits {digits : List Nat} (small : ∀ digit ∈ digits, digit < 10) :
    (digits.map digitByte).rdropWhile (fun digit => digit = digitByte 0) =
      (Decimal.trim digits).map digitByte := by
  induction digits using List.reverseRecOn with
  | nil => rfl
  | append_singleton digits digit ih =>
      have own := digitByte_eq_zero_iff (small digit (by simp))
      rw [List.map_append, List.map_singleton, List.rdropWhile_concat, Decimal.trim,
        List.rdropWhile_concat]
      simp only [own]
      split
      · exact ih fun other member => small other (List.mem_append_left _ member)
      · rw [List.map_append, List.map_singleton]

def unsignedText (whole : Nat) (fraction : List Nat) : Bytes :=
  if fraction.map digitByte = [] then decimal whole
  else decimal whole ++ (text "." ++ fraction.map digitByte)

theorem unsignedText_eq_zero_iff (whole : Nat) (fraction : List Nat) :
    unsignedText whole fraction = text "0" ↔ whole = 0 ∧ fraction = [] := by
  cases fraction with
  | nil =>
      rw [unsignedText, List.map_nil, if_pos rfl, decimal_eq_zero_iff]
      exact ⟨fun zero => ⟨zero, rfl⟩, And.left⟩
  | cons digit digits =>
      constructor
      · intro same
        have long := congrArg List.length same
        simp [unsignedText, text] at long
        omega
      · rintro ⟨-, none⟩
        cases none

theorem decimalText_eq (number : Decimal) :
    decimalText number =
      if number.negative then text "-" ++ unsignedText number.whole number.fraction
      else unsignedText number.whole number.fraction := by
  unfold decimalText unsignedText
  simp only [List.map_eq_nil_iff]
  cases number.negative <;> by_cases empty : number.fraction = [] <;> simp [empty]

theorem decimalRatio_eq (numerator : Int) {denominator : Nat} (positive : 0 < denominator) :
    decimalRatio numerator denominator =
      .ok (decimalText
        (Decimal.ofRatio 6 (numerator < 0) numerator.natAbs denominator positive)) := by
  have proper := Nat.mod_lt numerator.natAbs positive
  have digits : (fractionDigits 6 (numerator.natAbs % denominator) denominator).rdropWhile
      (fun digit => digit = digitByte 0) =
        (Decimal.trim (Decimal.expansion 6 (numerator.natAbs % denominator) denominator)).map
          digitByte := by
    rw [fractionDigits_eq, rdropWhile_digits (Decimal.expansion_digits proper)]
  have shown := decimalText_eq
    (Decimal.ofRatio 6 (numerator < 0) numerator.natAbs denominator positive)
  have zero := unsignedText_eq_zero_iff (numerator.natAbs / denominator)
    (Decimal.trim (Decimal.expansion 6 (numerator.natAbs % denominator) denominator))
  rw [shown, decimalRatio, if_neg (Nat.ne_of_gt positive)]
  simp only [digits]
  refine congrArg Except.ok (if_congr ?_ rfl rfl)
  refine (and_congr_right fun _ => not_congr zero).trans ?_
  simp only [Decimal.ofRatio, Bool.and_eq_true, Bool.or_eq_true, decide_eq_true_eq, not_and_or]

def mean (samples : List HistoricalSample) : ℚ :=
  (samples.map HistoricalSample.value).sum / samples.length

/-- What a cell shows for the valid samples of its row in their order. The circular mean, which
floating point computes, is not described. -/
def Reference : MeterAttributeCalculation → List HistoricalSample → Option Bytes → Prop
  | _, [], value => value = none
  | .minimum, front :: rest, value =>
      ∃ least, IsLeast {number | ∃ sample ∈ front :: rest, sample.value = number} least ∧
        value = some (signedDecimal least)
  | .maximum, front :: rest, value =>
      ∃ greatest, IsGreatest {number | ∃ sample ∈ front :: rest, sample.value = number} greatest ∧
        value = some (signedDecimal greatest)
  | .average, front :: rest, value =>
      ∃ number : Decimal,
        (∀ other : Decimal,
          other.value = Decimal.truncated 6 (mean (front :: rest)) ↔ other = number) ∧
        value = some (decimalText number)
  | .first, front :: _, value => value = some (signedDecimal front.value)
  | .last, front :: rest, value =>
      value = some (signedDecimal ((front :: rest).getLast (List.cons_ne_nil _ _)).value)
  | .delta, front :: rest, value =>
      value =
        if front.resetEpoch.isSome ∧
            front.resetEpoch = ((front :: rest).getLast (List.cons_ne_nil _ _)).resetEpoch then
          some (signedDecimal
            (((front :: rest).getLast (List.cons_ne_nil _ _)).value - front.value))
        else none
  | .circularAverage, _ :: _, _ => True

/-- An order of the valid samples by the time and the sequence number of the source. -/
structure InOrder (ordered samples : List HistoricalSample) : Prop where
  perm : ordered.Perm (samples.filter fun sample => sample.quality = .valid)
  ordered : ordered.Pairwise fun left right => ¬measuredBefore right left

theorem bestElement_mem (better : Int → Int → Bool) (front : HistoricalSample)
    (rest : List HistoricalSample) : bestElement better front rest ∈ front :: rest := by
  induction rest generalizing front with
  | nil => exact List.mem_singleton_self front
  | cons next rest ih =>
      rw [bestElement]
      rcases List.mem_cons.mp (ih (if better next.value front.value then next else front)) with
        same | member
      · rw [same]
        split
        · exact List.mem_cons_of_mem _ List.mem_cons_self
        · exact List.mem_cons_self
      · exact List.mem_cons_of_mem _ (List.mem_cons_of_mem _ member)

/-- A strict order of the values in which what is incomparable is tied. -/
structure Ranks (better : Int → Int → Bool) : Prop where
  irrefl : ∀ value, ¬better value value = true
  trans : ∀ {first second third}, better first second = true → better second third = true →
    better first third = true
  cotrans : ∀ {first third} second, better first third = true →
    better first second = true ∨ better second third = true

theorem bestElement_best {better : Int → Int → Bool} (ranks : Ranks better)
    (front : HistoricalSample) (rest : List HistoricalSample) :
    ∀ sample ∈ front :: rest,
      ¬better sample.value (bestElement better front rest).value = true := by
  induction rest generalizing front with
  | nil =>
      intro sample member
      rw [List.mem_singleton.mp member]
      exact ranks.irrefl front.value
  | cons next rest ih =>
      intro sample member
      rw [bestElement]
      have later := ih (if better next.value front.value then next else front)
      have best := later _ List.mem_cons_self
      rcases List.mem_cons.mp member with rfl | member
      · intro beats
        by_cases beaten : better next.value sample.value = true
        · rw [if_pos beaten] at best beats
          exact best (ranks.trans beaten beats)
        · rw [if_neg beaten] at best beats
          exact best beats
      · rcases List.mem_cons.mp member with rfl | member
        · intro beats
          by_cases beaten : better sample.value front.value = true
          · rw [if_pos beaten] at best beats
            exact best beats
          · rw [if_neg beaten] at best beats
            rcases ranks.cotrans front.value beats with beaten' | beats'
            · exact beaten beaten'
            · exact best beats'
        · exact later sample (List.mem_cons_of_mem _ member)

theorem ranks_less : Ranks fun left right => left < right := by
  constructor <;> simp only [decide_eq_true_eq] <;> intros <;> omega

theorem ranks_greater : Ranks fun left right => right < left := by
  constructor <;> simp only [decide_eq_true_eq] <;> intros <;> omega

theorem minElement_least (front : HistoricalSample) (rest : List HistoricalSample) :
    IsLeast {number | ∃ sample ∈ front :: rest, sample.value = number}
      (minElement front rest).value := by
  constructor
  · exact ⟨_, bestElement_mem _ front rest, rfl⟩
  · rintro number ⟨sample, member, rfl⟩
    have best := bestElement_best ranks_less front rest sample member
    exact not_lt.mp fun less => best (decide_eq_true less)

theorem maxElement_greatest (front : HistoricalSample) (rest : List HistoricalSample) :
    IsGreatest {number | ∃ sample ∈ front :: rest, sample.value = number}
      (maxElement front rest).value := by
  constructor
  · exact ⟨_, bestElement_mem _ front rest, rfl⟩
  · rintro number ⟨sample, member, rfl⟩
    have best := bestElement_best ranks_greater front rest sample member
    exact not_lt.mp fun less => best (decide_eq_true less)

namespace HistoricalDatasetGenerator

variable (generator : HistoricalDatasetGenerator)

theorem calculate_ok (calculation : MeterAttributeCalculation) (front : HistoricalSample)
    (rest : List HistoricalSample) (result : DatasetCell) (blank : result.value = none) :
    ∃ cell, generator.calculate calculation front rest result = .ok cell ∧
      Reference calculation (front :: rest) cell.value := by
  cases calculation with
  | minimum => exact ⟨_, rfl, _, minElement_least front rest, rfl⟩
  | maximum => exact ⟨_, rfl, _, maxElement_greatest front rest, rfl⟩
  | average =>
      have positive : 0 < rest.length + 1 := Nat.succ_pos _
      have shown := decimalRatio_eq ((front :: rest).map HistoricalSample.value).sum positive
      have value := Decimal.ofRatio_value 6 ((front :: rest).map HistoricalSample.value).sum _
        positive
      rw [calculate, shown]
      refine ⟨_, rfl, _, ?_, rfl⟩
      intro other
      constructor
      · exact fun same => Decimal.value_injective (same.trans value.symm)
      · rintro rfl
        exact value
  | last => exact ⟨_, rfl, rfl⟩
  | circularAverage =>
      rw [calculate]
      split
      · exact ⟨_, rfl, trivial⟩
      · exact ⟨_, rfl, trivial⟩
  | first => exact ⟨_, rfl, rfl⟩
  | delta =>
      rw [calculate]
      dsimp only [Reference]
      by_cases carried : front.resetEpoch.isSome ∧
          front.resetEpoch = ((front :: rest).getLast (List.cons_ne_nil _ _)).resetEpoch
      · obtain ⟨present, same⟩ := carried
        have kept : ¬(front.resetEpoch.isNone ∨
            ((front :: rest).getLast (List.cons_ne_nil _ _)).resetEpoch.isNone ∨
            front.resetEpoch ≠ ((front :: rest).getLast (List.cons_ne_nil _ _)).resetEpoch) := by
          rw [← same, Option.isNone_iff_eq_none]
          rintro (absent | absent | differs)
          · rw [absent] at present
            cases present
          · rw [absent] at present
            cases present
          · exact differs rfl
        rw [if_neg kept, if_pos ⟨present, same⟩]
        exact ⟨_, rfl, rfl⟩
      · have broken : front.resetEpoch.isNone ∨
            ((front :: rest).getLast (List.cons_ne_nil _ _)).resetEpoch.isNone ∨
            front.resetEpoch ≠ ((front :: rest).getLast (List.cons_ne_nil _ _)).resetEpoch := by
          rcases not_and_or.mp carried with absent | differs
          · exact Or.inl
              (Option.isNone_iff_eq_none.mpr (Option.not_isSome_iff_eq_none.mp absent))
          · exact Or.inr (Or.inr differs)
        rw [if_pos broken, if_neg carried]
        exact ⟨_, rfl, blank⟩

theorem aggregate_ok (samples : List HistoricalSample) (calculation : MeterAttributeCalculation)
    (expected : Nat) :
    ∃ cell, generator.aggregate samples calculation expected = .ok cell ∧
      ∃ ordered, InOrder ordered samples ∧ Reference calculation ordered cell.value := by
  have order : InOrder
      (generator.sortValid.sort (samples.filter fun sample => sample.quality = .valid)) samples :=
    ⟨generator.sortValid.perm _, generator.sortValid.ordered _⟩
  rw [aggregate]
  dsimp only
  split
  · next none =>
      rw [none] at order
      cases calculation <;> exact ⟨_, rfl, [], order, rfl⟩
  · next front rest sorted =>
      rw [sorted] at order
      obtain ⟨cell, calculated, value⟩ := generator.calculate_ok calculation front rest
        { expectedSamples := expected
          contributingSamples := (samples.filter fun sample => sample.quality = .valid).length
          complete := expected ≠ 0 ∧
            expected ≤ (samples.filter fun sample => sample.quality = .valid).length
          quality := .valid } rfl
      exact ⟨cell, calculated, front :: rest, order, value⟩

end HistoricalDatasetGenerator

/-- Rows side by side that cover a window, none of them empty. -/
structure Partition (window : UtcWindow) (rows : List UtcWindow) : Prop where
  valid : ∀ row ∈ rows, row.valid
  covers : ∀ time, window.Holds time ↔ ∃ row ∈ rows, row.Holds time
  apart : rows.Pairwise fun earlier later => earlier.finish ≤ later.start

theorem rowWindows_partition {finish interval : Int} (positive : 0 < interval) (fuel : Nat)
    (start : Int) (ordered : start ≤ finish) (whole : interval ∣ finish - start)
    (enough : finish - start ≤ fuel) :
    Partition ⟨start, finish⟩
      (HistoricalDatasetGenerator.rowWindows finish interval fuel start) := by
  induction fuel generalizing start with
  | zero =>
      have none : ∀ time, ¬UtcWindow.Holds ⟨start, finish⟩ time := by
        rintro time ⟨low, high⟩
        dsimp only at low high
        omega
      constructor
      · exact fun row member => nomatch member
      · exact fun time =>
          ⟨fun held => absurd held (none time), fun ⟨_, member, _⟩ => nomatch member⟩
      · exact List.Pairwise.nil
  | succ fuel ih =>
      rw [HistoricalDatasetGenerator.rowWindows]
      by_cases more : start < finish
      · have within : interval ≤ finish - start := Int.le_of_dvd (by omega) whole
        have rest := ih (start + interval) (by omega)
          (by rw [← sub_sub]; exact dvd_sub whole (dvd_refl interval)) (by omega)
        rw [if_pos more]
        constructor
        · intro row member
          rcases List.mem_cons.mp member with rfl | member
          · exact (by omega : start < start + interval)
          · exact rest.valid row member
        · intro time
          rw [List.exists_mem_cons_iff, ← rest.covers time]
          unfold UtcWindow.Holds
          dsimp only
          omega
        · refine List.pairwise_cons.mpr ⟨?_, rest.apart⟩
          intro row member
          have own : row.Holds row.start := ⟨le_refl _, rest.valid row member⟩
          exact ((rest.covers row.start).mpr ⟨row, member, own⟩).1
      · have none : ∀ time, ¬UtcWindow.Holds ⟨start, finish⟩ time := by
          rintro time ⟨low, high⟩
          dsimp only at low high
          omega
        rw [if_neg more]
        constructor
        · exact fun row member => nomatch member
        · exact fun time =>
            ⟨fun held => absurd held (none time), fun ⟨_, member, _⟩ => nomatch member⟩
        · exact List.Pairwise.nil

theorem partition_count {window : UtcWindow} {rows : List UtcWindow}
    (partition : Partition window rows) (time : Int) :
    rows.countP (fun row => row.Holds time) = if window.Holds time then 1 else 0 := by
  have once : ∀ rows : List UtcWindow,
      rows.Pairwise (fun earlier later => earlier.finish ≤ later.start) →
        rows.countP (fun row => row.Holds time) ≤ 1 := by
    intro rows
    induction rows with
    | nil => exact fun _ => Nat.zero_le 1
    | cons row rows ih =>
        intro apart
        obtain ⟨first, rest⟩ := List.pairwise_cons.mp apart
        by_cases held : row.Holds time
        · have none : rows.countP (fun row => row.Holds time) = 0 := by
            rw [List.countP_eq_zero]
            intro other member holds
            have after := first other member
            have low := (of_decide_eq_true holds).1
            have high := held.2
            omega
          rw [List.countP_cons, none]
          split <;> omega
        · rw [List.countP_cons_of_neg (by simpa using held)]
          exact ih rest
  have most := once rows partition.apart
  split
  · next held =>
      obtain ⟨row, member, holds⟩ := (partition.covers time).mp held
      have some_row : 0 < rows.countP (fun row => row.Holds time) :=
        List.countP_pos_iff.mpr ⟨row, member, decide_eq_true holds⟩
      omega
  · next free =>
      rw [List.countP_eq_zero]
      intro row member holds
      exact free ((partition.covers time).mpr ⟨row, member, of_decide_eq_true holds⟩)

theorem sum_held (rows : List UtcWindow) (time : Int) (count : Nat) :
    (rows.map fun row => if row.Holds time then count else 0).sum =
      rows.countP (fun row => row.Holds time) * count := by
  induction rows with
  | nil => simp
  | cons row rows ih =>
      rw [List.map_cons, List.sum_cons, ih, List.countP_cons]
      by_cases held : row.Holds time <;> simp [held, Nat.add_mul, Nat.add_comm]

theorem count_filter_if (samples : List HistoricalSample) (chosen : HistoricalSample → Bool)
    (sample : HistoricalSample) :
    (samples.filter chosen).count sample = if chosen sample then samples.count sample else 0 := by
  split
  · next kept => exact List.count_filter kept
  · next dropped =>
      exact List.count_eq_zero.mpr fun member => dropped (List.mem_filter.mp member).2

theorem buckets_once {window : UtcWindow} {rows : List UtcWindow}
    (partition : Partition window rows) (samples : List HistoricalSample)
    (key : MeterAttributeKey) :
    (rows.flatMap (HistoricalDatasetGenerator.bucket samples key)).Perm
      (samples.filter fun sample =>
        sample.attributeKey = key ∧ window.Holds sample.measuredAt) := by
  rw [List.perm_iff_count]
  intro sample
  have own : ∀ row : UtcWindow,
      (HistoricalDatasetGenerator.bucket samples key row).count sample =
        if row.Holds sample.measuredAt then
          (if sample.attributeKey = key then samples.count sample else 0)
        else 0 := by
    intro row
    have shape : HistoricalDatasetGenerator.bucket samples key row = samples.filter fun sample =>
        sample.attributeKey = key ∧ row.Holds sample.measuredAt := rfl
    rw [shape, count_filter_if]
    by_cases held : row.Holds sample.measuredAt <;> by_cases same : sample.attributeKey = key <;>
      simp [held, same]
  have shares : List.count sample ∘ HistoricalDatasetGenerator.bucket samples key =
      fun row => if row.Holds sample.measuredAt then
        (if sample.attributeKey = key then samples.count sample else 0) else 0 := funext own
  rw [List.count_flatMap, shares, sum_held, partition_count partition, count_filter_if]
  by_cases held : window.Holds sample.measuredAt <;> by_cases same : sample.attributeKey = key <;>
    simp [held, same]

theorem mapM_forall₂ {Item Result : Type} {step : Item → Except Failure Result}
    {Good : Item → Result → Prop} {items : List Item}
    (each : ∀ item ∈ items, ∃ result, step item = .ok result ∧ Good item result) :
    ∃ results, items.mapM step = .ok results ∧ List.Forall₂ Good items results := by
  induction items with
  | nil => exact ⟨[], rfl, List.Forall₂.nil⟩
  | cons item items ih =>
      obtain ⟨result, done, good⟩ := each item List.mem_cons_self
      obtain ⟨results, rest, all⟩ :=
        ih fun other member => each other (List.mem_cons_of_mem _ member)
      refine ⟨result :: results, ?_, List.Forall₂.cons good all⟩
      rw [List.mapM_cons, done, rest]
      rfl

namespace HistoricalDatasetGenerator

variable (generator : HistoricalDatasetGenerator)

/-- What `generate` asks of a selection. -/
structure Supported (period : MeasurementPeriod) (selection : AttributeSelection) : Prop where
  defined : selection.attributeKey.id < MeterAttributeKey.definedAttributeCount
  historian : selection.attributeKey.supportsHistorian period = true
  calculation : selection.calculation ∈
    MeterAttributeKey.calculationsFor (MeterAttributeKey.valueKindFor selection.attributeKey.id)

def identity (selection : AttributeSelection) : Nat × MeterAttributeCalculation :=
  (selection.attributeKey.id, selection.calculation)

/-- The attributes that the source is asked for, each once. -/
def requested (selections : List AttributeSelection) (attributes : List MeterAttributeKey) :
    List MeterAttributeKey :=
  selections.foldl (fun attributes selection =>
    if selection.attributeKey ∈ attributes then attributes
    else attributes ++ [selection.attributeKey]) attributes

theorem selectionStep_ok_iff {period : MeasurementPeriod} {selected after : Selected}
    {selection : AttributeSelection} :
    generator.selectionStep period selected selection = .ok after ↔
      Supported period selection ∧ identity selection ∉ selected.identities ∧
        after =
          { attributes := requested [selection] selected.attributes
            identities := selected.identities ++ [identity selection]
            columns := selected.columns ++ [generator.columnFor selection] } := by
  unfold selectionStep
  dsimp only
  split
  · next unknown =>
      constructor
      · intro result
        cases result
      · rintro ⟨supported, -, -⟩
        exact absurd supported.defined (Nat.not_lt.mpr unknown)
  · next known =>
      split
      · next unsupported =>
          constructor
          · intro result
            cases result
          · rintro ⟨supported, -, -⟩
            rcases unsupported with historian | calculation
            · exact absurd supported.historian historian
            · exact absurd supported.calculation calculation
      · next supported =>
          rw [not_or, not_not, not_not] at supported
          split
          · next duplicate =>
              constructor
              · intro result
                cases result
              · rintro ⟨-, fresh, -⟩
                exact absurd duplicate fresh
          · next fresh =>
              constructor
              · intro result
                cases result
                exact ⟨⟨Nat.not_le.mp known, supported.1, supported.2⟩, fresh, rfl⟩
              · rintro ⟨-, -, rfl⟩
                rfl

theorem selections_ok_iff {period : MeasurementPeriod} {selections : List AttributeSelection}
    {selected after : Selected} (nodup : selected.identities.Nodup) :
    selections.foldlM (generator.selectionStep period) selected = .ok after ↔
      (∀ selection ∈ selections, Supported period selection) ∧
        (selected.identities ++ selections.map identity).Nodup ∧
        after =
          { attributes := requested selections selected.attributes
            identities := selected.identities ++ selections.map identity
            columns := selected.columns ++ selections.map generator.columnFor } := by
  induction selections generalizing selected with
  | nil => simp [pure, Except.pure, requested, nodup, eq_comm]
  | cons selection selections ih =>
      have grown : identity selection ∉ selected.identities →
          (selected.identities ++ [identity selection]).Nodup := by
        intro fresh
        rw [List.nodup_append]
        refine ⟨nodup, List.nodup_singleton _, ?_⟩
        intro left member right own same
        rw [List.mem_singleton.mp own] at same
        exact fresh (same ▸ member)
      rw [List.foldlM_cons]
      constructor
      · intro result
        obtain ⟨middle, first, rest⟩ := Loops.bind_ok result
        obtain ⟨supported, fresh, rfl⟩ := generator.selectionStep_ok_iff.mp first
        obtain ⟨others, distinct, shape⟩ := (ih (grown fresh)).mp rest
        refine ⟨List.forall_mem_cons.mpr ⟨supported, others⟩, ?_, ?_⟩
        · simpa using distinct
        · simpa [requested] using shape
      · rintro ⟨supported, distinct, shape⟩
        obtain ⟨own, others⟩ := List.forall_mem_cons.mp supported
        have fresh : identity selection ∉ selected.identities := by
          intro member
          exact (List.nodup_append.mp distinct).2.2 _ member _ List.mem_cons_self rfl
        have first := generator.selectionStep_ok_iff.mpr ⟨own, fresh, rfl⟩
        rw [first]
        refine (ih (grown fresh)).mpr ⟨others, ?_, ?_⟩
        · simpa using distinct
        · simpa [requested] using shape

/-- The checks of `generate` before it asks the source. -/
structure Admitted (job : DatalogJobSnapshot) (window : UtcWindow) : Prop where
  jobId : safeId job.jobId = true
  revision : job.revision ≠ 0
  productId : job.productId ≠ []
  deviceId : job.deviceId ≠ []
  valid : window.valid
  duration : window.durationNanoseconds = job.generationIntervalNanoseconds
  positive : 0 < job.rowIntervalNanoseconds
  whole : job.rowIntervalNanoseconds ∣ job.generationIntervalNanoseconds
  selections : job.selections ≠ []
  supported : ∀ selection ∈ job.selections, Supported job.sourcePeriod selection
  distinct : (job.selections.map identity).Nodup

/-- The samples that the source returns for a job. -/
def Returned (job : DatalogJobSnapshot) (window : UtcWindow) (samples : List HistoricalSample) :
    Prop :=
  generator.source.query job.sourcePeriod (requested job.selections []) window = .ok samples

/-- The cells of a row show the samples that the window of the row holds. -/
def ExactRow (job : DatalogJobSnapshot) (samples : List HistoricalSample) (row : DatasetRow) :
    Prop :=
  List.Forall₂ (fun selection cell => ∃ ordered,
    InOrder ordered (bucket samples selection.attributeKey row.window) ∧
      Reference selection.calculation ordered cell.value) job.selections row.cells

theorem rowFor_ok (job : DatalogJobSnapshot) (samples : List HistoricalSample)
    (window : UtcWindow) :
    ∃ row, generator.rowFor job samples window = .ok row ∧
      row.window = window ∧ ExactRow job samples row := by
  have each : ∀ selection ∈ job.selections, ∃ cell,
      generator.cellFor job samples window selection = .ok cell ∧ ∃ ordered,
        InOrder ordered (bucket samples selection.attributeKey window) ∧
          Reference selection.calculation ordered cell.value :=
    fun selection _ => generator.aggregate_ok _ _ _
  obtain ⟨cells, done, good⟩ := mapM_forall₂ each
  refine ⟨⟨window, cells⟩, ?_, rfl, good⟩
  rw [rowFor, done]
  rfl

theorem exactRow_perm {job : DatalogJobSnapshot} {sorted samples : List HistoricalSample}
    {row : DatasetRow} (same : sorted.Perm samples) (exact_row : ExactRow job sorted row) :
    ExactRow job samples row := by
  refine List.Forall₂.imp ?_ exact_row
  rintro selection cell ⟨ordered, order, value⟩
  exact ⟨ordered, ⟨order.perm.trans ((same.filter _).filter _), order.ordered⟩, value⟩

theorem admitted_partition {job : DatalogJobSnapshot} {window : UtcWindow}
    (admitted : Admitted job window) :
    Partition window (rowWindows window.finish job.rowIntervalNanoseconds
      window.durationNanoseconds.toNat window.start) := by
  have valid : window.start < window.finish := admitted.valid
  have whole := admitted.whole
  rw [← admitted.duration, UtcWindow.durationNanoseconds] at whole
  exact rowWindows_partition admitted.positive _ _ (le_of_lt valid) whole
    (Int.self_le_toNat _)

theorem rows_exact {job : DatalogJobSnapshot} {samples : List HistoricalSample}
    {windows : List UtcWindow} {rows : List DatasetRow}
    (good : List.Forall₂ (fun window row => row.window = window ∧ ExactRow job samples row)
      windows rows) :
    rows.map DatasetRow.window = windows ∧ ∀ row ∈ rows, ExactRow job samples row := by
  induction good with
  | nil => exact ⟨rfl, fun row member => nomatch member⟩
  | cons own rest ih =>
      refine ⟨?_, List.forall_mem_cons.mpr ⟨own.2, ih.2⟩⟩
      rw [List.map_cons, own.1, ih.1]

theorem generate_of_rows {job : DatalogJobSnapshot} {window : UtcWindow}
    {samples : List HistoricalSample} {rows : List DatasetRow} (admitted : Admitted job window)
    (returned : generator.Returned job window samples) (generatedAt : Int)
    (computed : (rowWindows window.finish job.rowIntervalNanoseconds
      window.durationNanoseconds.toNat window.start).mapM
        (generator.rowFor job (generator.sortSamples.sort samples)) = .ok rows) :
    ∃ dataset, generator.generate job window generatedAt = .ok dataset ∧ dataset.rows = rows := by
  have identified : ¬(¬safeId job.jobId ∨ job.revision = 0 ∨ job.productId = [] ∨
      job.deviceId = []) := by
    rintro (unsafe_id | revision | product | device)
    · exact unsafe_id admitted.jobId
    · exact admitted.revision revision
    · exact admitted.productId product
    · exact admitted.deviceId device
  have compatible : ¬(¬window.valid ∨
      window.durationNanoseconds ≠ job.generationIntervalNanoseconds ∨
      job.rowIntervalNanoseconds ≤ 0 ∨
      job.generationIntervalNanoseconds.tmod job.rowIntervalNanoseconds ≠ 0) := by
    rintro (invalid | differs | negative | remains)
    · exact invalid admitted.valid
    · exact differs admitted.duration
    · exact absurd admitted.positive (not_lt.mpr negative)
    · exact remains (Int.tmod_eq_zero_of_dvd admitted.whole)
  have empty : ({} : Selected).identities.Nodup := List.nodup_nil
  have selected := (generator.selections_ok_iff empty).mpr
    ⟨admitted.supported, admitted.distinct, rfl⟩
  have queried : generator.querySource job.sourcePeriod (requested job.selections []) window =
      .ok samples := by
    unfold querySource
    rw [show generator.source.query job.sourcePeriod (requested job.selections []) window =
      .ok samples from returned]
  rw [generate, if_neg identified, if_neg compatible, if_neg admitted.selections, selected]
  simp only [bind, Except.bind]
  rw [queried]
  simp only [computed]
  exact ⟨_, rfl, rfl⟩

/-- The rows of an admitted job cut its window, use every sample that the window holds once, and
show the exact reference of theirs. -/
theorem datalog_rows_exact (generator : HistoricalDatasetGenerator) (job : DatalogJobSnapshot)
    (window : UtcWindow) (generatedAt : Int) (samples : List HistoricalSample)
    (admitted : Admitted job window) (returned : generator.Returned job window samples) :
    ∃ dataset, generator.generate job window generatedAt = .ok dataset ∧
      Partition window (dataset.rows.map DatasetRow.window) ∧
      (∀ selection ∈ job.selections,
        ((dataset.rows.map DatasetRow.window).flatMap
          (bucket samples selection.attributeKey)).Perm
            (samples.filter fun sample => sample.attributeKey = selection.attributeKey ∧
              window.Holds sample.measuredAt)) ∧
      ∀ row ∈ dataset.rows, ExactRow job samples row := by
  have partition := admitted_partition admitted
  have same := generator.sortSamples.perm samples
  obtain ⟨rows, computed, good⟩ := mapM_forall₂ (fun row _ =>
    generator.rowFor_ok job (generator.sortSamples.sort samples) row :
      ∀ row ∈ rowWindows window.finish job.rowIntervalNanoseconds
        window.durationNanoseconds.toNat window.start, _)
  obtain ⟨dataset, generated, rfl⟩ :=
    generator.generate_of_rows admitted returned generatedAt computed
  obtain ⟨windows, exact_rows⟩ := rows_exact good
  refine ⟨dataset, generated, ?_, ?_, ?_⟩
  · rw [windows]
    exact partition
  · intro selection _
    rw [windows]
    exact buckets_once partition samples selection.attributeKey
  · exact fun row member => exactRow_perm same (exact_rows row member)

/-- Two samples in the first of two rows, with a mean of which a third repeats. -/
def thirdsSamples : List HistoricalSample :=
  [{ measuredAt := 0, sourceSequence := 1, attributeKey := ⟨1, none⟩, value := -1,
      quality := .valid },
    { measuredAt := 59, sourceSequence := 2, attributeKey := ⟨1, none⟩, value := -1,
      quality := .valid },
    { measuredAt := 59, sourceSequence := 3, attributeKey := ⟨1, none⟩, value := 0,
      quality := .valid }]

def thirdsGenerator : HistoricalDatasetGenerator where
  source :=
    { query := fun _ _ _ => .ok thirdsSamples
      expectedSampleCount := fun _ _ _ => 3 }
  texts :=
    { key := fun _ => text "voltage.ln.a.rms"
      label := fun _ => text "Voltage A-N RMS"
      unit := fun _ => text "uV" }
  sortSamples := .merge sampleBefore sampleBefore_trans sampleBefore_total
  sortValid := .merge measuredBefore measuredBefore_trans measuredBefore_total
  circularAverage := fun _ => none

def thirdsJob : DatalogJobSnapshot where
  jobId := text "thirds"
  productId := text "msap1"
  deviceId := text "meter-01"
  generationIntervalNanoseconds := 120
  rowIntervalNanoseconds := 60
  selections := [⟨⟨1, none⟩, .average⟩]

theorem thirds_rows_exact :
    ∃ dataset, thirdsGenerator.generate thirdsJob ⟨0, 120⟩ 121 = .ok dataset ∧
      Partition ⟨0, 120⟩ (dataset.rows.map DatasetRow.window) ∧
      ∀ row ∈ dataset.rows, ExactRow thirdsJob thirdsSamples row := by
  have admitted : Admitted thirdsJob ⟨0, 120⟩ := by
    constructor
    case supported =>
      intro selection member
      rw [List.mem_singleton.mp member]
      exact ⟨by decide, by decide, by decide⟩
    all_goals decide
  obtain ⟨dataset, generated, partition, -, exact_rows⟩ :=
    datalog_rows_exact thirdsGenerator thirdsJob ⟨0, 120⟩ 121 thirdsSamples admitted rfl
  exact ⟨dataset, generated, partition, exact_rows⟩

theorem admitted_of_generate {job : DatalogJobSnapshot} {window : UtcWindow} {generatedAt : Int}
    {dataset : GeneratedDataset}
    (generated : generator.generate job window generatedAt = .ok dataset) :
    Admitted job window ∧ ∃ samples, generator.Returned job window samples := by
  unfold generate at generated
  split at generated
  · cases generated
  next identified =>
  split at generated
  · cases generated
  next compatible =>
  split at generated
  · cases generated
  next selections =>
  obtain ⟨selected, chosen, rest⟩ := Loops.bind_ok generated
  obtain ⟨samples, queried, -⟩ := Loops.bind_ok rest
  have empty : ({} : Selected).identities.Nodup := List.nodup_nil
  obtain ⟨supported, distinct, rfl⟩ := (generator.selections_ok_iff empty).mp chosen
  simp only [not_or, not_not, ne_eq, not_le] at identified compatible
  obtain ⟨jobId, revision, product, device⟩ := identified
  obtain ⟨valid, duration, positive, whole⟩ := compatible
  refine ⟨⟨jobId, revision, product, device, valid, duration, positive,
    Int.dvd_of_tmod_eq_zero whole, selections, supported, distinct⟩, samples, ?_⟩
  unfold querySource at queried
  split at queried
  · next kept =>
      cases queried
      exact kept
  · cases queried
  · cases queried

end HistoricalDatasetGenerator

end Msap1.Datalogger
