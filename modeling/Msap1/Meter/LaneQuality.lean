import Msap1.Meter.IntervalRecords

/-! Which lanes a valid reading rests on, and what becomes of the readings when the phases of a
record change places. -/

namespace Msap1.Meter

open Phase

/-- Whether the interval of a record may be used. -/
def UsableInterval (tier : Tier) (record : MeterRecord) : Prop :=
  tier ≠ .basic → tier ≠ .aggregate →
    record.tenMinuteStatus.arithmeticError = false ∧ record.tenMinuteStatus.timeAligned = true ∧
      record.tenMinuteStatus.contaminated = false ∧ record.tenMinuteStatus.boundaryValid = true

/-- A reading is valid only with its lanes and in a usable interval. -/
def Grades (tier : Tier) (record : MeterRecord) (lanes : List Lane) (reading : Reading) : Prop :=
  reading.quality = .valid →
    (∀ lane ∈ lanes, record.laneValid lane = true) ∧ UsableInterval tier record

def phaseLanes (phase : Phase) : List Lane := [phase.voltageLane, phase.currentLane]

def pairLanes (pair : Phase) : List Lane := [pair.voltageLane, pair.partner.voltageLane]

def voltageLanes : List Lane := [6, 5, 4]

def currentLanes : List Lane := [0, 1, 2]

section Graded

variable (grades : List Lane → Reading → Prop)

/-- The frequency has no lane of its own. -/
structure FundamentalValues.Graded (values : FundamentalValues) : Prop where
  frequency : grades [] values.frequency
  voltageLn : ∀ phase, grades [phase.voltageLane] (values.voltageLn phase)
  current : ∀ phase, grades [phase.currentLane] (values.current.phases phase)
  neutral : grades [3] values.current.neutral
  voltageLl : ∀ pair, grades (pairLanes pair) (values.voltageLl pair)

/-- What a power record grades well whatever its lanes. -/
structure PowerValues.PhasesGraded (values : PowerValues) : Prop where
  activePower : ∀ phase, grades (phaseLanes phase) (values.activePower phase)
  apparentPower : ∀ phase, grades (phaseLanes phase) (values.apparentPower phase)
  powerFactor : ∀ phase, grades (phaseLanes phase) (values.powerFactor phase)
  voltageCrest : ∀ phase, grades [phase.voltageLane] (values.voltageCrest phase)
  currentCrest : ∀ phase, grades [phase.currentLane] (values.currentCrest.phases phase)
  neutralCrest : grades [3] values.currentCrest.neutral

structure PowerValues.TotalsGraded (values : PowerValues) : Prop where
  totalActivePower : grades (voltageLanes ++ currentLanes) values.totalActivePower
  totalApparentPower : grades (voltageLanes ++ currentLanes) values.totalApparentPower
  totalPowerFactor : grades (voltageLanes ++ currentLanes) values.totalPowerFactor

structure PhasorValues.PhasesGraded (values : PhasorValues) : Prop where
  fundamentalVoltage : ∀ phase, grades [phase.voltageLane] (values.fundamentalVoltage phase)
  fundamentalCurrent : ∀ phase,
    grades [phase.currentLane] (values.fundamentalCurrent.phases phase)
  neutralCurrent : grades [3] values.fundamentalCurrent.neutral
  fundamentalVoltageLl : ∀ pair, grades (pairLanes pair) (values.fundamentalVoltageLl pair)
  voltageAngle : ∀ phase, grades [phase.voltageLane] (values.voltageAngle phase)
  currentAngle : ∀ phase, grades [phase.currentLane] (values.currentAngle.phases phase)
  neutralAngle : grades [3] values.currentAngle.neutral
  voltageLlAngle : ∀ pair, grades (pairLanes pair) (values.voltageLlAngle pair)
  displacementAngle : ∀ phase, grades (phaseLanes phase) (values.displacementAngle phase)
  reactivePower : ∀ phase, grades (phaseLanes phase) (values.reactivePower phase)
  fundamentalActivePower : ∀ phase,
    grades (phaseLanes phase) (values.fundamentalActivePower phase)
  displacementPowerFactor : ∀ phase,
    grades (phaseLanes phase) (values.displacementPowerFactor phase)

structure PhasorValues.TotalsGraded (values : PhasorValues) : Prop where
  totalReactivePower : grades (voltageLanes ++ currentLanes) values.totalReactivePower
  totalFundamentalActivePower :
    grades (voltageLanes ++ currentLanes) values.totalFundamentalActivePower
  totalDisplacementPowerFactor :
    grades (voltageLanes ++ currentLanes) values.totalDisplacementPowerFactor

structure UnbalanceValues.Graded (values : UnbalanceValues) : Prop where
  voltageSequence : ∀ component, grades voltageLanes (values.voltageSequence component)
  voltageAngle : ∀ component, grades voltageLanes (values.voltageAngle component)
  currentSequence : ∀ component, grades currentLanes (values.currentSequence component)
  currentAngle : ∀ component, grades currentLanes (values.currentAngle component)
  voltageZeroRatio : grades voltageLanes values.voltageZeroRatio
  voltageUnbalance : grades voltageLanes values.voltageUnbalance
  currentZeroRatio : grades currentLanes values.currentZeroRatio
  currentUnbalance : grades currentLanes values.currentUnbalance

structure MeterUpdate.Graded (update : MeterUpdate) : Prop where
  fundamental : ∀ values ∈ update.fundamental, values.Graded grades
  power : ∀ values ∈ update.power, values.PhasesGraded grades ∧ values.TotalsGraded grades
  phasor : ∀ values ∈ update.phasor, values.PhasesGraded grades ∧ values.TotalsGraded grades
  unbalance : ∀ values ∈ update.unbalance, values.Graded grades

end Graded

/-- Payload words that belong to the seven lanes, to the phases or to the pairs of phases, so many
for each. -/
inductive Row where
  | lanes (base stride : Nat)
  | phases (base stride : Nat)
  | pairs (base stride : Nat)

section Relabelling

variable (relabel : Equiv.Perm Phase)

def relabelLane (lane : Lane) : Lane :=
  if lane = 6 then (relabel a).voltageLane
  else if lane = 5 then (relabel b).voltageLane
  else if lane = 4 then (relabel c).voltageLane
  else if lane = 0 then (relabel a).currentLane
  else if lane = 1 then (relabel b).currentLane
  else if lane = 2 then (relabel c).currentLane
  else lane

def relabelPair (pair : Phase) : Phase := (relabel pair.partner.partner).partner

/-- Where the words of an item come from, when it is another item's. -/
def moves (base stride item other : Nat) : List (Fin 64 × Fin 64) :=
  (List.range stride).map fun offset =>
    (slot (base + offset) stride item, slot (base + offset) stride other)

def Row.moves : Row → List (Fin 64 × Fin 64)
  | lanes base stride => [0, 1, 2, 3, 4, 5, 6].flatMap fun lane : Lane =>
      Meter.moves base stride lane (relabelLane relabel lane)
  | phases base stride => [a, b, c].flatMap fun phase =>
      Meter.moves base stride phase.index (relabel phase).index
  | pairs base stride => [a, b, c].flatMap fun pair =>
      Meter.moves base stride pair.index (relabelPair relabel pair).index

def movedPlace (rows : List Row) (place : Fin 64) : Fin 64 :=
  ((rows.flatMap (Row.moves relabel)).lookup place).getD place

def relabelBits (rows : List Row) (word : UInt32) : UInt32 :=
  ⟨(BitVec.ofBoolListLE ((List.range 32).map fun place =>
    bitSet word (movedPlace relabel rows (Fin.ofNat 64 place)))).setWidth 32⟩

def payloadRows (tier : Tier) : Quantity → List Row
  | .fundamental => if tier = .basic then [.lanes 16 5, .pairs 51 1] else [.lanes 16 2, .pairs 38 1]
  | .power => [.phases 16 5, .lanes 36 1]
  | .phasor => [.lanes 16 2, .pairs 30 2, .phases 36 1, .phases 39 2, .phases 47 1, .phases 52 2]
  | .unbalance => []

/-- The record whose phases have what other phases of a record had, lanes, payload and the load
natures of a phasor record alike. -/
def permutePhases (tier : Tier) (quantity : Quantity) (record : MeterRecord) : MeterRecord where
  words index :=
    if index = 7 then relabelBits relabel [.lanes 0 1] (record.word 7)
    else if quantity = .phasor ∧ index = 51 then relabelBits relabel [.phases 0 2] (record.word 51)
    else record.word (movedPlace relabel (payloadRows tier quantity) index)

end Relabelling

section Relabelled

variable (relabel : Equiv.Perm Phase) (record : MeterRecord)

theorem slot_next (base stride item : Nat) :
    slot base stride item + 1 = slot (base + 1) stride item := by
  apply Fin.ext
  change ((base + stride * item) % 64 + 1) % 64 = (base + 1 + stride * item) % 64
  omega

theorem bitSet_relabelBits (rows : List Row) (word : UInt32) {place : Nat} (inside : place < 32) :
    bitSet (relabelBits relabel rows word) place =
      bitSet word (movedPlace relabel rows (Fin.ofNat 64 place)) := by
  change ((BitVec.ofBoolListLE _).setWidth 32).getLsbD place = _
  rw [BitVec.getLsbD_setWidth, BitVec.getLsbD_ofBoolListLE, List.getD_eq_getElem?_getD,
    List.getElem?_map, List.getElem?_range inside, decide_eq_true inside, Bool.true_and]
  rfl

theorem laneValid_eq (lane : Lane) : record.laneValid lane = bitSet (record.word 7) lane := by
  change ((record.word 7).toUInt8).toBitVec.getLsbD lane = (record.word 7).toBitVec.getLsbD lane
  rw [UInt32.toBitVec_toUInt8, BitVec.getLsbD_setWidth, decide_eq_true lane.isLt, Bool.true_and]

theorem laneValid_permuted (tier : Tier) (quantity : Quantity) (lane : Lane) :
    (permutePhases relabel tier quantity record).laneValid lane =
      record.laneValid (relabelLane relabel lane) := by
  have moved : movedPlace relabel [.lanes 0 1] (Fin.ofNat 64 lane) =
      slot 0 1 (relabelLane relabel lane) := by
    fin_cases lane <;> rfl
  have place : ((slot 0 1 (relabelLane relabel lane)).val : Nat) = relabelLane relabel lane := by
    change (0 + 1 * (relabelLane relabel lane).val) % 64 = _
    omega
  have word : (permutePhases relabel tier quantity record).word 7 =
      relabelBits relabel [.lanes 0 1] (record.word 7) := rfl
  rw [laneValid_eq, laneValid_eq, word, bitSet_relabelBits relabel _ _ (by omega), moved, place]

theorem relabel_voltageLane (phase : Phase) :
    relabelLane relabel phase.voltageLane = (relabel phase).voltageLane := by
  cases phase <;> rfl

theorem relabel_currentLane (phase : Phase) :
    relabelLane relabel phase.currentLane = (relabel phase).currentLane := by
  cases phase <;> rfl

theorem phaseLanes_permuted (tier : Tier) (quantity : Quantity) (phase : Phase) :
    phaseLanesValid (permutePhases relabel tier quantity record) phase =
      phaseLanesValid record (relabel phase) := by
  rw [phaseLanesValid, laneValid_permuted, laneValid_permuted, relabel_voltageLane,
    relabel_currentLane]
  rfl

theorem pairValid_permuted (tier : Tier) (quantity : Quantity) (pair : Phase) :
    pairValid (permutePhases relabel tier quantity record) pair =
      pairValid record (relabelPair relabel pair) := by
  have injective := relabel.injective
  have others : pairValid (permutePhases relabel tier quantity record) pair =
      (record.laneValid (relabel pair).voltageLane &&
        record.laneValid (relabel pair.partner).voltageLane) := by
    rw [pairValid, laneValid_permuted, laneValid_permuted, relabel_voltageLane,
      relabel_voltageLane]
  have first : pair ≠ pair.partner := by cases pair <;> decide
  have second : pair ≠ pair.partner.partner := by cases pair <;> decide
  have third : pair.partner ≠ pair.partner.partner := by cases pair <;> decide
  rw [others, relabelPair, pairValid]
  have apart := injective.ne first
  have left := injective.ne second
  have right := injective.ne third
  revert apart left right
  generalize relabel pair = one
  generalize relabel pair.partner = two
  generalize relabel pair.partner.partner = three
  cases one <;> cases two <;> cases three <;> simp [Phase.partner, Bool.and_comm]

end Relabelled

section Permuted

variable (relabel : Equiv.Perm Phase)

/-- Each phase has the readings that another one had. -/
structure FundamentalValues.PermutedTo (before after : FundamentalValues) : Prop where
  frequency : after.frequency = before.frequency
  voltageLn : ∀ phase, after.voltageLn phase = before.voltageLn (relabel phase)
  current : ∀ phase, after.current.phases phase = before.current.phases (relabel phase)
  neutral : after.current.neutral = before.current.neutral
  voltageLl : ∀ pair, after.voltageLl pair = before.voltageLl (relabelPair relabel pair)

structure PowerValues.PhasesPermuted (before after : PowerValues) : Prop where
  activePower : ∀ phase, after.activePower phase = before.activePower (relabel phase)
  apparentPower : ∀ phase, after.apparentPower phase = before.apparentPower (relabel phase)
  powerFactor : ∀ phase, after.powerFactor phase = before.powerFactor (relabel phase)
  voltageCrest : ∀ phase, after.voltageCrest phase = before.voltageCrest (relabel phase)
  currentCrest : ∀ phase,
    after.currentCrest.phases phase = before.currentCrest.phases (relabel phase)
  neutralCrest : after.currentCrest.neutral = before.currentCrest.neutral

structure PowerValues.TotalsKept (before after : PowerValues) : Prop where
  totalActivePower : after.totalActivePower.quality = before.totalActivePower.quality
  totalApparentPower : after.totalApparentPower.quality = before.totalApparentPower.quality
  totalPowerFactor : after.totalPowerFactor.quality = before.totalPowerFactor.quality

structure PhasorValues.PhasesPermuted (before after : PhasorValues) : Prop where
  fundamentalVoltage : ∀ phase,
    after.fundamentalVoltage phase = before.fundamentalVoltage (relabel phase)
  fundamentalCurrent : ∀ phase,
    after.fundamentalCurrent.phases phase = before.fundamentalCurrent.phases (relabel phase)
  neutralCurrent : after.fundamentalCurrent.neutral = before.fundamentalCurrent.neutral
  fundamentalVoltageLl : ∀ pair,
    after.fundamentalVoltageLl pair = before.fundamentalVoltageLl (relabelPair relabel pair)
  voltageAngle : ∀ phase, after.voltageAngle phase = before.voltageAngle (relabel phase)
  currentAngle : ∀ phase,
    after.currentAngle.phases phase = before.currentAngle.phases (relabel phase)
  neutralAngle : after.currentAngle.neutral = before.currentAngle.neutral
  voltageLlAngle : ∀ pair,
    after.voltageLlAngle pair = before.voltageLlAngle (relabelPair relabel pair)
  displacementAngle : ∀ phase,
    after.displacementAngle phase = before.displacementAngle (relabel phase)
  reactivePower : ∀ phase, after.reactivePower phase = before.reactivePower (relabel phase)
  fundamentalActivePower : ∀ phase,
    after.fundamentalActivePower phase = before.fundamentalActivePower (relabel phase)
  displacementPowerFactor : ∀ phase,
    after.displacementPowerFactor phase = before.displacementPowerFactor (relabel phase)
  loadNature : ∀ phase, after.loadNature phase = before.loadNature (relabel phase)

structure PhasorValues.TotalsKept (before after : PhasorValues) : Prop where
  totalReactivePower : after.totalReactivePower.quality = before.totalReactivePower.quality
  totalFundamentalActivePower :
    after.totalFundamentalActivePower.quality = before.totalFundamentalActivePower.quality
  totalDisplacementPowerFactor :
    after.totalDisplacementPowerFactor.quality = before.totalDisplacementPowerFactor.quality

/-- An update whose phases changed places. The components of an unbalance record belong to no
phase. -/
structure MeterUpdate.PermutedTo (before after : MeterUpdate) : Prop where
  fundamental : ∀ values ∈ before.fundamental, ∃ permuted ∈ after.fundamental,
    values.PermutedTo relabel permuted
  power : ∀ values ∈ before.power, ∃ permuted ∈ after.power,
    values.PhasesPermuted relabel permuted ∧ values.TotalsKept permuted
  phasor : ∀ values ∈ before.phasor, ∃ permuted ∈ after.phasor,
    values.PhasesPermuted relabel permuted ∧ values.TotalsKept permuted
  unbalance : after.unbalance = before.unbalance

variable (tier : Tier) (record : MeterRecord) (source : Source) (period : MeasurementPeriod)

theorem signed64_slot {first second : MeterRecord} {base stride item other : Nat}
    (low : first.word (slot base stride item) = second.word (slot base stride other))
    (high : first.word (slot (base + 1) stride item) =
      second.word (slot (base + 1) stride other)) :
    first.signed64 (slot base stride item) = second.signed64 (slot base stride other) := by
  unfold MeterRecord.signed64 MeterRecord.unsigned64
  rw [slot_next, slot_next, low, high]

theorem powerValues_permuted : (powerValues record source period).PhasesPermuted relabel
    (powerValues (permutePhases relabel tier .power record) source period) where
  activePower phase := by
    have word : (permutePhases relabel tier .power record).signed64 (slot 16 5 phase.index) =
        record.signed64 (slot 16 5 (relabel phase).index) :=
      signed64_slot (by cases phase <;> rfl) (by cases phase <;> rfl)
    simp only [powerValues]
    rw [word, phaseLanes_permuted]
    rfl
  apparentPower phase := by
    have word : (permutePhases relabel tier .power record).signed64 (slot 18 5 phase.index) =
        record.signed64 (slot 18 5 (relabel phase).index) :=
      signed64_slot (by cases phase <;> rfl) (by cases phase <;> rfl)
    simp only [powerValues]
    rw [word, phaseLanes_permuted]
    rfl
  powerFactor phase := by
    have word : (permutePhases relabel tier .power record).signed64 (slot 18 5 phase.index) =
        record.signed64 (slot 18 5 (relabel phase).index) :=
      signed64_slot (by cases phase <;> rfl) (by cases phase <;> rfl)
    have factor : (permutePhases relabel tier .power record).signed (slot 20 5 phase.index) =
        record.signed (slot 20 5 (relabel phase).index) := by
      cases phase <;> rfl
    simp only [powerValues]
    rw [word, factor, phaseLanes_permuted]
    rfl
  voltageCrest phase := by
    have word : (permutePhases relabel tier .power record).unsigned
        (slot 36 1 phase.voltageLane) =
          record.unsigned (slot 36 1 (relabel phase).voltageLane) := by
      cases phase <;> rfl
    simp only [powerValues]
    rw [word, laneValid_permuted, relabel_voltageLane]
    rfl
  currentCrest phase := by
    have word : (permutePhases relabel tier .power record).unsigned
        (slot 36 1 phase.currentLane) =
          record.unsigned (slot 36 1 (relabel phase).currentLane) := by
      cases phase <;> rfl
    simp only [powerValues]
    rw [word, laneValid_permuted, relabel_currentLane]
    rfl
  neutralCrest := by
    simp only [powerValues]
    rw [laneValid_permuted]
    rfl

theorem index_small (phase : Phase) : phase.index < 3 := by
  cases phase <;> decide

theorem natureBit_permuted (word : UInt32) (phase : Phase) {offset : Nat} (own : offset < 2) :
    bitSet (relabelBits relabel [.phases 0 2] word) (2 * phase.index + offset) =
      bitSet word (2 * (relabel phase).index + offset) := by
  have before := index_small (relabel phase)
  have after := index_small phase
  have moved : movedPlace relabel [.phases 0 2] (Fin.ofNat 64 (2 * phase.index + offset)) =
      slot (0 + offset) 2 (relabel phase).index := by
    interval_cases offset <;> cases phase <;> rfl
  have place : (slot (0 + offset) 2 (relabel phase).index).val =
      2 * (relabel phase).index + offset := by
    change (0 + offset + 2 * (relabel phase).index) % 64 = _
    omega
  rw [bitSet_relabelBits relabel _ _ (by omega), moved, place]

theorem loadNature_permuted (phase : Phase) :
    loadNature ((permutePhases relabel tier .phasor record).word 51) (2 * phase.index) =
      loadNature (record.word 51) (2 * (relabel phase).index) := by
  have word : (permutePhases relabel tier .phasor record).word 51 =
      relabelBits relabel [.phases 0 2] (record.word 51) := rfl
  have low := natureBit_permuted relabel (record.word 51) phase Nat.zero_lt_two
  have high := natureBit_permuted relabel (record.word 51) phase Nat.one_lt_two
  rw [Nat.add_zero, Nat.add_zero] at low
  rw [word, loadNature, loadNature, low, high]

theorem flagBit_kept {place : Nat} (behind : 6 ≤ place) (inside : place < 32) :
    bitSet ((permutePhases relabel tier .phasor record).word 51) place =
      bitSet (record.word 51) place := by
  have word : (permutePhases relabel tier .phasor record).word 51 =
      relabelBits relabel [.phases 0 2] (record.word 51) := rfl
  have moved : movedPlace relabel [.phases 0 2] (Fin.ofNat 64 place) = Fin.ofNat 64 place := by
    interval_cases place <;> rfl
  rw [word, bitSet_relabelBits relabel _ _ inside, moved]
  congr 1
  change place % 64 = place
  omega

theorem phasorWord_permuted {base stride : Nat} {phase : Phase}
    (row : (base, stride) ∈ [(36, 1), (39, 2), (40, 2), (47, 1), (52, 2), (53, 2)]) :
    (permutePhases relabel tier .phasor record).word (slot base stride phase.index) =
      record.word (slot base stride (relabel phase).index) := by
  simp only [List.mem_cons, List.not_mem_nil, or_false, Prod.mk.injEq] at row
  rcases row with ⟨rfl, rfl⟩ | ⟨rfl, rfl⟩ | ⟨rfl, rfl⟩ | ⟨rfl, rfl⟩ | ⟨rfl, rfl⟩ | ⟨rfl, rfl⟩
  all_goals cases phase <;> rfl

theorem phasorPair_permuted {base : Nat} {pair : Phase} (row : base = 30 ∨ base = 31) :
    (permutePhases relabel tier .phasor record).word (slot base 2 pair.index) =
      record.word (slot base 2 (relabelPair relabel pair).index) := by
  rcases row with rfl | rfl
  all_goals cases pair <;> rfl

theorem phasorLane_permuted {base : Nat} {lane : Lane} (row : base = 16 ∨ base = 17)
    (own : lane ≠ 7) : (permutePhases relabel tier .phasor record).word (slot base 2 lane) =
      record.word (slot base 2 (relabelLane relabel lane)) := by
  rcases row with rfl | rfl
  all_goals
    fin_cases lane
    all_goals first | rfl | exact absurd rfl own

theorem phasorLane_value {base : Nat} {lane : Lane} (row : base = 16 ∨ base = 17)
    (own : lane ≠ 7) : (permutePhases relabel tier .phasor record).unsigned (slot base 2 lane) =
      record.unsigned (slot base 2 (relabelLane relabel lane)) := by
  rw [MeterRecord.unsigned, phasorLane_permuted relabel tier record row own]
  rfl

theorem phasorPair_value {base : Nat} {pair : Phase} (row : base = 30 ∨ base = 31) :
    (permutePhases relabel tier .phasor record).unsigned (slot base 2 pair.index) =
      record.unsigned (slot base 2 (relabelPair relabel pair).index) := by
  rw [MeterRecord.unsigned, phasorPair_permuted relabel tier record row]
  rfl

theorem voltageLane_own (phase : Phase) : phase.voltageLane ≠ 7 := by
  cases phase <;> decide

theorem currentLane_own (phase : Phase) : phase.currentLane ≠ 7 := by
  cases phase <;> decide

theorem phasorValues_permuted : (phasorValues record source period).PhasesPermuted relabel
    (phasorValues (permutePhases relabel tier .phasor record) source period) where
  fundamentalVoltage phase := by
    simp only [phasorValues]
    rw [phasorLane_value relabel tier record (.inl rfl) (voltageLane_own phase),
      laneValid_permuted, relabel_voltageLane]
    rfl
  fundamentalCurrent phase := by
    simp only [phasorValues]
    rw [phasorLane_value relabel tier record (.inl rfl) (currentLane_own phase),
      laneValid_permuted, relabel_currentLane]
    rfl
  neutralCurrent := by
    simp only [phasorValues]
    rw [laneValid_permuted]
    rfl
  fundamentalVoltageLl pair := by
    simp only [phasorValues]
    rw [phasorPair_value relabel tier record (.inl rfl), pairValid_permuted]
    rfl
  voltageAngle phase := by
    simp only [phasorValues]
    rw [phasorLane_value relabel tier record (.inl rfl) (voltageLane_own phase),
      phasorLane_value relabel tier record (.inr rfl) (voltageLane_own phase),
      laneValid_permuted, relabel_voltageLane,
      flagBit_kept relabel tier record (by decide) (by decide)]
    rfl
  currentAngle phase := by
    simp only [phasorValues]
    rw [phasorLane_value relabel tier record (.inl rfl) (currentLane_own phase),
      phasorLane_value relabel tier record (.inr rfl) (currentLane_own phase),
      laneValid_permuted, relabel_currentLane,
      flagBit_kept relabel tier record (by decide) (by decide)]
    rfl
  neutralAngle := by
    simp only [phasorValues]
    rw [laneValid_permuted, flagBit_kept relabel tier record (by decide) (by decide)]
    rfl
  voltageLlAngle pair := by
    simp only [phasorValues]
    rw [phasorPair_value relabel tier record (.inl rfl),
      phasorPair_value relabel tier record (.inr rfl), pairValid_permuted,
      flagBit_kept relabel tier record (by decide) (by decide)]
    rfl
  displacementAngle phase := by
    have word : (permutePhases relabel tier .phasor record).unsigned (slot 36 1 phase.index) =
        record.unsigned (slot 36 1 (relabel phase).index) := by
      rw [MeterRecord.unsigned, phasorWord_permuted relabel tier record (by simp)]
      rfl
    simp only [phasorValues]
    rw [word, phasorLane_value relabel tier record (.inl rfl) (currentLane_own phase),
      phasorLane_value relabel tier record (.inl rfl) (voltageLane_own phase),
      phaseLanes_permuted, relabel_currentLane, relabel_voltageLane]
    rfl
  reactivePower phase := by
    have word : (permutePhases relabel tier .phasor record).signed64 (slot 39 2 phase.index) =
        record.signed64 (slot 39 2 (relabel phase).index) :=
      signed64_slot (phasorWord_permuted relabel tier record (by simp))
        (phasorWord_permuted relabel tier record (by simp))
    simp only [phasorValues]
    rw [word, phaseLanes_permuted]
    rfl
  fundamentalActivePower phase := by
    have word : (permutePhases relabel tier .phasor record).signed64 (slot 52 2 phase.index) =
        record.signed64 (slot 52 2 (relabel phase).index) :=
      signed64_slot (phasorWord_permuted relabel tier record (by simp))
        (phasorWord_permuted relabel tier record (by simp))
    simp only [phasorValues]
    rw [word, phaseLanes_permuted]
    rfl
  displacementPowerFactor phase := by
    have word : (permutePhases relabel tier .phasor record).signed (slot 47 1 phase.index) =
        record.signed (slot 47 1 (relabel phase).index) := by
      rw [MeterRecord.signed, phasorWord_permuted relabel tier record (by simp)]
      rfl
    simp only [phasorValues]
    rw [word, phaseLanes_permuted, loadNature_permuted]
    rfl
  loadNature phase := loadNature_permuted relabel tier record phase

theorem fundamentalValues_permuted :
    (decodeFundamentalValues record source).PermutedTo relabel
      (decodeFundamentalValues (permutePhases relabel .basic .fundamental record) source) where
  frequency := rfl
  voltageLn phase := by
    have word : (permutePhases relabel .basic .fundamental record).signed64
        (slot 19 5 phase.voltageLane) =
          record.signed64 (slot 19 5 (relabel phase).voltageLane) :=
      signed64_slot (by cases phase <;> rfl) (by cases phase <;> rfl)
    simp only [decodeFundamentalValues]
    rw [word, laneValid_permuted, relabel_voltageLane]
  current phase := by
    have word : (permutePhases relabel .basic .fundamental record).signed64
        (slot 19 5 phase.currentLane) =
          record.signed64 (slot 19 5 (relabel phase).currentLane) :=
      signed64_slot (by cases phase <;> rfl) (by cases phase <;> rfl)
    simp only [decodeFundamentalValues]
    rw [word, laneValid_permuted, relabel_currentLane]
  neutral := by
    simp only [decodeFundamentalValues]
    rw [laneValid_permuted]
    rfl
  voltageLl pair := by
    have word : (permutePhases relabel .basic .fundamental record).unsigned
        (slot 51 1 pair.index) =
          record.unsigned (slot 51 1 (relabelPair relabel pair).index) := by
      cases pair <;> rfl
    simp only [decodeFundamentalValues]
    rw [word, pairValid_permuted]

theorem aggregateValues_permuted (merged : tier ≠ .basic) (arithmeticError forceInvalid : Bool) :
    (decodeAggregateFundamentalValues record source arithmeticError forceInvalid).PermutedTo relabel
      (decodeAggregateFundamentalValues (permutePhases relabel tier .fundamental record) source
        arithmeticError forceInvalid) where
  frequency := by
    cases tier
    case basic => exact absurd rfl merged
    all_goals rfl
  voltageLn phase := by
    have word : (permutePhases relabel tier .fundamental record).signed64
        (slot 16 2 phase.voltageLane) =
          record.signed64 (slot 16 2 (relabel phase).voltageLane) := by
      cases tier
      case basic => exact absurd rfl merged
      all_goals exact signed64_slot (by cases phase <;> rfl) (by cases phase <;> rfl)
    simp only [decodeAggregateFundamentalValues]
    rw [word, laneValid_permuted, relabel_voltageLane]
  current phase := by
    have word : (permutePhases relabel tier .fundamental record).signed64
        (slot 16 2 phase.currentLane) =
          record.signed64 (slot 16 2 (relabel phase).currentLane) := by
      cases tier
      case basic => exact absurd rfl merged
      all_goals exact signed64_slot (by cases phase <;> rfl) (by cases phase <;> rfl)
    simp only [decodeAggregateFundamentalValues]
    rw [word, laneValid_permuted, relabel_currentLane]
  neutral := by
    simp only [decodeAggregateFundamentalValues]
    rw [laneValid_permuted]
    cases tier
    case basic => exact absurd rfl merged
    all_goals rfl
  voltageLl pair := by
    have word : (permutePhases relabel tier .fundamental record).unsigned
        (slot 38 1 pair.index) =
          record.unsigned (slot 38 1 (relabelPair relabel pair).index) := by
      cases tier
      case basic => exact absurd rfl merged
      all_goals cases pair <;> rfl
    simp only [decodeAggregateFundamentalValues]
    rw [word, pairValid_permuted]

theorem all_phases (holds : Phase → Bool) :
    (holds a && holds b && holds c) = true ↔ ∀ phase, holds phase = true := by
  rw [Bool.and_eq_true, Bool.and_eq_true]
  constructor
  · rintro ⟨⟨first, second⟩, third⟩ phase
    cases phase
    · exact first
    · exact second
    · exact third
  · exact fun all => ⟨⟨all a, all b⟩, all c⟩

theorem all_permuted (holds : Phase → Bool) :
    (holds (relabel a) && holds (relabel b) && holds (relabel c)) =
      (holds a && holds b && holds c) := by
  rw [Bool.eq_iff_iff, all_phases fun phase => holds (relabel phase), all_phases]
  constructor
  · intro all phase
    have own := all (relabel.symm phase)
    rwa [Equiv.apply_symm_apply] at own
  · exact fun all phase => all (relabel phase)

theorem voltageLanes_permuted (quantity : Quantity) :
    ((permutePhases relabel tier quantity record).laneValid 4 &&
      (permutePhases relabel tier quantity record).laneValid 5 &&
        (permutePhases relabel tier quantity record).laneValid 6) =
      (record.laneValid 4 && record.laneValid 5 && record.laneValid 6) := by
  have same := all_permuted relabel fun phase => record.laneValid phase.voltageLane
  rw [laneValid_permuted, laneValid_permuted, laneValid_permuted]
  have reversed : ∀ one two three : Bool, (three && two && one) = (one && two && three) := by
    decide
  exact (reversed _ _ _).trans (same.trans (reversed _ _ _).symm)

theorem currentLanes_permuted (quantity : Quantity) :
    ((permutePhases relabel tier quantity record).laneValid 0 &&
      (permutePhases relabel tier quantity record).laneValid 1 &&
        (permutePhases relabel tier quantity record).laneValid 2) =
      (record.laneValid 0 && record.laneValid 1 && record.laneValid 2) := by
  rw [laneValid_permuted, laneValid_permuted, laneValid_permuted]
  exact all_permuted relabel fun phase => record.laneValid phase.currentLane

theorem unbalanceValue_kept {base : Nat} (row : base ∈ [16, 17, 22, 23]) (component : Sequence) :
    (permutePhases relabel tier .unbalance record).unsigned (slot base 2 component.index) =
      record.unsigned (slot base 2 component.index) := by
  simp only [List.mem_cons, List.not_mem_nil, or_false] at row
  rcases row with rfl | rfl | rfl | rfl
  all_goals cases component <;> rfl

theorem unbalanceValues_permuted :
    unbalanceValues (permutePhases relabel tier .unbalance record) source period =
      unbalanceValues record source period := by
  have first := unbalanceValue_kept relabel tier record (show 16 ∈ [16, 17, 22, 23] by simp)
  have second := unbalanceValue_kept relabel tier record (show 17 ∈ [16, 17, 22, 23] by simp)
  have third := unbalanceValue_kept relabel tier record (show 22 ∈ [16, 17, 22, 23] by simp)
  have fourth := unbalanceValue_kept relabel tier record (show 23 ∈ [16, 17, 22, 23] by simp)
  simp only [unbalanceValues, voltageLanes_permuted, currentLanes_permuted, first, second, third,
    fourth]
  rfl

end Permuted

/-- The totals of the power and of the phasor record are valid with the lanes of phase A. -/
def totalsWithheld (tier : Tier) (record : MeterRecord) : Quantity → Bool
  | .power =>
      let state := aggregatePayloadState record tier.period
      state.arithmeticError || state.invalid
  | .phasor =>
      let state := aggregatePayloadState record tier.period
      state.arithmeticError || blockInvalid record state
  | _ => true

/-- The record has no totals or withholds them, or its phases have their lanes alike. -/
def PhasesAlike (tier : Tier) (quantity : Quantity) (record : MeterRecord) : Prop :=
  totalsWithheld tier record quantity = true ∨
    (∀ phase, phaseLanesValid record phase = true) ∨
    ∀ phase, phaseLanesValid record phase = false

section Totals

variable {tier : Tier} {record : MeterRecord} {source : Source}

theorem grade_valid {arithmeticError invalid available : Bool}
    (valid : grade arithmeticError invalid available = .valid) :
    arithmeticError = false ∧ invalid = false ∧ available = true := by
  unfold grade at valid
  split at valid
  · cases valid
  · next exact =>
      split at valid
      · cases valid
      · next usable =>
          split at valid
          · next there =>
              exact ⟨Bool.eq_false_iff.mpr exact, Bool.eq_false_iff.mpr usable, there⟩
          · cases valid

theorem usable_of_state
    (exact : (aggregatePayloadState record tier.period).arithmeticError = false)
    (usable : (aggregatePayloadState record tier.period).invalid = false) :
    UsableInterval tier record := by
  intro merged interval
  have covers : isInterval tier.period = true := by
    cases tier
    case basic => exact absurd rfl merged
    case aggregate => exact absurd rfl interval
    all_goals rfl
  simp only [aggregatePayloadState, if_pos covers] at exact usable
  rw [Bool.or_eq_false_iff, Bool.or_eq_false_iff, Bool.or_eq_false_iff,
    Bool.not_eq_false', Bool.not_eq_false'] at usable
  exact ⟨exact, usable.1.1.2, usable.1.2, usable.2⟩

theorem payload_graded {value : Int64} {available : Bool} {lanes : List Lane}
    (needs : available = true → ∀ lane ∈ lanes, record.laneValid lane = true) :
    let state := aggregatePayloadState record tier.period
    Grades tier record lanes
      (source.reading value (grade state.arithmeticError state.invalid available)) := by
  intro state valid
  obtain ⟨exact, usable, there⟩ := grade_valid valid
  exact ⟨needs there, usable_of_state exact usable⟩

theorem block_graded {value : Int64} {available : Bool} {lanes : List Lane}
    (needs : available = true → ∀ lane ∈ lanes, record.laneValid lane = true) :
    let state := aggregatePayloadState record tier.period
    Grades tier record lanes
      (source.reading value
        (grade state.arithmeticError (blockInvalid record state) available)) := by
  intro state valid
  obtain ⟨exact, usable, there⟩ := grade_valid valid
  exact ⟨needs there, usable_of_state exact (Bool.or_eq_false_iff.mp usable).2⟩

theorem needs_lane {lane : Lane} (there : record.laneValid lane = true) :
    ∀ own ∈ [lane], record.laneValid own = true := by
  intro own member
  rwa [List.mem_singleton.mp member]

theorem needs_phase {phase : Phase} (there : phaseLanesValid record phase = true) :
    ∀ lane ∈ phaseLanes phase, record.laneValid lane = true := by
  rw [phaseLanesValid, Bool.and_eq_true] at there
  intro lane member
  rcases List.mem_cons.mp member with rfl | member
  · exact there.1
  · exact needs_lane there.2 lane member

theorem needs_pair {pair : Phase} (there : pairValid record pair = true) :
    ∀ lane ∈ pairLanes pair, record.laneValid lane = true := by
  rw [pairValid, Bool.and_eq_true] at there
  intro lane member
  rcases List.mem_cons.mp member with rfl | member
  · exact there.1
  · exact needs_lane there.2 lane member

theorem powerValues_graded :
    (powerValues record source tier.period).PhasesGraded (Grades tier record) where
  activePower _ := payload_graded needs_phase
  apparentPower _ := payload_graded needs_phase
  powerFactor _ := payload_graded fun there => needs_phase (Bool.and_eq_true_iff.mp there).1
  voltageCrest _ := payload_graded needs_lane
  currentCrest _ := payload_graded needs_lane
  neutralCrest := payload_graded needs_lane

theorem phasorValues_graded :
    (phasorValues record source tier.period).PhasesGraded (Grades tier record) where
  fundamentalVoltage _ := block_graded needs_lane
  fundamentalCurrent _ := block_graded needs_lane
  neutralCurrent := block_graded needs_lane
  fundamentalVoltageLl _ := block_graded needs_pair
  voltageAngle _ := block_graded fun there =>
    needs_lane (Bool.and_eq_true_iff.mp (Bool.and_eq_true_iff.mp there).1).1
  currentAngle _ := block_graded fun there =>
    needs_lane (Bool.and_eq_true_iff.mp (Bool.and_eq_true_iff.mp there).1).1
  neutralAngle := block_graded fun there =>
    needs_lane (Bool.and_eq_true_iff.mp (Bool.and_eq_true_iff.mp there).1).1
  voltageLlAngle _ := block_graded fun there =>
    needs_pair (Bool.and_eq_true_iff.mp (Bool.and_eq_true_iff.mp there).1).1
  displacementAngle _ := block_graded fun there =>
    needs_phase (Bool.and_eq_true_iff.mp (Bool.and_eq_true_iff.mp there).1).1
  reactivePower _ := block_graded needs_phase
  fundamentalActivePower _ := block_graded needs_phase
  displacementPowerFactor _ := block_graded fun there =>
    needs_phase (Bool.and_eq_true_iff.mp there).1

theorem needs_voltage
    (there : (record.laneValid 4 && record.laneValid 5 && record.laneValid 6) = true) :
    ∀ lane ∈ voltageLanes, record.laneValid lane = true := by
  rw [Bool.and_eq_true, Bool.and_eq_true] at there
  simp [voltageLanes, there.1.1, there.1.2, there.2]

theorem needs_current
    (there : (record.laneValid 0 && record.laneValid 1 && record.laneValid 2) = true) :
    ∀ lane ∈ currentLanes, record.laneValid lane = true := by
  rw [Bool.and_eq_true, Bool.and_eq_true] at there
  simp [currentLanes, there.1.1, there.1.2, there.2]

theorem unbalanceValues_graded :
    (unbalanceValues record source tier.period).Graded (Grades tier record) where
  voltageSequence _ := block_graded needs_voltage
  voltageAngle _ := block_graded fun there =>
    needs_voltage (Bool.and_eq_true_iff.mp (Bool.and_eq_true_iff.mp there).1).1
  currentSequence _ := block_graded needs_current
  currentAngle _ := block_graded fun there =>
    needs_current (Bool.and_eq_true_iff.mp (Bool.and_eq_true_iff.mp there).1).1
  voltageZeroRatio := block_graded fun there => needs_voltage (Bool.and_eq_true_iff.mp there).1
  voltageUnbalance := block_graded fun there => needs_voltage (Bool.and_eq_true_iff.mp there).1
  currentZeroRatio := block_graded fun there => needs_current (Bool.and_eq_true_iff.mp there).1
  currentUnbalance := block_graded fun there => needs_current (Bool.and_eq_true_iff.mp there).1

theorem fundamentalValues_graded :
    (decodeFundamentalValues record source).Graded (Grades .basic record) := by
  have usable : UsableInterval .basic record := fun merged => absurd rfl merged
  have lane : ∀ (value : Int64) {available : Bool} {lanes : List Lane},
      (available = true → ∀ lane ∈ lanes, record.laneValid lane = true) →
        Grades .basic record lanes (basicReading source value available) := by
    intro value available lanes needs valid
    cases available with
    | false => cases valid
    | true => exact ⟨needs rfl, usable⟩
  exact {
    frequency := fun _ => ⟨fun _ member => (nomatch member), usable⟩
    voltageLn := fun _ => lane _ needs_lane
    current := fun _ => lane _ needs_lane
    neutral := lane _ needs_lane
    voltageLl := fun _ => lane _ needs_pair }

theorem aggregateValues_graded {arithmeticError forceInvalid : Bool}
    (usable : arithmeticError = false → forceInvalid = false → UsableInterval tier record) :
    (decodeAggregateFundamentalValues record source arithmeticError forceInvalid).Graded
      (Grades tier record) := by
  have lane : ∀ (value : Int64) {available : Bool} {lanes : List Lane},
      (available = true → ∀ lane ∈ lanes, record.laneValid lane = true) →
        Grades tier record lanes
          (source.reading value (grade arithmeticError forceInvalid available)) := by
    intro value available lanes needs valid
    obtain ⟨exact, forced, there⟩ := grade_valid valid
    exact ⟨needs there, usable exact forced⟩
  exact {
    frequency := fun valid => nomatch valid
    voltageLn := fun _ => lane _ needs_lane
    current := fun _ => lane _ needs_lane
    neutral := lane _ needs_lane
    voltageLl := fun _ => lane _ needs_pair }

theorem usable_of_status (exact : record.tenMinuteStatus.arithmeticError = false)
    (usable : invalidInterval record = false) : UsableInterval tier record := by
  intro merged interval
  simp only [invalidInterval] at usable
  rw [Bool.or_eq_false_iff, Bool.or_eq_false_iff, Bool.not_eq_false', Bool.not_eq_false'] at usable
  exact ⟨exact, usable.1.2, usable.1.1, usable.2⟩

section Lanes

variable {withheld invalid : Bool} {lanes : Phase → Bool}

/-- Totals that are graded by the lanes of phase A are as they should be when all phases have
their lanes alike. -/
theorem totals_complete
    (alike : (withheld || invalid) = true ∨ (∀ phase, lanes phase = true) ∨
      ∀ phase, lanes phase = false) {available : Bool}
    (needs : available = true → lanes a = true)
    (valid : grade withheld invalid available = .valid) : ∀ phase, lanes phase = true := by
  obtain ⟨exact, usable, there⟩ := grade_valid valid
  rcases alike with closed | all | none
  · rw [exact, usable] at closed
    cases closed
  · exact all
  · have own := needs there
    rw [none a] at own
    cases own

theorem totals_kept
    (alike : (withheld || invalid) = true ∨ (∀ phase, lanes phase = true) ∨
      ∀ phase, lanes phase = false) (available : Bool → Bool) (phase : Phase) :
    grade withheld invalid (available (lanes phase)) =
      grade withheld invalid (available (lanes a)) := by
  rcases alike with closed | all | none
  · unfold grade
    rw [Bool.or_eq_true] at closed
    rcases closed with set | set
    · rw [if_pos set, if_pos set]
    · rw [if_pos set, if_pos set]
  · rw [all phase, all a]
  · rw [none phase, none a]

theorem alike_of_totals
    (complete : grade withheld invalid (lanes a) = .valid → ∀ phase, lanes phase = true)
    (kept : ∀ relabel : Equiv.Perm Phase,
      grade withheld invalid (lanes (relabel a)) = grade withheld invalid (lanes a)) :
    (withheld || invalid) = true ∨ (∀ phase, lanes phase = true) ∨
      ∀ phase, lanes phase = false := by
  cases exact : withheld with
  | true => exact .inl rfl
  | false =>
      cases usable : invalid with
      | true => exact .inl rfl
      | false =>
          right
          rw [exact, usable] at complete kept
          cases own : lanes a with
          | true =>
              left
              exact complete (by rw [own]; rfl)
          | false =>
              right
              intro phase
              have same := kept (Equiv.swap a phase)
              rw [Equiv.swap_apply_left, own] at same
              cases other : lanes phase with
              | false => rfl
              | true =>
                  rw [other] at same
                  cases same

end Lanes

theorem needs_all (all : ∀ phase, phaseLanesValid record phase = true) :
    ∀ lane ∈ voltageLanes ++ currentLanes, record.laneValid lane = true := by
  have voltage : ∀ phase : Phase, record.laneValid phase.voltageLane = true :=
    fun phase => (Bool.and_eq_true_iff.mp (all phase)).1
  have current : ∀ phase : Phase, record.laneValid phase.currentLane = true :=
    fun phase => (Bool.and_eq_true_iff.mp (all phase)).2
  intro lane member
  simp only [voltageLanes, currentLanes, List.cons_append, List.nil_append, List.mem_cons,
    List.not_mem_nil, or_false] at member
  rcases member with rfl | rfl | rfl | rfl | rfl | rfl
  · exact voltage a
  · exact voltage b
  · exact voltage c
  · exact current a
  · exact current b
  · exact current c

theorem all_of_needs (needs : ∀ lane ∈ voltageLanes ++ currentLanes, record.laneValid lane = true)
    (phase : Phase) : phaseLanesValid record phase = true := by
  rw [phaseLanesValid, Bool.and_eq_true]
  cases phase
  all_goals exact ⟨needs _ (by decide), needs _ (by decide)⟩

theorem payload_total (alike : PhasesAlike tier .power record) {value : Int64} {available : Bool}
    (needs : available = true → phaseLanesValid record a = true) :
    let state := aggregatePayloadState record tier.period
    Grades tier record (voltageLanes ++ currentLanes)
      (source.reading value (grade state.arithmeticError state.invalid available)) := by
  intro state valid
  obtain ⟨exact, usable, -⟩ := grade_valid valid
  exact ⟨needs_all (totals_complete alike needs valid), usable_of_state exact usable⟩

theorem block_total (alike : PhasesAlike tier .phasor record) {value : Int64} {available : Bool}
    (needs : available = true → phaseLanesValid record a = true) :
    let state := aggregatePayloadState record tier.period
    Grades tier record (voltageLanes ++ currentLanes)
      (source.reading value
        (grade state.arithmeticError (blockInvalid record state) available)) := by
  intro state valid
  obtain ⟨exact, usable, -⟩ := grade_valid valid
  exact ⟨needs_all (totals_complete alike needs valid),
    usable_of_state exact (Bool.or_eq_false_iff.mp usable).2⟩

/-- The totals are graded by the lanes of phase A, in the permuted record by those of another. -/
theorem powerTotals_iff :
    ((powerValues record source tier.period).TotalsGraded (Grades tier record) ∧
      ∀ relabel, (powerValues record source tier.period).TotalsKept
        (powerValues (permutePhases relabel tier .power record) source tier.period)) ↔
      PhasesAlike tier .power record := by
  have lanes := fun relabel => phaseLanes_permuted relabel record tier .power a
  constructor
  · rintro ⟨graded, kept⟩
    refine alike_of_totals ?_ ?_
    · intro valid
      exact all_of_needs (graded.totalActivePower valid).1
    · intro relabel
      have same := (kept relabel).totalActivePower
      rw [← lanes]
      exact same
  · intro alike
    refine ⟨⟨payload_total alike id, payload_total alike id,
      payload_total alike fun there => (Bool.and_eq_true_iff.mp there).1⟩, ?_⟩
    intro relabel
    have same := fun available => totals_kept alike available (relabel a)
    simp only [← lanes] at same
    exact ⟨same id, same id, same fun there => there && record.signed64 33 != 0⟩

theorem phasorTotals_iff :
    ((phasorValues record source tier.period).TotalsGraded (Grades tier record) ∧
      ∀ relabel, (phasorValues record source tier.period).TotalsKept
        (phasorValues (permutePhases relabel tier .phasor record) source tier.period)) ↔
      PhasesAlike tier .phasor record := by
  have lanes := fun relabel => phaseLanes_permuted relabel record tier .phasor a
  constructor
  · rintro ⟨graded, kept⟩
    refine alike_of_totals ?_ ?_
    · intro valid
      exact all_of_needs (graded.totalReactivePower valid).1
    · intro relabel
      have same := (kept relabel).totalReactivePower
      rw [← lanes]
      exact same
  · intro alike
    refine ⟨⟨block_total alike id, block_total alike id,
      block_total alike fun there => (Bool.and_eq_true_iff.mp there).1⟩, ?_⟩
    intro relabel
    have same := fun available => totals_kept alike available (relabel a)
    simp only [← lanes] at same
    refine ⟨same id, same id, ?_⟩
    have nature : loadNature ((permutePhases relabel tier .phasor record).word 51) 6 =
        loadNature (record.word 51) 6 := by
      rw [loadNature, loadNature, flagBit_kept relabel tier record (by decide) (by decide),
        flagBit_kept relabel tier record (by decide) (by decide)]
    simp only [phasorValues]
    rw [nature]
    exact same fun there => there && loadNature (record.word 51) 6 != .undefined

end Totals

section Decoders

def intervalCheck (tier : Tier) (quantity : Quantity) (record : MeterRecord) :
    Except Failure Unit :=
  match quantity, tier with
  | .fundamental, .basic => checkPeriodic record
  | .fundamental, .aggregate => checkAggregate record
  | .fundamental, .tenMinute => checkTenMinute record
  | .fundamental, .twoHour => checkTwoHour record
  | .fundamental, .tenMinuteOpen =>
      checkOpenInterval record (.interval .tenMinuteOpen .fundamental)
  | .fundamental, .twoHourOpen => checkOpenInterval record (.interval .twoHourOpen .fundamental)
  | .power, tier => checkSibling record (.interval tier .power) "power"
  | .phasor, tier => checkSibling record (.interval tier .phasor) "phasor"
  | .unbalance, tier => checkSibling record (.interval tier .unbalance) "unbalance"

theorem intervalCheck_permuted (relabel : Equiv.Perm Phase) (tier : Tier) (quantity : Quantity)
    (record : MeterRecord) : intervalCheck tier quantity
      (permutePhases relabel tier quantity record) = intervalCheck tier quantity record := by
  cases quantity with
  | fundamental => cases tier <;> rfl
  | power => rfl
  | phasor => rfl
  | unbalance => rfl

theorem source_permuted (relabel : Equiv.Perm Phase) (tier : Tier) (quantity : Quantity)
    (record : MeterRecord) (receivedAt : Int64) :
    Source.of (permutePhases relabel tier quantity record) receivedAt = .of record receivedAt := by
  cases quantity with
  | fundamental => cases tier <;> rfl
  | power => rfl
  | phasor => rfl
  | unbalance => rfl

def tierValues (tier : Tier) (record : MeterRecord) (source : Source) : FundamentalValues :=
  match tier with
  | .basic => decodeFundamentalValues record source
  | .aggregate => decodeAggregateFundamentalValues record source
      record.aggregateStatus.arithmeticError false
  | _ => decodeAggregateFundamentalValues record source
      record.tenMinuteStatus.arithmeticError (invalidInterval record)

/-- The values of an update are those of its quantity. -/
structure Carries (tier : Tier) (quantity : Quantity) (record : MeterRecord) (source : Source)
    (update : MeterUpdate) : Prop where
  fundamental : update.fundamental =
    if quantity = .fundamental then some (tierValues tier record source) else none
  power : update.power =
    if quantity = .power then some (powerValues record source tier.period) else none
  phasor : update.phasor =
    if quantity = .phasor then some (phasorValues record source tier.period) else none
  unbalance : update.unbalance =
    if quantity = .unbalance then some (unbalanceValues record source tier.period) else none

theorem decodeInterval_spec (tier : Tier) (quantity : Quantity) (record : MeterRecord)
    (receivedAt : Int64) : ∃ result, Carries tier quantity record (.of record receivedAt) result ∧
      decodeInterval tier quantity record receivedAt =
        (intervalCheck tier quantity record).map fun _ => result := by
  have returns : ∀ (check : Except Failure Unit) (result : MeterUpdate),
      (check >>= fun _ => pure result) = check.map fun _ => result := by
    intro check result
    cases check <;> rfl
  cases quantity with
  | fundamental =>
      cases tier
      all_goals exact ⟨_, ⟨rfl, rfl, rfl, rfl⟩, returns _ _⟩
  | power => exact ⟨_, ⟨rfl, rfl, rfl, rfl⟩, returns _ _⟩
  | phasor => exact ⟨_, ⟨rfl, rfl, rfl, rfl⟩, returns _ _⟩
  | unbalance => exact ⟨_, ⟨rfl, rfl, rfl, rfl⟩, returns _ _⟩

variable {tier : Tier} {quantity : Quantity} {record : MeterRecord} {receivedAt : Int64}
  {update : MeterUpdate}

theorem decoded_carries (decoded : decodeInterval tier quantity record receivedAt = .ok update) :
    intervalCheck tier quantity record = .ok () ∧
      Carries tier quantity record (.of record receivedAt) update := by
  obtain ⟨result, carried, spec⟩ := decodeInterval_spec tier quantity record receivedAt
  rw [spec] at decoded
  cases check : intervalCheck tier quantity record with
  | error failure =>
      rw [check] at decoded
      cases decoded
  | ok _ =>
      rw [check] at decoded
      cases decoded
      exact ⟨rfl, carried⟩

theorem permuted_decodes (decoded : decodeInterval tier quantity record receivedAt = .ok update)
    (relabel : Equiv.Perm Phase) : ∃ after,
      decodeInterval tier quantity (permutePhases relabel tier quantity record) receivedAt =
          .ok after ∧
        Carries tier quantity (permutePhases relabel tier quantity record) (.of record receivedAt)
          after := by
  obtain ⟨result, carried, spec⟩ := decodeInterval_spec tier quantity
    (permutePhases relabel tier quantity record) receivedAt
  rw [intervalCheck_permuted, (decoded_carries decoded).1] at spec
  rw [source_permuted] at carried
  exact ⟨result, spec, carried⟩

theorem tierValues_graded (source : Source) :
    (tierValues tier record source).Graded (Grades tier record) := by
  cases tier
  case basic => exact fundamentalValues_graded
  case aggregate =>
    exact aggregateValues_graded fun _ _ _ interval => absurd rfl interval
  all_goals exact aggregateValues_graded usable_of_status

theorem tierValues_permuted (relabel : Equiv.Perm Phase) (source : Source) :
    (tierValues tier record source).PermutedTo relabel
      (tierValues tier (permutePhases relabel tier .fundamental record) source) := by
  cases tier
  case basic => exact fundamentalValues_permuted relabel record source
  all_goals exact aggregateValues_permuted relabel _ record source (by decide) _ _

theorem carried_graded {source : Source} {grades : List Lane → Reading → Prop}
    (carried : Carries tier quantity record source update)
    (fundamental : quantity = .fundamental → (tierValues tier record source).Graded grades)
    (power : quantity = .power →
      (powerValues record source tier.period).PhasesGraded grades ∧
        (powerValues record source tier.period).TotalsGraded grades)
    (phasor : quantity = .phasor →
      (phasorValues record source tier.period).PhasesGraded grades ∧
        (phasorValues record source tier.period).TotalsGraded grades)
    (unbalance : quantity = .unbalance →
      (unbalanceValues record source tier.period).Graded grades) : update.Graded grades where
  fundamental values own := by
    rw [carried.fundamental, Option.mem_ite_none_right] at own
    obtain ⟨here, ⟨⟩⟩ := own
    exact fundamental here
  power values own := by
    rw [carried.power, Option.mem_ite_none_right] at own
    obtain ⟨here, ⟨⟩⟩ := own
    exact power here
  phasor values own := by
    rw [carried.phasor, Option.mem_ite_none_right] at own
    obtain ⟨here, ⟨⟩⟩ := own
    exact phasor here
  unbalance values own := by
    rw [carried.unbalance, Option.mem_ite_none_right] at own
    obtain ⟨here, ⟨⟩⟩ := own
    exact unbalance here

theorem carried_permuted {source : Source} {relabel : Equiv.Perm Phase} {after : MeterUpdate}
    (carried : Carries tier quantity record source update)
    (later : Carries tier quantity (permutePhases relabel tier quantity record) source after)
    (power : quantity = .power → (powerValues record source tier.period).TotalsKept
      (powerValues (permutePhases relabel tier .power record) source tier.period))
    (phasor : quantity = .phasor → (phasorValues record source tier.period).TotalsKept
      (phasorValues (permutePhases relabel tier .phasor record) source tier.period)) :
    update.PermutedTo relabel after where
  fundamental values own := by
    rw [carried.fundamental, Option.mem_ite_none_right] at own
    obtain ⟨rfl, ⟨⟩⟩ := own
    exact ⟨_, later.fundamental, tierValues_permuted relabel source⟩
  power values own := by
    rw [carried.power, Option.mem_ite_none_right] at own
    obtain ⟨rfl, ⟨⟩⟩ := own
    exact ⟨_, later.power, powerValues_permuted relabel tier record source _, power rfl⟩
  phasor values own := by
    rw [carried.phasor, Option.mem_ite_none_right] at own
    obtain ⟨rfl, ⟨⟩⟩ := own
    exact ⟨_, later.phasor, phasorValues_permuted relabel tier record source _, phasor rfl⟩
  unbalance := by
    rw [carried.unbalance, later.unbalance]
    split
    · next here =>
        subst here
        rw [unbalanceValues_permuted]
    · rfl

end Decoders

/-- Every reading is valid only with its lanes and in a usable interval, and the readings of a
record with permuted phases are the permuted ones with totals of the same quality, exactly when
no total is graded by the lanes of one phase alone. -/
theorem readings_graded_by_lanes (tier : Tier) (quantity : Quantity) (record : MeterRecord)
    (receivedAt : Int64) (update : MeterUpdate)
    (decoded : decodeInterval tier quantity record receivedAt = .ok update) :
    (update.Graded (Grades tier record) ∧ ∀ relabel, ∃ after,
      decodeInterval tier quantity (permutePhases relabel tier quantity record) receivedAt =
          .ok after ∧ update.PermutedTo relabel after) ↔
      PhasesAlike tier quantity record := by
  obtain ⟨-, carried⟩ := decoded_carries decoded
  constructor
  · rintro ⟨graded, permuted⟩
    have next : ∀ relabel, ∃ after, Carries tier quantity
        (permutePhases relabel tier quantity record) (.of record receivedAt) after ∧
          update.PermutedTo relabel after := by
      intro relabel
      obtain ⟨after, again, related⟩ := permuted relabel
      obtain ⟨-, later⟩ := decoded_carries again
      rw [source_permuted] at later
      exact ⟨after, later, related⟩
    cases quantity with
    | fundamental => exact .inl rfl
    | power =>
        refine powerTotals_iff.mp ⟨(graded.power _ carried.power).2, fun relabel => ?_⟩
        obtain ⟨after, later, related⟩ := next relabel
        obtain ⟨values, own, -, kept⟩ := related.power _ carried.power
        cases later.power.symm.trans own
        exact kept
    | phasor =>
        refine phasorTotals_iff.mp ⟨(graded.phasor _ carried.phasor).2, fun relabel => ?_⟩
        obtain ⟨after, later, related⟩ := next relabel
        obtain ⟨values, own, -, kept⟩ := related.phasor _ carried.phasor
        cases later.phasor.symm.trans own
        exact kept
    | unbalance => exact .inl rfl
  · intro alike
    refine ⟨?_, fun relabel => ?_⟩
    · apply carried_graded carried
      · exact fun _ => tierValues_graded _
      · rintro rfl
        exact ⟨powerValues_graded, (powerTotals_iff.mpr alike).1⟩
      · rintro rfl
        exact ⟨phasorValues_graded, (phasorTotals_iff.mpr alike).1⟩
      · exact fun _ => unbalanceValues_graded
    · obtain ⟨after, again, later⟩ := permuted_decodes decoded relabel
      refine ⟨after, again, carried_permuted carried later ?_ ?_⟩
      · rintro rfl
        exact (powerTotals_iff.mpr alike).2 relabel
      · rintro rfl
        exact (phasorTotals_iff.mpr alike).2 relabel

theorem decodes_of_check {tier : Tier} {quantity : Quantity} {record : MeterRecord}
    (receivedAt : Int64) (checked : intervalCheck tier quantity record = .ok ()) :
    ∃ update, decodeInterval tier quantity record receivedAt = .ok update := by
  obtain ⟨result, -, spec⟩ := decodeInterval_spec tier quantity record receivedAt
  rw [checked] at spec
  exact ⟨result, spec⟩

def powerRecord (lanes : UInt32) : MeterRecord :=
  .ofWords [(0, 0x3152544d), (1, 0x00070001), (2, 256), (3, 1), (4, 1), (5, 128000), (6, 25600),
    (7, lanes), (9, 1), (16, 1000), (18, 1000), (31, 1000), (33, 1000), (35, 1000000)]

theorem full_record_graded : ∃ update,
    decodeInterval .basic .power (powerRecord 0x7f) 0 = .ok update ∧
      update.Graded (Grades .basic (powerRecord 0x7f)) := by
  obtain ⟨update, decoded⟩ := decodes_of_check 0
    (show intervalCheck .basic .power (powerRecord 0x7f) = .ok () by decide +kernel)
  have all : ∀ phase, phaseLanesValid (powerRecord 0x7f) phase = true := by
    intro phase
    cases phase <;> decide +kernel
  exact ⟨update, decoded,
    ((readings_graded_by_lanes .basic .power _ 0 update decoded).mpr (.inr (.inl all))).1⟩

/-- With the lanes of phase A alone the totals are valid. -/
theorem phase_a_totals_valid : ∃ update,
    decodeInterval .basic .power (powerRecord 0x41) 0 = .ok update ∧
      ¬update.Graded (Grades .basic (powerRecord 0x41)) := by
  obtain ⟨update, decoded⟩ := decodes_of_check 0
    (show intervalCheck .basic .power (powerRecord 0x41) = .ok () by decide +kernel)
  refine ⟨update, decoded, fun graded => ?_⟩
  have totals := (graded.power _ (decoded_carries decoded).2.power).2
  have needed := (totals.totalActivePower (by decide +kernel)).1 5 (by decide)
  exact absurd needed (by decide +kernel)

end Msap1.Meter
