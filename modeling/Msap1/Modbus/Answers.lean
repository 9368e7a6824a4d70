import Msap1.Modbus.Projection

/-! The answers of the handler: data for the reads that the bank serves, exceptions or silence
for everything else. -/

namespace Msap1.Modbus

open Meter

theorem appendU16Be_eq (value : UInt16) :
    appendU16Be value =
      [UInt8.ofNat (value.toNat / 256), UInt8.ofNat (value.toNat % 256)] := by
  have bound := value.toNat_lt
  have mask : (0xff : UInt16).toNat = 2 ^ 8 - 1 := rfl
  have shift : (8 : UInt16).toNat % 16 = 8 := rfl
  have high : ((value >>> 8) &&& 0xff).toUInt8 = UInt8.ofNat (value.toNat / 256) := by
    apply UInt8.toNat_inj.mp
    rw [UInt16.toNat_toUInt8, UInt16.toNat_and, UInt16.toNat_shiftRight, UInt8.toNat_ofNat', mask,
      Nat.and_two_pow_sub_one_eq_mod, shift, Nat.shiftRight_eq_div_pow]
    omega
  have low : (value &&& 0xff).toUInt8 = UInt8.ofNat (value.toNat % 256) := by
    apply UInt8.toNat_inj.mp
    rw [UInt16.toNat_toUInt8, UInt16.toNat_and, UInt8.toNat_ofNat', mask,
      Nat.and_two_pow_sub_one_eq_mod]
  rw [appendU16Be, high, low]

theorem appendU16Be_injective {first second : UInt16}
    (same : appendU16Be first = appendU16Be second) : first = second := by
  have firstBound := first.toNat_lt
  have secondBound := second.toNat_lt
  rw [appendU16Be_eq, appendU16Be_eq, List.cons.injEq, List.cons.injEq, ← UInt8.toNat_inj,
    ← UInt8.toNat_inj] at same
  simp only [UInt8.toNat_ofNat'] at same
  apply UInt16.toNat_inj.mp
  omega

theorem flatten_appendU16Be_injective {first second : List UInt16}
    (same : (first.map appendU16Be).flatten = (second.map appendU16Be).flatten) :
    first = second := by
  induction first generalizing second with
  | nil =>
      cases second with
      | nil => rfl
      | cons word words => cases same
  | cons word words ih =>
      cases second with
      | nil => cases same
      | cons other others =>
          rw [List.map_cons, List.map_cons, List.flatten_cons, List.flatten_cons] at same
          obtain ⟨head, tail⟩ := List.append_inj same rfl
          rw [appendU16Be_injective head, ih tail]

def dataPdu (function : FunctionCode) (words : List UInt16) : Bytes :=
  function.code :: UInt8.ofNat (words.length * 2) :: (words.map appendU16Be).flatten

theorem dataPdu_injective {function : FunctionCode} {first second : List UInt16}
    (same : dataPdu function first = dataPdu function second) : first = second := by
  simp only [dataPdu, List.cons.injEq] at same
  exact flatten_appendU16Be_injective same.2.2

theorem length_dataPdu (function : FunctionCode) (words : List UInt16) :
    (dataPdu function words).length = 2 + 2 * words.length := by
  have each : ((words.map appendU16Be).flatten).length = 2 * words.length := by
    induction words with
    | nil => rfl
    | cons word words ih =>
        rw [List.map_cons, List.flatten_cons, List.length_append, ih, List.length_cons]
        simp only [appendU16Be, List.length_cons, List.length_nil]
        omega
  rw [dataPdu, List.length_cons, List.length_cons, each]
  omega

theorem exceptionPdu_ne_dataPdu {function : FunctionCode} {code : ExceptionCode}
    {words : List UInt16} : exceptionPdu function.code code ≠ dataPdu function words := by
  intro same
  have head := congrArg List.head? same
  simp only [exceptionPdu, dataPdu, List.head?_cons, Option.some.injEq] at head
  revert head
  cases function <;> decide

/-- A read of registers that is spelled as one and addressed to the unit. -/
structure Asks (request : Request) (unitId : UInt8) (function : FunctionCode)
    (address count : UInt16) : Prop where
  unit : unitId ≠ 0 ∧ unitId ≤ 247
  addressed : request.unitId = unitId
  table : isRegisterRead function = true
  spelled : ∃ addressHigh addressLow quantityHigh quantityLow,
    request.pdu = [function.code, addressHigh, addressLow, quantityHigh, quantityLow] ∧
      address = readU16Be addressHigh addressLow ∧ count = readU16Be quantityHigh quantityLow

section Answers

variable {entries : List RegisterDefinition} {latest : Provider} {request : Request}
  {unitId : UInt8} {function : FunctionCode} {address count : UInt16}

theorem Asks.not_broadcast (asks : Asks request unitId function address count) :
    broadcast request = false := by
  rw [broadcast, asks.addressed]
  simp [asks.unit.1]

theorem Asks.handle_eq (registers : RegisterBank)
    (asks : Asks request unitId function address count) :
    handle registers request unitId = .ok (handleRead registers request function) := by
  obtain ⟨addressHigh, addressLow, quantityHigh, quantityLow, spelled, -⟩ := asks.spelled
  have valid : ¬ (decide (unitId = 0) || decide (247 < unitId)) = true := by
    simp only [Bool.or_eq_true, decide_eq_true_eq, not_or, UInt8.not_lt]
    exact asks.unit
  rw [handle, if_neg valid, spelled]
  simp only [asks.not_broadcast, asks.addressed, Bool.not_false, Bool.true_and, ne_eq,
    not_true_eq_false, decide_false, Bool.false_eq_true, if_false]
  cases function with
  | readHoldingRegisters => rfl
  | readInputRegisters => rfl
  | writeSingleRegister => cases asks.table
  | writeMultipleRegisters => cases asks.table

/-- Reads are answered with data exactly when the bank has values for the whole quantity. -/
theorem Asks.data_iff (asks : Asks request unitId function address count) (words : List UInt16) :
    handle (msap1RegisterBank entries latest) request unitId =
        .ok (respond request (dataPdu function words)) ↔
      (1 ≤ count.toNat ∧ count.toNat ≤ 125) ∧
        bankRead entries latest function address count = { values := words } ∧
        words.length = count.toNat := by
  obtain ⟨addressHigh, addressLow, quantityHigh, quantityLow, spelled, address_eq, count_eq⟩ :=
    asks.spelled
  rw [asks.handle_eq, handleRead, asks.not_broadcast, if_neg Bool.false_ne_true, spelled]
  simp only [← address_eq, ← count_eq]
  have refused : ∀ code, ¬ (.ok (respond request (exceptionPdu function.code code)) :
      Except InvalidArgument (Option Response)) =
        .ok (respond request (dataPdu function words)) := by
    intro code same
    simp only [respond, Except.ok.injEq, Option.some.injEq, Response.mk.injEq, true_and] at same
    exact exceptionPdu_ne_dataPdu same
  by_cases legal : 1 ≤ count.toNat ∧ count.toNat ≤ 125
  case neg =>
    have outside : (decide (count = 0) || decide (125 < count)) = true := by
      simp only [Bool.or_eq_true, decide_eq_true_eq, UInt16.lt_iff_toNat_lt, ← UInt16.toNat_inj]
      simp only [UInt16.reduceToNat]
      omega
    rw [if_pos outside]
    exact ⟨fun same => absurd same (refused _), fun both => absurd both.1 legal⟩
  have inside : ¬ (decide (count = 0) || decide (125 < count)) = true := by
    simp only [Bool.or_eq_true, decide_eq_true_eq, UInt16.lt_iff_toNat_lt, ← UInt16.toNat_inj]
    simp only [UInt16.reduceToNat]
    omega
  rw [if_neg inside, and_iff_right legal]
  have read : bankRead entries latest function address count =
      (msap1RegisterBank entries latest).read function address count := rfl
  rw [read]
  generalize (msap1RegisterBank entries latest).read function address count = result
  obtain ⟨exception, values⟩ := result
  by_cases failed : exception = .none
  case neg =>
    rw [if_pos failed]
    refine ⟨fun same => absurd same (refused _), fun both => absurd ?_ failed⟩
    exact congrArg RegisterReadResult.exception both.1
  subst failed
  rw [if_neg (fun other => other rfl)]
  by_cases short : values.length = count.toNat
  case neg =>
    rw [if_pos short]
    refine ⟨fun same => absurd same (refused _), ?_⟩
    rintro ⟨same, sized⟩
    cases same
    exact absurd sized short
  rw [if_neg (fun other => other short)]
  constructor
  · intro same
    simp only [respond, Except.ok.injEq, Option.some.injEq, Response.mk.injEq, true_and] at same
    have values_eq : values = words := dataPdu_injective same
    rw [← values_eq]
    exact ⟨rfl, short⟩
  · rintro ⟨same, -⟩
    cases same
    rfl

theorem Asks.answer_iff (sound : Sound entries)
    (asks : Asks request unitId function address count) (words : List UInt16) :
    handle (msap1RegisterBank entries latest) request unitId =
        .ok (respond request (dataPdu function words)) ↔
      Selectable entries function address.toNat count.toNat ∧
        Reached entries function address.toNat count.toNat ∧
        ∃ snapshot, snapshotFor entries latest function address.toNat count.toNat =
            some snapshot ∧
          Projected entries function address.toNat count.toNat snapshot words := by
  rw [asks.data_iff]
  constructor
  · rintro ⟨legal, read, -⟩
    exact (bankRead_iff sound latest asks.table address count legal words).mp read
  · intro both
    have legal := both.1.quantity
    obtain ⟨snapshot, -, sized, -⟩ := both.2.2
    exact ⟨legal, (bankRead_iff sound latest asks.table address count legal words).mpr both, sized⟩

theorem exists_projected {function : FunctionCode} {address count : Nat}
    (sound : Sound entries) (selectable : Selectable entries function address count)
    (reached : Reached entries function address count) (snapshot : Option MeterSnapshot) :
    ∃ words, Projected entries function address count snapshot words := by
  have each : ∀ current ∈ List.range' address count,
      wordAt entries function snapshot current =
        some ((wordAt entries function snapshot current).getD 0) := by
    intro current member
    rw [List.mem_range'_1] at member
    obtain ⟨entry, owner⟩ := selectable.owned (current - address) (by omega)
    have inside := reached entry (current - address) (by omega) owner
    rw [Nat.add_sub_cancel' member.1] at owner inside
    rw [← length_encode entry snapshot] at inside
    rw [wordAt_of_owner sound owner, List.getElem?_eq_getElem inside]
    rfl
  have outcome : (List.range' address count).mapM (wordAt entries function snapshot) =
      some ((List.range' address count).map fun current =>
        (wordAt entries function snapshot current).getD 0) := by
    rw [mapM_some_iff, List.map_map]
    exact List.map_congr_left each
  exact ⟨_, ((mapM_wordAt_iff sound selectable.owned snapshot _).mp outcome).2⟩

section Splitting

variable {function : FunctionCode} {address count offset size : Nat}

theorem Selectable.part (selectable : Selectable entries function address count)
    (filled : 1 ≤ size) (within : offset + size ≤ count) :
    Selectable entries function (address + offset) size := by
  have quantity := selectable.quantity
  refine ⟨⟨filled, by omega⟩, ?_, ?_⟩
  · intro index bound
    rw [Nat.add_assoc]
    exact selectable.owned (offset + index) (by omega)
  · intro first second one two oneBound twoBound firstOwner secondOwner
    rw [Nat.add_assoc] at firstOwner secondOwner
    exact selectable.single first second (offset + one) (offset + two) (by omega) (by omega)
      firstOwner secondOwner

theorem Reached.part (reached : Reached entries function address count)
    (within : offset + size ≤ count) : Reached entries function (address + offset) size := by
  intro entry index bound owner
  rw [Nat.add_assoc] at owner ⊢
  exact reached entry (offset + index) (by omega) owner

/-- Definitions without a period encode to the same words without a snapshot. -/
def Still (entries : List RegisterDefinition) (snapshot : Option MeterSnapshot) : Prop :=
  ∀ entry ∈ entries, sourcePeriod entry.source = none → encode entry snapshot = encode entry none

/-- The snapshot that a range takes shows its definitions what any other range shows them. -/
theorem encode_snapshotFor (sound : Sound entries) {snapshot taken : Option MeterSnapshot}
    (still : Still entries snapshot) (selectable : Selectable entries function address count)
    (took : snapshotFor entries (fun _ => some snapshot) function address count = some taken)
    {entry : RegisterDefinition} {index : Nat} (bound : index < count)
    (owner : Owner entries function (address + index) entry) :
    encode entry taken = encode entry snapshot := by
  have bounded : address + count ≤ 0x10000 := by
    have quantity := selectable.quantity
    obtain ⟨last, lastOwner⟩ := selectable.owned (count - 1) (by omega)
    have := sound.owner_bound lastOwner
    omega
  have chosen := chosen_snapshotSelection ((found_iff sound bounded).mpr selectable.owned)
  rw [snapshotFor, takeSnapshot] at took
  cases picked : (snapshotSelection entries function (List.range' address count)).period with
  | none =>
      simp only [picked, Option.some.injEq] at took
      have silent := chosen.empty picked entry.source
        ⟨entry, (covers_iff sound bounded entry).mpr ⟨index, bound, owner⟩, rfl⟩
      rw [← took, still entry owner.1 silent]
  | some period =>
      simp only [picked, Option.some.injEq] at took
      rw [took]

theorem Projected.part {snapshot taken partTaken : Option MeterSnapshot} {words : List UInt16}
    (sound : Sound entries) (still : Still entries snapshot)
    (selectable : Selectable entries function address count)
    (took : snapshotFor entries (fun _ => some snapshot) function address count = some taken)
    (projected : Projected entries function address count taken words)
    (filled : 1 ≤ size) (within : offset + size ≤ count)
    (partTook : snapshotFor entries (fun _ => some snapshot) function (address + offset) size =
      some partTaken) :
    Projected entries function (address + offset) size partTaken
      ((words.drop offset).take size) := by
  obtain ⟨sized, word⟩ := projected
  refine ⟨by rw [List.length_take, List.length_drop]; omega, ?_⟩
  intro entry index bound owner
  have part := encode_snapshotFor sound still (selectable.part filled within) partTook bound owner
  rw [Nat.add_assoc] at owner ⊢
  have whole := encode_snapshotFor sound still selectable took (by omega) owner
  rw [List.getElem?_take_of_lt bound, List.getElem?_drop, part, ← whole]
  exact word entry (offset + index) (by omega) owner

theorem snapshotFor_constant (snapshot : Option MeterSnapshot) :
    ∃ taken, snapshotFor entries (fun _ => some snapshot) function address count =
      some taken := by
  rw [snapshotFor, takeSnapshot]
  split
  · exact ⟨none, rfl⟩
  · exact ⟨snapshot, rfl⟩

end Splitting

theorem Asks.part (sound : Sound entries) {snapshot : Option MeterSnapshot}
    (still : Still entries snapshot) {part : Request} {start size : UInt16}
    {words : List UInt16} (offset : UInt16) (asks : Asks request unitId function address count)
    (asksPart : Asks part unitId function start size)
    (starts : start.toNat = address.toNat + offset.toNat)
    (filled : 1 ≤ size.toNat) (within : offset.toNat + size.toNat ≤ count.toNat)
    (answered : handle (msap1RegisterBank entries fun _ => some snapshot) request unitId =
      .ok (respond request (dataPdu function words))) :
    handle (msap1RegisterBank entries fun _ => some snapshot) part unitId =
      .ok (respond part (dataPdu function ((words.drop offset.toNat).take size.toNat))) := by
  obtain ⟨selectable, reached, taken, took, projected⟩ := (asks.answer_iff sound words).mp answered
  obtain ⟨partTaken, partTook⟩ := @snapshotFor_constant entries function
    (address.toNat + offset.toNat) size.toNat snapshot
  rw [asksPart.answer_iff sound, starts]
  exact ⟨selectable.part filled within, reached.part within, partTaken, partTook,
    projected.part sound still selectable took filled within partTook⟩

/-- An answer is an exception, or data for a read that is spelled as one. -/
def Answer (request : Request) (unitId : UInt8) (response : Response) : Prop :=
  (∃ function code, some response = respond request (exceptionPdu function code)) ∨
    ∃ function address count words, Asks request unitId function address count ∧
      words.length ≤ 125 ∧ some response = respond request (dataPdu function words)

theorem answer_of_handleRead {registers : RegisterBank} {response : Response} {first : UInt8}
    {rest : Bytes} (spelled : request.pdu = first :: rest) (same : first = function.code)
    (table : isRegisterRead function = true) (unit : unitId ≠ 0 ∧ unitId ≤ 247)
    (addressed : broadcast request = true ∨ request.unitId = unitId)
    (answered : handleRead registers request function = some response) :
    Answer request unitId response := by
  rw [handleRead] at answered
  split at answered
  · cases answered
  · next heard =>
    have here : request.unitId = unitId := addressed.resolve_left heard
    split at answered
    · next _ addressHigh addressLow quantityHigh quantityLow pdu =>
      have asks : Asks request unitId function (readU16Be addressHigh addressLow)
          (readU16Be quantityHigh quantityLow) := by
        refine ⟨unit, here, table, addressHigh, addressLow, quantityHigh, quantityLow, ?_, rfl,
          rfl⟩
        rw [pdu] at spelled ⊢
        rw [(List.cons.inj spelled).1, same]
      simp only at answered
      split at answered
      · cases answered
        exact .inl ⟨_, _, rfl⟩
      · next legal =>
        split at answered
        · cases answered
          exact .inl ⟨_, _, rfl⟩
        · split at answered
          · cases answered
            exact .inl ⟨_, _, rfl⟩
          · next sized =>
            cases answered
            refine .inr ⟨function, _, _, _, asks, ?_, rfl⟩
            simp only [Bool.or_eq_true, decide_eq_true_eq, not_or, UInt16.not_lt,
              UInt16.le_iff_toNat_le] at legal
            rw [not_not.mp sized]
            exact legal.2
    · cases answered
      exact .inl ⟨_, _, rfl⟩

theorem exception_of_answer {pdu : Bytes} {response : Response} {function : UInt8}
    {code : ExceptionCode} (same : pdu = exceptionPdu function code)
    (answered : answer request pdu = some response) :
    ∃ function code, some response = respond request (exceptionPdu function code) := by
  rw [answer] at answered
  split at answered
  · cases answered
  · rw [← answered, same]
    exact ⟨function, code, rfl⟩

theorem write_refused : ExceptionCode.illegalDataAddress ≠ .none := by decide

theorem answer_of_handle {response : Response}
    (answered : handle (msap1RegisterBank entries latest) request unitId =
      .ok (some response)) : Answer request unitId response := by
  rw [handle] at answered
  split at answered
  · cases answered
  · next valid =>
    have unit : unitId ≠ 0 ∧ unitId ≤ 247 := by
      simpa only [Bool.or_eq_true, decide_eq_true_eq, not_or, UInt8.not_lt] using valid
    split at answered
    · cases answered
      exact .inl ⟨_, _, rfl⟩
    · next function rest spelled =>
      split at answered
      · cases answered
      · next foreign =>
        have addressed : broadcast request = true ∨ request.unitId = unitId := by
          simpa only [Bool.and_eq_true, Bool.not_eq_true', decide_eq_true_eq, not_and, ne_eq,
            not_not, Bool.not_eq_false, imp_iff_not_or, or_comm] using foreign
        split at answered
        · next same =>
          refine answer_of_handleRead spelled ?_ ?_ unit addressed (Except.ok.inj answered)
          · exact same
          · rfl
        · split at answered
          · next same =>
            refine answer_of_handleRead spelled ?_ ?_ unit addressed (Except.ok.inj answered)
            · exact same
            · rfl
          · split at answered
            · have silent := Except.ok.inj answered
              rw [handleWriteSingle] at silent
              split at silent
              · exact .inl (exception_of_answer (if_pos write_refused) silent)
              · exact .inl (exception_of_answer rfl silent)
            · split at answered
              · have silent := Except.ok.inj answered
                rw [handleWriteMultiple] at silent
                split at silent
                · simp only at silent
                  split at silent
                  · exact .inl (exception_of_answer rfl silent)
                  · exact .inl (exception_of_answer (if_pos write_refused) silent)
                · exact .inl (exception_of_answer rfl silent)
              · exact .inl (exception_of_answer rfl (Except.ok.inj answered))

theorem length_answer {response : Response} (answered : Answer request unitId response) :
    response.pdu.length ≤ 253 := by
  rcases answered with ⟨function, code, same⟩ | ⟨function, address, count, words, -, sized, same⟩
  · cases same
    exact Nat.le_of_lt_succ (by decide : 2 < 254)
  · cases same
    rw [length_dataPdu]
    omega

end Answers

/-- The source needs a snapshot, or its words are fixed. -/
def snapshotOrFixed : RegisterSource → Bool
  | .measurement _ => true
  | .special source => source.period.isSome || source.field = .mapVersion ||
      source.field = .wordOrderMarker || source.field = .attributeCount

theorem registerMap_accepted : validateRegisterMap registerBlocks registerMap = true := by
  decide +kernel

theorem registerMap_encodedWords :
    ∀ entry ∈ registerMap, encodedWords entry = entry.words.toNat := by
  decide +kernel

theorem registerMap_snapshotOrFixed :
    ∀ entry ∈ registerMap, snapshotOrFixed entry.source = true := by
  decide +kernel

theorem registerMap_reached {function : FunctionCode} {address count : Nat} :
    Reached registerMap function address count := by
  intro entry index bound owner
  have inside := owner.2.2
  rw [registerMap_encodedWords entry owner.1]
  omega

theorem encode_fixed {entry : RegisterDefinition} (fixed : snapshotOrFixed entry.source = true)
    (untimed : sourcePeriod entry.source = none) (snapshot : Option MeterSnapshot) :
    encode entry snapshot = encode entry none := by
  rw [encode, encode]
  cases origin : entry.source with
  | measurement source =>
      rw [origin] at untimed
      cases untimed
  | special source =>
      obtain ⟨field, period⟩ := source
      rw [origin] at fixed untimed
      simp only [sourcePeriod] at untimed
      simp only [snapshotOrFixed, untimed, Option.isSome_none, Bool.false_or, Bool.or_eq_true,
        decide_eq_true_eq] at fixed
      rcases fixed with (rfl | rfl) | rfl <;> rfl

theorem registerMap_still (snapshot : Option MeterSnapshot) : Still registerMap snapshot := by
  intro entry member untimed
  exact encode_fixed (registerMap_snapshotOrFixed entry member) untimed snapshot

theorem reads_project_one_snapshot :
    (∀ blocks entries, validateRegisterMap blocks entries = true →
      (∀ function address,
        (findDefinition entries function address).map (fun position => entries.get position) =
          entries.find? (owns function address)) ∧
      (∀ latest request unitId function address count,
        Asks request unitId function address count →
        ((∃ words, handle (msap1RegisterBank entries latest) request unitId =
            .ok (respond request (dataPdu function words))) ↔
          Selectable entries function address.toNat count.toNat ∧
            Reached entries function address.toNat count.toNat ∧
            (snapshotFor entries latest function address.toNat count.toNat).isSome = true) ∧
        ∀ words, handle (msap1RegisterBank entries latest) request unitId =
            .ok (respond request (dataPdu function words)) →
          ∃ snapshot, snapshotFor entries latest function address.toNat count.toNat =
              some snapshot ∧
            Projected entries function address.toNat count.toNat snapshot words) ∧
      (∀ latest request unitId response,
        handle (msap1RegisterBank entries latest) request unitId = .ok (some response) →
        response.pdu.length ≤ 253 ∧ Answer request unitId response) ∧
      (∀ snapshot, Still entries snapshot →
        ∀ whole left right unitId function address middle count leftCount rightCount words,
        Asks whole unitId function address count →
        Asks left unitId function address leftCount →
        Asks right unitId function middle rightCount →
        middle.toNat = address.toNat + leftCount.toNat →
        count.toNat = leftCount.toNat + rightCount.toNat →
        1 ≤ leftCount.toNat → 1 ≤ rightCount.toNat →
        handle (msap1RegisterBank entries fun _ => some snapshot) whole unitId =
          .ok (respond whole (dataPdu function words)) →
        ∃ leftWords rightWords, words = leftWords ++ rightWords ∧
          handle (msap1RegisterBank entries fun _ => some snapshot) left unitId =
            .ok (respond left (dataPdu function leftWords)) ∧
          handle (msap1RegisterBank entries fun _ => some snapshot) right unitId =
            .ok (respond right (dataPdu function rightWords)))) ∧
    validateRegisterMap registerBlocks registerMap = true ∧
    (∀ function address count, Reached registerMap function address count) ∧
    ∀ snapshot, Still registerMap snapshot := by
  refine ⟨?_, registerMap_accepted, fun _ _ _ => registerMap_reached, registerMap_still⟩
  intro blocks entries accepted
  have sound := sound_of_validateRegisterMap accepted
  refine ⟨findDefinition_linear sound, ?_, ?_, ?_⟩
  · intro latest request unitId function address count asks
    constructor
    · constructor
      · rintro ⟨words, answered⟩
        obtain ⟨selectable, reached, snapshot, took, -⟩ := (asks.answer_iff sound words).mp answered
        exact ⟨selectable, reached, by rw [took]; rfl⟩
      · rintro ⟨selectable, reached, took⟩
        obtain ⟨snapshot, took⟩ := Option.isSome_iff_exists.mp took
        obtain ⟨words, projected⟩ := exists_projected sound selectable reached snapshot
        exact ⟨words, (asks.answer_iff sound words).mpr
          ⟨selectable, reached, snapshot, took, projected⟩⟩
    · intro words answered
      exact ((asks.answer_iff sound words).mp answered).2.2
  · intro latest request unitId response answered
    have answer := answer_of_handle answered
    exact ⟨length_answer answer, answer⟩
  · intro snapshot still whole left right unitId function address middle count leftCount
      rightCount words asks asksLeft asksRight starts total leftFilled rightFilled answered
    have zero : (0 : UInt16).toNat = 0 := rfl
    have first := asks.part sound still 0 asksLeft (by omega) leftFilled (by omega)
      answered
    have second := asks.part sound still leftCount asksRight starts rightFilled
      (by omega) answered
    have sized : words.length = count.toNat := ((asks.data_iff words).mp answered).2.2
    refine ⟨_, _, ?_, first, second⟩
    rw [zero, List.drop_zero, List.take_of_length_le (l := words.drop leftCount.toNat)
      (by rw [List.length_drop]; omega), List.take_append_drop]

def inputRequest (address quantity : UInt8) : Request where
  pdu := [0x04, 0x00, address, 0x00, quantity]

theorem inputRequest_asks (address quantity : UInt8) :
    Asks (inputRequest address quantity) 1 .readInputRegisters (readU16Be 0x00 address)
      (readU16Be 0x00 quantity) :=
  ⟨by decide, rfl, rfl, 0x00, address, 0x00, quantity, rfl, rfl, rfl⟩

def statusProvider : Provider := fun _ => some (some {
  sequence := 0x10007
  configurationGeneration := 9
  values := [{ key := ⟨.frequency, none⟩, quality := .valid }] })

/-- The mask, the period, the sequence and the generation, read at once and in two parts. -/
theorem status_projected :
    (∃ snapshot, snapshotFor registerMap statusProvider .readInputRegisters 0x10 6 =
        some snapshot ∧
      Projected registerMap .readInputRegisters 0x10 6 snapshot [1, 0, 1, 7, 0, 9]) ∧
    ∃ leftWords rightWords, [1, 0, 1, 7, 0, 9] = leftWords ++ rightWords ∧
      handle (msap1RegisterBank registerMap statusProvider) (inputRequest 0x10 2) 1 =
        .ok (respond (inputRequest 0x10 2) (dataPdu .readInputRegisters leftWords)) ∧
      handle (msap1RegisterBank registerMap statusProvider) (inputRequest 0x12 4) 1 =
        .ok (respond (inputRequest 0x12 4) (dataPdu .readInputRegisters rightWords)) := by
  have answered : handle (msap1RegisterBank registerMap statusProvider) (inputRequest 0x10 6) 1 =
      .ok (respond (inputRequest 0x10 6) (dataPdu .readInputRegisters [1, 0, 1, 7, 0, 9])) := by
    decide +kernel
  obtain ⟨general, accepted, -, still⟩ := reads_project_one_snapshot
  obtain ⟨-, reads, -, parts⟩ := general registerBlocks registerMap accepted
  exact ⟨(reads _ (inputRequest 0x10 6) 1 _ 0x10 6 (inputRequest_asks 0x10 6)).2 _ answered,
    parts _ (still _) (inputRequest 0x10 6) (inputRequest 0x10 2) (inputRequest 0x12 4) 1
      .readInputRegisters 0x10 0x12 6 2 4 _ (inputRequest_asks 0x10 6) (inputRequest_asks 0x10 2)
      (inputRequest_asks 0x12 4) rfl rfl (by decide) (by decide) answered⟩

def widePeriod : List RegisterDefinition :=
  [{ words := 2, type := .uint32, source := .special ⟨.period, some .basic⟩ }]

/-- A map that shows the sequence without asking for a snapshot. -/
def untimedSequence : List RegisterDefinition :=
  [{ words := 2, type := .uint32, source := .special ⟨.sourceSequence, none⟩ },
    { address := 2, words := 1, type := .uint16, source := .special ⟨.period, some .basic⟩ }]

/-- Validation accepts both maps. The first one fails a read whose conditions all hold, and a
read of the second one shows the sequence or zero with the range that it is part of. -/
theorem accepted_maps_misread :
    (validateRegisterMap [⟨.readInputRegisters, 0, 2⟩] widePeriod = true ∧
      Asks (inputRequest 0 2) 1 .readInputRegisters 0 2 ∧
      Selectable widePeriod .readInputRegisters 0 2 ∧
      snapshotFor widePeriod (fun _ => some (some {})) .readInputRegisters 0 2 =
        some (some {}) ∧
      handle (msap1RegisterBank widePeriod fun _ => some (some {})) (inputRequest 0 2) 1 =
        .ok (respond (inputRequest 0 2) (exceptionPdu 0x04 .serverDeviceFailure))) ∧
    validateRegisterMap [⟨.readInputRegisters, 0, 3⟩] untimedSequence = true ∧
      handle (msap1RegisterBank untimedSequence fun _ => some (some { sequence := 7 }))
          (inputRequest 0 3) 1 =
        .ok (respond (inputRequest 0 3) (dataPdu .readInputRegisters [0, 7, 0])) ∧
      handle (msap1RegisterBank untimedSequence fun _ => some (some { sequence := 7 }))
          (inputRequest 0 2) 1 =
        .ok (respond (inputRequest 0 2) (dataPdu .readInputRegisters [0, 0])) := by
  have selectable : Selectable widePeriod .readInputRegisters 0 2 := by
    refine ⟨by decide, ?_, ?_⟩
    · intro index bound
      refine ⟨_, List.mem_cons_self, rfl, Nat.zero_le _, ?_⟩
      rw [Nat.zero_add]
      exact bound
    · rintro first second one two - - ⟨firstMember, -⟩ ⟨secondMember, -⟩ firstPeriod secondPeriod
        firstHas secondHas
      rw [List.mem_singleton.mp firstMember] at firstHas
      rw [List.mem_singleton.mp secondMember] at secondHas
      exact Option.some.inj (firstHas.symm.trans secondHas)
  refine ⟨⟨by decide +kernel, inputRequest_asks 0 2, selectable, by decide +kernel,
    by decide +kernel⟩, by decide +kernel, by decide +kernel, by decide +kernel⟩

end Msap1.Modbus
