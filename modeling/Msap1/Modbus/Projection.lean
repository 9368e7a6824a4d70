import Msap1.Modbus.Lookup
import Msap1.Modbus.RequestHandler

/-! A register read is the projection of one snapshot: every word of an answer is the word of
the definition that owns its address. -/

namespace Msap1.Modbus

open Meter

def specialWords : SpecialRegister → Nat
  | .mapVersion | .wordOrderMarker | .attributeCount | .qualityMask | .period | .demandMethod
  | .demandQualityMask => 1
  | .sourceSequence | .configurationGeneration | .energyAcceptedBlocks | .energySkippedBlocks
  | .energyFlags | .demandSourceIntervalCount | .demandSourceStatus | .demandWindowSeconds
  | .demandUpdateSeconds | .demandProfileGeneration | .demandFlags => 2
  | _ => 4

/-- The words that a definition's source encodes to, whatever its declared width. -/
def encodedWords (entry : RegisterDefinition) : Nat :=
  match entry.source with
  | .measurement _ => (registerWidth entry.type).toNat
  | .special source => specialWords source.field

theorem length_encodeMeasurement (type : DataType) (source : MeasurementSource)
    (snapshot : Option MeterSnapshot) :
    (encodeMeasurement type source snapshot).length = (registerWidth type).toNat := by
  cases type <;> rfl

theorem length_encodeSpecial (source : SpecialSource) (snapshot : Option MeterSnapshot) :
    (encodeSpecial source snapshot).length = specialWords source.field := by
  obtain ⟨field, period⟩ := source
  cases field <;> rfl

theorem length_encode (entry : RegisterDefinition) (snapshot : Option MeterSnapshot) :
    (encode entry snapshot).length = encodedWords entry := by
  rw [encode, encodedWords]
  cases entry.source with
  | measurement source => exact length_encodeMeasurement entry.type source snapshot
  | special source => exact length_encodeSpecial source snapshot

def sourcePeriod : RegisterSource → Option MeasurementPeriod
  | .measurement source => some source.period
  | .special source => source.period

section Selection

variable {selection : SnapshotSelection} {source : RegisterSource}

@[simp] theorem addAttribute_period (key : MeterAttributeKey) :
    (addAttribute selection key).period = selection.period := by
  rw [addAttribute]
  split <;> rfl

@[simp] theorem addAttribute_incompatible (key : MeterAttributeKey) :
    (addAttribute selection key).incompatiblePeriods = selection.incompatiblePeriods := by
  rw [addAttribute]
  split <;> rfl

theorem addAttributes_frame (keys : List MeterAttributeKey) :
    (keys.foldl addAttribute selection).period = selection.period ∧
      (keys.foldl addAttribute selection).incompatiblePeriods =
        selection.incompatiblePeriods := by
  induction keys generalizing selection with
  | nil => exact ⟨rfl, rfl⟩
  | cons key keys ih =>
      rw [List.foldl_cons, ih.1, ih.2]
      exact ⟨addAttribute_period key, addAttribute_incompatible key⟩

theorem includeSource_frame :
    (includeSource selection source).period =
        ((sourcePeriod source).elim selection fun period =>
          includePeriod selection period).period ∧
      (includeSource selection source).incompatiblePeriods =
        ((sourcePeriod source).elim selection fun period =>
          includePeriod selection period).incompatiblePeriods := by
  cases source with
  | measurement source => exact ⟨addAttribute_period _, addAttribute_incompatible _⟩
  | special source =>
      simp only [includeSource, sourcePeriod]
      cases source.period with
      | none => exact ⟨rfl, rfl⟩
      | some period =>
          simp only
          split
          · exact addAttributes_frame basicPublishedAttributes
          · exact addAttributes_frame (energyPublishedAttributes.filterMap publishedKey)
          · exact addAttributes_frame (demandPublishedAttributes.filterMap publishedKey)
          · exact ⟨rfl, rfl⟩

/-- What a selection says about the sources that it has seen. -/
structure Chosen (selection : SnapshotSelection) (seen : RegisterSource → Prop) : Prop where
  empty : selection.period = none → ∀ source, seen source → sourcePeriod source = none
  chosen : ∀ period, selection.period = some period →
    ∃ source, seen source ∧ sourcePeriod source = some period
  agreed : selection.incompatiblePeriods = false ↔ ∀ source period, seen source →
    sourcePeriod source = some period → selection.period = some period

theorem chosen_none : Chosen {} fun _ => False where
  empty := fun _ _ none => none.elim
  chosen := fun _ same => by cases same
  agreed := ⟨fun _ _ _ none => none.elim, fun _ => rfl⟩

theorem Chosen.congr {seen other : RegisterSource → Prop} (held : Chosen selection seen)
    (same : ∀ source, seen source ↔ other source) : Chosen selection other := by
  rwa [← funext fun source => propext (same source)]

theorem Chosen.include {seen : RegisterSource → Prop} (before : Chosen selection seen)
    (source : RegisterSource) :
    Chosen (includeSource selection source) fun other => seen other ∨ other = source := by
  obtain ⟨period, incompatible⟩ : _ ∧ _ := @includeSource_frame selection source
  cases wanted : sourcePeriod source with
  | none =>
      rw [wanted] at period incompatible
      constructor
      · intro none other known
        rcases known with known | rfl
        · exact before.empty (period ▸ none) other known
        · exact wanted
      · intro chosen same
        obtain ⟨other, known, its⟩ := before.chosen chosen (period ▸ same)
        exact ⟨other, .inl known, its⟩
      · rw [incompatible, period]
        refine before.agreed.trans (forall₂_congr fun other chosen => ?_)
        constructor
        · rintro agrees (known | rfl) its
          · exact agrees known its
          · rw [wanted] at its
            cases its
        · exact fun agrees known => agrees (.inl known)
  | some asked =>
      rw [wanted, Option.elim_some, includePeriod] at period incompatible
      cases current : selection.period with
      | none =>
          rw [current, Option.any_none, if_neg Bool.false_ne_true] at period incompatible
          have silent := before.empty current
          refine ⟨fun none => ?_, fun chosen same => ?_, ?_⟩
          · rw [period] at none
            cases none
          · rw [period] at same
            exact ⟨source, .inr rfl, wanted.trans same⟩
          · rw [incompatible, period, before.agreed, current]
            constructor
            · rintro - other chosen (known | rfl) its
              · rw [silent other known] at its
                cases its
              · rw [← wanted, its]
            · rintro - other chosen known its
              rw [silent other known] at its
              cases its
      | some chosen =>
          rw [current, Option.any_some] at period incompatible
          by_cases same : chosen = asked
          · have plain : ¬ decide (chosen ≠ asked) = true := by simp [same]
            rw [if_neg plain] at period incompatible
            refine ⟨fun none => ?_, fun other its => ?_, ?_⟩
            · rw [period] at none
              cases none
            · rw [period] at its
              exact ⟨source, .inr rfl, wanted.trans its⟩
            · rw [incompatible, period, before.agreed, current, same]
              constructor
              · rintro agrees other found (known | rfl) its
                · exact agrees other found known its
                · rw [← wanted, its]
              · exact fun agrees other found known => agrees other found (.inl known)
          · rw [if_pos (by simp [same])] at period incompatible
            refine ⟨fun none => ?_, fun other its => ?_, ?_⟩
            · rw [period] at none
              cases none
            · rw [period] at its
              obtain ⟨first, known, held⟩ := before.chosen other (current.trans its)
              exact ⟨first, .inl known, held⟩
            · rw [incompatible, period]
              constructor
              · intro impossible
                cases impossible
              · intro agrees
                exact absurd (Option.some.inj (agrees source asked (.inr rfl) wanted)) same

end Selection

section Read

variable {entries : List RegisterDefinition} {function : FunctionCode}

/-- A definition of one of the addresses. -/
def Covers (entries : List RegisterDefinition) (function : FunctionCode) (addresses : List Nat)
    (entry : RegisterDefinition) : Prop :=
  ∃ current ∈ addresses, ∃ position,
    findDefinition entries function (UInt16.ofNat current) = some position ∧
      entries.get position = entry

theorem chosen_selectFrom {seen : RegisterSource → Prop} {selection : SnapshotSelection}
    {addresses : List Nat} {previous : Option (Fin entries.length)}
    (found : ∀ current ∈ addresses,
      (findDefinition entries function (UInt16.ofNat current)).isSome = true)
    (before : Chosen selection seen)
    (known : ∀ position ∈ previous, seen (entries.get position).source) :
    Chosen (selectFrom entries function addresses previous selection) fun source =>
      seen source ∨ ∃ entry, Covers entries function addresses entry ∧ entry.source = source := by
  induction addresses generalizing seen selection previous with
  | nil => exact before.congr fun source => by simp [Covers]
  | cons current rest ih =>
      obtain ⟨position, owner⟩ := Option.isSome_iff_exists.mp (found current List.mem_cons_self)
      have later : ∀ other ∈ rest,
          (findDefinition entries function (UInt16.ofNat other)).isSome = true :=
        fun other member => found other (List.mem_cons_of_mem current member)
      have cover : ∀ source,
          (∃ entry, Covers entries function (current :: rest) entry ∧ entry.source = source) ↔
            source = (entries.get position).source ∨
              ∃ entry, Covers entries function rest entry ∧ entry.source = source := by
        intro source
        constructor
        · rintro ⟨entry, ⟨other, member, place, its, rfl⟩, rfl⟩
          rcases List.mem_cons.mp member with rfl | member
          · rw [owner] at its
            cases its
            exact .inl rfl
          · exact .inr ⟨_, ⟨other, member, place, its, rfl⟩, rfl⟩
        · rintro (rfl | ⟨entry, ⟨other, member, rest⟩, same⟩)
          · exact ⟨_, ⟨current, List.mem_cons_self, position, owner, rfl⟩, rfl⟩
          · exact ⟨entry, ⟨other, List.mem_cons_of_mem current member, rest⟩, same⟩
      simp only [selectFrom, owner]
      split
      · next repeated =>
        refine (ih later before known).congr fun source => ?_
        rw [cover]
        constructor
        · exact Or.imp_right .inr
        · rintro (held | rfl | held)
          · exact .inl held
          · exact .inl (known position repeated.symm)
          · exact .inr held
      · refine (ih later (before.include (entries.get position).source) ?_).congr fun source => ?_
        · rintro other ⟨⟩
          exact .inr rfl
        · rw [cover, or_assoc]

theorem chosen_snapshotSelection {addresses : List Nat}
    (found : ∀ current ∈ addresses,
      (findDefinition entries function (UInt16.ofNat current)).isSome = true) :
    Chosen (snapshotSelection entries function addresses) fun source =>
      ∃ entry, Covers entries function addresses entry ∧ entry.source = source := by
  have whole := @chosen_selectFrom entries function _ _ addresses none found chosen_none (by simp)
  exact whole.congr fun source => iff_of_eq (false_or _)

/-- The word at an address in the encoding of its definition. -/
def wordAt (entries : List RegisterDefinition) (function : FunctionCode)
    (snapshot : Option MeterSnapshot) (current : Nat) : Option UInt16 :=
  (findDefinition entries function (UInt16.ofNat current)).bind fun position =>
    (encode (entries.get position) snapshot)[current - (entries.get position).address.toNat]?

theorem projectFrom_eq (snapshot : Option MeterSnapshot) (addresses : List Nat)
    {cached : Option (Fin entries.length)} {encoded : List UInt16}
    (fresh : ∀ position ∈ cached, encoded = encode (entries.get position) snapshot) :
    projectFrom entries function snapshot addresses cached encoded =
      addresses.mapM (wordAt entries function snapshot) := by
  induction addresses generalizing cached encoded with
  | nil => rfl
  | cons current rest ih =>
      rw [List.mapM_cons, projectFrom, wordAt]
      cases owner : findDefinition entries function (UInt16.ofNat current) with
      | none => rfl
      | some position =>
          have kept : (if some position = cached then encoded
              else encode (entries.get position) snapshot) =
              encode (entries.get position) snapshot := by
            split
            · next same => exact fresh position same.symm
            · rfl
          simp only [kept, Option.bind_some]
          cases (encode (entries.get position) snapshot)[current -
            (entries.get position).address.toNat]? with
          | none => rfl
          | some word =>
              simp only
              have sound : ∀ other ∈ some position, encode (entries.get position) snapshot =
                  encode (entries.get other) snapshot := by
                rintro other ⟨⟩
                rfl
              rw [ih sound]
              cases rest.mapM (wordAt entries function snapshot) <;> rfl

theorem mapM_some_iff {α β : Type} {f : α → Option β} {inputs : List α} {outputs : List β} :
    inputs.mapM f = some outputs ↔ inputs.map f = outputs.map some := by
  induction inputs generalizing outputs with
  | nil => cases outputs <;> simp
  | cons input inputs ih =>
      rw [List.mapM_cons]
      cases first : f input with
      | none =>
          cases outputs <;> simp [first]
      | some output =>
          cases rest : inputs.mapM f with
          | none =>
              have never : ∀ tail : List β, ¬ inputs.map f = tail.map some := by
                intro tail same
                rw [ih.mpr same] at rest
                cases rest
              cases outputs with
              | nil => simp
              | cons head tail => simp [never tail]
          | some tail =>
              have same := ih.mp rest
              cases outputs with
              | nil => simp
              | cons head others =>
                  simp only [Option.bind_eq_bind, Option.bind_some, Option.pure_def,
                    List.map_cons, first, same, List.cons.injEq, Option.some.injEq,
                    (List.map_injective_iff.mpr (Option.some_injective β)).eq_iff]

/-- The definition that owns an address of a table. -/
def Owner (entries : List RegisterDefinition) (function : FunctionCode) (current : Nat)
    (entry : RegisterDefinition) : Prop :=
  entry ∈ entries ∧ entry.function = function ∧ entry.address.toNat ≤ current ∧
    current < entry.address.toNat + entry.words.toNat

theorem owner_iff (sound : Sound entries) {current : Nat} (bound : current < 0x10000)
    (entry : RegisterDefinition) :
    Owner entries function current entry ↔ ∃ position,
      findDefinition entries function (UInt16.ofNat current) = some position ∧
        entries.get position = entry := by
  have same : (UInt16.ofNat current).toNat = current := UInt16.toNat_ofNat_of_lt bound
  constructor
  · rintro ⟨member, holds⟩
    obtain ⟨position, rfl⟩ := List.get_of_mem member
    refine ⟨position, (findDefinition_iff sound position).mpr ?_, rfl⟩
    rw [owns_iff, same]
    exact holds
  · rintro ⟨position, found, rfl⟩
    have owned := (findDefinition_iff sound position).mp found
    rw [owns_iff, same] at owned
    exact ⟨List.get_mem entries position, owned⟩

theorem Sound.owner_bound (sound : Sound entries) {current : Nat} {entry : RegisterDefinition}
    (owner : Owner entries function current entry) : current < 0x10000 := by
  have := (sound.sized entry owner.1).2.2
  have := owner.2.2.2
  omega

/-- The range is a legal quantity of owned registers that select one snapshot. -/
structure Selectable (entries : List RegisterDefinition) (function : FunctionCode)
    (address count : Nat) : Prop where
  quantity : 1 ≤ count ∧ count ≤ 125
  owned : ∀ index < count, ∃ entry, Owner entries function (address + index) entry
  single : ∀ first second, ∀ one two, one < count → two < count →
    Owner entries function (address + one) first →
    Owner entries function (address + two) second → ∀ firstPeriod secondPeriod,
    sourcePeriod first.source = some firstPeriod →
    sourcePeriod second.source = some secondPeriod → firstPeriod = secondPeriod

/-- Every address lies within the words that its definition encodes to. -/
def Reached (entries : List RegisterDefinition) (function : FunctionCode)
    (address count : Nat) : Prop :=
  ∀ entry, ∀ index < count, Owner entries function (address + index) entry →
    address + index - entry.address.toNat < encodedWords entry

/-- The words are those of the owning definitions in their encodings of the snapshot. -/
def Projected (entries : List RegisterDefinition) (function : FunctionCode)
    (address count : Nat) (snapshot : Option MeterSnapshot) (words : List UInt16) : Prop :=
  words.length = count ∧ ∀ entry, ∀ index < count,
    Owner entries function (address + index) entry →
    words[index]? = (encode entry snapshot)[address + index - entry.address.toNat]?

/-- The snapshot that the bank takes for a range, if the provider answers. -/
def snapshotFor (entries : List RegisterDefinition) (latest : Provider)
    (function : FunctionCode) (address count : Nat) : Option (Option MeterSnapshot) :=
  takeSnapshot latest (snapshotSelection entries function (List.range' address count))

theorem wordAt_of_owner (sound : Sound entries) {current : Nat} {entry : RegisterDefinition}
    (owner : Owner entries function current entry) (snapshot : Option MeterSnapshot) :
    wordAt entries function snapshot current =
      (encode entry snapshot)[current - entry.address.toNat]? := by
  obtain ⟨position, found, rfl⟩ := (owner_iff sound (sound.owner_bound owner) entry).mp owner
  rw [wordAt, found, Option.bind_some]

theorem mapM_wordAt_iff (sound : Sound entries) {address count : Nat}
    (owned : ∀ index < count, ∃ entry, Owner entries function (address + index) entry)
    (snapshot : Option MeterSnapshot) (words : List UInt16) :
    (List.range' address count).mapM (wordAt entries function snapshot) = some words ↔
      Reached entries function address count ∧
        Projected entries function address count snapshot words := by
  rw [mapM_some_iff]
  constructor
  · intro same
    have sized : words.length = count := by
      have := congrArg List.length same
      simpa using this.symm
    have word : ∀ index < count,
        wordAt entries function snapshot (address + index) = words[index]? := by
      intro index bound
      have here : index < words.length := by omega
      have these := congrArg (fun list => list[index]?) same
      simp only [List.getElem?_map, List.getElem?_range' bound, Option.map_some, Nat.one_mul,
        List.getElem?_eq_getElem here, Option.some.injEq] at these
      rw [these, List.getElem?_eq_getElem here]
    refine ⟨?_, sized, ?_⟩
    · intro entry index bound owner
      have these := word index bound
      rw [wordAt_of_owner sound owner, List.getElem?_eq_getElem (show index < words.length by
        omega)] at these
      obtain ⟨inside, -⟩ := List.getElem?_eq_some_iff.mp these
      rwa [length_encode] at inside
    · intro entry index bound owner
      rw [← word index bound, wordAt_of_owner sound owner]
  · rintro ⟨-, sized, word⟩
    apply List.ext_getElem?
    intro index
    by_cases bound : index < count
    · obtain ⟨entry, owner⟩ := owned index bound
      have here : index < words.length := by omega
      have these := word entry index bound owner
      rw [List.getElem?_eq_getElem here] at these
      simp only [List.getElem?_map, List.getElem?_range' bound, Option.map_some, Nat.one_mul,
        wordAt_of_owner sound owner, List.getElem?_eq_getElem here, ← these]
    · rw [List.getElem?_eq_none (by simp; omega), List.getElem?_eq_none (by simp; omega)]

theorem found_iff (sound : Sound entries) {address count : Nat}
    (bounded : address + count ≤ 0x10000) :
    (∀ current ∈ List.range' address count,
      (findDefinition entries function (UInt16.ofNat current)).isSome = true) ↔
    ∀ index < count, ∃ entry, Owner entries function (address + index) entry := by
  constructor
  · intro found index bound
    have member : address + index ∈ List.range' address count := by
      rw [List.mem_range'_1]
      omega
    obtain ⟨position, its⟩ := Option.isSome_iff_exists.mp (found _ member)
    exact ⟨_, (owner_iff sound (by omega) _).mpr ⟨position, its, rfl⟩⟩
  · intro owned current member
    rw [List.mem_range'_1] at member
    obtain ⟨entry, owner⟩ := owned (current - address) (by omega)
    rw [Nat.add_sub_cancel' member.1] at owner
    obtain ⟨position, its, -⟩ := (owner_iff sound (by omega) entry).mp owner
    rw [its]
    rfl

theorem covers_iff (sound : Sound entries) {address count : Nat}
    (bounded : address + count ≤ 0x10000) (entry : RegisterDefinition) :
    Covers entries function (List.range' address count) entry ↔
      ∃ index < count, Owner entries function (address + index) entry := by
  constructor
  · rintro ⟨current, member, its⟩
    rw [List.mem_range'_1] at member
    refine ⟨current - address, by omega, ?_⟩
    rw [Nat.add_sub_cancel' member.1, owner_iff sound (by omega)]
    exact its
  · rintro ⟨index, bound, owner⟩
    refine ⟨address + index, ?_, (owner_iff sound (by omega) entry).mp owner⟩
    rw [List.mem_range'_1]
    omega

/-- The selection is compatible exactly when the owned definitions agree on their period. -/
theorem compatible_iff (sound : Sound entries) {address count : Nat}
    (bounded : address + count ≤ 0x10000)
    (owned : ∀ index < count, ∃ entry, Owner entries function (address + index) entry) :
    (snapshotSelection entries function (List.range' address count)).incompatiblePeriods =
        false ↔
      ∀ first second, ∀ one two, one < count → two < count →
        Owner entries function (address + one) first →
        Owner entries function (address + two) second → ∀ firstPeriod secondPeriod,
        sourcePeriod first.source = some firstPeriod →
        sourcePeriod second.source = some secondPeriod → firstPeriod = secondPeriod := by
  have chosen := chosen_snapshotSelection ((found_iff sound bounded).mpr owned)
  have covered : ∀ entry index, index < count →
      Owner entries function (address + index) entry →
      ∃ other, Covers entries function (List.range' address count) other ∧
        other.source = entry.source :=
    fun entry index bound owner =>
      ⟨entry, (covers_iff sound bounded entry).mpr ⟨index, bound, owner⟩, rfl⟩
  rw [chosen.agreed]
  constructor
  · intro agrees first second one two oneBound twoBound firstOwner secondOwner firstPeriod
      secondPeriod firstHas secondHas
    have left := agrees _ _ (covered first one oneBound firstOwner) firstHas
    have right := agrees _ _ (covered second two twoBound secondOwner) secondHas
    exact Option.some.inj (left.symm.trans right)
  · rintro single source period ⟨entry, covers, rfl⟩ has
    obtain ⟨index, bound, owner⟩ := (covers_iff sound bounded entry).mp covers
    cases picked : (snapshotSelection entries function (List.range' address count)).period with
    | none =>
        have none := chosen.empty picked _ (covered entry index bound owner)
        rw [none] at has
        cases has
    | some other =>
        obtain ⟨source, ⟨first, firstCovers, rfl⟩, firstHas⟩ := chosen.chosen other picked
        obtain ⟨place, placeBound, firstOwner⟩ := (covers_iff sound bounded first).mp firstCovers
        rw [single first entry place index placeBound bound firstOwner owner other period firstHas
          has]

theorem bankRead_iff (sound : Sound entries) (latest : Provider)
    (table : isRegisterRead function = true) (address count : UInt16)
    (legal : 1 ≤ count.toNat ∧ count.toNat ≤ 125) (words : List UInt16) :
    bankRead entries latest function address count = { values := words } ↔
      Selectable entries function address.toNat count.toNat ∧
        Reached entries function address.toNat count.toNat ∧
        ∃ snapshot, snapshotFor entries latest function address.toNat count.toNat =
            some snapshot ∧
          Projected entries function address.toNat count.toNat snapshot words := by
  have filled : count ≠ 0 := by
    rintro rfl
    exact absurd legal.1 (by decide)
  have refused : ∀ code : ExceptionCode, code ≠ .none →
      ¬ ({ exception := code } : RegisterReadResult) = { values := words } := by
    intro code other same
    exact other (congrArg RegisterReadResult.exception same)
  rw [bankRead, table, Bool.not_true, if_neg Bool.false_ne_true, if_neg filled]
  by_cases bounded : address.toNat + count.toNat ≤ 0x10000
  case neg =>
    simp only [if_pos (Nat.lt_of_not_le bounded)]
    constructor
    · exact fun same => absurd same (refused _ (by decide))
    · rintro ⟨selectable, -⟩
      obtain ⟨entry, owner⟩ := selectable.owned (count.toNat - 1) (by omega)
      have := sound.owner_bound owner
      omega
  simp only [if_neg (Nat.not_lt.mpr bounded)]
  by_cases owned : ∀ index < count.toNat,
      ∃ entry, Owner entries function (address.toNat + index) entry
  case neg =>
    have gap : (!(List.range' address.toNat count.toNat).all fun current =>
        (findDefinition entries function (UInt16.ofNat current)).isSome) = true := by
      rw [Bool.not_eq_true', ← Bool.not_eq_true, List.all_eq_true, found_iff sound bounded]
      exact owned
    rw [if_pos gap]
    constructor
    · exact fun same => absurd same (refused _ (by decide))
    · exact fun both => absurd both.1.owned owned
  have full : ¬ (!(List.range' address.toNat count.toNat).all fun current =>
      (findDefinition entries function (UInt16.ofNat current)).isSome) = true := by
    rw [Bool.not_eq_true, Bool.not_eq_false', List.all_eq_true, found_iff sound bounded]
    exact owned
  rw [if_neg full]
  have agreement := compatible_iff sound bounded owned
  cases clash : (snapshotSelection entries function
      (List.range' address.toNat count.toNat)).incompatiblePeriods with
  | true =>
      rw [if_pos rfl]
      constructor
      · exact fun same => absurd same (refused _ (by decide))
      · intro both
        rw [agreement.mpr both.1.single] at clash
        cases clash
  | false =>
      rw [if_neg Bool.false_ne_true]
      have selectable : Selectable entries function address.toNat count.toNat :=
        ⟨legal, owned, agreement.mp clash⟩
      rw [snapshotFor]
      cases takeSnapshot latest (snapshotSelection entries function
          (List.range' address.toNat count.toNat)) with
      | none =>
          constructor
          · exact fun same => absurd same (refused _ (by decide))
          · rintro ⟨-, -, snapshot, none, -⟩
            cases none
      | some snapshot =>
          have projection := mapM_wordAt_iff sound owned snapshot words
          simp only
          rw [projectFrom_eq snapshot _ (by simp)]
          cases outcome : (List.range' address.toNat count.toNat).mapM
              (wordAt entries function snapshot) with
          | none =>
              rw [outcome] at projection
              constructor
              · exact fun same => absurd same (refused _ (by decide))
              · rintro ⟨-, reached, other, same, projected⟩
                cases same
                exact absurd (projection.mpr ⟨reached, projected⟩) (by simp)
          | some values =>
              rw [outcome, Option.some.injEq] at projection
              simp only [RegisterReadResult.mk.injEq, true_and, projection, Option.some.injEq,
                exists_eq_left', and_iff_right selectable]

end Read

end Msap1.Modbus
