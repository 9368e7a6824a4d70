import Msap1.Mncwf.Reader
import Msap1.ShortestPrefix

/-! `AsyncWriter::enforce_retention`: the archive directory is measured, the candidates are
ordered by age, and the oldest captures go once enough of them are proved valid. -/

namespace Msap1.Waveform

open ByteCodec (Bytes)
open Mncwf (Zstd readFile)
open ShortestPrefix

/-- An entry of the output directory, with what a size query and a mapping of it return. -/
structure DirectoryEntry where
  filename : String
  regular : Bool := true
  fileSize : Option Nat
  mapped : Option Bytes
  deriving DecidableEq, Repr

/-- `from_chars` on an unsigned number that must take every character. -/
def fromDigits (digits : List Char) : Option Nat :=
  digits.foldlM (fun value digit =>
    if '0' ≤ digit ∧ digit ≤ '9' then some (value * 10 + (digit.toNat - '0'.toNat)) else none) 0

def sessionIdFromFilename (filename : String) : Option Nat :=
  let leading := "waveform-".toList
  let characters := filename.toList
  let following := characters.drop leading.length
  let digits := following.takeWhile (· != '-')
  if !leading.isPrefixOf characters then none
  else if '-' ∉ following ∨ digits = [] then none
  else match fromDigits digits with
    | none => none
    | some result =>
        if 2 ^ 64 ≤ result ∨ result = 0 ∨ result = 2 ^ 64 - 1 then none else some result

/-- `path::extension`, from the last period that does not begin the name. -/
def extension (filename : String) : List Char :=
  let characters := filename.toList
  let ending := (characters.reverse.takeWhile (· != '.')).reverse
  if filename = ".." ∨ characters.length ≤ ending.length + 1 then [] else '.' :: ending

structure ArchiveCandidate where
  file : DirectoryEntry
  bytes : Nat
  createdUtcNanoseconds : UInt64
  sessionId : Nat
  deriving DecidableEq, Repr

def olderFirst (left right : ArchiveCandidate) : Prop :=
  left.createdUtcNanoseconds < right.createdUtcNanoseconds ∨
    left.createdUtcNanoseconds = right.createdUtcNanoseconds ∧ left.sessionId ≤ right.sessionId

instance : DecidableRel olderFirst := fun _ _ => inferInstanceAs (Decidable (_ ∨ _))

/-- `ranges::sort`, which leaves the order of equal candidates open. -/
structure Sorting where
  sort : List ArchiveCandidate → List ArchiveCandidate
  rearranged : ∀ candidates, (sort candidates).Perm candidates
  ordered : ∀ candidates, (sort candidates).Pairwise olderFirst

def counted (temporary : Option String) (entry : DirectoryEntry) : Bool :=
  entry.regular && !decide (temporary = some entry.filename)

/-- `MncwfV4Reader` on the mapped file. -/
def validFile (zstd : Zstd) (entry : DirectoryEntry) : Bool :=
  entry.mapped.any (fun bytes => (readFile zstd .complete bytes).isOk)

def candidateOf (zstd : Zstd) (entry : DirectoryEntry) (bytes : Nat) : Option ArchiveCandidate :=
  if extension entry.filename ≠ ".mncwf".toList then none
  else match sessionIdFromFilename entry.filename with
    | none => none
    | some sessionId => match entry.mapped with
      | none => none
      | some content => match readFile zstd .metadataOnly content with
        | .error _ => none
        | .ok metadata =>
            some ⟨entry, bytes, metadata.captureMetadata.createdUtcNanoseconds, sessionId⟩

structure Scan where
  physicalBytes : Nat
  candidates : List ArchiveCandidate := []

def measureFailure : String := "measure waveform archive for retention"

def reclaimFailure : String := "waveform archive limit cannot be reclaimed safely"

def scanEntry (zstd : Zstd) (temporary : Option String) (scan : Scan) (entry : DirectoryEntry) :
    Except String Scan :=
  if !counted temporary entry then .ok scan
  else match entry.fileSize with
    | none => .error measureFailure
    | some bytes =>
        if 2 ^ 64 - 1 - scan.physicalBytes < bytes then .error measureFailure
        else .ok {
          physicalBytes := scan.physicalBytes + bytes
          candidates := scan.candidates ++ (candidateOf zstd entry bytes).toList }

/-- The captures that prove the reclaim, their size, and the candidates behind them. -/
structure SafetyProof where
  validated : List ArchiveCandidate
  reclaimable : Nat
  later : List ArchiveCandidate

def proveReclaim (zstd : Zstd) (required : Nat) : Nat → List ArchiveCandidate → SafetyProof
  | reclaimable, [] => ⟨[], reclaimable, []⟩
  | reclaimable, candidate :: candidates =>
      if required ≤ reclaimable then ⟨[], reclaimable, candidate :: candidates⟩
      else if validFile zstd candidate.file then
        let rest := proveReclaim zstd required (reclaimable + candidate.bytes) candidates
        { rest with validated := candidate :: rest.validated }
      else proveReclaim zstd required reclaimable candidates

/-- What the removal loops carry: the files they deleted and the ids they report. -/
structure Removal where
  physicalBytes : Nat
  deleted : List ArchiveCandidate := []
  expired : List Nat := []
  deriving DecidableEq, Repr

/-- Both removal loops; the second checks a candidate before it removes it. -/
def reclaim (checks : ArchiveCandidate → Bool) (removes : DirectoryEntry → Bool) (limit : Nat) :
    Removal → List ArchiveCandidate → Removal
  | removal, [] => removal
  | removal, candidate :: candidates =>
      if removal.physicalBytes ≤ limit then removal
      else if checks candidate && removes candidate.file then
        reclaim checks removes limit {
          physicalBytes := removal.physicalBytes - candidate.bytes
          deleted := removal.deleted ++ [candidate]
          expired := removal.expired ++ [candidate.sessionId] } candidates
      else reclaim checks removes limit removal candidates

structure RetentionOutcome where
  answer : Except String Nat
  deleted : List ArchiveCandidate := []
  expired : List Nat := []
  deriving DecidableEq

/-- `enforce_retention`; `removes` says which files the file system lets go. -/
def enforceRetention (zstd : Zstd) (sorting : Sorting) (removes : DirectoryEntry → Bool)
    (archiveLimitBytes : Nat) (temporary : Option String) (newBytes : UInt64)
    (directory : List DirectoryEntry) : RetentionOutcome :=
  match directory.foldlM (scanEntry zstd temporary) { physicalBytes := newBytes.toNat } with
  | .error failure => { answer := .error failure }
  | .ok scan =>
      if scan.physicalBytes ≤ archiveLimitBytes then { answer := .ok scan.physicalBytes }
      else
        let required := scan.physicalBytes - archiveLimitBytes
        let safety := proveReclaim zstd required 0 (sorting.sort scan.candidates)
        if safety.reclaimable < required then { answer := .error reclaimFailure }
        else
          let proven := reclaim (fun _ => true) removes archiveLimitBytes
            { physicalBytes := scan.physicalBytes } safety.validated
          let final := reclaim (fun candidate => validFile zstd candidate.file) removes
            archiveLimitBytes proven safety.later
          { answer := if archiveLimitBytes < final.physicalBytes then .error reclaimFailure
              else .ok final.physicalBytes
            deleted := final.deleted
            expired := final.expired }

/-- The total of the pending file and every counted one, where it can be measured. -/
def physicalTotal (temporary : Option String) (newBytes : Nat) (directory : List DirectoryEntry) :
    Option Nat :=
  match (directory.filter (counted temporary)).mapM DirectoryEntry.fileSize with
  | none => none
  | some sizes => if newBytes + sizes.sum < 2 ^ 64 then some (newBytes + sizes.sum) else none

/-- The capture that a counted file is when it is valid as a whole. -/
def captureOf (zstd : Zstd) (temporary : Option String) (entry : DirectoryEntry) :
    Option ArchiveCandidate := do
  let bytes ← entry.fileSize
  let sessionId ← sessionIdFromFilename entry.filename
  let content ← entry.mapped
  let contents ← (readFile zstd .complete content).toOption
  if counted temporary entry ∧ extension entry.filename = ".mncwf".toList then
    some ⟨entry, bytes, contents.captureMetadata.createdUtcNanoseconds, sessionId⟩
  else none

def captures (zstd : Zstd) (temporary : Option String) (directory : List DirectoryEntry) :
    List ArchiveCandidate :=
  directory.filterMap (captureOf zstd temporary)

section Scanning

variable {zstd : Zstd} {temporary : Option String}

theorem validFile_iff {entry : DirectoryEntry} :
    validFile zstd entry = true ↔ ∃ content contents, entry.mapped = some content ∧
      readFile zstd .complete content = .ok contents := by
  unfold validFile
  cases entry.mapped with
  | none => simp
  | some content =>
      rw [Option.any_some]
      constructor
      · intro valid
        cases read : readFile zstd .complete content with
        | error failure =>
            rw [read] at valid
            cases valid
        | ok contents => exact ⟨content, contents, rfl, read⟩
      · rintro ⟨whole, contents, same, read⟩
        cases same
        rw [read]
        rfl

theorem candidateOf_some {entry : DirectoryEntry} {bytes : Nat} {candidate : ArchiveCandidate} :
    candidateOf zstd entry bytes = some candidate ↔
      ∃ sessionId content metadata, sessionIdFromFilename entry.filename = some sessionId ∧
        entry.mapped = some content ∧ readFile zstd .metadataOnly content = .ok metadata ∧
        extension entry.filename = ".mncwf".toList ∧
        candidate = ⟨entry, bytes, metadata.captureMetadata.createdUtcNanoseconds, sessionId⟩ := by
  unfold candidateOf
  constructor
  · intro found
    split at found
    · cases found
    · next suffix =>
        split at found
        · cases found
        · next sessionId named =>
            split at found
            · cases found
            · next content mapped =>
                split at found
                · cases found
                · next metadata read =>
                    cases found
                    exact ⟨sessionId, content, metadata, named, mapped, read,
                      not_not.mp suffix, rfl⟩
  · rintro ⟨sessionId, content, metadata, named, mapped, read, suffix, rfl⟩
    rw [if_neg (not_not.mpr suffix), named, mapped]
    simp only [read]

theorem captureOf_some {entry : DirectoryEntry} {candidate : ArchiveCandidate} :
    captureOf zstd temporary entry = some candidate ↔
      ∃ bytes sessionId content contents, entry.fileSize = some bytes ∧
        sessionIdFromFilename entry.filename = some sessionId ∧ entry.mapped = some content ∧
        readFile zstd .complete content = .ok contents ∧ counted temporary entry = true ∧
        extension entry.filename = ".mncwf".toList ∧
        candidate = ⟨entry, bytes, contents.captureMetadata.createdUtcNanoseconds, sessionId⟩ := by
  simp only [captureOf, Option.bind_eq_bind, Option.bind_eq_some_iff]
  constructor
  · rintro ⟨bytes, sized, sessionId, named, content, mapped, contents, read, found⟩
    split at found
    · next fits =>
        cases found
        exact ⟨bytes, sessionId, content, contents, sized, named, mapped,
          Loops.toOption_ok read, fits.1, fits.2, rfl⟩
    · cases found
  · rintro ⟨bytes, sessionId, content, contents, sized, named, mapped, read, counts, suffix, rfl⟩
    refine ⟨bytes, sized, sessionId, named, content, mapped, contents, ?_, ?_⟩
    · rw [read]
      rfl
    · rw [if_pos ⟨counts, suffix⟩]

theorem candidateOf_valid {entry : DirectoryEntry} {bytes : Nat} {candidate : ArchiveCandidate}
    (sized : entry.fileSize = some bytes) (counts : counted temporary entry = true) :
    candidateOf zstd entry bytes = some candidate ∧ validFile zstd candidate.file = true ↔
      captureOf zstd temporary entry = some candidate := by
  rw [captureOf_some, candidateOf_some]
  constructor
  · rintro ⟨⟨sessionId, content, metadata, named, mapped, opened, suffix, rfl⟩, valid⟩
    obtain ⟨whole, contents, again, read⟩ := validFile_iff.mp valid
    obtain rfl := Option.some.inj (mapped.symm.trans again)
    obtain ⟨other, reopened, same⟩ := Mncwf.readFile_metadataOnly zstd content contents read
    obtain rfl := Except.ok.inj (opened.symm.trans reopened)
    exact ⟨bytes, sessionId, content, contents, sized, named, mapped, read, counts, suffix,
      by rw [same]⟩
  · rintro ⟨size, sessionId, content, contents, measured, named, mapped, read, _, suffix, rfl⟩
    obtain rfl := Option.some.inj (sized.symm.trans measured)
    obtain ⟨metadata, opened, same⟩ := Mncwf.readFile_metadataOnly zstd content contents read
    exact ⟨⟨sessionId, content, metadata, named, mapped, opened, suffix, by rw [same]⟩,
      validFile_iff.mpr ⟨content, contents, mapped, read⟩⟩

/-- The candidates among the counted files of a directory. -/
def found (zstd : Zstd) (temporary : Option String) (entry : DirectoryEntry) :
    Option ArchiveCandidate :=
  if counted temporary entry then entry.fileSize.bind (candidateOf zstd entry) else none

theorem found_valid (directory : List DirectoryEntry) :
    ((directory.filterMap (found zstd temporary)).filter fun candidate =>
      validFile zstd candidate.file) = captures zstd temporary directory := by
  rw [captures, List.filter_filterMap]
  apply List.filterMap_congr
  intro entry member
  apply Option.ext
  intro candidate
  rw [Option.filter_eq_some_iff]
  unfold found
  split
  · next counts =>
      cases sized : entry.fileSize with
      | none =>
          rw [captureOf_some]
          simp [sized]
      | some bytes => exact candidateOf_valid sized counts
  · next out =>
      rw [captureOf_some]
      simp [out]

theorem physicalTotal_skipped {entry : DirectoryEntry} {directory : List DirectoryEntry}
    {start : Nat} (out : counted temporary entry = false) :
    physicalTotal temporary start (entry :: directory) =
      physicalTotal temporary start directory := by
  rw [physicalTotal, List.filter_cons_of_neg (by simp [out]), physicalTotal]

theorem physicalTotal_unmeasured {entry : DirectoryEntry} {directory : List DirectoryEntry}
    {start : Nat} (counts : counted temporary entry = true) (unmeasured : entry.fileSize = none) :
    physicalTotal temporary start (entry :: directory) = none := by
  rw [physicalTotal, List.filter_cons_of_pos counts, List.mapM_cons, unmeasured]
  rfl

theorem physicalTotal_added {entry : DirectoryEntry} {directory : List DirectoryEntry}
    {start bytes : Nat} (counts : counted temporary entry = true)
    (sized : entry.fileSize = some bytes) :
    physicalTotal temporary start (entry :: directory) =
      physicalTotal temporary (start + bytes) directory := by
  rw [physicalTotal, List.filter_cons_of_pos counts, List.mapM_cons, sized, physicalTotal]
  cases (directory.filter (counted temporary)).mapM DirectoryEntry.fileSize with
  | none => rfl
  | some sizes =>
      change (if start + (bytes :: sizes).sum < 2 ^ 64 then some (start + (bytes :: sizes).sum)
        else none) = _
      rw [List.sum_cons, ← Nat.add_assoc]

theorem physicalTotal_beyond {directory : List DirectoryEntry} {start : Nat}
    (beyond : 2 ^ 64 ≤ start) : physicalTotal temporary start directory = none := by
  unfold physicalTotal
  split
  · rfl
  · rw [if_neg (by omega)]

theorem scan_entries (directory : List DirectoryEntry) (scan : Scan)
    (bounded : scan.physicalBytes < 2 ^ 64) :
    directory.foldlM (scanEntry zstd temporary) scan =
      match physicalTotal temporary scan.physicalBytes directory with
      | none => .error measureFailure
      | some total =>
          .ok ⟨total, scan.candidates ++ directory.filterMap (found zstd temporary)⟩ := by
  induction directory generalizing scan with
  | nil =>
      have whole : physicalTotal temporary scan.physicalBytes [] = some scan.physicalBytes :=
        if_pos bounded
      rw [whole, List.foldlM_nil, List.filterMap_nil, List.append_nil]
      rfl
  | cons entry directory ih =>
      rw [List.foldlM_cons]
      unfold scanEntry
      cases counts : counted temporary entry with
      | false =>
          have absent : found zstd temporary entry = none := by simp [found, counts]
          rw [physicalTotal_skipped counts, List.filterMap_cons_none absent]
          exact ih scan bounded
      | true =>
          cases sized : entry.fileSize with
          | none =>
              rw [physicalTotal_unmeasured counts sized]
              rfl
          | some bytes =>
              rw [physicalTotal_added counts sized]
              have present : found zstd temporary entry = candidateOf zstd entry bytes := by
                simp [found, counts, sized]
              by_cases large : 2 ^ 64 - 1 - scan.physicalBytes < bytes
              · rw [physicalTotal_beyond (by omega)]
                simp only [Bool.not_true, Bool.false_eq_true, if_false, if_pos large]
                rfl
              · simp only [Bool.not_true, Bool.false_eq_true, if_false, if_neg large]
                refine (ih _ (by simp only; omega)).trans ?_
                cases physicalTotal temporary (scan.physicalBytes + bytes) directory with
                | none => rfl
                | some total =>
                    rw [List.filterMap_cons, present, List.append_assoc]
                    cases candidateOf zstd entry bytes <;> rfl

end Scanning

section Proof

variable {zstd : Zstd}

theorem proveReclaim_validated (required reclaimable : Nat) (candidates : List ArchiveCandidate) :
    (proveReclaim zstd required reclaimable candidates).validated =
      evict ArchiveCandidate.bytes 0 (required - reclaimable)
        (candidates.filter fun candidate => validFile zstd candidate.file) := by
  induction candidates generalizing reclaimable with
  | nil => rfl
  | cons candidate candidates ih =>
      rw [proveReclaim]
      split
      · next enough => rw [evict_within (by omega)]
      · next more =>
          split
          · next valid =>
              rw [List.filter_cons, if_pos valid, evict, if_neg (by omega), Nat.sub_sub]
              exact congrArg (candidate :: ·) (ih _)
          · next invalid => rw [List.filter_cons, if_neg invalid, ih]

theorem proveReclaim_reclaimable (required reclaimable : Nat)
    (candidates : List ArchiveCandidate) :
    (proveReclaim zstd required reclaimable candidates).reclaimable = reclaimable +
      weigh ArchiveCandidate.bytes
        (proveReclaim zstd required reclaimable candidates).validated := by
  induction candidates generalizing reclaimable with
  | nil => rfl
  | cons candidate candidates ih =>
      rw [proveReclaim]
      split
      · rfl
      · split
        · rw [weigh_cons, ← Nat.add_assoc]
          exact ih _
        · exact ih _

theorem proveReclaim_later (required reclaimable : Nat) (candidates : List ArchiveCandidate) :
    ∀ candidate ∈ (proveReclaim zstd required reclaimable candidates).later,
      candidate ∈ candidates := by
  induction candidates generalizing reclaimable with
  | nil => exact fun _ member => member
  | cons candidate candidates ih =>
      rw [proveReclaim]
      split
      · exact fun _ member => member
      · split
        · exact fun other member => List.mem_cons_of_mem _ (ih _ other member)
        · exact fun other member => List.mem_cons_of_mem _ (ih _ other member)

end Proof

section Loops

variable {checks : ArchiveCandidate → Bool} {removes : DirectoryEntry → Bool} {limit : Nat}

theorem reclaim_deleted {removal : Removal} {candidates : List ArchiveCandidate}
    {candidate : ArchiveCandidate}
    (deleted : candidate ∈ (reclaim checks removes limit removal candidates).deleted) :
    candidate ∈ removal.deleted ∨ candidate ∈ candidates ∧ checks candidate = true := by
  induction candidates generalizing removal with
  | nil => exact .inl deleted
  | cons head candidates ih =>
      rw [reclaim] at deleted
      split at deleted
      · exact .inl deleted
      · split at deleted
        · next removable =>
            rcases ih deleted with before | ⟨member, checked⟩
            · rcases List.mem_append.mp before with old | new
              · exact .inl old
              · rw [List.mem_singleton.mp new]
                exact .inr ⟨List.mem_cons_self, (Bool.and_eq_true_iff.mp removable).1⟩
            · exact .inr ⟨List.mem_cons_of_mem _ member, checked⟩
        · rcases ih deleted with before | ⟨member, checked⟩
          · exact .inl before
          · exact .inr ⟨List.mem_cons_of_mem _ member, checked⟩

theorem reclaim_within {removal : Removal} (within : removal.physicalBytes ≤ limit)
    (candidates : List ArchiveCandidate) :
    reclaim checks removes limit removal candidates = removal := by
  cases candidates with
  | nil => rfl
  | cons candidate candidates => rw [reclaim, if_pos within]

theorem reclaim_all {removal : Removal} {candidates : List ArchiveCandidate}
    (removable : ∀ candidate ∈ candidates, (checks candidate && removes candidate.file) = true) :
    reclaim checks removes limit removal candidates =
      let gone := evict ArchiveCandidate.bytes limit removal.physicalBytes candidates
      { physicalBytes := removal.physicalBytes - weigh ArchiveCandidate.bytes gone
        deleted := removal.deleted ++ gone
        expired := removal.expired ++ gone.map ArchiveCandidate.sessionId } := by
  induction candidates generalizing removal with
  | nil => simp [reclaim, evict]
  | cons candidate candidates ih =>
      rw [reclaim, evict]
      split
      · simp
      · rw [if_pos (removable candidate List.mem_cons_self),
          ih fun other member => removable other (List.mem_cons_of_mem _ member)]
        simp [Nat.sub_sub]

end Loops

section Results

variable (zstd : Zstd) (sorting : Sorting) (removes : DirectoryEntry → Bool) (limit : Nat)
  (temporary : Option String) (newBytes : UInt64) (directory : List DirectoryEntry)

def orderedCaptures : List ArchiveCandidate :=
  (sorting.sort (directory.filterMap (found zstd temporary))).filter fun candidate =>
    validFile zstd candidate.file

theorem orderedCaptures_perm :
    (orderedCaptures zstd sorting temporary directory).Perm
      (captures zstd temporary directory) := by
  rw [← found_valid]
  exact (sorting.rearranged _).filter _

theorem orderedCaptures_ordered :
    (orderedCaptures zstd sorting temporary directory).Pairwise olderFirst :=
  (sorting.ordered _).filter _

/-- What is promised of an outcome, for the total of the directory and its captures. -/
inductive Promised (total : Nat) (own : List ArchiveCandidate) : RetentionOutcome → Prop
  | fits (within : total ≤ limit) : Promised total own { answer := .ok total }
  | refuses (short : limit + weigh ArchiveCandidate.bytes own < total) :
      Promised total own { answer := .error reclaimFailure }
  | reclaims (more : limit < total) (ordered gone : List ArchiveCandidate)
      (rearranged : ordered.Perm own) (oldest : ordered.Pairwise olderFirst)
      (shortest : Shortest ArchiveCandidate.bytes limit total ordered gone) :
      Promised total own {
        answer := .ok (total - weigh ArchiveCandidate.bytes gone)
        deleted := gone
        expired := gone.map ArchiveCandidate.sessionId }

theorem promised_measured {total : Nat} {own : List ArchiveCandidate} {outcome : RetentionOutcome}
    (promised : Promised limit total own outcome) : outcome.answer ≠ .error measureFailure := by
  cases promised with
  | fits within => exact fun same => nomatch same
  | refuses short => exact fun same => absurd (Except.error.inj same) (by decide)
  | reclaims => exact fun same => nomatch same

theorem enforceRetention_unmeasured
    (unmeasured : physicalTotal temporary newBytes.toNat directory = none) :
    enforceRetention zstd sorting removes limit temporary newBytes directory =
      { answer := .error measureFailure } := by
  rw [enforceRetention, scan_entries _ _ newBytes.toNat_lt, unmeasured]

theorem enforceRetention_measured {total : Nat}
    (measured : physicalTotal temporary newBytes.toNat directory = some total) :
    enforceRetention zstd sorting removes limit temporary newBytes directory =
      if total ≤ limit then { answer := .ok total }
      else
        let required := total - limit
        let safety := proveReclaim zstd required 0
          (sorting.sort (directory.filterMap (found zstd temporary)))
        if safety.reclaimable < required then { answer := .error reclaimFailure }
        else
          let proven := reclaim (fun _ => true) removes limit { physicalBytes := total }
            safety.validated
          let final := reclaim (fun candidate => validFile zstd candidate.file) removes limit
            proven safety.later
          { answer := if limit < final.physicalBytes then .error reclaimFailure
              else .ok final.physicalBytes
            deleted := final.deleted
            expired := final.expired } := by
  rw [enforceRetention, scan_entries _ _ newBytes.toNat_lt, measured]
  rfl

theorem enforceRetention_deleted {candidate : ArchiveCandidate}
    (deleted : candidate ∈
      (enforceRetention zstd sorting removes limit temporary newBytes directory).deleted) :
    candidate ∈ captures zstd temporary directory := by
  have same := (orderedCaptures_perm zstd sorting temporary directory).mem_iff (a := candidate)
  rw [← same]
  cases measured : physicalTotal temporary newBytes.toNat directory with
  | none =>
      rw [enforceRetention_unmeasured _ _ _ _ _ _ _ measured] at deleted
      cases deleted
  | some total =>
      rw [enforceRetention_measured _ _ _ _ _ _ _ measured] at deleted
      split at deleted
      · cases deleted
      · dsimp only at deleted
        split at deleted
        · cases deleted
        · rcases reclaim_deleted deleted with first | ⟨later, valid⟩
          · rcases reclaim_deleted first with never | ⟨proven, _⟩
            · cases never
            · rw [proveReclaim_validated] at proven
              exact (evict_leading _ _ _).subset proven
          · exact List.mem_filter.mpr ⟨proveReclaim_later _ _ _ _ later, valid⟩

theorem enforceRetention_short {total : Nat}
    (measured : physicalTotal temporary newBytes.toNat directory = some total)
    (short : limit + weigh ArchiveCandidate.bytes (captures zstd temporary directory) < total) :
    enforceRetention zstd sorting removes limit temporary newBytes directory =
      { answer := .error reclaimFailure } := by
  rw [← weigh_perm (orderedCaptures_perm zstd sorting temporary directory)] at short
  rw [enforceRetention_measured _ _ _ _ _ _ _ measured, if_neg (by omega)]
  dsimp only
  have all : evict ArchiveCandidate.bytes 0 (total - limit - 0)
      (orderedCaptures zstd sorting temporary directory) =
        orderedCaptures zstd sorting temporary directory := evict_all (by omega)
  rw [proveReclaim_reclaimable, proveReclaim_validated, ← orderedCaptures, all,
    if_pos (by omega)]

theorem enforceRetention_reclaims {total : Nat}
    (measured : physicalTotal temporary newBytes.toNat directory = some total)
    (more : limit < total)
    (enough : total ≤ limit + weigh ArchiveCandidate.bytes (captures zstd temporary directory))
    (removable : ∀ candidate ∈ captures zstd temporary directory, removes candidate.file = true) :
    Promised limit total (captures zstd temporary directory)
      (enforceRetention zstd sorting removes limit temporary newBytes directory) := by
  have rearranged := orderedCaptures_perm zstd sorting temporary directory
  rw [← weigh_perm rearranged] at enough
  have shortest := evict_shortest enough
  have promised := Promised.reclaims more _ _ rearranged
    (orderedCaptures_ordered zstd sorting temporary directory) shortest
  have proven : evict ArchiveCandidate.bytes 0 (total - limit - 0)
      (orderedCaptures zstd sorting temporary directory) =
        evict ArchiveCandidate.bytes limit total
          (orderedCaptures zstd sorting temporary directory) := by
    rw [Nat.sub_zero, ← evict_surplus]
  have frees := shortest.enough
  have removed : ∀ candidate ∈ evict ArchiveCandidate.bytes limit total
      (orderedCaptures zstd sorting temporary directory),
      (true && removes candidate.file) = true := fun candidate member =>
    removable candidate (rearranged.mem_iff.mp (shortest.initial.subset member))
  rw [enforceRetention_measured _ _ _ _ _ _ _ measured, if_neg (by omega)]
  dsimp only
  rw [proveReclaim_reclaimable, proveReclaim_validated, ← orderedCaptures, proven,
    if_neg (by omega), reclaim_all removed]
  dsimp only
  rw [evict_evict, reclaim_within (by dsimp only; omega), if_neg (by dsimp only; omega)]
  exact promised

/-- Only valid captures are ever deleted. A directory that cannot be measured or reclaimed is left
alone, as is one within the limit; otherwise the oldest captures go, no more than needed. -/
theorem retention_promised :
    (∀ candidate ∈
        (enforceRetention zstd sorting removes limit temporary newBytes directory).deleted,
      candidate ∈ captures zstd temporary directory ∧ candidate.file ∈ directory ∧
        counted temporary candidate.file = true ∧ validFile zstd candidate.file = true) ∧
    match physicalTotal temporary newBytes.toNat directory with
    | none => enforceRetention zstd sorting removes limit temporary newBytes directory =
        { answer := .error measureFailure }
    | some total =>
        (total ≤ limit →
          enforceRetention zstd sorting removes limit temporary newBytes directory =
            { answer := .ok total }) ∧
        (limit + weigh ArchiveCandidate.bytes (captures zstd temporary directory) < total →
          enforceRetention zstd sorting removes limit temporary newBytes directory =
            { answer := .error reclaimFailure }) ∧
        ((∀ candidate ∈ captures zstd temporary directory, removes candidate.file = true) →
          Promised limit total (captures zstd temporary directory)
            (enforceRetention zstd sorting removes limit temporary newBytes directory)) := by
  constructor
  · intro candidate deleted
    have own := enforceRetention_deleted _ _ _ _ _ _ _ deleted
    obtain ⟨entry, member, isCapture⟩ := List.mem_filterMap.mp own
    obtain ⟨bytes, sessionId, content, contents, sized, named, mapped, read, counts, suffix, rfl⟩ :=
      captureOf_some.mp isCapture
    exact ⟨own, member, counts, validFile_iff.mpr ⟨content, contents, mapped, read⟩⟩
  · cases measured : physicalTotal temporary newBytes.toNat directory with
    | none => exact enforceRetention_unmeasured _ _ _ _ _ _ _ measured
    | some total =>
        have fits : total ≤ limit →
            enforceRetention zstd sorting removes limit temporary newBytes directory =
              { answer := .ok total } := by
          intro within
          rw [enforceRetention_measured _ _ _ _ _ _ _ measured, if_pos within]
        have short := enforceRetention_short zstd sorting removes limit temporary newBytes
          directory measured
        refine ⟨fits, short, ?_⟩
        intro removable
        by_cases within : total ≤ limit
        · rw [fits within]
          exact .fits within
        · by_cases lacks :
              limit + weigh ArchiveCandidate.bytes (captures zstd temporary directory) < total
          · rw [short lacks]
            exact .refuses lacks
          · exact enforceRetention_reclaims _ _ _ _ _ _ _ measured (by omega) (by omega) removable

end Results

instance : Std.Total olderFirst where
  total left right := by
    simp only [olderFirst, UInt64.lt_iff_toNat_lt, ← UInt64.toNat_inj]
    omega

instance : IsTrans ArchiveCandidate olderFirst where
  trans first second third := by
    simp only [olderFirst, UInt64.lt_iff_toNat_lt, ← UInt64.toNat_inj]
    omega

def byInsertion : Sorting where
  sort := fun candidates => candidates.insertionSort olderFirst
  rearranged := fun candidates => List.perm_insertionSort olderFirst candidates
  ordered := fun candidates => List.pairwise_insertionSort olderFirst candidates

def rejectingZstd : Zstd where
  compress _ := none
  findFrameCompressedSize _ := none
  frameContentSize _ := none
  decompress _ _ := none

/-- The directory of one file that is gone when its size is read. -/
def vanishing : List DirectoryEntry := [⟨"waveform-7-20260101T000000Z.mncwf", true, none, none⟩]

/-- Whatever size the file had, its total was within the limit, and yet the pass fails. -/
theorem vanishing_file_fails :
    ¬ ∃ size, size < 2 ^ 63 ∧ Promised (2 ^ 63) size (captures rejectingZstd none vanishing)
      (enforceRetention rejectingZstd byInsertion (fun _ => true) (2 ^ 63) none 0 vanishing) := by
  rintro ⟨size, small, promised⟩
  have fails : enforceRetention rejectingZstd byInsertion (fun _ => true) (2 ^ 63) none 0
      vanishing = { answer := .error measureFailure } := rfl
  exact promised_measured (2 ^ 63) promised (by rw [fails])

end Msap1.Waveform
