import Aios.Evidence.RocksDb
import Aios.Lib.Lexicographic

/-! # The order of index keys

The keys of the record-type index are compared byte by byte. The wire id and the receipt id are ordered as they are;
the time is written in two's complement, which puts what is before 1970 behind what is after, and times that do not fit
into 64 bits of nanoseconds are brought together.
-/

namespace Aios.Evidence

open Aios.Rust

/-- What a key of the index is made of. -/
structure IndexEntry where
  recordType : RecordType
  recordedAt : DateTime
  receiptId : EvidenceReceiptId

namespace IndexEntry

def key (self : IndexEntry) : List UInt8 := recordTypeIndexKey self.recordType self.recordedAt self.receiptId

/-- The order by wire id, time and receipt id, which is compared by its bytes. -/
def Before (self other : IndexEntry) : Prop :=
  self.recordType.wireId < other.recordType.wireId ∨ self.recordType.wireId = other.recordType.wireId ∧
    (self.recordedAt < other.recordedAt ∨ self.recordedAt = other.recordedAt ∧
      Hex.bytesOf self.receiptId < Hex.bytesOf other.receiptId)

/-- The keys of two entries tell them apart, and are ordered as the entries are. -/
def KeysTell (self other : IndexEntry) : Prop :=
  (self.key = other.key → self = other) ∧ (self.key < other.key ↔ self.Before other)

end IndexEntry

/-- The last whole second that 64 bits of nanoseconds reach, and the one after it. -/
def LAST_SECOND : ℤ := 9223372036000000000

def NEXT_SECOND : ℤ := 9223372037000000000

/-- The earlier time has the smaller bytes: the two are on the same side of 1970, and the later one is within the
range, or it is above it and brought to a larger time than the earlier one is. -/
def KeptApart (early late : ℤ) : Prop :=
  (0 ≤ early ∨ late < 0) ∧ I64_MIN < late ∧
    (late ≤ I64_MAX ∨ late < NEXT_SECOND ∧ early < LAST_SECOND ∨
      NEXT_SECOND ≤ late ∧ early < NEXT_SECOND ∧ early ≠ I64_MAX)

/-- The two times have the same bytes: both are at the lower end of the range or below it, or the later one is above it
and both are brought to the last whole second or to the upper end. -/
def BroughtTogether (early late : ℤ) : Prop :=
  late ≤ I64_MIN ∨
    I64_MAX < late ∧ late < NEXT_SECOND ∧ (early = LAST_SECOND ∨ I64_MAX < early) ∨
    NEXT_SECOND ≤ late ∧ (early = I64_MAX ∨ NEXT_SECOND ≤ early)

/-- The number that is written for a time. -/
def timeCode (recordedAt : ℤ) : ℕ := (timestampNanos recordedAt % 18446744073709551616).toNat

/-- What is written for a time within the range, and for times on either side of it. -/
theorem timestampNanos_cases (recordedAt : ℤ) :
    (I64_MIN ≤ recordedAt ∧ recordedAt ≤ I64_MAX ∧ timestampNanos recordedAt = recordedAt) ∨
    (recordedAt < I64_MIN ∧ timestampNanos recordedAt = I64_MIN) ∨
    (I64_MAX < recordedAt ∧ recordedAt < NEXT_SECOND ∧ timestampNanos recordedAt = LAST_SECOND) ∨
    (NEXT_SECOND ≤ recordedAt ∧ timestampNanos recordedAt = I64_MAX) := by
  rw [timestampNanos]
  by_cases fits : I64_MIN ≤ recordedAt ∧ recordedAt ≤ I64_MAX
  · rw [if_pos fits]
    exact .inl ⟨fits.1, fits.2, rfl⟩
  · rw [if_neg fits]
    simp only [I64_MIN, I64_MAX, LAST_SECOND, NEXT_SECOND] at fits ⊢
    omega

theorem timeCode_lt_iff {early late : ℤ} (order : early < late) :
    timeCode early < timeCode late ↔ KeptApart early late := by
  rw [timeCode, timeCode, KeptApart]
  have first := timestampNanos_cases early
  have second := timestampNanos_cases late
  simp only [I64_MIN, I64_MAX, LAST_SECOND, NEXT_SECOND] at first second ⊢
  omega

theorem timeCode_eq_iff {early late : ℤ} (order : early < late) :
    timeCode early = timeCode late ↔ BroughtTogether early late := by
  rw [timeCode, timeCode, BroughtTogether]
  have first := timestampNanos_cases early
  have second := timestampNanos_cases late
  simp only [I64_MIN, I64_MAX, LAST_SECOND, NEXT_SECOND] at first second ⊢
  omega

/-! ## Keys -/

theorem toBeBytes_eq_bigEndian (width value : ℕ) : toBeBytes width value = LexKeys.bigEndian width value := by
  induction width with
  | zero => rfl
  | succ width ih =>
    rw [LexKeys.bigEndian, ← ih, toBeBytes, List.range_succ, List.reverse_append, List.reverse_singleton,
      List.singleton_append, List.map_cons]
    rfl

theorem RecordType.wireId_lt (recordType : RecordType) : recordType.wireId < 256 ^ 2 := by
  by_cases last : recordType = .compactionApprovalRequired
  · subst last
    decide
  · rw [RecordType.wireId_of_ne last]
    have bound := recordType.ctorIdx_lt
    omega

namespace IndexEntry

theorem bigEndian_width (width value value' : ℕ) :
    (LexKeys.bigEndian width value).length = (LexKeys.bigEndian width value').length := by
  rw [LexKeys.bigEndian_length, LexKeys.bigEndian_length]

theorem timeCode_mod (recordedAt : ℤ) : timeCode recordedAt % 256 ^ 8 = timeCode recordedAt := by
  rw [timeCode]
  omega

variable (self other : IndexEntry)

theorem key_eq_bytes : self.key = LexKeys.bigEndian 2 self.recordType.wireId ++
    (LexKeys.bigEndian 8 (timeCode self.recordedAt) ++ Hex.bytesOf self.receiptId) := by
  rw [← toBeBytes_eq_bigEndian, ← toBeBytes_eq_bigEndian, ← List.append_assoc]
  rfl

theorem key_lt_iff : self.key < other.key ↔ self.recordType.wireId < other.recordType.wireId ∨
    self.recordType.wireId = other.recordType.wireId ∧ (timeCode self.recordedAt < timeCode other.recordedAt ∨
      timeCode self.recordedAt = timeCode other.recordedAt ∧
        Hex.bytesOf self.receiptId < Hex.bytesOf other.receiptId) := by
  rw [key_eq_bytes, key_eq_bytes, LexKeys.append_lt_append_iff (bigEndian_width _ _ _),
    LexKeys.append_lt_append_iff (bigEndian_width _ _ _), LexKeys.bigEndian_lt_iff, LexKeys.bigEndian_lt_iff,
    LexKeys.bigEndian_inj, LexKeys.bigEndian_inj, Nat.mod_eq_of_lt self.recordType.wireId_lt,
    Nat.mod_eq_of_lt other.recordType.wireId_lt, timeCode_mod, timeCode_mod]

theorem key_eq_iff : self.key = other.key ↔ self.recordType = other.recordType ∧
    timeCode self.recordedAt = timeCode other.recordedAt ∧ self.receiptId = other.receiptId := by
  rw [key_eq_bytes, key_eq_bytes, LexKeys.append_inj_iff (bigEndian_width _ _ _),
    LexKeys.append_inj_iff (bigEndian_width _ _ _), LexKeys.bigEndian_inj, LexKeys.bigEndian_inj,
    Nat.mod_eq_of_lt self.recordType.wireId_lt, Nat.mod_eq_of_lt other.recordType.wireId_lt, timeCode_mod, timeCode_mod,
    RecordType.wireId_injective.eq_iff, Hex.bytesOf_injective.eq_iff]

/-- The bytes of the times are in order, or the same and those of the receipt ids are. -/
def TimesKept (early late : IndexEntry) : Prop :=
  early.recordedAt < late.recordedAt ∧ (KeptApart early.recordedAt late.recordedAt ∨
    BroughtTogether early.recordedAt late.recordedAt ∧ Hex.bytesOf early.receiptId < Hex.bytesOf late.receiptId)

theorem bytes_trichotomy (first second : List UInt8) : first < second ∨ first = second ∨ second < first := by
  by_cases more : second < first
  · exact .inr (.inr more)
  · exact (List.le_iff_lt_or_eq.mp (List.not_lt.mp more)).imp_right .inl

variable {self other}

theorem keysTell_of_ne (types : self.recordType ≠ other.recordType) : self.KeysTell other := by
  have wires : self.recordType.wireId ≠ other.recordType.wireId := RecordType.wireId_injective.ne types
  rw [KeysTell, key_eq_iff, key_lt_iff, Before]
  exact ⟨fun same => absurd same.1 types, by simp only [wires, false_and]⟩

theorem keysTell_of_same_time (types : self.recordType = other.recordType)
    (times : self.recordedAt = other.recordedAt) : self.KeysTell other := by
  obtain ⟨recordType, recordedAt, receiptId⟩ := self
  obtain ⟨recordType', recordedAt', receiptId'⟩ := other
  obtain rfl : recordType = recordType' := types
  obtain rfl : recordedAt = recordedAt' := times
  rw [KeysTell, key_eq_iff, key_lt_iff, Before]
  constructor
  · rintro ⟨-, -, ids⟩
    exact congrArg _ ids
  · simp only [lt_irrefl, true_and, false_or]

/-- Of two entries of one type the earlier one is to have the smaller key. -/
theorem keysTell_iff_of_lt (types : self.recordType = other.recordType) (earlier : self.recordedAt < other.recordedAt) :
    (self.KeysTell other ↔ TimesKept self other) ∧ (other.KeysTell self ↔ TimesKept self other) := by
  have apart : self ≠ other := fun same => absurd (congrArg recordedAt same) earlier.ne
  have before : self.Before other := .inr ⟨congrArg _ types, .inl earlier⟩
  have notBefore : ¬other.Before self := by
    rintro (less | ⟨-, less | ⟨same, -⟩⟩)
    · exact absurd (congrArg RecordType.wireId types) less.ne'
    · exact absurd less earlier.not_gt
    · exact absurd same earlier.ne'
  have kept : self.key < other.key ↔ TimesKept self other := by
    rw [key_lt_iff, TimesKept, types, timeCode_lt_iff earlier, timeCode_eq_iff earlier]
    simp only [lt_irrefl, true_and, false_or, earlier]
  rw [KeysTell, KeysTell, iff_true_right before, iff_false_right notBefore, ← kept]
  rcases bytes_trichotomy self.key other.key with less | same | more
  · refine ⟨iff_of_true ⟨fun same => ?_, less⟩ less, iff_of_true ⟨fun same => ?_, List.lt_asymm less⟩ less⟩
    · exact absurd (same ▸ less) (List.lt_irrefl _)
    · exact absurd (same ▸ less) (List.lt_irrefl _)
  · rw [same]
    exact ⟨iff_of_false (fun told => apart (told.1 rfl)) (List.lt_irrefl _),
      iff_of_false (fun told => apart (told.1 rfl).symm) (List.lt_irrefl _)⟩
  · exact ⟨iff_of_false (fun told => List.lt_asymm more told.2) (List.lt_asymm more),
      iff_of_false (fun told => told.2 more) (List.lt_asymm more)⟩

/-- The keys of two entries tell them apart and are ordered as they are exactly if the record types differ, the times
are the same, or the times are kept in their order. -/
theorem keysTell_iff (self other : IndexEntry) : self.KeysTell other ↔ self.recordType ≠ other.recordType ∨
    self.recordedAt = other.recordedAt ∨ TimesKept self other ∨ TimesKept other self := by
  by_cases types : self.recordType = other.recordType
  · rcases lt_trichotomy self.recordedAt other.recordedAt with earlier | times | later
    · have reversed : ¬TimesKept other self := fun kept => absurd kept.1 earlier.not_gt
      rw [(keysTell_iff_of_lt types earlier).1]
      simp only [types, earlier.ne, reversed, ne_eq, not_true_eq_false, false_or, or_false]
    · exact iff_of_true (keysTell_of_same_time types times) (.inr (.inl times))
    · have reversed : ¬TimesKept self other := fun kept => absurd kept.1 later.not_gt
      rw [(keysTell_iff_of_lt types.symm later).2]
      simp only [types, later.ne', reversed, ne_eq, not_true_eq_false, false_or]
  · exact iff_of_true (keysTell_of_ne types) (.inl types)

/-- One nanosecond before 1970. -/
def beforeEpoch : IndexEntry := ⟨.actionReceived, -1, "evr_01ARZ3NDEKTSV4RRFFQ69G5FAV"⟩

def atEpoch : IndexEntry := { beforeEpoch with recordedAt := 0 }

theorem beforeEpoch_not_told : ¬∀ self other : IndexEntry, self.KeysTell other := by
  intro told
  have less : beforeEpoch.key < atEpoch.key := (told beforeEpoch atEpoch).2.mpr (.inr ⟨rfl, .inl (by decide)⟩)
  rw [key_lt_iff] at less
  revert less
  decide +kernel

end IndexEntry

end Aios.Evidence
