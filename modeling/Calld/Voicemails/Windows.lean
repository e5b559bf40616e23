/-
# The messages of a time window

The bounds of a window are cut to whole seconds, toward zero, and the timestamp of a message is
not before the first one and before the second one.  A bound with a fraction belongs to the
next second: cut, it lets in a message before the window, or leaves out the last one in it,
unless it is before 1970.

The windows of consecutive bounds still have no message in common and lose none.
-/
import Calld.Effect.Binary64
import Calld.Voicemails.Listing

namespace Calld.Voicemails

open Effect

/-! ## Bounds -/

/-- An aware `datetime`: the local time since 1970, and its offset from UTC, both in
microseconds. -/
structure AwareDateTime where
  microseconds : ℤ
  offset : ℤ
  year : -62135596800 * 10 ^ 6 ≤ microseconds ∧ microseconds < 253402300800 * 10 ^ 6
  zone : -86400 * 10 ^ 6 < offset ∧ offset < 86400 * 10 ^ 6

namespace AwareDateTime

/-- The microseconds since the epoch. -/
def instant (d : AwareDateTime) : ℤ := d.microseconds - d.offset

/-- The seconds since the epoch. -/
def exact (d : AwareDateTime) : ℚ := d.instant / 10 ^ 6

/-- `datetime.timestamp`. -/
def timestamp (d : AwareDateTime) : ℚ := binary64 d.exact

end AwareDateTime

/-- `int` of a float. -/
def truncate (x : ℚ) : ℤ := if 0 ≤ x then ⌊x⌋ else ⌈x⌉

theorem truncate_of_nonneg {x : ℚ} (h : 0 ≤ x) : truncate x = ⌊x⌋ := if_pos h

theorem truncate_of_nonpos {x : ℚ} (h : x ≤ 0) : truncate x = ⌈x⌉ := by
  rcases h.lt_or_eq with h | rfl
  · exact if_neg (not_le.mpr h)
  · simp [truncate]

@[simp] theorem truncate_intCast (n : ℤ) : truncate n = n := by
  unfold truncate
  split <;> simp

theorem truncate_mono {x y : ℚ} (h : x ≤ y) : truncate x ≤ truncate y := by
  rcases le_total 0 x with hx | hx
  · rw [truncate_of_nonneg hx, truncate_of_nonneg (hx.trans h)]
    exact Int.floor_le_floor h
  rcases le_total 0 y with hy | hy
  · rw [truncate_of_nonpos hx, truncate_of_nonneg hy]
    exact (Int.ceil_le.mpr (by simpa using hx)).trans (Int.floor_nonneg.mpr hy)
  · rw [truncate_of_nonpos hx, truncate_of_nonpos hy]
    exact Int.ceil_le_ceil h

/-- `int(d.timestamp())`. -/
def AwareDateTime.seconds (d : AwareDateTime) : ℤ := truncate d.timestamp

/-- The filters of `get_tenant_messages` on the time. -/
def within (from_ until_ : Option AwareDateTime) (messages : List ListedMessage) :
    List ListedMessage :=
  let filtered := match from_ with
    | none => messages
    | some d => messages.filter fun m => d.seconds ≤ m.result.timestamp
  match until_ with
  | none => filtered
  | some d => filtered.filter fun m => m.result.timestamp < d.seconds

/-! ## What a window returns -/

/-- The message is in the window. -/
def InWindow (from_ until_ : AwareDateTime) (m : ListedMessage) : Prop :=
  from_.instant ≤ 10 ^ 6 * m.result.timestamp ∧ 10 ^ 6 * m.result.timestamp < until_.instant

/-- The window returns the messages that are in it. -/
def Faithful (from_ until_ : AwareDateTime) : Prop :=
  ∀ messages m, m ∈ within (some from_) (some until_) messages ↔
    m ∈ messages ∧ InWindow from_ until_ m

/-- The windows on both sides of a bound share no message, and return those of the whole. -/
def Partitions (a b c : AwareDateTime) : Prop :=
  ∀ messages m,
    (m ∈ within (some a) (some c) messages ↔
      m ∈ within (some a) (some b) messages ∨ m ∈ within (some b) (some c) messages) ∧
    ¬ (m ∈ within (some a) (some b) messages ∧ m ∈ within (some b) (some c) messages)

namespace AwareDateTime

/-- The bound is a whole second; or it is after the epoch and its float is the next second; or
it is before, and its float is not the second before it. -/
def Sharp (d : AwareDateTime) : Prop :=
  10 ^ 6 ∣ d.instant ∨ (0 < d.instant ∧ d.timestamp = ⌈d.exact⌉) ∨
    (d.instant < 0 ∧ ⌊d.exact⌋ < d.timestamp)

variable {d : AwareDateTime}

theorem abs_exact_lt (d : AwareDateTime) : |d.exact| < 2 ^ 53 := by
  obtain ⟨hlow, hhigh⟩ := d.year
  obtain ⟨hwest, heast⟩ := d.zone
  have habs : |d.instant| < 2 ^ 53 * 10 ^ 6 := by
    unfold instant
    rw [abs_lt]
    constructor <;> omega
  have hcast : |(d.instant : ℚ)| < 2 ^ 53 * 10 ^ 6 := by exact_mod_cast habs
  unfold exact
  rw [abs_div, abs_of_pos (by norm_num : (0 : ℚ) < 10 ^ 6), div_lt_iff₀ (by norm_num)]
  exact hcast

theorem floor_le_timestamp (d : AwareDateTime) : (⌊d.exact⌋ : ℚ) ≤ d.timestamp :=
  intCast_le_binary64 d.abs_exact_lt (Int.floor_le _)

theorem timestamp_le_ceil (d : AwareDateTime) : d.timestamp ≤ (⌈d.exact⌉ : ℚ) :=
  binary64_le_intCast d.abs_exact_lt (Int.le_ceil _)

/-- The first second that is not before the bound. -/
theorem ceil_exact_le_iff {t : ℤ} : ⌈d.exact⌉ ≤ t ↔ d.instant ≤ 10 ^ 6 * t := by
  unfold exact
  rw [Int.ceil_le, div_le_iff₀ (by norm_num), mul_comm]
  norm_cast

theorem dvd_iff_floor_eq_ceil : 10 ^ 6 ∣ d.instant ↔ ⌊d.exact⌋ = ⌈d.exact⌉ := by
  constructor
  · rintro ⟨k, hk⟩
    have hexact : d.exact = k := by
      unfold exact
      rw [hk]
      push_cast
      exact mul_div_cancel_left₀ _ (by norm_num)
    rw [hexact, Int.floor_intCast, Int.ceil_intCast]
  · intro h
    have hexact : d.exact = ⌊d.exact⌋ :=
      le_antisymm ((Int.le_ceil _).trans_eq (by rw [h])) (Int.floor_le _)
    refine ⟨⌊d.exact⌋, ?_⟩
    have hmul : (d.instant : ℚ) = 10 ^ 6 * ⌊d.exact⌋ := by
      rw [← hexact]
      unfold exact
      field_simp
    exact_mod_cast hmul

/-- A bound that is cut is the first second not before it when it is sharp, and the one before
this otherwise. -/
theorem seconds_cases (d : AwareDateTime) :
    (d.Sharp ∧ d.seconds = ⌈d.exact⌉) ∨ (¬ d.Sharp ∧ d.seconds = ⌈d.exact⌉ - 1) := by
  have hlow := d.floor_le_timestamp
  have hhigh := d.timestamp_le_ceil
  by_cases hwhole : ⌊d.exact⌋ = ⌈d.exact⌉
  · refine .inl ⟨.inl (dvd_iff_floor_eq_ceil.mpr hwhole), ?_⟩
    have htimestamp : d.timestamp = (⌈d.exact⌉ : ℤ) :=
      le_antisymm hhigh (hwhole ▸ hlow)
    unfold seconds
    rw [htimestamp, truncate_intCast]
  have hdvd : ¬ 10 ^ 6 ∣ d.instant := fun h => hwhole (dvd_iff_floor_eq_ceil.mp h)
  have hnext : ⌈d.exact⌉ = ⌊d.exact⌋ + 1 := by
    have := Int.ceil_le_floor_add_one d.exact
    have := Int.floor_le_ceil d.exact
    omega
  have hcast : (⌈d.exact⌉ : ℚ) = ⌊d.exact⌋ + 1 := by
    rw [hnext]
    push_cast
    rfl
  rcases lt_trichotomy d.instant 0 with hneg | hzero | hpos
  · have hexact : d.exact ≤ 0 := by
      unfold exact
      exact div_nonpos_of_nonpos_of_nonneg (by exact_mod_cast hneg.le) (by norm_num)
    have hseconds : d.seconds = ⌈d.timestamp⌉ := truncate_of_nonpos (binary64_nonpos hexact)
    rcases hlow.lt_or_eq with hlt | heq
    · refine .inl ⟨.inr (.inr ⟨hneg, hlt⟩), ?_⟩
      rw [hseconds, Int.ceil_eq_iff]
      exact ⟨by linarith, hhigh⟩
    · refine .inr ⟨?_, ?_⟩
      · rintro (h | ⟨h, -⟩ | ⟨-, h⟩)
        · exact hdvd h
        · omega
        · exact h.ne heq
      · rw [hseconds, ← heq, Int.ceil_intCast]
        omega
  · exact absurd (hzero ▸ dvd_zero _) hdvd
  · have hexact : 0 ≤ d.exact := by
      unfold exact
      exact div_nonneg (by exact_mod_cast hpos.le) (by norm_num)
    have hseconds : d.seconds = ⌊d.timestamp⌋ := truncate_of_nonneg (binary64_nonneg hexact)
    rcases hhigh.lt_or_eq with hlt | heq
    · refine .inr ⟨?_, ?_⟩
      · rintro (h | ⟨-, h⟩ | ⟨h, -⟩)
        · exact hdvd h
        · exact hlt.ne h
        · omega
      · have hfloor : ⌊d.timestamp⌋ = ⌊d.exact⌋ :=
          Int.floor_eq_iff.mpr ⟨hlow, by linarith⟩
        omega
    · refine .inl ⟨.inr (.inl ⟨hpos, heq⟩), ?_⟩
      rw [hseconds, heq, Int.floor_intCast]

theorem exact_mono {d' : AwareDateTime} (h : d.instant ≤ d'.instant) : d.exact ≤ d'.exact :=
  div_le_div_of_nonneg_right (by exact_mod_cast h) (by norm_num)

theorem seconds_mono {d' : AwareDateTime} (h : d.instant ≤ d'.instant) :
    d.seconds ≤ d'.seconds :=
  truncate_mono (binary64_mono (exact_mono h))

end AwareDateTime

/-! ## The exact condition -/

/-- Both bounds are sharp; or neither is, and no whole second is between them. -/
def WindowFits (from_ until_ : AwareDateTime) : Prop :=
  (from_.Sharp ∧ until_.Sharp) ∨
    (¬ from_.Sharp ∧ ¬ until_.Sharp ∧ ⌈from_.exact⌉ = ⌈until_.exact⌉)

section Windows

variable {a b c : AwareDateTime} {messages : List ListedMessage} {m : ListedMessage}

theorem mem_within : m ∈ within (some a) (some b) messages ↔
    m ∈ messages ∧ a.seconds ≤ m.result.timestamp ∧ m.result.timestamp < b.seconds := by
  simp [within, and_comm]

theorem inWindow_iff : InWindow a b m ↔
    ⌈a.exact⌉ ≤ m.result.timestamp ∧ m.result.timestamp < ⌈b.exact⌉ := by
  unfold InWindow
  rw [AwareDateTime.ceil_exact_le_iff, ← not_le, ← not_le, AwareDateTime.ceil_exact_le_iff]

/-- A message of a time. -/
def messageAt (t : ℤ) : ListedMessage :=
  (⟨⟨none, some "1000", "1", t, 1, false⟩, ⟨1, "INBOX", .new, true⟩, mailbox⟩ : MessageInfo).listed
    mailbox

/-- A window returns what is in it when its cut bounds do. -/
theorem faithful_iff : Faithful a b ↔
    ∀ t : ℤ, (a.seconds ≤ t ∧ t < b.seconds) ↔ (⌈a.exact⌉ ≤ t ∧ t < ⌈b.exact⌉) := by
  constructor
  · intro h t
    have := h [messageAt t] (messageAt t)
    rw [mem_within, inWindow_iff] at this
    simpa [messageAt, MessageInfo.listed] using this
  · intro h messages m
    rw [mem_within, inWindow_iff]
    exact and_congr_right fun _ => h _

theorem faithful_iff_fits (h : a.instant ≤ b.instant) : Faithful a b ↔ WindowFits a b := by
  rw [faithful_iff]
  have hceil : ⌈a.exact⌉ ≤ ⌈b.exact⌉ := Int.ceil_le_ceil (AwareDateTime.exact_mono h)
  have hseconds := AwareDateTime.seconds_mono h
  unfold WindowFits
  rcases a.seconds_cases with ⟨ha, hsa⟩ | ⟨ha, hsa⟩ <;>
    rcases b.seconds_cases with ⟨hb, hsb⟩ | ⟨hb, hsb⟩ <;> rw [hsa, hsb]
  · exact iff_of_true (fun t => Iff.rfl) (.inl ⟨ha, hb⟩)
  · refine iff_of_false (fun hall => ?_) (by tauto)
    have := hall (⌈b.exact⌉ - 1)
    omega
  · refine iff_of_false (fun hall => ?_) (by tauto)
    have := hall (⌈a.exact⌉ - 1)
    omega
  · simp only [ha, hb, false_and, not_false_eq_true, true_and, false_or]
    constructor
    · intro hall
      have := hall (⌈a.exact⌉ - 1)
      omega
    · intro heq t
      omega

theorem partitions (hab : a.instant ≤ b.instant) (hbc : b.instant ≤ c.instant) :
    Partitions a b c := by
  intro messages m
  have := AwareDateTime.seconds_mono hab
  have := AwareDateTime.seconds_mono hbc
  simp only [mem_within]
  constructor
  · constructor
    · rintro ⟨hm, hlow, hhigh⟩
      by_cases h : m.result.timestamp < b.seconds
      · exact .inl ⟨hm, hlow, h⟩
      · exact .inr ⟨hm, by omega, hhigh⟩
    · rintro (⟨hm, hlow, hhigh⟩ | ⟨hm, hlow, hhigh⟩)
      · exact ⟨hm, hlow, by omega⟩
      · exact ⟨hm, by omega, hhigh⟩
  · rintro ⟨⟨-, -, hhigh⟩, -, hlow, -⟩
    omega

/-- **A window returns the messages that are in it exactly when its bounds fit, and the windows
of consecutive bounds partition the messages in any case.** -/
theorem window_faithful_iff (a b c : AwareDateTime) (hab : a.instant ≤ b.instant)
    (hbc : b.instant ≤ c.instant) : (Faithful a b ↔ WindowFits a b) ∧ Partitions a b c :=
  ⟨faithful_iff_fits hab, partitions hab hbc⟩

end Windows

/-! ## Half a second -/

/-- Half seconds since the epoch, during the first hour in UTC. -/
def halves (n : Fin 7200) : AwareDateTime where
  microseconds := 500000 * n
  offset := 0
  year := by omega
  zone := by omega

/-- **A message of the tenth second is returned by a window from ten and a half on**, and so is
not left out before it. -/
theorem early_message_returned :
    (halves 21).instant ≤ (halves 40).instant ∧
      messageAt 10 ∈ within (some (halves 21)) (some (halves 40)) [messageAt 10] ∧
      ¬ InWindow (halves 21) (halves 40) (messageAt 10) := by
  have hlow : (halves 21).seconds = 10 := by decide +kernel
  have hhigh : (halves 40).seconds = 20 := by decide +kernel
  refine ⟨by decide, mem_within.mpr ⟨List.mem_singleton_self _, ?_, ?_⟩, ?_⟩
  · rw [hlow]
    decide
  · rw [hhigh]
    decide
  · unfold InWindow
    decide

/-- A window between whole seconds, and one that follows. -/
theorem window_faithful_iff_halves :
    (Faithful (halves 20) (halves 30) ↔ WindowFits (halves 20) (halves 30)) ∧
      Partitions (halves 20) (halves 30) (halves 41) :=
  window_faithful_iff (halves 20) (halves 30) (halves 41) (by decide) (by decide)

end Calld.Voicemails
