import MyLite.Library.Progression
import MyLite.Session.UuidGeneration

/-! Which identifiers of a process are distinct. A session counts its `UUID_SHORT()` values
from the second of its own first call, and the times in its `UUID()` values only grow. -/

namespace MyLite.Uuid

open Interleaved (ownedBy parts ownedBy_parts ownedBy_run nodup_iff)
open Progression (values values_succ nodup_values disjoint_values)

/-! `UUID_SHORT()` in one session. -/

section Short

variable {session : Generators}

/-- The parts of two sessions that `UUID_SHORT()` reads are the same. -/
structure SameShort (session other : Generators) : Prop where
  initialized : other.uuidShortStateInitialized = session.uuidShortStateInitialized
  startup : other.uuidShortStartupSeconds = session.uuidShortStartupSeconds
  counter : other.uuidShortCounter = session.uuidShortCounter

theorem nextUuidTimestamp_short (seconds : Int64) (session : Generators) :
    SameShort session (nextUuidTimestamp100ns seconds session).1 := by
  rw [nextUuidTimestamp100ns]
  dsimp only
  generalize (if currentUuidTimestamp100ns seconds ≤ session.uuidLastTimestamp100ns then
    session.uuidLastTimestamp100ns + 1 else currentUuidTimestamp100ns seconds) = timestamp
  exact ⟨rfl, rfl, rfl⟩

theorem uuidGenerate_short (seconds : Int64) (sequence : UInt16) (node : Vector UInt8 6)
    (session : Generators) : SameShort session (uuidGenerate seconds sequence node session).1 := by
  rw [uuidGenerate]
  dsimp only
  split
  · exact nextUuidTimestamp_short seconds session
  · obtain ⟨initialized, startup, counter⟩ := nextUuidTimestamp_short seconds
      (initializeUuidGenerationState sequence node session)
    exact ⟨initialized, startup, counter⟩

/-- A generator that has its start time counts on. -/
theorem short_run (initialized : session.uuidShortStateInitialized = true)
    (moments : List Moment) :
    (Machine.run generate session moments).filterMap Returned.shortValue =
      values (shortBase session.uuidShortStartupSeconds + session.uuidShortCounter)
        (moments.filter fun moment => moment.call = .uuidShort).length := by
  induction moments generalizing session with
  | nil => rfl
  | cons moment rest ih =>
    rw [Machine.run, generate]
    cases called : moment.call with
    | uuid sequence node =>
      obtain ⟨stays, startup, counter⟩ :=
        uuidGenerate_short moment.seconds sequence node session
      dsimp only
      rw [List.filterMap_cons, List.filter_cons, called]
      refine (ih (stays.trans initialized)).trans ?_
      rw [startup, counter]
      rfl
    | uuidShort =>
      dsimp only
      rw [List.filterMap_cons, List.filter_cons, called, if_pos (decide_eq_true rfl),
        List.length_cons, values_succ]
      rw [uuidShortGenerate, if_pos initialized]
      dsimp only [Returned.shortValue]
      rw [ih (by exact initialized), UInt64.add_assoc]

/-- The first call fixes the start time. -/
theorem short_run_opened (unset : session.uuidShortStateInitialized = false)
    (moments : List Moment) :
    (Machine.run generate session moments).filterMap Returned.shortValue =
      values (shortBase (((moments.filter fun moment => moment.call = .uuidShort).head?.map
          fun moment => startupSeconds moment.seconds).getD 0))
        (moments.filter fun moment => moment.call = .uuidShort).length := by
  induction moments generalizing session with
  | nil => rfl
  | cons moment rest ih =>
    rw [Machine.run, generate]
    cases called : moment.call with
    | uuid sequence node =>
      obtain ⟨stays, -⟩ := uuidGenerate_short moment.seconds sequence node session
      dsimp only
      rw [List.filterMap_cons, List.filter_cons, called]
      exact ih (stays.trans unset)
    | uuidShort =>
      dsimp only
      rw [List.filterMap_cons, List.filter_cons, called, if_pos (decide_eq_true rfl),
        List.length_cons, values_succ, List.head?_cons, Option.map_some, Option.getD_some]
      rw [uuidShortGenerate, if_neg (by rw [unset]; decide)]
      dsimp only [Returned.shortValue]
      rw [short_run (by rfl), initializeUuidShortGenerationState]
      dsimp only
      rw [UInt64.add_zero, UInt64.zero_add]

end Short

/-- The values of a session are consecutive, from its start time on. -/
theorem shortValues_ownedBy (session : Nat) (events : List (Nat × Moment)) :
    ownedBy session (shortValues events) =
      values (shortBase ((startOf session events).getD 0)) (shortCalls session events).length := by
  rw [shortValues, ownedBy_parts, reports, ownedBy_run]
  exact short_run_opened rfl _

/-! `UUID()` in one session. -/

section Timestamps

variable {session : Generators}

theorem nextUuidTimestamp_grows (seconds : Int64)
    (room : session.uuidLastTimestamp100ns.toNat < 18446744073709551615) :
    session.uuidLastTimestamp100ns.toNat <
        (nextUuidTimestamp100ns seconds session).1.uuidLastTimestamp100ns.toNat ∧
      ((nextUuidTimestamp100ns seconds session).1.uuidLastTimestamp100ns =
          currentUuidTimestamp100ns seconds ∨
        (nextUuidTimestamp100ns seconds session).1.uuidLastTimestamp100ns.toNat =
          session.uuidLastTimestamp100ns.toNat + 1) ∧
      (nextUuidTimestamp100ns seconds session).2 =
        (nextUuidTimestamp100ns seconds session).1.uuidLastTimestamp100ns := by
  rw [nextUuidTimestamp100ns]
  dsimp only
  split
  · have counted : (session.uuidLastTimestamp100ns + 1).toNat =
        session.uuidLastTimestamp100ns.toNat + 1 := by
      rw [UInt64.toNat_add, UInt64.toNat_one]
      exact Nat.mod_eq_of_lt (by omega)
    exact ⟨by omega, .inr counted, rfl⟩
  · rename_i later
    rw [UInt64.not_le] at later
    exact ⟨UInt64.lt_iff_toNat_lt.mp later, .inl rfl, rfl⟩

theorem textTimestamp_format (timestamp100ns : UInt64) (clockSequence : UInt16)
    (node : Vector UInt8 6) :
    textTimestamp (formatUuidString (populateUuidBytes timestamp100ns clockSequence node)) =
      some (timestamp100ns.toNat % 1152921504606846976) := by
  rw [textTimestamp, parseUuidString_formatUuidString (length_populate _ _ _), Option.map_some,
    encodedTimestamp_populate]

theorem uuidGenerate_grows (seconds : Int64) (sequence : UInt16) (node : Vector UInt8 6)
    (room : session.uuidLastTimestamp100ns.toNat < 18446744073709551615) :
    session.uuidLastTimestamp100ns.toNat <
        (uuidGenerate seconds sequence node session).1.uuidLastTimestamp100ns.toNat ∧
      ((uuidGenerate seconds sequence node session).1.uuidLastTimestamp100ns =
          currentUuidTimestamp100ns seconds ∨
        (uuidGenerate seconds sequence node session).1.uuidLastTimestamp100ns.toNat =
          session.uuidLastTimestamp100ns.toNat + 1) ∧
      textTimestamp (uuidGenerate seconds sequence node session).2 =
        some ((uuidGenerate seconds sequence node session).1.uuidLastTimestamp100ns.toNat %
          1152921504606846976) := by
  rw [uuidGenerate]
  dsimp only
  generalize readied : (if session.uuidStateInitialized = true then session
    else initializeUuidGenerationState sequence node session) = ready
  have same : ready.uuidLastTimestamp100ns = session.uuidLastTimestamp100ns := by
    rw [← readied]
    split
    · rfl
    · rfl
  rw [← same] at room ⊢
  obtain ⟨grows, origin, stamped⟩ := nextUuidTimestamp_grows seconds room
  exact ⟨grows, origin, by rw [textTimestamp_format, stamped]⟩

theorem uuidShortGenerate_last (seconds : Int64) (session : Generators) :
    (uuidShortGenerate seconds session).1.uuidLastTimestamp100ns =
      session.uuidLastTimestamp100ns := by
  rw [uuidShortGenerate]
  dsimp only
  split
  · rfl
  · rfl

/-- While there is room in 60 bits for another tick with every call, times grow. -/
theorem timestamps_run (moments : List Moment)
    (room : session.uuidLastTimestamp100ns.toNat + moments.length < 1152921504606846976)
    (readings : ∀ moment ∈ moments, (currentUuidTimestamp100ns moment.seconds).toNat +
      moments.length ≤ 1152921504606846976) :
    ∃ stamps : List Nat,
      ((Machine.run generate session moments).filterMap Returned.uuidText).map textTimestamp =
        stamps.map some ∧
      stamps.Pairwise (· < ·) ∧
      ∀ stamp ∈ stamps, session.uuidLastTimestamp100ns.toNat < stamp := by
  induction moments generalizing session with
  | nil => exact ⟨[], rfl, .nil, fun _ member => absurd member List.not_mem_nil⟩
  | cons moment rest ih =>
    rw [List.length_cons] at room
    have first := readings moment List.mem_cons_self
    have later : ∀ other ∈ rest, (currentUuidTimestamp100ns other.seconds).toNat +
        rest.length ≤ 1152921504606846976 := by
      intro other member
      have whole := readings other (List.mem_cons_of_mem _ member)
      rw [List.length_cons] at whole
      omega
    rw [List.length_cons] at first
    rw [Machine.run, generate]
    cases called : moment.call with
    | uuid sequence node =>
      have tick : session.uuidLastTimestamp100ns.toNat < 18446744073709551615 := by omega
      obtain ⟨grows, origin, stamped⟩ := uuidGenerate_grows moment.seconds sequence node tick
      dsimp only
      generalize (uuidGenerate moment.seconds sequence node session).2 = text at *
      generalize (uuidGenerate moment.seconds sequence node session).1 = next at *
      have below : next.uuidLastTimestamp100ns.toNat + rest.length < 1152921504606846976 := by
        rcases origin with read | counted
        · rw [read]
          omega
        · omega
      obtain ⟨stamps, texts, increasing, above⟩ := ih below later
      refine ⟨next.uuidLastTimestamp100ns.toNat :: stamps, ?_, ?_, ?_⟩
      · rw [List.filterMap_cons, Returned.uuidText, List.map_cons, List.map_cons, texts, stamped,
          Nat.mod_eq_of_lt (by omega)]
      · exact List.pairwise_cons.mpr ⟨above, increasing⟩
      · intro stamp member
        rcases List.mem_cons.mp member with rfl | old
        · exact grows
        · exact Nat.lt_trans grows (above stamp old)
    | uuidShort =>
      dsimp only
      rw [List.filterMap_cons, Returned.uuidText]
      rw [← uuidShortGenerate_last moment.seconds session] at room ⊢
      exact ih (by omega) later

end Timestamps

/-! The process. -/

/-- The clock never goes back. -/
def ClockForward (events : List (Nat × Moment)) : Prop :=
  (events.map fun event => event.2.seconds).Pairwise (· ≤ ·)

/-- No session makes more than 2^24 calls of `UUID_SHORT()` in a second. -/
def RateLimited (events : List (Nat × Moment)) : Prop :=
  ∀ session seconds, ((shortCalls session events).filter fun moment =>
    moment.seconds = seconds).length ≤ 16777216

theorem shortBase_toNat (start : UInt64) : (shortBase start).toNat =
    (72057594037927936 + start.toNat * 16777216) % 18446744073709551616 := by
  simp only [shortBase, UInt64.toNat_add, UInt64.toNat_shiftLeft, UInt64.toNat_and,
    UInt64.reduceToNat, Nat.reduceMod, Nat.shiftLeft_eq, Nat.reducePow, Nat.reduceMul,
    Nat.reduceAnd, Nat.add_mod_mod]

/-- A second apart is 2^24 values apart. -/
theorem startDistance_eq {first second : UInt64} (ordered : first ≤ second)
    (small : second.toNat < 1099511627776) :
    startDistance first second = (second.toNat - first.toNat) * 16777216 := by
  have low := UInt64.le_iff_toNat_le.mp ordered
  rw [startDistance, UInt64.toNat_sub, shortBase_toNat, shortBase_toNat]
  omega

theorem shortCalls_pos {session : Nat} {events : List (Nat × Moment)} {start : UInt64}
    (started : startOf session events = some start) : 0 < (shortCalls session events).length := by
  rw [startOf] at started
  cases calls : shortCalls session events with
  | nil =>
    rw [calls] at started
    cases started
  | cons moment rest => exact Nat.succ_pos _

theorem startOf_eq_none {session : Nat} {events : List (Nat × Moment)}
    (never : startOf session events = none) : shortCalls session events = [] := by
  rw [startOf] at never
  cases calls : shortCalls session events with
  | nil => rfl
  | cons moment rest =>
    rw [calls] at never
    cases never

theorem shortValues_nodup_iff (events : List (Nat × Moment)) :
    ((shortValues events).map Prod.snd).Nodup ↔
      (∀ session, (shortCalls session events).length ≤ 18446744073709551616) ∧
      ∀ first second firstStart secondStart, first ≠ second →
        startOf first events = some firstStart → startOf second events = some secondStart →
        (shortCalls first events).length ≤ startDistance firstStart secondStart := by
  rw [nodup_iff]
  constructor
  · rintro ⟨distinct, apart⟩
    constructor
    · intro session
      have own := distinct session
      rw [shortValues_ownedBy] at own
      exact nodup_values.mp own
    · intro first second firstStart secondStart different firstStarted secondStarted
      have disjoint := apart first second different
      rw [shortValues_ownedBy, shortValues_ownedBy, firstStarted, secondStarted] at disjoint
      exact ((disjoint_values (shortCalls_pos firstStarted)
        (shortCalls_pos secondStarted)).mp disjoint).1
  · rintro ⟨few, spaced⟩
    constructor
    · intro session
      rw [shortValues_ownedBy]
      exact nodup_values.mpr (few session)
    · intro first second different
      rw [shortValues_ownedBy, shortValues_ownedBy]
      cases firstStarted : startOf first events with
      | none =>
        rw [startOf_eq_none firstStarted]
        exact List.disjoint_nil_left _
      | some firstStart =>
        cases secondStarted : startOf second events with
        | none =>
          rw [startOf_eq_none secondStarted]
          exact List.disjoint_nil_right _
        | some secondStart =>
          exact (disjoint_values (shortCalls_pos firstStarted) (shortCalls_pos secondStarted)).mpr
            ⟨spaced first second firstStart secondStart different firstStarted secondStarted,
              spaced second first secondStart firstStart (Ne.symm different) secondStarted
                firstStarted⟩

/-- In every process: the values of `UUID_SHORT()` are distinct exactly when no session counts up
to where another one starts, and the times in the `UUID()` values of a session grow as long as
the clock and the calls stay within the 60 bits of the format. -/
theorem identifiers_of_process (events : List (Nat × Moment)) :
    (((shortValues events).map Prod.snd).Nodup ↔
      (∀ session, (shortCalls session events).length ≤ 18446744073709551616) ∧
      ∀ first second firstStart secondStart, first ≠ second →
        startOf first events = some firstStart → startOf second events = some secondStart →
        (shortCalls first events).length ≤ startDistance firstStart secondStart) ∧
    (∀ firstStart secondStart : UInt64, firstStart ≤ secondStart →
      secondStart.toNat < 1099511627776 → startDistance firstStart secondStart =
        (secondStart.toNat - firstStart.toNat) * 16777216) ∧
    ∀ session, (ownedBy session events).length < 1152921504606846976 →
      (∀ moment ∈ ownedBy session events, (currentUuidTimestamp100ns moment.seconds).toNat +
        (ownedBy session events).length ≤ 1152921504606846976) →
      ∃ stamps : List Nat, (uuidTexts session events).map textTimestamp = stamps.map some ∧
        stamps.Pairwise (· < ·) := by
  refine ⟨shortValues_nodup_iff events, fun _ _ ordered small => startDistance_eq ordered small,
    fun session few readings => ?_⟩
  rw [uuidTexts, reports, ownedBy_run]
  have room : (Generators.opened.uuidLastTimestamp100ns.toNat +
      (ownedBy session events).length) < 1152921504606846976 := by
    rw [show Generators.opened.uuidLastTimestamp100ns.toNat = 0 from rfl, Nat.zero_add]
    exact few
  obtain ⟨stamps, texts, increasing, -⟩ := timestamps_run (ownedBy session events) room readings
  exact ⟨stamps, texts, increasing⟩

/-- A session that calls `UUID()` twice in a second and again after the clock was set back. -/
def setBack : List (Nat × Moment) :=
  [(0, ⟨1700000000, .uuid 7 (Vector.replicate 6 0)⟩),
    (0, ⟨1700000000, .uuid 7 (Vector.replicate 6 0)⟩),
    (0, ⟨1600000000, .uuid 7 (Vector.replicate 6 0)⟩)]

theorem identifiers_of_process_setBack : ∃ stamps : List Nat,
    (uuidTexts 0 setBack).map textTimestamp = stamps.map some ∧ stamps.Pairwise (· < ·) :=
  (identifiers_of_process setBack).2.2 0 (by decide) (by decide +kernel)

/-- Two sessions that call `UUID_SHORT()` once in the same second. -/
def sameSecond : List (Nat × Moment) :=
  [(0, ⟨1700000000, .uuidShort⟩), (1, ⟨1700000000, .uuidShort⟩)]

/-- A session that calls `UUID()` in the last second that 60 bits hold and in the next one. -/
def lastSecond : List (Nat × Moment) :=
  [(0, ⟨103072857660, .uuid 0 (Vector.replicate 6 0)⟩),
    (0, ⟨103072857661, .uuid 0 (Vector.replicate 6 0)⟩)]

theorem shortValues_sameSecond : ClockForward sameSecond ∧ RateLimited sameSecond ∧
    ¬ ((shortValues sameSecond).map Prod.snd).Nodup ∧
    (uuidTexts 0 lastSecond).map textTimestamp = [some 1152921504600000000, some 3153024] := by
  refine ⟨?_, ?_, ?_, ?_⟩
  · rw [ClockForward]
    decide
  · intro session seconds
    refine Nat.le_trans (List.length_filter_le _ _) (Nat.le_trans (List.length_filter_le _ _) ?_)
    refine Nat.le_trans (List.length_filterMap_le _ _) ?_
    decide
  · decide +kernel
  · decide +kernel

end MyLite.Uuid
