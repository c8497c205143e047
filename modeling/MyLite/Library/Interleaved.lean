import MyLite.Library.Machine
import Mathlib.Data.List.Nodup

/-! Components that run side by side, each on events of its own. -/

namespace Interleaved

variable {Key State Input Output Value Part : Type} [DecidableEq Key]

/-- An event goes to the component that its key names. -/
def step (component : State → Input → State × Output) (states : Key → State)
    (event : Key × Input) : (Key → State) × (Key × Output) :=
  (Function.update states event.1 (component (states event.1) event.2).1,
    (event.1, (component (states event.1) event.2).2))

/-- What belongs to one component, in order. -/
def ownedBy (key : Key) (entries : List (Key × Value)) : List Value :=
  entries.filterMap fun entry => if entry.1 = key then some entry.2 else none

/-- The entries that have a part, with that part. -/
def parts (part : Value → Option Part) (entries : List (Key × Value)) : List (Key × Part) :=
  entries.filterMap fun entry => (part entry.2).map (Prod.mk entry.1)

theorem ownedBy_cons (key : Key) (entry : Key × Value) (entries : List (Key × Value)) :
    ownedBy key (entry :: entries) =
      if entry.1 = key then entry.2 :: ownedBy key entries else ownedBy key entries := by
  rw [ownedBy, List.filterMap_cons]
  split
  · rename_i absent
    split at absent
    · cases absent
    · rw [if_neg ‹_›]
      rfl
  · rename_i found
    split at found
    · cases found
      rw [if_pos ‹_›]
      rfl
    · cases found

theorem mem_ownedBy {key : Key} {entries : List (Key × Value)} {value : Value} :
    value ∈ ownedBy key entries ↔ (key, value) ∈ entries := by
  induction entries with
  | nil => exact iff_of_false List.not_mem_nil List.not_mem_nil
  | cons entry rest ih =>
    obtain ⟨owner, content⟩ := entry
    rw [ownedBy_cons, List.mem_cons, Prod.mk.injEq]
    split
    · rename_i same
      rw [List.mem_cons, ih]
      simp only at same
      rw [same, eq_self, true_and]
    · rename_i other
      rw [ih]
      constructor
      · exact .inr
      · rintro (⟨same, -⟩ | later)
        · exact absurd same.symm other
        · exact later

/-- A component runs as if it were alone. -/
theorem ownedBy_run (component : State → Input → State × Output) (key : Key)
    (states : Key → State) (events : List (Key × Input)) :
    ownedBy key (Machine.run (step component) states events) =
      Machine.run component (states key) (ownedBy key events) := by
  induction events generalizing states with
  | nil => rfl
  | cons event rest ih =>
    obtain ⟨owner, input⟩ := event
    rw [Machine.run, step, ownedBy_cons, ownedBy_cons, ih]
    by_cases same : owner = key
    · subst same
      rw [if_pos rfl, if_pos rfl, Machine.run]
      dsimp only
      rw [Function.update_self]
    · rw [if_neg same, if_neg same]
      dsimp only
      rw [Function.update_of_ne (Ne.symm same)]

theorem ownedBy_parts (part : Value → Option Part) (key : Key) (entries : List (Key × Value)) :
    ownedBy key (parts part entries) = (ownedBy key entries).filterMap part := by
  induction entries with
  | nil => rfl
  | cons entry rest ih =>
    rw [ownedBy_cons, parts, List.filterMap_cons]
    cases found : part entry.2 with
    | none =>
      rw [Option.map_none]
      refine Eq.trans ih ?_
      split
      · rw [List.filterMap_cons, found]
      · rfl
    | some value =>
      rw [Option.map_some]
      refine (ownedBy_cons key (entry.1, value) (parts part rest)).trans ?_
      rw [ih]
      split
      · rw [List.filterMap_cons, found]
      · rfl

theorem mem_map_snd {entries : List (Key × Value)} {value : Value} :
    value ∈ entries.map Prod.snd ↔ ∃ key, value ∈ ownedBy key entries := by
  rw [List.mem_map]
  constructor
  · rintro ⟨⟨owner, content⟩, member, rfl⟩
    exact ⟨owner, mem_ownedBy.mpr member⟩
  · rintro ⟨key, member⟩
    exact ⟨(key, value), mem_ownedBy.mp member, rfl⟩

theorem mem_ownedBy_cons {key owner : Key} {value content : Value} {entries : List (Key × Value)} :
    value ∈ ownedBy key ((owner, content) :: entries) ↔
      key = owner ∧ value = content ∨ value ∈ ownedBy key entries := by
  rw [mem_ownedBy, mem_ownedBy, List.mem_cons, Prod.mk.injEq]

/-- No value occurs twice when none occurs twice in a component or in two of them. -/
theorem nodup_iff {entries : List (Key × Value)} : (entries.map Prod.snd).Nodup ↔
    (∀ key, (ownedBy key entries).Nodup) ∧
      ∀ first second, first ≠ second →
        (ownedBy first entries).Disjoint (ownedBy second entries) := by
  induction entries with
  | nil =>
    refine iff_of_true List.nodup_nil ⟨fun _ => List.nodup_nil, fun first second _ => ?_⟩
    exact List.disjoint_nil_left _
  | cons entry rest ih =>
    obtain ⟨owner, content⟩ := entry
    rw [List.map_cons, List.nodup_cons, ih, mem_map_snd]
    constructor
    · rintro ⟨fresh, distinct, apart⟩
      have absent := fun key member => fresh ⟨key, member⟩
      constructor
      · intro key
        rw [ownedBy_cons]
        split
        · exact List.nodup_cons.mpr ⟨absent key, distinct key⟩
        · exact distinct key
      · intro first second different value firstMember secondMember
        rcases mem_ownedBy_cons.mp firstMember with ⟨ofFirst, rfl⟩ | firstRest
        · rcases mem_ownedBy_cons.mp secondMember with ⟨ofSecond, -⟩ | secondRest
          · exact different (ofFirst.trans ofSecond.symm)
          · exact absent second secondRest
        · rcases mem_ownedBy_cons.mp secondMember with ⟨ofSecond, rfl⟩ | secondRest
          · exact absent first firstRest
          · exact apart first second different firstRest secondRest
    · rintro ⟨distinct, apart⟩
      refine ⟨?_, fun key => ?_, fun first second different value firstMember secondMember => ?_⟩
      · rintro ⟨key, member⟩
        by_cases same : owner = key
        · have listed := distinct key
          rw [ownedBy_cons, if_pos same] at listed
          exact (List.nodup_cons.mp listed).1 member
        · exact apart owner key same (mem_ownedBy_cons.mpr (.inl ⟨rfl, rfl⟩))
            (mem_ownedBy_cons.mpr (.inr member))
      · have listed := distinct key
        rw [ownedBy_cons] at listed
        split at listed
        · exact (List.nodup_cons.mp listed).2
        · exact listed
      · exact apart first second different (mem_ownedBy_cons.mpr (.inr firstMember))
          (mem_ownedBy_cons.mpr (.inr secondMember))

end Interleaved
