import MyLite.Storage.Initialization

/-! What one connection may do to the lifecycle byte, whatever its inner calls
answer: it writes the byte only as the holder of the exclusive lock, and COMMITTED
only right after it has checked the payload header. -/

namespace MyLite.Storage

open Program

/-- What a connection has learned from the answers to its own calls. `published`
says that it has written COMMITTED under the lock it still holds, `spoiled` that
a sync or an unlock has failed after that. -/
structure Knowledge where
  locked : Bool
  sizeChecked : Bool
  headerChecked : Bool
  published : Bool
  spoiled : Bool
  deriving DecidableEq, Repr

namespace Knowledge

def unlocked : Knowledge := ⟨false, false, false, false, false⟩

/-- Nothing is known about the payload any more. -/
def unchecked (known : Knowledge) : Knowledge :=
  { known with sizeChecked := false, headerChecked := false }

/-- A failure while a published state is still locked. -/
def failed (known : Knowledge) : Knowledge :=
  { known with spoiled := known.spoiled || known.published }

end Knowledge

def committedWrite (bytes : List UInt8) (offset : Nat) : Prop :=
  bytes = [LifecycleState.committed.toByte] ∧ offset = fileLifecycleStateOffset

instance (bytes : List UInt8) (offset : Nat) : Decidable (committedWrite bytes offset) := by
  unfold committedWrite
  infer_instance

/-- A write of the lifecycle byte, alone or with its whole preamble, of another
state than COMMITTED. -/
def otherWrite (bytes : List UInt8) (offset : Nat) : Prop :=
  ∃ state, state ≠ LifecycleState.committed ∧ state ≠ LifecycleState.invalid ∧
    (bytes = [state.toByte] ∧ offset = fileLifecycleStateOffset ∨
      bytes = filePreambleInitWithState state ∧ offset = 0)

def lifecycleAdvance (known : Knowledge) : (request : InnerCall) → request.Answer → Knowledge
  | .xFileSize, (rc, size) =>
    { known with
      sizeChecked := rc = .ok ∧ fileSqlitePayloadOffset + fileSqliteMinimumDatabaseSize ≤ size
      headerChecked := false }
  | .xRead amount offset, (rc, bytes) =>
    { known with
      headerChecked := known.sizeChecked ∧ amount = sqliteHeader.length ∧
        offset = fileSqlitePayloadOffset ∧ rc = .ok ∧ bytes = sqliteHeader }
  | .xWrite bytes offset, rc =>
    { known.unchecked with published := known.published ∨ rc = .ok ∧ committedWrite bytes offset }
  | .xSync, rc => if rc = .ok then known.unchecked else known.unchecked.failed
  | .xLock .exclusive, rc =>
    if rc = .ok then { Knowledge.unlocked with locked := true } else known.unchecked
  | .xLock _, _ => known.unchecked
  | .xUnlock, rc => if rc = .ok then .unlocked else known.unchecked.failed
  | .xClose, _ => .unlocked
  | .xOpen _, _ => known.unchecked
  | .xSectorSize, _ => known.unchecked

/-- The owner flag says who holds the initialization lock; a byte is written only
under it. Once COMMITTED is published, another state may follow only a failure. -/
def lifecycleGuard (known : Knowledge) (file : OffsetFile) (request : InnerCall) : Prop :=
  file.initializationOwner = known.locked ∧
    match request with
    | .xWrite bytes offset =>
      known.locked = true ∧
        (committedWrite bytes offset ∧ known.headerChecked = true ∨
          otherWrite bytes offset ∧ (known.published = true → known.spoiled = true))
    | .xLock _ => known.locked = false
    | _ => True

def lifecycleDiscipline : Program.Discipline InnerCall InnerCall.Answer OffsetFile Knowledge where
  guard := lifecycleGuard
  advance := lifecycleAdvance

/-- The flags of a file say what its connection knows about the lock, and only a
holder of the lock has anything published. -/
def Coherent (known : Knowledge) (file : OffsetFile) : Prop :=
  file.initializationOwner = known.locked ∧ file.initializationLockHeld = known.locked ∧
    (known.published = true → known.locked = true)

/-- Whatever was published is either unlocked again or followed by a failure. -/
def Settled (known : Knowledge) : Prop := known.published = true → known.spoiled = true

theorem settled_failed (known : Knowledge) : Settled known.failed := by
  intro published
  simp only [Knowledge.failed] at published ⊢
  simp [published]

/-- What holds of a connection between two programs. -/
def HandleReady (handle : Handle) (known : Knowledge) (file : OffsetFile) : Prop :=
  match handle with
  | .opened =>
    Coherent known file ∧ Settled known ∧ file.shiftsOffsets = true ∧
      (known.locked = true → file.initializationPreambleWritten = true)
  | .closed => file = closedFile ∧ known.locked = false ∧ known.published = false

theorem settled_of_clear {known : Knowledge} (clear : known.published = false) : Settled known := by
  simp [Settled, clear]

section Calls

variable {α : Type} {post : Knowledge → OffsetFile → α → Prop} {known : Knowledge}
  {file : OffsetFile} (owner : file.initializationOwner = known.locked)

include owner

theorem follows_unlock {rest : SqliteStatus → FileProgram α}
    (released : (rest .ok file).Follows lifecycleDiscipline post .unlocked)
    (failed : ∀ rc, rc ≠ .ok →
      (rest rc file).Follows lifecycleDiscipline post known.unchecked.failed) :
    ((InnerFile.xUnlock >>= rest) file).Follows lifecycleDiscipline post known := by
  refine follows_call ⟨owner, trivial⟩ fun rc => ?_
  simp only [lifecycleDiscipline, lifecycleAdvance]
  split
  · next ok =>
    subst ok
    exact released
  · next error => exact failed rc error

theorem follows_sync {rest : SqliteStatus → FileProgram α}
    (synced : (rest .ok file).Follows lifecycleDiscipline post known.unchecked)
    (failed : ∀ rc, rc ≠ .ok →
      (rest rc file).Follows lifecycleDiscipline post known.unchecked.failed) :
    ((InnerFile.xSync >>= rest) file).Follows lifecycleDiscipline post known := by
  refine follows_call ⟨owner, trivial⟩ fun rc => ?_
  simp only [lifecycleDiscipline, lifecycleAdvance]
  split
  · next ok =>
    subst ok
    exact synced
  · next error => exact failed rc error

theorem follows_lock_exclusive {rest : SqliteStatus → FileProgram α} (free : known.locked = false)
    (granted : (rest .ok file).Follows lifecycleDiscipline post
      { Knowledge.unlocked with locked := true })
    (failed : ∀ rc, rc ≠ .ok →
      (rest rc file).Follows lifecycleDiscipline post known.unchecked) :
    ((InnerFile.xLock .exclusive >>= rest) file).Follows lifecycleDiscipline post known := by
  refine follows_call ⟨owner, free⟩ fun rc => ?_
  simp only [lifecycleDiscipline, lifecycleAdvance]
  split
  · next ok =>
    subst ok
    exact granted
  · next error => exact failed rc error

end Calls

theorem acquireInitializationLock_spec :
    Triple lifecycleDiscipline
      (fun known file => Coherent known file ∧ known.locked = false ∧ file.shiftsOffsets = true)
      acquireInitializationLock
      (fun rc known file => Coherent known file ∧ Settled known ∧ file.shiftsOffsets = true ∧
        (rc = .ok → known.locked = true ∧ known.published = false)) := by
  rintro known file ⟨⟨owner, held, published⟩, free, shifts⟩
  have clear : known.published = false := by simpa [free] using published
  refine follows_get (follows_ite (fun locked => ?_) fun _ => ?_)
  · simp [held, free] at locked
  refine follows_call ⟨owner, free⟩ fun rc => ?_
  refine follows_ite (fun failed => ?_) fun _ => ?_
  · exact follows_pure ⟨⟨owner, held, published⟩, settled_of_clear clear, shifts,
      fun ok => absurd ok failed⟩
  refine follows_lock_exclusive owner free ?_ fun rc failed => ?_
  · exact follows_modify (follows_pure
      ⟨⟨rfl, rfl, fun _ => rfl⟩, settled_of_clear rfl, shifts, fun _ => ⟨rfl, rfl⟩⟩)
  · refine (follows_ite (fun _ => ?_) fun granted => absurd failed granted)
    refine follows_unlock owner (follows_pure ?_) fun unlockRc unlockFailed => follows_pure ?_
    · exact ⟨⟨owner.trans free, held.trans free, fun h => by cases h⟩, settled_of_clear rfl, shifts,
        fun ok => absurd ok failed⟩
    · exact ⟨⟨owner, held, published⟩, settled_failed _, shifts, fun ok => by simp_all⟩

theorem releaseInitializationLock_spec (kept : OffsetFile → Prop)
    (stable : ∀ file, kept file →
      kept { file with initializationOwner := false, initializationLockHeld := false }) :
    Triple lifecycleDiscipline
      (fun known file => Coherent known file ∧ kept file)
      releaseInitializationLock
      (fun _ known file => Coherent known file ∧ Settled known ∧ kept file) := by
  rintro known file ⟨⟨owner, held, published⟩, holds⟩
  refine follows_get (follows_ite (fun free => ?_) fun _ => ?_)
  · have clear : known.published = false := by simpa [← held, free] using published
    exact follows_pure ⟨⟨owner, held, published⟩, settled_of_clear clear, holds⟩
  refine follows_unlock owner ?_ fun rc failed => ?_
  · exact follows_modify (follows_pure
      ⟨⟨rfl, rfl, fun h => by cases h⟩, settled_of_clear rfl, stable file holds⟩)
  · exact follows_ite (fun ok => absurd ok failed) fun _ =>
      follows_pure ⟨⟨owner, held, published⟩, settled_failed _, holds⟩

/-- The check changes nothing but what is known about the payload. -/
theorem validateSqlitePayloadHeader_spec (holds : Knowledge → OffsetFile → Prop)
    (owner : ∀ known file, holds known file → file.initializationOwner = known.locked) :
    Triple lifecycleDiscipline
      (fun known file => holds known.unchecked file)
      validateSqlitePayloadHeader
      (fun rc known file => holds known.unchecked file ∧
        (rc = .ok → known.headerChecked = true)) := by
  intro known file start
  have owned := owner _ _ start
  refine follows_call ⟨owned, trivial⟩ fun ⟨rc, size⟩ => ?_
  refine follows_ite (fun failed => ?_) fun sizeOk => ?_
  · exact follows_pure ⟨start, fun ok => absurd ok failed⟩
  refine follows_ite (fun _ => ?_) fun large => ?_
  · exact follows_pure ⟨start, fun ok => by cases ok⟩
  refine follows_call ⟨owned, trivial⟩ fun ⟨rc', bytes⟩ => ?_
  refine follows_ite (fun _ => ?_) fun valid => ?_
  · exact follows_pure ⟨start, fun ok => by cases ok⟩
  · refine follows_pure ⟨start, fun _ => ?_⟩
    simp only [not_or, not_not, Nat.not_lt] at sizeOk large valid
    simp [lifecycleDiscipline, lifecycleAdvance, sizeOk, large, valid]

/-- Between its own calls the owner keeps `Coherent`; a write that has failed
leaves the published state as it was. -/
theorem writeLifecycleState_spec {state : LifecycleState} (named : state ≠ .invalid)
    (shifts : Bool) (written : Prop) :
    Triple lifecycleDiscipline
      (fun known file => Coherent known file ∧ Settled known ∧ file.shiftsOffsets = shifts ∧
        known.locked = true ∧
        (state = .committed →
          known.headerChecked = true ∧ file.initializationPreambleWritten = true) ∧
        (written → file.initializationPreambleWritten = true))
      (writeLifecycleState state)
      (fun rc known file => Coherent known file ∧ (rc ≠ .ok → Settled known) ∧
        file.shiftsOffsets = shifts ∧ (written → file.initializationPreambleWritten = true)) := by
  rintro known file ⟨⟨owner, held, published⟩, settled, shift, locked, committed, preamble⟩
  -- Whatever is written, only a successful write of COMMITTED publishes it.
  have published' : ∀ bytes offset rc,
      (lifecycleAdvance known (.xWrite bytes offset) rc).published = true →
        known.locked = true := fun _ _ _ _ => locked
  have settled' : ∀ bytes offset rc, rc ≠ .ok →
      Settled (lifecycleAdvance known (.xWrite bytes offset) rc) := by
    intro bytes offset rc failed now
    simp only [lifecycleAdvance, failed, false_and, or_false, decide_eq_true_eq] at now
    exact settled now
  refine follows_get (follows_ite (fun single => ?_) fun whole => ?_)
  · have guard : committedWrite [state.toByte] fileLifecycleStateOffset ∧
          known.headerChecked = true ∨
        otherWrite [state.toByte] fileLifecycleStateOffset ∧
          (known.published = true → known.spoiled = true) := by
      by_cases isCommitted : state = .committed
      · exact .inl ⟨⟨by rw [isCommitted], rfl⟩, (committed isCommitted).1⟩
      · exact .inr ⟨⟨state, isCommitted, named, .inl ⟨rfl, rfl⟩⟩, settled⟩
    refine ⟨⟨owner, locked, guard⟩, fun rc => ?_⟩
    exact ⟨⟨owner, held, published' _ _ rc⟩, settled' _ _ rc, shift, preamble⟩
  · have other : state ≠ .committed := fun isCommitted => whole (committed isCommitted).2
    refine follows_call
      ⟨owner, locked, .inr ⟨⟨state, other, named, .inr ⟨rfl, rfl⟩⟩, settled⟩⟩ fun rc => ?_
    refine follows_ite (fun ok => ?_) fun failed => ?_
    · exact follows_modify (follows_pure
        ⟨⟨owner, held, published' _ _ rc⟩, fun failed => absurd ok failed, shift, fun _ => rfl⟩)
    · exact follows_pure
        ⟨⟨owner, held, published' _ _ rc⟩, settled' _ _ rc, shift, preamble⟩

theorem storeLifecycleState_spec {state : LifecycleState} (named : state ≠ .invalid)
    (shifts : Bool) (written : Prop) :
    Triple lifecycleDiscipline
      (fun known file => Coherent known file ∧ Settled known ∧ file.shiftsOffsets = shifts ∧
        known.locked = true ∧
        (state = .committed →
          known.headerChecked = true ∧ file.initializationPreambleWritten = true) ∧
        (written → file.initializationPreambleWritten = true))
      (storeLifecycleState state)
      (fun _ known file => Coherent known file ∧ Settled known ∧ file.shiftsOffsets = shifts ∧
        (written → file.initializationPreambleWritten = true)) := by
  intro known file start
  refine (writeLifecycleState_spec named shifts written).follows start ?_
  rintro rc known file ⟨coherent, settled, shift, preamble⟩
  refine follows_ite (fun failed => ?_) fun _ => ?_
  · exact follows_pure ⟨coherent, settled failed, shift, preamble⟩
  refine follows_sync coherent.1 ?_ fun rc failed => ?_
  · refine follows_ite (fun _ => ?_) fun failed => absurd rfl failed
    refine (releaseInitializationLock_spec
      (fun file => file.shiftsOffsets = shifts ∧
        (written → file.initializationPreambleWritten = true))
      (fun _ kept => kept)).last ⟨coherent, shift, preamble⟩ ?_
    exact fun _ _ _ reached => reached
  · exact follows_ite (fun ok => absurd ok failed) fun _ =>
      follows_pure ⟨coherent, settled_failed _, shift, preamble⟩

theorem transitionInitializationState_spec {state : LifecycleState} (named : state ≠ .invalid)
    (shifts : Bool) (written : Prop) (commits : state = .committed → written) :
    Triple lifecycleDiscipline
      (fun known file => Coherent known file ∧ Settled known ∧ file.shiftsOffsets = shifts ∧
        (written → known.locked = true → file.initializationPreambleWritten = true))
      (transitionInitializationState state)
      (fun _ known file => Coherent known file ∧ Settled known ∧ file.shiftsOffsets = shifts ∧
        (written → known.locked = true → file.initializationPreambleWritten = true)) := by
  rintro known file ⟨coherent, settled, shift, preamble⟩
  refine follows_get (follows_ite (fun _ => ?_) fun owned => ?_)
  · exact follows_pure ⟨coherent, settled, shift, preamble⟩
  have locked : known.locked = true := by
    rw [← coherent.1]
    simpa using owned
  refine follows_ite (fun isCommitted => ?_) fun isOther => ?_
  · have checked := validateSqlitePayloadHeader_spec
      (fun known file => Coherent known file ∧ Settled known ∧ file.shiftsOffsets = shifts ∧
        known.locked = true ∧ file.initializationPreambleWritten = true)
      (fun _ _ holds => holds.1.1)
    refine checked.follows
      ⟨coherent, settled, shift, locked, preamble (commits isCommitted) locked⟩ ?_
    rintro rc known file ⟨⟨coherent, settled, shift, locked, preamble⟩, header⟩
    refine follows_ite (fun _ => ?_) fun ok => ?_
    · exact follows_pure ⟨coherent, settled, shift, fun _ _ => preamble⟩
    · refine (storeLifecycleState_spec named shifts written).last
        ⟨coherent, settled, shift, locked, fun _ => ⟨header (not_not.mp ok), preamble⟩,
          fun _ => preamble⟩ ?_
      exact fun _ _ _ ⟨coherent, settled, shift, preamble⟩ =>
        ⟨coherent, settled, shift, fun isWritten _ => preamble isWritten⟩
  · refine (storeLifecycleState_spec named shifts written).last
      ⟨coherent, settled, shift, locked, fun h => absurd h isOther,
        fun isWritten => preamble isWritten locked⟩ ?_
    exact fun _ _ _ ⟨coherent, settled, shift, preamble⟩ =>
      ⟨coherent, settled, shift, fun isWritten _ => preamble isWritten⟩

theorem offsetClose_spec :
    Triple lifecycleDiscipline
      (fun known file => Coherent known file ∧ Settled known)
      offsetClose
      (fun handle known file => HandleReady handle known file) := by
  rintro known file ⟨coherent, settled⟩
  have closing : ∀ known file, file.initializationOwner = known.locked →
      ((do
        let _ ← InnerFile.xClose
        Program.modify fun _ => closedFile
        return Handle.closed : FileProgram Handle) file).Follows lifecycleDiscipline
          (fun known file handle => HandleReady handle known file) known := by
    intro known file owner
    exact follows_call ⟨owner, trivial⟩ fun rc =>
      follows_modify (follows_pure ⟨rfl, rfl, rfl⟩)
  refine follows_get (follows_ite (fun _ => ?_) fun _ => closing known file coherent.1)
  refine (transitionInitializationState_spec (by decide) file.shiftsOffsets False
    (by decide)).follows ⟨coherent, settled, rfl, fun absurd => absurd.elim⟩ ?_
  rintro rc known file ⟨coherent, _⟩
  exact closing known file coherent.1

/-- A connection that commits or aborts keeps its file open either way. -/
theorem transitionInitialization_spec (commit : Bool) :
    Triple lifecycleDiscipline (HandleReady .opened) (transitionInitialization commit)
      (fun handle known file => HandleReady handle known file) := by
  rintro known file ⟨coherent, settled, shift, preamble⟩
  have named : (if commit then LifecycleState.committed else .recoveryRequired) ≠ .invalid := by
    cases commit <;> decide
  refine (transitionInitializationState_spec named true True (fun _ => trivial)).follows
    ⟨coherent, settled, shift, fun _ => preamble⟩ ?_
  rintro rc known file ⟨coherent, settled, shift, preamble⟩
  exact follows_pure ⟨coherent, settled, shift, preamble trivial⟩

/-- What a prepared file satisfies; a failed preparation is closed afterwards. -/
def Prepared (rc : SqliteStatus) (known : Knowledge) (file : OffsetFile) : Prop :=
  Coherent known file ∧ Settled known ∧ file.shiftsOffsets = true ∧
    (rc = .ok → known.locked = true → file.initializationPreambleWritten = true)

theorem initializeNewMainDatabaseFile_spec :
    Triple lifecycleDiscipline
      (fun known file => Coherent known file ∧ known.locked = false ∧ file.shiftsOffsets = true)
      initializeNewMainDatabaseFile Prepared := by
  rintro known file ⟨coherent, free, shifts⟩
  have clear : known.published = false := by simpa [free] using coherent.2.2
  have ended : ∀ rc, rc ≠ SqliteStatus.ok → Prepared rc known file := fun rc failed =>
    ⟨coherent, settled_of_clear clear, shifts, fun ok => absurd ok failed⟩
  refine follows_call ⟨coherent.1, trivial⟩ fun ⟨rc, size⟩ => ?_
  refine follows_ite (fun failed => follows_pure (ended rc failed)) fun _ => ?_
  refine follows_ite (fun _ => follows_pure (ended _ (by decide))) fun _ => ?_
  refine follows_modify (acquireInitializationLock_spec.follows ⟨coherent, free, shifts⟩ ?_)
  rintro rc known file ⟨coherent, settled, shifts, granted⟩
  refine follows_ite (fun failed => ?_) fun ok => ?_
  · exact follows_pure ⟨coherent, settled, shifts, fun ok => absurd ok failed⟩
  obtain ⟨locked, clear⟩ := granted (not_not.mp ok)
  have other : otherWrite (filePreambleInitWithState .initializing) 0 :=
    ⟨.initializing, by decide, by decide, .inr ⟨rfl, rfl⟩⟩
  refine follows_call ⟨coherent.1, locked, .inr ⟨other, settled⟩⟩ fun rc => ?_
  -- The preamble of a new file says INITIALIZING, so nothing is published by it.
  have clear' : (lifecycleAdvance known (.xWrite (filePreambleInitWithState .initializing) 0)
      rc).published = false := by
    have notCommitted : ¬ committedWrite (filePreambleInitWithState .initializing) 0 := by
      rintro ⟨_, offset⟩
      exact absurd offset (by decide)
    simp [lifecycleAdvance, clear, notCommitted]
  have coherent' : Coherent
      (lifecycleAdvance known (.xWrite (filePreambleInitWithState .initializing) 0) rc) file :=
    ⟨coherent.1, coherent.2.1, fun now => by rw [clear'] at now; cases now⟩
  refine follows_ite (fun failed => ?_) fun _ => ?_
  · exact follows_pure
      ⟨coherent', settled_of_clear clear', shifts, fun ok => absurd ok failed⟩
  refine follows_modify ⟨⟨coherent.1, trivial⟩, fun rc => ?_⟩
  simp only [lifecycleDiscipline, lifecycleAdvance, Tree.Follows]
  split
  · exact ⟨coherent', settled_of_clear clear', shifts, fun _ _ => rfl⟩
  · exact ⟨coherent', settled_failed _, shifts, fun _ _ => rfl⟩

theorem validateExistingMainDatabaseFile_spec :
    Triple lifecycleDiscipline
      (fun known file => Coherent known file ∧ known.locked = false ∧ file.shiftsOffsets = true)
      validateExistingMainDatabaseFile Prepared := by
  rintro known file ⟨coherent, free, shifts⟩
  have clear : known.published = false := by simpa [free] using coherent.2.2
  have ended : ∀ rc, rc ≠ SqliteStatus.ok → Prepared rc known file := fun rc failed =>
    ⟨coherent, settled_of_clear clear, shifts, fun ok => absurd ok failed⟩
  refine follows_call ⟨coherent.1, trivial⟩ fun ⟨rc, size⟩ => ?_
  refine follows_ite (fun failed => follows_pure (ended rc failed)) fun _ => ?_
  refine follows_ite (fun _ => follows_pure (ended _ (by decide))) fun _ => ?_
  refine follows_call ⟨coherent.1, trivial⟩ fun ⟨rc, preamble⟩ => ?_
  refine follows_ite (fun failed => follows_pure (ended rc failed)) fun _ => ?_
  refine follows_ite (fun _ => follows_pure (ended _ (by decide))) fun _ => ?_
  refine follows_modify (follows_get ?_)
  refine follows_ite (fun _ => follows_pure (ended _ (by decide))) fun _ => ?_
  refine follows_ite (fun _ => ?_) fun _ => ?_
  · have checked := validateSqlitePayloadHeader_spec
      (fun known file => Coherent known file ∧ known.locked = false ∧ known.published = false ∧
        file.shiftsOffsets = true)
      (fun _ _ holds => holds.1.1)
    refine checked.last ⟨coherent, free, clear, shifts⟩ ?_
    rintro rc known file ⟨⟨coherent, free, clear, shifts⟩, _⟩
    have unlocked : known.locked = false := free
    exact ⟨coherent, settled_of_clear clear, shifts,
      fun _ locked => absurd locked (by simp [unlocked])⟩
  refine acquireInitializationLock_spec.follows ⟨coherent, free, shifts⟩ ?_
  rintro rc known file ⟨coherent, settled, shifts, granted⟩
  refine follows_ite (fun failed => ?_) fun _ => ?_
  · exact follows_pure ⟨coherent, settled, shifts, fun ok => absurd ok failed⟩
  refine follows_modify (follows_ite (fun _ => ?_) fun _ => ?_)
  · exact follows_pure ⟨coherent, settled, shifts, fun _ _ => rfl⟩
  · have checked := validateSqlitePayloadHeader_spec
      (fun known file => Coherent known file ∧ Settled known ∧ file.shiftsOffsets = true ∧
        file.initializationPreambleWritten = true)
      (fun _ _ holds => holds.1.1)
    refine checked.last ⟨coherent, settled, shifts, rfl⟩ ?_
    rintro rc known file ⟨⟨coherent, settled, shifts, preamble⟩, _⟩
    exact ⟨coherent, settled, shifts, fun _ _ => preamble⟩

theorem prepareMainDatabaseFile_spec (exclusiveCreate : Bool) :
    Triple lifecycleDiscipline
      (fun known file => Coherent known file ∧ known.locked = false ∧ file.shiftsOffsets = true)
      (prepareMainDatabaseFile exclusiveCreate) Prepared := by
  cases exclusiveCreate with
  | true => exact initializeNewMainDatabaseFile_spec
  | false => exact validateExistingMainDatabaseFile_spec

theorem validateSectorAlignment_spec :
    Triple lifecycleDiscipline
      (fun known file => Prepared .ok known file)
      validateSectorAlignment Prepared := by
  rintro known file ⟨coherent, settled, shifts, preamble⟩
  refine follows_call ⟨coherent.1, trivial⟩ fun size => ?_
  refine follows_ite (fun _ => ?_) fun _ => ?_
  · exact follows_pure ⟨coherent, settled, shifts, fun ok => by cases ok⟩
  · exact follows_pure ⟨coherent, settled, shifts, preamble⟩

theorem offsetVfsOpen_spec (exclusiveCreate : Bool) :
    Triple lifecycleDiscipline (HandleReady .closed) (offsetVfsOpen exclusiveCreate)
      (fun handle known file => HandleReady handle known file) := by
  rintro known file ⟨_, free, clear⟩
  have coherent : Coherent known closedFile :=
    ⟨free.symm, free.symm, fun published => by rw [clear] at published; cases published⟩
  refine follows_modify (follows_call ⟨coherent.1, trivial⟩ fun ⟨rc, readonly⟩ => ?_)
  refine follows_ite (fun _ => ?_) fun _ => ?_
  · exact follows_pure ⟨rfl, free, clear⟩
  refine follows_ite (fun _ => ?_) fun _ => ?_
  · exact offsetClose_spec _ _ ⟨coherent, settled_of_clear clear⟩
  refine follows_modify ((prepareMainDatabaseFile_spec exclusiveCreate).follows
    ⟨coherent, free, rfl⟩ ?_)
  rintro rc known file prepared
  have finish : ∀ rc known file, Prepared rc known file →
      ((if rc ≠ .ok then offsetClose else pure Handle.opened : FileProgram Handle) file).Follows
        lifecycleDiscipline (fun known file handle => HandleReady handle known file) known := by
    rintro rc known file ⟨coherent, settled, shifts, preamble⟩
    refine follows_ite (fun _ => ?_) fun ok => ?_
    · exact offsetClose_spec _ _ ⟨coherent, settled⟩
    · exact follows_pure ⟨coherent, settled, shifts, preamble (not_not.mp ok)⟩
  refine follows_ite (fun ok => ?_) fun _ => finish rc known file prepared
  subst ok
  exact validateSectorAlignment_spec.follows prepared finish

end MyLite.Storage
