import MyLite.Storage.LifecycleEffects

/-! The invariant of the whole system and what follows from it for every run. -/

namespace MyLite.Storage

open ByteFile (File)
open Program Transition

/-! What one connection knows is kept beside the system, and is true of the disk
while that connection holds the lock. -/

def Knows (known : Knowledge) (disk : Option File) : Prop :=
  (known.sizeChecked = true → ∃ file, disk = some file ∧
    fileSqlitePayloadOffset + fileSqliteMinimumDatabaseSize ≤ file.size) ∧
  (known.headerChecked = true → PayloadHeaderValid disk) ∧
  (known.published = true → known.spoiled = false → Committed disk)

/-- `orderly` says whether the run so far has been orderly. -/
structure Guarded {n : Nat} (orderly : Prop) (system : System n) (known : Fin n → Knowledge) :
    Prop where
  follows : ∀ c, (system.task c).Follows lifecycleDiscipline
    (fun known file handle => HandleReady handle known file) (known c)
  table : ∀ c c', c ≠ c' → system.lock c = .exclusive → system.lock c' = .none
  exclusive : ∀ c, (known c).locked = true → system.lock c = .exclusive
  knows : ∀ c, (known c).locked = true → Knows (known c) system.disk
  unspoiled : orderly → ∀ c, (known c).locked = true → (known c).spoiled = false
  acquired : orderly → Committed system.disk →
    ∀ c, (known c).locked = true → (known c).published = true

theorem Knows.created {known : Knowledge} {disk disk' : Option File}
    (change : disk' = disk ∨ disk = none ∧ disk' = some File.empty)
    (knows : Knows known disk) : Knows known disk' := by
  rcases change with rfl | ⟨rfl, rfl⟩
  · exact knows
  · obtain ⟨size, header, published⟩ := knows
    refine ⟨fun checked => ?_, fun checked => ?_, fun now kept => ?_⟩
    · obtain ⟨_, absent, _⟩ := size checked
      cases absent
    · obtain ⟨_, absent, _⟩ := header checked
      cases absent
    · exact absurd (published now kept) (by decide)

/-- What a call of the lock's holder teaches it is true of the disk afterwards. -/
theorem perform_knows {n : Nat} {disk disk' : Option File} {lock lock' : Fin n → LockLevel}
    {c : Fin n} {outcome : Outcome} {request : InnerCall} {answer : request.Answer}
    {known : Knowledge} {file : OffsetFile} (guard : lifecycleGuard known file request)
    (performed : perform disk lock c request outcome = some (answer, disk', lock'))
    (knows : known.locked = true → Knows known disk)
    (locked : (lifecycleAdvance known request answer).locked = true) :
    Knows (lifecycleAdvance known request answer) disk' := by
  -- Nothing is known about the payload after a call that did not ask for it.
  have unchecked : ∀ {known' : Knowledge} {disk : Option File},
      known'.sizeChecked = false → known'.headerChecked = false →
      (known'.published = true → known'.spoiled = false → Committed disk) → Knows known' disk :=
    fun size header published => ⟨fun h => by simp [size] at h, fun h => by simp [header] at h,
      published⟩
  have failedKnows : known.locked = true → disk' = disk → Knows known.unchecked.failed disk' := by
    rintro locked rfl
    refine unchecked rfl rfl fun published unspoiled => ?_
    simp only [Knowledge.failed, Knowledge.unchecked] at published unspoiled
    simp [published] at unspoiled
  have plainKnows : known.locked = true → (disk' = disk ∨ disk = none ∧ disk' = some File.empty) →
      Knows known.unchecked disk' := by
    intro locked change
    have knows' := (knows locked).created change
    exact unchecked rfl rfl knows'.2.2
  cases request with
  | xOpen => exact plainKnows locked (perform_open performed).2
  | xSectorSize => exact plainKnows locked (.inl (perform_sectorSize performed).1)
  | xClose => cases locked
  | xSync =>
    simp only [lifecycleAdvance] at locked ⊢
    split at locked
    · rw [if_pos ‹_›]
      exact plainKnows locked (.inl (perform_sync performed).1)
    · rw [if_neg ‹_›]
      exact failedKnows locked (perform_sync performed).1
  | xUnlock =>
    simp only [lifecycleAdvance] at locked ⊢
    split at locked
    · cases locked
    · rw [if_neg ‹_›]
      exact failedKnows locked (perform_unlock performed).1
  | xLock level =>
    have free : known.locked = false := guard.2
    cases level with
    | none | shared =>
      rw [show (lifecycleAdvance known (.xLock _) answer).locked = known.locked from rfl,
        free] at locked
      cases locked
    | exclusive =>
      simp only [lifecycleAdvance] at locked ⊢
      split at locked
      · rw [if_pos ‹_›]
        refine unchecked rfl rfl ?_
        intro published
        cases published
      · rw [show known.unchecked.locked = known.locked from rfl, free] at locked
        cases locked
  | xFileSize =>
    obtain ⟨rfl, -, size⟩ := perform_fileSize performed
    refine ⟨?_, ?_, (knows locked).2.2⟩
    · intro checked
      simp only [lifecycleAdvance, decide_eq_true_eq] at checked
      obtain ⟨file, present, value⟩ := size checked.1
      exact ⟨file, present, value ▸ checked.2⟩
    · intro checked
      cases checked
  | xRead amount offset =>
    obtain ⟨rfl, -, bytes⟩ := perform_read performed
    refine ⟨(knows locked).1, fun checked => ?_, (knows locked).2.2⟩
    simp only [lifecycleAdvance, decide_eq_true_eq] at checked
    obtain ⟨sizeChecked, rfl, rfl, ok, header⟩ := checked
    obtain ⟨file, present, large⟩ := (knows locked).1 sizeChecked
    obtain ⟨file', present', value⟩ := bytes ok
    cases present.symm.trans present'
    exact ⟨file, present, large, value ▸ header⟩
  | xWrite bytes offset =>
    refine unchecked rfl rfl fun published unspoiled => ?_
    simp only [lifecycleAdvance, Knowledge.unchecked, decide_eq_true_eq] at published unspoiled
    obtain ⟨held, form⟩ := guard.2
    rcases form with ⟨commits, -⟩ | ⟨other, settled⟩
    · by_cases ok : answer = .ok
      · exact committed_of_commit commits (ok ▸ performed)
      · have before := published.resolve_right fun now => ok now.1
        exact (committed_of_failed_commit commits ok performed).mpr
          ((knows held).2.2 before unspoiled)
    · rcases published with before | ⟨_, commits⟩
      · rw [settled before] at unspoiled
        cases unspoiled
      · exact absurd (committedWrite_written commits) (otherWrite_written other)

/-- What `Orderly` asks of one inner call. -/
theorem orderly_inner {n : Nat} {system : System n} {c : Fin n} {outcome : Outcome}
    {file : OffsetFile} {request : InnerCall} {next : request.Answer → _}
    (task : system.task c = .call file request next) (meets : Orderly system (.inner c outcome)) :
    (request = .xLock .exclusive → outcome = .succeeds → ¬ Committed system.disk) ∧
      (request = .xSync ∨ request = .xUnlock → file.initializationOwner = true →
        Committed system.disk → outcome = .succeeds) := by
  simp only [Orderly, task] at meets
  refine ⟨?_, ?_⟩
  · rintro rfl
    exact meets
  · rintro (rfl | rfl)
    · exact meets
    · exact meets

section Inner

variable {n : Nat} {orderly : Prop} {system : System n} {known : Fin n → Knowledge}
  (guarded : Guarded orderly system known) {c : Fin n} {outcome : Outcome}
  {file : OffsetFile} {request : InnerCall} {next : request.Answer → _}
  (task : system.task c = .call file request next) {answer : request.Answer}
  {disk' : Option File} {lock' : Fin n → LockLevel}
  (performed : perform system.disk system.lock c request outcome = some (answer, disk', lock'))

include guarded task

theorem Guarded.guard : lifecycleGuard (known c) file request := by
  have follows := guarded.follows c
  rw [task] at follows
  exact follows.1

include performed

/-- While another connection holds the lock, a call changes no file that is there. -/
theorem Guarded.unchanged {other : Fin n} (distinct : other ≠ c)
    (locked : (known other).locked = true) :
    disk' = system.disk ∨ system.disk = none ∧ disk' = some File.empty := by
  refine perform_disk ?_ performed
  rintro bytes offset rfl
  have free := guarded.table other c distinct (guarded.exclusive other locked)
  have held := guarded.exclusive c (guarded.guard task).2.1
  rw [free] at held
  cases held

theorem Guarded.advance_exclusive
    (locked : (lifecycleAdvance (known c) request answer).locked = true) :
    lock' c = .exclusive := by
  have held : (known c).locked = true → lock' = system.lock → lock' c = .exclusive := by
    rintro locked rfl
    exact guarded.exclusive c locked
  cases request with
  | xOpen => exact held locked (perform_open performed).1
  | xFileSize => exact held locked (perform_fileSize performed).2.1
  | xRead => exact held locked (perform_read performed).2.1
  | xWrite => exact held locked (perform_write performed).1
  | xSectorSize => exact held locked (perform_sectorSize performed).2
  | xClose => cases locked
  | xSync =>
    refine held ?_ (perform_sync performed).2.1
    simp only [lifecycleAdvance] at locked
    split at locked <;> exact locked
  | xUnlock =>
    simp only [lifecycleAdvance] at locked
    split at locked
    · cases locked
    · next failed => exact held locked ((perform_unlock performed).2.2.1 failed)
  | xLock level =>
    have free : (known c).locked = false := (guarded.guard task).2
    cases level with
    | none | shared =>
      rw [show (lifecycleAdvance (known c) (.xLock _) answer).locked = (known c).locked from rfl,
        free] at locked
      cases locked
    | exclusive =>
      simp only [lifecycleAdvance] at locked
      split at locked
      · next ok =>
        rw [((perform_lockCall performed).2.2 ok).2.2, Function.update_self]
      · rw [show (known c).unchecked.locked = (known c).locked from rfl, free] at locked
        cases locked

variable (meets : orderly → Orderly system (.inner c outcome))

include meets

/-- In an orderly run a call of the lock's holder is never the failure that
follows a published state. -/
theorem Guarded.advance_unspoiled (isOrderly : orderly)
    (locked : (lifecycleAdvance (known c) request answer).locked = true) :
    (lifecycleAdvance (known c) request answer).spoiled = false := by
  have succeeds : (known c).locked = true → request = .xSync ∨ request = .xUnlock →
      (known c).published = true → outcome = .succeeds := by
    intro locked form published
    have owned : file.initializationOwner = true := (guarded.guard task).1.trans locked
    have unspoiled := guarded.unspoiled isOrderly c locked
    exact (orderly_inner task (meets isOrderly)).2 form owned
      ((guarded.knows c locked).2.2 published unspoiled)
  have failed : (known c).locked = true → request = .xSync ∨ request = .xUnlock →
      outcome ≠ .succeeds → (known c).unchecked.failed.spoiled = false := by
    intro locked form error
    have clear : (known c).published = false := by
      by_contra published
      exact error (succeeds locked form (by simpa using published))
    simp [Knowledge.failed, Knowledge.unchecked, clear, guarded.unspoiled isOrderly c locked]
  cases request with
  | xOpen | xFileSize | xRead | xWrite | xSectorSize => exact guarded.unspoiled isOrderly c locked
  | xClose => rfl
  | xSync =>
    simp only [lifecycleAdvance] at locked ⊢
    split at locked
    · rw [if_pos ‹_›]
      exact guarded.unspoiled isOrderly c locked
    · next error =>
      rw [if_neg error]
      exact failed locked (.inl rfl) fun ok => error ((perform_sync performed).2.2 ok)
  | xUnlock =>
    simp only [lifecycleAdvance] at locked ⊢
    split at locked
    · cases locked
    · next error =>
      rw [if_neg error]
      exact failed locked (.inr rfl) fun ok => error ((perform_unlock performed).2.1 ok)
  | xLock level =>
    have free : (known c).locked = false := (guarded.guard task).2
    cases level with
    | none | shared =>
      rw [show (lifecycleAdvance (known c) (.xLock _) answer).locked = (known c).locked from rfl,
        free] at locked
      cases locked
    | exclusive =>
      simp only [lifecycleAdvance] at locked ⊢
      split at locked
      · rw [if_pos ‹_›]
        rfl
      · rw [show (known c).unchecked.locked = (known c).locked from rfl, free] at locked
        cases locked

/-- In an orderly run the holder of the lock of a COMMITTED file has published
that state itself. -/
theorem Guarded.advance_published (isOrderly : orderly) (committed : Committed disk')
    (locked : (lifecycleAdvance (known c) request answer).locked = true) :
    (lifecycleAdvance (known c) request answer).published = true := by
  have kept : (known c).locked = true →
      (disk' = system.disk ∨ system.disk = none ∧ disk' = some File.empty) →
      (known c).published = true := fun locked change =>
    guarded.acquired isOrderly ((Committed.created change).mp committed) c locked
  cases request with
  | xOpen => exact kept locked (perform_open performed).2
  | xFileSize => exact kept locked (.inl (perform_fileSize performed).1)
  | xRead => exact kept locked (.inl (perform_read performed).1)
  | xSectorSize => exact kept locked (.inl (perform_sectorSize performed).1)
  | xClose => cases locked
  | xSync =>
    simp only [lifecycleAdvance] at locked ⊢
    split at locked
    · rw [if_pos ‹_›]
      exact kept locked (.inl (perform_sync performed).1)
    · rw [if_neg ‹_›]
      exact kept locked (.inl (perform_sync performed).1)
  | xUnlock =>
    simp only [lifecycleAdvance] at locked ⊢
    split at locked
    · cases locked
    · rw [if_neg ‹_›]
      exact kept locked (.inl (perform_unlock performed).1)
  | xLock level =>
    have free : (known c).locked = false := (guarded.guard task).2
    cases level with
    | none | shared =>
      rw [show (lifecycleAdvance (known c) (.xLock _) answer).locked = (known c).locked from rfl,
        free] at locked
      cases locked
    | exclusive =>
      simp only [lifecycleAdvance] at locked
      split at locked
      · next ok =>
        obtain ⟨rfl, -, granted⟩ := perform_lockCall performed
        exact absurd committed
          ((orderly_inner task (meets isOrderly)).1 rfl (granted ok).1)
      · rw [show (known c).unchecked.locked = (known c).locked from rfl, free] at locked
        cases locked
  | xWrite bytes offset =>
    obtain ⟨held, form⟩ := (guarded.guard task).2
    simp only [lifecycleAdvance, decide_eq_true_eq]
    rcases form with ⟨commits, -⟩ | ⟨other, settled⟩
    · by_cases ok : answer = .ok
      · exact .inr ⟨ok, commits⟩
      · exact .inl (guarded.acquired isOrderly
          ((committed_of_failed_commit commits ok performed).mp committed) c held)
    · exact .inl (guarded.acquired isOrderly (committed_of_other other performed committed) c held)

theorem Guarded.inner :
    Guarded orderly
      { disk := disk', lock := lock', task := Function.update system.task c (next answer) }
      (Function.update known c (lifecycleAdvance (known c) request answer)) := by
  have follows := guarded.follows c
  rw [task] at follows
  obtain ⟨level, lockEq, granted⟩ := perform_lock performed
  constructor
  · intro other
    by_cases own : other = c
    · subst own
      simp only [Function.update_self]
      exact follows.2 answer
    · simp only [Function.update_of_ne own]
      exact guarded.follows other
  · intro a b distinct holds
    rw [lockEq] at holds ⊢
    exact table_update guarded.table granted a b distinct holds
  · intro other locked
    by_cases own : other = c
    · subst own
      rw [Function.update_self] at locked
      exact guarded.advance_exclusive task performed locked
    · rw [Function.update_of_ne own] at locked
      simp only [lockEq, Function.update_of_ne own]
      exact guarded.exclusive other locked
  · intro other locked
    by_cases own : other = c
    · subst own
      rw [Function.update_self] at locked ⊢
      exact perform_knows (guarded.guard task) performed (guarded.knows other) locked
    · rw [Function.update_of_ne own] at locked ⊢
      exact (guarded.knows other locked).created (guarded.unchanged task performed own locked)
  · intro isOrderly other locked
    by_cases own : other = c
    · subst own
      rw [Function.update_self] at locked ⊢
      exact guarded.advance_unspoiled task performed meets isOrderly locked
    · rw [Function.update_of_ne own] at locked ⊢
      exact guarded.unspoiled isOrderly other locked
  · intro isOrderly committed other locked
    by_cases own : other = c
    · subst own
      rw [Function.update_self] at locked ⊢
      exact guarded.advance_published task performed meets isOrderly committed locked
    · rw [Function.update_of_ne own] at locked ⊢
      have change := guarded.unchanged task performed own locked
      exact guarded.acquired isOrderly ((Committed.created change).mp committed) other locked

end Inner

section Events

variable {n : Nat} {orderly : Prop} {system : System n} {known : Fin n → Knowledge}
  (guarded : Guarded orderly system known)

include guarded

/-- A new program changes only what its connection does next. -/
theorem Guarded.start {c : Fin n} {tree : Tree InnerCall InnerCall.Answer OffsetFile Handle}
    (follows : tree.Follows lifecycleDiscipline
      (fun known file handle => HandleReady handle known file) (known c)) :
    Guarded orderly { system with task := Function.update system.task c tree } known := by
  refine ⟨fun other => ?_, guarded.table, guarded.exclusive, guarded.knows, guarded.unspoiled,
    guarded.acquired⟩
  by_cases own : other = c
  · subst own
    simp only [Function.update_self]
    exact follows
  · simp only [Function.update_of_ne own]
    exact guarded.follows other

theorem Guarded.ready {c : Fin n} {file : OffsetFile} {handle : Handle}
    (task : system.task c = .done file handle) : HandleReady handle (known c) file := by
  have follows := guarded.follows c
  rw [task] at follows
  exact follows

/-- The pager changes the payload under its lock; nothing that was known about the
payload survives that. -/
theorem Guarded.pager {c : Fin n} {file : OffsetFile} {disk : File} {call : FileCall}
    (task : system.task c = .done file .opened) (present : system.disk = some disk)
    (permitted : ¬ (call.changes = true ∧ system.lock c ≠ .exclusive)) :
    Guarded orderly { system with disk := some (offsetCall file disk call).1 }
      (Function.update known c (known c).unchecked) := by
  have ready := guarded.ready task
  have byte : lifecycleByte (some (offsetCall file disk call).1) = lifecycleByte system.disk := by
    rw [present]
    exact offsetCall_preamble (by decide) ready.2.2.1 disk call
  -- Another holder of the lock leaves the pager only calls that change nothing.
  have others : ∀ other, other ≠ c → (known other).locked = true →
      some (offsetCall file disk call).1 = system.disk := by
    intro other distinct locked
    have free := guarded.table other c distinct (guarded.exclusive other locked)
    have unchanged : call.changes = false := by
      by_contra changes
      exact permitted ⟨by simpa using changes, by rw [free]; decide⟩
    rw [present]
    cases call with
    | read | fileSize => rfl
    | write | truncate => cases unchanged
  have committed : Committed (some (offsetCall file disk call).1) ↔ Committed system.disk := by
    rw [Committed, Committed, byte]
  refine ⟨fun other => ?_, guarded.table, fun other locked => ?_, fun other locked => ?_,
    fun isOrderly other locked => ?_, fun isOrderly isCommitted other locked => ?_⟩
  all_goals by_cases own : other = c
  · subst own
    rw [Function.update_self, task]
    exact ready
  · rw [Function.update_of_ne own]
    exact guarded.follows other
  · subst own
    rw [Function.update_self] at locked
    exact guarded.exclusive other locked
  · rw [Function.update_of_ne own] at locked
    exact guarded.exclusive other locked
  · subst own
    rw [Function.update_self] at locked ⊢
    refine ⟨?_, ?_, ?_⟩
    · intro checked
      cases checked
    · intro checked
      cases checked
    · intro published unspoiled
      exact committed.mpr ((guarded.knows other locked).2.2 published unspoiled)
  · rw [Function.update_of_ne own] at locked ⊢
    have same := others other own locked
    simp only [same]
    exact guarded.knows other locked
  · subst own
    rw [Function.update_self] at locked ⊢
    exact guarded.unspoiled isOrderly other locked
  · rw [Function.update_of_ne own] at locked ⊢
    exact guarded.unspoiled isOrderly other locked
  · subst own
    rw [Function.update_self] at locked ⊢
    exact guarded.acquired isOrderly (committed.mp isCommitted) other locked
  · rw [Function.update_of_ne own] at locked ⊢
    exact guarded.acquired isOrderly (committed.mp isCommitted) other locked

theorem Guarded.pagerLock {c : Fin n} {level : LockLevel} (free : (known c).locked = false)
    (granted : grants system.lock c level) :
    Guarded orderly { system with lock := Function.update system.lock c level } known := by
  refine ⟨guarded.follows, fun a b => table_update guarded.table (.inr granted) a b,
    fun other locked => ?_, guarded.knows, guarded.unspoiled, guarded.acquired⟩
  have distinct : other ≠ c := by
    rintro rfl
    rw [free] at locked
    cases locked
  simp only [Function.update_of_ne distinct]
  exact guarded.exclusive other locked

theorem Guarded.die (process : Fin n → Nat) (dead : Nat) :
    Guarded orderly
      { system with
        lock := fun c => if process c = dead then .none else system.lock c
        task := fun c => if process c = dead then .done closedFile .closed else system.task c }
      (fun c => if process c = dead then .unlocked else known c) := by
  refine ⟨fun c => ?_, fun a b distinct holds => ?_, fun c locked => ?_, fun c locked => ?_,
    fun isOrderly c locked => ?_, fun isOrderly committed c locked => ?_⟩
  · by_cases died : process c = dead
    · simp only [if_pos died]
      exact ⟨rfl, rfl, rfl⟩
    · simp only [if_neg died]
      exact guarded.follows c
  · by_cases died : process b = dead
    · exact if_pos died
    · have alive : process a ≠ dead := fun died => by simp [died] at holds
      simp only [if_neg died, if_neg alive] at holds ⊢
      exact guarded.table a b distinct holds
  all_goals by_cases died : process c = dead
  all_goals first
    | simp only [if_pos died] at locked
      cases locked
    | simp only [if_neg died] at locked ⊢
  · exact guarded.exclusive c locked
  · exact guarded.knows c locked
  · exact guarded.unspoiled isOrderly c locked
  · exact guarded.acquired isOrderly committed c locked

end Events

theorem guarded_step {n : Nat} {process : Fin n → Nat} {orderly : Prop} {before after : System n}
    {event : Event n} {known : Fin n → Knowledge} (guarded : Guarded orderly before known)
    (meets : orderly → Orderly before event) (taken : step process before event = some after) :
    ∃ known, Guarded orderly after known := by
  cases event with
  | start c operation =>
    simp only [step] at taken
    split at taken
    · next file exclusiveCreate task =>
      cases taken
      exact ⟨known, guarded.start (offsetVfsOpen_spec exclusiveCreate _ _ (guarded.ready task))⟩
    · next file task =>
      cases taken
      exact ⟨known, guarded.start (transitionInitialization_spec true _ _ (guarded.ready task))⟩
    · next file task =>
      cases taken
      exact ⟨known, guarded.start (transitionInitialization_spec false _ _ (guarded.ready task))⟩
    · next file task =>
      cases taken
      obtain ⟨coherent, settled, _⟩ := guarded.ready task
      exact ⟨known, guarded.start (offsetClose_spec _ _ ⟨coherent, settled⟩)⟩
    · cases taken
  | inner c outcome =>
    simp only [step] at taken
    split at taken
    · cases taken
    · next file request next task =>
      obtain ⟨⟨answer, disk', lock'⟩, performed, result⟩ := Option.map_eq_some_iff.mp taken
      cases result
      exact ⟨_, guarded.inner task performed meets⟩
  | pager c call =>
    simp only [step] at taken
    split at taken
    · next file disk task present =>
      split at taken
      · cases taken
      · next permitted =>
        cases taken
        exact ⟨_, guarded.pager task present permitted⟩
    · cases taken
  | pagerLock c level =>
    simp only [step] at taken
    split at taken
    · next file task =>
      obtain ⟨⟨_, held, _⟩, _⟩ := guarded.ready task
      split at taken
      · cases taken
        exact ⟨known, guarded⟩
      · next free =>
        split at taken
        · next granted =>
          cases taken
          exact ⟨known, guarded.pagerLock (by simpa [held] using free) granted⟩
        · cases taken
    · cases taken
  | pagerUnlock c =>
    simp only [step] at taken
    split at taken
    · next file task =>
      obtain ⟨⟨_, held, _⟩, _⟩ := guarded.ready task
      split at taken
      · cases taken
        exact ⟨known, guarded⟩
      · next free =>
        cases taken
        exact ⟨known, guarded.pagerLock (by simpa [held] using free) trivial⟩
    · cases taken
  | die dead =>
    cases taken
    exact ⟨_, guarded.die process dead⟩

theorem Initial.guarded {n : Nat} {system : System n} (initial : system.Initial)
    (orderly : Prop) : Guarded orderly system fun _ => .unlocked := by
  refine ⟨fun c => ?_, fun c _ _ holds => ?_, nofun, nofun, nofun, nofun⟩
  · rw [(initial c).2]
    exact ⟨rfl, rfl, rfl⟩
  · rw [(initial c).1] at holds
    cases holds

theorem guarded_of_reaches {n : Nat} {process : Fin n → Nat} {start system : System n}
    {allowed : System n → Event n → Prop} (orderly : Prop) (initial : start.Initial)
    (reached : Reaches (step process) allowed start system)
    (meets : orderly → ∀ system event, allowed system event → Orderly system event) :
    ∃ known, Guarded orderly system known := by
  refine Reaches.invariant (fun system => ∃ known, Guarded orderly system known) reached
    ⟨_, Initial.guarded initial orderly⟩ ?_
  rintro before event after ⟨known, guarded⟩ allowed taken
  exact guarded_step guarded (fun isOrderly => meets isOrderly before event allowed) taken

theorem Guarded.owner_locked {n : Nat} {orderly : Prop} {system : System n}
    {known : Fin n → Knowledge} (guarded : Guarded orderly system known) {c : Fin n}
    (owns : system.Owns c) : (known c).locked = true := by
  have follows := guarded.follows c
  unfold System.Owns at owns
  cases task : system.task c with
  | call file request next =>
    rw [task] at follows owns
    exact follows.1.1.symm.trans owns
  | done file handle =>
    rw [task] at follows owns
    cases handle with
    | opened => exact follows.1.1.symm.trans owns
    | closed =>
      obtain ⟨rfl, _⟩ := follows
      cases owns

theorem Guarded.soleOwner {n : Nat} {orderly : Prop} {system : System n}
    {known : Fin n → Knowledge} (guarded : Guarded orderly system known) : system.SoleOwner := by
  intro c c' owns owns'
  by_contra distinct
  have held := guarded.exclusive c' (guarded.owner_locked owns')
  have free := guarded.table c c' distinct (guarded.exclusive c (guarded.owner_locked owns))
  rw [free] at held
  cases held

theorem Guarded.validatedCommit {n : Nat} {orderly : Prop} {system : System n}
    {known : Fin n → Knowledge} (guarded : Guarded orderly system known) :
    system.ValidatedCommit := by
  rintro c bytes offset ⟨file, next, task⟩ commits
  obtain ⟨owner, locked, form⟩ := guarded.guard task
  have checked : (known c).headerChecked = true := by
    rcases form with ⟨_, checked⟩ | ⟨other, _⟩
    · exact checked
    · exact absurd commits (otherWrite_written other)
  refine ⟨?_, guarded.exclusive c locked, (guarded.knows c locked).2.1 checked⟩
  rw [System.Owns, task]
  exact owner.trans locked

/-- Only a connection's own write reaches the byte, and it stores what it is given
or a part of it. -/
theorem Guarded.changedByWrite {n : Nat} {process : Fin n → Nat} {orderly : Prop}
    {before after : System n} {event : Event n} {known : Fin n → Knowledge}
    (guarded : Guarded orderly before known) (taken : step process before event = some after) :
    before.ChangedByWrite event after := by
  cases event with
  | start c operation =>
    simp only [step] at taken
    split at taken <;> cases taken <;> exact .inl rfl
  | inner c outcome =>
    simp only [step] at taken
    split at taken
    · cases taken
    · next file request next task =>
      obtain ⟨⟨answer, disk', lock'⟩, performed, result⟩ := Option.map_eq_some_iff.mp taken
      cases result
      by_cases write : ∃ bytes offset, request = .xWrite bytes offset
      · obtain ⟨bytes, offset, rfl⟩ := write
        exact .inr ⟨c, outcome, bytes, offset, rfl, file, next, task⟩
      · have change := perform_disk (fun bytes offset h => write ⟨bytes, offset, h⟩) performed
        left
        rcases change with same | ⟨absent, created⟩
        · rw [same]
        · rw [absent, created]
          rfl
  | pager c call =>
    simp only [step] at taken
    split at taken
    · next file disk task present =>
      split at taken
      · cases taken
      · cases taken
        left
        rw [present]
        exact offsetCall_preamble (by decide) (guarded.ready task).2.2.1 disk call
    · cases taken
  | pagerLock c level =>
    simp only [step] at taken
    split at taken
    · split at taken
      · cases taken
        exact .inl rfl
      · split at taken <;> cases taken
        exact .inl rfl
    · cases taken
  | pagerUnlock c =>
    simp only [step] at taken
    split at taken
    · split at taken <;> cases taken <;> exact .inl rfl
    · cases taken
  | die dead =>
    cases taken
    exact .inl rfl

theorem Guarded.committed_stays {n : Nat} {process : Fin n → Nat} {orderly : Prop}
    {before after : System n} {event : Event n} {known : Fin n → Knowledge}
    (guarded : Guarded orderly before known) (isOrderly : orderly)
    (taken : step process before event = some after) (committed : Committed before.disk) :
    Committed after.disk := by
  rcases guarded.changedByWrite taken with same | ⟨c, outcome, bytes, offset, rfl, file, next, task⟩
  · rw [Committed, same]
    exact committed
  · obtain ⟨_, locked, form⟩ := guarded.guard task
    simp only [step, task] at taken
    obtain ⟨⟨rc, disk', lock'⟩, performed, result⟩ := Option.map_eq_some_iff.mp taken
    cases result
    rcases form with ⟨commits, _⟩ | ⟨_, settled⟩
    · by_cases ok : rc = .ok
      · exact committed_of_commit commits (ok ▸ performed)
      · exact (committed_of_failed_commit commits ok performed).mpr committed
    · have spoiled := settled (guarded.acquired isOrderly committed c locked)
      rw [guarded.unspoiled isOrderly c locked] at spoiled
      cases spoiled

/-- Every run has at most one owner, and stores COMMITTED only for an owner whose
payload header is valid at that moment. In every orderly run a file that says
COMMITTED goes on saying it. -/
theorem lifecycle_safe {n : Nat} (process : Fin n → Nat) {start : System n}
    (initial : start.Initial) :
    (∀ system, Reaches (step process) (fun _ _ => True) start system →
      system.SoleOwner ∧ system.ValidatedCommit ∧
        ∀ event after, step process system event = some after →
          system.ChangedByWrite event after) ∧
    (∀ system event after, Reaches (step process) Orderly start system →
      step process system event = some after →
        Committed system.disk → Committed after.disk) := by
  constructor
  · intro system reached
    obtain ⟨known, guarded⟩ := guarded_of_reaches False initial reached False.elim
    exact ⟨guarded.soleOwner, guarded.validatedCommit, fun _ _ taken =>
      guarded.changedByWrite taken⟩
  · intro system event after reached taken
    obtain ⟨known, guarded⟩ := guarded_of_reaches True initial reached
      fun _ _ _ meets => meets
    exact guarded.committed_stays trivial taken

/-- A file whose creator died after writing the payload and before the commit. -/
def interruptedFile : File where
  size := fileSqlitePayloadOffset + fileSqliteMinimumDatabaseSize
  byte i :=
    if i < fileReservedOffset then
      (fileMagic ++ setU16 fileFormatVersion ++ [LifecycleState.initializing.toByte]).getD i 0
    else if fileSqlitePayloadOffset ≤ i then sqliteHeader.getD (i - fileSqlitePayloadOffset) 0
    else 0
  zero_past i h := by
    simp only [fileSqlitePayloadOffset, fileSqliteMinimumDatabaseSize] at h
    rw [if_neg (by simp only [fileReservedOffset]; omega),
      if_pos (by simp only [fileSqlitePayloadOffset]; omega), List.getD_eq_default]
    simp only [sqliteHeader, List.length_cons, List.length_nil, fileSqlitePayloadOffset]
    omega

def twoClosed : System 2 where
  disk := some interruptedFile
  lock _ := .none
  task _ := .done closedFile .closed

theorem twoClosed_initial : twoClosed.Initial := fun _ => ⟨rfl, rfl⟩

theorem lifecycle_safe_twoClosed :
    twoClosed.Initial ∧
      ∀ system, Reaches (step Fin.val) (fun _ _ => True) twoClosed system → system.SoleOwner :=
  ⟨twoClosed_initial, fun system reached =>
    ((lifecycle_safe Fin.val twoClosed_initial).1 system reached).1⟩

/-- Both connections read INITIALIZING; the first one locks, commits and unlocks,
then the second one locks, opens as owner and starts to close. -/
def overtakenCommit : List (Event 2) :=
  let calls (c : Fin 2) (count : Nat) : List (Event 2) := List.replicate count (.inner c .succeeds)
  [.start 0 (.openFile false)] ++ calls 0 3 ++ [.start 1 (.openFile false)] ++ calls 1 3 ++
    calls 0 4 ++ [.inner 0 (.reports 4096), .start 0 .commit] ++ calls 0 5 ++
    calls 1 4 ++ [.inner 1 (.reports 4096), .start 1 .close]

/-- The close of the second connection stores RECOVERY_REQUIRED over COMMITTED. -/
theorem stale_opener_overwrites_committed :
    twoClosed.Initial ∧ ∃ system after,
      Reaches (step Fin.val) (fun _ _ => True) twoClosed system ∧
        step Fin.val system (.inner 1 .succeeds) = some after ∧
        Committed system.disk ∧
        lifecycleByte after.disk = LifecycleState.recoveryRequired.toByte := by
  refine ⟨twoClosed_initial, ?_⟩
  have before : (runFrom (step Fin.val) twoClosed overtakenCommit).map
      (fun system => lifecycleByte system.disk) = some 2 := by decide +kernel
  have closing : (runFrom (step Fin.val) twoClosed (overtakenCommit ++ [.inner 1 .succeeds])).map
      (fun system => lifecycleByte system.disk) = some 3 := by decide +kernel
  obtain ⟨system, run, committed⟩ := Option.map_eq_some_iff.mp before
  obtain ⟨after, run', recovery⟩ := Option.map_eq_some_iff.mp closing
  rw [runFrom_append, run, Option.bind_some, runFrom] at run'
  obtain ⟨after', taken, last⟩ := Option.bind_eq_some_iff.mp run'
  cases last
  exact ⟨system, after, Reaches.refl.append run, taken, committed, recovery⟩

end MyLite.Storage
