import MyLite.Storage.Lifecycle

/-! What each inner call can do to the disk, to the locks and to the stored
lifecycle byte. -/

namespace MyLite.Storage

open ByteFile (File)

theorem write_lifecycleByte (file : File) (bytes : List UInt8) (offset : Nat) :
    (file.write bytes offset).byte fileLifecycleStateOffset =
      (writtenLifecycleByte bytes offset).getD (file.byte fileLifecycleStateOffset) := by
  simp only [File.write, writtenLifecycleByte]
  by_cases reaches : offset ≤ fileLifecycleStateOffset
  · by_cases inside : fileLifecycleStateOffset - offset < bytes.length
    · rw [if_pos (by omega), if_pos reaches, List.getElem?_eq_getElem inside, Option.getD_some,
        List.getD_eq_getElem _ _ inside]
    · rw [if_neg (by omega), if_pos reaches, List.getElem?_eq_none (by omega), Option.getD_none]
  · rw [if_neg (by omega), if_neg reaches, Option.getD_none]

theorem writtenLifecycleByte_take (bytes : List UInt8) (offset m : Nat) :
    writtenLifecycleByte (bytes.take m) offset = writtenLifecycleByte bytes offset ∨
      writtenLifecycleByte (bytes.take m) offset = none := by
  simp only [writtenLifecycleByte]
  by_cases reaches : offset ≤ fileLifecycleStateOffset
  · simp only [if_pos reaches, List.getElem?_take]
    by_cases kept : fileLifecycleStateOffset - offset < m
    · exact .inl (if_pos kept)
    · exact .inr (if_neg kept)
  · exact .inr (if_neg reaches)

theorem committedWrite_written {bytes : List UInt8} {offset : Nat}
    (write : committedWrite bytes offset) :
    writtenLifecycleByte bytes offset = some LifecycleState.committed.toByte := by
  obtain ⟨rfl, rfl⟩ := write
  rfl

theorem otherWrite_written {bytes : List UInt8} {offset : Nat} (write : otherWrite bytes offset) :
    writtenLifecycleByte bytes offset ≠ some LifecycleState.committed.toByte := by
  obtain ⟨state, other, _, form⟩ := write
  have written : writtenLifecycleByte bytes offset = some state.toByte := by
    rcases form with ⟨rfl, rfl⟩ | ⟨rfl, rfl⟩ <;> rfl
  rw [written]
  cases state <;> first | exact absurd rfl other | decide

section Perform

variable {n : Nat} {disk disk' : Option File} {lock lock' : Fin n → LockLevel} {c : Fin n}
  {outcome : Outcome}

theorem perform_write {bytes : List UInt8} {offset : Nat} {rc : SqliteStatus}
    (performed : perform disk lock c (.xWrite bytes offset) outcome = some (rc, disk', lock')) :
    lock' = lock ∧ ∃ file m, disk = some file ∧
      disk' = some (file.write (bytes.take m) offset) ∧
      (rc = .ok → m = bytes.length) ∧ (rc ≠ .ok → m < bytes.length) := by
  cases outcome with
  | succeeds =>
    obtain ⟨file, present, result⟩ := Option.map_eq_some_iff.mp performed
    cases result
    exact ⟨rfl, file, bytes.length, present, by rw [List.take_length], fun _ => rfl,
      fun failed => absurd rfl failed⟩
  | fails status written =>
    obtain ⟨torn, performed⟩ := Option.ite_none_left_eq_some.mp performed
    obtain ⟨file, present, result⟩ := Option.map_eq_some_iff.mp performed
    cases result
    refine ⟨rfl, file, written, present, rfl, fun ok => absurd (.inl ok) torn, fun _ => ?_⟩
    omega
  | opensReadonly => cases performed
  | reports => cases performed

theorem perform_write_byte {bytes : List UInt8} {offset : Nat} {rc : SqliteStatus}
    (performed : perform disk lock c (.xWrite bytes offset) outcome = some (rc, disk', lock')) :
    ∃ m, lifecycleByte disk' =
        (writtenLifecycleByte (bytes.take m) offset).getD (lifecycleByte disk) ∧
      (rc = .ok → m = bytes.length) ∧ (rc ≠ .ok → m < bytes.length) := by
  obtain ⟨-, file, m, rfl, rfl, whole, torn⟩ := perform_write performed
  exact ⟨m, write_lifecycleByte file _ offset, whole, torn⟩

theorem committed_of_commit {bytes : List UInt8} {offset : Nat}
    (commits : committedWrite bytes offset)
    (performed : perform disk lock c (.xWrite bytes offset) outcome = some (.ok, disk', lock')) :
    Committed disk' := by
  obtain ⟨m, byte, whole, -⟩ := perform_write_byte performed
  rw [Committed, byte, whole rfl, List.take_length, committedWrite_written commits]
  rfl

theorem committed_of_failed_commit {bytes : List UInt8} {offset : Nat} {rc : SqliteStatus}
    (commits : committedWrite bytes offset) (failed : rc ≠ .ok)
    (performed : perform disk lock c (.xWrite bytes offset) outcome = some (rc, disk', lock')) :
    Committed disk' ↔ Committed disk := by
  obtain ⟨m, byte, -, torn⟩ := perform_write_byte performed
  obtain ⟨rfl, rfl⟩ := commits
  have none : m = 0 := by simpa using torn failed
  subst none
  rw [Committed, Committed, byte]
  rfl

/-- A write of another state never makes a file say COMMITTED. -/
theorem committed_of_other {bytes : List UInt8} {offset : Nat} {rc : SqliteStatus}
    (other : otherWrite bytes offset)
    (performed : perform disk lock c (.xWrite bytes offset) outcome = some (rc, disk', lock'))
    (committed : Committed disk') : Committed disk := by
  obtain ⟨m, byte, -⟩ := perform_write_byte performed
  rw [Committed, byte] at committed
  rcases writtenLifecycleByte_take bytes offset m with same | none
  · cases written : writtenLifecycleByte bytes offset with
    | none => simpa only [Committed, same, written, Option.getD_none] using committed
    | some value =>
      rw [same, written, Option.getD_some] at committed
      exact absurd (written.trans (congrArg some committed)) (otherWrite_written other)
  · simpa only [Committed, none, Option.getD_none] using committed

theorem perform_fileSize {answer : SqliteStatus × Nat}
    (performed : perform disk lock c .xFileSize outcome = some (answer, disk', lock')) :
    disk' = disk ∧ lock' = lock ∧
      (answer.1 = .ok → ∃ file, disk = some file ∧ answer.2 = file.size) := by
  cases outcome with
  | succeeds =>
    obtain ⟨file, present, result⟩ := Option.map_eq_some_iff.mp performed
    cases result
    exact ⟨rfl, rfl, fun _ => ⟨file, present, rfl⟩⟩
  | fails status written =>
    obtain ⟨error, result⟩ := Option.ite_none_left_eq_some.mp performed
    cases result
    exact ⟨rfl, rfl, fun ok => absurd ok error⟩
  | opensReadonly | reports => cases performed

theorem perform_read {amount offset : Nat} {answer : SqliteStatus × List UInt8}
    (performed : perform disk lock c (.xRead amount offset) outcome = some (answer, disk', lock')) :
    disk' = disk ∧ lock' = lock ∧
      (answer.1 = .ok → ∃ file, disk = some file ∧ answer.2 = file.slice offset amount) := by
  cases outcome with
  | succeeds =>
    obtain ⟨file, present, result⟩ := Option.map_eq_some_iff.mp performed
    cases result
    exact ⟨rfl, rfl, fun _ => ⟨file, present, rfl⟩⟩
  | fails status written =>
    obtain ⟨error, result⟩ := Option.ite_none_left_eq_some.mp performed
    cases result
    exact ⟨rfl, rfl, fun ok => absurd ok error⟩
  | opensReadonly | reports => cases performed

theorem perform_sync {rc : SqliteStatus}
    (performed : perform disk lock c .xSync outcome = some (rc, disk', lock')) :
    disk' = disk ∧ lock' = lock ∧ (outcome = .succeeds → rc = .ok) := by
  cases outcome with
  | succeeds =>
    cases performed
    exact ⟨rfl, rfl, fun _ => rfl⟩
  | fails status written =>
    obtain ⟨_, result⟩ := Option.ite_none_left_eq_some.mp performed
    cases result
    exact ⟨rfl, rfl, nofun⟩
  | opensReadonly | reports => cases performed

theorem perform_unlock {rc : SqliteStatus}
    (performed : perform disk lock c .xUnlock outcome = some (rc, disk', lock')) :
    disk' = disk ∧ (outcome = .succeeds → rc = .ok) ∧ (rc ≠ .ok → lock' = lock) ∧
      (rc = .ok → lock' = Function.update lock c .none) := by
  cases outcome with
  | succeeds =>
    cases performed
    exact ⟨rfl, fun _ => rfl, fun failed => absurd rfl failed, fun _ => rfl⟩
  | fails status written =>
    obtain ⟨error, result⟩ := Option.ite_none_left_eq_some.mp performed
    cases result
    exact ⟨rfl, nofun, fun _ => rfl, fun ok => absurd ok error⟩
  | opensReadonly | reports => cases performed

theorem perform_lockCall {level : LockLevel} {rc : SqliteStatus}
    (performed : perform disk lock c (.xLock level) outcome = some (rc, disk', lock')) :
    disk' = disk ∧ (rc ≠ .ok → lock' = lock) ∧
      (rc = .ok → outcome = .succeeds ∧ grants lock c level ∧
        lock' = Function.update lock c level) := by
  cases outcome with
  | succeeds =>
    obtain ⟨granted, result⟩ := Option.ite_none_right_eq_some.mp performed
    cases result
    exact ⟨rfl, fun failed => absurd rfl failed, fun _ => ⟨rfl, granted, rfl⟩⟩
  | fails status written =>
    obtain ⟨error, result⟩ := Option.ite_none_left_eq_some.mp performed
    cases result
    exact ⟨rfl, fun _ => rfl, fun ok => absurd ok error⟩
  | opensReadonly | reports => cases performed

theorem perform_open {exclusiveCreate : Bool} {answer : SqliteStatus × Bool}
    (performed : perform disk lock c (.xOpen exclusiveCreate) outcome =
      some (answer, disk', lock')) :
    lock' = lock ∧ (disk' = disk ∨ disk = none ∧ disk' = some File.empty) := by
  cases outcome with
  | succeeds | opensReadonly =>
    cases exclusiveCreate with
    | true =>
      obtain ⟨absent, result⟩ := Option.ite_none_right_eq_some.mp performed
      cases result
      exact ⟨rfl, .inr ⟨Option.isNone_iff_eq_none.mp absent, rfl⟩⟩
    | false =>
      obtain ⟨_, result⟩ := Option.ite_none_right_eq_some.mp performed
      cases result
      exact ⟨rfl, .inl rfl⟩
  | fails status written =>
    cases exclusiveCreate with
    | true | false =>
      obtain ⟨_, result⟩ := Option.ite_none_left_eq_some.mp performed
      cases result
      exact ⟨rfl, .inl rfl⟩
  | reports => cases exclusiveCreate <;> cases performed

theorem perform_close {rc : SqliteStatus}
    (performed : perform disk lock c .xClose outcome = some (rc, disk', lock')) :
    disk' = disk ∧ lock' = Function.update lock c .none := by
  cases outcome with
  | succeeds | fails =>
    cases performed
    exact ⟨rfl, rfl⟩
  | opensReadonly | reports => cases performed

theorem perform_sectorSize {size : Int}
    (performed : perform disk lock c .xSectorSize outcome = some (size, disk', lock')) :
    disk' = disk ∧ lock' = lock := by
  cases outcome with
  | reports =>
    cases performed
    exact ⟨rfl, rfl⟩
  | succeeds | fails | opensReadonly => cases performed

/-- Only a write changes a file that is there. -/
theorem perform_disk {request : InnerCall} {answer : request.Answer}
    (notWrite : ∀ bytes offset, request ≠ .xWrite bytes offset)
    (performed : perform disk lock c request outcome = some (answer, disk', lock')) :
    disk' = disk ∨ disk = none ∧ disk' = some File.empty := by
  cases request with
  | xWrite bytes offset => exact absurd rfl (notWrite bytes offset)
  | xOpen => exact (perform_open performed).2
  | xFileSize => exact .inl (perform_fileSize performed).1
  | xRead => exact .inl (perform_read performed).1
  | xSync => exact .inl (perform_sync performed).1
  | xLock => exact .inl (perform_lockCall performed).1
  | xUnlock => exact .inl (perform_unlock performed).1
  | xSectorSize => exact .inl (perform_sectorSize performed).1
  | xClose => exact .inl (perform_close performed).1

/-- A call touches no lock but the caller's, and takes one only where it is granted. -/
theorem perform_lock {request : InnerCall} {answer : request.Answer}
    (performed : perform disk lock c request outcome = some (answer, disk', lock')) :
    ∃ level, lock' = Function.update lock c level ∧ (level = lock c ∨ grants lock c level) := by
  have same : lock = Function.update lock c (lock c) := (Function.update_eq_self c lock).symm
  cases request with
  | xWrite => exact ⟨_, (perform_write performed).1.trans same, .inl rfl⟩
  | xOpen => exact ⟨_, (perform_open performed).1.trans same, .inl rfl⟩
  | xFileSize => exact ⟨_, (perform_fileSize performed).2.1.trans same, .inl rfl⟩
  | xRead => exact ⟨_, (perform_read performed).2.1.trans same, .inl rfl⟩
  | xSync => exact ⟨_, (perform_sync performed).2.1.trans same, .inl rfl⟩
  | xSectorSize => exact ⟨_, (perform_sectorSize performed).2.trans same, .inl rfl⟩
  | xClose => exact ⟨_, (perform_close performed).2, .inr trivial⟩
  | xUnlock =>
    obtain ⟨_, _, failed, released⟩ := perform_unlock performed
    by_cases ok : answer = .ok
    · exact ⟨_, released ok, .inr trivial⟩
    · exact ⟨_, (failed ok).trans same, .inl rfl⟩
  | xLock level =>
    obtain ⟨_, failed, granted⟩ := perform_lockCall performed
    by_cases ok : answer = .ok
    · exact ⟨level, (granted ok).2.2, .inr (granted ok).2.1⟩
    · exact ⟨_, (failed ok).trans same, .inl rfl⟩

end Perform

theorem Committed.created {disk disk' : Option File}
    (change : disk' = disk ∨ disk = none ∧ disk' = some File.empty) :
    Committed disk' ↔ Committed disk := by
  rcases change with rfl | ⟨rfl, rfl⟩
  · exact Iff.rfl
  · exact iff_of_false (by decide) (by decide)

/-- Granting a lock keeps an EXCLUSIVE one alone. -/
theorem table_update {n : Nat} {lock : Fin n → LockLevel} {c : Fin n} {level : LockLevel}
    (table : ∀ c c', c ≠ c' → lock c = .exclusive → lock c' = .none)
    (granted : level = lock c ∨ grants lock c level) (a b : Fin n) (distinct : a ≠ b)
    (holds : Function.update lock c level a = .exclusive) :
    Function.update lock c level b = .none := by
  rcases granted with rfl | granted
  · rw [Function.update_eq_self] at holds ⊢
    exact table a b distinct holds
  by_cases own : a = c
  · subst own
    rw [Function.update_self] at holds
    subst holds
    rw [Function.update_of_ne distinct.symm]
    exact granted b distinct.symm
  · rw [Function.update_of_ne own] at holds
    by_cases own' : b = c
    · subst own'
      rw [Function.update_self]
      -- Beside another EXCLUSIVE lock neither SHARED nor EXCLUSIVE is granted.
      cases level with
      | none => rfl
      | shared => exact absurd holds (granted a own)
      | exclusive =>
        have free := granted a own
        rw [holds] at free
        cases free
    · rw [Function.update_of_ne own']
      exact table a b distinct holds

end MyLite.Storage
