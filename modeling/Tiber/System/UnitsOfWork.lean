import Tiber.Infrastructure.UnitOfWork

/-! Units of work nest like nested transactions: the session behind one instance ends with what the
program's blocks committed, and the instance idle.
-/

set_option autoImplicit false

namespace Tiber

open Library

variable {W : Type}

namespace Transaction

@[simp] theorem flush_nil (transaction : Transaction W) : transaction.flush [] = transaction := by
  obtain ⟨begun, savepoints⟩ := transaction
  cases savepoints <;> simp [flush]

@[simp] theorem flush_flush (transaction : Transaction W) (first second : List W) :
    (transaction.flush first).flush second = transaction.flush (first ++ second) := by
  obtain ⟨begun, savepoints⟩ := transaction
  cases savepoints <;> simp [flush]

@[simp] theorem flushed_flush (transaction : Transaction W) (entries : List W) :
    (transaction.flush entries).flushed = transaction.flushed ++ entries := by
  obtain ⟨begun, savepoints⟩ := transaction
  cases savepoints <;> simp [flush, flushed]

@[simp] theorem flush_handles (transaction : Transaction W) (entries : List W) :
    (transaction.flush entries).savepoints.map Savepoint.id = transaction.savepoints.map Savepoint.id := by
  obtain ⟨begun, savepoints⟩ := transaction
  cases savepoints <;> simp [flush]

theorem flush_length (transaction : Transaction W) (entries : List W) :
    (transaction.flush entries).savepoints.length = transaction.savepoints.length := by
  obtain ⟨begun, savepoints⟩ := transaction
  cases savepoints <;> simp [flush]

def marked (transaction : Transaction W) (id : Nat) : Transaction W :=
  { transaction with savepoints := ⟨id, []⟩ :: transaction.savepoints }

@[simp] theorem flushed_marked (transaction : Transaction W) (id : Nat) :
    (transaction.marked id).flushed = transaction.flushed := by
  simp [marked, flushed]

theorem rollbackTo_marked (transaction : Transaction W) (id : Nat) (entries : List W) :
    ((transaction.marked id).flush entries).rollbackTo id = some transaction := by
  simp [marked, flush, rollbackTo]

theorem release_marked (transaction : Transaction W) (id : Nat) (entries : List W) :
    ((transaction.marked id).flush entries).release id = some (transaction.flush entries) := by
  simp [marked, flush, release]

end Transaction

namespace SqlAlchemyUnitOfWork

variable {uow entered inner after : SqlAlchemyUnitOfWork W} {entries : List W} {id : Nat}
  {refusal : Option PyError}

/-- Inside a block the depth, the handles and the session's savepoints are in step. -/
structure InBlock (uow : SqlAlchemyUnitOfWork W) : Prop where
  flushed : uow.session.pending = []
  depth : uow.depth = uow.session.current.savepoints.length + 1
  handles : uow.savepoints = uow.session.current.savepoints.map Savepoint.id

/-- The block `uow` is in has gained `entries`, and nothing else has changed. -/
structure Gained (uow after : SqlAlchemyUnitOfWork W) (entries : List W) : Prop where
  database : after.session.database = uow.session.database
  current : after.session.current = uow.session.current.flush entries
  flushed : after.session.pending = []
  depth : after.depth = uow.depth
  handles : after.savepoints = uow.savepoints

/-- `entered` is `uow` with one more savepoint, whose handle is on top. -/
structure Nested (uow entered : SqlAlchemyUnitOfWork W) (id : Nat) : Prop where
  database : entered.session.database = uow.session.database
  current : entered.session.current = uow.session.current.marked id
  flushed : entered.session.pending = []
  depth : entered.depth = uow.depth + 1
  handles : entered.savepoints = id :: uow.savepoints

theorem Gained.refl (inside : uow.InBlock) : Gained uow uow [] :=
  ⟨rfl, by simp, inside.flushed, rfl, rfl⟩

theorem Gained.trans {first second : List W} (gained : Gained uow inner first) (more : Gained inner after second) :
    Gained uow after (first ++ second) where
  database := more.database.trans gained.database
  current := by rw [more.current, gained.current, Transaction.flush_flush]
  flushed := more.flushed
  depth := more.depth.trans gained.depth
  handles := more.handles.trans gained.handles

theorem Gained.inBlock (gained : Gained uow after entries) (inside : uow.InBlock) : after.InBlock where
  flushed := gained.flushed
  depth := by rw [gained.depth, gained.current, Transaction.flush_length, inside.depth]
  handles := by rw [gained.handles, gained.current, Transaction.flush_handles, inside.handles]

theorem Gained.seen (gained : Gained uow after entries) :
    after.session.seen = uow.session.seen ++ entries := by
  simp [Session.seen, gained.database, gained.current]

theorem Nested.inBlock (nested : Nested uow entered id) (inside : uow.InBlock) : entered.InBlock where
  flushed := nested.flushed
  depth := by rw [nested.depth, nested.current, inside.depth]; rfl
  handles := by rw [nested.handles, nested.current, inside.handles]; rfl

theorem Nested.seen (nested : Nested uow entered id) : entered.session.seen = uow.session.seen := by
  simp [Session.seen, nested.database, nested.current]

theorem save_gained (entry : W) (inside : uow.InBlock) :
    Gained uow { uow with session := (uow.session.add entry).flush } [entry] := by
  have flushed := inside.flushed
  constructor <;> simp [Session.add, Session.flush, Session.current, flushed]

theorem execute_gained (inside : uow.InBlock) : Gained uow { uow with session := uow.session.execute } [] := by
  constructor <;> simp [Session.execute, Session.current, inside.flushed]

theorem aenter_inner (inside : uow.InBlock) : ∃ entered id, uow.aenter = .ok entered ∧ Nested uow entered id := by
  have deep : uow.depth ≠ 0 := by rw [inside.depth]; omega
  refine ⟨_, uow.session.beginNested.1, by rw [aenter, if_neg deep]; rfl, ?_⟩
  constructor <;> simp [Session.beginNested, Session.flush, Session.current, Transaction.marked, inside.flushed]

/-- Leaving a nested block pops its own handle: the savepoint is undone or becomes part of what is around it. -/
theorem aexit_inner (refusal : Option PyError) (inside : uow.InBlock) (nested : Nested uow entered id) (gained : Gained entered inner entries)
    (failed : Bool) : ∃ after, inner.aexit failed refusal = (none, after) ∧
      Gained uow after (if failed then [] else entries) := by
  have level : inner.depth = uow.depth + 1 := gained.depth.trans nested.depth
  have deep : 0 < uow.depth := by rw [inside.depth]; omega
  have top : inner.savepoints = id :: uow.savepoints := gained.handles.trans nested.handles
  have current : inner.session.current = (uow.session.current.marked id).flush entries := by
    rw [gained.current, nested.current]
  have database : inner.session.database = uow.session.database := gained.database.trans nested.database
  have clean : inner.session.flush = inner.session := by simp [Session.flush, gained.flushed]
  -- the handle popped is the savepoint's on top: `rollbackTo_marked` and `release_marked` find it at once
  cases failed with
  | true =>
      refine ⟨{ inner with
        depth := uow.depth, savepoints := uow.savepoints
        session := { inner.session with transaction := some uow.session.current, pending := [] } }, ?_, ?_⟩
      · simp [aexit, exitNested, level, deep, top, Session.rollbackSavepoint, current,
          Transaction.rollbackTo_marked, pure, Except.pure]
      · exact ⟨database, (Transaction.flush_nil _).symm, rfl, rfl, rfl⟩
  | false =>
      refine ⟨{ inner with
        depth := uow.depth, savepoints := uow.savepoints
        session := { inner.session with transaction := some (uow.session.current.flush entries) } }, ?_, ?_⟩
      · simp [aexit, exitNested, level, deep, top, Session.commitSavepoint, clean, current,
          Transaction.release_marked, pure, Except.pure]
      · exact ⟨database, rfl, gained.flushed, rfl, rfl⟩

/-- What a body ends with, and how far the block it ran in has come. -/
def Ends (uow : SqlAlchemyUnitOfWork W) (result : Option PyError × SqlAlchemyUnitOfWork W)
    (ended : Option PyError × List W) : Prop :=
  result.1 = ended.1 ∧ Gained uow result.2 ended.2

theorem asyncWith_inner (inside : uow.InBlock) {body : SqlAlchemyUnitOfWork W → Option PyError × SqlAlchemyUnitOfWork W}
    {ended : Option PyError × List W}
    (ends : ∀ entered : SqlAlchemyUnitOfWork W, entered.InBlock → entered.session.seen = uow.session.seen →
      Ends entered (body entered) ended) :
    Ends uow (uow.asyncWith refusal body) (ended.1, if ended.1.isSome then [] else ended.2) := by
  obtain ⟨entered, id, enters, nested⟩ := aenter_inner inside
  obtain ⟨raised, gained⟩ := ends entered (nested.inBlock inside) nested.seen
  obtain ⟨after, exits, kept⟩ := aexit_inner refusal inside nested gained ended.1.isSome
  rw [asyncWith, enters]
  dsimp only
  rw [raised, exits]
  exact ⟨rfl, kept⟩

/-- By induction on the program: a nested block adds to the block around it what the reference says. -/
theorem run_within (program : NestedProgram W PyError) : ∀ uow : SqlAlchemyUnitOfWork W, uow.InBlock →
    Ends uow (run program uow) (program.within uow.session.seen) := by
  induction program with
  | done => exact fun uow inside => ⟨rfl, .refl inside⟩
  | write entry rest ih =>
      intro uow inside
      have saved := save_gained entry inside
      have after := ih _ (saved.inBlock inside)
      rw [saved.seen] at after
      exact ⟨after.1, saved.trans after.2⟩
  | read rest ih =>
      intro uow inside
      have read := execute_gained inside
      have after := ih uow.session.seen _ (read.inBlock inside)
      rw [read.seen, List.append_nil] at after
      exact ⟨after.1, read.trans after.2⟩
  | raise error => exact fun uow inside => ⟨rfl, .refl inside⟩
  | block refusal body catches caught rest ihBody ihCaught ihRest =>
      intro uow inside
      have around : Ends uow (uow.asyncWith refusal (run body)) _ :=
        asyncWith_inner inside fun entered within same => by
          have ends := ihBody entered within
          rw [same] at ends
          exact ends
      rcases result : uow.asyncWith refusal (run body) with ⟨outcome, after⟩
      rcases ended : body.within uow.session.seen with ⟨left, written⟩
      rw [result, ended] at around
      obtain ⟨raised, gained⟩ := around
      dsimp only at raised gained
      subst raised
      rw [run, result, NestedProgram.within, ended]
      cases outcome with
      | none =>
          -- the rest sees what the block has written
          have rested := ihRest after (gained.inBlock inside)
          rw [gained.seen] at rested
          exact ⟨rested.1, gained.trans rested.2⟩
      | some error =>
          -- the block's writes are undone: a handler sees what was there before it
          have handled := ihCaught error after (gained.inBlock inside)
          rw [gained.seen, Option.isSome_some, if_pos rfl, List.append_nil] at handled
          dsimp only
          split
          · exact ⟨handled.1, by simpa using gained.trans handled.2⟩
          · exact ⟨rfl, gained⟩

/-- Outside every block nothing is open and nothing waits to be flushed. -/
structure Idle (uow : SqlAlchemyUnitOfWork W) : Prop where
  flushed : uow.session.pending = []
  current : uow.session.current = {}
  depth : uow.depth = 0
  handles : uow.savepoints = []

theorem Idle.seen (idle : uow.Idle) : uow.session.seen = uow.session.database := by
  simp [Session.seen, idle.current, Transaction.flushed]

theorem Idle.execute (idle : uow.Idle) : Idle { uow with session := uow.session.execute } :=
  ⟨idle.flushed, idle.current, idle.depth, idle.handles⟩

/-- A transaction a read left open is ended first, so the outermost block starts with an empty one. -/
theorem aenter_outermost (idle : uow.Idle) : ∃ entered, uow.aenter = .ok entered ∧ entered.InBlock ∧
    entered.session.database = uow.session.database ∧ entered.session.current = {} := by
  obtain ⟨flushed, current, depth, handles⟩ := idle
  -- nothing is pending, so a transaction that is open has only been read in
  cases reading : uow.session.inTransaction with
  | false =>
      refine ⟨{ uow with depth := 1 }, ?_, ⟨flushed, ?_, ?_⟩, rfl, current⟩
      · simp [aenter, depth, prepareOutermost, reading, pure, Except.pure, bind, Except.bind]
      · simp [current]
      · simp [current, handles]
  | true =>
      refine ⟨{ uow with session := uow.session.rollback, depth := 1 }, ?_, ⟨rfl, rfl, handles⟩, rfl, rfl⟩
      simp [aenter, depth, prepareOutermost, reading, flushed, pure, Except.pure, bind, Except.bind]

/-- Leaving the outermost block commits, unless the body or the commit raised: then all of it is undone. -/
theorem aexit_outermost (refusal : Option PyError) (inside : entered.InBlock) (fresh : entered.session.current = {})
    (gained : Gained entered inner entries) (failed : Option PyError) :
    ∃ after, (inner.aexit failed.isSome refusal).2 = after ∧ after.Idle ∧
      (inner.aexit failed.isSome refusal).1.or failed = failed.or refusal ∧
      after.session.database = entered.session.database ++ if (failed.or refusal).isSome then [] else entries := by
  have level : inner.depth = 1 := by rw [gained.depth, inside.depth, fresh]; rfl
  have none_open : inner.savepoints = [] := by rw [gained.handles, inside.handles, fresh]; rfl
  have clean : inner.session.flush = inner.session := by simp [Session.flush, gained.flushed]
  have seen : inner.session.seen = entered.session.database ++ entries := by
    rw [gained.seen, Session.seen, fresh]
    simp [Transaction.flushed]
  -- the body raised; it did not and the commit goes through; the commit itself fails
  cases failed with
  | some error =>
      refine ⟨_, rfl, ⟨?_, ?_, ?_, ?_⟩, ?_, ?_⟩ <;>
        simp [aexit, level, rollback, Session.rollback, Session.current, gained.database]
  | none =>
      cases refusal with
      | none =>
          refine ⟨_, rfl, ⟨?_, ?_, ?_, ?_⟩, ?_, ?_⟩ <;>
            simp [aexit, level, commit, Session.commit, Session.current, clean, gained.flushed, none_open, seen]
      | some error =>
          refine ⟨_, rfl, ⟨?_, ?_, ?_, ?_⟩, ?_, ?_⟩ <;>
            simp [aexit, level, commit, rollback, Session.commit, Session.rollback, Session.current, clean,
              gained.database]

def Settles (uow : SqlAlchemyUnitOfWork W) (result : Option PyError × SqlAlchemyUnitOfWork W)
    (ended : Option PyError × List W) : Prop :=
  result.1 = ended.1 ∧ result.2.Idle ∧ result.2.session.database = uow.session.database ++ ended.2

theorem Settles.behind {result : Option PyError × SqlAlchemyUnitOfWork W} {ended : Option PyError × List W}
    {first : List W} (settles : Settles after result ended)
    (committed : after.session.database = uow.session.database ++ first) :
    Settles uow result (ended.1, first ++ ended.2) :=
  ⟨settles.1, settles.2.1, by rw [settles.2.2, committed, List.append_assoc]⟩

theorem asyncWith_outermost (refusal : Option PyError) (idle : uow.Idle) (body : NestedProgram W PyError) :
    Settles uow (uow.asyncWith refusal (run body))
      ((body.within uow.session.database).1.or refusal,
        if ((body.within uow.session.database).1.or refusal).isSome then []
        else (body.within uow.session.database).2) := by
  obtain ⟨entered, enters, inside, database, fresh⟩ := aenter_outermost idle
  have ran := run_within body entered inside
  have seen : entered.session.seen = uow.session.database := by
    simp [Session.seen, fresh, database, Transaction.flushed]
  rw [seen] at ran
  obtain ⟨after, left, settled, raised, committed⟩ :=
    aexit_outermost refusal inside fresh ran.2 (run body entered).1
  rw [asyncWith, enters]
  dsimp only
  rw [ran.1] at raised committed left ⊢
  exact ⟨raised, by rw [left]; exact settled, by rw [left, committed, database]⟩

theorem run_outermost (program : NestedProgram W PyError) : ∀ uow : SqlAlchemyUnitOfWork W, uow.Idle →
    program.OnlyReads → Settles uow (run program uow) (program.outermost uow.session.database) := by
  induction program with
  | done => exact fun uow idle _ => ⟨rfl, idle, (List.append_nil _).symm⟩
  | write entry rest ih => exact fun uow idle reads => nomatch reads
  | read rest ih =>
      intro uow idle reads
      have after := ih uow.session.seen _ idle.execute (reads _)
      rw [idle.seen] at after
      rw [run, NestedProgram.outermost, idle.seen]
      exact after
  | raise error => exact fun uow idle _ => ⟨rfl, idle, (List.append_nil _).symm⟩
  | block refusal body catches caught rest ihBody ihCaught ihRest =>
      intro uow idle reads
      have around := asyncWith_outermost refusal idle body
      rcases result : uow.asyncWith refusal (run body) with ⟨outcome, after⟩
      rw [result] at around
      obtain ⟨raised, settled, committed⟩ := around
      dsimp only at raised settled committed
      rw [run, result, NestedProgram.outermost, raised]
      dsimp only
      cases left : (body.within uow.session.database).1.or refusal with
      | none =>
          rw [left] at committed
          have rested := ihRest after settled reads.2
          rw [committed] at rested
          exact rested.behind committed
      | some error =>
          rw [left] at committed
          dsimp only
          split
          next caught =>
            have handled := ihCaught error after settled (reads.1 error caught)
            rw [committed, Option.isSome_some, if_pos rfl, List.append_nil] at handled
            exact handled.behind committed
          next uncaught => exact ⟨rfl, settled, by simpa using committed⟩

/-- The instance ends a program of nested blocks as the reference does: it raises the program's own
exception or none, has committed what the reference commits, and can be entered again. -/
theorem units_nest (uow : SqlAlchemyUnitOfWork W) (program : NestedProgram W PyError) (idle : uow.Idle)
    (reads : program.OnlyReads) :
    (run program uow).1 = (program.outermost uow.session.database).1 ∧
      (run program uow).2.session.database =
        uow.session.database ++ (program.outermost uow.session.database).2 ∧
      (run program uow).2.depth = 0 ∧ (run program uow).2.savepoints = [] ∧ (run program uow).2.Idle := by
  obtain ⟨raised, settled, committed⟩ := run_outermost program uow idle reads
  exact ⟨raised, committed, settled.depth, settled.handles, settled⟩

/-- A save is refused and done again in another way, then a second block fails to commit. -/
def savedOnRetry : NestedProgram String PyError :=
  .read fun _ => .block none
    (.write "recipient" (.block none (.write "first intake" (.raise .intakeAlreadyExists))
      (fun | .intakeAlreadyExists => true | _ => false) (fun _ => .write "intake" .done) .done))
    (fun _ => false) .raise
    (.block (some (.raised "OperationalError" "connection lost")) (.write "outbox" .done) (fun _ => false) .raise .done)

theorem savedOnRetry_nests :
    (run savedOnRetry ⟨{}, 0, []⟩).1 = some (.raised "OperationalError" "connection lost") ∧
      (run savedOnRetry ⟨{}, 0, []⟩).2.session.database = ["recipient", "intake"] ∧
      (run savedOnRetry ⟨{}, 0, []⟩).2.depth = 0 ∧ (run savedOnRetry ⟨{}, 0, []⟩).2.savepoints = [] ∧
      (run savedOnRetry ⟨{}, 0, []⟩).2.Idle :=
  units_nest ⟨{}, 0, []⟩ savedOnRetry ⟨rfl, rfl, rfl, rfl⟩
    (by simp [savedOnRetry, NestedProgram.OnlyReads])

end SqlAlchemyUnitOfWork

end Tiber
