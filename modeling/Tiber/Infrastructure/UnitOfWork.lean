import Tiber.Domain.Exceptions
import Tiber.Library.NestedTransactions

/-! The SQLAlchemy unit of work over one session.

A session begins its transaction with the first thing done on it; savepoints nest in the transaction
and are addressed by the handle `begin_nested` returned.
-/

set_option autoImplicit false

namespace Tiber

open Library

structure Savepoint (W : Type) where
  id : Nat
  writes : List W
  deriving DecidableEq

/-- What was flushed before the first open savepoint, and the open savepoints, innermost first. -/
structure Transaction (W : Type) where
  begun : List W := []
  savepoints : List (Savepoint W) := []
  deriving DecidableEq

namespace Transaction

variable {W : Type}

def flushed (transaction : Transaction W) : List W :=
  transaction.begun ++ transaction.savepoints.reverse.flatMap Savepoint.writes

def flush (transaction : Transaction W) (entries : List W) : Transaction W :=
  -- a flush writes into the innermost open savepoint
  match transaction.savepoints with
  | [] => { transaction with begun := transaction.begun ++ entries }
  | inner :: outer =>
      { transaction with savepoints := { inner with writes := inner.writes ++ entries } :: outer }

/-- Savepoints opened after this one go with it. -/
def rollbackTo (transaction : Transaction W) (id : Nat) : Option (Transaction W) :=
  match transaction.savepoints.dropWhile fun point => point.id != id with
  | [] => none
  | _ :: outer => some { transaction with savepoints := outer }

def release (transaction : Transaction W) (id : Nat) : Option (Transaction W) :=
  match transaction.savepoints.dropWhile fun point => point.id != id with
  | [] => none
  | point :: outer =>
      -- what the savepoint and those inside it wrote goes to the one around it
      let inner := transaction.savepoints.takeWhile fun point => point.id != id
      some ({ transaction with savepoints := outer }.flush
        (point.writes ++ inner.reverse.flatMap Savepoint.writes))

end Transaction

/-- `pending` is what `session.new`, `dirty` and `deleted` hold. -/
structure Session (W : Type) where
  database : List W := []
  transaction : Option (Transaction W) := none
  pending : List W := []
  opened : Nat := 0
  deriving DecidableEq

namespace Session

variable {W : Type}

def current (session : Session W) : Transaction W := session.transaction.getD {}

def seen (session : Session W) : List W := session.database ++ session.current.flushed

def inTransaction (session : Session W) : Bool := session.transaction.isSome

/-- Adding begins the transaction too. -/
def add (session : Session W) (entry : W) : Session W :=
  { session with transaction := some session.current, pending := session.pending ++ [entry] }

def flush (session : Session W) : Session W :=
  match session.pending with
  | [] => session
  | pending => { session with transaction := some (session.current.flush pending), pending := [] }

/-- A query flushes nothing: the session factory has `autoflush=False`. -/
def execute (session : Session W) : Session W := { session with transaction := some session.current }

def beginNested (session : Session W) : Nat × Session W :=
  -- `begin_nested` flushes before it opens the savepoint
  let session := session.flush
  (session.opened,
    { session with
      transaction := some { session.current with savepoints := ⟨session.opened, []⟩ :: session.current.savepoints }
      opened := session.opened + 1 })

def closedError : PyError := .raised "ResourceClosedError" "This transaction is closed"

/-- `savepoint.rollback()` -/
def rollbackSavepoint (session : Session W) (savepoint : Nat) : Checked (Session W) :=
  match session.current.rollbackTo savepoint with
  | none => throw closedError
  | some transaction => pure { session with transaction := some transaction, pending := [] }

def commitSavepoint (session : Session W) (savepoint : Nat) : Checked (Session W) :=
  let session := session.flush
  match session.current.release savepoint with
  | none => throw closedError
  | some transaction => pure { session with transaction := some transaction }

def commit (session : Session W) (refusal : Option PyError) : Option PyError × Session W :=
  let session := session.flush
  match refusal with
  | some error => (some error, session)
  | none => (none, { session with database := session.seen, transaction := none })

def rollback (session : Session W) : Session W := { session with transaction := none, pending := [] }

end Session

/-- `_savepoints` has the one appended last first. -/
structure SqlAlchemyUnitOfWork (W : Type) where
  session : Session W
  depth : Nat := 0
  savepoints : List Nat := []
  deriving DecidableEq

namespace SqlAlchemyUnitOfWork

variable {W : Type}

def prepareOutermost (uow : SqlAlchemyUnitOfWork W) : Checked (SqlAlchemyUnitOfWork W) :=
  if !uow.session.inTransaction then
    pure uow
  else if !uow.session.pending.isEmpty then
    throw (.raised "UnitOfWorkError"
      ("The session has pending changes made outside a unit of work. " ++
        "Perform all writes inside `async with uow:`."))
  else
    -- only reads have begun it
    pure { uow with session := uow.session.rollback }

def aenter (uow : SqlAlchemyUnitOfWork W) : Checked (SqlAlchemyUnitOfWork W) :=
  if uow.depth = 0 then do
    let uow ← uow.prepareOutermost
    pure { uow with depth := uow.depth + 1 }
  else
    let opened := uow.session.beginNested
    pure { uow with session := opened.2, savepoints := opened.1 :: uow.savepoints, depth := uow.depth + 1 }

def exitNested (uow : SqlAlchemyUnitOfWork W) (failed : Bool) : Option PyError × SqlAlchemyUnitOfWork W :=
  match uow.savepoints with
  | [] => (some (.raised "IndexError" "pop from empty list"), uow)
  | savepoint :: outer =>
      let uow := { uow with savepoints := outer }
      match if failed then uow.session.rollbackSavepoint savepoint else uow.session.commitSavepoint savepoint with
      | .error error => (some error, uow)
      | .ok session => (none, { uow with session := session })

def rollback (uow : SqlAlchemyUnitOfWork W) : SqlAlchemyUnitOfWork W :=
  { uow with session := uow.session.rollback, savepoints := [] }

def commit (uow : SqlAlchemyUnitOfWork W) (refusal : Option PyError) : Option PyError × SqlAlchemyUnitOfWork W :=
  match uow.session.commit refusal with
  | (none, session) => (none, { uow with session := session })
  | (some error, session) => (some error, { uow with session := session }.rollback)

/-- `__aexit__`: what it raises itself. -/
def aexit (uow : SqlAlchemyUnitOfWork W) (failed : Bool) (refusal : Option PyError) :
    Option PyError × SqlAlchemyUnitOfWork W :=
  if uow.depth = 0 then
    (some (.raised "UnitOfWorkError" "Unit of work exited more times than it was entered."), uow)
  else
    -- the depth goes down first, so `_depth > 0` asks for a block around this one
    let uow := { uow with depth := uow.depth - 1 }
    if uow.depth > 0 then
      uow.exitNested failed
    else if !failed then
      uow.commit refusal
    else
      (none, uow.rollback)

/-- `async with uow:` around a body. What `__aexit__` raises takes the place of the body's exception. -/
def asyncWith (uow : SqlAlchemyUnitOfWork W) (refusal : Option PyError)
    (body : SqlAlchemyUnitOfWork W → Option PyError × SqlAlchemyUnitOfWork W) :
    Option PyError × SqlAlchemyUnitOfWork W :=
  match uow.aenter with
  | .error error => (some error, uow)
  | .ok entered =>
      let inner := body entered
      let exited := inner.2.aexit inner.1.isSome refusal
      (exited.1.or inner.1, exited.2)

/-- A program on the session: a write is a repository's `add` with the flush behind it. -/
def run : NestedProgram W PyError → SqlAlchemyUnitOfWork W → Option PyError × SqlAlchemyUnitOfWork W
  | .done, uow => (none, uow)
  | .write entry rest, uow => run rest { uow with session := (uow.session.add entry).flush }
  | .read rest, uow => run (rest uow.session.seen) { uow with session := uow.session.execute }
  | .raise error, uow => (some error, uow)
  | .block refusal body catches caught rest, uow =>
      match uow.asyncWith refusal (run body) with
      | (none, after) => run rest after
      | (some error, after) => if catches error then run (caught error) after else (some error, after)

end SqlAlchemyUnitOfWork

end Tiber
