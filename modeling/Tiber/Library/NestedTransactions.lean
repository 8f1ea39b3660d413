import Mathlib.Data.List.Basic

/-! Programs of nested atomic blocks over one log of writes, and what they commit.

The outermost block is a transaction, a block inside another one is a part of it that can be
undone alone. A program sees the writes committed so far and those of the blocks it is in.
-/

set_option autoImplicit false

namespace Library

/-- `block` tells with which exception its commit would fail were it the outermost one, which exceptions
are caught right outside it, and what follows when one is caught and when there was none. -/
inductive NestedProgram (W E : Type) where
  | done
  | write (entry : W) (rest : NestedProgram W E)
  | read (rest : List W → NestedProgram W E)
  | raise (error : E)
  | block (refusal : Option E) (body : NestedProgram W E) (catches : E → Bool) (caught : E → NestedProgram W E)
      (rest : NestedProgram W E)

namespace NestedProgram

variable {W E : Type}

/-- What a program inside a block ends with and has written for that block: of a block in it nothing
when an exception left it. -/
def within : NestedProgram W E → List W → Option E × List W
  | done, _ => (none, [])
  | write entry rest, seen =>
      let after := rest.within (seen ++ [entry])
      (after.1, entry :: after.2)
  | read rest, seen => (rest seen).within seen
  | raise error, _ => (some error, [])
  | block _ body catches caught rest, seen =>
      match body.within seen with
      | (none, written) =>
          let after := rest.within (seen ++ written)
          (after.1, written ++ after.2)
      | (some error, _) => if catches error then (caught error).within seen else (some error, [])

/-- What a program outside every block ends with and has committed. A write there belongs to no transaction. -/
def outermost : NestedProgram W E → List W → Option E × List W
  | done, _ => (none, [])
  | write _ rest, seen => rest.outermost seen
  | read rest, seen => (rest seen).outermost seen
  | raise error, _ => (some error, [])
  | block refusal body catches caught rest, seen =>
      match (body.within seen).1.or refusal with
      | none =>
          let after := rest.outermost (seen ++ (body.within seen).2)
          (after.1, (body.within seen).2 ++ after.2)
      | some error => if catches error then (caught error).outermost seen else (some error, [])

def OnlyReads : NestedProgram W E → Prop
  | done => True
  | write _ _ => False
  | read rest => ∀ seen, (rest seen).OnlyReads
  | raise _ => True
  | block _ _ catches caught rest => (∀ error, catches error = true → (caught error).OnlyReads) ∧ rest.OnlyReads

end NestedProgram

end Library
