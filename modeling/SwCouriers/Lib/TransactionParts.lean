import SwCouriers.Lib.Checked
import SwCouriers.Lib.TransactionResults

/-!
# Transactions that Run Alone, and on a Part of the Store

Without any other transaction, a program returns or raises what its statements say of one store
(`alone`).

A transaction over a part of a store is one over the whole store (`onPart`): it reads the part
through a view and locks under its own names.

## Main results

* `alone_bind`, `alone_onPart`: how the result is computed.
* `Always.onPart`: what holds of all results holds of them on a part.
-/

namespace ReadCommitted

namespace Txn

variable {S S' K K' ε α β : Type}

/-- What the program returns or raises when nobody else commits anything. -/
def alone (s : S) : Txn S K ε α → Except ε α
  | pure a => .ok a
  | raise e => .error e
  | read next => (next s).alone s
  | lock _ next => (next s).alone s

/-- The program on a part of the store. -/
def onPart (view : S → S') (key : K' → K) : Txn S' K' ε α → Txn S K ε α
  | pure a => pure a
  | raise e => raise e
  | read next => read fun s => (next (view s)).onPart view key
  | lock k next => lock (key k) fun s => (next (view s)).onPart view key

variable {s : S}

@[simp] theorem alone_return (a : α) : (Pure.pure a : Txn S K ε α).alone s = .ok a := rfl

@[simp] theorem alone_bind (p : Txn S K ε β) (f : β → Txn S K ε α) :
    (p >>= f).alone s = p.alone s >>= fun b => (f b).alone s := by
  change (p.bind f).alone s = _
  induction p with
  | pure b => rfl
  | raise e => rfl
  | read next ih => exact ih s
  | lock k next ih => exact ih s

@[simp] theorem alone_check (x : Except ε α) : (check x : Txn S K ε α).alone s = x := by
  cases x <;> rfl

@[simp] theorem alone_statement (q : S → Except ε α) :
    (statement q : Txn S K ε α).alone s = q s := alone_check (q s)

@[simp] theorem alone_lockRow (k : K) (q : S → Except ε α) : (lockRow k q).alone s = q s :=
  alone_check (q s)

@[simp] theorem alone_onPart (view : S → S') (key : K' → K) (p : Txn S' K' ε α) :
    (p.onPart view key).alone s = p.alone (view s) := by
  induction p with
  | pure a => rfl
  | raise e => rfl
  | read next ih => exact ih (view s)
  | lock k next ih => exact ih (view s)

/-- What a program returns has the properties that all its results have. -/
theorem Always.alone {P : α → Prop} {p : Txn S K ε α} (h : p.Always P) {a : α}
    (ha : p.alone s = .ok a) : P a := by
  induction p with
  | pure b =>
      obtain rfl := Except.ok.inj ha
      exact h
  | raise e => cases ha
  | read next ih => exact ih s (h s) ha
  | lock k next ih => exact ih s (h s) ha

theorem Always.onPart {P : α → Prop} {p : Txn S' K' ε α} (h : p.Always P) (view : S → S')
    (key : K' → K) : (p.onPart view key).Always P := by
  induction p with
  | pure a => exact h
  | raise e => trivial
  | read next ih => exact fun s => ih (view s) (h (view s))
  | lock k next ih => exact fun s => ih (view s) (h (view s))

end Txn

end ReadCommitted
