import Diorama.Host.Link
import Diorama.Log.Event

/-!
Batches on their way out. They are numbered from 1, and a number is used up only by a batch that the
link has taken.
-/

namespace Diorama

structure Outbox where
  max : Nat
  sendEmpty : Bool
  next : Nat := 1

structure Flushed where
  seq : Nat
  ops : Nat
  queries : Nat
  bytes : Nat
  deriving DecidableEq

def Flushed.report (f : Flushed) : Event :=
  .say .trace Target.outbound
    s!"Flushed batch #{f.seq} ({f.ops} ops, {f.queries} queries, {f.bytes} bytes)"

def Outbox.flush (o : Outbox) (l : Link) (ops : List Operation) (queries : List Request) :
    Except Failure (Option Flushed × Outbox × Link) := do
  let batch : Batch := ⟨o.next, ops, queries⟩
  if batch.isEmpty && !o.sendEmpty then return (none, o, l)
  let bytes := batch.text.utf8ByteSize
  if o.max < bytes then .error (.frame (.tooLarge bytes o.max))
  let l ← l.sceneSend batch.text
  return (some ⟨o.next, ops.length, queries.length, bytes⟩, { o with next := o.next + 1 }, l)

end Diorama
