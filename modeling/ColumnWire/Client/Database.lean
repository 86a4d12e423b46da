import ColumnWire.Migration.Plan
import ColumnWire.RowStream

/-!
# The database of a migrator

A client carries out the calls of a plan, one after another. It knows no custom steps,
so those do nothing.
-/
namespace ColumnWire.Client

variable {σ α : Type} [Source σ]

/-- The outcome of a session, and the client after it. -/
def outcome (session : Session σ α) (c : Client σ) : Except Error α × Client σ :=
  match session c with
  | .ok a c => (.ok a, c)
  | .error e c => (.error e, c)

/-- Carry out a call. -/
def answer : (call : Call) → Client σ → Except Error call.Answer × Client σ
  | .exec sql => outcome do
    let _ ← exec sql
    return ()
  | .insert sql block => outcome do
    let _ ← insert sql block
    return ()
  | .query sql => outcome (queryBlocks sql)
  | .custom _ => fun c => (.ok (), c)

/-- A client as a database, at a given moment. -/
def database (second : Int) : Plan.Database (Client σ) := ⟨answer, fun _ => second⟩

end ColumnWire.Client
