import ColumnWire.Text.Blank

/-!
# Server exceptions

The server reports a failure as a chain of records, the outermost first and every
further one the cause of the one before. A chain has at least one record.
-/
namespace ColumnWire

/-- One record of a failure. -/
structure ExceptionRecord where
  code : Int32
  name : String
  message : String
  stackTrace : String := ""
deriving Repr, DecidableEq, Inhabited

namespace ExceptionRecord

/-- The name of the failure and what it says. -/
def text (r : ExceptionRecord) : String := r.name ++ ": " ++ r.message

/-- A message without its leading `name:`, if it has one. -/
def withoutName (name message : List Char) : List Char :=
  if (name ++ [':']).isPrefixOf message then message.drop (name.length + 1) else message

/-- A message as it is kept: without the name it repeats, and without blanks at its ends. -/
def tidy (name message : String) : String :=
  String.ofList (Blank.trim (withoutName name.toList message.toList))

end ExceptionRecord

/-- A failure and its causes, the innermost last. -/
structure ServerException where
  outer : ExceptionRecord
  causes : List ExceptionRecord := []
deriving Repr, DecidableEq, Inhabited

namespace ServerException

/-- All records, the outermost first. -/
def chain (e : ServerException) : List ExceptionRecord := e.outer :: e.causes

/-- Number of records. -/
def depth (e : ServerException) : Nat := e.chain.length

/-- The exception whose chain is given, unless the chain is empty. -/
def ofChain? : List ExceptionRecord → Option ServerException
  | [] => none
  | r :: rs => some ⟨r, rs⟩

/-- What the exception says: the text of its outermost record. -/
def text (e : ServerException) : String := e.outer.text

@[simp] theorem ofChain?_chain (e : ServerException) : ofChain? e.chain = some e := rfl

end ServerException

end ColumnWire
