import ColumnWire.Error
import ColumnWire.Text.Digits

/-!
# Endpoints

The address of a server is a host and a port with a colon between them. The last colon
counts, so that a host may hold colons too.
-/
namespace ColumnWire

/-- A host, by name or by number, and a port. -/
structure Endpoint where
  host : String
  port : UInt16
deriving Repr, DecidableEq, Inhabited

namespace Endpoint

/-- The parts in front of and behind the last colon. -/
def splitLast? (cs : List Char) : Option (List Char × List Char) :=
  let behind := cs.reverse.takeWhile (· ≠ ':')
  match cs.reverse.dropWhile (· ≠ ':') with
  | [] => none
  | _ :: front => some (front.reverse, behind.reverse)

/-- The endpoint that an address names. -/
def ofAddress (address : String) : Except IoFault Endpoint :=
  match splitLast? address.toList with
  | none => .error (.reported "invalid socket address")
  | some (host, port) =>
    match Digits.parse? 65536 port with
    | none => .error (.reported "invalid port value")
    | some port => .ok ⟨String.ofList host, UInt16.ofNat port⟩

/-- The host without the brackets around a number of six. -/
def bareHost (e : Endpoint) : String :=
  match e.host.toList with
  | '[' :: cs => if cs.getLast? = some ']' then String.ofList cs.dropLast else e.host
  | _ => e.host

end Endpoint

end ColumnWire
