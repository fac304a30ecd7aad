import OrderDesk.Server.Routes
import OrderDesk.Text.Basic

/-!
# Setting up a server

A server needs both backends. It has a limit for every call to them, and may have pages of its own
beside the routes for orders. It listens at an address, which is a host and a port.
-/

namespace OrderDesk

structure Server (σ ι : Type) where
  store : σ
  index : ι
  /-- The limit for a reply of a backend, in milliseconds. -/
  limit : Nat
  routes : List Server.Route

namespace Server

/-- The limit where none is set. -/
def defaultLimit : Nat := 20000

/-- What a server is made of. -/
structure Setup (σ ι : Type) where
  store : Option σ := none
  index : Option ι := none
  limit : Nat := defaultLimit
  pages : List Route := []

/-- The server of a setup, if no backend is missing. -/
def Setup.build {σ ι : Type} (s : Setup σ ι) : Except Backend (Server σ ι) := do
  let some store := s.store | throw .store
  let some index := s.index | throw .index
  return { store, index, limit := s.limit, routes := healthRoutes ++ orderRoutes ++ s.pages }

def missingMessage (backend : Backend) : String := "A " ++ backend.description ++ " is required"

/-! ### Addresses -/

/-- Why nothing can listen at an address. -/
inductive AddressFault where
  | noPort
  | port
  | host
deriving DecidableEq, Repr

def AddressFault.message : AddressFault → String
  | noPort => "invalid socket address"
  | port => "invalid port value"
  | host => "file name contained an unexpected NUL byte"

/-- The host and the port of an address. The port comes after the last colon. -/
def address (text : String) : Except AddressFault (String × Nat) :=
  let back := text.toList.reverse
  match back.dropWhile (· ≠ ':') with
  | [] => .error .noPort
  | _ :: host =>
    match Text.readNatural 65535 (back.takeWhile (· ≠ ':')).reverse with
    | .error _ => .error .port
    | .ok n =>
      if '\x00' ∈ host then .error .host else .ok (String.ofList host.reverse, n)

end Server

end OrderDesk
