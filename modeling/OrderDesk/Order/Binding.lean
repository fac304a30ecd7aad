import OrderDesk.Binding
import OrderDesk.Calendar.Written
import OrderDesk.Order.Basic
import OrderDesk.Text.Basic

/-!
# Reading orders

Every field of an order has a default, so records with some of their fields bind too. A time is
a text, or an object with a text or with milliseconds; a time that only stands for a missing one
is read as missing.
-/

namespace OrderDesk

open Json (Draft)
open Binding (Bound Binder)

/-! ### Times -/

/-- Why a text is no time. -/
inductive TimeFault where
  | text
  | millis (fault : Text.IntegerFault)

def TimeFault.message : TimeFault → String
  | text => "<invalid timestamp>"
  | millis fault => fault.message

/-- A time of either written form. -/
inductive WrittenTime where
  | text (s : String)
  | millis (s : String)

def WrittenTime.ofDraft? : Draft → Option WrittenTime
  | .string s => some (.text s)
  | .object members _ =>
    match Draft.soleMember? "$date" members with
    | some (.string s) => some (.text s)
    | some (.object members _) =>
      match Draft.soleMember? "$numberLong" members with
      | some (.string s) => some (.millis s)
      | _ => none
    | _ => none
  | _ => none

/-- The instant that is meant. Milliseconds out of range mean none, and so does an empty text. -/
def WrittenTime.instant? : WrittenTime → Except TimeFault (Option Calendar.Instant)
  | .text s =>
    match Text.trimmed s.toList with
    | [] => .ok none
    | cs =>
      match Calendar.Instant.read cs with
      | some t => .ok (some t)
      | none => .error .text
  | .millis s =>
    match Text.readInt64 s.toList with
    | .ok n => .ok (Calendar.Instant.ofMillis? n)
    | .error fault => .error (.millis fault)

def bindTime : Binder (Option Calendar.Instant)
  | _, .null => .ok none
  | room, d =>
    if (d.value? room).isNone then .error .malformed
    else
      match WrittenTime.ofDraft? d with
      | none => Binding.fail (.noVariant "Raw")
      | some time =>
        match time.instant? with
        | .ok t => .ok (t.filter (!·.isPlaceholder))
        | .error fault => Binding.fail (.refused fault.message)

/-! ### Records -/

def LineItem.parts : List (Binding.Part LineItem) :=
  [.of "name" Binding.string (fun name r => { r with name }),
   .of "quantity" Binding.natural32 (fun quantity r => { r with quantity }),
   .of "unitPrice" Binding.float (fun unitPrice r => { r with unitPrice }) (some "price")]

def LineItem.bind : Binder LineItem := Binding.record "LineItem" LineItem.parts {}

def Order.parts : List (Binding.Part Order) :=
  [.of "id" Binding.string (fun id r => { r with id }),
   .of "userId" Binding.string (fun userId r => { r with userId }),
   .of "status" Binding.string (fun status r => { r with status }),
   .of "city" Binding.string (fun city r => { r with city }),
   .of "addressDetail" Binding.string (fun addressDetail r => { r with addressDetail }),
   .of "lineItems" (Binding.list LineItem.bind) (fun lineItems r => { r with lineItems })
     (some "product"),
   .of "total" Binding.float (fun total r => { r with total }),
   .of "createdAt" bindTime (fun createdAt r => { r with createdAt }),
   .of "updatedAt" bindTime (fun updatedAt r => { r with updatedAt })]

def Order.bind : Binder Order := Binding.record "Order" Order.parts {}

def OrderInput.parts : List (Binding.Part OrderInput) :=
  [.of "userId" Binding.string (fun userId r => { r with userId }),
   .of "status" Binding.string (fun status r => { r with status }),
   .of "city" Binding.string (fun city r => { r with city }),
   .of "addressDetail" Binding.string (fun addressDetail r => { r with addressDetail }),
   .of "lineItems" (Binding.list LineItem.bind) (fun lineItems r => { r with lineItems })
     (some "product")]

def OrderInput.bind : Binder OrderInput := Binding.record "OrderCreateInput" OrderInput.parts {}

end OrderDesk
