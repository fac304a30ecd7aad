import Mathlib.Tactic.Common
import OrderDesk.Documents.Record
import OrderDesk.Proofs.Binding
import OrderDesk.Proofs.Fields
import OrderDesk.Proofs.Times
import OrderDesk.Proofs.Totals

/-! # Orders and their written forms

An order is written as a JSON object, and stored as the document of that object. Both forms read
back as the order with its times cut off at the millisecond, which has the same written forms.
-/

namespace OrderDesk

open Calendar (Instant)
open Json (Draft)

/-! ### Orders that can be read back -/

namespace Order

/-- An order as it is made: its numbers are finite and its times are current, if there are any. -/
structure IsStorable (o : Order) : Prop where
  total_isFinite : o.total.isFinite = true
  prices_isFinite : ∀ item ∈ o.lineItems, item.unitPrice.isFinite = true
  createdAt_isCurrent : ∀ t ∈ o.createdAt, t.IsCurrent
  updatedAt_isCurrent : ∀ t ∈ o.updatedAt, t.IsCurrent

/-- An order whose numbers are finite and whose times, if there are any, are of years with at most
four digits. -/
structure IsReadable (o : Order) : Prop where
  total_isFinite : o.total.isFinite = true
  prices_isFinite : ∀ item ∈ o.lineItems, item.unitPrice.isFinite = true
  createdAt_year_le : ∀ t ∈ o.createdAt, t.date.year ≤ 9999
  updatedAt_year_le : ∀ t ∈ o.updatedAt, t.date.year ≤ 9999

/-- The times of an order under the names of its JSON form. -/
def times (o : Order) : List (String × Option Instant) :=
  [("createdAt", o.createdAt), ("updatedAt", o.updatedAt)]

/-- The order with its times as they are told. -/
def told (o : Order) : Order :=
  { o with createdAt := toldTime o.createdAt, updatedAt := toldTime o.updatedAt }

/-- The order with its times up to their last whole millisecond. -/
def truncated (o : Order) : Order :=
  { o with
    createdAt := o.createdAt.map Instant.truncated
    updatedAt := o.updatedAt.map Instant.truncated }

@[simp] theorem id_truncated (o : Order) : o.truncated.id = o.id := rfl

theorem IsStorable.isReadable {o : Order} (h : o.IsStorable) : o.IsReadable where
  total_isFinite := h.total_isFinite
  prices_isFinite := h.prices_isFinite
  createdAt_year_le := fun t ht => (h.createdAt_isCurrent t ht).year_le
  updatedAt_year_le := fun t ht => (h.updatedAt_isCurrent t ht).year_le

theorem IsStorable.told_eq {o : Order} (h : o.IsStorable) : o.told = o.truncated := by
  rw [told, truncated, toldTime_of_isCurrent h.createdAt_isCurrent,
    toldTime_of_isCurrent h.updatedAt_isCurrent]

theorem isStorable_of_make {input : OrderInput} {id : String} {now : Instant} {o : Order}
    (hnow : now.IsCurrent) (h : Order.make input id now = .ok o) : o.IsStorable := by
  unfold Order.make at h
  split at h
  · cases htotal : orderTotal input.lineItems with
    | error fault => rw [htotal] at h; cases h
    | ok total =>
        rw [htotal] at h
        obtain rfl := Except.ok.inj h
        have hprices : ∀ item ∈ input.lineItems, item.unitPrice.isFinite = true := by
          cases hsum : sumLines input.lineItems with
          | error fault => rw [orderTotal, hsum] at htotal; cases htotal
          | ok sum => exact OrderDesk.prices_isFinite hsum
        have hcurrent : ∀ t ∈ some now, t.IsCurrent := by
          rintro t ⟨⟩
          exact hnow
        exact ⟨orderTotal_isFinite htotal, hprices, hcurrent, hcurrent⟩
  · cases h

theorem id_of_make {input : OrderInput} {id : String} {now : Instant} {o : Order}
    (h : Order.make input id now = .ok o) : o.id = id := by
  unfold Order.make at h
  split at h
  · cases htotal : orderTotal input.lineItems with
    | error fault => rw [htotal] at h; cases h
    | ok total =>
        rw [htotal] at h
        obtain rfl := Except.ok.inj h
        rfl
  · cases h

/-! ### The JSON form -/

/-- The members of the JSON form besides the identity. -/
def otherMembers (o : Order) : List (String × Json) :=
  [("userId", .string o.userId),
   ("status", .string o.status),
   ("city", .string o.city),
   ("addressDetail", .string o.addressDetail),
   ("lineItems", .array (o.lineItems.map LineItem.toJson)),
   ("total", .ofBinary64 o.total),
   ("createdAt", .string (timeText o.createdAt)),
   ("updatedAt", .string (timeText o.updatedAt))]

theorem toJson_eq (o : Order) :
    o.toJson = .object (("id", .string o.id) :: o.otherMembers) := rfl

theorem toJson_truncated {o : Order} (h : o.IsStorable) : o.truncated.toJson = o.toJson := by
  simp only [toJson_eq, otherMembers, truncated, timeText_truncated h.createdAt_isCurrent,
    timeText_truncated h.updatedAt_isCurrent]

/-- The first order with one field from the second, named as in the JSON form. -/
def withField (o r : Order) (name : String) : Order :=
  if name = "id" then { r with id := o.id }
  else if name = "userId" then { r with userId := o.userId }
  else if name = "status" then { r with status := o.status }
  else if name = "city" then { r with city := o.city }
  else if name = "addressDetail" then { r with addressDetail := o.addressDetail }
  else if name = "lineItems" then { r with lineItems := o.lineItems }
  else if name = "total" then { r with total := o.total }
  else if name = "createdAt" then { r with createdAt := o.createdAt }
  else if name = "updatedAt" then { r with updatedAt := o.updatedAt }
  else r

end Order

theorem LineItem.bind_toJson {item : LineItem} (h : item.unitPrice.isFinite = true) :
    LineItem.bind none (Draft.ofValue item.toJson) = .ok item := by
  obtain ⟨name, quantity, price⟩ := item
  cases price with
  | nan => cases h
  | infinite s => cases h
  | finite x =>
      have hquantity : quantity.toNat < 0x100000000 := quantity.toNat_lt
      have hback : UInt32.ofNat quantity.toNat = quantity := UInt32.ofNat_toNat
      simp [LineItem.bind, LineItem.parts, LineItem.toJson, Binding.record, Draft.ofValue,
        Draft.ofMembers, Draft.ofMember, Binding.enter, Json.Room.enter?, Binding.bindMembers,
        Binding.Part.of, Binding.Part.answersTo, Binding.within, Binding.string,
        Binding.natural32, Binding.float, Json.ofNat, Json.ofBinary64, Json.Number.ofBinary64?,
        Json.Number.toBinary64, Binding.closing, Except.map, hquantity, hback]

/-- Each member of the JSON form binds to the field that it names. -/
theorem Order.bind_member {o : Order} (h : o.IsReadable) :
    ∀ member ∈ ("id", Json.string o.id) :: o.otherMembers,
      ∃ part, Order.parts.find? (·.answersTo member.1) = some part ∧ part.name = member.1 ∧
        ∀ r, part.bind none (Draft.ofValue member.2) r =
          .ok (o.told.withField r member.1) := by
  have htotal : ∃ x, o.total = .finite x := by
    cases htotal : o.total with
    | finite x => exact ⟨x, rfl⟩
    | nan | infinite s => have hfinite := h.total_isFinite; rw [htotal] at hfinite; cases hfinite
  obtain ⟨total, htotal⟩ := htotal
  have hitems : Binding.list LineItem.bind none
      (Draft.ofValue (.array (o.lineItems.map LineItem.toJson))) = .ok o.lineItems :=
    Binding.list_ofValues fun item hitem => LineItem.bind_toJson (h.prices_isFinite item hitem)
  simp only [Draft.ofValue] at hitems
  have hcreated := bindTime_timeText_of_year_le h.createdAt_year_le none
  have hupdated := bindTime_timeText_of_year_le h.updatedAt_year_le none
  simp only [Order.otherMembers, List.forall_mem_cons]
  refine ⟨⟨_, rfl, rfl, fun r => ?_⟩, ⟨_, rfl, rfl, fun r => ?_⟩, ⟨_, rfl, rfl, fun r => ?_⟩,
    ⟨_, rfl, rfl, fun r => ?_⟩, ⟨_, rfl, rfl, fun r => ?_⟩, ⟨_, rfl, rfl, fun r => ?_⟩,
    ⟨_, rfl, rfl, fun r => ?_⟩, ⟨_, rfl, rfl, fun r => ?_⟩, ⟨_, rfl, rfl, fun r => ?_⟩,
    List.forall_mem_nil _⟩
  all_goals simp [Binding.Part.of, Draft.ofValue, Binding.string, Binding.float, Except.map,
    Order.withField, Order.told, hcreated, hupdated, htotal, Json.ofBinary64,
    Json.Number.ofBinary64?, Json.Number.toBinary64, hitems]

/-- Some members of the JSON form of an order read back, each into the field that it names. -/
theorem Order.bind_members_of_subset {o : Order} (h : o.IsReadable)
    {members : List (String × Json)} (hnodup : (members.map (·.1)).Nodup)
    (hmembers : members ⊆ ("id", Json.string o.id) :: o.otherMembers) :
    Binding.ofValue Order.bind (.object members) =
      .ok ((members.map (·.1)).foldl o.told.withField {}) := by
  have hbind : Binding.bindMembers Order.parts none [] {} (Draft.ofMembers members) =
      .ok ((members.map (·.1)).foldl o.told.withField {}) :=
    Binding.bindMembers_eq_foldl hnodup (fun _ _ => List.not_mem_nil)
      fun member hmember => Order.bind_member h member (hmembers hmember)
  simp only [Binding.ofValue, Order.bind, Draft.ofValue, Binding.record, Binding.enter,
    Json.Room.enter?, ok_bind, hbind, Binding.closing, if_true]

/-- The JSON form of an order reads back, whatever the order of its members. -/
theorem Order.bind_members {o : Order} (h : o.IsReadable) {members : List (String × Json)}
    (hmembers : members.Perm (("id", Json.string o.id) :: o.otherMembers)) :
    Binding.ofValue Order.bind (.object members) =
      .ok ((members.map (·.1)).foldl o.told.withField {}) := by
  have hnodup : (members.map (·.1)).Nodup := by
    rw [(hmembers.map (·.1)).nodup_iff]
    simp [Order.otherMembers]
  exact Order.bind_members_of_subset h hnodup hmembers.subset

/-- The JSON form of an order reads back with its times as they are told. -/
theorem Order.bind_toJson_told {o : Order} (h : o.IsReadable) :
    Binding.ofValue Order.bind o.toJson = .ok o.told := by
  rw [Order.toJson_eq, Order.bind_members h (List.Perm.refl _)]
  simp [Order.otherMembers, Order.withField, Order.told]

/-- The JSON form of an order reads back up to the millisecond. -/
theorem Order.bind_toJson {o : Order} (h : o.IsStorable) :
    Binding.ofValue Order.bind o.toJson = .ok o.truncated := by
  rw [Order.bind_toJson_told h.isReadable, h.told_eq]

/-! ### The stored form -/

namespace Documents

/-- The stored form of a float; what is not finite is stored as nothing. -/
def storedFloat : Binary64 → Bson
  | .finite x => .double (.finite x)
  | _ => .null

def storedItem (item : LineItem) : Bson :=
  .document [
    ("name", .string item.name),
    ("quantity", .int64 (.ofNat item.quantity.toNat)),
    ("unitPrice", storedFloat item.unitPrice)]

/-- The document under which an order is stored. The identity comes last. -/
def document (o : Order) : Document :=
  [("userId", .string o.userId),
   ("status", .string o.status),
   ("city", .string o.city),
   ("addressDetail", .string o.addressDetail),
   ("lineItems", .array (o.lineItems.map storedItem)),
   ("total", storedFloat o.total),
   ("createdAt", .string (timeText o.createdAt)),
   ("updatedAt", .string (timeText o.updatedAt)),
   (storedId, .string o.id)]

section Stored

variable (ext : Extension)

theorem stored_ofBinary64 (x : Binary64) : stored ext (.ofBinary64 x) = .ok (storedFloat x) := by
  cases x <;> rfl

theorem stored_lineItem (item : LineItem) : stored ext item.toJson = .ok (storedItem item) := by
  have hquantity : item.quantity.toNat < 0x8000000000000000 :=
    Nat.lt_trans item.quantity.toNat_lt (by decide)
  have hread : ext.read [("name", .string item.name),
      ("quantity", .int64 (.ofNat item.quantity.toNat)),
      ("unitPrice", storedFloat item.unitPrice)] = storedItem item :=
    ext.read_of_value?_eq_none (ext.value?_eq_none (by simp [isOperator]))
  simp [LineItem.toJson, stored, storedMembers, storedMember, stored_ofBinary64, Json.ofNat,
    recordNumber, hquantity, hread]

theorem storedItems_map {items : List LineItem} :
    storedItems ext (items.map LineItem.toJson) = .ok (items.map storedItem) := by
  induction items with
  | nil => rfl
  | cons item items ih =>
      rw [List.map_cons, storedItems, stored_lineItem, ih]
      rfl

end Stored

/-- An entry that gets a new name goes to the end. -/
theorem rename_eq {α : Type} {fs : Fields α} {old new : String} {value : α}
    (h : Fields.get? fs old = some value) (hnew : new ∉ Fields.names (Fields.without fs old)) :
    rename fs old new = Fields.without fs old ++ [(new, value)] := by
  simp only [rename, h, Fields.set_of_not_mem value hnew]

/-- Every order has a document, whatever objects spell other values, since no name in an order is
set apart. -/
theorem ofJson_toJson (ext : Extension) (o : Order) : ofJson o.toJson ext = .ok (document o) := by
  have hread : ext.read ((callerId, .string o.id) :: (document o).dropLast) =
      .document ((callerId, .string o.id) :: (document o).dropLast) :=
    ext.read_of_value?_eq_none (ext.value?_eq_none (by simp [document, isOperator, callerId]))
  have hstored : stored ext o.toJson =
      .ok (.document ((callerId, .string o.id) :: (document o).dropLast)) := by
    rw [← hread]
    simp [Order.toJson, stored, storedMembers, storedMember, storedItems_map, stored_ofBinary64,
      document]
    rfl
  have hid : Fields.get? ((callerId, Bson.string o.id) :: (document o).dropLast) callerId =
      some (.string o.id) := rfl
  have hrename : rename ((callerId, Bson.string o.id) :: (document o).dropLast) callerId storedId =
      document o := by
    rw [rename_eq hid]
    all_goals simp [Fields.names, Fields.without, document, callerId, storedId]
  simp only [ofJson, hstored, ok_bind, hrename]
  rfl

theorem ofOrder_eq (o : Order) : ofOrder o = .ok (document o) := ofJson_toJson .none o

theorem toJson_storedFloat (x : Binary64) : toJsonValue (storedFloat x) = .ofBinary64 x := by
  cases x <;> rfl

theorem toJson_storedItem (item : LineItem) : toJsonValue (storedItem item) = item.toJson := by
  have hquantity : (Int64.ofNat item.quantity.toNat).toInt = item.quantity.toNat :=
    Int64.toInt_ofNat_of_lt (Nat.lt_trans item.quantity.toNat_lt (by decide))
  have hnumber : int64Json (.ofNat item.quantity.toNat) = .ofNat item.quantity.toNat := by
    simp only [int64Json, Json.Number.ofInt64, hquantity]
    rw [dif_neg (by omega)]
    rfl
  simp only [storedItem, toJsonValue, toJsonEntries, toJsonEntry, hnumber, toJson_storedFloat,
    LineItem.toJson]

theorem toJsonItems_map (items : List LineItem) :
    toJsonItems (items.map storedItem) = items.map LineItem.toJson := by
  induction items with
  | nil => rfl
  | cons item items ih => rw [List.map_cons, toJsonItems, toJson_storedItem, ih, List.map_cons]

/-- The JSON form of the document of an order, in which the identity comes last. -/
theorem toJson_document (o : Order) :
    toJson (document o) = .object (o.otherMembers ++ [("id", .string o.id)]) := by
  have hid : Fields.get? (document o) storedId = some (.string o.id) := rfl
  have hrename : rename (document o) storedId callerId =
      (document o).dropLast ++ [(callerId, .string o.id)] := by
    rw [rename_eq hid]
    all_goals simp [Fields.names, Fields.without, document, callerId, storedId]
  rw [toJson, hrename]
  simp [document, toJsonValue, toJsonEntries, toJsonEntry, toJsonItems_map, toJson_storedFloat,
    Order.otherMembers, callerId]

/-- The document of an order reads back with its times as they are told. -/
theorem order_document_told {o : Order} (h : o.IsReadable) :
    order (document o) = .ok o.told := by
  have hperm : (o.otherMembers ++ [("id", Json.string o.id)]).Perm
      (("id", Json.string o.id) :: o.otherMembers) := List.perm_append_comm
  rw [order, toJson_document, Order.bind_members h hperm]
  simp [Order.otherMembers, Order.withField, Order.told]

/-- The document of an order reads back up to the millisecond. -/
theorem order_document {o : Order} (h : o.IsStorable) : order (document o) = .ok o.truncated := by
  rw [order_document_told h.isReadable, h.told_eq]

/-- Documents of orders are read as a whole. -/
theorem orders_map_document {os : List Order} (h : ∀ o ∈ os, o.IsStorable) :
    orders (os.map document) = .ok (os.map Order.truncated) := by
  simp only [orders, List.mapM_map]
  refine mapM_eq_ok_map fun o ho => ?_
  simp only [Function.comp_apply, order_document (h o ho)]
  rfl

/-! ### The identity of any document -/

theorem get?_toJsonEntries (entries : List (String × Bson)) (name : String) :
    Fields.get? (toJsonEntries entries) name = (Fields.get? entries name).map toJsonValue := by
  induction entries with
  | nil => rfl
  | cons entry entries ih =>
      obtain ⟨key, value⟩ := entry
      rw [toJsonEntries, toJsonEntry, Fields.get?_cons, Fields.get?_cons, ih]
      split <;> rfl

theorem lookup_ofMembers (members : List (String × Json)) (name : String) :
    (Draft.ofMembers members).lookup (some name) =
      (Fields.get? members name).map Draft.ofValue := by
  induction members with
  | nil => rfl
  | cons member members ih =>
      obtain ⟨key, value⟩ := member
      rw [Draft.ofMembers, Draft.ofMember, List.lookup_cons, Fields.get?_cons, ih]
      by_cases h : key = name
      · simp [h]
      · have hne : (some name == some key) = false := by simpa using Ne.symm h
        rw [hne, if_neg h]

/-- Only the part for the identity writes it. -/
theorem spares_id : Binding.Spares Order.parts Order.id "id" := by
  intro part hpart hne room d r r' h
  simp only [Order.parts, List.mem_cons, List.not_mem_nil, or_false] at hpart
  rcases hpart with rfl | rfl | rfl | rfl | rfl | rfl | rfl | rfl | rfl
  · exact absurd rfl hne
  all_goals exact Binding.Part.of_spares h fun _ _ => rfl

/-- A document that holds an order holds it under its identity. -/
theorem id_of_order {d : Document} {o : Order} {id : String}
    (hid : Fields.get? d storedId = some (.string id)) (h : order d = .ok o) : o.id = id := by
  have hmember : (Draft.ofMembers (toJsonEntries (rename d storedId callerId))).lookup
      (some "id") = some (.string id) := by
    rw [lookup_ofMembers, get?_toJsonEntries, rename, hid]
    simp only [callerId, Fields.get?_set_self]
    rfl
  simp only [order, toJson, toJsonValue, Binding.ofValue, Order.bind, Draft.ofValue,
    Binding.record, Binding.enter, Json.Room.enter?, ok_bind] at h
  cases hbind : Binding.bindMembers Order.parts none [] {}
      (Draft.ofMembers (toJsonEntries (rename d storedId callerId))) with
  | error flaw => rw [hbind] at h; cases h
  | ok r =>
      rw [hbind] at h
      obtain rfl : r = o := Except.ok.inj h
      refine Binding.bindMembers_field spares_id ?_ ⟨_, rfl, rfl, ?_⟩ List.not_mem_nil hmember
        hbind
      · intro key part hfind hname
        have hmem := List.mem_of_find?_eq_some hfind
        have hanswers := List.find?_some hfind
        simp only [Order.parts, List.mem_cons, List.not_mem_nil, or_false] at hmem
        rcases hmem with rfl | rfl | rfl | rfl | rfl | rfl | rfl | rfl | rfl
        · simpa [Binding.Part.answersTo, Binding.Part.of, eq_comm] using hanswers
        all_goals exact absurd hname (by decide)
      · intro r r' hr
        obtain rfl := Except.ok.inj hr
        rfl

end Documents

end OrderDesk
