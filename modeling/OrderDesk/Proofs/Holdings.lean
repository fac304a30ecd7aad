import Mathlib.Data.List.Nodup
import Mathlib.Tactic.Common
import OrderDesk.Proofs.Hits
import OrderDesk.Service.Backends
import OrderDesk.Service.Orders

/-! # What backends hold

A store that holds orders in a sequence holds their documents in that sequence, and an index
their JSON forms. Each operation on a backend is an operation on such a sequence: what is new goes
to its end, and what is deleted is left out.
-/

namespace OrderDesk

/-! ### Stores -/

namespace Documents.Collection

@[simp] theorem idOf_document (o : Order) : idOf (document o) = some o.id := rfl

@[simp] theorem ids_map_document (os : List Order) : ids (os.map document) = os.map (·.id) := by
  rw [ids, List.filterMap_map, ← List.filterMap_eq_map]
  rfl

theorem insert_document {os : List Order} {o : Order} (h : o.id ∉ os.map (·.id)) :
    insert (os.map document) o = .ok ((os ++ [o]).map document) := by
  have hnew : (os.map document).any (idOf · = some o.id) = false := by
    rw [List.any_map, List.any_eq_false]
    intro other hother
    simp only [Function.comp_apply, idOf_document, Option.some.injEq, decide_eq_true_eq]
    exact fun heq => h (List.mem_map.mpr ⟨other, hother, heq⟩)
  simp only [insert, ofOrder_eq, hnew, List.map_append, List.map_cons, List.map_nil]
  rfl

/-- The store refuses a second order with an identity. -/
theorem insert_document_of_mem {os : List Order} {o : Order} (h : o.id ∈ os.map (·.id)) :
    insert (os.map document) o = .error (.refused .store ("Duplicate key: " ++ o.id)) := by
  obtain ⟨other, hother, hid⟩ := List.mem_map.mp h
  have hknown : (os.map document).any (idOf · = some o.id) = true := by
    rw [List.any_map, List.any_eq_true]
    exact ⟨other, hother, by simp [hid]⟩
  simp only [insert, ofOrder_eq, hknown, if_true]

theorem findById_document (os : List Order) (id : String) :
    findById (os.map document) id = (os.find? (·.id = id)).map document := by
  rw [findById, List.find?_map]
  congr 2
  funext o
  simp

theorem remove_document (os : List Order) (id : String) :
    remove (os.map document) id = (os.filter (·.id ≠ id)).map document := by
  rw [remove, List.filter_map]
  congr 2
  funext o
  simp

end Documents.Collection

/-- A store holds orders that can be read back, no two with the same identity. -/
structure Documents.Collection.Holds (c : Collection) (os : List Order) : Prop where
  documents_eq : c = os.map document
  ids_nodup : (os.map (·.id)).Nodup
  isStorable : ∀ o ∈ os, o.IsStorable

namespace Documents.Collection.Holds

variable {c : Collection} {os : List Order}

theorem nil : Holds [] [] := ⟨rfl, List.nodup_nil, by simp⟩

theorem append {o : Order} (h : c.Holds os) (hnew : o.id ∉ os.map (·.id)) (ho : o.IsStorable) :
    Holds ((os ++ [o]).map document) (os ++ [o]) where
  documents_eq := rfl
  ids_nodup := by
    rw [List.map_append, List.nodup_append]
    refine ⟨h.ids_nodup, by simp, ?_⟩
    rintro id hid other hother rfl
    rw [List.map_cons, List.map_nil, List.mem_singleton] at hother
    exact hnew (hother ▸ hid)
  isStorable := by
    intro other hother
    rcases List.mem_append.mp hother with hmem | hlast
    · exact h.isStorable other hmem
    · rw [List.mem_singleton.mp hlast]
      exact ho

theorem filter (h : c.Holds os) (id : String) :
    Holds (c.remove id) (os.filter (·.id ≠ id)) where
  documents_eq := by rw [h.documents_eq, remove_document]
  ids_nodup := h.ids_nodup.sublist (List.filter_sublist.map _)
  isStorable := fun o ho => h.isStorable o (List.mem_filter.mp ho).1

/-- A lookup finds the document of the order with that identity. -/
theorem findById_eq_some {o : Order} (h : c.Holds os) (ho : o ∈ os) :
    c.findById o.id = some (document o) := by
  have hfind : os.find? (·.id = o.id) = some o := by
    cases hfound : os.find? (·.id = o.id) with
    | none =>
        rw [List.find?_eq_none] at hfound
        exact absurd (decide_eq_true rfl) (hfound o ho)
    | some other =>
        have hid : other.id = o.id := by simpa using List.find?_some hfound
        rw [List.inj_on_of_nodup_map h.ids_nodup (List.mem_of_find?_eq_some hfound) ho hid]
  rw [h.documents_eq, findById_document, hfind]
  rfl

theorem findById_eq_none {id : String} (h : c.Holds os) (hid : id ∉ os.map (·.id)) :
    c.findById id = none := by
  have hfind : os.find? (·.id = id) = none := by
    rw [List.find?_eq_none]
    intro o ho
    simp only [decide_eq_true_eq]
    exact fun heq => hid (List.mem_map.mpr ⟨o, ho, heq⟩)
  rw [h.documents_eq, findById_document, hfind]
  rfl

theorem remove_of_not_mem {id : String} (h : c.Holds os) (hid : id ∉ os.map (·.id)) :
    c.remove id = c := by
  have hkept : os.filter (·.id ≠ id) = os := by
    refine List.filter_eq_self.mpr fun o ho => ?_
    simp only [ne_eq, decide_not, Bool.not_eq_true', decide_eq_false_iff_not]
    exact fun heq => hid (List.mem_map.mpr ⟨o, ho, heq⟩)
  rw [h.documents_eq, remove_document, hkept]

/-- Deleting an order that is held makes the store shorter. -/
theorem length_remove_lt {id : String} (h : c.Holds os) (hid : id ∈ os.map (·.id)) :
    (c.remove id).length < c.length := by
  obtain ⟨o, ho, rfl⟩ := List.mem_map.mp hid
  rw [h.documents_eq, remove_document, List.length_map, List.length_map]
  exact List.length_filter_lt_length_iff_exists.mpr ⟨o, ho, by simp⟩

/-- What is held is read back as a whole. -/
theorem orders_eq (h : c.Holds os) : orders c = .ok (os.map Order.truncated) := by
  rw [h.documents_eq]
  exact orders_map_document h.isStorable

end Documents.Collection.Holds

/-! ### Indexes -/

namespace Search

/-- The sources under which an index holds orders. -/
def sources (os : List Order) : Fields Json := os.map fun o => (o.id, o.toJson)

theorem names_sources (os : List Order) : Fields.names (sources os) = os.map (·.id) := by
  rw [Fields.names, sources, List.map_map]
  rfl

theorem set_sources {os : List Order} {o : Order} (h : o.id ∉ os.map (·.id)) :
    Fields.set (sources os) o.id o.toJson = sources (os ++ [o]) := by
  rw [Fields.set_of_not_mem _ (by rwa [names_sources]), sources, sources, List.map_append]
  rfl

theorem without_sources (os : List Order) (id : String) :
    Fields.without (sources os) id = sources (os.filter (·.id ≠ id)) := by
  rw [Fields.without, sources, sources, List.filter_map]
  rfl

/-- Indexing an order that is held already changes nothing. -/
theorem set_sources_of_mem {os : List Order} {o : Order} (hids : (os.map (·.id)).Nodup)
    (ho : o ∈ os) : Fields.set (sources os) o.id o.toJson = sources os := by
  rw [← names_sources] at hids
  exact Fields.set_of_get? (Fields.get?_of_mem hids (List.mem_map.mpr ⟨o, ho, rfl⟩))

/-! ### Hits -/

theorem shows_hit {i : Index} {o : Order} (h : o.IsStorable) :
    Shows (i.hit none (o.id, o.toJson)) o.truncated :=
  shows_of_source (fun _ => rfl) (Order.bind_toJson h)

/-- The hits of orders are read as a whole, if the response lists all of them. -/
theorem orders_response {i : Index} {os : List Order} (h : ∀ o ∈ os, o.IsStorable) :
    orders (Index.response os.length ((sources os).map (i.hit none))) =
      .ok (os.map Order.truncated) := by
  rw [orders_response_eq_ok, sources, List.map_map, List.length_map, List.forall₂_map_left_iff,
    List.forall₂_map_right_iff, List.forall₂_same]
  exact ⟨Nat.le_refl _, fun o ho => shows_hit (h o ho)⟩

end Search

/-! ### Calls to a store that holds orders -/

namespace Service.Backends

variable {b : Backends} {os : List Order}

theorem perform_insert {o : Order} (h : b.store.Holds os) (hnew : o.id ∉ os.map (·.id)) :
    b.perform (.insert o) = (.ok (), { b with store := (os ++ [o]).map Documents.document }) := by
  simp only [perform, h.documents_eq, Documents.Collection.insert_document hnew]

theorem perform_insert_of_mem {o : Order} (h : b.store.Holds os) (hknown : o.id ∈ os.map (·.id)) :
    b.perform (.insert o) = (.error (.refused .store ("Duplicate key: " ++ o.id)), b) := by
  have hrefused : b.store.insert o = .error (.refused .store ("Duplicate key: " ++ o.id)) := by
    rw [h.documents_eq, Documents.Collection.insert_document_of_mem hknown]
  simp only [perform, hrefused]

theorem perform_remove {id : String} (h : b.store.Holds os) (hknown : id ∈ os.map (·.id)) :
    b.perform (.remove id) = (.ok true, { b with store := b.store.remove id }) := by
  have hlength : ((b.store.remove id).length != b.store.length) = true := by
    have := h.length_remove_lt hknown
    simp only [bne_iff_ne, ne_eq]
    omega
  simp only [perform, hlength]

theorem perform_remove_of_not_mem {id : String} (h : b.store.Holds os)
    (hnew : id ∉ os.map (·.id)) : b.perform (.remove id) = (.ok false, b) := by
  simp only [perform, h.remove_of_not_mem hnew, bne_self_eq_false]

theorem perform_findById {o : Order} (h : b.store.Holds os) (ho : o ∈ os) :
    b.perform (.findById o.id) = (.ok (some (Documents.document o)), b) := by
  rw [perform, h.findById_eq_some ho]

theorem perform_findById_of_not_mem {id : String} (h : b.store.Holds os)
    (hnew : id ∉ os.map (·.id)) : b.perform (.findById id) = (.ok none, b) := by
  rw [perform, h.findById_eq_none hnew]

end Service.Backends

end OrderDesk
