import Mathlib.Data.List.Forall2
import Mathlib.Tactic.Common
import OrderDesk.Proofs.Agreement
import OrderDesk.Proofs.Picking

/-! # What a projection keeps

A request may name paths to keep. Both backends project the records that they would have found
without them, each to the top level of the paths, and an order is read from what is left with its
defaults for the rest. The identity is the exception: the store has it under a name of its own, to
which no path below it leads.
-/

namespace OrderDesk

open OrderDesk.Filter (Request)

/-! ### Projected sources -/

namespace Search

theorem kept?_ofPlan_of_ne_nil {p : Filter.Plan} (h : p.projection ≠ []) :
    (Body.ofPlan p).kept? = some p.projection := by
  have hpaths : (p.projection.map Json.string).filterMap Json.asString? = p.projection := by
    rw [List.filterMap_map]
    exact List.filterMap_some
  cases hkept : p.projection with
  | nil => exact absurd hkept h
  | cons path paths =>
      rw [hkept] at hpaths
      cases hsort : p.sort <;>
        simpa [Body.kept?, Body.ofPlan, hsort, hkept, Fields.get?_cons] using hpaths

/-- A projected source has the members at the top of the paths. -/
theorem project_object (fields : List String) (members : List (String × Json)) :
    project fields (.object members) =
      .object ((fields.map FieldPath.top).foldl (Fields.pick members) []) := by
  rw [project, List.foldl_map]
  congr 2
  funext kept field
  cases hget : Fields.get? members (FieldPath.top field) <;> simp only [Fields.pick, hget]

theorem found_subset (i : Index) (body : Body) : i.found body ⊆ i.sources :=
  List.Subset.trans (List.mergeSort_perm _ _).subset (List.filter_subset_self _)

theorem length_found_le (i : Index) (body : Body) : (i.found body).length ≤ i.sources.length := by
  rw [Index.found, List.length_mergeSort]
  exact List.length_filter_le _ _

/-- The paths to keep have no part in what is found. -/
theorem found_whole (i : Index) (r : Request) :
    i.found (.ofRequest { r with fields := [] }) = i.found (.ofRequest r) := by
  have hsort : (Body.ofRequest { r with fields := [] }).sort = (Body.ofRequest r).sort := by
    rw [Body.ofRequest, Body.ofRequest, sort_ofPlan, sort_ofPlan]
    rfl
  rw [Index.found, Index.found, hsort]
  rfl

/-- A hit of a request holds what the paths of the request keep of an order. -/
theorem shows_hit_keep {i : Index} {o : Order} (h : o.IsReadable) (r : Request) :
    Shows (i.hit (Body.ofRequest r).kept? (o.id, o.toJson)) (o.told.keep r.fields) := by
  by_cases hfields : r.fields = []
  · have hplan : r.plan.projection = [] := Filter.covering_eq_nil.mpr hfields
    rw [Body.ofRequest, kept?_ofPlan hplan, hfields]
    exact shows_of_source (fun _ => rfl) (Order.bind_toJson_told h)
  · have hplan : r.plan.projection ≠ [] := mt Filter.covering_eq_nil.mp hfields
    have hpicked := (Fields.Picks.nil (("id", Json.string o.id) :: o.otherMembers)).foldl
      (r.plan.projection.map FieldPath.top)
    rw [Body.ofRequest, kept?_ofPlan_of_ne_nil hplan, Order.keep_of_ne_nil hfields]
    refine shows_of_source (fun position => ?_) (Order.bind_picked h hpicked fun part _ => ?_)
    · rw [← project_object]
      rfl
    · rw [false_or]
      exact Filter.mem_map_top_covering

/-- What a search finds is read as what the paths keep of it, if it fits into the window. -/
theorem orders_search {i : Index} {found : List Order} {r : Request}
    (hfound : i.found (.ofRequest r) = sources found) (hstorable : ∀ o ∈ found, o.IsStorable)
    (hlength : found.length ≤ windowSize) :
    orders (i.search (.ofRequest r)) = .ok (found.map fun o => o.truncated.keep r.fields) := by
  have hcount : (sources found).length = found.length := List.length_map _
  have hwindow : (i.found (.ofRequest r)).length ≤ windowSize := by
    rw [hfound, hcount]
    exact hlength
  rw [search_eq_response hwindow, hfound, orders_response_eq_ok, List.length_map, sources,
    List.map_map, List.forall₂_map_left_iff, List.forall₂_map_right_iff, List.forall₂_same]
  refine ⟨Nat.le_refl _, fun o ho => ?_⟩
  rw [← (hstorable o ho).told_eq]
  exact shows_hit_keep (hstorable o ho).isReadable r

end Search

/-! ### Projected documents -/

namespace Documents

open OrderDesk.Filter (isReserved covering)

/-- Whether a projection keeps the identity. -/
def keepsIdentity (projection : Document) : Bool :=
  !((Fields.get? projection storedId).map isZero).getD false

/-- The paths that a projection names, besides the identity. -/
def namedPaths (projection : Document) : List String :=
  Fields.names (projection.filter fun entry => !(entry.1 = storedId || isZero entry.2))

/-- A projected document has its identity, if that is kept, and the entries at the top of the paths
that are named. -/
theorem picks_project (projection d : Document) :
    Fields.Picks d (fun name => (keepsIdentity projection = true ∧ name = storedId) ∨
      name ∈ (namedPaths projection).map FieldPath.top) (project projection d) := by
  have hidentity : Fields.Picks d (fun name => keepsIdentity projection = true ∧ name = storedId)
      (if keepsIdentity projection then d.pick [] storedId else []) := by
    split
    · next hkeeps => exact ((Fields.Picks.nil d).pick storedId).congr fun name _ => by simp [hkeeps]
    · next hkeeps => exact (Fields.Picks.nil d).congr fun name _ => by simp [hkeeps]
  have hproject : project projection d = ((namedPaths projection).map FieldPath.top).foldl d.pick
      (if keepsIdentity projection then d.pick [] storedId else []) := by
    rw [namedPaths, Fields.names, List.map_map, List.foldl_map, project]
    congr 1
    · funext kept entry
      cases hget : Fields.get? d (FieldPath.top entry.1) <;> simp [Fields.pick, hget]
    · rw [← keepsIdentity, Fields.pick]
      cases Fields.get? d storedId <;> rfl
  rw [hproject]
  exact hidentity.foldl _

theorem storedName_eq_storedId {field : String} (h : isReserved field = false) :
    storedName field = storedId ↔ field = callerId :=
  ⟨fun hname => storedName_inj h (by decide) hname, fun hfield => hfield ▸ rfl⟩

/-- The projection of some paths keeps each of them under its stored name, and leaves out the
identity if that is not among them. -/
theorem mem_projection?_iff {fields : List String} {projection : Document}
    (hreserved : ∀ field ∈ fields, isReserved field = false)
    (h : projection? fields = some projection) (name : String) (flag : Bson) :
    (name, flag) ∈ projection ↔ (flag = .int32 1 ∧ ∃ field ∈ fields, storedName field = name) ∨
      flag = .int32 0 ∧ name = storedId ∧ callerId ∉ fields := by
  let kept : Document := Fields.ofEntries (fields.map fun field => (storedName field, .int32 1))
  have hkept : ∀ name flag, (name, flag) ∈ kept ↔
      flag = .int32 1 ∧ ∃ field ∈ fields, storedName field = name :=
    fun name flag => Fields.mem_ofEntries_constant
  have hid : Fields.has kept storedId = true ↔ callerId ∈ fields := by
    rw [Fields.has_eq, Fields.mem_names_ofEntries, Fields.names, List.map_map, List.mem_map]
    constructor
    · rintro ⟨field, hfield, hname⟩
      rwa [← (storedName_eq_storedId (hreserved field hfield)).mp hname]
    · exact fun hfield => ⟨callerId, hfield, rfl⟩
  unfold projection? at h
  split at h
  · cases h
  · obtain rfl := Option.some.inj h
    rw [← hkept, ← hid]
    split
    · next hhas => simp [kept, hhas]
    · next hhas => simp [kept, hhas, and_comm]

theorem isZero_one : isZero (.int32 1) = false := by decide +kernel

theorem isZero_zero : isZero (.int32 0) = true := by decide +kernel

/-- A projection keeps the identity if that is one of its paths. -/
theorem keepsIdentity_iff {fields : List String} {projection : Document}
    (hreserved : ∀ field ∈ fields, isReserved field = false)
    (h : projection? fields = some projection) :
    keepsIdentity projection = true ↔ callerId ∈ fields := by
  have hmem := mem_projection?_iff hreserved h storedId
  cases hflag : Fields.get? projection storedId with
  | none =>
      -- One of the two flags is there, whichever it is.
      have habsent : ∀ flag, (storedId, flag) ∉ projection := fun flag hin =>
        Fields.get?_eq_none.mp hflag (List.mem_map.mpr ⟨_, hin, rfl⟩)
      by_cases hfield : callerId ∈ fields
      · exact absurd ((hmem _).mpr (.inl ⟨rfl, callerId, hfield, rfl⟩)) (habsent _)
      · exact absurd ((hmem _).mpr (.inr ⟨rfl, rfl, hfield⟩)) (habsent _)
  | some flag =>
      rcases (hmem flag).mp (Fields.mem_of_get? hflag) with
        ⟨rfl, field, hfield, hname⟩ | ⟨rfl, -, hno⟩
      · obtain rfl := (storedName_eq_storedId (hreserved field hfield)).mp hname
        simp [keepsIdentity, hflag, isZero_one, hfield]
      · simp [keepsIdentity, hflag, isZero_zero, hno]

theorem mem_namedPaths_iff {fields : List String} {projection : Document}
    (hreserved : ∀ field ∈ fields, isReserved field = false)
    (h : projection? fields = some projection) (path : String) :
    path ∈ namedPaths projection ↔ path ∈ fields ∧ path ≠ callerId := by
  have hmem := mem_projection?_iff hreserved h
  constructor
  · intro hpath
    obtain ⟨⟨path, flag⟩, hentry, rfl⟩ := List.mem_map.mp hpath
    obtain ⟨hin, hflag⟩ := List.mem_filter.mp hentry
    rcases (hmem path flag).mp hin with ⟨rfl, field, hfield, rfl⟩ | ⟨rfl, rfl, -⟩
    · have hne : field ≠ callerId := by
        rintro rfl
        simp [storedName, callerId] at hflag
      rw [storedName, if_neg hne]
      exact ⟨hfield, hne⟩
    · simp at hflag
  · rintro ⟨hfield, hne⟩
    have hname : storedName path = path := if_neg hne
    have hin := (hmem path (.int32 1)).mpr (.inl ⟨rfl, path, hfield, hname⟩)
    have hstored : path ≠ storedId := fun heq =>
      hne ((storedName_eq_storedId (hreserved path hfield)).mp (hname.trans heq))
    refine List.mem_map.mpr ⟨_, List.mem_filter.mpr ⟨hin, ?_⟩, rfl⟩
    simp [hstored, isZero_one]

/-- What a request with some paths keeps of a document. -/
def kept (fields : List String) (d : Document) : Document :=
  ((projection? (covering fields)).map (project · d)).getD d

/-- A query finds what it would have found without its paths, each projected. -/
theorem find_eq_map_kept (c : Collection) (r : Request) :
    c.find (.ofRequest r) = (c.find (.ofRequest { r with fields := [] })).map (kept r.fields) := by
  have hprojected : ∀ q : Query, c.find q = (c.find { q with projection := none }).map fun d =>
      (q.projection.map (project · d)).getD d := by
    rintro ⟨filter, _ | projection, sort⟩
    · simp [Collection.find]
    · rfl
  have hwhole : { Query.ofRequest r with projection := none } =
      Query.ofRequest { r with fields := [] } := rfl
  rw [hprojected, hwhole]
  rfl

/-- A path that is not reserved does not lead to the stored name of the identity. -/
theorem top_ne_storedId {path : String} (h : isReserved path = false) :
    FieldPath.top path ≠ storedId := by
  simp only [isReserved, Bool.or_eq_false_iff, decide_eq_false_iff_not] at h
  intro htop
  rcases (FieldPath.top_eq_iff (by decide)).mp htop with hpath | hbelow
  · exact h.1 hpath
  · exact Bool.false_ne_true (h.2.symm.trans hbelow)

theorem callerId_not_mem_document (o : Order) : callerId ∉ Fields.names (document o) := by
  simp [document, Fields.names, callerId, storedId]

/-- The entries of the document of an order that some paths keep: those at the top of them, and the
identity if that is one of them. -/
theorem picks_kept {fields : List String} (o : Order) (hne : fields ≠ [])
    (hreserved : ∀ field ∈ fields, isReserved field = false) :
    Fields.Picks (document o)
      (fun name => if name = storedId then callerId ∈ fields else name ∈ fields.map FieldPath.top)
      (kept fields (document o)) := by
  have hcovering : covering fields ≠ [] := mt Filter.covering_eq_nil.mp hne
  have hreserved' : ∀ field ∈ covering fields, isReserved field = false :=
    fun field hfield => hreserved field (Filter.mem_covering_iff.mp hfield).1
  obtain ⟨projection, hprojection⟩ :
      ∃ projection, projection? (covering fields) = some projection :=
    ⟨_, if_neg (by simpa using hcovering)⟩
  have hkept : kept fields (document o) = project projection (document o) := by
    simp [kept, hprojection]
  have hid : callerId ∈ covering fields ↔ callerId ∈ fields :=
    Filter.mem_covering_iff_of_not_mem (by decide)
  rw [hkept]
  refine (picks_project projection (document o)).congr fun name hname => ?_
  rw [keepsIdentity_iff hreserved' hprojection, hid]
  by_cases hstored : name = storedId
  · have htop : storedId ∉ (namedPaths projection).map FieldPath.top := by
      intro hmem
      obtain ⟨path, hpath, htop⟩ := List.mem_map.mp hmem
      have hfield := ((mem_namedPaths_iff hreserved' hprojection path).mp hpath).1
      exact top_ne_storedId (hreserved' path hfield) htop
    simp [hstored, htop]
  · have hcaller : name ≠ callerId := fun heq => callerId_not_mem_document o (heq ▸ hname)
    have htops : name ∈ fields.map FieldPath.top ↔ name ∈ (covering fields).map FieldPath.top :=
      Filter.mem_map_top_covering.symm
    rw [if_neg hstored, htops]
    simp only [hstored, and_false, false_or, List.mem_map,
      mem_namedPaths_iff hreserved' hprojection]
    refine exists_congr fun path => and_congr_left fun htop => and_iff_left ?_
    rintro rfl
    exact hcaller (htop ▸ by decide)

theorem toJsonEntries_eq_map (entries : List (String × Bson)) :
    toJsonEntries entries = entries.map toJsonEntry := by
  induction entries with
  | nil => rfl
  | cons entry entries ih => rw [toJsonEntries, ih, List.map_cons]

/-- The JSON form of a document, in which the identity comes last. -/
theorem toJson_eq_append {d : Document} {id : String}
    (hid : ∀ value, Fields.get? d storedId = some value → value = .string id)
    (hcaller : callerId ∉ Fields.names (Fields.without d storedId)) :
    toJson d = .object ((Fields.without d storedId).map toJsonEntry ++
      if storedId ∈ Fields.names d then [(callerId, .string id)] else []) := by
  rw [toJson, toJsonValue, toJsonEntries_eq_map]
  cases hvalue : Fields.get? d storedId with
  | none =>
      have habsent : storedId ∉ Fields.names d := Fields.get?_eq_none.mp hvalue
      rw [rename, hvalue, Fields.without_of_not_mem habsent, if_neg habsent, List.append_nil]
  | some value =>
      have hmem : storedId ∈ Fields.names d :=
        List.mem_map.mpr ⟨_, Fields.mem_of_get? hvalue, rfl⟩
      rw [rename_eq hvalue hcaller, if_pos hmem, List.map_append, hid value hvalue]
      rfl

/-- Entries that are picked from the document of an order are members of its JSON form, where the
identity has the name that callers use. -/
theorem picks_toJson {o : Order} {wanted : String → Prop} {d : Document}
    (h : Fields.Picks (document o) wanted d) :
    ∃ members, toJson d = .object members ∧
      Fields.Picks (("id", Json.string o.id) :: o.otherMembers)
        (fun name => if name = callerId then wanted storedId else wanted name) members := by
  have hothers : (Fields.without (document o) storedId).map toJsonEntry = o.otherMembers := by
    simp [Fields.without, document, toJsonEntry, toJsonValue, toJsonItems_map, toJson_storedFloat,
      Order.otherMembers, storedId]
  have hrest := h.without storedId
  have hname : ∀ entry, (toJsonEntry entry).1 = entry.1 := by
    rintro ⟨name, value⟩
    rfl
  have hpicked : Fields.Picks o.otherMembers wanted ((Fields.without d storedId).map toJsonEntry) :=
    hothers ▸ hrest.map hname
  have hcaller : callerId ∉ Fields.names (Fields.without d storedId) := by
    rw [hrest.mem_names, Fields.mem_names_without]
    exact fun hmem => callerId_not_mem_document o hmem.2.1
  have hid : ∀ value, Fields.get? d storedId = some value → value = .string o.id := by
    intro value hvalue
    have hin := h.subset (Fields.mem_of_get? hvalue)
    simpa [document, storedId] using hin
  have hstored : storedId ∈ Fields.names d ↔ wanted storedId := by
    rw [h.mem_names]
    exact and_iff_left (by simp [document, Fields.names])
  refine ⟨_, toJson_eq_append hid hcaller, ?_⟩
  refine (hpicked.concat ?_ (.string o.id) (storedId ∈ Fields.names d)).congr fun name _ => ?_
  · simp [Fields.names, Order.otherMembers]
  · rw [hstored]
    rfl

theorem order_kept {o : Order} (h : o.IsReadable) {fields : List String}
    (hreserved : ∀ field ∈ fields, isReserved field = false) :
    order (kept fields (document o)) = .ok (o.told.keepIn .store fields) := by
  by_cases hne : fields = []
  · have hkept : kept fields (document o) = document o := by
      rw [hne]
      rfl
    rw [hkept, order_document_told h, hne]
    rfl
  · obtain ⟨members, hmembers, hpicked⟩ := picks_toJson (picks_kept o hne hreserved)
    have htop : callerId ∈ fields → callerId ∈ fields.map FieldPath.top := fun hid =>
      List.mem_map.mpr ⟨callerId, hid, by decide⟩
    have hstore : o.told.keepIn .store fields = o.told.only
        ((fields.map FieldPath.top).filter fun name => name ≠ callerId ∨ callerId ∈ fields) := by
      rw [Order.keepIn, Order.keep_of_ne_nil hne]
      simp only [callerId] at htop
      simp [Order.only, List.mem_filter, callerId, hne, and_iff_right_of_imp htop, -List.mem_map]
    rw [order, hmembers, hstore]
    apply Order.bind_picked h hpicked
    intro part hpart
    have hstored : ∀ part ∈ Order.parts, part.name ≠ storedId := by decide
    rw [List.mem_filter, if_neg (hstored part hpart)]
    by_cases hid : part.name = callerId
    · simp [hid, and_iff_right_of_imp htop, -List.mem_map]
    · simp [hid, -List.mem_map]

/-- A query without a projection finds documents as they are. -/
theorem find_subset (c : Collection) {q : Query} (h : q.projection = none) : c.find q ⊆ c := by
  rw [Collection.find, h]
  cases q.sort with
  | none => exact List.filter_subset_self _
  | some keys =>
      exact List.Subset.trans (List.mergeSort_perm _ _).subset (List.filter_subset_self _)

/-- Found documents of orders are read as what the paths keep of the orders. -/
theorem orders_map_kept {os : List Order} {fields : List String} (h : ∀ o ∈ os, o.IsStorable)
    (hreserved : ∀ field ∈ fields, isReserved field = false) :
    orders ((os.map document).map (kept fields)) =
      .ok (os.map fun o => o.truncated.keepIn .store fields) := by
  simp only [orders, List.mapM_map]
  refine mapM_eq_ok_map fun o ho => ?_
  rw [Function.comp_apply, Function.comp_apply, order_kept (h o ho).isReadable hreserved,
    (h o ho).told_eq]
  rfl

end Documents

/-! ### Answers -/

/-- What is taken from the images of a list is the images of a part of it. -/
theorem exists_map_eq_of_subset {α β : Type} {f : α → β} {xs : List α} {ys : List β}
    (h : ys ⊆ xs.map f) : ∃ zs, zs ⊆ xs ∧ zs.map f = ys := by
  induction ys with
  | nil => exact ⟨[], List.nil_subset _, rfl⟩
  | cons y ys ih =>
      obtain ⟨hy, hys⟩ := List.cons_subset.mp h
      obtain ⟨x, hx, rfl⟩ := List.mem_map.mp hy
      obtain ⟨zs, hzs, rfl⟩ := ih hys
      exact ⟨x :: zs, List.cons_subset.mpr ⟨hx, hzs⟩, rfl⟩

namespace Service

open Documents (Collection document)
open Search (Index sources)

theorem check_whole {r : Request} (hvalid : r.check = .ok ()) :
    ({ r with fields := [] } : Request).check = .ok () := by
  obtain ⟨hexact, hmatch, -, hsort⟩ := Filter.Request.check_eq_ok.mp hvalid
  exact Filter.Request.check_eq_ok.mpr ⟨hexact, hmatch, List.forall_mem_nil _, hsort⟩

theorem filter_store_keeps {os : List Order} {r : Request} (index : Index)
    (hstorable : ∀ o ∈ os, o.IsStorable) (hvalid : r.check = .ok ()) :
    ∃ found,
      (Backends.run (filter .store { r with fields := [] }) ⟨os.map document, index⟩).1 =
        .ok found ∧
      (Backends.run (filter .store r) ⟨os.map document, index⟩).1 =
        .ok (found.map (Order.keepIn .store r.fields)) := by
  have hsubset : Collection.find (os.map document) (.ofRequest { r with fields := [] }) ⊆
      os.map document := Documents.find_subset _ rfl
  obtain ⟨held, hheld, hfind⟩ := exists_map_eq_of_subset hsubset
  have hstorable : ∀ o ∈ held, o.IsStorable := fun o ho => hstorable o (hheld ho)
  refine ⟨held.map Order.truncated, ?_, ?_⟩
  · rw [run_filter_store (check_whole hvalid), ← hfind]
    exact Documents.orders_map_document hstorable
  · rw [run_filter_store hvalid, Documents.find_eq_map_kept, ← hfind,
      Documents.orders_map_kept hstorable (Filter.Request.isReserved_fields hvalid), List.map_map]
    rfl

theorem filter_index_keeps {os : List Order} {r : Request} (store : Collection) (name : String)
    (hstorable : ∀ o ∈ os, o.IsStorable) (hlength : os.length ≤ Search.windowSize)
    (hvalid : r.check = .ok ()) :
    ∃ found,
      (Backends.run (filter .index { r with fields := [] }) ⟨store, ⟨name, sources os⟩⟩).1 =
        .ok found ∧
      (Backends.run (filter .index r) ⟨store, ⟨name, sources os⟩⟩).1 =
        .ok (found.map (Order.keepIn .index r.fields)) := by
  have hsubset := Search.found_subset ⟨name, sources os⟩ (.ofRequest r)
  obtain ⟨held, hheld, hfound⟩ := exists_map_eq_of_subset hsubset
  have hstorable : ∀ o ∈ held, o.IsStorable := fun o ho => hstorable o (hheld ho)
  have hwindow : held.length ≤ Search.windowSize := by
    have hle := Search.length_found_le ⟨name, sources os⟩ (.ofRequest r)
    rw [← hfound, List.length_map, sources, List.length_map] at hle
    exact Nat.le_trans hle hlength
  refine ⟨held.map Order.truncated, ?_, ?_⟩
  · rw [run_filter_index (check_whole hvalid)]
    exact Search.orders_search ((Search.found_whole _ r).trans hfound.symm) hstorable hwindow
  · rw [run_filter_index hvalid, Search.orders_search hfound.symm hstorable hwindow, List.map_map]
    rfl

/-- A request with paths finds what it would find without them, and of each order what the backend
keeps. These are the fields at the top of the paths, except that the store drops the identity where
only paths below it are named. -/
theorem filter_keeps_fields {os : List Order} {r : Request} (hmade : ∀ o ∈ os, o.IsMade)
    (hids : (os.map (·.id)).Nodup) (hlength : os.length ≤ 10000) (hvalid : r.check = .ok ()) :
    ∃ store, os.foldlM Collection.insert [] = .ok store ∧ ∀ backend, ∃ found,
      (Backends.run (filter backend { r with fields := [] }) ⟨store, os.foldl Index.put {}⟩).1 =
        .ok found ∧
      (Backends.run (filter backend r) ⟨store, os.foldl Index.put {}⟩).1 =
        .ok (found.map (Order.keepIn backend r.fields)) ∧
      ((backend = .store →
          ∀ field ∈ r.fields, FieldPath.isBelow field "id" = true → "id" ∈ r.fields) →
        (Backends.run (filter backend r) ⟨store, os.foldl Index.put {}⟩).1 =
          .ok (found.map (Order.keep r.fields))) := by
  have hstorable : ∀ o ∈ os, o.IsStorable := fun o ho => (hmade o ho).isStorable
  have hindex : os.foldl Index.put {} = ⟨"orders", sources os⟩ := foldl_put hids _
  refine ⟨os.map document, foldlM_insert hids, fun backend => ?_⟩
  have hkeeps : ∃ found,
      (Backends.run (filter backend { r with fields := [] })
        ⟨os.map document, ⟨"orders", sources os⟩⟩).1 = .ok found ∧
      (Backends.run (filter backend r) ⟨os.map document, ⟨"orders", sources os⟩⟩).1 =
        .ok (found.map (Order.keepIn backend r.fields)) := by
    cases backend with
    | store => exact filter_store_keeps _ hstorable hvalid
    | index => exact filter_index_keeps _ _ hstorable hlength hvalid
  obtain ⟨found, hwhole, hkept⟩ := hkeeps
  rw [hindex]
  refine ⟨found, hwhole, hkept, fun hnamed => ?_⟩
  rw [hkept, Order.keepIn_eq_keep hnamed]

/-- Both backends keep the city and the line items of new orders. -/
theorem filter_keeps_fields_city :
    let os := [pensOrder "a" "Aachen", pensOrder "b" "Bonn"]
    let r : Request :=
      { matching := [("status", .string "NEW")], fields := ["city", "lineItems.name", "none"] }
    ∃ store, os.foldlM Collection.insert [] = .ok store ∧ ∀ backend, ∃ found,
      (Backends.run (filter backend { r with fields := [] }) ⟨store, os.foldl Index.put {}⟩).1 =
        .ok found ∧
      (Backends.run (filter backend r) ⟨store, os.foldl Index.put {}⟩).1 =
        .ok (found.map fun o => { city := o.city, lineItems := o.lineItems }) := by
  intro os r
  have hmade : ∀ o ∈ os, o.IsMade := by simp [os, pensOrder_isMade]
  have hkeep : Order.keep r.fields = fun o => { city := o.city, lineItems := o.lineItems } := by
    funext o
    have htops : r.fields.map FieldPath.top = ["city", "lineItems", "none"] := by decide
    rw [Order.keep_of_ne_nil (by decide), htops]
    simp [Order.only]
  obtain ⟨store, hstore, hfilter⟩ :=
    filter_keeps_fields hmade (by decide) (by decide) (rfl : r.check = .ok ())
  refine ⟨store, hstore, fun backend => ?_⟩
  obtain ⟨found, hwhole, -, hkept⟩ := hfilter backend
  exact ⟨found, hwhole, hkeep ▸ hkept fun _ => by decide⟩

/-- The store loses the identity of an order that is asked for by a path below it. -/
theorem filter_store_loses_id :
    let os := [pensOrder "a" "Bonn"]
    let r : Request := { fields := ["id.x"] }
    r.check = .ok () ∧ (∀ o ∈ os, o.IsMade) ∧ ∃ store, os.foldlM Collection.insert [] = .ok store ∧
      ∃ found,
        (Backends.run (filter .store { r with fields := [] }) ⟨store, os.foldl Index.put {}⟩).1 =
          .ok found ∧
        (Backends.run (filter .store r) ⟨store, os.foldl Index.put {}⟩).1 ≠
          .ok (found.map (Order.keep r.fields)) := by
  intro os r
  have hvalid : r.check = .ok () := rfl
  have hmade : ∀ o ∈ os, o.IsMade := by simp [os, pensOrder_isMade]
  have hstorable : ∀ o ∈ os, o.IsStorable := fun o ho => (hmade o ho).isStorable
  have hfind : Collection.find (os.map document) (.ofRequest { r with fields := [] }) =
      os.map document := rfl
  refine ⟨hvalid, hmade, os.map document, foldlM_insert (by decide), os.map Order.truncated, ?_, ?_⟩
  · rw [run_filter_store (check_whole hvalid), hfind, Documents.orders_map_document hstorable]
  · rw [run_filter_store hvalid, Documents.find_eq_map_kept, hfind,
      Documents.orders_map_kept hstorable (Filter.Request.isReserved_fields hvalid)]
    intro heq
    have hids := congrArg (List.map (·.id)) (Except.ok.inj heq)
    revert hids
    decide +kernel

end Service

end OrderDesk
