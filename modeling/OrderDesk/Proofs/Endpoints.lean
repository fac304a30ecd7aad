import Mathlib.Tactic.Common
import OrderDesk.Cluster.Calls
import OrderDesk.Proofs.Segments

/-! # The addresses of documents

Every request that puts or deletes an order goes to an address below the one of a node. It is that
of a single document, spelled like the identity, for all identities that are whole segments. For the
others it is not, and it may even be the address of the index itself.
-/

namespace OrderDesk

namespace Dialogue

variable {Question : Type} {Answer : Question → Type} {α β : Type} {question : Question}

/-- Some answers lead to a question. -/
inductive Asks (question : Question) : Dialogue Question Answer α → Prop where
  | now (next : Answer question → Dialogue Question Answer α) : Asks question (ask question next)
  | later {other : Question} {next : Answer other → Dialogue Question Answer α}
      (answer : Answer other) (h : Asks question (next answer)) : Asks question (ask other next)

theorem asks_ask_iff {other : Question} {next : Answer other → Dialogue Question Answer α} :
    Asks question (ask other next) ↔ question = other ∨ ∃ answer, Asks question (next answer) := by
  constructor
  · intro h
    cases h with
    | now => exact .inl rfl
    | later answer h => exact .inr ⟨answer, h⟩
  · rintro (rfl | ⟨answer, h⟩)
    · exact .now next
    · exact .later answer h

theorem not_asks_done (a : α) :
    ¬Asks question (done a : Dialogue Question Answer α) := nofun

theorem Asks.bind {d : Dialogue Question Answer α} (h : Asks question d)
    (f : α → Dialogue Question Answer β) : Asks question (d >>= f) := by
  induction h with
  | now next => exact .now _
  | later answer h ih => exact .later answer ih

theorem Asks.of_bind {d : Dialogue Question Answer α} {f : α → Dialogue Question Answer β}
    (h : Asks question (d >>= f)) : Asks question d ∨ ∃ a, Asks question (f a) := by
  induction d with
  | done a => exact .inr ⟨a, h⟩
  | ask other next ih =>
      obtain rfl | ⟨answer, hanswer⟩ := asks_ask_iff.mp h
      · exact .inl (.now next)
      · obtain hnext | hf := ih answer hanswer
        · exact .inl (.later answer hnext)
        · exact .inr hf

end Dialogue

namespace Cluster

variable {c : Cluster} {α β : Type}

/-! ### What is sent -/

/-- With some replies, an exchange sends a request. -/
def Exchange.Sends (x : Exchange α) (r : Request) : Prop := Dialogue.Asks r x.run

theorem Exchange.Sends.bind {x : Exchange α} {r : Request} (h : x.Sends r)
    (f : α → Exchange β) : Exchange.Sends (x >>= f) r :=
  Dialogue.Asks.bind h _

theorem Exchange.Sends.of_bind {x : Exchange α} {f : α → Exchange β} {r : Request}
    (h : Exchange.Sends (x >>= f) r) : x.Sends r ∨ ∃ a, (f a).Sends r := by
  obtain hx | ⟨result, hresult⟩ := Dialogue.Asks.of_bind h
  · exact .inl hx
  · cases result with
    | ok a => exact .inr ⟨a, hresult⟩
    | error s => exact absurd hresult (Dialogue.not_asks_done _)

/-- A node that a request can be sent to is asked, and the next ones are only if it cannot be
reached. -/
theorem run_sendTo_cons {e : Errand} {node url : Url} (hurl : c.endpoint? e node = some url)
    (hsend : isSendable url = true) (last : String) (nodes : List Url) :
    (c.sendTo e last (node :: nodes)).run = .ask ⟨e.method, url, e.body⟩ fun
      | .unreachable =>
        (c.sendTo e ("No search index node reachable: " ++ sendingFailed url) nodes).run
      | .severed => .done (.error (.broken ("Search index request failed: " ++ sendingFailed url)))
      | .reply r => .done (.ok r) := by
  rw [sendTo, hurl]
  simp only [hsend, Bool.not_true, Bool.false_eq_true, if_false]
  rfl

/-- Where a request cannot be sent to a node, there is nothing to ask any more. -/
theorem run_sendTo_cases (e : Errand) (last : String) (node : Url) (nodes : List Url) :
    (∃ s, (c.sendTo e last (node :: nodes)).run = .done (.error s)) ∨
      ∃ url, c.endpoint? e node = some url ∧ isSendable url = true := by
  rw [sendTo]
  cases hurl : c.endpoint? e node with
  | none => exact .inl ⟨_, rfl⟩
  | some url =>
      cases hsend : isSendable url with
      | false =>
          simp only [hsend, Bool.not_false, if_true]
          exact .inl ⟨_, rfl⟩
      | true => exact .inr ⟨url, rfl, hsend⟩

theorem sends_sendTo_cons {e : Errand} {node url : Url} (hurl : c.endpoint? e node = some url)
    (hsend : isSendable url = true) (last : String) (nodes : List Url) :
    (c.sendTo e last (node :: nodes)).Sends ⟨e.method, url, e.body⟩ := by
  rw [Exchange.Sends, run_sendTo_cons hurl hsend]
  exact .now _

/-- A request goes to the address of a node, where it can be sent. -/
theorem exists_node_of_sends_sendTo {e : Errand} {r : Request} {nodes : List Url} {last : String}
    (h : (c.sendTo e last nodes).Sends r) :
    ∃ node ∈ nodes, c.endpoint? e node = some r.url ∧ isSendable r.url = true := by
  induction nodes generalizing last with
  | nil => exact absurd h (Dialogue.not_asks_done _)
  | cons node nodes ih =>
      have hnext : ∀ last, (c.sendTo e last nodes).Sends r →
          ∃ n ∈ node :: nodes, c.endpoint? e n = some r.url ∧ isSendable r.url = true := by
        intro last hlast
        obtain ⟨n, hn, hurl⟩ := ih hlast
        exact ⟨n, List.mem_cons_of_mem _ hn, hurl⟩
      -- The other nodes are only reached through the question to this one.
      rcases run_sendTo_cases e last node nodes with ⟨s, hrun⟩ | ⟨url, hurl, hsend⟩
      · rw [Exchange.Sends, hrun] at h
        exact absurd h (Dialogue.not_asks_done _)
      · rw [Exchange.Sends, run_sendTo_cons hurl hsend] at h
        obtain rfl | ⟨delivery, hdelivery⟩ := Dialogue.asks_ask_iff.mp h
        · exact ⟨node, List.mem_cons_self, hurl, hsend⟩
        · cases delivery with
          | unreachable => exact hnext _ hdelivery
          | severed => exact absurd hdelivery (Dialogue.not_asks_done _)
          | reply reply => exact absurd hdelivery (Dialogue.not_asks_done _)

theorem manner_of_isSendable {url : Url} (h : isSendable url = true) :
    Url.manner url.scheme = .web := by
  rw [isSendable, Bool.and_eq_true, Bool.or_eq_true, decide_eq_true_eq, decide_eq_true_eq] at h
  obtain hscheme | hscheme := h.1
  · rw [hscheme]
    rfl
  · rw [hscheme]
    rfl

/-! ### Requests for one order -/

/-- Deleting the order with an identity, or putting one that has it, sends a request. -/
def Touches (c : Cluster) (id : String) (r : Request) : Prop :=
  (c.delete id).Sends r ∨ ∃ o : Order, o.id = id ∧ (c.put o).Sends r

/-- The path that the documents of the index have in common at a node. -/
def collection (c : Cluster) (node : Url) : List Char :=
  (node.extend [c.index, "_doc"]).path.toList

theorem Touches.exists_node {id : String} {r : Request} (h : c.Touches id r) :
    ∃ node ∈ c.nodes, isSendable r.url = true ∧ r.url =
      (node.extend [c.index, "_doc", id]).withParameter "refresh" (toString c.refresh) := by
  have herrand : ∃ e : Errand, e.segments = documentPath id ∧ e.saysRefresh = true ∧
      (c.send e).Sends r := by
    obtain hdelete | ⟨o, rfl, hput⟩ := h
    · obtain hsend | ⟨reply, hreply⟩ := hdelete.of_bind
      · exact ⟨_, rfl, rfl, hsend⟩
      · split at hreply <;> exact absurd hreply (Dialogue.not_asks_done _)
    · obtain hsend | ⟨reply, hreply⟩ := hput.of_bind
      · exact ⟨_, rfl, rfl, hsend⟩
      · exact absurd hreply (Dialogue.not_asks_done _)
  obtain ⟨e, hsegments, hrefresh, hsends⟩ := herrand
  obtain ⟨node, hnode, hurl, hsend⟩ := exists_node_of_sends_sendTo hsends
  refine ⟨node, hnode, hsend, ?_⟩
  rw [endpoint?, hsegments, hrefresh] at hurl
  split at hurl
  · exact (Option.some.inj hurl).symm
  · cases hurl

/-- The address of a request is that of a node up to its path and query. -/
theorem Touches.exists_path {id : String} {r : Request} (h : c.Touches id r) :
    ∃ node ∈ c.nodes, Url.manner node.scheme ≠ .file ∧
      r.url = { node with path := r.url.path, query := r.url.query } ∧
      r.url.path.toList = Url.addSegment (Url.manner node.scheme) (c.collection node) id := by
  obtain ⟨node, hnode, hsend, hurl⟩ := h.exists_node
  have hscheme : r.url.scheme = node.scheme := by
    rw [hurl]
    rfl
  have hweb := manner_of_isSendable hsend
  rw [hscheme] at hweb
  refine ⟨node, hnode, by simp [hweb], ?_, ?_⟩
  · rw [hurl]
    rfl
  · rw [hurl]
    exact Url.path_extend_concat node [c.index, "_doc"] id

theorem collection_eq {node : Url} (hm : Url.manner node.scheme ≠ .file) :
    c.collection node = Url.stem (node.extend [c.index]).path.toList ++ "/_doc".toList := by
  have hplain : "_doc".toList.all (Url.isSegmentChar (Url.manner node.scheme)) = true := by
    cases Url.manner node.scheme <;> decide
  rw [collection, ← List.singleton_append, Url.path_extend_concat,
    Url.addSegment_of_isWhole hm (by decide),
    Http.percentEncode_of_forall (List.all_eq_true.mp hplain)]
  rfl

theorem collection_ne_slash {node : Url} (hm : Url.manner node.scheme ≠ .file) :
    c.collection node ≠ ['/'] := by
  intro h
  have hlength := congrArg List.length h
  rw [collection_eq hm, List.length_append] at hlength
  change _ + 5 = 1 at hlength
  omega

/-- Where there is anything before it, the name of the index is a segment of its own. -/
theorem exists_segment_collection {node : Url} (hm : Url.manner node.scheme ≠ .file)
    (hindex : Url.IsWhole c.index) (hne : c.index ≠ "" ∨ node.trunk ≠ []) :
    ∃ segment, c.collection node = node.trunk ++ '/' :: (segment ++ "/_doc".toList) ∧
      Url.Spells segment c.index := by
  have hspells := Url.spells_encoded (Url.manner node.scheme) c.index
  refine ⟨_, ?_, hspells⟩
  have hpath := Url.path_extend_concat node [] c.index
  rw [Url.addSegment_of_isWhole hm hindex, ← Url.trunk] at hpath
  rw [collection_eq hm, ← List.nil_append [c.index], hpath, Url.stem, if_neg, List.append_assoc,
    List.cons_append]
  -- Only an empty name below no path at all leaves nothing but a slash, which the next segment
  -- would take the place of.
  intro hslash
  obtain ⟨htrunk, hsegment⟩ : node.trunk = [] ∧
      Http.percentEncode (Url.isSegmentChar (Url.manner node.scheme)) c.index.toList = [] := by
    have hlength := congrArg List.length hslash
    simp only [List.length_append, List.length_cons, List.length_nil] at hlength
    exact ⟨List.length_eq_zero_iff.mp (by omega), List.length_eq_zero_iff.mp (by omega)⟩
  obtain hne | hne := hne
  · rw [hsegment] at hspells
    exact hne (Option.some.inj hspells.decoded).symm
  · exact hne htrunk

/-- Requests for an order are for one segment below the documents of a node, which spells its
identity, if and only if the identity is a whole segment. They are for different documents then. -/
theorem document_path_spells_id {id : String} {r : Request} (h : c.Touches id r) :
    (∃ node ∈ c.nodes,
      r.url = { node with path := r.url.path, query := r.url.query } ∧
      (Url.IsWhole c.index → c.index ≠ "" ∨ node.trunk ≠ [] →
        ∃ segment, c.collection node = node.trunk ++ '/' :: (segment ++ "/_doc".toList) ∧
          Url.Spells segment c.index) ∧
      ((∃ segment, r.url.path.toList = c.collection node ++ '/' :: segment ∧
        Url.Spells segment id) ↔ Url.IsWhole id)) ∧
    ∀ other sent, c.Touches other sent → Url.IsWhole id → Url.IsWhole other →
      r.url = sent.url → id = other := by
  obtain ⟨node, hnode, hm, hurl, hpath⟩ := h.exists_path
  have hdocument := Url.addSegment_spells_iff hm (collection_ne_slash (c := c) hm) id
  rw [← hpath] at hdocument
  refine ⟨⟨node, hnode, hurl, exists_segment_collection hm, hdocument⟩, ?_⟩
  intro other sent hsent hid hother hsame
  obtain ⟨node', -, hm', -, hpath'⟩ := hsent.exists_path
  have hdocument' := Url.addSegment_spells_iff hm' (collection_ne_slash (c := c) hm') other
  rw [← hpath', ← hsame] at hdocument'
  obtain ⟨segment, hsegment, hspells⟩ := hdocument.mpr hid
  obtain ⟨segment', hsegment', hspells'⟩ := hdocument'.mpr hother
  -- The nodes may have different paths, but what is behind the last slash is the same.
  rw [hsegment] at hsegment'
  obtain rfl := Url.eq_of_append_segment hspells.single hspells'.single hsegment'
  exact hspells.unique hspells'

/-- A request to a single node that deletes. -/
def deletion (path : String) : Request where
  method := "DELETE"
  url := { scheme := "http", host := "es.local:9200", path, query := some "refresh=true" }

/-- An index of orders on a single node. -/
def single (path : String) : Cluster where
  nodes := [{ scheme := "http", host := "es.local:9200", path }]
  index := "orders"

/-- A slash and a blank in an identity are encoded, below the path of a proxy. -/
theorem document_path_spells_id_proxied :
    (single "/proxy/").Touches "a/b c" (deletion "/proxy/orders/_doc/a%2Fb%20c") ∧
      ∃ segment, "/proxy/orders/_doc/a%2Fb%20c".toList =
          "/proxy/orders/_doc".toList ++ '/' :: segment ∧ Url.Spells segment "a/b c" := by
  have htouches : (single "/proxy/").Touches "a/b c" (deletion "/proxy/orders/_doc/a%2Fb%20c") :=
    .inl ((sends_sendTo_cons rfl rfl _ _).bind _)
  refine ⟨htouches, ?_⟩
  obtain ⟨⟨node, hnode, -, -, hdocument⟩, -⟩ := document_path_spells_id htouches
  obtain rfl := List.mem_singleton.mp hnode
  exact hdocument.mpr (by decide)

/-- Deleting two dots behind a tab goes to the index itself, and a tab inside an identity makes no
difference to the document. -/
theorem delete_astray :
    let c := single "/"
    (c.delete "\t..").Sends (deletion "/orders/") ∧
      (¬∃ node ∈ c.nodes, ∃ segment, "/orders/".toList = c.collection node ++ '/' :: segment) ∧
      (c.delete "a\tb").Sends (deletion "/orders/_doc/ab") ∧
      (c.delete "ab").Sends (deletion "/orders/_doc/ab") := by
  refine ⟨?_, ?_, ?_, ?_⟩
  · exact (sends_sendTo_cons rfl rfl _ _).bind _
  · rintro ⟨node, hnode, segment, hpath⟩
    obtain rfl := List.mem_singleton.mp hnode
    have hlength := congrArg List.length hpath
    rw [List.length_append] at hlength
    change 8 = 12 + _ at hlength
    omega
  · exact (sends_sendTo_cons rfl rfl _ _).bind _
  · exact (sends_sendTo_cons rfl rfl _ _).bind _

end Cluster

end OrderDesk
