import Mathlib.Tactic.Common
import OrderDesk.Proofs.Demands
import OrderDesk.Proofs.Endpoints

/-! # What replies come to

As soon as a node replies, the call to the cluster is over, and its outcome depends on nothing but
the reply. A status that blames the call makes it a refusal, which is no reason to call again. But
the body is read first, so the refusal is only recognised where the body is JSON. Otherwise, the
caller is told that the index is unavailable.
-/

namespace OrderDesk

namespace Dialogue

variable {Question : Type} {Answer : Question → Type} {α β : Type}

/-- The questions that a dialogue asks before it ends with a result, with the answers to them. -/
inductive Course : Dialogue Question Answer α → List (Sigma Answer) → α → Prop where
  | done (a : α) : Course (done a) [] a
  | ask {question : Question} {next : Answer question → Dialogue Question Answer α}
      (answer : Answer question) {rest : List (Sigma Answer)} {a : α}
      (h : Course (next answer) rest a) : Course (ask question next) (⟨question, answer⟩ :: rest) a

@[simp] theorem course_done_iff {a b : α} {exchanges : List (Sigma Answer)} :
    (done a : Dialogue Question Answer α).Course exchanges b ↔ exchanges = [] ∧ b = a := by
  constructor
  · intro h
    cases h with
    | done => exact ⟨rfl, rfl⟩
  · rintro ⟨rfl, rfl⟩
    exact .done b

@[simp] theorem course_ask_iff {question : Question}
    {next : Answer question → Dialogue Question Answer α} {exchanges : List (Sigma Answer)}
    {a : α} : (ask question next).Course exchanges a ↔
      ∃ answer rest, exchanges = ⟨question, answer⟩ :: rest ∧ (next answer).Course rest a := by
  constructor
  · intro h
    cases h with
    | ask answer h => exact ⟨answer, _, rfl, h⟩
  · rintro ⟨answer, rest, rfl, h⟩
    exact .ask answer h

/-- What is done asks nothing any more. -/
theorem not_mem_of_done {a b : α} {exchanges : List (Sigma Answer)} {exchange : Sigma Answer}
    (h : (done a : Dialogue Question Answer α).Course exchanges b) : exchange ∉ exchanges := by
  obtain ⟨rfl, -⟩ := course_done_iff.mp h
  exact List.not_mem_nil

theorem exists_course (hanswers : ∀ question, Nonempty (Answer question))
    (d : Dialogue Question Answer α) : ∃ exchanges a, d.Course exchanges a := by
  induction d with
  | done a => exact ⟨[], a, .done a⟩
  | ask question next ih =>
      obtain ⟨answer⟩ := hanswers question
      obtain ⟨rest, a, hrest⟩ := ih answer
      exact ⟨_, a, .ask answer hrest⟩

/-- Where a question may be asked, any answer to it may be given. -/
theorem Asks.exists_course (hanswers : ∀ question, Nonempty (Answer question))
    {question : Question} {d : Dialogue Question Answer α} (h : Asks question d)
    (answer : Answer question) :
    ∃ exchanges a, d.Course exchanges a ∧ ⟨question, answer⟩ ∈ exchanges := by
  induction h with
  | now next =>
      obtain ⟨rest, a, hrest⟩ := Dialogue.exists_course hanswers (next answer)
      exact ⟨_, a, .ask answer hrest, List.mem_cons_self⟩
  | later other h ih =>
      obtain ⟨rest, a, hrest, hmem⟩ := ih
      exact ⟨_, a, .ask other hrest, List.mem_cons_of_mem _ hmem⟩

/-- A dialogue that goes on with a second one takes the courses of both. -/
theorem course_bind_iff {d : Dialogue Question Answer α} {f : α → Dialogue Question Answer β}
    {exchanges : List (Sigma Answer)} {b : β} :
    (d >>= f).Course exchanges b ↔
      ∃ first a rest, exchanges = first ++ rest ∧ d.Course first a ∧ (f a).Course rest b := by
  induction d generalizing exchanges with
  | done a => simp
  | ask question next ih =>
      simp only [ask_bind, course_ask_iff, ih]
      constructor
      · rintro ⟨answer, later, rfl, first, a, rest, rfl, hfirst, hrest⟩
        exact ⟨_, a, rest, rfl, ⟨answer, first, rfl, hfirst⟩, hrest⟩
      · rintro ⟨-, a, rest, rfl, ⟨answer, first, rfl, hfirst⟩, hrest⟩
        exact ⟨answer, first ++ rest, rfl, first, a, rest, rfl, hfirst, hrest⟩

end Dialogue

namespace Cluster

open Service (Call Demand)

/-! ### The JSON of a reply -/

/-- The reply with a status and the bytes of a body. Bytes that are no text stand as a character
that is not JSON either. -/
def Reply.ofBytes (status : Nat) (body : ByteArray) : Reply where
  status
  body := (String.fromUTF8? body).getD "\uFFFD"

/-- Whether bytes are the text of a JSON value. -/
def SpellsJson (body : ByteArray) : Prop :=
  ∃ text v, String.fromUTF8? body = some text ∧ Json.parse? text = some v

theorem exists_json?_ofBytes (status : Nat) (body : ByteArray) :
    (∃ v, (Reply.ofBytes status body).json? = some v) ↔
      Http.hasNoBody status = false ∧ SpellsJson body := by
  have hreplacement : Json.parse? "\uFFFD" = none := Json.parse?_of_broken rfl
  by_cases hbody : Http.hasNoBody status = true
  · simp [Reply.json?, Reply.ofBytes, hbody]
  · cases htext : String.fromUTF8? body <;>
      simp [Reply.json?, Reply.ofBytes, SpellsJson, hbody, htext, hreplacement]

/-! ### What a reply comes to -/

theorem isSuccess_iff {status : Nat} :
    Http.isSuccess status = true ↔ 200 ≤ status ∧ status < 300 := by
  simp [Http.isSuccess]

theorem isRefusal_iff {status : Nat} : isRefusal status = true ↔
    400 ≤ status ∧ status < 500 ∧ status ≠ 408 ∧ status ≠ 429 := by
  simp [isRefusal, Http.isClientError, asksForPatience, and_assoc]

section Success

variable {α : Type} {r : Reply} {f : Json → α}

theorem success_eq {v : Json} (h : r.json? = some v) :
    r.success = if Http.isSuccess r.status then .ok v else .error (setback r.status v) := by
  rw [Reply.success, h]

theorem exists_success_iff : (∃ a, r.success.map f = .ok a) ↔
    Http.isSuccess r.status = true ∧ ∃ v, r.json? = some v := by
  cases hjson : r.json? with
  | none => simp [Reply.success, hjson, Except.map]
  | some v =>
      rw [success_eq hjson]
      cases hstatus : Http.isSuccess r.status <;> simp [Except.map]

/-- A reply without JSON refuses nothing, whatever its status. -/
theorem exists_refused_iff : (∃ reason, r.success.map f = .error (.refused .index reason)) ↔
    isRefusal r.status = true ∧ ∃ v, r.json? = some v := by
  cases hjson : r.json? with
  | none => simp [Reply.success, hjson, Except.map]
  | some v =>
      rw [success_eq hjson]
      cases hstatus : Http.isSuccess r.status with
      | true =>
          have hrefusal : ¬isRefusal r.status = true := by
            rw [isRefusal_iff]
            have hsuccess := isSuccess_iff.mp hstatus
            omega
          simp [hrefusal, Except.map]
      | false => cases hrefusal : isRefusal r.status <;> simp [hrefusal, setback, Except.map]

/-- What is neither a success nor a refusal is broken. -/
theorem success_cases (r : Reply) (f : Json → α) :
    (∃ a, r.success.map f = .ok a) ∨
      (∃ reason, r.success.map f = .error (.refused .index reason)) ∨
      ∃ message, r.success.map f = .error (.broken message) := by
  cases hjson : r.json? with
  | none => simp [Reply.success, hjson, Except.map]
  | some v =>
      rw [success_eq hjson]
      cases hstatus : Http.isSuccess r.status with
      | true => simp [Except.map]
      | false => cases hrefusal : isRefusal r.status <;> simp [hrefusal, setback, Except.map]

end Success

/-! ### Courses of calls -/

variable {c : Cluster} {α : Type}

/-- With a reply to one of its requests, an exchange comes to an outcome. -/
def Exchange.ComesTo (x : Exchange α) (request : Request) (reply : Reply)
    (outcome : Except Setback α) : Prop :=
  ∃ exchanges, x.run.Course exchanges outcome ∧ ⟨request, .reply reply⟩ ∈ exchanges

theorem Exchange.Sends.exists_comesTo {x : Exchange α} {request : Request} (h : x.Sends request)
    (reply : Reply) : ∃ outcome, x.ComesTo request reply outcome := by
  obtain ⟨exchanges, outcome, hcourse, hreply⟩ :=
    h.exists_course (fun _ => ⟨.severed⟩) (.reply reply)
  exact ⟨outcome, exchanges, hcourse, hreply⟩

/-- A request is not sent on once there is a reply. -/
theorem eq_of_reply_sendTo {e : Errand} {last : String} {nodes : List Url}
    {exchanges : List (Sigma fun _ : Request => Delivery)} {result : Except Setback Reply}
    (h : (c.sendTo e last nodes).run.Course exchanges result) {request : Request} {reply : Reply}
    (hreply : ⟨request, .reply reply⟩ ∈ exchanges) : result = .ok reply := by
  induction nodes generalizing last exchanges with
  | nil => exact absurd hreply (Dialogue.not_mem_of_done h)
  | cons node nodes ih =>
      rcases run_sendTo_cases e last node nodes with ⟨s, hrun⟩ | ⟨url, hurl, hsend⟩
      · rw [hrun] at h
        exact absurd hreply (Dialogue.not_mem_of_done h)
      · rw [run_sendTo_cons hurl hsend] at h
        obtain ⟨delivery, rest, rfl, hrest⟩ := Dialogue.course_ask_iff.mp h
        cases delivery with
        | unreachable =>
            rcases List.mem_cons.mp hreply with heq | hlater
            · cases heq
            · exact ih hrest hlater
        | severed =>
            obtain ⟨rfl, -⟩ := Dialogue.course_done_iff.mp hrest
            cases List.mem_singleton.mp hreply
        | reply r =>
            obtain ⟨rfl, rfl⟩ := Dialogue.course_done_iff.mp hrest
            cases List.mem_singleton.mp hreply
            rfl

/-- What is done with the reply takes no request any more. -/
theorem course_send_bind_iff {e : Errand} {f : Reply → Exchange α}
    {outcomeOf : Reply → Except Setback α} (hf : ∀ reply, (f reply).run = .done (outcomeOf reply))
    {exchanges : List (Sigma fun _ : Request => Delivery)} {outcome : Except Setback α} :
    (c.send e >>= f).run.Course exchanges outcome ↔
      ∃ result, (c.send e).run.Course exchanges result ∧ outcome = result.bind outcomeOf := by
  have hsettled : ∀ result : Except Setback Reply, ∀ rest,
      Dialogue.Course (ExceptT.bindCont f result) rest outcome ↔
        rest = [] ∧ outcome = result.bind outcomeOf := by
    intro result rest
    cases result with
    | error s => exact Dialogue.course_done_iff
    | ok reply =>
        have hdone : ExceptT.bindCont f (.ok reply) = .done (outcomeOf reply) := hf reply
        rw [hdone]
        exact Dialogue.course_done_iff
  have hbind : (c.send e >>= f).run = (c.send e).run >>= ExceptT.bindCont f := rfl
  rw [hbind, Dialogue.course_bind_iff]
  constructor
  · rintro ⟨first, result, rest, rfl, hsend, hrest⟩
    obtain ⟨rfl, houtcome⟩ := (hsettled result rest).mp hrest
    rw [List.append_nil]
    exact ⟨result, hsend, houtcome⟩
  · rintro ⟨result, hsend, houtcome⟩
    exact ⟨exchanges, result, [], (List.append_nil _).symm, hsend,
      (hsettled result []).mpr ⟨rfl, houtcome⟩⟩

/-- What asks nothing after its errand has the outcome that it makes of the reply. -/
theorem eq_of_comesTo {e : Errand} {f : Reply → Exchange α} {outcomeOf : Reply → Except Setback α}
    (hf : ∀ reply, (f reply).run = .done (outcomeOf reply)) {request : Request} {reply : Reply}
    {outcome : Except Setback α} (h : Exchange.ComesTo (c.send e >>= f) request reply outcome) :
    outcome = outcomeOf reply := by
  obtain ⟨exchanges, hcourse, hreply⟩ := h
  obtain ⟨result, hsend, rfl⟩ := (course_send_bind_iff hf).mp hcourse
  rw [eq_of_reply_sendTo hsend hreply]
  rfl

/-! ### Calls to an index that a cluster keeps -/

/-- What a reply says of a deletion. -/
def deletionOutcome (r : Reply) : Except Setback Bool :=
  if r.status = 404 then .ok false else r.success.map fun _ => true

/-- What a cluster does for a call to the index; the store is not its business. -/
def exchange? (c : Cluster) : (call : Call) → Option (Exchange call.Reply)
  | .put o => some (c.put o)
  | .search body => some (c.search body)
  | .discard id => some (c.delete id)
  | .insert _ | .find _ | .findById _ | .remove _ => none

/-- A status that tells that there was nothing to delete. -/
def Misses (call : Call) (status : Nat) : Prop := status = 404 ∧ ∃ id, call = .discard id

/-- A status that blames the call, and neither its length nor how often there are calls. -/
def Blames (call : Call) (status : Nat) : Prop :=
  400 ≤ status ∧ status < 500 ∧ status ≠ 408 ∧ status ≠ 429 ∧ ¬Misses call status

/-- What a status and a body make of a call. -/
structure Decides (call : Call) (status : Nat) (body : ByteArray) (outcome : call.Outcome) :
    Prop where
  missed : Misses call status →
    ∃ id, (⟨call, outcome⟩ : Sigma Call.Outcome) = ⟨.discard id, .ok false⟩
  succeeded : (∃ reply, outcome = .ok reply) ↔
    Misses call status ∨ 200 ≤ status ∧ status < 300 ∧ status ≠ 204 ∧ SpellsJson body
  refused : (∃ reason, outcome = .error (.refused .index reason)) ↔
    Blames call status ∧ SpellsJson body
  broken : (∃ message, outcome = .error (.broken message)) ↔
    (¬∃ reply, outcome = .ok reply) ∧ ¬∃ reason, outcome = .error (.refused .index reason)

/-- A reply that does not tell of a miss decides by its status and its JSON. -/
theorem decides_success (call : Call) {status : Nat} {body : ByteArray} (f : Json → call.Reply)
    (hmiss : ¬Misses call status) :
    Decides call status body ((Reply.ofBytes status body).success.map f) := by
  have hjson := exists_json?_ofBytes status body
  have hbody : Http.hasNoBody status = false ↔ 200 ≤ status ∧ status ≠ 204 ∧ status ≠ 304 := by
    simp [Http.hasNoBody, and_assoc]
  constructor
  case missed => exact fun h => absurd h hmiss
  case succeeded =>
    rw [exists_success_iff, hjson, isSuccess_iff, hbody, or_iff_right hmiss]
    constructor
    · rintro ⟨⟨hlow, hhigh⟩, ⟨-, hne, -⟩, hspells⟩
      exact ⟨hlow, hhigh, hne, hspells⟩
    · rintro ⟨hlow, hhigh, hne, hspells⟩
      exact ⟨⟨hlow, hhigh⟩, ⟨hlow, hne, by omega⟩, hspells⟩
  case refused =>
    rw [exists_refused_iff, hjson, isRefusal_iff, hbody]
    constructor
    · rintro ⟨⟨hlow, hhigh, htimeout, hmany⟩, -, hspells⟩
      exact ⟨⟨hlow, hhigh, htimeout, hmany, hmiss⟩, hspells⟩
    · rintro ⟨⟨hlow, hhigh, htimeout, hmany, -⟩, hspells⟩
      exact ⟨⟨hlow, hhigh, htimeout, hmany⟩, by omega, hspells⟩
  case broken =>
    rcases success_cases (Reply.ofBytes status body) f with ⟨a, h⟩ | ⟨reason, h⟩ | ⟨message, h⟩ <;>
      simp [h]

/-- A miss is an outcome of its own, whatever the body says. -/
theorem decides_missed (id : String) (body : ByteArray) :
    Decides (.discard id) 404 body (.ok false) where
  missed _ := ⟨id, rfl⟩
  succeeded := iff_of_true ⟨false, rfl⟩ (.inl ⟨rfl, id, rfl⟩)
  refused := iff_of_false nofun fun h => h.1.2.2.2.2 ⟨rfl, id, rfl⟩
  broken := iff_of_false nofun fun h => h.1 ⟨false, rfl⟩

/-- A reply in the course of a call to the index decides what becomes of it. -/
theorem decides_of_comesTo {call : Call} {x : Exchange call.Reply}
    (hx : c.exchange? call = some x) {request : Request} {status : Nat} {body : ByteArray}
    {outcome : call.Outcome} (h : x.ComesTo request (.ofBytes status body) outcome) :
    Decides call status body outcome := by
  cases call with
  | insert o | find query | findById id | remove id => cases hx
  | put o =>
      obtain rfl := Option.some.inj hx
      have hmiss : ¬Misses (.put o) status := by
        rintro ⟨-, id, hcall⟩
        cases hcall
      rw [eq_of_comesTo (fun _ => rfl) h]
      exact decides_success (.put o) (fun _ => ()) hmiss
  | search b =>
      obtain rfl := Option.some.inj hx
      have hmiss : ¬Misses (.search b) status := by
        rintro ⟨-, id, hcall⟩
        cases hcall
      rw [eq_of_comesTo (fun _ => rfl) h]
      have hdecides : Decides (.search b) status body
          ((Reply.ofBytes status body).success.map id) := decides_success (.search b) id hmiss
      rwa [Except.map_id] at hdecides
  | discard id =>
      obtain rfl := Option.some.inj hx
      have hdeletion : outcome = deletionOutcome (.ofBytes status body) :=
        eq_of_comesTo (fun reply => by rw [deletionOutcome]; split <;> rfl) h
      by_cases hstatus : status = 404
      · subst hstatus
        rw [hdeletion]
        exact decides_missed id body
      · have hmiss : ¬Misses (.discard id) status := fun h => hstatus h.1
        have hsuccess : deletionOutcome (.ofBytes status body) =
            (Reply.ofBytes status body).success.map fun _ => true := if_neg hstatus
        rw [hdeletion, hsuccess]
        exact decides_success (.discard id) (fun _ => true) hmiss

end Cluster

namespace Service

/-! ### What the caller of the service is told -/

/-- The code with which a setback is told: only a refusal is not to be tried again. -/
def codeOf : Setback → String
  | .refused _ _ => "INTERNAL_ERROR"
  | .broken _ | .overdue _ => "BACKEND_UNAVAILABLE"

/-- The code with which a setback of the index is told after a demand. After a write it does not
matter what it was, as the store is written already. -/
def Demand.codeOf : Demand → Setback → String
  | create _ _ _, _ | delete _, _ => "PARTIAL_FAILURE"
  | reconcile _, setback => Service.codeOf setback

theorem code_failure (setback : Setback) (backend : Backend) (action : String) :
    (setback.failure backend action).code = codeOf setback := by
  cases setback <;> rfl

section Course

variable {α : Type} {call asked : Call} {setback : Setback} {calls : List (Sigma Call.Outcome)}
  {result : Except Failure α}
  {next : asked.Outcome → Dialogue Call Call.Outcome (Except Failure α)}

/-- A call to the index comes after one to the store. -/
theorem mem_of_store {answer : asked.Outcome} (hasked : asked.backend = .store)
    (hindex : call.backend = .index)
    (hcall : ⟨call, .error setback⟩ ∈ (⟨asked, answer⟩ :: calls : List (Sigma Call.Outcome))) :
    ⟨call, .error setback⟩ ∈ calls := by
  rcases List.mem_cons.mp hcall with heq | hlater
  · cases heq
    rw [hasked] at hindex
    cases hindex
  · exact hlater

/-- Where every outcome of a call ends the work, a setback is told as that of this call. -/
theorem eq_of_last_call {failureOf : Setback → Failure}
    (herror : ∀ s, next (.error s) = .done (.error (failureOf s)))
    (hok : ∀ reply, ∃ result, next (.ok reply) = .done result)
    (h : (Dialogue.ask asked next).Course calls result) (hcall : ⟨call, .error setback⟩ ∈ calls) :
    result = .error (failureOf setback) := by
  obtain ⟨answer, rest, rfl, hrest⟩ := Dialogue.course_ask_iff.mp h
  cases answer with
  | ok reply =>
      obtain ⟨ended, hended⟩ := hok reply
      rw [hended] at hrest
      obtain ⟨rfl, -⟩ := Dialogue.course_done_iff.mp hrest
      cases List.mem_singleton.mp hcall
  | error s =>
      rw [herror] at hrest
      obtain ⟨rfl, rfl⟩ := Dialogue.course_done_iff.mp hrest
      cases List.mem_singleton.mp hcall
      rfl

end Course

variable {call : Call} {setback : Setback} {calls : List (Sigma Call.Outcome)}

/-- A setback of the index ends the work on a demand, with a code that depends on both. -/
theorem exists_failure_of_steps {d : Demand} {result : Result}
    (h : d.steps.Course calls result) (hindex : call.backend = .index)
    (hcall : ⟨call, .error setback⟩ ∈ calls) :
    ∃ failure, result = .error failure ∧ failure.code = d.codeOf setback := by
  cases d with
  | create input id now =>
      cases hmake : Order.make input id now with
      | error fault =>
          rw [steps_create_of_error hmake] at h
          exact absurd hcall (Dialogue.not_mem_of_done h)
      | ok o =>
          rw [steps_create hmake] at h
          obtain ⟨inserted, rest, rfl, hrest⟩ := Dialogue.course_ask_iff.mp h
          have hlater := mem_of_store rfl hindex hcall
          cases inserted with
          | error s => exact absurd hlater (Dialogue.not_mem_of_done hrest)
          | ok u =>
              exact ⟨_, eq_of_last_call (fun _ => rfl) (fun _ => ⟨_, rfl⟩) hrest hlater, rfl⟩
  | delete id =>
      rw [steps_delete] at h
      obtain ⟨removed, rest, rfl, hrest⟩ := Dialogue.course_ask_iff.mp h
      have hlater := mem_of_store rfl hindex hcall
      cases removed with
      | error s => exact absurd hlater (Dialogue.not_mem_of_done hrest)
      | ok known =>
          cases known with
          | false => exact absurd hlater (Dialogue.not_mem_of_done hrest)
          | true =>
              exact ⟨_, eq_of_last_call (fun _ => rfl) (fun _ => ⟨_, rfl⟩) hrest hlater, rfl⟩
  | reconcile id =>
      rw [steps_reconcile] at h
      obtain ⟨found, rest, rfl, hrest⟩ := Dialogue.course_ask_iff.mp h
      have hlater := mem_of_store rfl hindex hcall
      cases found with
      | error s => exact absurd hlater (Dialogue.not_mem_of_done hrest)
      | ok stored =>
          cases stored with
          | none =>
              have hresult := eq_of_last_call (fun _ => rfl)
                (fun known => by cases known <;> exact ⟨_, rfl⟩) hrest hlater
              exact ⟨_, hresult, code_failure ..⟩
          | some d =>
              cases horder : Documents.order d with
              | error flaw =>
                  simp only [horder] at hrest
                  exact absurd hlater (Dialogue.not_mem_of_done hrest)
              | ok o =>
                  simp only [horder] at hrest
                  have hresult := eq_of_last_call (fun _ => rfl) (fun _ => ⟨_, rfl⟩) hrest hlater
                  exact ⟨_, hresult, code_failure ..⟩

/-- The work on a filter of the index is a single call. -/
theorem run_filter_index_eq {r : Filter.Request} (hvalid : r.check = .ok ()) :
    (filter .index r).run = .ask (.search (.ofRequest r)) fun
      | .error s => .done (.error (s.failure .index "filter"))
      | .ok response => .done (Search.orders response) := by
  rw [filter, hvalid]
  refine congrArg (Dialogue.ask (Call.search (.ofRequest r))) (funext fun outcome => ?_)
  cases outcome <;> rfl

theorem exists_failure_of_filter {r : Filter.Request} {result : Except Failure (List Order)}
    (h : (filter .index r).run.Course calls result) (hcall : ⟨call, .error setback⟩ ∈ calls) :
    ∃ failure, result = .error failure ∧ failure.code = codeOf setback := by
  cases hvalid : r.check with
  | error cause =>
      rw [filter, hvalid] at h
      exact absurd hcall (Dialogue.not_mem_of_done h)
  | ok u =>
      rw [run_filter_index_eq hvalid] at h
      exact ⟨_, eq_of_last_call (fun _ => rfl) (fun _ => ⟨_, rfl⟩) h hcall, code_failure ..⟩

end Service

namespace Cluster

open Service (Call Demand)

/-- Any reply may come to any request that a call to the index sends. The call is refused if the
status blames it and the body is JSON, and whoever asked for it is told of a refusal then and of an
unavailable index otherwise. A write that has reached the store is told to be halfway done. -/
theorem reply_decides {c : Cluster} {call : Call} {x : Exchange call.Reply}
    (hx : c.exchange? call = some x) {request : Request} (hsends : x.Sends request) (status : Nat)
    (body : ByteArray) :
    (∃ outcome, x.ComesTo request (.ofBytes status body) outcome) ∧
      ∀ outcome : call.Outcome, x.ComesTo request (.ofBytes status body) outcome →
        Decides call status body outcome ∧
        ∀ setback, outcome = .error setback →
          (∀ (d : Demand) calls result, d.steps.Course calls result → ⟨call, outcome⟩ ∈ calls →
            ∃ failure, result = .error failure ∧ failure.code = d.codeOf setback) ∧
          ∀ r calls result, (Service.filter .index r).run.Course calls result →
            ⟨call, outcome⟩ ∈ calls →
              ∃ failure, result = .error failure ∧ failure.code = Service.codeOf setback := by
  have hindex : call.backend = .index := by
    cases call with
    | put o | search b | discard id => rfl
    | insert o | find query | findById id | remove id => cases hx
  refine ⟨hsends.exists_comesTo _, fun outcome h => ⟨decides_of_comesTo hx h, ?_⟩⟩
  rintro setback rfl
  constructor
  · intro d calls result hcourse hcall
    exact Service.exists_failure_of_steps hcourse hindex hcall
  · intro r calls result hcourse hcall
    exact Service.exists_failure_of_filter hcourse hcall

theorem spellsJson_braces : SpellsJson "\x7b\x7d".toUTF8 :=
  ⟨"\x7b\x7d", .object [], rfl, Json.parse?_braces⟩

/-- A deletion that is forbidden is refused, and whoever reconciles an order is told so. -/
theorem reply_decides_forbidden :
    let x := (single "/").delete "x"
    let request := deletion "/orders/_doc/x"
    x.Sends request ∧ ∃ outcome : (Call.discard "x").Outcome,
      x.ComesTo request (.ofBytes 403 "\x7b\x7d".toUTF8) outcome ∧
      (∃ reason, outcome = .error (.refused .index reason)) ∧
      ∀ calls result, (Demand.reconcile "x").steps.Course calls result →
        ⟨.discard "x", outcome⟩ ∈ calls →
          ∃ failure, result = .error failure ∧ failure.code = "INTERNAL_ERROR" := by
  intro x request
  have hsends : x.Sends request := (sends_sendTo_cons rfl rfl _ _).bind _
  have hx : (single "/").exchange? (.discard "x") = some x := rfl
  obtain ⟨⟨outcome, hcomes⟩, hall⟩ := reply_decides hx hsends 403 "\x7b\x7d".toUTF8
  obtain ⟨hdecides, htold⟩ := hall outcome hcomes
  have hblames : Blames (.discard "x") 403 :=
    ⟨by decide, by decide, by decide, by decide, fun h => absurd h.1 (by decide)⟩
  obtain ⟨reason, rfl⟩ := hdecides.refused.mpr ⟨hblames, spellsJson_braces⟩
  refine ⟨hsends, _, hcomes, ⟨reason, rfl⟩, ?_⟩
  exact (htold _ rfl).1 (.reconcile "x")

/-- A search that is blamed in plain words counts as broken, and its caller is told that the index
is unavailable. The same reply to making the index is a refusal. -/
theorem plain_refusal_broken :
    let call := Call.search (.ofRequest .empty)
    let reply := Reply.ofBytes 400 "no JSON".toUTF8
    let broken : Setback := .broken
      "Search index returned an unreadable body (400 Bad Request): error decoding response body"
    (∃ request, ((single "/").search (.ofRequest .empty)).ComesTo request reply (.error broken)) ∧
      Blames call 400 ∧
      (Service.filter .index .empty).run.Course [⟨call, .error broken⟩]
        (.error (.unavailable .index "filter failed")) ∧
      made reply = .error (.refused .index "Search index returned 400 Bad Request") := by
  intro call reply broken
  have hblames : Blames call 400 :=
    ⟨by decide, by decide, by decide, by decide, fun h => absurd h.1 (by decide)⟩
  have hreply : reply = ⟨400, "no JSON"⟩ := rfl
  have hjson : reply.json? = none := by
    rw [hreply]
    exact Json.parse?_of_broken rfl
  have hbroken : Setback.broken ("Search index returned an unreadable body (" ++
      Http.statusText 400 ++ "): error decoding response body") = broken :=
    congrArg Setback.broken (by decide +kernel)
  have hsuccess : reply.success = .error broken := by
    rw [Reply.success, hjson]
    exact congrArg Except.error hbroken
  have hsetback : setback 400 .null =
      .refused .index "Search index returned 400 Bad Request" := by decide +kernel
  have hmade : made reply = .error (.refused .index "Search index returned 400 Bad Request") := by
    rw [made, hjson]
    exact congrArg Except.error hsetback
  refine ⟨?_, hblames, ?_, hmade⟩
  · have hsends : Exchange.Sends ((single "/").search (.ofRequest .empty)) _ :=
      (sends_sendTo_cons rfl rfl _ _).bind _
    obtain ⟨outcome, hcomes⟩ := hsends.exists_comesTo reply
    have houtcome : outcome = reply.success := eq_of_comesTo (fun _ => rfl) hcomes
    rw [houtcome, hsuccess] at hcomes
    exact ⟨_, hcomes⟩
  · rw [Service.run_filter_index_eq rfl]
    exact Dialogue.course_ask_iff.mpr ⟨.error broken, [], rfl, .done _⟩

end Cluster

end OrderDesk
