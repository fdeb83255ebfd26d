import MatrixGateway.Proofs.Dispatch
import MatrixGateway.Proofs.Hops
import MatrixGateway.Proofs.MediaAnswers

/-!
# Requests and answers under one name

A request is followed by its first name, or by the fresh one where it brings none. The layer that
puts it on the answer stands around the layer of the time limit and around the choice of a
handler, so it is on every answer but those that come from the media origin with names of their
own. Towards the origin a name goes like other fields, unless a connection field lists it.
-/

set_option autoImplicit false

namespace MatrixGateway

/-! ## Names on answers -/

namespace Http.Answer

variable (a : Answer)

theorem traced_eq (id : Bytes) :
    a.traced (some id) = { a with headers := Errand.addMissing a.headers .requestId id } := by
  unfold traced Errand.addMissing
  dsimp only
  split <;> rfl

theorem getAll_framed (m : Method) {n : HeaderName} (hn : n ≠ .contentLength) :
    (a.framed m).headers.getAll n = a.headers.getAll n := by
  have hsized : a.sized.headers.getAll n = a.headers.getAll n := by
    unfold sized
    split
    · split
      · rfl
      · rw [Headers.getAll_append, if_neg (Ne.symm hn), List.append_nil]
    · rfl
  unfold framed
  split
  · rfl
  · split
    · exact hsized
    · exact hsized

end Http.Answer

/-! ## What the handlers put on an answer -/

theorem Bridge.handle_headers (b : Bridge) (peers : Peers) (r : Http.Request) :
    (b.handle peers r).answer.headers = ⟨[(.contentType, json)]⟩ := by
  have hconclude : ∀ outcome, (conclude outcome).1.headers = ⟨[(.contentType, json)]⟩ := by
    intro outcome
    unfold conclude
    split
    · rfl
    · split <;> rfl
  unfold handle
  split
  · rfl
  · exact hconclude _

namespace MediaOrigin

def reply? (peers : Peers) (m : Http.Method) (sent : Option Errand) : Option Http.Wire.Reply :=
  sent.bind fun e => peers.origin.bind fun origin => Http.Wire.readReply? m (origin e)

theorem handle_headers (o : MediaOrigin) (peers : Peers) (r : Http.Request) :
    (o.handle peers r).answer.headers =
      match reply? peers r.method (o.handle peers r).sent with
      | some reply => reply.headers.stripHopByHop
      | none => {} := by
  rcases handle_cases o peers r with ⟨-, hr⟩ | ⟨v, time, -, hr⟩ | ⟨v, origin, time, body, -, ho, hr⟩
  · rw [hr]
    rfl
  · rw [hr]
    rfl
  · rw [hr]
    simp only [reply?, ho, Option.bind_some]
    cases Http.Wire.readReply? r.method _ with
    | none => rfl
    | some reply => rfl

end MediaOrigin

namespace Router

namespace Call

variable (router : Router) (c : Call)

def name : Bytes := (c.request.headers.getAll .requestId).headD c.fresh

/-- The origin's names for its reply, if that is what the client gets. -/
def replyNames : List Bytes :=
  if c.isDone router then
    match MediaOrigin.reply? c.peers c.request.method (c.outcome router).sent with
    | some reply => reply.headers.endToEnd .requestId
    | none => []
  else []

theorem get?_name : (named c.request c.fresh).headers.get? .requestId = some c.name := by
  rw [Http.Headers.get?_eq_head?, getAll_named, name]
  cases c.request.headers.getAll .requestId with
  | nil => simp
  | cons id ids => simp

theorem getAll_answered (a : Http.Answer) :
    (answered c.request c.fresh a).headers.getAll .requestId =
      if a.headers.getAll .requestId = [] then [c.name] else a.headers.getAll .requestId := by
  rw [answered, get?_name, Http.Answer.getAll_framed _ _ (by decide), Http.Answer.traced_eq,
    Errand.getAll_addMissing_eq]
  simp only [true_and]

theorem outcome_names (h : c.isDone router = true) :
    (c.outcome router).answer.headers.getAll .requestId = c.replyNames router := by
  rw [replyNames, if_pos h, outcome, reaction_sent]
  cases hroute : route c.request with
  | media =>
    rw [if_pos rfl, media_answer router c.peers c.originDelay hroute, MediaOrigin.handle_headers,
      named_method]
    split
    · rw [Http.Headers.getAll_stripHopByHop]
    · rfl
  | api =>
    have hbridged : (router.reaction c.peers c.fresh c.request c.originDelay) =
        router.bridge.handle c.peers (named c.request c.fresh) := by
      rw [reaction, handle, route_named, hroute]
    rw [if_neg (by decide), hbridged, Bridge.handle_headers]
    rfl

end Call

variable (router : Router) (c : Call) (m : Metrics)

theorem serve_answer :
    (router.serve c.peers c.fresh c.request m c.originDelay).1.answer =
      answered c.request c.fresh
        (if c.isDone router then (c.outcome router).answer else { status := c.status router }) := by
  unfold Call.status
  cases hdone : c.isDone router with
  | true =>
    rw [Call.isDone, Bool.and_eq_true] at hdone
    rw [serve_in_time _ _ _ _ _ _ hdone.1 (of_decide_eq_true hdone.2)]
    rfl
  | false =>
    cases hh : isHandled c.request with
    | false =>
      rw [serve_unhandled _ _ _ _ _ _ hh]
      rfl
    | true =>
      have hlate : router.writeTimeout ≤ (c.outcome router).time := by
        rw [Call.isDone, hh, Bool.true_and] at hdone
        exact Nat.le_of_not_lt (of_decide_eq_false hdone)
      rw [serve_late _ _ _ _ _ _ hh hlate]
      rfl

theorem serve_names :
    (router.serve c.peers c.fresh c.request m c.originDelay).1.answer.headers.getAll .requestId =
      if c.replyNames router = [] then [c.name] else c.replyNames router := by
  rw [serve_answer, c.getAll_answered]
  cases hdone : c.isDone router with
  | true => rw [if_pos rfl, c.outcome_names router hdone]
  | false =>
    have hnone : c.replyNames router = [] := by
      rw [Call.replyNames, hdone, if_neg Bool.false_ne_true]
    rw [if_neg Bool.false_ne_true, hnone]
    rfl

theorem serve_sent_names {e : Errand}
    (h : (router.serve c.peers c.fresh c.request m c.originDelay).1.sent = some e) :
    e.headers.getAll .requestId =
      if (named c.request c.fresh).headers.IsHop .requestId then []
      else c.name :: (c.request.headers.getAll .requestId).tail := by
  obtain ⟨-, hsent⟩ := sent_of_serve h
  have haccept : Http.HeaderName.requestId ≠ .accept := by decide
  have hnames : (named c.request c.fresh).headers.getAll .requestId =
      c.name :: (c.request.headers.getAll .requestId).tail := by
    rw [getAll_named, Call.name]
    cases c.request.headers.getAll .requestId with
    | nil => rfl
    | cons id ids => rfl
  rcases MediaOrigin.handle_cases router.media c.peers (named c.request c.fresh) with
    ⟨-, hr⟩ | ⟨_, _, -, hr⟩ | ⟨v, _, _, body, -, -, hr⟩
  · rw [hr] at hsent
    contradiction
  · rw [hr] at hsent
    contradiction
  · rw [hr] at hsent
    obtain rfl := Option.some.inj hsent
    rw [MediaOrigin.toUrl_getAll, MediaOrigin.relayedField, if_neg (by decide), if_neg (by decide),
      if_neg fun h => haccept h.1, Http.Headers.endToEnd, hnames]

theorem isHop_requestId : (named c.request c.fresh).headers.IsHop .requestId ↔
    ∃ value ∈ c.request.headers.getAll .connection, Http.Headers.Lists value .requestId := by
  have hother : Http.HeaderName.connection ≠ .requestId := by decide
  have hconnection : (named c.request c.fresh).headers.getAll .connection =
      c.request.headers.getAll .connection := by
    rw [getAll_named, if_neg fun h => hother h.1]
  rw [Http.Headers.isHop_iff, Http.Headers.ForNextHop, hconnection]
  exact or_iff_right (by decide)

/-- In every run each request is answered under a name, whatever its answer is. The origin's own
names for its reply are kept, as far as they go past one hop; without any the request's name is
put there, which is the first that the client sent, as it was sent, or else the fresh one. What
goes to the origin has the same name, unless a connection field of the client lists it. -/
theorem run_traced (before after : List Call) :
    ∃ reaction, (run router (before ++ c :: after) m).1[before.length]? = some reaction ∧
      reaction.answer.status = c.status router ∧
      reaction.answer.headers.getAll .requestId =
        (if c.replyNames router = [] then [c.name] else c.replyNames router) ∧
      ∀ e, reaction.sent = some e →
        ((∃ value ∈ c.request.headers.getAll .connection, Http.Headers.Lists value .requestId) →
          e.headers.getAll .requestId = []) ∧
        ((∀ value ∈ c.request.headers.getAll .connection, ¬ Http.Headers.Lists value .requestId) →
          e.headers.getAll .requestId =
            c.name :: (c.request.headers.getAll .requestId).tail) := by
  refine ⟨_, run_reaction router c m before after, serve_status router c {},
    serve_names router c {}, fun e he => ?_⟩
  have hnames := serve_sent_names router c {} he
  refine ⟨fun hlisted => ?_, fun hunlisted => ?_⟩
  · rw [hnames, if_pos ((isHop_requestId c).mpr hlisted)]
  · rw [hnames, if_neg fun hop => ?_]
    obtain ⟨value, hvalue, hlists⟩ := (isHop_requestId c).mp hop
    exact hunlisted value hvalue hlists

/-- The origin gets the fresh name, and the client gets the one that the origin gave. -/
theorem loopback_reply_named :
    let reply := Bytes.ofString "HTTP/1.1 200 OK\r\nX-Request-Id: 7\r\nContent-Length: 0\r\n\r\n"
    let c : Call :=
      { request := uploading, peers := ⟨fun _ => (0, .ok ⟨200, []⟩), some fun _ => reply⟩,
        fresh := Bytes.ofString "8" }
    ∃ reaction e, (run atLoopback [c] {}).1[0]? = some reaction ∧ reaction.sent = some e ∧
      e.headers.getAll .requestId = [Bytes.ofString "8"] ∧
      reaction.answer.headers.getAll .requestId = [Bytes.ofString "7"] := by
  intro reply c
  have hsent :
      (atLoopback.serve c.peers c.fresh c.request {} c.originDelay).1.sent.isSome = true := by
    decide +kernel
  have hreply : c.replyNames atLoopback = [Bytes.ofString "7"] := by decide +kernel
  have hunlisted : ∀ value ∈ c.request.headers.getAll .connection,
      ¬ Http.Headers.Lists value .requestId := by
    simp only [← Http.Headers.mem_listed_iff]
    decide +kernel
  obtain ⟨reaction, hreaction, -, hnames, horigin⟩ := run_traced atLoopback c {} [] []
  have hfirst := run_reaction atLoopback c {} [] []
  rw [← Option.some.inj (hreaction.symm.trans hfirst)] at hsent
  obtain ⟨e, he⟩ := Option.isSome_iff_exists.mp hsent
  refine ⟨reaction, e, hreaction, he, (horigin e he).2 hunlisted, ?_⟩
  rw [hnames, hreply, if_neg (List.cons_ne_nil _ _)]

/-- The first name goes back with an answer that no handler gives, though it is no text. -/
example :
    let headers : Http.Headers := ⟨[(.requestId, [255]), (.requestId, [97])]⟩
    let peers : Peers := ⟨fun _ => (0, .ok ⟨200, []⟩), none⟩
    let reaction := (atLoopback.serve peers [98]
      { method := ⟨"OPTIONS"⟩, uri := { rawPath := ['*'] }, headers } {}).1
    reaction.answer.status = 404 ∧ reaction.answer.headers.getAll .requestId = [[255]] := by
  decide +kernel

end Router

end MatrixGateway
