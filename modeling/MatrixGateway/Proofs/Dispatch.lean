import MatrixGateway.Proofs.Counters

/-!
# What a request asks of the servers

Each handler is written out as a plan, which may ask the transport and the relay's client as
often as it likes and goes on with what comes back. The reactions of the router are those of
its plans, so the questions of a plan are all that is asked for a request: one to the relay's
client or none on one route, one to the transport or none on the other.
-/

set_option autoImplicit false

namespace MatrixGateway

/-! ## Plans -/

structure Handed where
  method : Http.Method
  url : Url
  headers : Http.Headers
  body : Http.Body
  deriving DecidableEq

structure Relayed where
  time : Nat
  reached : Option Errand
  reply : Option Http.Wire.Reply

def Peers.relay (peers : Peers) (h : Handed) : Relayed :=
  match peers.origin with
  | none => ⟨0, none, none⟩
  | some origin =>
    if Errand.canGo h.url then
      match MediaOrigin.errandBody h.method
          (Http.Wire.announcedLength? (h.headers.getAll .contentLength)) h.body with
      | (time, none) => ⟨time, none, none⟩
      | (time, some body) =>
        let errand := Errand.toUrl h.method h.url h.headers body
        ⟨time, some errand, Http.Wire.readReply? h.method (origin errand)⟩
    else ⟨0, none, none⟩

inductive Ask where
  | submit (s : Transport.Submission)
  | hand (h : Handed)
  deriving DecidableEq

inductive Plan where
  | answer (a : Http.Answer) (undelivered : Option String)
  | wait (nanos : Nat) (next : Plan)
  | submit (s : Transport.Submission) (next : Transport.Outcome → Plan)
  | hand (h : Handed) (next : Option Http.Wire.Reply → Plan)

/-- A plan carried out, with all that it asked and when. -/
structure Conduct where
  time : Nat
  answer : Http.Answer
  undelivered : Option String
  asks : List (Nat × Ask)

def Plan.conduct (peers : Peers) (originDelay : Nat) (time : Nat) : Plan → Conduct
  | .answer a undelivered => ⟨time, a, undelivered, []⟩
  | .wait nanos next => next.conduct peers originDelay (time + nanos)
  | .submit s next =>
    let (delay, outcome) := peers.transport s
    let rest := (next outcome).conduct peers originDelay (time + delay)
    { rest with asks := (time, .submit s) :: rest.asks }
  | .hand h next =>
    let relayed := peers.relay h
    let delay := if relayed.reached.isSome then relayed.time + originDelay else relayed.time
    let rest := (next relayed.reply).conduct peers originDelay (time + delay)
    { rest with asks := (time, .hand h) :: rest.asks }

def submissions (asks : List (Nat × Ask)) : List (Nat × Transport.Submission) :=
  asks.filterMap fun
    | (time, .submit s) => some (time, s)
    | (_, .hand _) => none

def handed (asks : List (Nat × Ask)) : List Handed :=
  asks.filterMap fun
    | (_, .hand h) => some h
    | (_, .submit _) => none

def arrived (peers : Peers) (asks : List (Nat × Ask)) : List Errand :=
  (handed asks).filterMap fun h => (peers.relay h).reached

/-! ## The handlers as plans -/

def Bridge.plan (b : Bridge) (r : Http.Request) : Plan :=
  match b.readBody r.body with
  | (time, none) => .wait time (.answer (refuse .bodyRead) none)
  | (time, some body) => .wait time (.submit (b.submission r body) fun outcome =>
      .answer (conclude outcome).1 (conclude outcome).2)

def MediaOrigin.plan (o : MediaOrigin) (r : Http.Request) : Plan :=
  match o.target? r.uri with
  | none => .answer { status := 400 } none
  | some url => .hand ⟨r.method, url, o.errandHeaders r, r.body⟩ fun reply =>
      .answer (reported reply) none

def Router.plan (router : Router) (r : Http.Request) : Plan :=
  match route r with
  | .media => router.media.plan r
  | .api => router.bridge.plan r

/-- A reaction is that of a plan carried out. -/
structure Reaction.Follows (reaction : Reaction) (peers : Peers) (c : Conduct) : Prop where
  time : reaction.time = c.time
  answer : reaction.answer = c.answer
  undelivered : reaction.undelivered = c.undelivered
  submitted : reaction.submitted.toList = submissions c.asks
  sent : reaction.sent.toList = arrived peers c.asks

variable (peers : Peers) (r : Http.Request) (originDelay : Nat)

theorem Bridge.handle_follows (b : Bridge) :
    (b.handle peers r).Follows peers ((b.plan r).conduct peers originDelay 0) := by
  unfold Bridge.handle Bridge.plan
  rcases b.readBody r.body with ⟨time, _ | body⟩
  · constructor <;> simp [Plan.conduct, submissions, arrived, handed]
  · constructor <;> simp [Plan.conduct, submissions, arrived, handed]

theorem MediaOrigin.handle_relay {o : MediaOrigin} {url : Url} (h : o.target? r.uri = some url) :
    o.handle peers r =
      { time := (peers.relay ⟨r.method, url, o.errandHeaders r, r.body⟩).time
        answer := reported (peers.relay ⟨r.method, url, o.errandHeaders r, r.body⟩).reply
        sent := (peers.relay ⟨r.method, url, o.errandHeaders r, r.body⟩).reached } := by
  unfold handle Peers.relay
  rw [h]
  cases peers.origin with
  | none => rfl
  | some origin =>
    dsimp only
    cases Errand.canGo url with
    | false => rfl
    | true =>
      simp only [if_true, forward]
      rcases errandBody r.method _ r.body with ⟨time, _ | body⟩
      · rfl
      · dsimp only
        cases Http.Wire.readReply? r.method _ with
        | none => rfl
        | some reply => rfl

theorem MediaOrigin.handle_follows (o : MediaOrigin) :
    Reaction.Follows
      (if (o.handle peers r).sent.isSome then
        { o.handle peers r with time := (o.handle peers r).time + originDelay }
      else o.handle peers r) peers ((o.plan r).conduct peers originDelay 0) := by
  unfold plan
  cases ht : o.target? r.uri with
  | none =>
    have hrefused : o.handle peers r = { time := 0, answer := { status := 400 } } := by
      unfold handle
      rw [ht]
    rw [hrefused]
    constructor <;> rfl
  | some url =>
    rw [handle_relay peers r ht]
    dsimp only [Plan.conduct]
    cases hreached : (peers.relay ⟨r.method, url, o.errandHeaders r, r.body⟩).reached with
    | none => constructor <;> simp [submissions, arrived, handed, hreached]
    | some errand => constructor <;> simp [submissions, arrived, handed, hreached]

theorem Router.handle_follows (router : Router) :
    (router.handle peers r originDelay).Follows peers
      ((router.plan r).conduct peers originDelay 0) := by
  unfold handle plan
  cases route r with
  | media => exact router.media.handle_follows peers r originDelay
  | api => exact router.bridge.handle_follows peers r originDelay

/-! ## The questions of a request -/

def Conduct.Since (time : Nat) (c : Conduct) : Prop :=
  time ≤ c.time ∧ ∀ a ∈ c.asks, time ≤ a.1 ∧ a.1 ≤ c.time

namespace Conduct.Since

variable {time delay : Nat} {c : Conduct}

theorem earlier (h : Since (time + delay) c) : Since time c := by
  obtain ⟨hend, hasks⟩ := h
  refine ⟨Nat.le_trans (Nat.le_add_right ..) hend, fun a ha => ?_⟩
  obtain ⟨hfrom, hto⟩ := hasks a ha
  exact ⟨Nat.le_trans (Nat.le_add_right ..) hfrom, hto⟩

theorem ask (h : Since (time + delay) c) (question : Ask) :
    Since time { c with asks := (time, question) :: c.asks } := by
  obtain ⟨hend, hasks⟩ := h.earlier
  refine ⟨hend, fun a ha => ?_⟩
  obtain rfl | ha := List.mem_cons.mp ha
  · exact ⟨Nat.le_refl time, hend⟩
  · exact hasks a ha

end Conduct.Since

theorem Plan.conduct_since (plan : Plan) (time : Nat) :
    (plan.conduct peers originDelay time).Since time := by
  induction plan generalizing time with
  | answer a undelivered => simp [conduct, Conduct.Since]
  | wait nanos next ih => exact (ih (time + nanos)).earlier
  | submit s next ih => exact (ih (peers.transport s).2 _).ask (.submit s)
  | hand h next ih => exact (ih (peers.relay h).reply _).ask (.hand h)

variable {peers r originDelay}

theorem Router.asks_media (router : Router) (h : route r = .media) :
    ((router.plan r).conduct peers originDelay 0).asks =
      (router.media.target? r.uri).toList.map fun url =>
        (0, .hand ⟨r.method, url, router.media.errandHeaders r, r.body⟩) := by
  unfold plan MediaOrigin.plan
  rw [h]
  cases router.media.target? r.uri with
  | none => rfl
  | some url => rfl

theorem Router.asks_api (router : Router) (h : route r = .api) :
    ((router.plan r).conduct peers originDelay 0).asks =
      (router.bridge.readBody r.body).2.toList.map fun body =>
        ((router.bridge.readBody r.body).1, .submit (router.bridge.submission r body)) := by
  unfold plan Bridge.plan
  rw [h]
  rcases router.bridge.readBody r.body with ⟨time, _ | body⟩
  · rfl
  · simp [Plan.conduct]

theorem Bridge.readBody_eq (b : Bridge) (body : Http.Body) :
    b.readBody body =
      if b.readTimeout < (body.read (some b.maxBody)).1 then (b.readTimeout, none)
      else ((body.read (some b.maxBody)).1,
        if body.isBroken ∨ b.maxBody < body.content.length then none else some body.content) := by
  unfold readBody
  dsimp only
  rw [← Http.Body.read_bytes]
  by_cases hslow : b.readTimeout < (body.read (some b.maxBody)).1
  · rw [if_pos hslow, if_neg (Nat.not_le.mpr hslow)]
  · rw [if_neg hslow, if_pos (Nat.not_lt.mp hslow)]

namespace Router

/-- All that is asked for a request: nothing without a handler, and nothing once its time is up. -/
def Call.asks (router : Router) (c : Call) : List (Nat × Ask) :=
  if isHandled c.request then
    (((router.plan (named c.request c.fresh)).conduct c.peers c.originDelay 0).asks).filter
      (·.1 < router.writeTimeout)
  else []

variable (router : Router) (c : Call) (m : Metrics)

theorem submissions_cut (limit : Nat) (asks : List (Nat × Ask)) :
    submissions (asks.filter (·.1 < limit)) = (submissions asks).filter (·.1 < limit) := by
  induction asks with
  | nil => rfl
  | cons a asks ih =>
    obtain ⟨time, s | h⟩ := a
    · by_cases ht : time < limit <;> simpa [submissions, ht] using ih
    · by_cases ht : time < limit <;> simpa [submissions, ht] using ih

/-- What is handed over is handed over at once, so no time but none at all cuts it. -/
theorem handed_cut (peers : Peers) (r : Http.Request) (originDelay limit : Nat) :
    let asks := ((router.plan r).conduct peers originDelay 0).asks
    handed (asks.filter (·.1 < limit)) = if limit = 0 then [] else handed asks := by
  intro asks
  by_cases h0 : limit = 0
  · simp [h0, handed]
  · rw [if_neg h0]
    cases hr : route r with
    | media =>
      have hasks : asks = _ := router.asks_media hr
      rw [hasks]
      cases router.media.target? r.uri <;> simp [Nat.pos_of_ne_zero h0]
    | api =>
      have hasks : asks = _ := router.asks_api hr
      rw [hasks]
      cases (router.bridge.readBody r.body).2 with
      | none => rfl
      | some body => by_cases ht : (router.bridge.readBody r.body).1 < limit <;> simp [handed, ht]

theorem serve_asks :
    (router.serve c.peers c.fresh c.request m c.originDelay).1.submitted.toList =
        submissions (c.asks router) ∧
      (router.serve c.peers c.fresh c.request m c.originDelay).1.sent.toList =
        arrived c.peers (c.asks router) := by
  have hfollows := router.handle_follows c.peers (named c.request c.fresh) c.originDelay
  obtain ⟨-, htimes⟩ :=
    Plan.conduct_since c.peers c.originDelay (router.plan (named c.request c.fresh)) 0
  unfold Call.asks
  cases hh : isHandled c.request with
  | false =>
    rw [serve_unhandled c.request c.fresh router c.peers m c.originDelay hh]
    exact ⟨rfl, rfl⟩
  | true =>
    rw [if_pos rfl]
    rcases Nat.lt_or_ge (router.reaction c.peers c.fresh c.request c.originDelay).time
      router.writeTimeout with hin | hlate
    · rw [serve_in_time c.request c.fresh router c.peers m c.originDelay hh hin,
        List.filter_eq_self.mpr]
      · exact ⟨hfollows.submitted, hfollows.sent⟩
      · intro a ha
        have hend : a.1 ≤ (router.handle c.peers (named c.request c.fresh) c.originDelay).time :=
          hfollows.time ▸ (htimes a ha).2
        exact decide_eq_true (Nat.lt_of_le_of_lt hend hin)
    · rw [serve_late c.request c.fresh router c.peers m c.originDelay hh hlate]
      -- What was submitted carries its time, and what was sent went out at the start.
      constructor
      · show (Option.filter _ _).toList = _
        rw [Option.toList_filter, submissions_cut]
        exact congrArg (List.filter _) hfollows.submitted
      · rw [arrived, router.handed_cut]
        by_cases h0 : router.writeTimeout = 0
        · simp [h0]
        · rw [if_neg h0, if_neg h0]
          exact hfollows.sent

/-! ## Runs -/

theorem serve_uncounted (m' : Metrics) :
    (router.serve c.peers c.fresh c.request m c.originDelay).1 =
      (router.serve c.peers c.fresh c.request m' c.originDelay).1 := by
  unfold serve
  dsimp only
  split <;> rfl

theorem run_reaction (before after : List Call) :
    (run router (before ++ c :: after) m).1[before.length]? =
      some (router.serve c.peers c.fresh c.request {} c.originDelay).1 := by
  induction before generalizing m with
  | nil => exact congrArg some (serve_uncounted router c m {})
  | cons first before ih => exact ih _

variable {router c}

theorem Call.asks_media (h : route c.request = .media) :
    submissions (c.asks router) = [] ∧ (handed (c.asks router)).length ≤ 1 ∧
      (handed (c.asks router) = [] ↔ isHandled c.request = false ∨ router.writeTimeout = 0 ∨
        router.media.target? c.request.uri = none) := by
  unfold asks
  cases isHandled c.request with
  | false => simp [submissions, handed]
  | true =>
    rw [if_pos rfl, router.asks_media (by rw [route_named, h]), named_uri]
    cases router.media.target? c.request.uri with
    | none => simp [submissions, handed]
    | some url =>
      by_cases h0 : router.writeTimeout = 0
      · simp [submissions, handed, h0]
      · simp [submissions, handed, h0, Nat.pos_of_ne_zero h0]

theorem Call.asks_api (h : route c.request = .api) :
    let settled := (c.request.body.read (some router.bridge.maxBody)).1
    handed (c.asks router) = [] ∧ (submissions (c.asks router)).length ≤ 1 ∧
      (submissions (c.asks router) = [] ↔ isHandled c.request = false ∨
        router.writeTimeout ≤ settled ∨ router.bridge.readTimeout < settled ∨
        c.request.body.isBroken = true ∨
        router.bridge.maxBody < c.request.body.content.length) := by
  intro settled
  unfold asks
  cases isHandled c.request with
  | false => simp [submissions, handed]
  | true =>
    rw [if_pos rfl, router.asks_api (by rw [route_named, h]), named_body, Bridge.readBody_eq]
    by_cases hslow : router.bridge.readTimeout < settled
    · simp [handed, submissions, settled, hslow]
    · by_cases hlost : c.request.body.isBroken = true ∨
          router.bridge.maxBody < c.request.body.content.length
      · simp [handed, submissions, settled, hslow, hlost]
      · by_cases hcut : router.writeTimeout ≤ settled
        · simp [handed, submissions, settled, hslow, hlost, hcut]
        · have hin : (c.request.body.read (some router.bridge.maxBody)).1 < router.writeTimeout :=
            Nat.not_le.mp hcut
          simp [handed, submissions, settled, hslow, hlost, hcut, hin]

theorem Call.refused_status (hroute : route c.request = .media)
    (htarget : router.media.target? c.request.uri = none) (hh : isHandled c.request = true)
    (ht : 0 < router.writeTimeout) : c.status router = 400 := by
  have hfollows := router.handle_follows c.peers (named c.request c.fresh) c.originDelay
  have hplan : router.plan (named c.request c.fresh) = .answer { status := 400 } none := by
    unfold plan MediaOrigin.plan
    rw [route_named, hroute, named_uri, htarget]
  rw [hplan] at hfollows
  have hdone : c.isDone router = true := by
    rw [isDone, hh, Bool.true_and]
    exact decide_eq_true (hfollows.time ▸ ht)
  rw [status, if_pos hdone]
  exact congrArg Http.Answer.status hfollows.answer

variable (router c)

/-- In any run of requests, each is answered as if it were the only one, and what is submitted
and sent for it is what it asks. A media request submits nothing and is handed to the relay's
client once, unless it is refused; any other one is never handed over and is submitted once,
unless its body breaks off, is too long or comes too late. Which of the two it is depends on its
path alone, so of requests for one path never one is submitted and another one handed over. -/
theorem run_dispatches (before after : List Call) :
    let path := c.request.uri.path
    let asks := c.asks router
    let reaction := (router.serve c.peers c.fresh c.request {} c.originDelay).1
    let settled := (c.request.body.read (some router.bridge.maxBody)).1
    (run router (before ++ c :: after) m).1[before.length]? = some reaction ∧
    reaction.submitted.toList = submissions asks ∧ reaction.sent.toList = arrived c.peers asks ∧
    (Route.classify path = .media →
      submissions asks = [] ∧ (handed asks).length ≤ 1 ∧
      (handed asks = [] ↔ isHandled c.request = false ∨ router.writeTimeout = 0 ∨
        router.media.target? c.request.uri = none) ∧
      (router.media.target? c.request.uri = none → isHandled c.request = true →
        0 < router.writeTimeout → reaction.answer.status = 400)) ∧
    (Route.classify path = .api →
      handed asks = [] ∧ (submissions asks).length ≤ 1 ∧
      (submissions asks = [] ↔ isHandled c.request = false ∨ router.writeTimeout ≤ settled ∨
        router.bridge.readTimeout < settled ∨ c.request.body.isBroken = true ∨
        router.bridge.maxBody < c.request.body.content.length)) ∧
    ∀ (other : Router) (c' : Call), c'.request.uri.path = path →
      route (named c'.request c'.fresh) = route (named c.request c.fresh) ∧
      (submissions asks = [] ∨ handed (c'.asks other) = []) := by
  intro path asks reaction settled
  obtain ⟨hsubmitted, hsent⟩ := serve_asks router c {}
  refine ⟨run_reaction router c m before after, hsubmitted, hsent, fun hmedia => ?_, Call.asks_api,
    fun other c' hpath => ?_⟩
  · obtain ⟨hnone, hone, hrefused⟩ : submissions asks = [] ∧ _ := Call.asks_media hmedia
    refine ⟨hnone, hone, hrefused, fun htarget hh ht => ?_⟩
    exact (serve_status router c {}).trans (Call.refused_status hmedia htarget hh ht)
  · have hroute : route c'.request = route c.request := congrArg Route.classify hpath
    refine ⟨by rw [route_named, route_named, hroute], ?_⟩
    cases hc : route c.request with
    | media => exact Or.inl (Call.asks_media hc).1
    | api => exact Or.inr (Call.asks_api (hroute.trans hc)).1

/-- Of two requests for one path, the one with a whole body is submitted and the other is not. -/
theorem broken_body_not_submitted :
    let uri : Http.Uri := { rawPath := "/_matrix/client/v3/sync".toList }
    let peers : Peers := ⟨fun _ => (0, .ok ⟨200, []⟩), none⟩
    let whole : Call := { request := { method := .get, uri }, peers, fresh := [] }
    let broken : Call :=
      { request := { method := .get, uri, body := .stream [.breakOff] }, peers, fresh := [] }
    submissions (whole.asks atLoopback) ≠ [] ∧ submissions (broken.asks atLoopback) = [] ∧
      handed (broken.asks atLoopback) = [] := by
  intro uri peers whole broken
  have hapi : Route.classify uri.path = .api := by decide +kernel
  obtain ⟨-, -, -, -, hwhole, hpath⟩ := run_dispatches atLoopback whole {} [] [broken]
  obtain ⟨-, -, -, -, hbroken, -⟩ := run_dispatches atLoopback broken {} [whole] []
  have hsubmitted : submissions (whole.asks atLoopback) ≠ [] :=
    mt (hwhole hapi).2.2.mp (by decide)
  refine ⟨hsubmitted, (hbroken hapi).2.2.mpr (by decide), ?_⟩
  exact (hpath atLoopback broken rfl).2.resolve_left hsubmitted

end Router

end MatrixGateway
