import MatrixGateway.Proofs.Homeservers
import MatrixGateway.Router

/-!
# How a request is served

A request is done in time, comes too late, or has no handler. Each way has
its answer, and only the first one is counted. Naming a request changes
nothing about where it goes.
-/

set_option autoImplicit false

namespace MatrixGateway.Router

/-! ## Named requests -/

variable (r : Http.Request) (fresh : Bytes)

@[simp] theorem named_method : (named r fresh).method = r.method := by
  unfold named
  split <;> rfl

@[simp] theorem named_uri : (named r fresh).uri = r.uri := by
  unfold named
  split <;> rfl

@[simp] theorem named_body : (named r fresh).body = r.body := by
  unfold named
  split <;> rfl

@[simp] theorem named_client : (named r fresh).client = r.client := by
  unfold named
  split <;> rfl

@[simp] theorem route_named : route (named r fresh) = route r := by
  rw [route, named_uri, route]

@[simp] theorem isHandled_named : isHandled (named r fresh) = isHandled r := by
  rw [isHandled, named_uri, isHandled]

/-! ## Answers -/

def answered (a : Http.Answer) : Http.Answer :=
  (a.traced ((named r fresh).headers.get? .requestId)).framed r.method

@[simp] theorem status_sized (a : Http.Answer) : a.sized.status = a.status := by
  unfold Http.Answer.sized
  split
  · split <;> rfl
  · rfl

@[simp] theorem status_answered (a : Http.Answer) : (answered r fresh a).status = a.status := by
  have htraced : ∀ id, (a.traced id).status = a.status := fun id => by
    unfold Http.Answer.traced
    split
    · split <;> rfl
    · rfl
  unfold answered Http.Answer.framed
  split
  · exact htraced _
  · split <;> simp [htraced]

/-! ## The three ways -/

variable (router : Router) (peers : Peers) (m : Metrics) (originDelay : Nat)

def reaction (router : Router) (peers : Peers) (fresh : Bytes) (r : Http.Request)
    (originDelay : Nat) : Reaction :=
  router.handle peers (named r fresh) originDelay

theorem serve_in_time (hh : isHandled r = true)
    (ht : (router.reaction peers fresh r originDelay).time < router.writeTimeout) :
    router.serve peers fresh r m originDelay =
      ({ router.reaction peers fresh r originDelay with
          answer := answered r fresh (router.reaction peers fresh r originDelay).answer },
        counted m (route r) (router.reaction peers fresh r originDelay)) := by
  unfold reaction at *
  simp only [serve, within, isHandled_named, hh, if_pos ht, if_true, named_method, route_named]
  rfl

theorem serve_late (hh : isHandled r = true)
    (ht : router.writeTimeout ≤ (router.reaction peers fresh r originDelay).time) :
    router.serve peers fresh r m originDelay =
      ({ time := router.writeTimeout
         answer := answered r fresh { status := 408 }
         submitted := (router.reaction peers fresh r originDelay).submitted.filter
           (·.1 < router.writeTimeout)
         sent := if router.writeTimeout = 0 then none
           else (router.reaction peers fresh r originDelay).sent }, m) := by
  unfold reaction at *
  simp only [serve, within, isHandled_named, hh, if_neg (Nat.not_lt.mpr ht), if_true, named_method,
    Bool.false_eq_true, if_false]
  rfl

theorem serve_unhandled (hh : isHandled r = false) :
    router.serve peers fresh r m originDelay =
      ({ time := 0, answer := answered r fresh { status := 404 } }, m) := by
  simp only [serve, isHandled_named, hh, named_method, Bool.false_eq_true, if_false]
  rfl

/-! ## What is sent -/

/-- Only media requests are sent to the origin, and the time does not change what is sent. -/
theorem reaction_sent :
    (router.reaction peers fresh r originDelay).sent =
      if route r = .media then (router.media.handle peers (named r fresh)).sent else none := by
  unfold reaction handle
  rw [route_named]
  cases route r with
  | media =>
    simp only [if_true]
    split <;> rfl
  | api =>
    simp only [reduceCtorEq, if_false, Bridge.handle]
    split <;> rfl

variable {router peers fresh r m originDelay}

theorem sent_of_serve {e : Errand}
    (h : (router.serve peers fresh r m originDelay).1.sent = some e) :
    route r = .media ∧ (router.media.handle peers (named r fresh)).sent = some e := by
  have hsent : (router.reaction peers fresh r originDelay).sent = some e := by
    cases hh : isHandled r with
    | false =>
      rw [serve_unhandled r fresh router peers m originDelay hh] at h
      contradiction
    | true =>
      rcases Nat.lt_or_ge (router.reaction peers fresh r originDelay).time router.writeTimeout with
        ht | ht
      · rwa [serve_in_time r fresh router peers m originDelay hh ht] at h
      · rw [serve_late r fresh router peers m originDelay hh ht] at h
        by_cases h0 : router.writeTimeout = 0
        · simp only [if_pos h0, reduceCtorEq] at h
        · simpa only [if_neg h0] using h
  rw [reaction_sent] at hsent
  by_cases hm : route r = .media
  · rw [if_pos hm] at hsent
    exact ⟨hm, hsent⟩
  · rw [if_neg hm] at hsent
    contradiction

theorem serve_sent {e : Errand} (hh : isHandled r = true) (hm : route r = .media)
    (h : (router.media.handle peers (named r fresh)).sent = some e) (ht : 0 < router.writeTimeout) :
    (router.serve peers fresh r m originDelay).1.sent = some e := by
  have hsent : (router.reaction peers fresh r originDelay).sent = some e := by
    rw [reaction_sent, if_pos hm, h]
  rcases Nat.lt_or_ge (router.reaction peers fresh r originDelay).time router.writeTimeout with
    hin | hlate
  · rw [serve_in_time r fresh router peers m originDelay hh hin, hsent]
  · rw [serve_late r fresh router peers m originDelay hh hlate, hsent]
    exact if_neg (Nat.ne_of_gt ht)

def atLoopback : Router where
  bridge := ⟨Homeserver.localhost "localhost:8448" 8448, 1, 1⟩
  media := ⟨"http".toList, "[::1]:81".toList⟩
  writeTimeout := 1

end MatrixGateway.Router
