import MatrixGateway.Proofs.Dispatch
import MatrixGateway.Proofs.MediaAnswers
import MatrixGateway.Proofs.Preparation

/-!
# Bodies that stall

A bridged request whose body is not settled when the time for reading is over
has two clocks against it, and the one for the whole answer is looked at first.
So the gateway's own refusal is told only if the reading time is the shorter
one. Nothing is submitted either way.
-/

set_option autoImplicit false

namespace MatrixGateway

namespace Router

/-! ## Refusals as the client gets them -/

structure IsRefused (answer : Http.Answer) (m : Http.Method) (k : Refusal) : Prop where
  status : answer.status = k.status
  contentType : answer.headers.getAll .contentType = [Bytes.ofString "application/json"]
  contentLength : answer.headers.getAll .contentLength =
    [Bytes.ofString (toString (Bytes.ofString k.envelope).length)]
  body : answer.body = .whole (if m = .head then [] else Bytes.ofString k.envelope)

variable (r : Http.Request) (fresh : Bytes)

theorem answered_refuse (k : Refusal) :
    IsRefused (answered r fresh (Bridge.refuse k)) r.method k := by
  obtain ⟨id, hid⟩ := exists_id r fresh
  let a : Http.Answer :=
    { status := k.status, headers := ⟨[(.contentType, Bridge.json), (.requestId, id)]⟩,
      body := .whole (Bytes.ofString k.envelope) }
  have htraced : (Bridge.refuse k).traced (some id) = a := rfl
  have hfailed : a.isSuccess = false := by cases k <;> rfl
  have hanswer : answered r fresh (Bridge.refuse k) =
      { status := k.status
        headers := ⟨[(.contentType, Bridge.json), (.requestId, id),
          (.contentLength, Bytes.ofString (toString (Bytes.ofString k.envelope).length))]⟩
        body := .whole (if r.method = .head then [] else Bytes.ofString k.envelope) } := by
    rw [answered, hid, htraced, Http.Answer.framed, hfailed, if_neg (by simp)]
    split <;> rfl
  rw [hanswer]
  exact ⟨rfl, rfl, rfl, rfl⟩

theorem answered_empty (status : Nat) :
    (answered r fresh { status }).status = status ∧
      (answered r fresh { status }).body = .whole [] := by
  refine ⟨status_answered r fresh _, ?_⟩
  obtain ⟨id, hid⟩ := exists_id r fresh
  rw [answered, hid, Http.Answer.framed]
  split
  · rfl
  · split <;> rfl

/-! ## Bodies that are not settled in time -/

variable {r} (router : Router) (peers : Peers) (originDelay : Nat)

theorem reaction_stalled (hroute : route r = .api)
    (hstall : router.bridge.readTimeout < (r.body.read (some router.bridge.maxBody)).1) :
    router.reaction peers fresh r originDelay =
      { time := router.bridge.readTimeout, answer := Bridge.refuse .bodyRead } := by
  unfold reaction handle Bridge.handle
  rw [route_named, hroute]
  dsimp only
  rw [named_body, Bridge.readBody_eq, if_pos hstall]

variable (s : Settings) (homeserver : Homeserver) (media : MediaOrigin) (m : Metrics)

theorem ofSettings_shorter_iff :
    (ofSettings s homeserver media).bridge.readTimeout <
        (ofSettings s homeserver media).writeTimeout ↔
      s.timeouts.readSecs < s.timeouts.writeSecs := by
  have hunit : 0 < Span.nanosPerSec := by decide
  simp only [ofSettings, Span.nanos_ofSecs, UInt64.lt_iff_toNat_lt]
  exact Nat.mul_lt_mul_right hunit

theorem serve_stalled (hroute : route r = .api) (hhandled : isHandled r = true)
    (hstall : router.bridge.readTimeout < (r.body.read (some router.bridge.maxBody)).1) :
    (router.serve peers fresh r m originDelay).1 =
      if router.bridge.readTimeout < router.writeTimeout then
        { time := router.bridge.readTimeout, answer := answered r fresh (Bridge.refuse .bodyRead) }
      else { time := router.writeTimeout, answer := answered r fresh { status := 408 } } := by
  have hreaction := reaction_stalled fresh router peers originDelay hroute hstall
  have htime := congrArg Reaction.time hreaction
  split
  · rename_i hin
    rw [serve_in_time r fresh router peers m originDelay hhandled (htime ▸ hin), hreaction]
  · rename_i hlate
    rw [serve_late r fresh router peers m originDelay hhandled (htime ▸ Nat.not_lt.mp hlate),
      hreaction]
    simp

/-- When the body of a bridged request is not settled in the time for reading, nothing is
submitted or sent. The refusal is told if the reading time is the shorter one. If the time for
the answer is, the answer is the bare one of a request that came too late. -/
theorem stalled_answered (hroute : route r = .api)
    (hstall : (ofSettings s homeserver media).bridge.readTimeout <
      (r.body.read (some (ofSettings s homeserver media).bridge.maxBody)).1) :
    let reaction := ((ofSettings s homeserver media).serve peers fresh r m originDelay).1
    reaction.submitted = none ∧ reaction.sent = none ∧
    (isHandled r = true → s.timeouts.readSecs < s.timeouts.writeSecs →
      reaction.time = (Span.ofSecs s.timeouts.readSecs).nanos ∧
        IsRefused reaction.answer r.method .bodyRead) ∧
    (isHandled r = true → s.timeouts.writeSecs < s.timeouts.readSecs →
      reaction.time = (Span.ofSecs s.timeouts.writeSecs).nanos ∧
        reaction.answer.status = 408 ∧ reaction.answer.body = .whole []) ∧
    (isHandled r = false → reaction.answer.status = 404 ∧ reaction.answer.body = .whole []) := by
  intro reaction
  cases hhandled : isHandled r with
  | false =>
    have hreaction : reaction = { time := 0, answer := answered r fresh { status := 404 } } :=
      congrArg Prod.fst (serve_unhandled r fresh _ peers m originDelay hhandled)
    rw [hreaction]
    exact ⟨rfl, rfl, fun h => absurd h Bool.false_ne_true, fun h => absurd h Bool.false_ne_true,
      fun _ => answered_empty r fresh 404⟩
  | true =>
    have hshorter := ofSettings_shorter_iff s homeserver media
    have hreaction : reaction = _ :=
      serve_stalled fresh _ peers originDelay m hroute hhandled hstall
    by_cases hin : (ofSettings s homeserver media).bridge.readTimeout <
        (ofSettings s homeserver media).writeTimeout
    · rw [if_pos hin] at hreaction
      rw [hreaction]
      exact ⟨rfl, rfl, fun _ _ => ⟨rfl, answered_refuse r fresh .bodyRead⟩,
        fun _ hlong => absurd (hshorter.mp hin) (UInt64.lt_asymm hlong),
        fun h => absurd h.symm Bool.false_ne_true⟩
    · rw [if_neg hin] at hreaction
      rw [hreaction]
      exact ⟨rfl, rfl, fun _ hshort => absurd (hshorter.mpr hshort) hin,
        fun _ _ => ⟨rfl, answered_empty r fresh 408⟩, fun h => absurd h.symm Bool.false_ne_true⟩

def stalling : Http.Request where
  method := ⟨"POST"⟩
  uri := { rawPath := "/_matrix/client/v3/login".toList }
  body := .stream [.data [1], .wait 400000000000, .data [2]]

theorem stalled_refused_below_default :
    let s : Settings := { homeserver := "localhost:8448", timeouts := { readSecs := 299 } }
    let homeserver := Homeserver.localhost "localhost:8448" 8448
    let peers : Peers := ⟨fun _ => (0, .ok ⟨200, []⟩), none⟩
    let reaction := ((ofSettings s homeserver atLoopback.media).serve peers [] stalling {}).1
    route stalling = .api ∧
      (ofSettings s homeserver atLoopback.media).bridge.readTimeout < (stalling.body.read
        (some (ofSettings s homeserver atLoopback.media).bridge.maxBody)).1 ∧
      IsRefused reaction.answer stalling.method .bodyRead ∧ reaction.submitted = none := by
  intro s homeserver peers reaction
  have hroute : route stalling = .api := by decide +kernel
  have hstall : (Span.ofSecs s.timeouts.readSecs).nanos <
      (stalling.body.read (some s.bridge.maxBodyBytes.toNat)).1 := by decide +kernel
  have hhandled : isHandled stalling = true := by decide +kernel
  have hshorter : s.timeouts.readSecs < s.timeouts.writeSecs := by decide +kernel
  obtain ⟨hsubmitted, -, hrefused, -⟩ := stalled_answered [] peers 0 s homeserver
    atLoopback.media {} hroute hstall
  exact ⟨hroute, hstall, (hrefused hhandled hshorter).2, hsubmitted⟩

/-- Where ten seconds are given for an answer the client of a stalled request gets no envelope. -/
theorem stalled_past_write_not_refused :
    let s : Settings := { homeserver := "localhost:8448", timeouts := { writeSecs := 10 } }
    let homeserver := Homeserver.localhost "localhost:8448" 8448
    s.faults = [] ∧ Homeserver.parse s.homeserver = .ok homeserver ∧
      ∃ media, MediaOrigin.ofUrl homeserver.origin = .ok media ∧
        route stalling = .api ∧ isHandled stalling = true ∧
        (ofSettings s homeserver media).bridge.readTimeout <
          (stalling.body.read (some (ofSettings s homeserver media).bridge.maxBody)).1 ∧
        ∀ (peers : Peers) (fresh : Bytes) (m : Metrics),
          let answer := ((ofSettings s homeserver media).serve peers fresh stalling m).1.answer
          answer.status = 408 ∧ answer.body = .whole [] ∧
            ¬ IsRefused answer stalling.method .bodyRead := by
  intro s homeserver
  have hparsed : Homeserver.parse "localhost:8448" = .ok homeserver :=
    Homeserver.parse_localhost_8448
  obtain ⟨media, hmedia⟩ := Homeserver.exists_mediaOrigin hparsed
  have hroute : route stalling = .api := by decide +kernel
  have hhandled : isHandled stalling = true := by decide +kernel
  have hstall : (Span.ofSecs s.timeouts.readSecs).nanos <
      (stalling.body.read (some s.bridge.maxBodyBytes.toNat)).1 := by decide +kernel
  have hlate : ¬ (ofSettings s homeserver media).bridge.readTimeout <
      (ofSettings s homeserver media).writeTimeout :=
    mt (ofSettings_shorter_iff s homeserver media).mp (by decide +kernel)
  have hfaults : s.faults = [] :=
    Settings.faults_timeouts (Settings.faults_default hparsed) rfl rfl (by decide)
  refine ⟨hfaults, hparsed, media, hmedia, hroute, hhandled, hstall,
    fun peers fresh m => ?_⟩
  have hserve := serve_stalled fresh (ofSettings s homeserver media) peers 0 m hroute
    hhandled hstall
  rw [if_neg hlate] at hserve
  obtain ⟨hstatus, hbody⟩ := answered_empty stalling fresh 408
  rw [hserve]
  exact ⟨hstatus, hbody, fun h => absurd (hstatus.symm.trans h.status) (by decide)⟩

end Router

end MatrixGateway
