import MatrixGateway.Router

/-!
# Bridged requests are forwarded whole or not at all

A body counts by its bytes alone, however they were cut into pieces. When
they are all there in time and not too many, one submission carries them to
the transport; a body that breaks off or is too long is refused, and nothing
is submitted. What the transport makes of the submission is the answer.
-/

set_option autoImplicit false

namespace MatrixGateway

namespace Http

def Chunk.bytes : Chunk → Bytes
  | .data bytes => bytes
  | _ => []

namespace Body

def isBroken (b : Body) : Bool := b.chunks.contains .breakOff

def content (b : Body) : Bytes := b.chunks.flatMap Chunk.bytes

theorem readChunks_bytes (limit time : Nat) (taken : Bytes) (cs : List Chunk)
    (ht : taken.length ≤ limit) :
    (readChunks (some limit) time taken cs).2 =
      if cs.contains .breakOff ∨ limit < taken.length + (cs.flatMap Chunk.bytes).length then none
      else some (taken ++ cs.flatMap Chunk.bytes) := by
  induction cs generalizing time taken with
  | nil => simp [readChunks, Nat.not_lt.mpr ht]
  | cons c cs ih =>
    cases c with
    | wait nanos => simpa [readChunks, Chunk.bytes] using ih (time + nanos) taken ht
    | breakOff => simp [readChunks]
    | data bytes =>
      have hc : (Chunk.data bytes :: cs).flatMap Chunk.bytes =
          bytes ++ cs.flatMap Chunk.bytes := rfl
      rw [hc, List.length_append]
      by_cases hl : limit < taken.length + bytes.length
      · have hover : limit < taken.length + (bytes.length + (cs.flatMap Chunk.bytes).length) := by
          omega
        rw [if_pos (Or.inr hover)]
        simp [readChunks, hl]
      · have hn := ih time (taken ++ bytes) (by simp; omega)
        simpa [readChunks, hl, Nat.add_assoc] using hn

theorem read_bytes (limit : Nat) (b : Body) :
    (b.read (some limit)).2 =
      if b.isBroken ∨ limit < b.content.length then none else some b.content := by
  have h := readChunks_bytes limit 0 [] b.chunks (Nat.zero_le _)
  simpa [isBroken, content, read] using h

end Body

end Http

namespace Bridge

/-- Whether the body is lost to the bridge: cut off, or longer than allowed. -/
def isUnreadable (b : Bridge) (body : Http.Body) : Prop :=
  body.isBroken ∨ b.maxBody < body.content.length

theorem readBody_settled (b : Bridge) (body : Http.Body)
    (h : (body.read (some b.maxBody)).1 < b.readTimeout) :
    b.readBody body = body.read (some b.maxBody) := by
  simp [readBody, Nat.le_of_lt h]

theorem handle_unreadable (b : Bridge) (peers : Peers) (r : Http.Request)
    (h : (r.body.read (some b.maxBody)).1 < b.readTimeout) (hu : b.isUnreadable r.body) :
    b.handle peers r =
      { time := (r.body.read (some b.maxBody)).1, answer := refuse .bodyRead } := by
  have hn : (r.body.read (some b.maxBody)).2 = none := by
    rw [Http.Body.read_bytes]
    exact if_pos hu
  unfold handle
  rw [readBody_settled b r.body h]
  generalize r.body.read (some b.maxBody) = reading at hn
  obtain ⟨time, bytes⟩ := reading
  subst hn
  rfl

theorem handle_readable (b : Bridge) (peers : Peers) (r : Http.Request)
    (h : (r.body.read (some b.maxBody)).1 < b.readTimeout) (hr : ¬ b.isUnreadable r.body) :
    b.handle peers r =
      { time := (r.body.read (some b.maxBody)).1 +
          (peers.transport (b.submission r r.body.content)).1
        answer := (conclude (peers.transport (b.submission r r.body.content)).2).1
        submitted :=
          some ((r.body.read (some b.maxBody)).1, b.submission r r.body.content)
        undelivered := (conclude (peers.transport (b.submission r r.body.content)).2).2 } := by
  have hs : (r.body.read (some b.maxBody)).2 = some r.body.content := by
    rw [Http.Body.read_bytes]
    exact if_neg hr
  unfold handle
  rw [readBody_settled b r.body h]
  generalize r.body.read (some b.maxBody) = reading at hs
  obtain ⟨time, bytes⟩ := reading
  subst hs
  rfl

end Bridge

theorem Router.failures_counted (m : Metrics) (route : Route) (reaction : Reaction)
    (label : String) :
    (counted m route reaction).failures.count label =
      m.failures.count label + if reaction.undelivered = some label then 1 else 0 := by
  unfold counted
  cases reaction.undelivered with
  | none => simp [Metrics.finished]
  | some kind => simp [Metrics.finished, Metrics.undelivered, Tally.count_bump]

namespace Bridge

/-- A request whose body settles in time is forwarded whole or refused. It is
refused, and nothing submitted, when the body breaks off or is too long.
Otherwise one submission goes out, the same for all bodies of these bytes, and
its outcome is the answer; a failure or an impossible status is counted once. -/
theorem handle_whole_or_refused (b : Bridge) (peers : Peers) (r : Http.Request)
    (h : (r.body.read (some b.maxBody)).1 < b.readTimeout) :
    let reaction := b.handle peers r
    let failures (kind : Option String) : Prop := ∀ (m : Metrics) (label : String),
      (Router.counted m .api reaction).failures.count label =
        m.failures.count label + if kind = some label then 1 else 0
    if r.body.isBroken ∨ b.maxBody < r.body.content.length then
      reaction.answer = refuse .bodyRead ∧ reaction.submitted = none ∧ failures none
    else
      let s : Transport.Submission :=
        { method := r.method
          url := String.ofList
            ("//".toList ++ b.homeserver.address.toList ++ r.uri.pathAndQuery)
          token := r.headers.token
          body := r.body.content }
      reaction.submitted.map (·.2) = some s ∧
      (∀ body : Http.Body, body.isBroken = false → body.content = r.body.content →
        (body.read (some b.maxBody)).1 < b.readTimeout →
        (b.handle peers { r with body }).submitted.map (·.2) = some s) ∧
      match (peers.transport s).2 with
      | .error f => reaction.answer = refuse .forward ∧ failures (some f.kind)
      | .ok reply =>
        if 100 ≤ reply.status ∧ reply.status ≤ 999 then
          reaction.answer =
            { status := reply.status, headers := ⟨[(.contentType, json)]⟩,
              body := .whole reply.body } ∧ failures none
        else reaction.answer = refuse .forward ∧ failures (some "invalid_status") := by
  intro reaction failures
  have hf : failures reaction.undelivered := fun m label =>
    Router.failures_counted m .api reaction label
  split
  · rename_i hu
    have hh : reaction = _ := handle_unreadable b peers r h hu
    rw [hh] at hf
    exact ⟨by rw [hh], by rw [hh], hf⟩
  · rename_i hr
    intro s
    have hh : reaction = _ := handle_readable b peers r h hr
    refine ⟨by rw [hh]; rfl, ?_, ?_⟩
    · intro body hb hc ht
      have hbody : ¬ b.isUnreadable body := by
        unfold isUnreadable
        rw [hc]
        simpa [hb] using fun hlong => hr (Or.inr hlong)
      rw [handle_readable b peers { r with body } ht hbody]
      simp only [Option.map_some, hc]
      rfl
    · have ha : reaction.answer = (conclude (peers.transport s).2).1 := by rw [hh]; rfl
      have hk : reaction.undelivered = (conclude (peers.transport s).2).2 := by rw [hh]; rfl
      rw [hk] at hf
      rw [ha]
      cases ho : (peers.transport s).2 with
      | error f =>
        rw [ho] at hf
        exact ⟨rfl, hf⟩
      | ok reply =>
        rw [ho] at hf
        simp only [conclude] at hf ⊢
        split
        · rename_i hs
          rw [if_pos hs] at hf
          exact ⟨rfl, hf⟩
        · rename_i hs
          rw [if_neg hs] at hf
          exact ⟨rfl, hf⟩

/-- Two pieces that together are as long as allowed, and settle before the time is up. -/
theorem handle_whole_two_pieces :
    let origin : Url := { scheme := "https".toList, server := some { host := some (.name ['h']) } }
    let b : Bridge :=
      { homeserver := ⟨"h:1", "h", 1, origin⟩, readTimeout := 6, maxBody := 3 }
    let peers : Peers := { transport := fun s => (4, .ok ⟨201, s.body⟩), origin := none }
    let r : Http.Request :=
      { method := ⟨"PUT"⟩, uri := { rawPath := ['/', 'a'], query := some ['q'] }
        headers := ⟨[(.authorization, Bytes.ofString "Bearer x")]⟩
        body := .stream [.data [1], .wait 5, .data [2, 3]] }
    (r.body.read (some b.maxBody)).1 < b.readTimeout ∧
      (b.handle peers r).submitted.map (·.2) = some ⟨⟨"PUT"⟩, "//h:1/a?q", "x", [1, 2, 3]⟩ ∧
      (b.handle peers r).answer = jsonAnswer 201 [1, 2, 3] := by
  intro origin b peers r
  have ht : (r.body.read (some b.maxBody)).1 < b.readTimeout := by decide
  have h := handle_whole_or_refused b peers r ht
  have hr : ¬ (r.body.isBroken ∨ b.maxBody < r.body.content.length) := by decide
  rw [if_neg hr] at h
  exact ⟨ht, h.1.trans (by decide +kernel), h.2.2.1⟩

end Bridge

end MatrixGateway
