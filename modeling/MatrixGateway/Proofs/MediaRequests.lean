import MatrixGateway.Proofs.EndToEnd
import MatrixGateway.Proofs.Forwarding
import MatrixGateway.Proofs.Reach
import MatrixGateway.Proofs.Serving

/-!
# Media requests as the origin gets them

A media request with a target reaches the origin with its method, its path,
its fields but for those of one hop, and its body. Only a target whose text
is too long for a request is not asked for.
-/

set_option autoImplicit false

namespace MatrixGateway

/-! ## Bodies without a limit -/

namespace Http.Body

theorem readChunks_unlimited (time : Nat) (taken : Bytes) (cs : List Chunk) :
    (readChunks none time taken cs).2 =
      if cs.contains .breakOff then none else some (taken ++ cs.flatMap Chunk.bytes) := by
  induction cs generalizing time taken with
  | nil => simp [readChunks]
  | cons c cs ih =>
    cases c with
    | wait nanos => simpa [readChunks, Chunk.bytes] using ih (time + nanos) taken
    | breakOff => simp [readChunks]
    | data bytes => simpa [readChunks, Chunk.bytes] using ih time (taken ++ bytes)

theorem read_unlimited (b : Body) :
    (b.read none).2 = if b.isBroken then none else some b.content := by
  simpa [isBroken, content, read] using readChunks_unlimited 0 [] b.chunks

end Http.Body

namespace MediaOrigin

def SendsNothing (m : Http.Method) (announced : List Bytes) : Prop :=
  announced = [] ∧ (m = .get ∨ m = .head)

instance (m : Http.Method) (announced : List Bytes) : Decidable (SendsNothing m announced) :=
  inferInstanceAs (Decidable (_ ∧ _))

/-- A body is sent whole when its length is announced rightly or not at all. -/
theorem errandBody_whole {m : Http.Method} {values : List Bytes} {body : Http.Body}
    (hm : m ≠ .connect) (hb : body.isBroken = false)
    (hv : values = [] ∨ Http.Wire.announcedLength? values = some body.content.length) :
    ∃ time, errandBody m (Http.Wire.announcedLength? values) body =
      (time, some (if SendsNothing m values then [] else body.content)) := by
  have hread : body.read none = ((body.read none).1, some body.content) := by
    have h := Http.Body.read_unlimited body
    rw [hb, if_neg Bool.false_ne_true] at h
    rw [← h]
  rcases hv with rfl | hv
  · have hnone : Http.Wire.announcedLength? [] = none := rfl
    rw [hnone]
    by_cases hsmall : m = .get ∨ m = .head
    · refine ⟨0, ?_⟩
      have hlisted : [Http.Method.get, .head, .connect].contains m = true := by
        rcases hsmall with rfl | rfl <;> rfl
      simp only [errandBody, hlisted, if_true, SendsNothing, true_and, hsmall]
    · refine ⟨(body.read none).1, ?_⟩
      have hlisted : [Http.Method.get, .head, .connect].contains m = false := by
        simp only [not_or] at hsmall
        simp [hsmall, hm]
      simp only [errandBody, hlisted, Bool.false_eq_true, if_false, SendsNothing, true_and, hsmall]
      exact hread
  · refine ⟨(body.read none).1, ?_⟩
    have hne : values ≠ [] := by
      rintro rfl
      contradiction
    rw [hv, errandBody, hread]
    simp [SendsNothing, hne]

theorem handle_sends {o : MediaOrigin} {peers : Peers} {r : Http.Request} {v : Url}
    {origin : Errand → Http.Wire.Arrival} (hv : o.target? r.uri = some v)
    (ho : peers.origin = some origin) (hgo : Errand.canGo v = true) (hm : r.method ≠ .connect)
    (hb : r.body.isBroken = false)
    (hlength : r.headers.endToEnd .contentLength = [] ∨
      Http.Wire.announcedLength? (r.headers.endToEnd .contentLength) =
        some r.body.content.length) :
    ∃ e, (o.handle peers r).sent = some e ∧
      e = Errand.toUrl r.method v (o.errandHeaders r)
        (if SendsNothing r.method (r.headers.endToEnd .contentLength) then []
          else r.body.content) := by
  have hvalues : (o.errandHeaders r).getAll .contentLength = r.headers.endToEnd .contentLength := by
    rw [errandHeaders_getAll o r (by decide), if_neg (by decide)]
  obtain ⟨time, hbody⟩ := errandBody_whole hm hb hlength
  refine ⟨_, ?_, rfl⟩
  unfold handle forward
  simp only [hv, ho, hgo, if_true, hvalues, hbody]
  split <;> rfl

theorem handle_unreached {o : MediaOrigin} {peers : Peers} {r : Http.Request} {v : Url}
    (hv : o.target? r.uri = some v) (hgo : Errand.canGo v = false) :
    o.handle peers r = badGateway 0 := by
  unfold handle
  simp only [hv, hgo, Bool.false_eq_true, if_false]
  split <;> rfl

end MediaOrigin

/-! ## Through the router -/

namespace Router

variable {router : Router} {peers : Peers} {fresh : Bytes} {r : Http.Request} {v : Url}

theorem isHandled_media {raw : Bytes} (huri : Http.Uri.parse raw = .ok r.uri)
    (hroute : route r = .media) : isHandled r = true := by
  obtain ⟨rest, hpath, -, -⟩ :=
    (Http.Uri.parse_shaped huri).media_path (Route.of_classify_media hroute).1
  rw [isHandled, hpath]
  rfl

theorem announced_named (fresh : Bytes) (hlength : r.headers.getAll .contentLength = [] ∨
      Http.Wire.announcedLength? (r.headers.getAll .contentLength) = some r.body.content.length) :
    (named r fresh).headers.endToEnd .contentLength = [] ∨
      Http.Wire.announcedLength? ((named r fresh).headers.endToEnd .contentLength) =
        some r.body.content.length := by
  rw [endToEnd_named r fresh (by decide), Http.Headers.endToEnd]
  split
  · exact Or.inl rfl
  · exact hlength

theorem serve_unreached (m : Metrics) (originDelay : Nat) (hh : isHandled r = true)
    (hroute : route r = .media) (hv : router.media.target? r.uri = some v)
    (hgo : Errand.canGo v = false) (ht : 0 < router.writeTimeout) :
    let outcome := (router.serve peers fresh r m originDelay).1
    outcome.sent = none ∧ outcome.answer.status = 502 := by
  have hreaction : router.reaction peers fresh r originDelay = MediaOrigin.badGateway 0 := by
    rw [reaction, handle, route_named, hroute]
    simp only [MediaOrigin.handle_unreached ((named_uri r fresh).symm ▸ hv) hgo]
    rfl
  rw [serve_in_time r fresh router peers m originDelay hh (by rw [hreaction]; exact ht), hreaction]
  exact ⟨rfl, status_answered r fresh _⟩

def uploading : Http.Request where
  method := ⟨"POST"⟩
  uri := { rawPath := "/_matrix/client/v1/media/a".toList, query := some "q='".toList }
  headers := ⟨[(.connection, Bytes.ofString "host"), (.contentLength, Bytes.ofString "2")]⟩
  body := .stream [.data (Bytes.ofString "1"), .data (Bytes.ofString "2")]

/-- What a media request with a target is to the origin: the same method, path and body, the
query encoded, and the fields that go on, but for the host, the addresses it was forwarded for
and what is accepted. Nothing is sent when the target's text is too long for a request. -/
theorem origin_gets_request {s : List Char} {u : Url} {raw : Bytes}
    {origin : Errand → Http.Wire.Arrival} (m : Metrics) (originDelay : Nat)
    (hs : Url.parse s = .ok u) (hh : u.isHttp = true)
    (ho : MediaOrigin.ofUrl u = .ok router.media) (huri : Http.Uri.parse raw = .ok r.uri)
    (hroute : route r = .media) (hv : router.media.target? r.uri = some v)
    (horigin : peers.origin = some origin) (hm : r.method ≠ .connect)
    (hlength : r.headers.getAll .contentLength = [] ∨
      Http.Wire.announcedLength? (r.headers.getAll .contentLength) = some r.body.content.length)
    (hbody : r.body.isBroken = false) (htime : (r.body.read none).1 < router.writeTimeout) :
    let outcome := (router.serve peers fresh r m originDelay).1
    let h := (named r fresh).headers
    let target := r.uri.path ++ Http.Uri.marked (r.uri.query.map (Url.encode Url.inSpecialQuerySet))
    if (router.media.base ++ target).length ≤ Http.Uri.maxLength ∧
        (Http.Authority.parse router.media.authority).isOk = true then
      ∃ e, outcome.sent = some e ∧ e.method = r.method ∧ e.target = target ∧
        (∀ n, e.headers.getAll n =
          if n = .host then [Bytes.ofText router.media.authority]
          else if n = .forwardedFor then
            MediaOrigin.forwardedValues (h.endToEnd .forwardedFor) r.client
          else if n = .accept ∧ h.endToEnd .accept = [] then [Bytes.ofString "*/*"]
          else h.endToEnd n) ∧
        e.body = if h.endToEnd .contentLength = [] ∧ (r.method = .get ∨ r.method = .head) then []
          else r.body.content
    else outcome.sent = none ∧ outcome.answer.status = 502 := by
  intro outcome h target
  obtain ⟨-, p, host, -, hn⟩ := MediaOrigin.names_of_ofUrl hs hh ho
  have hu := Http.Uri.parse_shaped huri
  have hhandled : isHandled r = true := isHandled_media huri hroute
  have htimeout : 0 < router.writeTimeout := Nat.zero_lt_of_lt htime
  obtain ⟨-, -, hpath, hquery, -⟩ := hn.target_of_media hu hroute hv
  have hmarked : v.path.text ++ Http.Uri.marked v.query = target := by rw [hpath, hquery]
  have hgo := hn.canGo_iff hu hroute hv
  rw [hn.text_of_media hu hroute hv, List.append_assoc, hmarked] at hgo
  split
  · rename_i hshort
    have hnamed : router.media.target? (named r fresh).uri = some v := by rw [named_uri, hv]
    obtain ⟨e, hsent, he⟩ := MediaOrigin.handle_sends (r := named r fresh) hnamed horigin
      (hgo.mpr hshort) (by rwa [named_method]) (by rwa [named_body])
      (by rw [named_body]; exact announced_named fresh hlength)
    rw [named_method, named_body] at he
    refine ⟨e, serve_sent hhandled hroute hsent htimeout, ?_, ?_, fun n => ?_, ?_⟩
    · rw [he]
      rfl
    · rw [he, ← hmarked]
      exact if_neg hm
    · rw [he, MediaOrigin.toUrl_getAll, MediaOrigin.relayedField, named_client]
    · rw [he]
      rfl
  · rename_i hlong
    exact serve_unreached m originDelay hhandled hroute hv
      (eq_false_of_ne_true fun hshort => hlong (hgo.mp hshort)) htimeout

theorem loopback_gets_request :
    ∃ u v e, Url.parse "http://[::1]:81".toList = .ok u ∧ u.isHttp = true ∧
      MediaOrigin.ofUrl u = .ok atLoopback.media ∧ atLoopback.media.target? uploading.uri = some v ∧
      (atLoopback.serve ⟨fun _ => (0, .ok ⟨200, []⟩), some fun _ => {}⟩ [] uploading {}).1.sent =
        some e ∧
      e.method = ⟨"POST"⟩ ∧ e.target = "/_matrix/client/v1/media/a?q=%27".toList ∧
      e.headers.getAll .host = [Bytes.ofString "[::1]:81"] ∧ e.body = Bytes.ofString "12" := by
  let u : Url :=
    { scheme := "http".toList
      server := some { host := some (.v6 ⟨#v[0, 0, 0, 0, 0, 0, 0, 1]⟩), port := some 81 }
      path := .segments [[]] }
  let v : Url :=
    { u with
      path := .segments (["_matrix", "client", "v1", "media", "a"].map String.toList)
      query := some "q=%27".toList }
  have hs : Url.parse "http://[::1]:81".toList = .ok u := by decide +kernel
  have hh : u.isHttp = true := by decide +kernel
  have ho : MediaOrigin.ofUrl u = .ok atLoopback.media := by decide +kernel
  have huri : Http.Uri.parse (Bytes.ofString "/_matrix/client/v1/media/a?q='") =
      .ok uploading.uri := by decide +kernel
  have hroute : route uploading = .media := by decide +kernel
  have hv : atLoopback.media.target? uploading.uri = some v := by decide +kernel
  have hgets := @origin_gets_request atLoopback ⟨fun _ => (0, .ok ⟨200, []⟩), some fun _ => {}⟩ []
    uploading v _ u _ _ {} 0 hs hh ho huri hroute hv rfl (by decide) (Or.inr (by decide +kernel))
    (by decide +kernel) (by decide +kernel)
  rw [if_pos (by decide +kernel)] at hgets
  obtain ⟨e, hsent, hmethod, htarget, hheaders, hbody⟩ := hgets
  refine ⟨u, v, e, hs, hh, ho, hv, hsent, hmethod, ?_, ?_, ?_⟩
  · rw [htarget]
    decide +kernel
  · rw [hheaders, if_pos rfl]
    rfl
  · rw [hbody]
    decide +kernel

/-- A request for media that a client can write and that has a target, but one whose text is
longer than a request may hold. -/
theorem long_query_not_sent :
    ∃ u raw r v, Url.parse "http://[::1]:81".toList = .ok u ∧ u.isHttp = true ∧
      MediaOrigin.ofUrl u = .ok atLoopback.media ∧ Http.Uri.parse raw = .ok r.uri ∧
      route r = .media ∧ r.method = .get ∧ r.headers = {} ∧ r.body = .whole [] ∧
      atLoopback.media.target? r.uri = some v ∧
      ∀ (fresh : Bytes) (m : Metrics) (peers : Peers),
        (atLoopback.serve peers fresh r m).1.sent = none ∧
          (atLoopback.serve peers fresh r m).1.answer.status = 502 := by
  let u : Url :=
    { scheme := "http".toList
      server := some { host := some (.v6 ⟨#v[0, 0, 0, 0, 0, 0, 0, 1]⟩), port := some 81 }
      path := .segments [[]] }
  let path := "/_matrix/client/v1/media/a".toList
  let query := List.replicate 65500 'q'
  let uri : Http.Uri := { rawPath := path, query := some query }
  have hs : Url.parse "http://[::1]:81".toList = .ok u := by decide +kernel
  have hh : u.isHttp = true := by decide +kernel
  have ho : MediaOrigin.ofUrl u = .ok atLoopback.media := by decide +kernel
  have hplain : Http.Uri.Plain path (some query) := by
    have hpath : path.all (fun c => !Url.inPathSet c) = true := by decide +kernel
    refine ⟨fun c hc => Url.plain_path_char ?_, fun q hq c hc => ?_⟩
    · simpa using List.all_eq_true.mp hpath c hc
    · rw [← Option.some.inj hq] at hc
      rw [List.eq_of_mem_replicate hc]
      decide
  have hlength : (path ++ Http.Uri.marked (some query)).length = 65527 := by
    have hpath : path.length = 26 := by decide
    rw [List.length_append, hpath, Http.Uri.marked, Option.map_some, Option.getD_some,
      List.length_cons, List.length_replicate]
  have hascii : ∀ c ∈ path ++ Http.Uri.marked (some query), c.toNat < 128 := fun c hc =>
    (List.mem_append.mp hc).elim (fun hc => (hplain.path c hc).1) hplain.marked_ascii
  have huri : Http.Uri.parse (Bytes.ofText (path ++ Http.Uri.marked (some query))) = .ok uri := by
    apply hplain.parse_rooted rfl
    rw [Bytes.length_ofText hascii, hlength]
    decide
  have hu := Http.Uri.parse_shaped huri
  have hroute : Route.classify uri.path = .media := by decide +kernel
  obtain ⟨-, p, h, hhost, hn⟩ := MediaOrigin.names_of_ofUrl hs hh ho
  have hreadable : h.isReadable = true := by
    rw [← Option.some.inj hhost]
    decide +kernel
  have hkept : Url.Segments.text (Url.readPath (.network p) uri.place) = uri.path := by
    have hclean : (Route.hasDotSegment uri.path ||
        uri.path.any fun c => c = '\\' || Url.inPathSet c) = false := by decide +kernel
    obtain ⟨-, -, -, hplace⟩ := hu.media_path (Route.of_classify_media hroute).1
    rw [hplace, hu.media_kept_iff (Route.of_classify_media hroute).1]
    simpa using hclean
  have hv := hn.target?_eq hu (by decide +kernel : uri.rawPath ≠ ['*'])
  rw [if_pos ⟨hreadable, hkept⟩] at hv
  refine ⟨u, _, { method := .get, uri }, _, hs, hh, ho, huri, hroute, rfl, rfl, rfl, hv,
    fun fresh m peers => ?_⟩
  refine serve_unreached m 0 rfl hroute hv (eq_false_of_ne_true fun hgo => ?_) (by decide)
  have hshort := ((hn.canGo_iff hu hroute hv).mp hgo).1
  obtain ⟨-, -, hpath, hquery, -⟩ := hn.target_of_media hu hroute hv
  have hsame : Url.encode Url.inSpecialQuerySet query = query :=
    Url.encode_eq_self _ _ fun c hc => by
      rw [List.eq_of_mem_replicate hc]
      decide
  have hbase : atLoopback.media.base.length = 15 := by decide
  rw [hn.text_of_media hu hroute hv, hpath, hquery, Option.map_some, hsame, List.append_assoc,
    List.length_append, hbase] at hshort
  rw [show uri.path = path from rfl, hlength] at hshort
  exact absurd hshort (by decide)

end Router

end MatrixGateway
