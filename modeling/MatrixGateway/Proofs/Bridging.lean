import MatrixGateway.Bridge
import MatrixGateway.Proofs.Diversion
import MatrixGateway.Proofs.Homeservers
import MatrixGateway.Proofs.Retry
import MatrixGateway.Transport.Https

/-!
# Where bridged requests go

A bridged request goes to the homeserver's host and port, whatever authority
its target names. It has a destination exactly when the homeserver's address is
a host, a colon and digits, and its path arrives as a URL's reader takes it.
-/

set_option autoImplicit false

namespace MatrixGateway

/-! ## Deliveries without a destination -/

namespace Transport

theorem Attempt.outcome_ne_invalid (a : Attempt) (k : Nat) (url : String) :
    a.outcome k ≠ .error (.invalidDestination url) := by
  unfold Attempt.outcome
  split
  · simp
  · rename_i f reason _
    rcases f with (_ | _) | _ | _ <;> simp [AttemptFailure.conclude]

theorem Params.send_invalid_iff (p : Params) (s : Submission)
    (contact : Nat → Url → Errand → Contact) (draw : Nat → Nat) :
    (∃ url, (p.send s contact draw).outcome = .error (.invalidDestination url)) ↔
      ¬ ∃ u, s.destination = .ok u := by
  unfold Params.send
  cases hd : s.destination with
  | ok u =>
    simp only [Except.ok.injEq, exists_eq', not_true, iff_false, not_exists]
    intro url
    obtain ⟨k, -, -, -, ho, -, -⟩ :=
      p.deliver_last s.method (fun k => s.attempt p u (contact k u)) draw
    rw [ho]
    exact Attempt.outcome_ne_invalid _ k url
  | error f =>
    unfold Submission.destination at hd
    simp only at hd
    split at hd
    · contradiction
    · obtain rfl := Except.error.inj hd
      simp

end Transport

/-! ## Targets from the root -/

namespace Http.Uri

theorem rawPath_ne_asterisk {u : Uri} (h : u.path.head? = some '/') : u.rawPath ≠ ['*'] := by
  intro hraw
  rw [path, hraw, if_neg (by simp)] at h
  exact absurd h (by decide)

theorem readPath_place {u : Uri} (h : u.path.head? = some '/') (p : UInt16) :
    Url.readPath (.network p) u.place = Url.readPath (.network p) u.path := by
  unfold path at h ⊢
  unfold place
  split at h
  · rename_i hpath
    rw [if_pos hpath, hpath.1]
    split <;> rfl
  · rename_i hpath
    rw [if_neg hpath, if_neg]
    rintro ⟨hraw, -⟩
    rw [hraw] at h
    contradiction

end Http.Uri

namespace Bridge

section Destination

variable {address : String} {b : Bridge} {r : Http.Request} (body : Bytes)

theorem destination_text :
    (if "//".toList.isPrefixOf (b.submission r body).url.toList
      then "https:".toList ++ (b.submission r body).url.toList
      else (b.submission r body).url.toList) =
    "https://".toList ++ b.homeserver.address.toList ++ r.uri.pathAndQuery := by
  have hmark : "//".toList = ['/', '/'] := rfl
  have hscheme : "https://".toList = "https:".toList ++ ['/', '/'] := rfl
  have hurl : (b.submission r body).url.toList =
      '/' :: '/' :: (b.homeserver.address.toList ++ r.uri.pathAndQuery) := by
    simp [submission, Homeserver.target]
  rw [hurl, hmark, hscheme, if_pos (by simp [List.isPrefixOf])]
  simp only [List.append_assoc, List.cons_append, List.nil_append]

variable (hh : Homeserver.parse address = .ok b.homeserver) (hu : r.uri.Shaped)

include hh hu

theorem destination_dialable (hdial : b.homeserver.IsDialable) (hstar : r.uri.rawPath ≠ ['*']) :
    (b.submission r body).destination = .ok
      { scheme := "https".toList,
        server := some
          { host := b.homeserver.origin.host?,
            port := if 443 = b.homeserver.port then none else some b.homeserver.port },
        path := .segments (Url.readPath (.network 443) r.uri.place),
        query := r.uri.query.map (Url.encode Url.inSpecialQuerySet), fragment := none } := by
  obtain ⟨-, gap, port, hp⟩ := Homeserver.parse_parts hh
  obtain ⟨rfl, hdigits⟩ := hp.isDialable_iff.mp hdial
  have hparse := hp.parse_dialable hdigits (hu.start_end hstar) fun c hc =>
    hu.pathAndQuery_visible hc
  rw [Url.finish_target Url.kind_https hu] at hparse
  simp only [Transport.Submission.destination, destination_text, hparse]

theorem destination_undialable (h : ¬ b.homeserver.IsDialable ∨ r.uri.rawPath = ['*']) :
    (b.submission r body).destination =
      .error (.invalidDestination (b.submission r body).url) := by
  obtain ⟨-, gap, port, hp⟩ := Homeserver.parse_parts hh
  have hfail : ∃ e, Url.parse ("https://".toList ++ b.homeserver.address.toList ++
      r.uri.pathAndQuery) = .error e := by
    by_cases hstar : r.uri.rawPath = ['*']
    · -- the asterisk is read as a part of the port
      have hread := hp.parse_undialable ['*'] (by simp; decide) (Or.inl rfl) (by simp)
        (Or.inr ⟨'*', by simp, by decide⟩)
      rw [hu.pathAndQuery_asterisk hstar]
      simpa using hread
    · have hstray : gap ≠ [] ∨ ∃ c ∈ port ++ [], c.isDigit = false := by
        have hno := h.resolve_right hstar
        rw [hp.isDialable_iff, not_and_or] at hno
        exact hno.imp_right fun h => by simpa using h
      have hread := hp.parse_undialable [] (by simp) (hu.start_end hstar)
        (fun c hc => hu.pathAndQuery_visible hc) hstray
      simpa using hread
  obtain ⟨e, he⟩ := hfail
  simp only [Transport.Submission.destination, destination_text, he]

end Destination

/-- The origin is the host's `https` URL and nothing more, and whatever authority a
target names, its request has the origin's host, the address's port, and no user. -/
theorem bridged_to_homeserver {address : String} {h : Homeserver}
    (hh : Homeserver.parse address = .ok h) :
    (∃ n, Url.Host.parse h.host.toList = .ok n ∧
      h.origin =
        { scheme := "https".toList,
          server := some { user := [], password := [], host := some n, port := none },
          path := .segments [[]], query := none, fragment := none } ∧
      h.origin.path.text = "/".toList) ∧
    ∀ (b : Bridge) (r : Http.Request) (raw body : Bytes) (u : Url),
      b.homeserver = h → Http.Uri.parse raw = .ok r.uri →
      (b.submission r body).destination = .ok u →
        u.scheme = "https".toList ∧ u.host? = h.origin.host? ∧ u.port?.getD 443 = h.port ∧
          ∃ server, u.server = some server ∧ server.userInfo = [] := by
  constructor
  · obtain ⟨-, gap, port, hp⟩ := Homeserver.parse_parts hh
    obtain ⟨n, hn, horigin⟩ := hp.origin
    exact ⟨n, hn, horigin, by rw [horigin]; rfl⟩
  · rintro b r raw body u rfl huri hu
    have hshaped := Http.Uri.parse_shaped huri
    by_cases hno : ¬ b.homeserver.IsDialable ∨ r.uri.rawPath = ['*']
    · rw [destination_undialable body hh hshaped hno] at hu
      contradiction
    · obtain ⟨hdial, hstar⟩ := not_or.mp hno
      rw [destination_dialable body hh hshaped (not_not.mp hdial) hstar] at hu
      obtain rfl := Except.ok.inj hu
      refine ⟨rfl, rfl, ?_, _, rfl, rfl⟩
      change (if 443 = b.homeserver.port then none else some b.homeserver.port).getD 443 = _
      split
      · assumption
      · rfl

theorem bridged_from_other_authority :
    ∃ h uri u, Homeserver.parse "localhost:8448" = .ok h ∧
      Http.Uri.parse (Bytes.ofString "http://elsewhere:1/a?b") = .ok uri ∧
      (submission ⟨h, 0, 0⟩ { method := .get, uri } []).destination = .ok u ∧
      u.text = "https://localhost:8448/a?b".toList ∧ u.host? = h.origin.host? ∧
      u.port?.getD 443 = h.port := by
  let uri : Http.Uri :=
    { scheme := some "http", authority := "elsewhere:1".toList, rawPath := "/a".toList,
      query := some "b".toList }
  let b : Bridge := ⟨Homeserver.localhost "localhost:8448" 8448, 0, 0⟩
  have hh : Homeserver.parse "localhost:8448" = .ok b.homeserver :=
    Homeserver.parse_localhost (by decide) rfl rfl rfl
  have huri : Http.Uri.parse (Bytes.ofString "http://elsewhere:1/a?b") = .ok uri := by
    decide +kernel
  have hu := destination_dialable (r := { method := .get, uri }) [] hh (Http.Uri.parse_shaped huri)
    (Homeserver.isDialable_localhost "8448".toList rfl (by decide)) (by decide)
  obtain ⟨-, hbridged⟩ := bridged_to_homeserver hh
  obtain ⟨-, hhost, hport, -⟩ := hbridged b { method := .get, uri } _ [] _ rfl huri hu
  exact ⟨b.homeserver, uri, _, hh, huri, hu, by decide +kernel, hhost, hport⟩

/-- A target from the root has a destination just where the address is a host, a
colon and digits. No other delivery fails for its destination. -/
theorem destination_iff_dialable {address : String} {b : Bridge} {r : Http.Request} {raw : Bytes}
    (hh : Homeserver.parse address = .ok b.homeserver) (huri : Http.Uri.parse raw = .ok r.uri)
    (hroot : r.uri.path.head? = some '/') (body : Bytes) :
    ((∃ u, (b.submission r body).destination = .ok u) ↔ b.homeserver.IsDialable) ∧
    ∀ (p : Transport.Params) (contact : Nat → Url → Errand → Transport.Contact) (draw : Nat → Nat),
      (∃ url, (p.send (b.submission r body) contact draw).outcome =
        .error (.invalidDestination url)) ↔ ¬ b.homeserver.IsDialable := by
  have hshaped := Http.Uri.parse_shaped huri
  have hiff : (∃ u, (b.submission r body).destination = .ok u) ↔ b.homeserver.IsDialable := by
    constructor
    · rintro ⟨u, hu⟩
      by_contra hno
      rw [destination_undialable body hh hshaped (Or.inl hno)] at hu
      contradiction
    · intro hdial
      exact ⟨_, destination_dialable body hh hshaped hdial (Http.Uri.rawPath_ne_asterisk hroot)⟩
  exact ⟨hiff, fun p contact draw => by rw [Transport.Params.send_invalid_iff, hiff]⟩

theorem destination_at_localhost :
    ∃ h uri, Homeserver.parse "localhost:8448" = .ok h ∧
      Http.Uri.parse (Bytes.ofString "/_matrix/client/versions") = .ok uri ∧
      ∃ u, (submission ⟨h, 0, 0⟩ { method := .get, uri } []).destination = .ok u := by
  let uri : Http.Uri := { rawPath := "/_matrix/client/versions".toList }
  let b : Bridge := ⟨Homeserver.localhost "localhost:8448" 8448, 0, 0⟩
  have hh : Homeserver.parse "localhost:8448" = .ok b.homeserver :=
    Homeserver.parse_localhost (by decide) rfl rfl rfl
  have huri : Http.Uri.parse (Bytes.ofString "/_matrix/client/versions") = .ok uri := by
    decide +kernel
  obtain ⟨hiff, -⟩ := destination_iff_dialable (r := { method := .get, uri }) hh huri rfl []
  exact ⟨b.homeserver, uri, hh, huri,
    hiff.mpr (Homeserver.isDialable_localhost "8448".toList rfl (by decide))⟩

/-- A sign in front of the port is accepted, and then no request has a destination. -/
theorem signed_port_undialable :
    ∃ h uri, Homeserver.parse "localhost:+80" = .ok h ∧
      Http.Uri.parse (Bytes.ofString "/_matrix/client/versions") = .ok uri ∧
      uri.path.head? = some '/' ∧
      (submission ⟨h, 0, 0⟩ { method := .get, uri } []).destination =
        .error (.invalidDestination "//localhost:+80/_matrix/client/versions") := by
  let uri : Http.Uri := { rawPath := "/_matrix/client/versions".toList }
  let b : Bridge := ⟨Homeserver.localhost "localhost:+80" 80, 0, 0⟩
  have hh : Homeserver.parse "localhost:+80" = .ok b.homeserver :=
    Homeserver.parse_localhost (by decide) rfl rfl rfl
  have huri : Http.Uri.parse (Bytes.ofString "/_matrix/client/versions") = .ok uri := by
    decide +kernel
  have hsigned : ¬ b.homeserver.IsDialable := by
    rintro ⟨digits, haddress, hdigits⟩
    have hcut : "localhost:+80".toList = "localhost".toList ++ ':' :: "+80".toList := rfl
    change "localhost:+80".toList = "localhost".toList ++ ':' :: digits at haddress
    rw [hcut, List.append_cancel_left_eq, List.cons.injEq] at haddress
    exact absurd (hdigits '+' (haddress.2 ▸ by decide)) (by decide)
  have hurl : (b.submission { method := .get, uri } []).url =
      "//localhost:+80/_matrix/client/versions" := by decide +kernel
  have hu := destination_undialable (r := { method := .get, uri }) [] hh
    (Http.Uri.parse_shaped huri) (Or.inl hsigned)
  rw [hurl] at hu
  exact ⟨b.homeserver, uri, hh, huri, rfl, hu⟩

/-- A target from the root goes out with its path unchanged exactly when no segment of
the path is taken away and no character of it is changed. The paths of media endpoints
that go over the transport are never unchanged. -/
theorem destination_path_kept_iff {address : String} {b : Bridge} {r : Http.Request} {raw : Bytes}
    (hh : Homeserver.parse address = .ok b.homeserver) (hdial : b.homeserver.IsDialable)
    (huri : Http.Uri.parse raw = .ok r.uri) (hroot : r.uri.path.head? = some '/') (body : Bytes) :
    ∃ u, (b.submission r body).destination = .ok u ∧
      u.path = .segments (Url.readPath (.network 443) r.uri.path) ∧
      (u.path.text = r.uri.path ↔ Route.hasDotSegment r.uri.path = false ∧
        ∀ c ∈ r.uri.path, c ≠ '\\' ∧ Url.inPathSet c = false) ∧
      ((∃ m ∈ Route.mediaMarks, m <:+: r.uri.path) → Route.classify r.uri.path = .api →
        u.path.text ≠ r.uri.path) := by
  have hdestination := destination_dialable body hh (Http.Uri.parse_shaped huri) hdial
    (Http.Uri.rawPath_ne_asterisk hroot)
  rw [Http.Uri.readPath_place hroot] at hdestination
  obtain ⟨u, hu, hsegments⟩ : ∃ u, (b.submission r body).destination = .ok u ∧
      u.path = .segments (Url.readPath (.network 443) r.uri.path) := ⟨_, hdestination, rfl⟩
  have hkept : u.path.text = r.uri.path ↔ Route.hasDotSegment r.uri.path = false ∧
      ∀ c ∈ r.uri.path, c ≠ '\\' ∧ Url.inPathSet c = false := by
    obtain ⟨rest, hpath⟩ : ∃ rest, r.uri.path = '/' :: rest := List.head?_eq_some_iff.mp hroot
    rw [hsegments, hpath]
    exact Url.readPath_unchanged_iff rfl rest
  refine ⟨u, hu, hsegments, hkept, fun hmark hapi hsame => ?_⟩
  have hdot := (Route.classify_marked hmark).mp hapi
  rw [(hkept.mp hsame).1] at hdot
  exact absurd hdot (by decide)

theorem login_path_kept :
    ∃ h uri u, Homeserver.parse "localhost:8448" = .ok h ∧
      Http.Uri.parse (Bytes.ofString "/_matrix/client/v3/login") = .ok uri ∧
      (submission ⟨h, 0, 0⟩ { method := .get, uri } []).destination = .ok u ∧
      u.path.text = uri.path := by
  let uri : Http.Uri := { rawPath := "/_matrix/client/v3/login".toList }
  let b : Bridge := ⟨Homeserver.localhost "localhost:8448" 8448, 0, 0⟩
  have hh : Homeserver.parse "localhost:8448" = .ok b.homeserver :=
    Homeserver.parse_localhost (by decide) rfl rfl rfl
  have huri : Http.Uri.parse (Bytes.ofString "/_matrix/client/v3/login") = .ok uri := by
    decide +kernel
  obtain ⟨u, hu, -, hkept, -⟩ := destination_path_kept_iff (r := { method := .get, uri }) hh
    (Homeserver.isDialable_localhost "8448".toList rfl (by decide)) huri rfl []
  have hclean : uri.path.all (fun c => c ≠ '\\' && !Url.inPathSet c) = true := by decide +kernel
  have hsame : Route.hasDotSegment uri.path = false ∧
      ∀ c ∈ uri.path, c ≠ '\\' ∧ Url.inPathSet c = false :=
    ⟨by decide +kernel, fun c hc => by simpa using List.all_eq_true.mp hclean c hc⟩
  exact ⟨b.homeserver, uri, u, hh, huri, hu, hkept.mpr hsame⟩

/-- A path that goes over the transport because of its dot segments goes out as another one. -/
theorem dot_segments_resolved :
    ∃ h uri u, Homeserver.parse "localhost:8448" = .ok h ∧
      Http.Uri.parse (Bytes.ofString "/_matrix/client/v1/media/../../v3/login") = .ok uri ∧
      Route.classify uri.path = .api ∧
      (submission ⟨h, 0, 0⟩ { method := .get, uri } []).destination = .ok u ∧
      u.path.text = "/_matrix/client/v3/login".toList ∧ u.path.text ≠ uri.path := by
  let uri : Http.Uri := { rawPath := "/_matrix/client/v1/media/../../v3/login".toList }
  let b : Bridge := ⟨Homeserver.localhost "localhost:8448" 8448, 0, 0⟩
  have hh : Homeserver.parse "localhost:8448" = .ok b.homeserver :=
    Homeserver.parse_localhost (by decide) rfl rfl rfl
  have huri :
      Http.Uri.parse (Bytes.ofString "/_matrix/client/v1/media/../../v3/login") = .ok uri := by
    decide +kernel
  have hu := destination_dialable (r := { method := .get, uri }) [] hh (Http.Uri.parse_shaped huri)
    (Homeserver.isDialable_localhost "8448".toList rfl (by decide)) (by decide)
  exact ⟨b.homeserver, uri, _, hh, huri, by decide +kernel, hu, by decide +kernel,
    by decide +kernel⟩

end Bridge

end MatrixGateway
