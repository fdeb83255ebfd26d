import MatrixGateway.Proofs.Origins
import MatrixGateway.Relay

/-!
# Where media requests go

A request for media goes to the origin's own server and to the path that was
asked for, whatever else the origin's URL and the request's target name. The
query decodes to what was asked, and the only host field names the server.
-/

set_option autoImplicit false

namespace MatrixGateway

/-! ## The host field -/

namespace Http.Headers

theorem getAll_append (h : Headers) (n m : HeaderName) (value : Bytes) :
    (h.append n value).getAll m = h.getAll m ++ if n = m then [value] else [] := by
  unfold append getAll
  rw [List.filter_append, List.map_append]
  by_cases hnm : n = m <;> simp [hnm]

theorem getAll_remove (h : Headers) (n m : HeaderName) :
    (h.remove n).getAll m = if n = m then [] else h.getAll m := by
  unfold remove getAll
  rw [List.filter_filter]
  split
  · rename_i hnm
    subst hnm
    simp
  · rename_i hnm
    congr 1
    apply List.filter_congr
    intro f _
    by_cases hf : f.1 = m
    · simp [hf, Ne.symm hnm]
    · simp [hf]

theorem getAll_insert (h : Headers) (n m : HeaderName) (value : Bytes) :
    (h.insert n value).getAll m = if n = m then [value] else h.getAll m := by
  rw [insert, getAll_append, getAll_remove]
  split <;> simp

theorem contains_of_getAll {h : Headers} {n : HeaderName} (hn : h.getAll n ≠ []) :
    h.contains n = true := by
  obtain ⟨v, hv⟩ := List.exists_mem_of_ne_nil _ hn
  obtain ⟨f, hf, -⟩ := List.mem_map.mp hv
  obtain ⟨hmem, hname⟩ := List.mem_filter.mp hf
  exact List.any_eq_true.mpr ⟨f, hmem, hname⟩

end Http.Headers

theorem Errand.getAll_addMissing {h : Http.Headers} {n m : Http.HeaderName} (hnm : n ≠ m)
    (value : Bytes) : (addMissing h n value).getAll m = h.getAll m := by
  unfold addMissing
  split
  · rfl
  · rw [Http.Headers.getAll_append, if_neg hnm, List.append_nil]

namespace MediaOrigin

theorem errandHeaders_host (o : MediaOrigin) (r : Http.Request) :
    (o.errandHeaders r).getAll .host = [Bytes.ofText o.authority] := by
  have hforwarded : Http.HeaderName.forwardedFor ≠ .host := by decide
  have hinsert : (r.headers.stripHopByHop.insert .host (Bytes.ofText o.authority)).getAll .host =
      [Bytes.ofText o.authority] := by
    rw [Http.Headers.getAll_insert, if_pos rfl]
  unfold errandHeaders
  simp only
  split
  · rw [appendForwarded, Http.Headers.getAll_insert, if_neg hforwarded, hinsert]
  · exact hinsert

theorem toUrl_host (o : MediaOrigin) (r : Http.Request) (m : Http.Method) (u : Url) (body : Bytes) :
    (Errand.toUrl m u (o.errandHeaders r) body).headers.getAll .host =
      [Bytes.ofText o.authority] := by
  have haccept : Http.HeaderName.accept ≠ .host := by decide
  have hhost : (o.errandHeaders r).contains .host = true :=
    Http.Headers.contains_of_getAll (by rw [errandHeaders_host]; simp)
  rw [Errand.toUrl, Errand.getAll_addMissing haccept, Errand.addMissing, if_pos hhost,
    errandHeaders_host]

def reported (reply : Option Http.Wire.Reply) : Http.Answer :=
  match reply with
  | some reply => passOn reply
  | none => { status := 502 }

/-- All that can come of a request: it has no target, or nothing can be sent, or an errand is
sent to its target and the reply decides the answer. -/
theorem handle_cases (o : MediaOrigin) (peers : Peers) (r : Http.Request) :
    (o.target? r.uri = none ∧ o.handle peers r = { time := 0, answer := { status := 400 } }) ∨
    (∃ v time, o.target? r.uri = some v ∧ o.handle peers r = badGateway time) ∨
    ∃ v origin time body, o.target? r.uri = some v ∧ peers.origin = some origin ∧
      o.handle peers r =
        { time
          answer := reported (Http.Wire.readReply? r.method
            (origin (Errand.toUrl r.method v (o.errandHeaders r) body)))
          sent := some (Errand.toUrl r.method v (o.errandHeaders r) body) } := by
  unfold handle
  cases hv : o.target? r.uri with
  | none => exact Or.inl ⟨rfl, rfl⟩
  | some v =>
    refine Or.inr ?_
    cases ho : peers.origin with
    | none => exact Or.inl ⟨v, 0, rfl, rfl⟩
    | some origin =>
      dsimp only
      cases Errand.canGo v with
      | false => exact Or.inl ⟨v, 0, rfl, rfl⟩
      | true =>
        rw [if_pos rfl]
        unfold forward
        dsimp only
        split
        · exact Or.inl ⟨v, _, rfl, rfl⟩
        · rename_i time body _
          refine Or.inr ⟨v, origin, time, body, rfl, rfl, ?_⟩
          split
          · rename_i hreply
            rw [hreply]
            rfl
          · rename_i reply hreply
            rw [hreply]
            rfl

theorem handle_sent {o : MediaOrigin} {peers : Peers} {r : Http.Request} {e : Errand}
    (h : (o.handle peers r).sent = some e) :
    ∃ v body, o.target? r.uri = some v ∧ e = Errand.toUrl r.method v (o.errandHeaders r) body := by
  rcases handle_cases o peers r with ⟨-, hr⟩ | ⟨v, time, -, hr⟩ | ⟨v, origin, time, body, hv, -, hr⟩
  · rw [hr] at h
    contradiction
  · rw [hr] at h
    contradiction
  · rw [hr] at h
    exact ⟨v, body, hv, (Option.some.inj h).symm⟩

end MediaOrigin

/-! ## The query -/

theorem Url.hexValue?_ascii {c : Char} (h : (hexValue? c).isSome = true) : c.toNat < 128 := by
  have key : ∀ d : Char, d.toNat < 128 → c ≤ d → c.toNat < 128 := fun d hd hcd =>
    Nat.lt_of_le_of_lt (UInt32.le_iff_toNat_le.mp hcd) hd
  unfold hexValue? at h
  split at h
  · rename_i hdigit
    exact key '9' (by decide) (of_decide_eq_true (Bool.and_eq_true_iff.mp hdigit).2)
  · split at h
    · rename_i hlower
      exact key 'f' (by decide) hlower.2
    · split at h
      · rename_i hupper
        exact key 'F' (by decide) hupper.2
      · contradiction

theorem Url.inSpecialQuerySet_spec : inSpecialQuerySet '%' = false ∧
    (∀ c, (hexValue? c).isSome = true → inSpecialQuerySet c = false) ∧
    ∀ c : Char, 128 ≤ c.toNat → inSpecialQuerySet c = true := by
  refine ⟨by decide +kernel, fun c hc => ?_, fun c hc => ?_⟩
  · refine Text.of_ascii (P := fun c => (hexValue? c).isSome = true → inSpecialQuerySet c = false)
      (by decide +kernel) (hexValue?_ascii hc) hc
  · have hcontrol : isControl c = true := by
      simp [isControl]
      omega
    simp [inSpecialQuerySet, inQuerySet, hcontrol]

/-! ## The target -/

namespace MediaOrigin

/-- A target that is found is the request's path and query at the origin's own
server, and whatever is sent for the request goes there under the server's name. -/
theorem relayed_to_origin {s : List Char} {u : Url} {o : MediaOrigin} {raw : Bytes} {uri : Http.Uri}
    {v : Url} (hs : Url.parse s = .ok u) (hh : u.isHttp = true) (ho : ofUrl u = .ok o)
    (huri : Http.Uri.parse raw = .ok uri) (hv : o.target? uri = some v) :
    v.scheme = u.scheme ∧ v.host? = u.host? ∧ v.port? = u.port? ∧
      v.server.map Url.Server.userInfo = some [] ∧ v.fragment = none ∧ v.path.text = uri.path ∧
      v.query.map (fun q => Url.decode (Bytes.ofText q)) =
        uri.query.map (fun q => Url.decode (Bytes.ofText q)) ∧
      (∃ h, v.host? = some h ∧
        Errand.authority v = h.text ++ (v.port?.map fun p => ':' :: Url.portText p).getD [] ∧
        ∀ p, v.port? = some p → Url.kind v.scheme ≠ .network p) ∧
      ∀ (peers : Peers) (r : Http.Request) (e : Errand), r.uri = uri →
        (o.handle peers r).sent = some e →
        e.target = Errand.targetOf r.method v ∧
          e.headers.getAll .host = [Bytes.ofText (Errand.authority v)] := by
  obtain ⟨hscheme, p, h, hhost, hn⟩ := names_of_ofUrl hs hh ho
  have hu := Http.Uri.parse_shaped huri
  have hstar : uri.rawPath ≠ ['*'] := by
    intro hstar
    have hquery : uri.query = none := by
      rcases hu.start with hnil | hslash | ⟨-, hq⟩
      · rw [hnil] at hstar
        contradiction
      · rw [hstar] at hslash
        exact absurd hslash (by decide)
      · exact hq
    rw [hn.target?_asterisk hstar hquery] at hv
    contradiction
  have hfound := hv
  rw [hn.target?_eq hu hstar] at hv
  split at hv
  · rename_i hok
    obtain rfl := Option.some.inj hv
    have hauthority : Errand.authority
        { scheme := o.scheme, server := some { host := some h, port := u.port? } } =
        o.authority := by
      rw [hn.authority]
      rfl
    refine ⟨hscheme, hhost.symm, rfl, rfl, rfl, hok.2, ?_, ⟨h, rfl, rfl, ?_⟩, ?_⟩
    · obtain ⟨hpercent, hhex, hhigh⟩ := Url.inSpecialQuerySet_spec
      simp only [Option.map_map]
      congr 1
      funext q
      exact Url.decode_encode hpercent hhex hhigh q
    · intro q hq hk
      rw [hn.kind] at hk
      exact hn.explicit (hq.trans (congrArg some (Url.Kind.network.inj hk).symm))
    · intro peers r e hr hsent
      obtain ⟨w, body, hw, rfl⟩ := handle_sent hsent
      rw [hr, hfound] at hw
      obtain rfl := Option.some.inj hw
      refine ⟨rfl, ?_⟩
      rw [toUrl_host, ← hauthority]
      rfl
  · contradiction

theorem relayed_to_loopback :
    ∃ u o uri v, Url.parse "http://u:w@[::1]:81/x?y".toList = .ok u ∧ u.isHttp = true ∧
      ofUrl u = .ok o ∧
      Http.Uri.parse (Bytes.ofString "http://other/_matrix/client/v1/media/a?q='1'") = .ok uri ∧
      o.target? uri = some v ∧ v.host? = u.host? ∧ v.path.text = uri.path := by
  let host : Url.Host := .v6 ⟨#v[0, 0, 0, 0, 0, 0, 0, 1]⟩
  let u : Url :=
    { scheme := "http".toList
      server := some { user := "u".toList, password := "w".toList, host, port := some 81 }
      path := .segments ["x".toList]
      query := some "y".toList }
  let o : MediaOrigin := ⟨"http".toList, "[::1]:81".toList⟩
  let uri : Http.Uri :=
    { scheme := some "http"
      authority := "other".toList
      rawPath := "/_matrix/client/v1/media/a".toList
      query := some "q='1'".toList }
  let v : Url :=
    { scheme := "http".toList
      server := some { host, port := some 81 }
      path := .segments (["_matrix", "client", "v1", "media", "a"].map String.toList)
      query := some "q=%271%27".toList }
  have hs : Url.parse "http://u:w@[::1]:81/x?y".toList = .ok u := by decide +kernel
  have hh : u.isHttp = true := by decide +kernel
  have ho : ofUrl u = .ok o := by decide +kernel
  have huri : Http.Uri.parse
      (Bytes.ofString "http://other/_matrix/client/v1/media/a?q='1'") = .ok uri := by
    decide +kernel
  have hv : o.target? uri = some v := by decide +kernel
  obtain ⟨-, hhost, -, -, -, hpath, -⟩ := relayed_to_origin hs hh ho huri hv
  exact ⟨u, o, uri, v, hs, hh, ho, huri, hv, hhost, hpath⟩

end MediaOrigin

end MatrixGateway
