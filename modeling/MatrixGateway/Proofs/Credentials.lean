import MatrixGateway.Proofs.Bridging
import MatrixGateway.Proofs.Encodings
import MatrixGateway.Proofs.Relaying

/-!
# Authorization over the bridge

A request's authorization is cut to a token, and the token goes out behind the
word for bearers. So the value that arrives is the client's exactly when it
began with that word and had something behind it; any other scheme gets the
word in front of it.
-/

set_option autoImplicit false

namespace MatrixGateway

/-! ## Values and tokens -/

namespace Http

def bearerBytes : Bytes := Bytes.ofText Headers.bearerMark

def unmarked (v : Bytes) : Bytes :=
  if bearerBytes.isPrefixOf v then v.drop bearerBytes.length else v

/-- The value that stands for `v` behind the bridge; none for an empty token. -/
def rewritten (v : Bytes) : Option Bytes :=
  if unmarked v = [] then none else some (bearerBytes ++ unmarked v)

theorem unmarked_append (t : Bytes) : unmarked (bearerBytes ++ t) = t := by
  have hmark : bearerBytes.isPrefixOf (bearerBytes ++ t) = true :=
    List.isPrefixOf_iff_prefix.mpr (List.prefix_append _ _)
  rw [unmarked, if_pos hmark, List.drop_left]

theorem unmarked_other {v : Bytes} (h : ¬ bearerBytes <+: v) : unmarked v = v :=
  if_neg (List.isPrefixOf_iff_prefix.not.mpr h)

theorem mem_unmarked {v : Bytes} {b : UInt8} (hb : b ∈ unmarked v) : b ∈ v := by
  unfold unmarked at hb
  split at hb
  · exact List.mem_of_mem_drop hb
  · exact hb

theorem rewritten_eq_iff (v : Bytes) :
    rewritten v = some v ↔ ∃ t, t ≠ [] ∧ v = bearerBytes ++ t := by
  unfold rewritten
  constructor
  · intro h
    split at h
    · contradiction
    · rename_i hne
      exact ⟨unmarked v, hne, (Option.some.inj h).symm⟩
  · rintro ⟨t, hne, rfl⟩
    rw [unmarked_append, if_neg hne]

theorem rewritten_other {v : Bytes} (h : ¬ bearerBytes <+: v) (hne : v ≠ []) :
    rewritten v = some (bearerBytes ++ v) := by
  rw [rewritten, unmarked_other h, if_neg hne]

theorem filterMap_rewritten_eq_iff (l : List Bytes) :
    l.filterMap rewritten = l ↔ ∀ v ∈ l, ∃ t, t ≠ [] ∧ v = bearerBytes ++ t := by
  simp only [← rewritten_eq_iff]
  induction l with
  | nil => simp
  | cons v l ih =>
    rw [List.filterMap_cons, List.forall_mem_cons, ← ih]
    cases hw : rewritten v with
    | none =>
      -- a value that is dropped leaves the list too short
      have hlength := List.length_filterMap_le rewritten l
      constructor
      · intro h
        simp only [h, List.length_cons] at hlength
        omega
      · rintro ⟨h, -⟩
        contradiction
    | some w => simp

theorem isReadableByte_ascii {b : UInt8} (h : isReadableByte b = true) :
    b.toNat < 128 ∧ isFieldByte b = true := by
  unfold isReadableByte at h
  rcases Bool.or_eq_true_iff.mp h with h | h
  · obtain rfl := of_decide_eq_true h
    decide
  · obtain ⟨hlow, hhigh⟩ := Bool.and_eq_true_iff.mp h
    have hlt : b.toNat < 127 := UInt8.lt_iff_toNat_lt.mp (of_decide_eq_true hhigh)
    have hne : b ≠ 127 := by
      rintro rfl
      exact absurd hlt (by decide)
    exact ⟨by omega, by simp [isFieldByte, of_decide_eq_true hlow, hne]⟩

namespace Headers

variable {h : Headers}

theorem get?_eq_head? (n : HeaderName) : h.get? n = (h.getAll n).head? := by
  rw [get?, getAll, List.head?_map, List.head?_filter]

theorem token_none (hv : h.getAll .authorization = []) : h.token = "" := by
  rw [token, get?_eq_head?, hv]
  decide

theorem ofString_token {v : Bytes} (hv : h.getAll .authorization = [v])
    (hr : v.all isReadableByte = true) : Bytes.ofString h.token = unmarked v := by
  have hascii : ∀ b ∈ v, b.toNat < 128 := fun b hb =>
    (isReadableByte_ascii (List.all_eq_true.mp hr b hb)).1
  have hmark : bearerMark.isPrefixOf v.latin = bearerBytes.isPrefixOf v := by
    rw [Bool.eq_iff_iff, List.isPrefixOf_iff_prefix, List.isPrefixOf_iff_prefix]
    constructor
    · rintro ⟨t, ht⟩
      refine ⟨Bytes.ofText t, ?_⟩
      rw [bearerBytes, ← Bytes.ofText_append, ht, Bytes.ofText_latin hascii]
    · rintro ⟨t, rfl⟩
      exact ⟨Bytes.latin t, by simp only [Bytes.latin, List.map_append]; rfl⟩
  have htoken : h.token.toList =
      if bearerBytes.isPrefixOf v then v.latin.drop bearerBytes.length else v.latin := by
    rw [token, get?_eq_head?, hv]
    simp only [List.head?_cons, Option.bind_some, readable?, if_pos hr, Option.getD_some,
      String.toList_ofList, hmark]
    rfl
  rw [Bytes.ofString, htoken, unmarked]
  split
  · have hdrop : Bytes.latin (v.drop bearerBytes.length) = v.latin.drop bearerBytes.length :=
      List.map_drop
    rw [← hdrop, Bytes.ofText_latin fun b hb => hascii b (List.mem_of_mem_drop hb)]
  · exact Bytes.ofText_latin hascii

theorem token_rewritten (hone : (h.getAll .authorization).length ≤ 1)
    (hr : ∀ v ∈ h.getAll .authorization, v.all isReadableByte = true) :
    (Bytes.ofString h.token).all isFieldByte = true ∧
      (if Bytes.ofString h.token = [] then [] else [bearerBytes ++ Bytes.ofString h.token]) =
        (h.getAll .authorization).filterMap rewritten := by
  cases hv : h.getAll .authorization with
  | nil =>
    rw [token_none hv]
    exact ⟨rfl, rfl⟩
  | cons v rest =>
    rw [hv] at hone hr
    obtain rfl : rest = [] := List.length_eq_zero_iff.mp (by simpa using hone)
    have hvalue := hr v List.mem_cons_self
    rw [ofString_token hv hvalue]
    constructor
    · exact List.all_eq_true.mpr fun b hb =>
        (isReadableByte_ascii (List.all_eq_true.mp hvalue b (mem_unmarked hb))).2
    · rw [List.filterMap_cons, rewritten]
      split <;> rfl

end Headers

end Http

/-! ## What an attempt sends -/

namespace Transport.Submission

theorem authorization_sent {s : Submission} {u : Url} (hu : credentials u = none)
    (htoken : (Bytes.ofString s.token).all Http.isFieldByte = true) :
    ∃ fields, s.headers? u = some fields ∧ fields.getAll .authorization =
      if Bytes.ofString s.token = [] then [] else [Http.bearerBytes ++ Bytes.ofString s.token] := by
  have hbearer : s.bearer = Http.bearerBytes ++ Bytes.ofString s.token := by
    rw [bearer, Bytes.ofString, String.toList_append, Bytes.ofText_append]
    rfl
  have hmark : Http.bearerBytes.all Http.isFieldByte = true := by decide
  have hfields : s.bearer.all Http.isFieldByte = true := by
    rw [hbearer, List.all_append, hmark, htoken]
    rfl
  have hcontent : Http.HeaderName.contentType ≠ .authorization ∧
      Http.HeaderName.contentLength ≠ .authorization := by decide
  refine ⟨_, if_pos hfields, ?_⟩
  simp only [hu, ← hbearer, Bytes.ofString_eq_nil]
  unfold Http.Headers.getAll
  by_cases ht : s.token = "" <;> by_cases hb : s.body = [] <;>
    simp [ht, hb, hcontent]

theorem errand_authorization {s : Submission} {u : Url} {fields : Http.Headers} {e : Errand}
    (hf : s.headers? u = some fields) (he : s.errand u = .ok e) :
    e.headers.getAll .authorization = fields.getAll .authorization := by
  have hhost : Http.HeaderName.host ≠ .authorization := by decide
  have haccept : Http.HeaderName.accept ≠ .authorization := by decide
  unfold errand at he
  rw [hf] at he
  simp only at he
  split at he
  · obtain rfl := Except.ok.inj he
    rw [Errand.toUrl, Errand.getAll_addMissing haccept, Errand.getAll_addMissing hhost]
  · contradiction

end Transport.Submission

namespace Bridge

variable {address : String} {b : Bridge} {r : Http.Request}

theorem handle_submitted {peers : Peers} {time : Nat} {s : Transport.Submission}
    (h : (b.handle peers r).submitted = some (time, s)) : ∃ body, s = b.submission r body := by
  unfold handle at h
  split at h
  · contradiction
  · rename_i body _
    exact ⟨body, (Prod.mk.inj (Option.some.inj h)).2.symm⟩

theorem credentials_destination {body : Bytes} {u : Url}
    (hh : Homeserver.parse address = .ok b.homeserver) (hshaped : r.uri.Shaped)
    (hu : (b.submission r body).destination = .ok u) :
    Transport.Submission.credentials u = none := by
  by_cases hno : ¬ b.homeserver.IsDialable ∨ r.uri.rawPath = ['*']
  · rw [destination_undialable body hh hshaped hno] at hu
    contradiction
  · obtain ⟨hdial, hstar⟩ := not_or.mp hno
    rw [destination_dialable body hh hshaped (not_not.mp hdial) hstar] at hu
    obtain rfl := Except.ok.inj hu
    rfl

/-- Of at most one readable authorization, the token goes out behind the word for bearers,
in every attempt, and nothing goes out for an empty token. What arrives is what the client
sent exactly when each value was the word and something behind it; any other value that is
not empty gets the word in front. -/
theorem authorization_kept_iff {raw : Bytes} {peers : Peers} {time : Nat}
    {s : Transport.Submission} {u : Url} (hh : Homeserver.parse address = .ok b.homeserver)
    (huri : Http.Uri.parse raw = .ok r.uri) (hone : (r.headers.getAll .authorization).length ≤ 1)
    (hreadable : ∀ v ∈ r.headers.getAll .authorization, v.all Http.isReadableByte = true)
    (hs : (b.handle peers r).submitted = some (time, s)) (hu : s.destination = .ok u) :
    ∃ fields, s.headers? u = some fields ∧
      fields.getAll .authorization =
        (r.headers.getAll .authorization).filterMap Http.rewritten ∧
      (fields.getAll .authorization = r.headers.getAll .authorization ↔
        ∀ v ∈ r.headers.getAll .authorization, ∃ t, t ≠ [] ∧ v = Http.bearerBytes ++ t) ∧
      (∀ v, r.headers.getAll .authorization = [v] → v ≠ [] → ¬ Http.bearerBytes <+: v →
        fields.getAll .authorization = [Http.bearerBytes ++ v]) ∧
      ∀ e, s.errand u = .ok e →
        e.headers.getAll .authorization = fields.getAll .authorization := by
  obtain ⟨body, rfl⟩ := handle_submitted hs
  have hno := credentials_destination hh (Http.Uri.parse_shaped huri) hu
  obtain ⟨hfield, hrewritten⟩ := Http.Headers.token_rewritten hone hreadable
  obtain ⟨fields, hf, ha⟩ :=
    Transport.Submission.authorization_sent (s := b.submission r body) hno hfield
  replace ha := ha.trans hrewritten
  refine ⟨fields, hf, ha, ?_, fun v hv hne hother => ?_,
    fun e he => Transport.Submission.errand_authorization hf he⟩
  · rw [ha, Http.filterMap_rewritten_eq_iff]
  · rw [ha, hv, List.filterMap_cons, Http.rewritten_other hother hne]
    rfl

theorem bearer_kept_at_localhost :
    ∃ h uri s u fields, Homeserver.parse "localhost:8448" = .ok h ∧
      Http.Uri.parse (Bytes.ofString "/_matrix/client/versions") = .ok uri ∧
      (handle ⟨h, 0, 0⟩ ⟨fun _ => (0, .ok ⟨200, []⟩), none⟩
        { method := .get, uri,
          headers := ⟨[(.authorization, Bytes.ofString "Bearer XYZ")]⟩ }).submitted =
            some (0, s) ∧
      s.destination = .ok u ∧ s.headers? u = some fields ∧
      fields.getAll .authorization = [Bytes.ofString "Bearer XYZ"] := by
  let uri : Http.Uri := { rawPath := "/_matrix/client/versions".toList }
  let b : Bridge := ⟨Homeserver.localhost "localhost:8448" 8448, 0, 0⟩
  let peers : Peers := ⟨fun _ => (0, .ok ⟨200, []⟩), none⟩
  let r : Http.Request :=
    { method := .get, uri, headers := ⟨[(.authorization, Bytes.ofString "Bearer XYZ")]⟩ }
  have hh : Homeserver.parse "localhost:8448" = .ok b.homeserver :=
    Homeserver.parse_localhost (by decide) rfl rfl rfl
  have huri : Http.Uri.parse (Bytes.ofString "/_matrix/client/versions") = .ok uri := by
    decide +kernel
  have hs : (b.handle peers r).submitted = some (0, b.submission r []) := rfl
  have hu := destination_dialable (r := r) [] hh (Http.Uri.parse_shaped huri)
    (Homeserver.isDialable_localhost "8448".toList rfl (by decide)) (by decide)
  obtain ⟨fields, hf, -, hkept, -⟩ :=
    authorization_kept_iff (r := r) hh huri (by decide) (by decide) hs hu
  refine ⟨b.homeserver, uri, _, _, fields, hh, huri, hs, hu, hf, hkept.mpr ?_⟩
  intro v hv
  obtain rfl : v = Bytes.ofString "Bearer XYZ" := List.mem_singleton.mp hv
  exact ⟨Bytes.ofString "XYZ", by decide, by decide⟩

/-- Credentials of another scheme arrive with the word for bearers in front. -/
theorem other_scheme_marked :
    ∃ h uri s u e, Homeserver.parse "localhost:8448" = .ok h ∧
      Http.Uri.parse (Bytes.ofString "/_matrix/client/versions") = .ok uri ∧
      Route.classify uri.path = .api ∧
      (handle ⟨h, 0, 0⟩ ⟨fun _ => (0, .ok ⟨200, []⟩), none⟩
        { method := .get, uri,
          headers := ⟨[(.authorization, Bytes.ofString "Basic dXNlcjpwYXNz")]⟩ }).submitted =
            some (0, s) ∧
      s.destination = .ok u ∧ s.errand u = .ok e ∧
      e.headers.getAll .authorization = [Bytes.ofString "Bearer Basic dXNlcjpwYXNz"] ∧
      Bytes.ofString "Bearer Basic dXNlcjpwYXNz" ≠ Bytes.ofString "Basic dXNlcjpwYXNz" := by
  let uri : Http.Uri := { rawPath := "/_matrix/client/versions".toList }
  let b : Bridge := ⟨Homeserver.localhost "localhost:8448" 8448, 0, 0⟩
  let peers : Peers := ⟨fun _ => (0, .ok ⟨200, []⟩), none⟩
  let r : Http.Request :=
    { method := .get, uri, headers := ⟨[(.authorization, Bytes.ofString "Basic dXNlcjpwYXNz")]⟩ }
  let u : Url :=
    { scheme := "https".toList,
      server := some { host := some (.name "localhost".toList), port := some 8448 },
      path := .segments ["_matrix".toList, "client".toList, "versions".toList] }
  let e : Errand :=
    { method := .get, target := "/_matrix/client/versions".toList,
      headers := ⟨[(.authorization, Bytes.ofString "Bearer Basic dXNlcjpwYXNz"),
        (.host, Bytes.ofString "localhost:8448"), (.accept, Bytes.ofString "*/*")]⟩,
      body := [] }
  have hh : Homeserver.parse "localhost:8448" = .ok b.homeserver :=
    Homeserver.parse_localhost (by decide) rfl rfl rfl
  have huri : Http.Uri.parse (Bytes.ofString "/_matrix/client/versions") = .ok uri := by
    decide +kernel
  have hs : (b.handle peers r).submitted = some (0, b.submission r []) := rfl
  have hu : (b.submission r []).destination = .ok u :=
    (destination_dialable (r := r) [] hh (Http.Uri.parse_shaped huri)
      (Homeserver.isDialable_localhost "8448".toList rfl (by decide)) (by decide)).trans
        (by decide +kernel)
  have he : (b.submission r []).errand u = .ok e := by decide +kernel
  exact ⟨b.homeserver, uri, _, u, e, hh, huri, by decide +kernel, hs, hu, he, by decide +kernel,
    by decide⟩

end Bridge

end MatrixGateway
