import MatrixGateway.Proofs.EndToEnd
import MatrixGateway.Proofs.Serving

/-!
# The addresses a request was forwarded for

The media origin gets one line of addresses, which ends with the peer's. In
front of it stands the first line that the client sent, and none of those
behind that, so the list is whole only when those are empty.
-/

set_option autoImplicit false

namespace MatrixGateway

namespace MediaOrigin

def comma : Bytes := Bytes.ofString ", "

def allHops (prior : List Bytes) (client : Ip) : Bytes :=
  comma.intercalate (prior.filter (· ≠ []) ++ [Bytes.ofString client.text])

theorem intercalate_concat (sep : Bytes) (front : List Bytes) (last : Bytes) :
    sep.intercalate (front ++ [last]) = front.flatMap (· ++ sep) ++ last := by
  induction front with
  | nil => exact List.intercalate_singleton
  | cons v front ih =>
    obtain ⟨w, rest, hw⟩ : ∃ w rest, front ++ [last] = w :: rest :=
      List.exists_cons_of_ne_nil (List.append_ne_nil_of_right_ne_nil _ (List.cons_ne_nil _ _))
    rw [List.cons_append, hw, List.intercalate_cons_cons, ← hw, ih, List.flatMap_cons]
    simp only [List.append_assoc]

theorem forwarded_eq_first {prior : List Bytes} (client : Ip)
    (hread : ∀ v ∈ prior, v.all Http.isReadableByte = true) :
    forwarded prior client = allHops (prior.take 1) client := by
  unfold forwarded allHops
  rw [intercalate_concat]
  cases prior with
  | nil => rfl
  | cons v rest =>
    have hv := hread v List.mem_cons_self
    by_cases hne : v = []
    · simp [hne]
    · simp [hv, hne, comma]

theorem allHops_eq_iff (v : Bytes) (rest : List Bytes) (client : Ip) :
    allHops [v] client = allHops (v :: rest) client ↔ ∀ w ∈ rest, w = [] := by
  have hcomma : comma ≠ [] := by decide
  have hsplit : (v :: rest).filter (· ≠ []) = [v].filter (· ≠ []) ++ rest.filter (· ≠ []) := by
    rw [← List.filter_append]
    rfl
  unfold allHops
  rw [intercalate_concat, intercalate_concat, hsplit, List.flatMap_append, List.append_assoc,
    List.append_cancel_left_eq]
  constructor
  · intro h w hw
    have hnil : (rest.filter (· ≠ [])).flatMap (· ++ comma) = [] := by
      simpa using h
    by_contra hne
    have hmem : w ∈ rest.filter (· ≠ []) := List.mem_filter.mpr ⟨hw, by simpa using hne⟩
    have hshort := List.flatMap_eq_nil_iff.mp hnil w hmem
    exact hcomma (List.append_eq_nil_iff.mp hshort).2
  · intro h
    have hnone : rest.filter (· ≠ []) = [] := by
      rw [List.filter_eq_nil_iff]
      intro w hw
      simp [h w hw]
    rw [hnone]
    rfl

end MediaOrigin

namespace Router

variable {router : Router} {peers : Peers} {fresh : Bytes} {r : Http.Request} {m : Metrics}
  {originDelay : Nat} {e : Errand} {client : Ip}

/-- The origin gets one line: the first line of before, if it is not empty, and the peer's
address. That is every address just when all lines behind the first are empty. -/
theorem forwarded_whole_iff
    (hsent : (router.serve peers fresh r m originDelay).1.sent = some e)
    (hclient : r.client = some client)
    (hread : ∀ v ∈ r.headers.endToEnd .forwardedFor, v.all Http.isReadableByte = true) :
    let prior := r.headers.endToEnd .forwardedFor
    e.headers.getAll .forwardedFor = [MediaOrigin.allHops (prior.take 1) client] ∧
      (e.headers.getAll .forwardedFor = [MediaOrigin.allHops prior client] ↔
        ∀ v ∈ prior.tail, v = []) := by
  intro prior
  have hline : e.headers.getAll .forwardedFor = [MediaOrigin.allHops (prior.take 1) client] := by
    obtain ⟨-, hmedia⟩ := sent_of_serve hsent
    obtain ⟨u, body, -, rfl⟩ := MediaOrigin.handle_sent hmedia
    rw [MediaOrigin.toUrl_getAll, MediaOrigin.relayedField, if_neg (by decide), if_pos rfl,
      named_client, hclient, endToEnd_named _ _ (by decide)]
    exact congrArg (fun line => [line]) (MediaOrigin.forwarded_eq_first client hread)
  refine ⟨hline, ?_⟩
  rw [hline, List.cons.injEq, and_iff_left rfl]
  cases prior with
  | nil => simp
  | cons v rest => exact MediaOrigin.allHops_eq_iff v rest client

theorem forwarded_whole_one_line :
    let r : Http.Request :=
      { method := .get, uri := { rawPath := "/_matrix/client/v1/media/a".toList }
        headers := ⟨[(.forwardedFor, Bytes.ofString "10.0.0.1"), (.forwardedFor, [])]⟩
        client := some (.v4 (Ipv4.ofOctets 192 0 2 7)) }
    ∃ e, (atLoopback.serve ⟨fun _ => (0, .ok ⟨200, []⟩), some fun _ => {}⟩ [65] r {}).1.sent =
        some e ∧
      (∀ v ∈ r.headers.endToEnd .forwardedFor, v.all Http.isReadableByte = true) ∧
      e.headers.getAll .forwardedFor = [Bytes.ofString "10.0.0.1, 192.0.2.7"] := by
  intro r
  have hread : ∀ v ∈ r.headers.endToEnd .forwardedFor, v.all Http.isReadableByte = true := by
    decide +kernel
  obtain ⟨e, hsent⟩ : ∃ e,
      (atLoopback.serve ⟨fun _ => (0, .ok ⟨200, []⟩), some fun _ => {}⟩ [65] r {}).1.sent =
        some e :=
    Option.isSome_iff_exists.mp (by decide +kernel)
  obtain ⟨hline, -⟩ := forwarded_whole_iff hsent rfl hread
  exact ⟨e, hsent, hread, hline.trans (by decide +kernel)⟩

/-- A second line of addresses is lost on the way to the origin. -/
theorem second_line_lost :
    let client : Ip := .v4 (Ipv4.ofOctets 192 0 2 7)
    let prior := [Bytes.ofString "10.0.0.1", Bytes.ofString "10.0.0.2"]
    let r : Http.Request :=
      { method := .get, uri := { rawPath := "/_matrix/client/v1/media/a".toList }
        headers := ⟨prior.map (.forwardedFor, ·)⟩, client := some client }
    ∃ e, (atLoopback.serve ⟨fun _ => (0, .ok ⟨200, []⟩), some fun _ => {}⟩ [65] r {}).1.sent =
        some e ∧
      r.headers.endToEnd .forwardedFor = prior ∧
      e.headers.getAll .forwardedFor = [Bytes.ofString "10.0.0.1, 192.0.2.7"] ∧
      MediaOrigin.allHops prior client = Bytes.ofString "10.0.0.1, 10.0.0.2, 192.0.2.7" ∧
      e.headers.getAll .forwardedFor ≠ [MediaOrigin.allHops prior client] := by
  intro client prior r
  obtain ⟨e, hsent, hline⟩ : ∃ e,
      (atLoopback.serve ⟨fun _ => (0, .ok ⟨200, []⟩), some fun _ => {}⟩ [65] r {}).1.sent = some e ∧
        e.headers.getAll .forwardedFor = [Bytes.ofString "10.0.0.1, 192.0.2.7"] := by
    have h : ((atLoopback.serve ⟨fun _ => (0, .ok ⟨200, []⟩), some fun _ => {}⟩ [65] r
        {}).1.sent.map fun e => e.headers.getAll .forwardedFor) =
        some [Bytes.ofString "10.0.0.1, 192.0.2.7"] := by
      decide +kernel
    exact Option.map_eq_some_iff.mp h
  refine ⟨e, hsent, by decide +kernel, hline, by decide +kernel, ?_⟩
  rw [hline]
  decide +kernel

end Router

end MatrixGateway
