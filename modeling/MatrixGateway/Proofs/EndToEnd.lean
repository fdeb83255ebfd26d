import MatrixGateway.Proofs.Credentials
import MatrixGateway.Router

/-!
# Fields that go further than one hop

Every field of a message belongs to the next hop or goes on. What goes on
keeps its values in their order. Towards the media origin the host is the
origin's, the client's address is added to those before it, and something
is accepted; no other field changes.
-/

set_option autoImplicit false

namespace MatrixGateway

/-! ## Hops -/

namespace Http.Headers

/-- Whether a field is for the next hop only: always, or because a connection field names it. -/
def IsHop (h : Headers) (n : HeaderName) : Prop := n ∈ h.namedByConnection ∨ n ∈ hopByHop

instance (h : Headers) (n : HeaderName) : Decidable (h.IsHop n) :=
  inferInstanceAs (Decidable (_ ∨ _))

def endToEnd (h : Headers) (n : HeaderName) : List Bytes := if h.IsHop n then [] else h.getAll n

theorem contains_iff (h : Headers) (n : HeaderName) : h.contains n = true ↔ h.getAll n ≠ [] := by
  refine ⟨fun hc => ?_, contains_of_getAll⟩
  obtain ⟨f, hf, hname⟩ := List.any_eq_true.mp hc
  exact List.ne_nil_of_mem (List.mem_map_of_mem (List.mem_filter.mpr ⟨hf, hname⟩))

theorem getAll_foldl_remove (names : List HeaderName) (h : Headers) (n : HeaderName) :
    (names.foldl remove h).getAll n = if n ∈ names then [] else h.getAll n := by
  induction names generalizing h with
  | nil => simp
  | cons m names ih =>
    rw [List.foldl_cons, ih, getAll_remove]
    by_cases hm : m = n
    · subst hm
      simp
    · simp [hm, Ne.symm hm]

theorem getAll_stripHopByHop (h : Headers) (n : HeaderName) :
    h.stripHopByHop.getAll n = h.endToEnd n := by
  rw [stripHopByHop, getAll_foldl_remove]
  simp only [List.mem_append]
  rfl

theorem endToEnd_congr {h k : Headers} (hc : h.getAll .connection = k.getAll .connection)
    {n : HeaderName} (hn : h.getAll n = k.getAll n) : h.endToEnd n = k.endToEnd n := by
  have hop : h.IsHop n ↔ k.IsHop n := by
    unfold IsHop namedByConnection
    rw [hc]
  simp only [endToEnd, hop, hn]

end Http.Headers

/-! ## Names of requests -/

theorem Router.getAll_named (r : Http.Request) (fresh : Bytes) (n : Http.HeaderName) :
    (named r fresh).headers.getAll n =
      if n = .requestId ∧ r.headers.getAll .requestId = [] then [fresh]
      else r.headers.getAll n := by
  unfold named
  by_cases hid : r.headers.getAll .requestId = []
  · have hc : ¬ r.headers.contains .requestId = true := by
      rw [Http.Headers.contains_iff, hid]
      simp
    simp only [if_neg hc, Http.Headers.getAll_append, hid, and_true]
    by_cases hn : n = .requestId
    · rw [if_pos hn, if_pos hn.symm, hn, hid]
      rfl
    · rw [if_neg hn, if_neg (Ne.symm hn), List.append_nil]
  · rw [if_pos ((Http.Headers.contains_iff _ _).mpr hid), if_neg fun h => hid h.2]

theorem Router.endToEnd_named (r : Http.Request) (fresh : Bytes) {n : Http.HeaderName}
    (hn : n ≠ .requestId) : (named r fresh).headers.endToEnd n = r.headers.endToEnd n := by
  have hconnection : Http.HeaderName.connection ≠ .requestId := by decide
  apply Http.Headers.endToEnd_congr
  · rw [getAll_named, if_neg fun h => hconnection h.1]
  · rw [getAll_named, if_neg fun h => hn h.1]

/-! ## Towards the media origin -/

theorem Errand.getAll_addMissing_eq (h : Http.Headers) (n m : Http.HeaderName) (value : Bytes) :
    (addMissing h n value).getAll m =
      if n = m ∧ h.getAll n = [] then [value] else h.getAll m := by
  unfold addMissing
  by_cases hn : h.getAll n = []
  · have hc : ¬ h.contains n = true := by
      rw [Http.Headers.contains_iff, hn]
      exact fun hne => hne rfl
    rw [if_neg hc, Http.Headers.getAll_append]
    by_cases hm : n = m
    · rw [if_pos hm, if_pos ⟨hm, hn⟩, ← hm, hn]
      rfl
    · rw [if_neg hm, if_neg fun h => hm h.1, List.append_nil]
  · rw [if_pos ((Http.Headers.contains_iff h n).mpr hn), if_neg fun h => hn h.2]

namespace MediaOrigin

/-- The addresses a request was forwarded for, with one more: behind the first value of
before, if that can be read and says something, and else alone. -/
def forwarded (prior : List Bytes) (client : Ip) : Bytes :=
  match prior with
  | v :: _ =>
    if v.all Http.isReadableByte = true ∧ v ≠ [] then
      v ++ Bytes.ofString ", " ++ Bytes.ofString client.text
    else Bytes.ofString client.text
  | [] => Bytes.ofString client.text

theorem appendForwarded_eq (h : Http.Headers) (client : Ip) :
    appendForwarded h client =
      h.insert .forwardedFor (forwarded (h.getAll .forwardedFor) client) := by
  unfold appendForwarded forwarded
  rw [Http.Headers.get?_eq_head?]
  cases h.getAll .forwardedFor with
  | nil => rfl
  | cons v rest =>
    simp only [List.head?_cons, Option.bind_some, Http.readable?]
    by_cases hv : v.all Http.isReadableByte = true
    · have hascii : ∀ b ∈ v, b.toNat < 128 := fun b hb =>
        (Http.isReadableByte_ascii (List.all_eq_true.mp hv b hb)).1
      have htext : Bytes.ofString (String.ofList v.latin) = v := by
        rw [Bytes.ofString, String.toList_ofList, Bytes.ofText_latin hascii]
      have hempty : String.ofList v.latin = "" ↔ v = [] := by
        rw [← Bytes.ofString_eq_nil, htext]
      simp only [hv, if_true, true_and, hempty]
      by_cases hne : v = []
      · simp only [hne, ne_eq, not_true_eq_false, if_true, if_false]
      · simp only [hne, ne_eq, not_false_eq_true, if_true, if_false]
        congr 1
        simp only [Bytes.ofString, String.toList_append, Bytes.ofText_append] at htext ⊢
        rw [htext]
    · simp only [hv, if_false, false_and, Bool.false_eq_true]

def forwardedValues (prior : List Bytes) (client : Option Ip) : List Bytes :=
  match client with
  | some ip => [forwarded prior ip]
  | none => prior

theorem errandHeaders_getAll (o : MediaOrigin) (r : Http.Request) {n : Http.HeaderName}
    (hn : n ≠ .host) :
    (o.errandHeaders r).getAll n =
      if n = .forwardedFor then forwardedValues (r.headers.endToEnd .forwardedFor) r.client
      else r.headers.endToEnd n := by
  have hforwarded : Http.HeaderName.forwardedFor ≠ .host := by decide
  have hbase : ∀ m ≠ Http.HeaderName.host,
      (r.headers.stripHopByHop.insert .host (Bytes.ofText o.authority)).getAll m =
        r.headers.endToEnd m := fun m hm => by
    rw [Http.Headers.getAll_insert, if_neg (Ne.symm hm), Http.Headers.getAll_stripHopByHop]
  unfold errandHeaders forwardedValues
  cases r.client with
  | none =>
    simp only [hbase n hn]
    split
    · rename_i hf
      rw [hf]
    · rfl
  | some ip =>
    simp only [appendForwarded_eq, Http.Headers.getAll_insert, hbase _ hforwarded, hbase n hn]
    by_cases hf : n = .forwardedFor
    · rw [if_pos hf, if_pos hf.symm]
    · rw [if_neg hf, if_neg (Ne.symm hf)]

def relayedField (o : MediaOrigin) (r : Http.Request) (n : Http.HeaderName) : List Bytes :=
  if n = .host then [Bytes.ofText o.authority]
  else if n = .forwardedFor then forwardedValues (r.headers.endToEnd .forwardedFor) r.client
  else if n = .accept ∧ r.headers.endToEnd .accept = [] then [Bytes.ofString "*/*"]
  else r.headers.endToEnd n

theorem toUrl_getAll (o : MediaOrigin) (r : Http.Request) (m : Http.Method) (u : Url) (body : Bytes)
    (n : Http.HeaderName) :
    (Errand.toUrl m u (o.errandHeaders r) body).headers.getAll n = o.relayedField r n := by
  have haccept : Http.HeaderName.accept ≠ .host ∧ Http.HeaderName.accept ≠ .forwardedFor := by
    decide
  unfold relayedField
  by_cases hhost : n = .host
  · rw [if_pos hhost, hhost, toUrl_host]
  have hkept := errandHeaders_getAll o r haccept.1
  rw [if_neg haccept.2] at hkept
  have hnamed : (o.errandHeaders r).contains .host = true := by
    rw [Http.Headers.contains_iff, errandHeaders_host]
    exact List.cons_ne_nil _ _
  rw [if_neg hhost, Errand.toUrl, Errand.getAll_addMissing_eq, Errand.addMissing, if_pos hnamed,
    hkept, errandHeaders_getAll o r hhost]
  by_cases hf : n = .forwardedFor
  · rw [if_pos hf, if_pos hf, if_neg fun h => haccept.2 (h.1.trans hf)]
  · rw [if_neg hf, if_neg hf]
    simp only [eq_comm (a := Http.HeaderName.accept)]

end MediaOrigin

end MatrixGateway
