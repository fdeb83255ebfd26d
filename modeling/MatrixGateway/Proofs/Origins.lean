import MatrixGateway.Media
import MatrixGateway.Proofs.Servers
import MatrixGateway.Proofs.Targets

/-!
# The URL at the media origin

The origin's text and a request target, joined and read, are the origin's
server, the path as a URL's reader takes it, and the query with some
characters encoded. The asterisk alone is never a path of the origin.
-/

set_option autoImplicit false

namespace MatrixGateway

namespace Http.Uri

/-! ## The path and the query in one text -/

def place (u : Uri) : List Char :=
  if u.rawPath = [] ∧ u.query = none then ['/'] else u.rawPath

def queryPart (u : Uri) : List Char := (u.query.map ('?' :: ·)).getD []

theorem pathAndQuery_eq (u : Uri) : u.pathAndQuery = u.place ++ u.queryPart := by
  unfold pathAndQuery place queryPart
  cases u.query with
  | none => by_cases h : u.rawPath = [] <;> simp [h]
  | some q => simp

theorem queryPart_start (u : Uri) :
    u.queryPart = [] ∨ u.queryPart.head?.any Url.isTailMark = true := by
  unfold queryPart
  cases u.query with
  | none => exact Or.inl rfl
  | some q => exact Or.inr rfl

namespace Shaped

variable {u : Uri} (h : u.Shaped)

include h

theorem place_char {c : Char} (hc : c ∈ u.place) : 32 < c.toNat ∧ Url.isTailMark c = false := by
  unfold place at hc
  split at hc
  · rw [List.mem_singleton.mp hc]
    decide
  · obtain ⟨h1, h2, h3⟩ := h.path c hc
    exact ⟨h1, by simp [Url.isTailMark, h2, h3]⟩

theorem queryPart_visible {c : Char} (hc : c ∈ u.queryPart) : 32 < c.toNat := by
  unfold queryPart at hc
  cases hq : u.query with
  | none =>
    rw [hq] at hc
    contradiction
  | some q =>
    rw [hq] at hc
    rcases List.mem_cons.mp hc with rfl | hc
    · decide
    · exact (h.query q hq c hc).1

theorem pathAndQuery_visible {c : Char} (hc : c ∈ u.pathAndQuery) : 32 < c.toNat := by
  rw [pathAndQuery_eq] at hc
  rcases List.mem_append.mp hc with hc | hc
  · exact (h.place_char hc).1
  · exact h.queryPart_visible hc

theorem pathAndQuery_asterisk (hstar : u.rawPath = ['*']) : u.pathAndQuery = ['*'] := by
  have hquery : u.query = none := by
    rcases h.start with hs | hs | ⟨-, hs⟩
    · rw [hstar] at hs
      contradiction
    · rw [hstar] at hs
      exact absurd hs (by decide)
    · exact hs
  rw [pathAndQuery, hquery, hstar]
  rfl

theorem start_end (hstar : u.rawPath ≠ ['*']) :
    u.pathAndQuery = [] ∨ u.pathAndQuery.head?.any Url.isServerEnd = true := by
  right
  rw [pathAndQuery_eq, place, queryPart]
  rcases h.start with hnil | hslash | ⟨hs, -⟩
  · cases hq : u.query with
    | none =>
      rw [if_pos ⟨hnil, rfl⟩]
      rfl
    | some q =>
      rw [if_neg (by simp), hnil]
      rfl
  · cases hp : u.rawPath with
    | nil =>
      rw [hp] at hslash
      contradiction
    | cons c r =>
      rw [hp] at hslash
      obtain rfl : c = '/' := Option.some.inj hslash
      rw [if_neg (by simp)]
      rfl
  · contradiction

end Shaped

end Http.Uri

namespace Url

theorem finish_target {scheme : List Char} {server : Option Server} {p : UInt16}
    (hk : kind scheme = .network p) {u : Http.Uri} (hu : u.Shaped) :
    finish scheme server u.pathAndQuery =
      { scheme, server, path := .segments (readPath (.network p) u.place),
        query := u.query.map (encode inSpecialQuerySet), fragment := none } := by
  have hplace : ∀ c ∈ u.place, (!isTailMark c) = true := fun c hc => by
    rw [(hu.place_char hc).2]
    rfl
  have hstop : u.queryPart = [] ∨ u.queryPart.head?.any (fun c => !isTailMark c) = false := by
    apply u.queryPart_start.imp_right
    intro h
    cases hq : u.queryPart with
    | nil => rfl
    | cons c q =>
      rw [hq] at h
      simpa using h
  have htail : readTail (.network p) u.queryPart =
      (u.query.map (encode inSpecialQuerySet), none) := by
    cases hq : u.query with
    | none =>
      rw [Http.Uri.queryPart, hq]
      rfl
    | some q =>
      have hhash : ∀ c ∈ q, decide (c ≠ '#') = true := fun c hc =>
        decide_eq_true (hu.query q hq c hc).2
      have htake : q.takeWhile (· ≠ '#') = q := by
        simpa using takeWhile_append_of_all (b := []) hhash (Or.inl rfl)
      have hdrop : q.dropWhile (· ≠ '#') = [] := by
        simpa using dropWhile_append_of_all (b := []) hhash (Or.inl rfl)
      rw [Http.Uri.queryPart, hq]
      simp only [readTail, Option.map_some, Option.getD_some, htake, hdrop]
      rfl
  rw [Http.Uri.pathAndQuery_eq, finish]
  simp only [hk, takeWhile_append_of_all hplace hstop, dropWhile_append_of_all hplace hstop, htail]

theorem readServer_segments {scheme s : List Char} {u : Url} (h : readServer scheme s = .ok u) :
    ∃ l, u.path = .segments l := by
  unfold readServer at h
  simp only [bind, Except.bind, pure, Except.pure, throw, throwThe, MonadExceptOf.throw] at h
  repeat' split at h
  all_goals first
    | contradiction
    | exact ⟨_, (congrArg Url.path (Except.ok.inj h)).symm⟩

theorem parse_http_segments {scheme rest : List Char} {p : UInt16} {u : Url}
    (hs : scheme = "http".toList ∨ scheme = "https".toList) (hk : kind scheme = .network p)
    (hvisible : ∀ c ∈ scheme ++ ':' :: rest, 32 < c.toNat)
    (h : parse (scheme ++ ':' :: rest) = .ok u) : ∃ l, u.path = .segments l := by
  unfold parse at h
  rw [strip_eq_self hvisible, splitScheme?_http hs] at h
  simp only [hk] at h
  exact readServer_segments h

theorem text_segments_head (l : List (List Char)) :
    Segments.text l = [] ∨ (Segments.text l).head? = some '/' := by
  cases l with
  | nil => exact Or.inl rfl
  | cons s l => exact Or.inr rfl

end Url

/-! ## Origins -/

namespace MediaOrigin

/-- What an origin stands for: a scheme, a host that was read, and a port. -/
structure Names (o : MediaOrigin) (p : UInt16) (h : Url.Host) (port : Option UInt16) : Prop where
  scheme : o.scheme = "http".toList ∨ o.scheme = "https".toList
  kind : Url.kind o.scheme = .network p
  host : ∃ t, Url.Host.parse t = .ok h
  explicit : port ≠ some p
  authority : o.authority = h.text ++ Url.portPart port

theorem names_of_ofUrl {s : List Char} {u : Url} {o : MediaOrigin} (hs : Url.parse s = .ok u)
    (hh : u.isHttp = true) (ho : ofUrl u = .ok o) :
    o.scheme = u.scheme ∧ ∃ p h, u.host? = some h ∧ o.Names p h u.port? := by
  obtain ⟨p, server, hk, hserver, ⟨h, t, hhost, ht⟩, hport⟩ := Url.parse_isRead hs hh
  unfold ofUrl at ho
  rw [hserver] at ho
  simp only [hhost] at ho
  rw [if_neg (by simp)] at ho
  split at ho
  · obtain rfl := Except.ok.inj ho
    refine ⟨rfl, p, h, ?_, (Url.isHttp_iff u).mp hh, hk, ⟨t, ht⟩, ?_, ?_⟩
    · rw [Url.host?, hserver]
      exact hhost
    · rw [Url.port?, hserver]
      exact hport
    · rw [Url.port?, hserver, Url.Server.authority, hhost]
      rfl
  · contradiction

theorem exists_ofUrl {s : List Char} {u : Url} (hs : Url.parse s = .ok u) (hh : u.isHttp = true) :
    ∃ o, ofUrl u = .ok o := by
  obtain ⟨p, server, -, hserver, ⟨h, t, hhost, ht⟩, -⟩ := Url.parse_isRead hs hh
  have hchar : ∀ c ∈ server.authority, 32 < c.toNat ∧ c.toNat < 127 := by
    have hauthority : server.authority = h.text ++ Url.portPart server.port := by
      rw [Url.Server.authority, hhost]
      rfl
    intro c hc
    rw [hauthority] at hc
    rcases List.mem_append.mp hc with hc | hc
    · exact Url.Host.mem_text ht hc
    · exact Url.portPart_visible hc
  have hfield : (Bytes.ofText server.authority).all Http.isFieldByte = true := by
    apply List.all_eq_true.mpr
    intro b hb
    have hbyte : 32 ≤ b ∧ b ≠ 127 := by
      rcases Bytes.mem_ofText hb with ⟨c, hc, -, rfl⟩ | hhigh
      · obtain ⟨h32, h127⟩ := hchar c hc
        have hb := Bytes.toNat_ofNat (n := c.toNat) (by omega)
        refine ⟨UInt8.le_iff_toNat_le.mpr (by rw [hb]; exact Nat.le_of_lt h32), fun heq => ?_⟩
        rw [heq] at hb
        exact absurd hb (Nat.ne_of_gt h127)
      · refine ⟨UInt8.le_iff_toNat_le.mpr (Nat.le_trans (by decide) hhigh), ?_⟩
        rintro rfl
        exact absurd hhigh (by decide)
    rw [Http.isFieldByte, decide_eq_true hbyte.1, decide_eq_true hbyte.2]
    exact Bool.or_true _
  refine ⟨⟨u.scheme, server.authority⟩, ?_⟩
  unfold ofUrl
  rw [hserver]
  simp only [hhost, Option.isNone_some, Bool.false_eq_true, if_false, if_pos hfield]

namespace Names

variable {o : MediaOrigin} {p : UInt16} {h : Url.Host} {port : Option UInt16}
  (hn : o.Names p h port)

include hn

theorem parse_base {tail : List Char} (htail : tail = [] ∨ tail.head?.any Url.isServerEnd = true)
    (hvisible : ∀ c ∈ tail, 32 < c.toNat) :
    Url.parse (o.base ++ tail) =
      if h.isReadable then .ok (Url.finish o.scheme (some { host := some h, port }) tail)
      else .error .invalidDomain := by
  obtain ⟨t, ht⟩ := hn.host
  rw [base, hn.authority,
    Url.parse_server hn.scheme hn.kind (Url.Host.isPart_text ht) hn.explicit htail hvisible,
    Url.Host.parse_text ht]
  split <;> rfl

theorem base_visible {c : Char} (hc : c ∈ o.base) : 32 < c.toNat := by
  obtain ⟨t, ht⟩ := hn.host
  have key : ∀ name : List Char, name = "http".toList ∨ name = "https".toList →
      ∀ c ∈ name ++ "://".toList, 32 < c.toNat := by
    rintro name (rfl | rfl) <;> simp
  rw [base, hn.authority] at hc
  rcases List.mem_append.mp hc with hc | hc
  · exact key o.scheme hn.scheme c hc
  · exact ((Url.isServerChar_iff c).mp (Url.part_char (Url.Host.isPart_text ht) hc)).1

theorem target?_asterisk {uri : Http.Uri} (hraw : uri.rawPath = ['*']) (hquery : uri.query = none) :
    o.target? uri = none := by
  have hpath : uri.path = ['*'] := by
    rw [Http.Uri.path, if_neg (by simp [hraw]), hraw]
  have hpq : uri.pathAndQuery = ['*'] := by
    rw [Http.Uri.pathAndQuery, hquery]
    simp [hraw]
  have hcut : o.base ++ ['*'] = o.scheme ++ ':' :: (['/', '/'] ++ o.authority ++ ['*']) := by
    have hmark : "://".toList = [':', '/', '/'] := rfl
    simp [base, hmark]
  have hvisible : ∀ c ∈ o.base ++ ['*'], 32 < c.toNat := by
    intro c hc
    rcases List.mem_append.mp hc with hc | hc
    · exact hn.base_visible hc
    · rw [List.mem_singleton.mp hc]
      decide
  unfold target?
  rw [hpq, hcut]
  split
  · rename_i u hu
    obtain ⟨l, hl⟩ := Url.parse_http_segments hn.scheme hn.kind (hcut ▸ hvisible) hu
    rw [hl, hpath, if_neg]
    intro hstar
    rcases Url.text_segments_head l with hnil | hslash
    · exact absurd (hnil.symm.trans hstar) (by simp)
    · rw [show Url.Segments.text l = ['*'] from hstar] at hslash
      exact absurd hslash (by decide)
  · rfl

theorem target?_eq {uri : Http.Uri} (hu : uri.Shaped) (hstar : uri.rawPath ≠ ['*']) :
    o.target? uri =
      if h.isReadable = true ∧
          Url.Segments.text (Url.readPath (.network p) uri.place) = uri.path then
        some { scheme := o.scheme, server := some { host := some h, port },
               path := .segments (Url.readPath (.network p) uri.place),
               query := uri.query.map (Url.encode Url.inSpecialQuerySet), fragment := none }
      else none := by
  unfold target?
  rw [hn.parse_base (hu.start_end hstar) fun c hc => hu.pathAndQuery_visible hc]
  by_cases hr : h.isReadable = true
  · rw [if_pos hr, Url.finish_target hn.kind hu]
    by_cases hp : Url.Segments.text (Url.readPath (.network p) uri.place) = uri.path
    · rw [if_pos ⟨hr, hp⟩]
      exact if_pos hp
    · rw [if_neg fun h => hp h.2]
      exact if_neg hp
  · rw [if_neg hr, if_neg fun h => hr h.1]

end Names

end MediaOrigin

end MatrixGateway
