import MatrixGateway.Proofs.Hosts
import MatrixGateway.Url.Parse

/-!
# Servers of URLs read back

A URL in a scheme that names servers has a host that was read and a port other
than the implied one. Its server is read back from the text of the two, with
whatever path and query come behind it.
-/

set_option autoImplicit false

namespace MatrixGateway.Url

theorem kind_http : kind "http".toList = .network 80 := rfl

theorem kind_https : kind "https".toList = .network 443 := rfl

theorem isHttp_iff (u : Url) :
    u.isHttp = true ↔ u.scheme = "http".toList ∨ u.scheme = "https".toList := by
  simp [isHttp]

theorem kind_of_isHttp {u : Url} (h : u.isHttp = true) : ∃ p, kind u.scheme = .network p := by
  rcases (isHttp_iff u).mp h with h | h
  · exact ⟨80, h ▸ kind_http⟩
  · exact ⟨443, h ▸ kind_https⟩

/-! ## What a server is read from -/

def isServerEnd (c : Char) : Bool := (c = '/' || c = '\\') || isTailMark c

/-- A text behind the user's part. -/
def readHost (scheme : List Char) (p : UInt16) (user password s : List Char) :
    Except UrlError Url := do
  let hostText := s.take (hostLength false (s.takeWhile (!isServerEnd ·)))
  let rest := s.drop hostText.length
  if hostText = [] then throw .emptyHost
  let host ← Host.parse hostText
  match rest with
  | ':' :: rest =>
    let (port, rest) ← readPort (.network p) rest
    return finish scheme (some { user, password, host, port }) rest
  | rest => return finish scheme (some { user, password, host }) rest

theorem readServer_eq {scheme : List Char} {p : UInt16} (hk : kind scheme = .network p)
    (s : List Char) :
    readServer scheme s = match Text.cutLast? '@' (s.takeWhile (!isServerEnd ·)) with
      | none => readHost scheme p [] [] s
      | some (userInfo, _) =>
        let rest := s.drop (userInfo.length + 1)
        if userInfo = [] ∧ rest.head?.any isServerEnd then .error .emptyHost
        else readHost scheme p (readUser userInfo).1 (readUser userInfo).2 rest := by
  have hend : ∀ c, ((Kind.network p).isSeparator c || isTailMark c) = isServerEnd c := by
    intro c
    simp [Kind.isSeparator, Kind.isSpecial, isServerEnd]
  have hspecial : (Kind.network p).isSpecial = true := rfl
  unfold readServer
  simp only [hk, hend, hspecial, bind, Except.bind, pure, Except.pure, throw, throwThe,
    MonadExceptOf.throw, if_true, true_or]
  cases Text.cutLast? '@' (s.takeWhile (!isServerEnd ·)) with
  | none => rfl
  | some cut =>
    simp only
    split <;> rfl

structure Server.IsRead (s : Server) (p : UInt16) : Prop where
  host : ∃ h t, s.host = some h ∧ Host.parse t = .ok h
  port : s.port ≠ some p

theorem readPort_ne {k : Kind} {p : UInt16} (hk : k = .network p) {s rest : List Char}
    {port : Option UInt16} (h : readPort k s = .ok (port, rest)) : port ≠ some p := by
  subst hk
  unfold readPort at h
  simp only at h
  split at h
  · contradiction
  · split at h
    · obtain ⟨rfl, -⟩ := Prod.mk.inj (Except.ok.inj h)
      simp
    · split at h
      · contradiction
      · obtain ⟨rfl, -⟩ := Prod.mk.inj (Except.ok.inj h)
        split
        · simp
        · rename_i hne
          intro heq
          exact hne (by rw [Option.some.inj heq])

theorem readHost_isRead {scheme user password s : List Char} {p : UInt16} {u : Url}
    (h : readHost scheme p user password s = .ok u) :
    u.scheme = scheme ∧ ∃ server, u.server = some server ∧ server.IsRead p := by
  unfold readHost at h
  simp only [bind, Except.bind, pure, Except.pure, throw, throwThe, MonadExceptOf.throw] at h
  split at h
  · contradiction
  · split at h
    · contradiction
    · rename_i host hhost
      split at h
      · split at h
        · contradiction
        · rename_i port hport
          rw [← Except.ok.inj h]
          exact ⟨rfl, _, rfl, ⟨host, _, rfl, hhost⟩, readPort_ne rfl hport⟩
      · rw [← Except.ok.inj h]
        exact ⟨rfl, _, rfl, ⟨host, _, rfl, hhost⟩, by simp⟩

theorem readServer_isRead {scheme s : List Char} {p : UInt16} {u : Url}
    (hk : kind scheme = .network p) (h : readServer scheme s = .ok u) :
    u.scheme = scheme ∧ ∃ server, u.server = some server ∧ server.IsRead p := by
  rw [readServer_eq hk] at h
  split at h
  · exact readHost_isRead h
  · simp only at h
    split at h
    · contradiction
    · exact readHost_isRead h

theorem readFile_scheme {s : List Char} {u : Url} (h : readFile s = .ok u) :
    u.scheme = "file".toList := by
  unfold readFile at h
  simp only [bind, Except.bind, pure, Except.pure] at h
  repeat' split at h
  all_goals first
    | contradiction
    | exact (congrArg Url.scheme (Except.ok.inj h)).symm

theorem readServer_scheme {scheme s : List Char} {u : Url} (h : readServer scheme s = .ok u) :
    u.scheme = scheme := by
  unfold readServer at h
  simp only [bind, Except.bind, pure, Except.pure, throw, throwThe, MonadExceptOf.throw] at h
  repeat' split at h
  all_goals first
    | contradiction
    | exact (congrArg Url.scheme (Except.ok.inj h)).symm

theorem readOther_scheme {scheme s : List Char} {u : Url} (h : readOther scheme s = .ok u) :
    u.scheme = scheme := by
  unfold readOther at h
  split at h
  · exact readServer_scheme h
  · exact (congrArg Url.scheme (Except.ok.inj h)).symm
  · exact (congrArg Url.scheme (Except.ok.inj h)).symm

theorem parse_isRead {s : List Char} {u : Url} (h : parse s = .ok u) (hh : u.isHttp = true) :
    ∃ p server, kind u.scheme = .network p ∧ u.server = some server ∧ server.IsRead p := by
  obtain ⟨p, hp⟩ := kind_of_isHttp hh
  unfold parse at h
  split at h
  · contradiction
  · rename_i scheme rest _
    split at h
    · rename_i q hq
      obtain ⟨hs, server, hserver, hread⟩ := readServer_isRead hq h
      exact ⟨q, server, hs ▸ hq, hserver, hread⟩
    · have hfile : kind "file".toList = .file := rfl
      rw [readFile_scheme h, hfile] at hp
      contradiction
    · rename_i ho
      rw [readOther_scheme h, ho] at hp
      contradiction

/-! ## Reading a server back -/

theorem takeWhile_append_of_all {p : Char → Bool} {a b : List Char} (ha : ∀ c ∈ a, p c = true)
    (hb : b = [] ∨ b.head?.any p = false) : (a ++ b).takeWhile p = a := by
  rw [List.takeWhile_append_of_pos ha]
  cases b with
  | nil => simp
  | cons c b => 
    have hc : p c = false := by simpa using hb
    rw [List.takeWhile_cons_of_neg (by simp [hc]), List.append_nil]

theorem dropWhile_append_of_all {p : Char → Bool} {a b : List Char} (ha : ∀ c ∈ a, p c = true)
    (hb : b = [] ∨ b.head?.any p = false) : (a ++ b).dropWhile p = b := by
  rw [List.dropWhile_append_of_pos ha]
  cases b with
  | nil => rfl
  | cons c b =>
    have hc : p c = false := by simpa using hb
    rw [List.dropWhile_cons_of_neg (by simp [hc])]

theorem dropWhile_eq_self {p : Char → Bool} {s : List Char} (h : ∀ c ∈ s, p c = false) :
    s.dropWhile p = s := by
  cases s with
  | nil => rfl
  | cons c s => rw [List.dropWhile_cons_of_neg (by simp [h c])]

theorem strip_eq_self {s : List Char} (h : ∀ c ∈ s, 32 < c.toNat) : strip s = s := by
  have hhigh : ∀ c ∈ s, decide (c.toNat ≤ 32) = false := fun c hc =>
    decide_eq_false (Nat.not_le.mpr (h c hc))
  have hends : ((s.dropWhile (·.toNat ≤ 32)).reverse.dropWhile (·.toNat ≤ 32)).reverse = s := by
    rw [dropWhile_eq_self hhigh, dropWhile_eq_self fun c hc => hhigh c (List.mem_reverse.mp hc),
      List.reverse_reverse]
  unfold strip
  simp only [hends]
  apply List.filter_eq_self.mpr
  intro c hc
  have hc := h c hc
  have key : ∀ d : Char, d.toNat ≤ 32 → c ≠ d := by
    rintro d hd rfl
    omega
  simp [key '\t' (by decide), key '\n' (by decide), key '\r' (by decide)]

theorem splitScheme?_http {scheme : List Char}
    (hs : scheme = "http".toList ∨ scheme = "https".toList) (rest : List Char) :
    splitScheme? (scheme ++ ':' :: rest) = some (scheme, rest) := by
  have hcolon : (':' :: rest).head?.any isSchemeChar = false := by
    change isSchemeChar ':' = false
    decide
  have key : ∀ name : List Char, name = "http".toList ∨ name = "https".toList →
      name.all isSchemeChar = true ∧ name.head?.any Char.isAlpha = true ∧
        Text.lower name = name := by
    rintro name (rfl | rfl) <;> decide
  obtain ⟨hall, halpha, hlower⟩ := key scheme hs
  have hchars := List.all_eq_true.mp hall
  unfold splitScheme?
  rw [takeWhile_append_of_all hchars (Or.inr hcolon),
    dropWhile_append_of_all hchars (Or.inr hcolon)]
  cases scheme with
  | nil => contradiction
  | cons a name =>
    have ha : a.isAlpha = true := by simpa using halpha
    simp only [ha, if_true, hlower]

theorem hostLength_plain {t : List Char} (h : ∀ c ∈ t, c ≠ ':' ∧ c ≠ '[' ∧ c ≠ ']') (inside : Bool)
    (s : List Char) : hostLength inside (t ++ s) = t.length + hostLength inside s := by
  induction t with
  | nil => simp
  | cons c t ih =>
    obtain ⟨h1, h2, h3⟩ := h c (by simp)
    rw [List.cons_append, hostLength, if_neg (by simp [h1]), if_neg h2, if_neg h3,
      ih fun d hd => h d (by simp [hd]), List.length_cons]
    omega

theorem hostLength_uncoloned {t : List Char} (h : ∀ c ∈ t, c ≠ ':') (inside : Bool) :
    hostLength inside t = t.length := by
  induction t generalizing inside with
  | nil => rfl
  | cons c t ih =>
    rw [hostLength, if_neg fun hc => h c (by simp) hc.1, ih (fun d hd => h d (by simp [hd])),
      List.length_cons]

theorem hostLength_inside {t : List Char} (h : ∀ c ∈ t, c ≠ '[' ∧ c ≠ ']') (s : List Char) :
    hostLength true (t ++ s) = t.length + hostLength true s := by
  induction t with
  | nil => simp
  | cons c t ih =>
    obtain ⟨h1, h2⟩ := h c (by simp)
    rw [List.cons_append, hostLength, if_neg (by simp), if_neg h1, if_neg h2,
      ih fun d hd => h d (by simp [hd]), List.length_cons]
    omega

theorem hostLength_part {t : List Char} (ht : Host.IsPart t) (s : List Char) :
    hostLength false (t ++ s) = t.length + hostLength false s := by
  rcases ht.shape with h | ⟨body, rfl, h⟩
  · exact hostLength_plain h false s
  · rw [List.append_assoc, List.cons_append, hostLength, if_neg (by simp), if_pos rfl,
      hostLength_inside h, List.singleton_append, hostLength, if_neg (by simp), if_neg (by decide),
      if_pos rfl]
    simp
    omega

def portPart (port : Option UInt16) : List Char := (port.map fun p => ':' :: portText p).getD []

theorem portText_isDigit (p : UInt16) : ∀ c ∈ portText p, c.isDigit = true := fun _ hc =>
  Nat.isDigit_of_mem_toDigits (by decide) (by decide) hc

theorem readPort_digits {p port : UInt16} {ds tail : List Char} (hd : ∀ c ∈ ds, c.isDigit = true)
    (hport : Numeral.port? ds = some port)
    (htail : tail = [] ∨ tail.head?.any isServerEnd = true) :
    readPort (.network p) (ds ++ tail) = .ok (if p = port then none else some port, tail) := by
  have hend : ∀ c, isServerEnd c = true → c.isDigit = false := by
    intro c hc
    simp only [isServerEnd, isTailMark, Bool.or_eq_true, decide_eq_true_eq] at hc
    rcases hc with (rfl | rfl) | (rfl | rfl) <;> decide
  have hdigit : tail = [] ∨ tail.head?.any Char.isDigit = false := by
    apply htail.imp_right
    intro h
    cases tail with
    | nil => rfl
    | cons c tail => exact hend c (by simpa using h)
  have hgood : (tail.head?.any fun c => !(c = '/' || c = '\\' || isTailMark c)) = false := by
    rcases htail with rfl | h
    · rfl
    · cases tail with
      | nil => rfl
      | cons c tail =>
        have hc : isServerEnd c = true := by simpa using h
        change (!isServerEnd c) = false
        rw [hc]
        rfl
  have hne : ds ≠ [] := by
    rintro rfl
    exact Option.some_ne_none port hport.symm
  unfold readPort
  simp only [takeWhile_append_of_all hd hdigit, dropWhile_append_of_all hd hdigit, hgood,
    if_neg hne, hport, Kind.network.injEq]
  rfl

theorem isServerChar_iff (c : Char) :
    Host.isServerChar c = true ↔ 32 < c.toNat ∧ isServerEnd c = false ∧ c ≠ '@' := by
  have hmarks : "/\\?#@".toList = ['/', '\\', '?', '#', '@'] := rfl
  rw [Host.isServerChar, hmarks]
  simp [isServerEnd, isTailMark]
  tauto

/-- A port stands for digits alone. -/
theorem readPort_stray {k : Kind} {s tail : List Char}
    (hs : ∀ c ∈ s, Host.isServerChar c = true) (hstray : ∃ c ∈ s, c.isDigit = false) :
    readPort k (s ++ tail) = .error .invalidPort := by
  have hrest : s.dropWhile Char.isDigit ≠ [] := by
    obtain ⟨c, hc, hno⟩ := hstray
    rw [ne_eq, List.dropWhile_eq_nil_iff]
    intro h
    rw [h c hc] at hno
    contradiction
  obtain ⟨c, rest, hdrop⟩ := List.exists_cons_of_ne_nil hrest
  have hmem : c ∈ s := (List.dropWhile_sublist _).subset (by rw [hdrop]; simp)
  have hgood : (c = '/' || c = '\\' || isTailMark c) = false :=
    ((isServerChar_iff c).mp (hs c hmem)).2.1
  unfold readPort
  simp only [List.dropWhile_append, hdrop, List.isEmpty_cons, Bool.false_eq_true, if_false,
    List.cons_append, List.head?_cons, Option.any_some, hgood, Bool.not_false, if_true]

theorem portPart_char {port : Option UInt16} {c : Char} (hc : c ∈ portPart port) :
    Host.isServerChar c = true := by
  have key : ∀ d < 10, Host.isServerChar (Nat.digitChar d) = true := by decide
  cases port with
  | none => contradiction
  | some port =>
    rcases List.mem_cons.mp hc with rfl | hc
    · decide
    · obtain ⟨d, hd, rfl⟩ := mem_toDigits (by decide) hc
      exact key d hd

theorem portPart_visible {port : Option UInt16} {c : Char} (hc : c ∈ portPart port) :
    32 < c.toNat ∧ c.toNat < 127 := by
  have key : ∀ d < 10, 32 < (Nat.digitChar d).toNat ∧ (Nat.digitChar d).toNat < 127 := by decide
  cases port with
  | none => contradiction
  | some port =>
    rcases List.mem_cons.mp hc with rfl | hc
    · decide
    · obtain ⟨d, hd, rfl⟩ := mem_toDigits (by decide) hc
      exact key d hd

theorem part_char {t : List Char} (ht : Host.IsPart t) {port : Option UInt16} {c : Char}
    (hc : c ∈ t ++ portPart port) : Host.isServerChar c = true := by
  rcases List.mem_append.mp hc with hc | hc
  · exact ht.chars c hc
  · exact portPart_char hc

theorem takeWhile_server {a : List Char} (ha : ∀ c ∈ a, Host.isServerChar c = true)
    {tail : List Char} (htail : tail = [] ∨ tail.head?.any isServerEnd = true) :
    (a ++ tail).takeWhile (!isServerEnd ·) = a := by
  refine takeWhile_append_of_all (fun c hc => ?_) (htail.imp_right fun h => ?_)
  · rw [((isServerChar_iff c).mp (ha c hc)).2.1]
    rfl
  · cases tail with
    | nil => rfl
    | cons c tail => simpa using h

def readBehind (scheme : List Char) (p : UInt16) (h : Host) : List Char → Except UrlError Url
  | ':' :: s => do
    let (port, rest) ← readPort (.network p) s
    return finish scheme (some { host := some h, port }) rest
  | s => return finish scheme (some { host := some h }) s

theorem readHost_cut {scheme t behind : List Char} {p : UInt16} (hne : t ≠ [])
    (hchars : ∀ c ∈ t ++ behind, Host.isServerChar c = true)
    (hlength : hostLength false (t ++ behind) = t.length) {tail : List Char}
    (htail : tail = [] ∨ tail.head?.any isServerEnd = true) :
    readHost scheme p [] [] (t ++ behind ++ tail) =
      (Host.parse t).bind fun h => readBehind scheme p h (behind ++ tail) := by
  have htake : (t ++ behind ++ tail).take t.length = t := by
    rw [List.append_assoc, List.take_left]
  have hdrop : (t ++ behind ++ tail).drop t.length = behind ++ tail := by
    rw [List.append_assoc, List.drop_left]
  unfold readHost
  simp only [takeWhile_server hchars htail, hlength, htake, hdrop, if_neg hne, bind, Except.bind,
    pure, Except.pure]
  cases Host.parse t with
  | error e => rfl
  | ok h => rfl

theorem readBehind_colon (scheme : List Char) (p : UInt16) (h : Host) (s : List Char) :
    readBehind scheme p h (':' :: s) = (readPort (.network p) s).map fun r =>
      finish scheme (some { host := some h, port := r.1 }) r.2 := by
  change (readPort (.network p) s).bind _ = _
  cases readPort (.network p) s with
  | error e => rfl
  | ok r => rfl

theorem readBehind_port {scheme : List Char} {p : UInt16} {port : Option UInt16} (h : Host)
    (hport : port ≠ some p) {tail : List Char}
    (htail : tail = [] ∨ tail.head?.any isServerEnd = true) :
    readBehind scheme p h (portPart port ++ tail) =
      .ok (finish scheme (some { host := some h, port }) tail) := by
  cases port with
  | none =>
    cases tail with
    | nil => rfl
    | cons c s =>
      have hc : c ≠ ':' := by
        rintro rfl
        exact absurd htail (by simp [isServerEnd, isTailMark])
      change readBehind scheme p h (c :: s) = _
      unfold readBehind
      split
      · rename_i heq
        exact absurd (List.cons.inj heq).1 hc
      · rfl
  | some port =>
    have hread :=
      readPort_digits (p := p) (portText_isDigit port) (Numeral.port?_toDigits port) htail
    rw [if_neg fun h => hport (congrArg some h.symm)] at hread
    change readBehind scheme p h (':' :: (portText port ++ tail)) = _
    rw [readBehind_colon, hread]
    rfl

theorem parse_readHost {scheme a : List Char} {p : UInt16}
    (hs : scheme = "http".toList ∨ scheme = "https".toList) (hk : kind scheme = .network p)
    (hne : a ≠ []) (ha : ∀ c ∈ a, Host.isServerChar c = true) {tail : List Char}
    (htail : tail = [] ∨ tail.head?.any isServerEnd = true) (hvisible : ∀ c ∈ tail, 32 < c.toNat) :
    parse (scheme ++ "://".toList ++ a ++ tail) = readHost scheme p [] [] (a ++ tail) := by
  have hmark : "://".toList = ':' :: ['/', '/'] := rfl
  have hscheme : ∀ c ∈ scheme, 32 < c.toNat := by
    have key : ∀ name : List Char, name = "http".toList ∨ name = "https".toList →
        ∀ c ∈ name, 32 < c.toNat := by
      rintro name (rfl | rfl) <;> simp
    exact key scheme hs
  have hstrip : strip (scheme ++ "://".toList ++ a ++ tail) =
      scheme ++ "://".toList ++ a ++ tail := by
    apply strip_eq_self
    intro c hc
    simp only [hmark, List.mem_append, List.mem_cons, List.not_mem_nil, or_false] at hc
    rcases hc with ((hc | rfl | rfl | rfl) | hc) | hc
    · exact hscheme c hc
    · decide
    · decide
    · decide
    · exact ((isServerChar_iff c).mp (ha c hc)).1
    · exact hvisible c hc
  have hsplit : scheme ++ "://".toList ++ a ++ tail =
      scheme ++ ':' :: (['/', '/'] ++ (a ++ tail)) := by
    simp [hmark]
  have hslashes : (['/', '/'] ++ (a ++ tail)).dropWhile (fun c => c = '/' || c = '\\') =
      a ++ tail := by
    refine dropWhile_append_of_all (by simp) (Or.inr ?_)
    cases a with
    | nil => exact absurd rfl hne
    | cons c a =>
      have hc := ((isServerChar_iff c).mp (ha c (by simp))).2.1
      simp only [isServerEnd, Bool.or_eq_false_iff] at hc
      simpa using hc.1
  have hcut : Text.cutLast? '@' ((a ++ tail).takeWhile (!isServerEnd ·)) = none := by
    rw [takeWhile_server ha htail]
    exact Text.cutLast?_eq_none fun hmem => ((isServerChar_iff '@').mp (ha _ hmem)).2.2 rfl
  unfold parse
  rw [hstrip, hsplit, splitScheme?_http hs]
  simp only [hk, hslashes]
  rw [readServer_eq hk, hcut]

theorem parse_cut {scheme t behind : List Char} {p : UInt16}
    (hs : scheme = "http".toList ∨ scheme = "https".toList) (hk : kind scheme = .network p)
    (hne : t ≠ []) (hchars : ∀ c ∈ t ++ behind, Host.isServerChar c = true)
    (hlength : hostLength false (t ++ behind) = t.length) {tail : List Char}
    (htail : tail = [] ∨ tail.head?.any isServerEnd = true) (hvisible : ∀ c ∈ tail, 32 < c.toNat) :
    parse (scheme ++ "://".toList ++ (t ++ behind) ++ tail) =
      (Host.parse t).bind fun h => readBehind scheme p h (behind ++ tail) := by
  have hwhole : t ++ behind ≠ [] := by simp [hne]
  rw [parse_readHost hs hk hwhole hchars htail hvisible, readHost_cut hne hchars hlength htail]

theorem parse_server {scheme t : List Char} {p : UInt16} {port : Option UInt16}
    (hs : scheme = "http".toList ∨ scheme = "https".toList) (hk : kind scheme = .network p)
    (ht : Host.IsPart t) (hport : port ≠ some p) {tail : List Char}
    (htail : tail = [] ∨ tail.head?.any isServerEnd = true) (hvisible : ∀ c ∈ tail, 32 < c.toNat) :
    parse (scheme ++ "://".toList ++ (t ++ portPart port) ++ tail) =
      (Host.parse t).map fun h => finish scheme (some { host := some h, port }) tail := by
  have hbehind : hostLength false (portPart port) = 0 := by
    cases port with
    | none => rfl
    | some port => exact if_pos ⟨rfl, rfl⟩
  have hlength : hostLength false (t ++ portPart port) = t.length := by
    rw [hostLength_part ht, hbehind, Nat.add_zero]
  rw [parse_cut hs hk ht.ne_nil (fun c hc => part_char ht hc) hlength htail hvisible]
  cases Host.parse t with
  | error e => rfl
  | ok h => exact readBehind_port h hport htail

end MatrixGateway.Url
