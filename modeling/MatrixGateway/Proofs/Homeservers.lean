import MatrixGateway.Homeserver
import MatrixGateway.Proofs.Brackets
import MatrixGateway.Proofs.Numerals
import MatrixGateway.Proofs.Servers

/-!
# Addresses of homeservers

An address that is accepted is a host, a colon and a text for a port, and
perhaps something between a bracketed host and the colon. Its origin is the
host alone, and the host stands in a URL as it is.
-/

set_option autoImplicit false

namespace MatrixGateway

theorem bind_eq_ok {ε α β : Type} {x : Except ε α} {f : α → Except ε β} {b : β}
    (h : x >>= f = .ok b) : ∃ a, x = .ok a ∧ f a = .ok b := by
  cases x with
  | error e => contradiction
  | ok a => exact ⟨a, rfl, h⟩

namespace Http.Authority

/-! ## What the scan of an authority lets through -/

def isAllowed (c : Char) : Bool := isPlain c || ":[]@%".toList.contains c

/-- What lies between two states of a scan: each bracket at most once, and
only allowed characters. -/
structure Passed (s : Scan) (cs : List Char) (t : Scan) : Prop where
  opened : t.opened = true ↔ s.opened = true ∨ '[' ∈ cs
  closed : t.closed = true ↔ s.closed = true ∨ ']' ∈ cs
  opened_once : s.opened = true → '[' ∉ cs
  closed_once : s.closed = true → ']' ∉ cs
  allowed : ∀ c ∈ cs, isAllowed c = true

theorem Passed.nil (s : Scan) : Passed s [] s := by
  constructor <;> simp

theorem Passed.append {a b : List Char} {s u t : Scan} (ha : Passed s a u) (hb : Passed u b t) :
    Passed s (a ++ b) t where
  opened := by rw [hb.opened, ha.opened, List.mem_append, or_assoc]
  closed := by rw [hb.closed, ha.closed, List.mem_append, or_assoc]
  opened_once hs hmem := (List.mem_append.mp hmem).elim (ha.opened_once hs)
    (hb.opened_once (ha.opened.mpr (Or.inl hs)))
  closed_once hs hmem := (List.mem_append.mp hmem).elim (ha.closed_once hs)
    (hb.closed_once (ha.closed.mpr (Or.inl hs)))
  allowed c hc := (List.mem_append.mp hc).elim (ha.allowed c) (hb.allowed c)

theorem passed_step {s t : Scan} {c : Char} (h : step s c = .ok t) : Passed s [c] t := by
  unfold step at h
  simp only at h
  split at h
  · split at h
    · contradiction
    · obtain rfl := Except.ok.inj h
      constructor <;> simp [isAllowed]
  · split at h
    · contradiction
    · rename_i hs
      obtain rfl := Except.ok.inj h
      simp only [Bool.or_eq_true, not_or, Bool.not_eq_true] at hs
      constructor <;> simp [isAllowed, hs.2]
  · split at h
    · contradiction
    · rename_i hs
      obtain rfl := Except.ok.inj h
      simp only [Bool.or_eq_true, not_or, Bool.not_eq_true] at hs
      constructor <;> simp [isAllowed, hs.2]
  · obtain rfl := Except.ok.inj h
    constructor <;> simp [isAllowed]
  · obtain rfl := Except.ok.inj h
    constructor <;> simp [isAllowed]
  · rename_i hopen hclose _ _
    split at h
    · rename_i hplain
      obtain rfl := Except.ok.inj h
      have hno : '[' ≠ c ∧ ']' ≠ c := ⟨Ne.symm hopen, Ne.symm hclose⟩
      constructor <;> simp [isAllowed, hplain, hno]
    · contradiction

theorem passed_scan {cs : List Char} {s t : Scan} (h : cs.foldlM step s = .ok t) :
    Passed s cs t := by
  induction cs generalizing s with
  | nil =>
    obtain rfl := Except.ok.inj h
    exact Passed.nil s
  | cons c cs ih =>
    rw [List.foldlM_cons] at h
    obtain ⟨u, hstep, hrest⟩ := bind_eq_ok h
    exact (passed_step hstep).append (ih hrest)

theorem parse_spec {s a : List Char} (h : parse s = .ok a) :
    a = s ∧ ∃ t, s.foldlM step {} = .ok t ∧ isComplete t = true := by
  unfold parse split at h
  simp only [bind, Except.bind, throw, throwThe, MonadExceptOf.throw] at h
  split at h
  · contradiction
  · split at h
    · contradiction
    · rename_i v hv
      split at hv
      · contradiction
      · rename_i t ht
        split at hv
        · rename_i hcomplete
          obtain rfl := Except.ok.inj hv
          split at h
          · rename_i hrest
            change s.drop (s.takeWhile (!isEnd ·)).length = [] at hrest
            have hwhole : s.takeWhile (!isEnd ·) = s := by
              have := List.takeWhile_append_dropWhile (p := (!isEnd ·)) (l := s)
              rwa [← Text.drop_takeWhile, hrest, List.append_nil] at this
            rw [hwhole] at ht h
            exact ⟨(Except.ok.inj h).symm, t, ht, hcomplete⟩
          · contradiction
        · contradiction

theorem bracket_cut {rest : List Char} {t : Scan} (h : ('[' :: rest).foldlM step {} = .ok t)
    (hc : isComplete t = true) : ∃ body behind, rest = body ++ ']' :: behind ∧
      (∀ c ∈ body, c ≠ '[' ∧ c ≠ ']') ∧ ∀ c ∈ behind, c ≠ '[' ∧ c ≠ ']' := by
  have hpassed := passed_scan h
  have hboth : t.opened = t.closed := by
    simp only [isComplete, Bool.and_eq_true, beq_iff_eq] at hc
    exact hc.1.1.1
  have hmem : ']' ∈ rest := by
    rw [hpassed.opened.mpr (Or.inr List.mem_cons_self)] at hboth
    simpa using hpassed.closed.mp hboth.symm
  obtain ⟨body, behind, rfl, hbody⟩ := List.eq_append_cons_of_mem hmem
  have hopen : '[' ∉ body ++ ']' :: behind := by
    rw [List.foldlM_cons] at h
    obtain ⟨u, hstep, hrest⟩ := bind_eq_ok h
    exact (passed_scan hrest).opened_once ((passed_step hstep).opened.mpr (Or.inr (by simp)))
  have hlast : ']' ∉ behind := by
    rw [show '[' :: (body ++ ']' :: behind) = ('[' :: body ++ [']']) ++ behind by simp,
      List.foldlM_append] at h
    obtain ⟨u, hfront, hbehind⟩ := bind_eq_ok h
    exact (passed_scan hbehind).closed_once ((passed_scan hfront).closed.mpr (Or.inr (by simp)))
  simp only [List.mem_append, List.mem_cons, not_or] at hopen
  refine ⟨body, behind, rfl, fun c hc => ⟨?_, ?_⟩, fun c hc => ⟨?_, ?_⟩⟩
  · rintro rfl
    exact hopen.1 hc
  · rintro rfl
    exact hbody hc
  · rintro rfl
    exact hopen.2.2 hc
  · rintro rfl
    exact hlast hc

theorem isAllowed_serverChar {c : Char} (h : isAllowed c = true) (hat : c ≠ '@') :
    Url.Host.isServerChar c = true := by
  have key : ∀ n < 128, isAllowed (Char.ofNat n) = true → Char.ofNat n ≠ '@' →
      Url.Host.isServerChar (Char.ofNat n) = true := by
    decide +kernel
  have hmarks : "/\\?#@".toList = ['/', '\\', '?', '#', '@'] := rfl
  by_cases hc : c.toNat < 128
  · exact Text.of_ascii (P := fun c => isAllowed c = true → c ≠ '@' →
      Url.Host.isServerChar c = true) key hc h hat
  · have hne : ∀ d : Char, d.toNat < 128 → c ≠ d := by
      rintro d hd rfl
      exact hc hd
    rw [Url.isServerChar_iff]
    refine ⟨by omega, ?_, hat⟩
    simp [Url.isServerEnd, Url.isTailMark, hne]

end Http.Authority

/-! ## Accepted addresses -/

namespace Homeserver

def bare (n : Url.Host) : Url :=
  { scheme := "https".toList, server := some { host := some n }, path := .segments [[]] }

theorem originOf_eq {host : List Char} (hne : host ≠ [])
    (hchars : ∀ c ∈ host, Url.Host.isServerChar c = true)
    (hlength : Url.hostLength false host = host.length) :
    originOf host = (Url.Host.parse host).map bare := by
  have hmark : "https://".toList = "https".toList ++ "://".toList := rfl
  rw [← List.append_nil host] at hchars hlength
  have hread := Url.parse_cut (Or.inr rfl) Url.kind_https hne hchars (by simpa using hlength)
    (Or.inl rfl) (by simp)
  rw [List.append_nil, List.append_nil] at hread
  rw [originOf, hmark, hread]
  cases Url.Host.parse host with
  | error e => rfl
  | ok n => rfl

/-- The parts of an accepted address: only a bracketed host has anything
between itself and the first colon. -/
structure Parts (h : Homeserver) (gap port : List Char) : Prop where
  address : h.address.toList = h.host.toList ++ gap ++ ':' :: port
  chars : ∀ c ∈ h.address.toList, Url.Host.isServerChar c = true
  host : Url.Host.IsPart h.host.toList
  origin : ∃ n, Url.Host.parse h.host.toList = .ok n ∧ h.origin = bare n
  plain : ∀ c ∈ gap, c ≠ ':' ∧ c ≠ '[' ∧ c ≠ ']'
  bracket : gap ≠ [] → h.host.toList.head? = some '['
  number : (∀ c ∈ port, c.isDigit = true) → Numeral.port? port = some h.port

/-- Whether a URL can name the address: it is a host, a colon and digits. -/
def IsDialable (h : Homeserver) : Prop :=
  ∃ digits, h.address.toList = h.host.toList ++ ':' :: digits ∧ ∀ d ∈ digits, d.isDigit = true

theorem host_cut {s : List Char} {t : Http.Authority.Scan} {p : UInt16}
    (hscan : s.foldlM Http.Authority.step {} = .ok t) (hc : Http.Authority.isComplete t = true)
    (hat : '@' ∉ s) (hport : Http.Authority.port? s = some p) :
    ∃ gap port, s = Http.Authority.host s ++ gap ++ ':' :: port ∧
      (∀ c ∈ gap, c ≠ ':' ∧ c ≠ '[' ∧ c ≠ ']') ∧
      ((∃ body, Http.Authority.host s = '[' :: body ++ [']'] ∧ ∀ c ∈ body, c ≠ '[' ∧ c ≠ ']') ∨
        gap = [] ∧ (Http.Authority.host s).head? ≠ some '[' ∧
          ∀ c ∈ Http.Authority.host s, c ≠ ':') := by
  have hserver : Http.Authority.server s = s := by
    rw [Http.Authority.server, Text.cutLast?_eq_none hat]
  obtain ⟨⟨front, digits⟩, hcut, hdigits⟩ := Option.bind_eq_some_iff.mp hport
  obtain ⟨hs, -⟩ := Text.cutLast?_eq_some hcut
  unfold Http.Authority.host
  rw [hserver]
  split
  · rename_i rest
    obtain ⟨body, last, rfl, hbody, hlast⟩ := Http.Authority.bracket_cut hscan hc
    have hhost : (body ++ ']' :: last).takeWhile (· ≠ ']') = body :=
      Url.takeWhile_append_of_all (fun c hc => decide_eq_true (hbody c hc).2) (Or.inr (by simp))
    have hcolon : ':' ∈ last := by
      -- the port holds no bracket, so the closing one is in front of the last colon
      have hclosed : ']' ∉ digits := fun h => by
        rcases Numeral.mem_port? hdigits ']' h with h | h <;> exact absurd h (by decide)
      have hs : ('[' :: body) ++ ']' :: last = front ++ ':' :: digits := by simpa using hs
      rcases List.append_eq_append_iff.mp hs with ⟨a, ha, hb⟩ | ⟨a, ha, hb⟩
      · cases a with
        | nil => simp at hb
        | cons d a =>
          obtain ⟨-, hb⟩ := List.cons.inj hb
          rw [hb]
          simp
      · cases a with
        | nil => simp at hb
        | cons d a =>
          obtain ⟨-, hb⟩ := List.cons.inj hb
          exact absurd (hb ▸ by simp) hclosed
    obtain ⟨gap, port, rfl, hfirst⟩ := List.eq_append_cons_of_mem hcolon
    refine ⟨gap, port, ?_, fun c hc => ⟨?_, hlast c (by simp [hc])⟩, Or.inl ⟨body, ?_, hbody⟩⟩
    · rw [hhost]
      simp
    · rintro rfl
      exact hfirst hc
    · rw [hhost]
  · rename_i hhead
    have hcolon : ':' ∈ s := by
      rw [hs]
      simp
    obtain ⟨host, port, hsplit, hfirst⟩ := List.eq_append_cons_of_mem hcolon
    have hne : ∀ c ∈ host, c ≠ ':' := by
      rintro c hc rfl
      exact hfirst hc
    have hhost : s.takeWhile (· ≠ ':') = host := by
      rw [hsplit]
      exact Url.takeWhile_append_of_all (fun c hc => decide_eq_true (hne c hc)) (Or.inr (by simp))
    rw [hhost]
    refine ⟨[], port, by simpa using hsplit, by simp, Or.inr ⟨rfl, fun hb => ?_, hne⟩⟩
    cases host with
    | nil => simp at hb
    | cons c host => exact hhead (host ++ ':' :: port) (by rw [hsplit, Option.some.inj hb]; rfl)

theorem parse_checked {address : String} {h : Homeserver} (hh : parse address = .ok h) :
    h.address = address ∧ h.host.toList = Http.Authority.host address.toList ∧
      '@' ∉ address.toList ∧
      (∃ t, address.toList.foldlM Http.Authority.step {} = .ok t ∧
        Http.Authority.isComplete t = true) ∧
      Http.Authority.port? address.toList = some h.port ∧
      Http.Authority.host address.toList ≠ [] ∧
      originOf (Http.Authority.host address.toList) = .ok h.origin := by
  unfold parse at hh
  simp only [bind, Except.bind, pure, Except.pure, throw, throwThe, MonadExceptOf.throw] at hh
  split at hh
  · contradiction
  · split at hh
    · contradiction
    · rename_i hmarks
      have hat : '@' ∉ address.toList := by
        rw [not_or] at hmarks
        simpa using hmarks.1
      split at hh
      · rename_i authority hauthority
        obtain ⟨rfl, hscan⟩ := Http.Authority.parse_spec hauthority
        split at hh
        · rename_i port hport
          split at hh
          · contradiction
          · rename_i hhost
            split at hh
            · rename_i origin horigin
              obtain rfl := Except.ok.inj hh
              exact ⟨rfl, String.toList_ofList, hat, hscan, hport, hhost, horigin⟩
            · contradiction
        · contradiction
      · contradiction

theorem parse_parts {address : String} {h : Homeserver} (hh : parse address = .ok h) :
    h.address = address ∧ ∃ gap port, h.Parts gap port := by
  obtain ⟨rfl, hhost, hat, ⟨t, hscan, hc⟩, hport, hne, horigin⟩ := parse_checked hh
  obtain ⟨gap, port, haddress, hplain, hshape⟩ := host_cut hscan hc hat hport
  rw [← hhost] at hne horigin haddress hshape
  have hchars : ∀ c ∈ h.address.toList, Url.Host.isServerChar c = true := fun c hc =>
    Http.Authority.isAllowed_serverChar ((Http.Authority.passed_scan hscan).allowed c hc) fun e =>
      hat (e ▸ hc)
  have hhostChars : ∀ c ∈ h.host.toList, Url.Host.isServerChar c = true := fun c hc =>
    hchars c (by rw [haddress]; simp [hc])
  have hnumber : (∀ c ∈ port, c.isDigit = true) → Numeral.port? port = some h.port := by
    intro hdigits
    have hcolon : ':' ∉ port := fun h => absurd (hdigits ':' h) (by decide)
    rw [Http.Authority.port?, haddress, Text.cutLast?_append _ hcolon] at hport
    exact hport
  have hlength : Url.hostLength false h.host.toList = h.host.toList.length := by
    rcases hshape with ⟨body, hb, hbody⟩ | ⟨-, -, hb⟩
    · have hpart : Url.Host.IsPart h.host.toList := ⟨hne, hhostChars, Or.inr ⟨body, hb, hbody⟩⟩
      have hl := Url.hostLength_part hpart []
      rw [List.append_nil] at hl
      exact hl
    · exact Url.hostLength_uncoloned hb false
  rw [originOf_eq hne hhostChars hlength] at horigin
  obtain ⟨n, hn, hbare⟩ : ∃ n, Url.Host.parse h.host.toList = .ok n ∧ bare n = h.origin := by
    cases hp : Url.Host.parse h.host.toList with
    | error e =>
      rw [hp] at horigin
      contradiction
    | ok n =>
      rw [hp] at horigin
      exact ⟨n, rfl, Except.ok.inj horigin⟩
  have hpart : Url.Host.IsPart h.host.toList := by
    refine ⟨hne, hhostChars, ?_⟩
    rcases hshape with hb | ⟨-, hhead, hb⟩
    · exact Or.inr hb
    · exact Or.inl fun c hc => ⟨hb c hc, Url.Host.parse_unbracketed hn hhead c hc⟩
  have hbracket : gap ≠ [] → h.host.toList.head? = some '[' := by
    intro hgap
    rcases hshape with ⟨body, hb, -⟩ | ⟨hnil, -⟩
    · rw [hb]
      rfl
    · exact absurd hnil hgap
  exact ⟨rfl, gap, port,
    { address := haddress, chars := hchars, host := hpart, origin := ⟨n, hn, hbare.symm⟩,
      plain := hplain, bracket := hbracket, number := hnumber }⟩

namespace Parts

variable {h : Homeserver} {gap port : List Char} (hp : h.Parts gap port)

include hp

theorem parse_named (more : List Char) {tail : List Char}
    (hmore : ∀ c ∈ more, Url.Host.isServerChar c = true)
    (htail : tail = [] ∨ tail.head?.any Url.isServerEnd = true)
    (hvisible : ∀ c ∈ tail, 32 < c.toNat) :
    Url.parse ("https://".toList ++ (h.address.toList ++ more) ++ tail) =
      (Url.Host.parse (h.host.toList ++ gap)).bind fun n =>
        (Url.readPort (.network 443) (port ++ more ++ tail)).map fun r =>
          Url.finish "https".toList (some { host := some n, port := r.1 }) r.2 := by
  have hmark : "https://".toList = "https".toList ++ "://".toList := rfl
  have hcut : h.address.toList ++ more = (h.host.toList ++ gap) ++ ':' :: (port ++ more) := by
    rw [hp.address]
    simp
  have hchars : ∀ c ∈ h.address.toList ++ more, Url.Host.isServerChar c = true := fun c hc =>
    (List.mem_append.mp hc).elim (hp.chars c) (hmore c)
  have hne : h.host.toList ++ gap ≠ [] := by
    simp [hp.host.ne_nil]
  have hlength : Url.hostLength false ((h.host.toList ++ gap) ++ ':' :: (port ++ more)) =
      (h.host.toList ++ gap).length := by
    rw [List.append_assoc, Url.hostLength_part hp.host, Url.hostLength_plain hp.plain,
      Url.hostLength, if_pos ⟨rfl, rfl⟩, List.length_append, Nat.add_zero]
  rw [hcut] at hchars ⊢
  rw [hmark, Url.parse_cut (Or.inr rfl) Url.kind_https hne hchars hlength htail hvisible]
  simp only [List.cons_append, Url.readBehind_colon]

theorem host_gap (hgap : gap ≠ []) :
    Url.Host.parse (h.host.toList ++ gap) = .error .invalidIpv6 := by
  obtain ⟨rest, hrest⟩ : ∃ rest, h.host.toList = '[' :: rest :=
    List.head?_eq_some_iff.mp (hp.bracket hgap)
  have hlast : (rest ++ gap).getLast? ≠ some ']' := by
    rw [List.getLast?_append_of_ne_nil _ hgap]
    exact fun h => (hp.plain _ (List.mem_of_getLast? h)).2.2 rfl
  rw [hrest]
  change Url.Host.parseV6 (rest ++ gap) = _
  unfold Url.Host.parseV6
  split
  · rename_i h _
    exact absurd h hlast
  · rfl

/-- Where there is more in the host's place or in the port's, there is no URL. -/
theorem parse_undialable (more : List Char) {tail : List Char}
    (hmore : ∀ c ∈ more, Url.Host.isServerChar c = true)
    (htail : tail = [] ∨ tail.head?.any Url.isServerEnd = true)
    (hvisible : ∀ c ∈ tail, 32 < c.toNat)
    (hstray : gap ≠ [] ∨ ∃ c ∈ port ++ more, c.isDigit = false) :
    ∃ e, Url.parse ("https://".toList ++ (h.address.toList ++ more) ++ tail) = .error e := by
  rw [hp.parse_named more hmore htail hvisible]
  by_cases hgap : gap = []
  · have hport : ∀ c ∈ port ++ more, Url.Host.isServerChar c = true := fun c hc =>
      (List.mem_append.mp hc).elim (fun hc => hp.chars c (by rw [hp.address]; simp [hc])) (hmore c)
    rw [Url.readPort_stray hport (hstray.resolve_left (not_not_intro hgap))]
    cases Url.Host.parse (h.host.toList ++ gap) with
    | error e => exact ⟨e, rfl⟩
    | ok n => exact ⟨_, rfl⟩
  · rw [hp.host_gap hgap]
    exact ⟨_, rfl⟩

theorem isDialable_iff : h.IsDialable ↔ gap = [] ∧ ∀ c ∈ port, c.isDigit = true := by
  constructor
  · rintro ⟨digits, haddress, hdigits⟩
    rw [hp.address, List.append_assoc, List.append_cancel_left_eq] at haddress
    cases hg : gap with
    | nil =>
      rw [hg] at haddress
      exact ⟨rfl, (List.cons.inj haddress).2 ▸ hdigits⟩
    | cons c rest =>
      rw [hg] at haddress
      exact absurd (List.cons.inj haddress).1 (hp.plain c (by rw [hg]; simp)).1
  · rintro ⟨rfl, hdigits⟩
    exact ⟨port, by simpa using hp.address, hdigits⟩

end Parts

theorem Parts.parse_dialable {h : Homeserver} {port tail : List Char} (hp : h.Parts [] port)
    (hdigits : ∀ c ∈ port, c.isDigit = true)
    (htail : tail = [] ∨ tail.head?.any Url.isServerEnd = true)
    (hvisible : ∀ c ∈ tail, 32 < c.toNat) :
    Url.parse ("https://".toList ++ h.address.toList ++ tail) =
      .ok (Url.finish "https".toList (some
        { host := h.origin.host?, port := if 443 = h.port then none else some h.port }) tail) := by
  obtain ⟨n, hn, horigin⟩ := hp.origin
  have hhost : h.origin.host? = some n := by rw [horigin]; rfl
  have hread := hp.parse_named [] (by simp) htail hvisible
  rw [List.append_nil, List.append_nil, List.append_nil, hn,
    Url.readPort_digits hdigits (hp.number hdigits) htail] at hread
  rw [hread, hhost]
  rfl

/-! ## Homeservers on this machine -/

def localhost (address : String) (port : UInt16) : Homeserver :=
  { address, host := "localhost", port, origin := bare (.name "localhost".toList) }

theorem originOf_localhost :
    originOf "localhost".toList = .ok (bare (.name "localhost".toList)) := by
  have hplain : ∀ c ∈ "localhost".toList, Idna.isPlain c = true := List.all_eq_true.mp (by decide)
  have hchars : ∀ c ∈ "localhost".toList, Url.Host.isServerChar c = true :=
    List.all_eq_true.mp (by decide)
  have hascii : Idna.toAscii? "localhost".toList = some "localhost".toList :=
    Idna.toAscii?_unmarked ["localhost".toList] (by simp) (by simpa using hplain)
      (fun f hf => by rw [List.mem_singleton.mp hf]; decide)
  have hnumber : Url.Host.endsInNumber "localhost".toList = false := by decide
  rw [originOf_eq (by decide) hchars (by decide),
    Url.Host.parse_plain fun c hc => Or.inl (hplain c hc), hascii]
  simp only [Url.Host.ofDomain, hnumber]
  rfl

theorem parse_localhost {address : String} {port : UInt16}
    (hmarks : '@' ∉ address.toList ∧ '/' ∉ address.toList)
    (hauthority : Http.Authority.parse address.toList = .ok address.toList)
    (hport : Http.Authority.port? address.toList = some port)
    (hhost : Http.Authority.host address.toList = "localhost".toList) :
    parse address = .ok (localhost address port) := by
  have hne : address.toList ≠ [] := by
    intro hnil
    rw [hnil] at hhost
    exact absurd hhost (by decide)
  have hbad : ¬ (address.toList.contains '@' = true ∨ address.toList.contains '/' = true) := by
    simpa using hmarks
  unfold parse
  simp only [bind, Except.bind, pure, Except.pure, if_neg hne, if_neg hbad, hauthority, hport,
    hhost, originOf_localhost]
  rfl

theorem parse_localhost_8448 : parse "localhost:8448" = .ok (localhost "localhost:8448" 8448) :=
  parse_localhost (by decide) rfl rfl rfl

theorem isDialable_localhost {address : String} {port : UInt16} (digits : List Char)
    (haddress : address.toList = "localhost".toList ++ ':' :: digits)
    (hdigits : digits.all Char.isDigit = true) : (localhost address port).IsDialable :=
  ⟨digits, haddress, List.all_eq_true.mp hdigits⟩

end Homeserver

end MatrixGateway
