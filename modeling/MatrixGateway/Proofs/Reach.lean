import MatrixGateway.Http.Errand
import MatrixGateway.Proofs.Diversion
import MatrixGateway.Proofs.Relaying

/-!
# Texts that are request targets

A text of a scheme, a server, a path and a query is a request target when it
is not too long and the server's part of it can be read. A target at the
media origin is such a text, so it is within reach as long as it is short
enough and the origin's server can be written in a request.
-/

set_option autoImplicit false

namespace MatrixGateway

/-! ## Text of one byte for each character -/

namespace Bytes

theorem ofText_ascii {s : List Char} (h : ∀ c ∈ s, c.toNat < 128) :
    ofText s = s.map fun c => UInt8.ofNat c.toNat := by
  induction s with
  | nil => rfl
  | cons c s ih =>
    have htail := ih fun d hd => h d (List.mem_cons_of_mem _ hd)
    change String.utf8EncodeChar c ++ ofText s = _
    rw [utf8EncodeChar_ascii (h c List.mem_cons_self), htail]
    rfl

theorem latin_ofText {s : List Char} (h : ∀ c ∈ s, c.toNat < 128) : (ofText s).latin = s := by
  have hchar : ∀ c ∈ s, Char.ofNat (UInt8.ofNat c.toNat).toNat = c := fun c hc => by
    rw [toNat_ofNat (by have := h c hc; omega), Char.ofNat_toNat]
  rw [ofText_ascii h, latin, List.map_map]
  exact (List.map_congr_left hchar).trans (List.map_id' s)

theorem length_ofText {s : List Char} (h : ∀ c ∈ s, c.toNat < 128) :
    (ofText s).length = s.length := by
  rw [ofText_ascii h, List.length_map]

end Bytes

namespace Http

namespace Authority

theorem split_append {a tail : List Char} (ha : ∀ c ∈ a, isEnd c = false)
    (htail : tail = [] ∨ tail.head?.any isEnd = true) :
    split (a ++ tail) = (split a).map fun _ => (a, tail) := by
  have hall : ∀ c ∈ a, (!isEnd c) = true := fun c hc => by
    rw [ha c hc]
    rfl
  have hstop : tail = [] ∨ tail.head?.any (fun c => !isEnd c) = false := by
    apply htail.imp_right
    intro h
    cases tail with
    | nil => rfl
    | cons c tail => simpa using h
  have hfront : (a ++ tail).takeWhile (!isEnd ·) = a := Url.takeWhile_append_of_all hall hstop
  have halone : a.takeWhile (!isEnd ·) = a := by
    simpa using Url.takeWhile_append_of_all (b := []) hall (Or.inl rfl)
  unfold split
  rw [hfront, halone]
  simp only [bind, Except.bind]
  cases a.foldlM step {} with
  | error e => rfl
  | ok scan =>
    simp only [List.drop_left]
    split <;> rfl

theorem parse_isOk {a : List Char} (ha : ∀ c ∈ a, isEnd c = false) :
    (parse a).isOk = true ↔ a ≠ [] ∧ (split a).isOk = true := by
  have halone := split_append ha (Or.inl (rfl : ([] : List Char) = []))
  rw [List.append_nil] at halone
  unfold parse
  simp only [bind, Except.bind, throw, throwThe, MonadExceptOf.throw]
  by_cases hne : a = []
  · simp [hne, Except.isOk, Except.toBool]
  · simp only [if_neg hne]
    rw [halone]
    cases split a with
    | error e => simp [Except.map, Except.isOk, Except.toBool]
    | ok x => simp [Except.map, Except.isOk, Except.toBool, hne]

end Authority

namespace Uri

structure Plain (path : List Char) (query : Option (List Char)) : Prop where
  path : ∀ c ∈ path, c.toNat < 128 ∧ isPathChar c = true
  query : ∀ q, query = some q → ∀ c ∈ q, c.toNat < 128 ∧ isQueryChar c = true

def marked (query : Option (List Char)) : List Char := (query.map ('?' :: ·)).getD []

theorem isPathChar_unmarked {c : Char} (h : isPathChar c = true) :
    (c ≠ '?' && c ≠ '#') = true := by
  have hmark : c ≠ '?' ∧ c ≠ '#' := by
    constructor <;> rintro rfl <;> exact absurd h (by decide)
  simp [hmark]

theorem isQueryChar_unmarked {c : Char} (h : isQueryChar c = true) : decide (c ≠ '#') = true := by
  have hmark : c ≠ '#' := by
    rintro rfl
    exact absurd h (by decide)
  exact decide_eq_true hmark

theorem asText_ascii {s : List Char} (h : ∀ c ∈ s, c.toNat < 128) : asText s = .ok s := by
  have hbytes : (s.map fun c => c.toNat.toUInt8) = Bytes.ofText s := (Bytes.ofText_ascii h).symm
  rw [asText, hbytes, Bytes.text?_ofText]

section Scheme

variable {scheme : List Char} (hscheme : scheme = "http".toList ∨ scheme = "https".toList)

include hscheme

theorem scheme_char {c : Char} (hc : c ∈ scheme) : c.toNat < 128 ∧ isSchemeChar c = true := by
  have hall : (scheme.all fun c => c.toNat < 128 && isSchemeChar c) = true := by
    rcases hscheme with rfl | rfl <;> decide
  simpa using List.all_eq_true.mp hall c hc

theorem scheme_start : ∃ c d rest, scheme = c :: d :: rest ∧ c ≠ '/' ∧ c ≠ '*' := by
  rcases hscheme with rfl | rfl
  · exact ⟨'h', 't', _, rfl, by decide⟩
  · exact ⟨'h', 't', _, rfl, by decide⟩

theorem splitScheme?_written (tail : List Char) :
    splitScheme? (scheme ++ "://".toList ++ tail) = .ok (some (scheme, tail)) := by
  have hshort : scheme.length ≤ maxSchemeLength := by
    rcases hscheme with rfl | rfl <;> decide
  have htake : (scheme ++ ("://".toList ++ tail)).takeWhile isSchemeChar = scheme :=
    Url.takeWhile_append_of_all (fun c hc => (scheme_char hscheme hc).2) (Or.inr rfl)
  have hmark : "://".toList.isPrefixOf ("://".toList ++ tail) = true :=
    List.isPrefixOf_iff_prefix.mpr (List.prefix_append _ _)
  have hlong : 3 < (scheme ++ ("://".toList ++ tail)).length := by
    obtain ⟨c, d, rest, hcd, -⟩ := scheme_start hscheme
    rw [hcd]
    simp
    omega
  unfold splitScheme?
  simp only [List.append_assoc, htake, List.drop_left, hmark, hlong, and_self, if_true,
    if_neg (Nat.not_lt.mpr hshort)]
  rfl

end Scheme

namespace Plain

variable {path : List Char} {query : Option (List Char)} (h : Plain path query)

include h

theorem marked_ascii {c : Char} (hc : c ∈ marked query) : c.toNat < 128 := by
  cases query with
  | none => contradiction
  | some q =>
    rcases List.mem_cons.mp hc with rfl | hc
    · decide
    · exact (h.query q rfl c hc).1

theorem splitPath_marked : splitPath (path ++ marked query) = .ok (path, query) := by
  have hpath : ∀ c ∈ path, (c ≠ '?' && c ≠ '#') = true := fun c hc =>
    isPathChar_unmarked (h.path c hc).2
  have hstop : marked query = [] ∨
      (marked query).head?.any (fun c => c ≠ '?' && c ≠ '#') = false := by
    cases query with
    | none => exact Or.inl rfl
    | some q => exact Or.inr rfl
  have htake : (path ++ marked query).takeWhile (fun c => c ≠ '?' && c ≠ '#') = path :=
    Url.takeWhile_append_of_all hpath hstop
  have hall : path.all isPathChar = true := List.all_eq_true.mpr fun c hc => (h.path c hc).2
  have htext : asText path = .ok path := asText_ascii fun c hc => (h.path c hc).1
  unfold splitPath
  simp only [htake, hall, htext, List.drop_left, bind, Except.bind, pure, Except.pure,
    Bool.not_true, Bool.false_eq_true, if_false]
  cases query with
  | none => rfl
  | some q =>
    have hq := h.query q rfl
    have hwhole : q.takeWhile (· ≠ '#') = q := by
      simpa using Url.takeWhile_append_of_all (b := [])
        (fun c hc => isQueryChar_unmarked (hq c hc).2) (Or.inl rfl)
    have hqall : q.all isQueryChar = true := List.all_eq_true.mpr fun c hc => (hq c hc).2
    have hqtext : asText q = .ok q := asText_ascii fun c hc => (hq c hc).1
    simp only [marked, Option.map_some, Option.getD_some, hwhole, hqall, hqtext, Bool.not_true,
      Bool.false_eq_true, if_false]

theorem parse_rooted (hroot : path.head? = some '/')
    (hlength : (Bytes.ofText (path ++ marked query)).length ≤ maxLength) :
    parse (Bytes.ofText (path ++ marked query)) = .ok { rawPath := path, query } := by
  have hlatin : (Bytes.ofText (path ++ marked query)).latin = path ++ marked query := by
    apply Bytes.latin_ofText
    intro c hc
    rcases List.mem_append.mp hc with hc | hc
    · exact (h.path c hc).1
    · exact h.marked_ascii hc
  obtain ⟨rest, rfl⟩ : ∃ rest, path = '/' :: rest := by
    cases path with
    | nil => contradiction
    | cons c rest => exact ⟨rest, by rw [Option.some.inj hroot]⟩
  have hsplit := h.splitPath_marked
  unfold parse
  rw [hlatin]
  simp only [bind, Except.bind, pure, Except.pure, throw, throwThe, MonadExceptOf.throw,
    if_neg (Nat.not_lt.mpr hlength)]
  rw [List.cons_append] at hsplit ⊢
  cases hr : rest ++ marked query with
  | nil =>
    obtain ⟨rfl, hquery⟩ := List.append_eq_nil_iff.mp hr
    cases query with
    | none => rfl
    | some q => contradiction
  | cons c cs =>
    rw [hr] at hsplit
    simp only [hsplit]

theorem absolute_ascii {scheme authority : List Char}
    (hscheme : scheme = "http".toList ∨ scheme = "https".toList)
    (ha : ∀ c ∈ authority, c.toNat < 128) {c : Char}
    (hc : c ∈ scheme ++ "://".toList ++ authority ++ path ++ marked query) : c.toNat < 128 := by
  have hmark : ("://".toList.all fun c => c.toNat < 128) = true := by decide
  simp only [List.mem_append] at hc
  rcases hc with (((hc | hc) | hc) | hc) | hc
  · exact (scheme_char hscheme hc).1
  · exact of_decide_eq_true (List.all_eq_true.mp hmark c hc)
  · exact ha c hc
  · exact (h.path c hc).1
  · exact h.marked_ascii hc

theorem parse_absolute_isOk {scheme authority : List Char}
    (hscheme : scheme = "http".toList ∨ scheme = "https".toList)
    (ha : ∀ c ∈ authority, c.toNat < 128 ∧ Authority.isEnd c = false)
    (hroot : path.head? = some '/') :
    (parse (Bytes.ofText (scheme ++ "://".toList ++ authority ++ path ++ marked query))).isOk =
        true ↔
      (Bytes.ofText (scheme ++ "://".toList ++ authority ++ path ++ marked query)).length ≤
          maxLength ∧
        (Authority.parse authority).isOk = true := by
  obtain ⟨c, d, rest, hcd, hslash, hasterisk⟩ := scheme_start hscheme
  generalize htail : authority ++ path ++ marked query = tail
  have hwhole : scheme ++ "://".toList ++ authority ++ path ++ marked query =
      scheme ++ "://".toList ++ tail := by
    rw [← htail]
    simp only [List.append_assoc]
  have htailHead : (path ++ marked query).head?.any Authority.isEnd = true := by
    cases path with
    | nil => contradiction
    | cons e path =>
      rw [Option.some.inj hroot]
      rfl
  have hascii : ∀ e ∈ scheme ++ "://".toList ++ tail, e.toNat < 128 := fun e he =>
    h.absolute_ascii hscheme (fun c hc => (ha c hc).1) (hwhole ▸ he)
  have hne : tail ≠ [] := by
    rw [← htail, List.append_assoc]
    intro hnil
    rw [(List.append_eq_nil_iff.mp hnil).2] at htailHead
    contradiction
  have hscan := splitScheme?_written hscheme tail
  have hsplit : Authority.split tail =
      (Authority.split authority).map fun _ => (authority, path ++ marked query) := by
    rw [← htail, List.append_assoc]
    exact Authority.split_append (fun e he => (ha e he).2) (Or.inr htailHead)
  rw [hwhole, Authority.parse_isOk fun e he => (ha e he).2]
  unfold parse
  rw [Bytes.latin_ofText hascii]
  simp only [bind, Except.bind, pure, Except.pure, throw, throwThe, MonadExceptOf.throw]
  by_cases hlength : (Bytes.ofText (scheme ++ "://".toList ++ tail)).length ≤ maxLength
  · rw [if_neg (Nat.not_lt.mpr hlength), and_iff_right hlength]
    rw [hcd] at hscan ⊢
    simp only [List.cons_append] at hscan ⊢
    split
    · contradiction
    · rename_i heq
      exact absurd (List.cons.inj heq).1 hslash
    · rename_i heq
      exact absurd (List.cons.inj heq).1 hasterisk
    · rename_i heq
      simp at heq
    · rename_i heq
      exact absurd (List.cons.inj heq).1 hslash
    · simp only [hscan, if_neg hne, hsplit]
      cases Authority.split authority with
      | error e => simp [Except.map, Except.isOk, Except.toBool]
      | ok x =>
        by_cases hempty : authority = []
        · simp [Except.map, Except.isOk, Except.toBool, hempty]
        · simp [Except.map, Except.isOk, Except.toBool, hempty, h.splitPath_marked]
  · rw [if_pos (Nat.lt_of_not_le hlength)]
    exact iff_of_false Bool.false_ne_true fun h => hlength h.1

end Plain

theorem Shaped.media_raw {uri : Uri} (hu : uri.Shaped) (hm : Route.classify uri.path = .media) :
    uri.rawPath ≠ ['*'] := by
  obtain ⟨rest, hpath, hraw, -⟩ := hu.media_path (Route.of_classify_media hm).1
  rw [hraw, hpath]
  rintro ⟨⟩

end Uri

end Http

/-! ## Targets at the media origin -/

namespace Url

theorem plain_path_char {c : Char} (h : inPathSet c = false) :
    c.toNat < 128 ∧ Http.Uri.isPathChar c = true := by
  have hlow : c.toNat < 128 := by
    by_contra hhigh
    have hcontrol : isControl c = true := by
      simp [isControl]
      omega
    simp [inPathSet, inFragmentSet, hcontrol] at h
  refine ⟨hlow, ?_⟩
  exact Text.of_ascii (P := fun c => inPathSet c = false → Http.Uri.isPathChar c = true)
    (by decide +kernel) hlow h

theorem plain_query_char {q : List Char} {c : Char} (h : c ∈ encode inSpecialQuerySet q) :
    c.toNat < 128 ∧ Http.Uri.isQueryChar c = true := by
  have hdigit : ∀ n < 16, (hexDigit n).toNat < 128 ∧ Http.Uri.isQueryChar (hexDigit n) = true := by
    decide
  rcases mem_encode h with ⟨-, hset⟩ | rfl | ⟨n, hn, rfl⟩
  · have hlow : c.toNat < 128 := by
      by_contra hhigh
      rw [Url.inSpecialQuerySet_spec.2.2 c (Nat.le_of_not_lt hhigh)] at hset
      contradiction
    refine ⟨hlow, ?_⟩
    exact Text.of_ascii (P := fun c => inSpecialQuerySet c = false → Http.Uri.isQueryChar c = true)
      (by decide +kernel) hlow hset
  · decide
  · exact hdigit n hn

end Url

namespace MediaOrigin

namespace Names

variable {o : MediaOrigin} {p : UInt16} {h : Url.Host} {port : Option UInt16}
  (hn : o.Names p h port)

include hn

theorem authority_char {c : Char} (hc : c ∈ o.authority) :
    c.toNat < 128 ∧ Http.Authority.isEnd c = false := by
  obtain ⟨t, ht⟩ := hn.host
  rw [hn.authority] at hc
  have hserver := (Url.isServerChar_iff c).mp (Url.part_char (Url.Host.isPart_text ht) hc)
  have hlow : c.toNat < 128 := by
    rcases List.mem_append.mp hc with hc | hc
    · exact Nat.lt_of_lt_of_le (Url.Host.mem_text ht hc).2 (by decide)
    · exact Nat.lt_of_lt_of_le (Url.portPart_visible hc).2 (by decide)
  refine ⟨hlow, ?_⟩
  have hend := hserver.2.1
  simp only [Url.isServerEnd, Url.isTailMark, Bool.or_eq_false_iff] at hend
  simp only [Http.Authority.isEnd, Bool.or_eq_false_iff]
  exact ⟨⟨hend.1.1, hend.2.1⟩, hend.2.2⟩

theorem target_of_media {uri : Http.Uri} (hu : uri.Shaped) (hm : Route.classify uri.path = .media)
    {v : Url} (hv : o.target? uri = some v) :
    v.scheme = o.scheme ∧ v.server = some { host := some h, port } ∧ v.path.text = uri.path ∧
      v.query = uri.query.map (Url.encode Url.inSpecialQuerySet) ∧ v.fragment = none := by
  rw [hn.target?_eq hu (hu.media_raw hm)] at hv
  split at hv
  · rename_i hok
    obtain rfl := Option.some.inj hv
    exact ⟨rfl, rfl, hok.2, rfl, rfl⟩
  · contradiction

theorem plain_of_media {uri : Http.Uri} (hu : uri.Shaped) (hm : Route.classify uri.path = .media)
    {v : Url} (hv : o.target? uri = some v) : Http.Uri.Plain v.path.text v.query := by
  obtain ⟨hmark, -⟩ := Route.of_classify_media hm
  obtain ⟨-, -, -, hplace⟩ := hu.media_path hmark
  obtain ⟨-, -, htext, hquery, -⟩ := hn.target_of_media hu hm hv
  have hkept : Url.Segments.text (Url.readPath (.network p) uri.path) = uri.path := by
    rw [hn.target?_eq hu (hu.media_raw hm), hplace] at hv
    by_contra hne
    rw [if_neg fun hok => hne hok.2] at hv
    contradiction
  rw [hu.media_kept_iff hmark] at hkept
  rw [htext, hquery]
  refine ⟨fun c hc => Url.plain_path_char ?_, fun q hq c hc => ?_⟩
  · exact eq_false_of_ne_true fun hset => hkept.2 ⟨c, hc, Or.inr hset⟩
  · obtain ⟨q, -, rfl⟩ := Option.map_eq_some_iff.mp hq
    exact Url.plain_query_char hc

theorem text_of_media {uri : Http.Uri} (hu : uri.Shaped) (hm : Route.classify uri.path = .media)
    {v : Url} (hv : o.target? uri = some v) :
    v.text = o.base ++ v.path.text ++ Http.Uri.marked v.query := by
  obtain ⟨hscheme, hserver, -, -, hfragment⟩ := hn.target_of_media hu hm hv
  have hauthority : Url.Server.text { host := some h, port } = o.authority := by
    rw [hn.authority]
    rfl
  have hmark : "://".toList = [':', '/', '/'] := rfl
  simp [base, Url.text, Url.lead, hscheme, hserver, hauthority, hfragment, Http.Uri.marked, hmark]

/-- A target that is found for a media path can be asked for when its text is short enough
and the origin's server can be written in a request. -/
theorem canGo_iff {uri : Http.Uri} (hu : uri.Shaped) (hm : Route.classify uri.path = .media)
    {v : Url} (hv : o.target? uri = some v) :
    Errand.canGo v = true ↔
      v.text.length ≤ Http.Uri.maxLength ∧ (Http.Authority.parse o.authority).isOk = true := by
  obtain ⟨hscheme, -, hpath, -, -⟩ := hn.target_of_media hu hm hv
  have hplain := hn.plain_of_media hu hm hv
  have htext := hn.text_of_media hu hm hv
  obtain ⟨rest, hroot, -, -⟩ := hu.media_path (Route.of_classify_media hm).1
  have hhead : v.path.text.head? = some '/' := by
    rw [hpath, hroot]
    rfl
  have hhttp : v.isHttp = true := (Url.isHttp_iff v).mpr (hscheme ▸ hn.scheme)
  have hascii : ∀ c ∈ v.text, c.toNat < 128 := fun c hc => by
    rw [htext, base] at hc
    exact hplain.absolute_ascii hn.scheme (fun c hc => (hn.authority_char hc).1) hc
  have hlength : (Bytes.ofText v.text).length = v.text.length := Bytes.length_ofText hascii
  rw [Errand.canGo, hhttp, Bool.true_and, ← hlength, htext]
  exact hplain.parse_absolute_isOk hn.scheme (fun c hc => hn.authority_char hc) hhead

end Names

end MediaOrigin

end MatrixGateway
