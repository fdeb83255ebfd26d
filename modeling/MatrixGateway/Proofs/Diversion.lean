import MatrixGateway.Proofs.LongNames
import MatrixGateway.Proofs.Origins
import MatrixGateway.Proofs.Paths

/-!
# Paths for the media origin

A path without a media endpoint in it goes over the transport, and so does one
with a segment that a URL's reader takes away. Every other path has a target
at the origin, unless its text would be changed or the origin's own host cannot
be read back.
-/

set_option autoImplicit false

namespace MatrixGateway

namespace Route

theorem hasMark_iff (path : List Char) :
    mediaMarks.any (Text.has · path) = true ↔ ∃ m ∈ mediaMarks, m <:+: path := by
  rw [List.any_eq_true]
  simp only [Text.has_iff]

theorem hasDotSegment_iff (path : List Char) :
    hasDotSegment path = true ↔ ∃ p ∈ Text.pieces (fun c => c = '/' || c = '\\') path,
      Url.isSingleDot p = true ∨ Url.isDoubleDot p = true := by
  rw [hasDotSegment, List.any_eq_true]
  simp only [isDotSegment_iff]

theorem classify_eq_api_iff (path : List Char) :
    classify path = .api ↔ (∀ m ∈ mediaMarks, ¬ m <:+: path) ∨ hasDotSegment path = true := by
  have hmark := hasMark_iff path
  unfold classify
  by_cases hm : mediaMarks.any (Text.has · path) = true
  · have hex := hmark.mp hm
    have hall : ¬ ∀ m ∈ mediaMarks, ¬ m <:+: path := fun h => by
      obtain ⟨m, hmem, hin⟩ := hex
      exact h m hmem hin
    cases hd : hasDotSegment path <;> simp [hm, hall]
  · have hall : ∀ m ∈ mediaMarks, ¬ m <:+: path := fun m hmem hin => hm (hmark.mpr ⟨m, hmem, hin⟩)
    simp [eq_false_of_ne_true hm]
    exact Or.inl hall

theorem classify_marked {path : List Char} (hm : ∃ m ∈ mediaMarks, m <:+: path) :
    classify path = .api ↔ hasDotSegment path = true := by
  rw [classify_eq_api_iff, or_iff_right]
  intro hnone
  obtain ⟨m, hmem, hin⟩ := hm
  exact hnone m hmem hin

theorem of_classify_media {path : List Char} (h : classify path = .media) :
    (∃ m ∈ mediaMarks, m <:+: path) ∧ hasDotSegment path = false := by
  have hnot : ¬ classify path = .api := by
    rw [h]
    decide
  rw [classify_eq_api_iff, not_or] at hnot
  refine ⟨?_, eq_false_of_ne_true hnot.2⟩
  by_contra hnone
  exact hnot.1 fun m hmem hin => hnone ⟨m, hmem, hin⟩

end Route

theorem Http.Uri.Shaped.media_path {u : Http.Uri} (hu : u.Shaped)
    (hm : ∃ m ∈ Route.mediaMarks, m <:+: u.path) :
    ∃ rest, u.path = '/' :: rest ∧ u.rawPath = u.path ∧ u.place = u.path := by
  have hlong : 1 < u.path.length := by
    obtain ⟨m, hmem, hin⟩ := hm
    have hmarks : ∀ m ∈ Route.mediaMarks, 1 < m.length := by simp [Route.mediaMarks]
    exact Nat.lt_of_lt_of_le (hmarks m hmem) hin.length_le
  have hraw : u.rawPath ≠ [] := by
    intro hnil
    rw [Http.Uri.path, hnil] at hlong
    split at hlong <;> exact absurd hlong (by decide)
  have hpath : u.path = u.rawPath := if_neg fun h => hraw h.1
  have hplace : u.place = u.rawPath := if_neg fun h => hraw h.1
  rw [hpath] at hlong ⊢
  rcases hu.start with hnil | hslash | ⟨hstar, -⟩
  · exact absurd hnil hraw
  · cases hr : u.rawPath with
    | nil => exact absurd hr hraw
    | cons c rest =>
      rw [hr] at hslash
      obtain rfl : c = '/' := Option.some.inj hslash
      exact ⟨rest, rfl, rfl, by rw [hplace, hr]⟩
  · rw [hstar] at hlong
    exact absurd hlong (by decide)

theorem Http.Uri.Shaped.media_kept_iff {u : Http.Uri} (hu : u.Shaped)
    (hm : ∃ m ∈ Route.mediaMarks, m <:+: u.path) (p : UInt16) :
    Url.Segments.text (Url.readPath (.network p) u.path) = u.path ↔
      Route.hasDotSegment u.path = false ∧ ¬ ∃ c ∈ u.path, c = '\\' ∨ Url.inPathSet c = true := by
  obtain ⟨rest, hpath, -, -⟩ := hu.media_path hm
  rw [hpath, Url.readPath_unchanged_iff rfl rest]
  push Not
  simp only [ne_eq, Bool.not_eq_true]

namespace MediaOrigin

/-- Which paths are for the media origin, and which of them have a target there. -/
theorem media_paths_relayed {s : List Char} {u : Url} {o : MediaOrigin} {raw : Bytes}
    {uri : Http.Uri} (hs : Url.parse s = .ok u) (hh : u.isHttp = true) (ho : ofUrl u = .ok o)
    (huri : Http.Uri.parse raw = .ok uri) :
    ((∀ m ∈ Route.mediaMarks, ¬ m <:+: uri.path) → Route.classify uri.path = .api) ∧
    ((∃ m ∈ Route.mediaMarks, m <:+: uri.path) →
      (Route.classify uri.path = .api ↔
        ∃ p ∈ Text.pieces (fun c => c = '/' || c = '\\') uri.path,
          Url.isSingleDot p = true ∨ Url.isDoubleDot p = true) ∧
      (Route.classify uri.path = .api →
        Url.Segments.text (Url.readPath (Url.kind u.scheme) uri.path) ≠ uri.path)) ∧
    (Route.classify uri.path = .media →
      (o.target? uri = none ↔
        (∃ c ∈ uri.path, c = '\\' ∨ Url.inPathSet c = true) ∨
          ∃ h, u.host? = some h ∧ h.isReadable = false) ∧
      ∀ v, o.target? uri = some v → v.scheme = u.scheme ∧ v.host? = u.host? ∧
        v.port? = u.port? ∧ v.path.text = uri.path) := by
  obtain ⟨hscheme, p, h, hhost, hn⟩ := names_of_ofUrl hs hh ho
  have hu := Http.Uri.parse_shaped huri
  have hk : Url.kind u.scheme = .network p := hscheme ▸ hn.kind
  refine ⟨fun hnone => (Route.classify_eq_api_iff _).mpr (Or.inl hnone), fun hm => ?_,
    fun hmedia => ?_⟩
  · have hapi := Route.classify_marked hm
    refine ⟨hapi.trans (Route.hasDotSegment_iff _), fun hdiverted hsame => ?_⟩
    rw [hk, hu.media_kept_iff hm, hapi.mp hdiverted] at hsame
    exact absurd hsame.1 (by decide)
  · obtain ⟨hm, hdot⟩ := Route.of_classify_media hmedia
    obtain ⟨rest, hpath, hraw, hplace⟩ := hu.media_path hm
    have hstar : uri.rawPath ≠ ['*'] := by
      rw [hraw, hpath]
      rintro ⟨⟩
    have hsame : Url.Segments.text (Url.readPath (.network p) uri.place) = uri.path ↔
        ¬ ∃ c ∈ uri.path, c = '\\' ∨ Url.inPathSet c = true := by
      rw [hplace, hu.media_kept_iff hm, and_iff_right hdot]
    rw [hn.target?_eq hu hstar]
    constructor
    · rw [ite_eq_right_iff, hhost]
      simp only [reduceCtorEq, imp_false, not_and_or, hsame, not_not, Option.some.injEq,
        exists_eq_left', Bool.not_eq_true]
      exact or_comm
    · intro v hv
      split at hv
      · rename_i hok
        obtain rfl := Option.some.inj hv
        exact ⟨hscheme, hhost.symm, rfl, hok.2⟩
      · contradiction

theorem media_path_at_loopback :
    ∃ u o uri v, Url.parse "http://[::1]:81".toList = .ok u ∧ u.isHttp = true ∧ ofUrl u = .ok o ∧
      Http.Uri.parse (Bytes.ofString "/_matrix/client/v1/media/download/a/b") = .ok uri ∧
      Route.classify uri.path = .media ∧ o.target? uri = some v ∧ v.host? = u.host? ∧
      v.path.text = uri.path := by
  let server : Url.Server := { host := some (.v6 ⟨#v[0, 0, 0, 0, 0, 0, 0, 1]⟩), port := some 81 }
  let u : Url := { scheme := "http".toList, server, path := .segments [[]] }
  let o : MediaOrigin := ⟨"http".toList, "[::1]:81".toList⟩
  let uri : Http.Uri := { rawPath := "/_matrix/client/v1/media/download/a/b".toList }
  let v : Url :=
    { u with
      path := .segments
        (["_matrix", "client", "v1", "media", "download", "a", "b"].map String.toList) }
  have hs : Url.parse "http://[::1]:81".toList = .ok u := by decide +kernel
  have hh : u.isHttp = true := by decide +kernel
  have ho : ofUrl u = .ok o := by decide +kernel
  have huri : Http.Uri.parse (Bytes.ofString "/_matrix/client/v1/media/download/a/b") =
      .ok uri := by decide +kernel
  have hmedia : Route.classify uri.path = .media := by decide +kernel
  have hv : o.target? uri = some v := by decide +kernel
  obtain ⟨-, -, hrelayed⟩ := media_paths_relayed hs hh ho huri
  obtain ⟨-, hhost, -, hpath⟩ := (hrelayed hmedia).2 v hv
  exact ⟨u, o, uri, v, hs, hh, ho, huri, hmedia, hv, hhost, hpath⟩

/-- An origin with a long name has no target for a path that could stay as it is. -/
theorem media_refused_at_long_name :
    ∃ u o uri, Url.parse ("http://".toList ++
        (List.range 720).map fun i => Char.ofNat (0x4E00 + 29 * i)) = .ok u ∧
      u.isHttp = true ∧ ofUrl u = .ok o ∧
      Http.Uri.parse (Bytes.ofString "/_matrix/client/v1/media/download/a/b") = .ok uri ∧
      Route.classify uri.path = .media ∧
      (∀ c ∈ uri.path, c ≠ '\\' ∧ Url.inPathSet c = false) ∧ o.target? uri = none := by
  let s := Idna.farApart 720
  let uri : Http.Uri := { rawPath := "/_matrix/client/v1/media/download/a/b".toList }
  have hideographs : ∀ c ∈ s, Idna.isIdeograph c.toNat = true :=
    Idna.farApart_ideographs (Nat.le_refl _)
  have hlength : s.length = 720 := Idna.length_farApart 720
  have hne : s ≠ [] := List.ne_nil_of_length_pos (by rw [hlength]; decide)
  obtain ⟨u, hs, hh, hhost⟩ := Url.parse_ideographs hideographs hne (by rw [hlength]; decide)
  obtain ⟨o, ho⟩ := exists_ofUrl hs hh
  have huri : Http.Uri.parse (Bytes.ofString "/_matrix/client/v1/media/download/a/b") =
      .ok uri := by decide +kernel
  have hmedia : Route.classify uri.path = .media := by decide +kernel
  have hchars : uri.path.all (fun c => c ≠ '\\' && !Url.inPathSet c) = true := by decide +kernel
  refine ⟨u, o, uri, hs, hh, ho, huri, hmedia, fun c hc => ?_, ?_⟩
  · simpa using List.all_eq_true.mp hchars c hc
  obtain ⟨-, p, h, hnamed, hn⟩ := names_of_ofUrl hs hh ho
  have hlong : h.isReadable = false := by
    rw [hnamed] at hhost
    rw [Option.some.inj hhost]
    apply Url.Host.isReadable_marked (Idna.dot_not_mem_encode hideographs)
    have hform : 3 * 720 ≤ (Idna.Punycode.encode s).length + 66 :=
      Idna.length_encode_farApart (Nat.le_refl _)
    rw [Idna.maxRead]
    omega
  have hstar : uri.rawPath ≠ ['*'] := by decide +kernel
  rw [hn.target?_eq (Http.Uri.parse_shaped huri) hstar, hlong, if_neg (by simp)]

end MediaOrigin

end MatrixGateway
