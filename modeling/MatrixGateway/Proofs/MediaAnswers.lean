import MatrixGateway.Proofs.MediaRequests
import MatrixGateway.Proofs.Replies

/-!
# The origin's answers as the client gets them

An answer from the media origin goes on to the client: its status, its
fields but for those of one hop, and its body, which ends in an error when
the origin's body was cut short. Where no answer can be read, the client is
told so with a bare status.
-/

set_option autoImplicit false

namespace MatrixGateway

namespace MediaOrigin

variable {o : MediaOrigin} {peers : Peers} {r : Http.Request}

end MediaOrigin

namespace Router

variable (r : Http.Request) (fresh : Bytes)

theorem exists_id : ∃ id, (named r fresh).headers.get? .requestId = some id := by
  rw [Http.Headers.get?_eq_head?, getAll_named]
  by_cases hid : r.headers.getAll .requestId = []
  · exact ⟨fresh, by rw [if_pos ⟨rfl, hid⟩]; rfl⟩
  · rw [if_neg fun h => hid h.2]
    exact Option.isSome_iff_exists.mp (List.isSome_head?.mpr hid)

variable {r fresh} {id : Bytes} (hid : (named r fresh).headers.get? .requestId = some id)
  (hm : r.method ≠ .head ∧ r.method ≠ .connect)

include hid hm

omit hid hm in
theorem media_answer (router : Router) (peers : Peers) (originDelay : Nat)
    (hroute : route r = .media) :
    (router.reaction peers fresh r originDelay).answer =
      (router.media.handle peers (named r fresh)).answer := by
  unfold reaction Router.handle
  rw [route_named, hroute]
  dsimp only
  split <;> rfl

def found : Http.Wire.Message where
  interims := []
  opening :=
    { version := 1, status := 302, reason := Bytes.ofString "Found"
      lines := [⟨Bytes.ofString "Connection", Bytes.ofString "x-hop"⟩,
        ⟨Bytes.ofString "X-Hop", Bytes.ofString "1"⟩,
        ⟨Bytes.ofString "Location", Bytes.ofString " /b"⟩,
        ⟨Bytes.ofString "Content-Length", Bytes.ofString " 2"⟩] }
  parcel := .sized (Bytes.ofString "ok")

end Router

end MatrixGateway
