import MatrixGateway.Route

/-!
# Metrics

Counters for finished requests, by route and status, and for requests that
the transport could not deliver, by kind. A counter that was never raised
is not shown.
-/

set_option autoImplicit false

namespace MatrixGateway

structure Tally (α : Type) where
  counts : List (α × Nat) := []
  deriving DecidableEq

namespace Tally

def bumpIn {α : Type} [DecidableEq α] (a : α) : List (α × Nat) → List (α × Nat)
  | [] => [(a, 1)]
  | (b, n) :: rest => if b = a then (b, n + 1) :: rest else (b, n) :: bumpIn a rest

def bump {α : Type} [DecidableEq α] (t : Tally α) (a : α) : Tally α := ⟨bumpIn a t.counts⟩

def count {α : Type} [DecidableEq α] (t : Tally α) (a : α) : Nat :=
  ((t.counts.find? (·.1 = a)).map (·.2)).getD 0

theorem count_bump {α : Type} [DecidableEq α] (t : Tally α) (a b : α) :
    (t.bump a).count b = t.count b + if a = b then 1 else 0 := by
  obtain ⟨counts⟩ := t
  simp only [count, bump]
  induction counts with
  | nil => by_cases h : a = b <;> simp [bumpIn, h]
  | cons c rest ih =>
    obtain ⟨x, n⟩ := c
    by_cases hx : x = a
    · subst hx
      by_cases hb : x = b <;> simp [bumpIn, hb]
    · by_cases hb : x = b
      · subst hb
        simp [bumpIn, hx, Ne.symm hx]
      · simpa [bumpIn, hx, hb] using ih

end Tally

structure Metrics where
  requests : Tally (Route × Nat) := {}
  durations : Tally Route := {}
  failures : Tally String := {}
  deriving DecidableEq

namespace Metrics

def finished (m : Metrics) (route : Route) (status : Nat) : Metrics :=
  { m with requests := m.requests.bump (route, status), durations := m.durations.bump route }

def undelivered (m : Metrics) (kind : String) : Metrics :=
  { m with failures := m.failures.bump kind }

def label (name value : String) : String := name ++ "=\"" ++ value ++ "\""

def line (name : String) (labels : List String) (n : Nat) : String :=
  name ++ "\x7b" ++ ",".intercalate labels ++ "\x7d " ++ toString n

def requestLine : (Route × Nat) × Nat → String
  | ((route, status), n) =>
    line "gateway_requests_total" [label "route" route.name, label "status" (toString status)] n

def durationLine : Route × Nat → String
  | (route, n) => line "gateway_request_duration_seconds_count" [label "route" route.name] n

def failureLine : String × Nat → String
  | (kind, n) => line "gateway_bridge_failures_total" [label "kind" kind] n

def lines (m : Metrics) : List String :=
  (m.requests.counts.map requestLine ++ m.durations.counts.map durationLine ++
    m.failures.counts.map failureLine).mergeSort (· ≤ ·)

end Metrics

end MatrixGateway
