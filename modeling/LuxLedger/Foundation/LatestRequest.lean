/-
  Foundation/LatestRequest.lean --- requests of which only the latest one counts.

  A counter is raised at the start of each request, and the request remembers its value.
  An answer counts as long as the counter still has that value.  What holds of the request
  that was started last, or abandoned, therefore holds of the one whose answer counts.
-/
import Mathlib.Data.List.Basic

set_option autoImplicit false

namespace LuxLedger.Foundation

/-- The counter, and the requests under way with the values that they remember. -/
structure Requests (κ : Type) where
  version : Nat
  pending : List (Nat × κ)
  deriving DecidableEq, Repr

namespace Requests

variable {κ : Type}

/-- No request has been made. -/
def none : Requests κ := ⟨0, []⟩

/-- Raise the counter and send a request under it. -/
def start (requests : Requests κ) (k : κ) : Requests κ :=
  ⟨requests.version + 1, requests.pending ++ [(requests.version + 1, k)]⟩

/-- Raise the counter without a request. -/
def abandon (requests : Requests κ) : Requests κ :=
  { requests with version := requests.version + 1 }

/-- The i-th request is over. -/
def settle (requests : Requests κ) (i : Nat) : Requests κ :=
  { requests with pending := requests.pending.eraseIdx i }

/-- The request whose answer would count is of the kind. -/
structure Latest (kind : κ → Prop) (requests : Requests κ) : Prop where
  le : ∀ p ∈ requests.pending, p.1 ≤ requests.version
  kind : ∀ p ∈ requests.pending, p.1 = requests.version → kind p.2

variable {requests : Requests κ} {kind kind' : κ → Prop}

theorem latest_none : (none : Requests κ).Latest kind :=
  ⟨fun _ hp => absurd hp List.not_mem_nil, fun _ hp => absurd hp List.not_mem_nil⟩

/-- What was started before does not count any more. -/
theorem Latest.start (h : requests.Latest kind) {k : κ} (hk : kind' k) :
    (requests.start k).Latest kind' := by
  constructor
  · intro p hp
    rcases List.mem_append.mp hp with hp | hp
    · exact Nat.le_succ_of_le (h.le p hp)
    · rw [List.mem_singleton.mp hp]
      exact Nat.le_refl _
  · intro p hp hversion
    rcases List.mem_append.mp hp with hp | hp
    · exact absurd (hversion ▸ h.le p hp) (Nat.not_succ_le_self _)
    · rw [List.mem_singleton.mp hp]
      exact hk

theorem Latest.abandon (h : requests.Latest kind) : requests.abandon.Latest kind' :=
  ⟨fun p hp => Nat.le_succ_of_le (h.le p hp),
    fun p hp hversion => absurd (hversion ▸ h.le p hp) (Nat.not_succ_le_self _)⟩

theorem Latest.settle (h : requests.Latest kind) (i : Nat) : (requests.settle i).Latest kind :=
  ⟨fun p hp => h.le p (List.eraseIdx_subset hp),
    fun p hp => h.kind p (List.eraseIdx_subset hp)⟩

theorem Latest.mono (h : requests.Latest kind) (himp : ∀ k, kind k → kind' k) :
    requests.Latest kind' :=
  ⟨h.le, fun p hp hversion => himp p.2 (h.kind p hp hversion)⟩

/-- The request that counts is of the kind. -/
theorem Latest.of_getElem? (h : requests.Latest kind) {i : Nat} {k : κ}
    (hi : requests.pending[i]? = some (requests.version, k)) : kind k :=
  h.kind _ (List.mem_of_getElem? hi) rfl

end Requests

end LuxLedger.Foundation
