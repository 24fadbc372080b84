/-
  Credit/Counters.lean --- what the capacity of a credit grant is for, apart from
  any table.

  A grant has a history of events: lineage of ledger entries, reservations for
  holds, and releases of what a voided hold had reserved.  Each event moves eight
  counters.  The counters after a history are its sums, and two accounting
  identities hold of them whatever the history is.
-/
import LuxLedger.Schema.Tables

set_option autoImplicit false

namespace LuxLedger.Credit

open LuxLedger.Schema

variable {ι : Type}

/-- The counters of a grant. -/
inductive Counter where
  | version
  | granted
  | reversed
  | consumed
  | compensated
  | expired
  | remaining
  | reserved
  deriving DecidableEq, Repr

/-- An event in the history of a grant, with the identifier of what caused it. -/
inductive CapacityEvent (ι : Type) where
  /-- `onHold` says whether the posting is a capture of a hold -/
  | lineage (entry : ι) (kind : CreditGrantEntryKind) (amount : Int) (onHold : Bool)
  | allocation (allocation : ι) (amount : Int)
  | release (hold : ι) (amount : Int)
  deriving DecidableEq, Repr

/-- How a lineage of one kind moves a counter; only captures free reserve. -/
def lineageDelta (kind : CreditGrantEntryKind) (amount : Int) (onHold : Bool) : Counter → Int
  | .version => 1
  | .granted => if kind = .issuance then amount else 0
  | .reversed => if kind = .reversal ∨ kind = .refund then amount else 0
  | .consumed => if kind = .consumption then amount else 0
  | .compensated => if kind = .compensation then amount else 0
  | .expired => if kind = .expiration then amount else 0
  | .remaining => if kind = .issuance ∨ kind = .compensation then amount else -amount
  | .reserved => if kind = .consumption ∧ onHold then -amount else 0

/-- How an event that only moves the reserve changes a counter. -/
def reserveDelta (amount : Int) : Counter → Int
  | .version => 1
  | .reserved => amount
  | _ => 0

namespace CapacityEvent

/-- How an event moves the counters. -/
def delta : CapacityEvent ι → Counter → Int
  | .lineage _ kind amount onHold => lineageDelta kind amount onHold
  | .allocation _ amount => reserveDelta amount
  | .release _ amount => reserveDelta (-amount)

/-- The lineage, allocation or hold that an event comes from. -/
def sourceEntry : CapacityEvent ι → Option ι
  | .lineage id _ _ _ => some id
  | _ => none

/-- The allocation that an event is about. -/
def sourceAllocation : CapacityEvent ι → Option ι
  | .allocation id _ => some id
  | _ => none

/-- The hold that an event is about. -/
def sourceHold : CapacityEvent ι → Option ι
  | .release id _ => some id
  | _ => none

@[simp] theorem delta_version (e : CapacityEvent ι) : e.delta .version = 1 := by
  cases e <;> rfl

/-- What remains is what was granted and given back less what was taken. -/
theorem delta_remaining (e : CapacityEvent ι) :
    e.delta .remaining = e.delta .granted + e.delta .compensated - e.delta .reversed -
      e.delta .consumed - e.delta .expired := by
  cases e with
  | lineage entry kind amount onHold => cases kind <;> simp [delta, lineageDelta]
  | allocation _ _ => rfl
  | release _ _ => rfl

end CapacityEvent

/-- The counters after a history. -/
def balance (history : List (CapacityEvent ι)) (c : Counter) : Int :=
  (history.map fun e => e.delta c).sum

@[simp] theorem balance_append (history more : List (CapacityEvent ι)) (c : Counter) :
    balance (history ++ more) c = balance history c + balance more c := by
  simp [balance]

@[simp] theorem balance_singleton (e : CapacityEvent ι) (c : Counter) :
    balance [e] c = e.delta c := by
  simp [balance]

theorem balance_cons (e : CapacityEvent ι) (rest : List (CapacityEvent ι)) (c : Counter) :
    balance (e :: rest) c = e.delta c + balance rest c := by
  simp [balance]

/-- The order of the events does not matter to the counters. -/
theorem balance_perm {history history' : List (CapacityEvent ι)} (h : history.Perm history')
    (c : Counter) : balance history c = balance history' c :=
  (h.map _).sum_eq

/-- Versions number the events. -/
theorem balance_version (history : List (CapacityEvent ι)) :
    balance history .version = history.length := by
  induction history with
  | nil => rfl
  | cons e rest ih =>
      rw [balance_cons, ih, CapacityEvent.delta_version, List.length_cons]
      push_cast
      ring

/-- The identity of `credit_grant_capacity_versions_remaining_chk` holds of every
history: the constraint never decides anything. -/
theorem balance_remaining (history : List (CapacityEvent ι)) :
    balance history .remaining = balance history .granted + balance history .compensated -
      balance history .reversed - balance history .consumed - balance history .expired := by
  induction history with
  | nil => rfl
  | cons e rest ih =>
      have he := e.delta_remaining
      simp only [balance_cons]
      omega

/-- The counters after the events of a table: the sum over its rows. -/
theorem balance_map_filter {α : Type} (rows : List α) (p : α → Bool)
    (event : α → CapacityEvent ι) (c : Counter) :
    balance ((rows.filter p).map event) c =
      Relational.sumWhere rows p fun r => (event r).delta c := by
  simp [balance, Relational.sumWhere, Function.comp_def]

end LuxLedger.Credit
