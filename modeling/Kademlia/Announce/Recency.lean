/-!
# Lists by recency of use

Keys with values, the most recently used key first.  A list of bounded length
loses the key that was not used for longest when another one comes.
-/

namespace Kademlia.Recency

variable {κ ν : Type} [DecidableEq κ]

/-- Entries without the one of a key. -/
def erase (key : κ) (entries : List (κ × ν)) : List (κ × ν) :=
  entries.filter fun (other, _) => other ≠ key

/-- Uses a key with a new value, among at most `capacity` entries. -/
def put (capacity : Nat) (key : κ) (value : ν) (entries : List (κ × ν)) : List (κ × ν) :=
  ((key, value) :: erase key entries).take capacity

/-- Uses a key that is there. -/
def promote (key : κ) (entries : List (κ × ν)) : List (κ × ν) :=
  match entries.lookup key with
  | some value => (key, value) :: erase key entries
  | none => entries

theorem length_put_le (capacity : Nat) (key : κ) (value : ν) (entries : List (κ × ν)) :
    (put capacity key value entries).length ≤ capacity :=
  List.length_take_le _ _

theorem mem_erase {key : κ} {entries : List (κ × ν)} {entry : κ × ν} :
    entry ∈ erase key entries ↔ entry ∈ entries ∧ entry.1 ≠ key := by
  simp [erase]

@[simp]
theorem lookup_put {capacity : Nat} (room : 0 < capacity) (key : κ) (value : ν)
    (entries : List (κ × ν)) : (put capacity key value entries).lookup key = some value := by
  cases capacity with
  | zero => cases room
  | succ capacity => simp [put]

@[simp]
theorem promote_nil (key : κ) : promote key ([] : List (κ × ν)) = [] :=
  rfl

end Kademlia.Recency
