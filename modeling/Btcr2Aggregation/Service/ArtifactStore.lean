import Btcr2Aggregation.Library.ByteText
import Btcr2Aggregation.Library.InsertionMap

/-!
# The in-memory artifact store

A namespace for each kind of artifact, keyed by lowercase hexadecimal.  Each
operation normalises its key first and rejects one that is not hexadecimal.
-/

namespace Btcr2Aggregation

open InsertionMap

inductive ArtifactKind where
  | announcement
  | proof
  | update
  | genesis
  | acceptance
  deriving DecidableEq, Repr

section Keys

/-! ## Keys -/

/-- `/^[0-9a-f]+$/`. -/
def matchesHexKey (key : String) : Bool :=
  !key.toList.isEmpty && key.toList.all ByteText.isHexDigit

def isHexKey (key : String) : Bool :=
  matchesHexKey key.toLower

def normalizeHexKey (key : String) : Except String String :=
  let lower := key.toLower
  if matchesHexKey lower then
    .ok lower
  else
    .error
      ("artifact key must be non-empty lowercase hex, got \"" ++ key ++ "\"")

/-- A key that is accepted is its own lowercase form. -/
theorem normalizeHexKey_eq_ok {hashHex key : String}
    (accepted : normalizeHexKey hashHex = .ok key) :
    key = hashHex.toLower ∧ matchesHexKey key = true := by
  unfold normalizeHexKey at accepted
  by_cases valid : matchesHexKey hashHex.toLower = true
  · rw [if_pos valid] at accepted
    cases accepted
    exact ⟨rfl, valid⟩
  · rw [if_neg valid] at accepted
    cases accepted

theorem isHexKey_of_matchesHexKey {key : String}
    (normal : matchesHexKey key = true) : isHexKey key = true := by
  have digits := (Bool.and_eq_true _ _).mp normal
  rw [isHexKey, ByteText.toLower_eq_self digits.2]
  exact normal

/-- A key in lower case is its own. -/
theorem normalizeHexKey_of_matchesHexKey {key : String}
    (normal : matchesHexKey key = true) : normalizeHexKey key = .ok key := by
  have digits := (Bool.and_eq_true _ _).mp normal
  rw [normalizeHexKey, ByteText.toLower_eq_self digits.2, if_pos normal]

theorem matchesHexKey_hex {bytes : Bytes} (nonempty : bytes ≠ []) :
    matchesHexKey (ByteText.hex bytes) = true := by
  rw [matchesHexKey, Bool.and_eq_true, List.all_eq_true]
  refine ⟨?_, fun character present => (ByteText.mem_hex present).1⟩
  cases bytes with
  | nil => exact absurd rfl nonempty
  | cons byte rest => simp [ByteText.hex, ByteText.hexDigits]

/-- The hexadecimal of a nonempty byte string is its own key. -/
theorem normalizeHexKey_hex {bytes : Bytes} (nonempty : bytes ≠ []) :
    normalizeHexKey (ByteText.hex bytes) = .ok (ByteText.hex bytes) :=
  normalizeHexKey_of_matchesHexKey (matchesHexKey_hex nonempty)

end Keys

section Memory

/-! ## The store -/

/-- `MemoryArtifactStore`. -/
structure MemoryArtifactStore (Value : Type) where
  maps : ArtifactKind → InsertionMap String Value

namespace MemoryArtifactStore

variable {Value : Type}

/-- A store nothing was put into. -/
def empty : MemoryArtifactStore Value where
  maps _ := ∅

def put
    (store : MemoryArtifactStore Value) (kind : ArtifactKind)
    (hashHex : String) (value : Value) :
    Except String (MemoryArtifactStore Value) := do
  let key ← normalizeHexKey hashHex
  return {
    maps := Function.update store.maps kind ((store.maps kind).set key value) }

def get
    (store : MemoryArtifactStore Value) (kind : ArtifactKind)
    (hashHex : String) : Except String (Option Value) := do
  let key ← normalizeHexKey hashHex
  return (store.maps kind).lookup key

def has
    (store : MemoryArtifactStore Value) (kind : ArtifactKind)
    (hashHex : String) : Except String Bool := do
  let key ← normalizeHexKey hashHex
  return decide (key ∈ store.maps kind)

def delete
    (store : MemoryArtifactStore Value) (kind : ArtifactKind)
    (hashHex : String) : Except String (MemoryArtifactStore Value) := do
  let key ← normalizeHexKey hashHex
  return {
    maps := Function.update store.maps kind ((store.maps kind).erase key) }

/-- The keys and values of a namespace, oldest key first. -/
def entries (store : MemoryArtifactStore Value) (kind : ArtifactKind) :
    List (String × Value) :=
  (store.maps kind).entries.reverse.map fun entry => (entry.1, entry.2)

/-- The values of a namespace, oldest key first. -/
def values (store : MemoryArtifactStore Value) (kind : ArtifactKind) :
    List Value :=
  (store.maps kind).entries.reverse.map Sigma.snd

theorem mem_values_iff
    {store : MemoryArtifactStore Value} {kind : ArtifactKind} {value : Value} :
    value ∈ store.values kind ↔
      ∃ key, (store.maps kind).lookup key = some value := by
  simp only [values, List.mem_map, List.mem_reverse, Sigma.exists,
    exists_eq_right, AList.mem_lookup_iff.symm, Option.mem_def]

theorem get_hex
    (store : MemoryArtifactStore Value) (kind : ArtifactKind) {bytes : Bytes}
    (nonempty : bytes ≠ []) :
    store.get kind (ByteText.hex bytes) =
      .ok ((store.maps kind).lookup (ByteText.hex bytes)) := by
  rw [get, normalizeHexKey_hex nonempty]
  rfl

end MemoryArtifactStore

end Memory

end Btcr2Aggregation
