import Mathlib.Data.List.AList
import Mathlib.Logic.Function.Iterate

/-!
# Insertion-ordered maps with oldest-first eviction

The keyed collections of a JavaScript program iterate in insertion order: a
`set` of a present key keeps its place, a `delete` followed by a `set` moves it
to the end.  They are read here as association lists with distinct keys whose
*head* is the newest entry, so `AList.insert` is a delete-then-set and
`AList.erase` is a delete.

The only operation Mathlib does not have is the eviction loop of a bounded
table.  `evictPast` runs it, and `remember` is a delete-then-set followed by
that loop.
-/

namespace Btcr2Aggregation

universe u v

variable {Key : Type u} {Value : Type v}

/-- A map that remembers the order in which its keys were written, newest
entry first. -/
abbrev InsertionMap (Key : Type u) (Value : Type v) :=
  AList (fun _ : Key => Value)

namespace InsertionMap

/-- The number of keys. -/
def size (table : InsertionMap Key Value) : Nat :=
  table.keys.length

/-- The key written longest ago, the one an iteration yields first. -/
def oldest? (table : InsertionMap Key Value) : Option Key :=
  table.keys.getLast?

/-- Delete the key written longest ago. -/
def dropOldest (table : InsertionMap Key Value) : InsertionMap Key Value where
  entries := table.entries.dropLast
  nodupKeys := table.nodupKeys.sublist (List.dropLast_sublist _)

/-- `while (map.size > cap) map.delete(oldest)`: one round for every key past
the cap. -/
def evictPast (cap : Nat) (table : InsertionMap Key Value) :
    InsertionMap Key Value :=
  dropOldest^[size table - cap] table

section Lookup

/-! ## Keys and what is found under them -/

variable [DecidableEq Key]

theorem mem_of_lookup
    {table : InsertionMap Key Value} {key : Key} {value : Value}
    (found : table.lookup key = some value) :
    key ∈ table :=
  AList.lookup_isSome.mp (Option.isSome_iff_exists.mpr ⟨value, found⟩)

theorem exists_lookup_of_mem
    {table : InsertionMap Key Value} {key : Key} (held : key ∈ table) :
    ∃ value, table.lookup key = some value :=
  Option.isSome_iff_exists.mp (AList.lookup_isSome.mpr held)

end Lookup

section Eviction

/-! ## What the eviction loop keeps -/

theorem keys_dropOldest (table : InsertionMap Key Value) :
    (dropOldest table).keys = table.keys.dropLast := by
  simp [dropOldest, AList.keys, List.keys, List.map_dropLast]

theorem keys_iterate_dropOldest
    (rounds : Nat) (table : InsertionMap Key Value) :
    (dropOldest^[rounds] table).keys =
      table.keys.take (size table - rounds) := by
  induction rounds with
  | zero =>
      simp [size]
  | succ rounds inductionHypothesis =>
      rw [Function.iterate_succ_apply', keys_dropOldest,
        inductionHypothesis, List.dropLast_eq_take, List.take_take]
      congr 1
      simp only [List.length_take, size]
      omega

/-- The loop keeps exactly the newest `cap` keys. -/
theorem keys_evictPast (cap : Nat) (table : InsertionMap Key Value) :
    (evictPast cap table).keys = table.keys.take cap := by
  rw [evictPast, keys_iterate_dropOldest]
  by_cases fits : size table ≤ cap
  · have noRounds : size table - (size table - cap) = size table := by
      omega
    rw [noRounds, List.take_of_length_le fits]
    exact List.take_of_length_le (Nat.le_refl _)
  · congr 1
    omega

theorem size_evictPast_le (cap : Nat) (table : InsertionMap Key Value) :
    size (evictPast cap table) ≤ cap := by
  rw [size, keys_evictPast, List.length_take]
  exact Nat.min_le_left _ _

/-- A table within its cap is left alone. -/
theorem evictPast_of_size_le
    {cap : Nat} {table : InsertionMap Key Value}
    (fits : size table ≤ cap) :
    evictPast cap table = table := by
  have noRounds : size table - cap = 0 := by
    omega
  rw [evictPast, noRounds]
  rfl

theorem mem_of_mem_evictPast
    {cap : Nat} {table : InsertionMap Key Value} {key : Key}
    (member : key ∈ evictPast cap table) :
    key ∈ table := by
  rw [AList.mem_keys, keys_evictPast] at member
  exact List.mem_of_mem_take member

theorem entries_iterate_dropOldest_sublist
    (rounds : Nat) (table : InsertionMap Key Value) :
    (dropOldest^[rounds] table).entries.Sublist table.entries := by
  induction rounds with
  | zero =>
      exact List.Sublist.refl _
  | succ rounds inductionHypothesis =>
      rw [Function.iterate_succ_apply']
      exact (List.dropLast_sublist _).trans inductionHypothesis

variable [DecidableEq Key]

/-- The keys the loop drops. -/
def droppedPast (cap : Nat) (table : InsertionMap Key Value) : List Key :=
  table.keys.filter fun key => key ∉ evictPast cap table

theorem mem_droppedPast
    {cap : Nat} {table : InsertionMap Key Value} {key : Key} :
    key ∈ droppedPast cap table ↔ key ∈ table ∧ key ∉ evictPast cap table := by
  rw [droppedPast, List.mem_filter, decide_eq_true_iff]
  exact Iff.rfl

theorem nodup_droppedPast (cap : Nat) (table : InsertionMap Key Value) :
    (droppedPast cap table).Nodup :=
  List.Nodup.filter _ (AList.keys_nodup table)

/-- A key the loop keeps, keeps its value. -/
theorem lookup_of_lookup_evictPast
    {cap : Nat} {table : InsertionMap Key Value} {key : Key} {value : Value}
    (found : (evictPast cap table).lookup key = some value) :
    table.lookup key = some value := by
  have entry :=
    AList.mem_lookup_iff.mp (Option.mem_def.mpr found)
  exact AList.mem_lookup_iff.mpr
    ((entries_iterate_dropOldest_sublist _ table).subset entry)

theorem lookup_evictPast_of_mem
    {cap : Nat} {table : InsertionMap Key Value} {key : Key}
    (member : key ∈ evictPast cap table) :
    (evictPast cap table).lookup key = table.lookup key := by
  obtain ⟨value, found⟩ :=
    exists_lookup_of_mem member
  rw [found, lookup_of_lookup_evictPast found]

theorem droppedPast_of_size_le
    {cap : Nat} {table : InsertionMap Key Value} (fits : size table ≤ cap) :
    droppedPast cap table = [] := by
  rw [droppedPast, evictPast_of_size_le fits, List.filter_eq_nil_iff]
  intro key member
  simpa using AList.mem_keys.mpr member

/-- One key too many: the oldest is dropped. -/
theorem droppedPast_of_size_succ
    {cap : Nat} {table : InsertionMap Key Value} (full : size table = cap + 1) :
    ∃ oldest ∈ table, droppedPast cap table = [oldest] := by
  have nonempty : table.keys ≠ [] :=
    List.ne_nil_of_length_eq_add_one full
  have split := List.dropLast_concat_getLast nonempty
  have kept : (evictPast cap table).keys = table.keys.dropLast := by
    rw [keys_evictPast, List.dropLast_eq_take]
    congr 1
    rw [size] at full
    omega
  have distinct := AList.keys_nodup table
  rw [← split, List.nodup_append] at distinct
  refine ⟨table.keys.getLast nonempty, List.getLast_mem nonempty, ?_⟩
  have stays :
      ∀ key, key ∈ evictPast cap table ↔ key ∈ table.keys.dropLast := by
    intro key
    rw [AList.mem_keys, kept]
  have dropped :
      droppedPast cap table =
        (table.keys.dropLast ++ [table.keys.getLast nonempty]).filter
          fun key => key ∉ evictPast cap table := by
    rw [split, droppedPast]
  rw [dropped, List.filter_append]
  have none :
      (table.keys.dropLast.filter fun key => key ∉ evictPast cap table) =
        [] := by
    rw [List.filter_eq_nil_iff]
    intro key member
    simpa using (stays key).mpr member
  have last : table.keys.getLast nonempty ∉ evictPast cap table := by
    rw [stays]
    intro again
    exact distinct.2.2 _ again _ (List.mem_singleton_self _) rfl
  rw [none, List.nil_append, List.filter_singleton]
  simp [last]

end Eviction

section Set

/-! ## Writes in place -/

variable [DecidableEq Key]

/-- `map.set(key, value)`: a present key keeps its place in the order, a new
one goes to the end. -/
def set (table : InsertionMap Key Value) (key : Key) (value : Value) :
    InsertionMap Key Value :=
  if key ∈ table then table.replace key value else table.insert key value

@[simp]
theorem mem_set
    {table : InsertionMap Key Value} {key other : Key} {value : Value} :
    other ∈ set table key value ↔ other = key ∨ other ∈ table := by
  rw [set]
  split
  · next present =>
      rw [AList.mem_replace]
      constructor
      · exact Or.inr
      · rintro (rfl | member)
        · exact present
        · exact member
  · exact AList.mem_insert table

/-- A new key becomes the newest. -/
theorem keys_set_of_notMem
    {table : InsertionMap Key Value} {key : Key} (value : Value)
    (absent : key ∉ table) :
    (set table key value).keys = key :: table.keys := by
  rw [set, if_neg absent, AList.keys_insert,
    List.erase_of_not_mem (fun member => absent (AList.mem_keys.mpr member))]

theorem size_set_of_mem
    {table : InsertionMap Key Value} {key : Key} (value : Value)
    (present : key ∈ table) : size (set table key value) = size table := by
  rw [set, if_pos present, size, AList.keys_replace, size]

theorem size_set_of_notMem
    {table : InsertionMap Key Value} {key : Key} (value : Value)
    (absent : key ∉ table) : size (set table key value) = size table + 1 := by
  rw [size, keys_set_of_notMem value absent, List.length_cons, size]

private theorem kreplace_cons_self
    (key : Key) (value held : Value) (rest : List (Sigma fun _ : Key => Value)) :
    List.kreplace key value (⟨key, held⟩ :: rest) = ⟨key, value⟩ :: rest :=
  List.lookmap_cons_some _ _ (dif_pos rfl)

private theorem kreplace_cons_of_ne
    {key head : Key} (value held : Value)
    (rest : List (Sigma fun _ : Key => Value)) (different : key ≠ head) :
    List.kreplace key value (⟨head, held⟩ :: rest) =
      ⟨head, held⟩ :: rest.kreplace key value :=
  List.lookmap_cons_none _ _ (dif_neg different)

private theorem dlookup_kreplace
    (key other : Key) (value : Value)
    (entries : List (Sigma fun _ : Key => Value)) :
    (entries.kreplace key value).dlookup other =
      if other = key ∧ key ∈ entries.keys then some value
      else entries.dlookup other := by
  induction entries with
  | nil =>
      simp [List.kreplace]
  | cons entry rest inductionHypothesis =>
      obtain ⟨head, held⟩ := entry
      by_cases written : key = head
      · subst written
        rw [kreplace_cons_self]
        by_cases same : other = key
        · subst same
          simp
        · rw [List.dlookup_cons_ne _ _ same, List.dlookup_cons_ne _ _ same,
            if_neg fun both => same both.1]
      · rw [kreplace_cons_of_ne value held rest written]
        by_cases atHead : other = head
        · subst atHead
          simp [Ne.symm written]
        · rw [List.dlookup_cons_ne _ _ atHead, List.dlookup_cons_ne _ _ atHead,
            inductionHypothesis]
          simp [written]

@[simp]
theorem lookup_set_self
    (table : InsertionMap Key Value) (key : Key) (value : Value) :
    (set table key value).lookup key = some value := by
  rw [set]
  split
  · next present =>
      rw [AList.lookup, AList.replace, dlookup_kreplace]
      exact if_pos ⟨rfl, present⟩
  · exact AList.lookup_insert table

@[simp]
theorem lookup_set_of_ne
    {table : InsertionMap Key Value} {key other : Key} {value : Value}
    (different : other ≠ key) :
    (set table key value).lookup other = table.lookup other := by
  rw [set]
  split
  · rw [AList.lookup, AList.replace, dlookup_kreplace, if_neg]
    · rfl
    · exact fun same => different same.1
  · exact AList.lookup_insert_ne different

/-- Rewrite the value of a present key. -/
def modify
    (table : InsertionMap Key Value) (key : Key) (change : Value → Value) :
    InsertionMap Key Value :=
  match table.lookup key with
  | some value => set table key (change value)
  | none => table

@[simp]
theorem mem_modify
    {table : InsertionMap Key Value} {key other : Key}
    {change : Value → Value} :
    other ∈ modify table key change ↔ other ∈ table := by
  cases found : table.lookup key with
  | none => simp [modify, found]
  | some value =>
      have present : key ∈ table :=
        mem_of_lookup found
      simp only [modify, found, mem_set]
      constructor
      · rintro (rfl | member)
        · exact present
        · exact member
      · exact Or.inr

@[simp]
theorem lookup_modify_self
    (table : InsertionMap Key Value) (key : Key) (change : Value → Value) :
    (modify table key change).lookup key = (table.lookup key).map change := by
  cases found : table.lookup key with
  | none => simp [modify, found]
  | some value => simp [modify, found]

@[simp]
theorem lookup_modify_of_ne
    {table : InsertionMap Key Value} {key other : Key}
    {change : Value → Value} (different : other ≠ key) :
    (modify table key change).lookup other = table.lookup other := by
  cases found : table.lookup key with
  | none => simp [modify, found]
  | some value => simp [modify, found, different]

theorem size_modify
    (table : InsertionMap Key Value) (key : Key) (change : Value → Value) :
    size (modify table key change) = size table := by
  cases found : table.lookup key with
  | none => simp only [modify, found]
  | some value =>
      simp only [modify, found]
      exact size_set_of_mem _ (mem_of_lookup found)

theorem lookup_modify
    (table : InsertionMap Key Value) (key other : Key)
    (change : Value → Value) :
    (modify table key change).lookup other =
      (table.lookup other).map fun value =>
        if other = key then change value else value := by
  by_cases same : other = key
  · subst same
    simp
  · rw [lookup_modify_of_ne same]
    simp [same]

end Set

section Remember

/-! ## Bounded writes -/

variable [DecidableEq Key]

/-- Delete-then-set, then evict the oldest keys past the cap: the write every
bounded table uses. -/
def remember
    (cap : Nat) (table : InsertionMap Key Value)
    (key : Key) (value : Value) : InsertionMap Key Value :=
  evictPast cap (table.insert key value)

theorem size_insert_le
    (table : InsertionMap Key Value) (key : Key) (value : Value) :
    size (table.insert key value) ≤ size table + 1 := by
  rw [size, AList.keys_insert, List.length_cons, size]
  exact Nat.succ_le_succ List.length_erase_le

theorem size_erase_le
    (table : InsertionMap Key Value) (key : Key) :
    size (AList.erase key table) ≤ size table := by
  rw [size, AList.keys_erase, size]
  exact List.length_erase_le

theorem erase_of_notMem
    {table : InsertionMap Key Value} {key : Key} (absent : key ∉ table) :
    AList.erase key table = table :=
  AList.ext (List.kerase_of_notMem_keys absent)

theorem size_insert_of_mem
    {table : InsertionMap Key Value} {key : Key} (value : Value)
    (present : key ∈ table) : size (table.insert key value) = size table := by
  have member : key ∈ table.keys := AList.mem_keys.mp present
  have positive := List.length_pos_of_mem member
  rw [size, AList.keys_insert, List.length_cons,
    List.length_erase_of_mem member, size]
  omega

theorem size_insert_of_notMem
    {table : InsertionMap Key Value} {key : Key} (value : Value)
    (absent : key ∉ table) :
    size (table.insert key value) = size table + 1 := by
  rw [size, AList.keys_insert, List.length_cons,
    List.erase_of_not_mem (mt AList.mem_keys.mpr absent), size]

theorem size_erase_of_mem
    {table : InsertionMap Key Value} {key : Key} (present : key ∈ table) :
    size (table.erase key) + 1 = size table := by
  have member : key ∈ table.keys := AList.mem_keys.mp present
  have positive := List.length_pos_of_mem member
  rw [size, AList.keys_erase, List.length_erase_of_mem member, size]
  omega

/-- What is found after a delete was there before. -/
theorem lookup_of_lookup_erase
    {table : InsertionMap Key Value} {erased key : Key} {value : Value}
    (found : (table.erase erased).lookup key = some value) :
    table.lookup key = some value := by
  have different : key ≠ erased := by
    rintro rfl
    rw [AList.lookup_erase] at found
    cases found
  rw [AList.lookup_erase_ne different] at found
  exact found

theorem size_remember_le
    (cap : Nat) (table : InsertionMap Key Value)
    (key : Key) (value : Value) :
    size (remember cap table key value) ≤ cap :=
  size_evictPast_le cap _

/-- With room for one more key, a bounded write is a plain one. -/
theorem remember_of_size_lt
    {cap : Nat} {table : InsertionMap Key Value}
    (room : size table < cap) (key : Key) (value : Value) :
    remember cap table key value = table.insert key value :=
  evictPast_of_size_le
    (Nat.le_trans (size_insert_le table key value) room)

theorem lookup_of_lookup_remember
    {cap : Nat} {table : InsertionMap Key Value} {key other : Key}
    {value found : Value}
    (lookup : (remember cap table key value).lookup other = some found) :
    (table.insert key value).lookup other = some found :=
  lookup_of_lookup_evictPast lookup

/-- What a bounded write leaves: the value written, and others as they were. -/
theorem lookup_remember_cases
    {cap : Nat} {table : InsertionMap Key Value} {key other : Key}
    {value found : Value}
    (lookup : (remember cap table key value).lookup other = some found) :
    (other = key ∧ found = value) ∨
      (other ≠ key ∧ table.lookup other = some found) := by
  have written := lookup_of_lookup_remember lookup
  by_cases same : other = key
  · subst same
    rw [AList.lookup_insert] at written
    exact Or.inl ⟨rfl, (Option.some.inj written).symm⟩
  · rw [AList.lookup_insert_ne same] at written
    exact Or.inr ⟨same, written⟩

theorem mem_of_mem_remember
    {cap : Nat} {table : InsertionMap Key Value} {key other : Key}
    {value : Value}
    (member : other ∈ remember cap table key value) :
    other = key ∨ other ∈ table :=
  (AList.mem_insert table).mp (mem_of_mem_evictPast member)

/-- The key just written is the newest one, so a positive cap keeps it. -/
theorem lookup_remember_self
    {cap : Nat} (positive : 0 < cap)
    (table : InsertionMap Key Value) (key : Key) (value : Value) :
    (remember cap table key value).lookup key = some value := by
  have member : key ∈ remember cap table key value := by
    rw [remember, AList.mem_keys, keys_evictPast, AList.keys_insert]
    obtain ⟨room, rfl⟩ : ∃ room, cap = room + 1 :=
      ⟨cap - 1, by omega⟩
    exact List.mem_cons_self
  rw [remember, lookup_evictPast_of_mem member, AList.lookup_insert]

/-- A bounded write of an absent key into a full table forgets the oldest key
only. -/
theorem lookup_remember_of_ne
    {cap : Nat} {table : InsertionMap Key Value} {key other : Key}
    (value : Value)
    (absent : key ∉ table) (within : size table ≤ cap)
    (different : other ≠ key)
    (kept : size table < cap ∨ oldest? table ≠ some other) :
    (remember cap table key value).lookup other = table.lookup other := by
  rcases kept with room | notOldest
  · rw [remember_of_size_lt room, AList.lookup_insert_ne different]
  · by_cases member : other ∈ table
    · have stays : other ∈ remember cap table key value := by
        rw [remember, AList.mem_keys, keys_evictPast, AList.keys_insert,
          List.erase_of_not_mem absent]
        cases cap with
        | zero =>
            have empty : table.keys = [] :=
              List.eq_nil_of_length_eq_zero (Nat.le_zero.mp within)
            rw [AList.mem_keys, empty] at member
            cases member
        | succ room =>
            rw [List.take_succ_cons]
            refine List.mem_cons_of_mem _ ?_
            have nonempty : table.keys ≠ [] :=
              List.ne_nil_of_mem member
            rw [AList.mem_keys,
              ← List.dropLast_concat_getLast nonempty] at member
            rcases List.mem_append.mp member with early | last
            · rw [List.dropLast_eq_take] at early
              have shorter : table.keys.length - 1 ≤ room := by
                simp only [size] at within
                omega
              exact (List.take_prefix_take_left shorter).subset early
            · exact absurd
                (by
                  rw [oldest?, List.getLast?_eq_some_getLast nonempty,
                    List.mem_singleton.mp last])
                notOldest
      rw [remember, lookup_evictPast_of_mem stays,
        AList.lookup_insert_ne different]
    · have outside : other ∉ remember cap table key value := by
        intro inside
        have written := mem_of_mem_evictPast inside
        rw [AList.mem_insert] at written
        exact written.elim different member
      rw [AList.lookup_eq_none.mpr member,
        AList.lookup_eq_none.mpr outside]

/-- A bounded write of a key already present forgets nothing. -/
theorem lookup_remember_of_mem
    {cap : Nat} {table : InsertionMap Key Value} {key other : Key}
    (value : Value)
    (present : key ∈ table) (within : size table ≤ cap)
    (different : other ≠ key) :
    (remember cap table key value).lookup other = table.lookup other := by
  have fits : size (table.insert key value) ≤ cap :=
    Nat.le_trans (Nat.le_of_eq (size_insert_of_mem value present)) within
  rw [remember, evictPast_of_size_le fits, AList.lookup_insert_ne different]

/-- A bounded write of a new key forgets the oldest key of a full table. -/
def PushesOut
    (cap : Nat) (table : InsertionMap Key Value) (key other : Key) : Prop :=
  key ∉ table ∧ size table = cap ∧ oldest? table = some other

instance
    (cap : Nat) (table : InsertionMap Key Value) (key other : Key) :
    Decidable (PushesOut cap table key other) :=
  inferInstanceAs (Decidable (_ ∧ _ ∧ _))

/-- It forgets no other. -/
theorem lookup_remember_of_kept
    {cap : Nat} {table : InsertionMap Key Value} {key other : Key}
    (value : Value)
    (within : size table ≤ cap) (different : other ≠ key)
    (kept : ¬ PushesOut cap table key other) :
    (remember cap table key value).lookup other = table.lookup other := by
  by_cases present : key ∈ table
  · exact lookup_remember_of_mem value present within different
  · refine lookup_remember_of_ne value present within different ?_
    by_contra full
    rw [not_or, Nat.not_lt, not_not] at full
    exact kept ⟨present, Nat.le_antisymm within full.1, full.2⟩

end Remember

section Values

/-! ## Reading through a map -/

variable {Other : Type*}

private theorem keys_map_entries
    (change : Value → Other) (entries : List (Sigma fun _ : Key => Value)) :
    (entries.map fun entry =>
        (⟨entry.1, change entry.2⟩ : Sigma fun _ : Key => Other)).keys =
      entries.keys := by
  simp [List.keys, Function.comp_def]

/-- The same keys in the same order, every value read through `change`. -/
def mapValues (change : Value → Other) (table : InsertionMap Key Value) :
    InsertionMap Key Other where
  entries := table.entries.map fun entry => ⟨entry.1, change entry.2⟩
  nodupKeys := by
    rw [List.NodupKeys, keys_map_entries]
    exact table.nodupKeys

variable [DecidableEq Key]

private theorem dlookup_map_entries
    (change : Value → Other) (entries : List (Sigma fun _ : Key => Value))
    (key : Key) :
    (entries.map fun entry =>
        (⟨entry.1, change entry.2⟩ : Sigma fun _ : Key => Other)).dlookup key =
      (entries.dlookup key).map change := by
  induction entries with
  | nil => rfl
  | cons entry rest inductionHypothesis =>
      obtain ⟨head, held⟩ := entry
      rw [List.map_cons]
      by_cases same : key = head
      · subst same
        simp
      · rw [List.dlookup_cons_ne _ _ same, List.dlookup_cons_ne _ _ same]
        exact inductionHypothesis

@[simp]
theorem lookup_mapValues
    (change : Value → Other) (table : InsertionMap Key Value) (key : Key) :
    (mapValues change table).lookup key = (table.lookup key).map change :=
  dlookup_map_entries change table.entries key

end Values

end InsertionMap

end Btcr2Aggregation
