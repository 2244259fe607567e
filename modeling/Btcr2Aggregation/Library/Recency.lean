import Mathlib.Data.Finset.Card
import Mathlib.Data.List.Induction
import Btcr2Aggregation.Library.InsertionMap

/-!
# What a bounded table still holds

A bounded table is written with `InsertionMap.remember` and keys are dropped
from it.  What it holds under a key is decided by the operations since the key
was last written: the key is gone exactly when it was dropped, or when at some
point since there were as many fresh keys as the table has room for.  A key is
fresh when it was written since and not dropped after that.
-/

namespace Btcr2Aggregation

universe u v

variable {Key : Type u} {Value : Type v}

/-- What is done to a bounded table. -/
inductive TableOp (Key : Type u) (Value : Type v) where
  | write (key : Key) (value : Value)
  | drop (key : Key)

namespace TableOp

def key : TableOp Key Value → Key
  | .write key _ => key
  | .drop key => key

variable [DecidableEq Key]

def apply (cap : Nat) (table : InsertionMap Key Value) :
    TableOp Key Value → InsertionMap Key Value
  | .write key value => table.remember cap key value
  | .drop key => table.erase key

end TableOp

open InsertionMap

variable [DecidableEq Key]

/-- The table after some operations, oldest first. -/
def replay (cap : Nat) (ops : List (TableOp Key Value)) :
    InsertionMap Key Value :=
  ops.foldl (TableOp.apply cap) ∅

/-- What an operation does to the fresh keys, newest first. -/
def freshStep (keys : List Key) : TableOp Key Value → List Key
  | .write key _ => key :: keys.erase key
  | .drop key => keys.erase key

/-- The keys written by some operations and not dropped after, newest first. -/
def freshKeys (ops : List (TableOp Key Value)) : List Key :=
  ops.foldl freshStep []

section Fresh

/-! ## Fresh keys -/

theorem replay_concat
    (cap : Nat) (ops : List (TableOp Key Value)) (op : TableOp Key Value) :
    replay cap (ops ++ [op]) = op.apply cap (replay cap ops) := by
  rw [replay, List.foldl_append]
  rfl

theorem freshKeys_concat
    (ops : List (TableOp Key Value)) (op : TableOp Key Value) :
    freshKeys (ops ++ [op]) = freshStep (freshKeys ops) op := by
  rw [freshKeys, List.foldl_append]
  rfl

/-- Only keys of the operations are fresh. -/
theorem exists_of_mem_freshKeys
    {ops : List (TableOp Key Value)} {key : Key}
    (fresh : key ∈ freshKeys ops) :
    ∃ op ∈ ops, op.key = key := by
  induction ops using List.reverseRecOn with
  | nil => cases fresh
  | append_singleton ops op inductionHypothesis =>
      have earlier :
          key ∈ freshKeys ops → ∃ op' ∈ ops ++ [op], op'.key = key := by
        intro before
        obtain ⟨other, member, same⟩ := inductionHypothesis before
        exact ⟨other, List.mem_append_left _ member, same⟩
      rw [freshKeys_concat] at fresh
      cases op with
      | write written value =>
          rcases List.mem_cons.mp fresh with rfl | before
          · exact ⟨_, List.mem_append_right _ List.mem_cons_self, rfl⟩
          · exact earlier (List.mem_of_mem_erase before)
      | drop dropped => exact earlier (List.mem_of_mem_erase fresh)

theorem nodup_freshKeys (ops : List (TableOp Key Value)) :
    (freshKeys ops).Nodup := by
  induction ops using List.reverseRecOn with
  | nil => exact List.nodup_nil
  | append_singleton ops op inductionHypothesis =>
      rw [freshKeys_concat]
      cases op with
      | write key value =>
          rw [freshStep, List.nodup_cons]
          exact ⟨inductionHypothesis.not_mem_erase, inductionHypothesis.erase _⟩
      | drop key => exact inductionHypothesis.erase _

/-- Of operations that only write, every key is fresh. -/
theorem mem_freshKeys_of_writes
    {ops : List (TableOp Key Value)} {key : Key}
    (writes : ∀ op ∈ ops, ∃ key value, op = .write key value) :
    key ∈ freshKeys ops ↔ key ∈ ops.map TableOp.key := by
  constructor
  · intro fresh
    exact List.mem_map.mpr (exists_of_mem_freshKeys fresh)
  · induction ops using List.reverseRecOn with
    | nil =>
        intro member
        cases member
    | append_singleton ops op inductionHypothesis =>
        intro member
        obtain ⟨written, value, rfl⟩ :=
          writes op (List.mem_append_right _ List.mem_cons_self)
        rw [freshKeys_concat, freshStep]
        by_cases same : key = written
        · rw [same]
          exact List.mem_cons_self
        · refine List.mem_cons_of_mem _ ((List.mem_erase_of_ne same).mpr ?_)
          refine inductionHypothesis ?_ ?_
          · intro op earlier
            exact writes op (List.mem_append_left _ earlier)
          · rw [List.map_append, List.mem_append] at member
            rcases member with earlier | last
            · exact earlier
            · exact absurd (List.mem_singleton.mp last) same

/-- Of operations that only write, there are as many fresh keys as keys. -/
theorem length_freshKeys_of_writes
    {ops : List (TableOp Key Value)}
    (writes : ∀ op ∈ ops, ∃ key value, op = .write key value) :
    (freshKeys ops).length = (ops.map TableOp.key).toFinset.card := by
  rw [← List.toFinset_card_of_nodup (nodup_freshKeys ops)]
  congr 1
  ext key
  rw [List.mem_toFinset, List.mem_toFinset, mem_freshKeys_of_writes writes]

end Fresh

section Keys

/-! ## The keys of the table -/

/-- Taking a key away from a list that has another in the middle. -/
private theorem exists_erase_append_cons
    {key other : Key} (different : other ≠ key) (newer older : List Key) :
    ∃ rest, (newer ++ key :: older).erase other =
      newer.erase other ++ key :: rest := by
  by_cases present : other ∈ newer
  · exact ⟨older, List.erase_append_left _ present⟩
  · refine ⟨older.erase other, ?_⟩
    rw [List.erase_append_right _ present, List.erase_of_not_mem present,
      List.erase_cons_tail (by simpa using different.symm)]

omit [DecidableEq Key] in
private theorem exists_take_append_cons
    {cap : Nat} (key : Key) {newer : List Key} (older : List Key)
    (room : newer.length < cap) :
    ∃ rest, (newer ++ key :: older).take cap = newer ++ key :: rest := by
  obtain ⟨spare, rfl⟩ : ∃ spare, cap = newer.length + (spare + 1) :=
    ⟨cap - newer.length - 1, by omega⟩
  exact ⟨older.take spare, by rw [List.take_length_add_append, List.take_succ_cons]⟩

theorem keys_apply_write
    (cap : Nat) (table : InsertionMap Key Value) (key : Key) (value : Value) :
    ((TableOp.write key value).apply cap table).keys =
      (key :: table.keys.erase key).take cap := by
  rw [TableOp.apply, InsertionMap.remember, keys_evictPast, AList.keys_insert]

/-- An operation on another key does not bring a key back. -/
theorem notMem_apply
    {cap : Nat} {table : InsertionMap Key Value} {op : TableOp Key Value}
    {key : Key} (elsewhere : op.key ≠ key) (absent : key ∉ table) :
    key ∉ op.apply cap table := by
  intro member
  cases op with
  | write written value =>
      rcases mem_of_mem_remember member with rfl | before
      · exact elsewhere rfl
      · exact absent before
  | drop dropped =>
      exact absent (AList.mem_erase.mp member).2

/-- While there is room, the table is: the fresh keys, the key, and older ones. -/
theorem keys_replay_of_room
    {cap : Nat} {before after : List (TableOp Key Value)} {key : Key}
    {value : Value}
    (untouched : ∀ op ∈ after, op.key ≠ key)
    (room :
      ∀ earlier, earlier <+: after → (freshKeys earlier).length < cap) :
    ∃ older,
      (replay cap (before ++ .write key value :: after)).keys =
        freshKeys after ++ key :: older := by
  induction after using List.reverseRecOn with
  | nil =>
      have positive : 0 < cap := room [] (List.prefix_refl _)
      obtain ⟨spare, rfl⟩ : ∃ spare, cap = spare + 1 :=
        ⟨cap - 1, by omega⟩
      rw [replay_concat, keys_apply_write, List.take_succ_cons]
      exact ⟨_, rfl⟩
  | append_singleton after op inductionHypothesis =>
      obtain ⟨older, keys⟩ :=
        inductionHypothesis
          (fun op member => untouched op (List.mem_append_left _ member))
          (fun earlier start =>
            room earlier (start.trans (List.prefix_append _ _)))
      have elsewhere : op.key ≠ key :=
        untouched op (List.mem_append_right _ List.mem_cons_self)
      have fits := room _ (List.prefix_refl _)
      rw [← List.cons_append, ← List.append_assoc, replay_concat]
      rw [freshKeys_concat] at fits ⊢
      cases op with
      | write written newValue =>
          have different : written ≠ key := elsewhere
          obtain ⟨rest, erased⟩ :=
            exists_erase_append_cons different (freshKeys after) older
          rw [keys_apply_write, keys, erased, ← List.cons_append]
          exact exists_take_append_cons key rest fits
      | drop dropped =>
          have different : dropped ≠ key := elsewhere
          obtain ⟨rest, erased⟩ :=
            exists_erase_append_cons different (freshKeys after) older
          rw [TableOp.apply, AList.keys_erase, keys, erased]
          exact ⟨rest, rfl⟩

/-- A key that is written and then left alone stays exactly as long as there
are fewer fresh keys than the table has room for. -/
theorem mem_replay_iff
    {cap : Nat} {before after : List (TableOp Key Value)} {key : Key}
    {value : Value} (untouched : ∀ op ∈ after, op.key ≠ key) :
    key ∈ replay cap (before ++ .write key value :: after) ↔
      ∀ earlier, earlier <+: after → (freshKeys earlier).length < cap := by
  constructor
  · induction after using List.reverseRecOn with
    | nil =>
        intro member earlier start
        rw [List.prefix_nil.mp start]
        rw [replay_concat, AList.mem_keys, keys_apply_write] at member
        cases cap with
        | zero => cases member
        | succ spare => exact Nat.succ_pos spare
    | append_singleton after op inductionHypothesis =>
        intro member earlier start
        have elsewhere : op.key ≠ key :=
          untouched op (List.mem_append_right _ List.mem_cons_self)
        have shorter : ∀ other ∈ after, other.key ≠ key :=
          fun other inside => untouched other (List.mem_append_left _ inside)
        rw [← List.cons_append, ← List.append_assoc, replay_concat] at member
        have held :
            key ∈ replay cap (before ++ .write key value :: after) := by
          by_contra absent
          exact notMem_apply elsewhere absent member
        have room := inductionHypothesis shorter held
        rcases List.prefix_concat_iff.mp start with rfl | inside
        · obtain ⟨older, keys⟩ := keys_replay_of_room shorter room
          by_contra full
          rw [Nat.not_lt] at full
          cases op with
          | write written newValue =>
              have different : written ≠ key := elsewhere
              obtain ⟨rest, erased⟩ :=
                exists_erase_append_cons different (freshKeys after) older
              rw [AList.mem_keys, keys_apply_write, keys, erased,
                ← List.cons_append] at member
              rw [freshKeys_concat, freshStep] at full
              rw [List.take_append_of_le_length full] at member
              have fresh :
                  key ∈ freshKeys (after ++ [.write written newValue]) := by
                rw [freshKeys_concat]
                exact List.mem_of_mem_take member
              obtain ⟨other, inside, same⟩ := exists_of_mem_freshKeys fresh
              exact untouched other inside same
          | drop dropped =>
              rw [freshKeys_concat, freshStep] at full
              have before := room after (List.prefix_refl _)
              have fewer :
                  ((freshKeys after).erase dropped).length ≤
                    (freshKeys after).length :=
                List.length_erase_le
              omega
        · exact room earlier inside
  · intro room
    obtain ⟨older, keys⟩ := keys_replay_of_room untouched room
    rw [AList.mem_keys, keys]
    exact List.mem_append_right _ List.mem_cons_self

end Keys

section Lookup

/-! ## What is found -/

/-- What an operation on another key leaves under a key was there before. -/
theorem lookup_of_lookup_apply
    {cap : Nat} {table : InsertionMap Key Value} {op : TableOp Key Value}
    {key : Key} {value : Value} (elsewhere : op.key ≠ key)
    (found : (op.apply cap table).lookup key = some value) :
    table.lookup key = some value := by
  cases op with
  | write written newValue =>
      rcases lookup_remember_cases found with ⟨same, -⟩ | ⟨-, before⟩
      · exact absurd same.symm elsewhere
      · exact before
  | drop dropped => exact lookup_of_lookup_erase found

/-- Whatever is found under a key was the last thing written there. -/
theorem exists_last_write
    {cap : Nat} {ops : List (TableOp Key Value)} {key : Key} {value : Value}
    (found : (replay cap ops).lookup key = some value) :
    ∃ before after,
      ops = before ++ .write key value :: after ∧
        ∀ op ∈ after, op.key ≠ key := by
  induction ops using List.reverseRecOn with
  | nil => cases found
  | append_singleton ops op inductionHypothesis =>
      rw [replay_concat] at found
      by_cases here : op.key = key
      · cases op with
        | write written newValue =>
            cases here
            rcases lookup_remember_cases found with ⟨-, rfl⟩ | ⟨other, -⟩
            · exact ⟨ops, [], rfl, fun op member => by cases member⟩
            · exact absurd rfl other
        | drop dropped =>
            cases here
            rw [TableOp.apply, TableOp.key, AList.lookup_erase] at found
            cases found
      · obtain ⟨before, after, rfl, untouched⟩ :=
          inductionHypothesis (lookup_of_lookup_apply here found)
        refine ⟨before, after ++ [op], by simp, ?_⟩
        intro other member
        rcases List.mem_append.mp member with inside | last
        · exact untouched other inside
        · rw [List.mem_singleton.mp last]
          exact here

omit [DecidableEq Key] in
/-- After the last operation on a key there is no other. -/
private theorem last_write_first
    {after middle later : List (TableOp Key Value)} {key : Key}
    {value found : Value}
    (same :
      TableOp.write key value :: after = middle ++ .write key found :: later)
    (untouched : ∀ op ∈ after, op.key ≠ key) :
    middle = [] ∧ value = found := by
  cases middle with
  | nil =>
      rw [List.nil_append, List.cons.injEq] at same
      exact ⟨rfl, (TableOp.write.inj same.1).2⟩
  | cons head tail =>
      rw [List.cons_append, List.cons.injEq] at same
      obtain ⟨rfl, rfl⟩ := same
      exact
        absurd rfl (untouched _ (List.mem_append_right _ List.mem_cons_self))

omit [DecidableEq Key] in
/-- Two splits of a list at the last operation on a key name one value. -/
private theorem last_write_unique
    {before after other later : List (TableOp Key Value)} {key : Key}
    {value found : Value}
    (same :
      before ++ .write key value :: after =
        other ++ .write key found :: later)
    (untouched : ∀ op ∈ after, op.key ≠ key)
    (also : ∀ op ∈ later, op.key ≠ key) :
    value = found := by
  rcases List.append_eq_append_iff.mp same with
    ⟨middle, -, split⟩ | ⟨middle, -, split⟩
  · exact (last_write_first split untouched).2
  · exact (last_write_first split also).2.symm

/-- What a bounded table holds: the last thing written under the key, unless it
was dropped since or as many fresh keys as there is room for came after it. -/
theorem lookup_replay_iff
    {cap : Nat} {ops : List (TableOp Key Value)} {key : Key} {value : Value} :
    (replay cap ops).lookup key = some value ↔
      ∃ before after,
        ops = before ++ .write key value :: after ∧
          (∀ op ∈ after, op.key ≠ key) ∧
            ∀ earlier,
              earlier <+: after → (freshKeys earlier).length < cap := by
  constructor
  · intro found
    obtain ⟨before, after, rfl, untouched⟩ := exists_last_write found
    exact
      ⟨before, after, rfl, untouched,
        (mem_replay_iff untouched).mp (mem_of_lookup found)⟩
  · rintro ⟨before, after, rfl, untouched, room⟩
    obtain ⟨held, found⟩ :=
      exists_lookup_of_mem ((mem_replay_iff untouched).mpr room)
    obtain ⟨other, later, same, also⟩ := exists_last_write found
    obtain rfl := last_write_unique same untouched also
    exact found

/-- Where nothing is ever dropped, only the number of other keys written since
counts. -/
theorem lookup_replay_of_writes_iff
    {cap : Nat} {ops : List (TableOp Key Value)} {key : Key} {value : Value}
    (writes : ∀ op ∈ ops, ∃ key value, op = .write key value) :
    (replay cap ops).lookup key = some value ↔
      ∃ before after,
        ops = before ++ .write key value :: after ∧
          (∀ op ∈ after, op.key ≠ key) ∧
            (after.map TableOp.key).toFinset.card < cap := by
  rw [lookup_replay_iff]
  refine exists_congr fun before => exists_congr fun after => ?_
  refine and_congr_right fun split => and_congr_right fun _ => ?_
  have later : ∀ op ∈ after, ∃ key value, op = .write key value := by
    intro op member
    refine writes op ?_
    rw [split]
    exact List.mem_append_right _ (List.mem_cons_of_mem _ member)
  constructor
  · intro room
    rw [← length_freshKeys_of_writes later]
    exact room after (List.prefix_refl _)
  · intro room earlier start
    have among : ∀ op ∈ earlier, ∃ key value, op = .write key value :=
      fun op member => later op (start.subset member)
    rw [length_freshKeys_of_writes among]
    refine Nat.lt_of_le_of_lt (Finset.card_le_card ?_) room
    intro other member
    rw [List.mem_toFinset] at member ⊢
    obtain ⟨op, inside, rfl⟩ := List.mem_map.mp member
    exact List.mem_map.mpr ⟨op, start.subset inside, rfl⟩

end Lookup

end Btcr2Aggregation
