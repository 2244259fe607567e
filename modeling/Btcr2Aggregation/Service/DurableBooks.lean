import Btcr2Aggregation.Service.AcceptanceCheck
import Btcr2Aggregation.Service.FileStore

/-!
# One acceptance in a directory

The records of the acceptance route can live on disk, while the ledger that
bounds them lives in memory.  What one call leaves is worked out on the records
as a map, whatever the ledger knows of them: when the map stays bounded, and
when it keeps one record for each participant and cohort.  The call on disk is
related to it by the files that mirror the map.
-/

namespace Btcr2Aggregation

open InsertionMap

namespace Tos

section Records

/-! ## Whose record it is -/

/-- The participant and the cohort of a record. -/
def acceptancePair (record : JsObject) : String × String :=
  (fieldText record "participantDid", fieldText record "cohortId")

/-- The key the ledger knows a record by. -/
def recordKey (record : JsObject) : String :=
  acceptanceDedupKey (acceptancePair record).1 (acceptancePair record).2

/-- The cohort id of a record passed its check. -/
def isShaped (record : JsObject) : Bool :=
  isCohortIdShape (fieldText record "cohortId")

theorem nul_notMem_of_isCohortIdShape {text : String}
    (shaped : isCohortIdShape text = true) : '\x00' ∉ text.toList := by
  intro present
  rw [isCohortIdShape, Bool.and_eq_true, List.all_eq_true] at shaped
  have impossible := shaped.2 _ present
  exact absurd impossible (by decide)

/-- A checked cohort id leaves the separator to the key. -/
theorem recordKey_eq_iff
    {first second : JsObject} (firstShaped : isShaped first = true)
    (secondShaped : isShaped second = true) :
    recordKey first = recordKey second ↔
      acceptancePair first = acceptancePair second := by
  constructor
  · intro same
    have characters := congrArg String.toList same
    simp only [recordKey, acceptanceDedupKey, String.toList_append,
      List.append_assoc] at characters
    have parts :=
      JoinedText.append_cons_inj_of_notMem
        (nul_notMem_of_isCohortIdShape firstShaped)
        (nul_notMem_of_isCohortIdShape secondShaped) characters
    exact Prod.ext (String.toList_injective parts.1)
      (String.toList_injective parts.2)
  · intro same
    rw [recordKey, recordKey, same]

end Records

section Books

/-! ## One call on the books -/

/-- A store whose operations succeed. -/
def noFaults : StoreFaults where
  put := none
  deletes := []

/-- The ledger is about records that are stored. -/
structure AcceptanceBooks.Reconciled (books : AcceptanceBooks) : Prop where
  within : size books.ledger ≤ maxAcceptances
  stored :
    ∀ key hash, books.ledger.lookup key = some hash →
      ∃ record, books.store.lookup hash = some record ∧ recordKey record = key
  shaped :
    ∀ hash record, books.store.lookup hash = some record →
      isShaped record = true

/-- At most as many records as the ledger would retain, and one for each
participant and cohort. -/
structure AcceptanceBooks.Bounded (books : AcceptanceBooks) : Prop where
  few : size books.store ≤ maxAcceptances
  single :
    ∀ first second record other, books.store.lookup first = some record →
      books.store.lookup second = some other →
        acceptancePair record = acceptancePair other → first = second

/-- A hash stored before belongs to the same participant and cohort. -/
def AcceptanceBooks.Agrees
    (books : AcceptanceBooks) (hash : String) (record : JsObject) : Prop :=
  ∀ stored, books.store.lookup hash = some stored →
    acceptancePair stored = acceptancePair record

namespace AcceptanceBooks

variable {books : AcceptanceBooks} {hash : String} {record : JsObject}

/-- Only a record of the same participant and cohort is retained under its
hash. -/
theorem key_eq_of_lookup
    (reconciled : books.Reconciled) (agrees : books.Agrees hash record)
    {key : String} (retains : books.ledger.lookup key = some hash) :
    key = recordKey record := by
  obtain ⟨stored, found, keyed⟩ := reconciled.stored key hash retains
  rw [← keyed, recordKey, recordKey, agrees stored found]

theorem file_ledger :
    (books.file noFaults hash record).ledger =
      (books.ledger.remember (recordKey record) hash).2 := by
  simp only [file, reconcile, recordKey, acceptancePair]

theorem drop_eq :
    books.drop hash record =
      (books.ledger.remember (recordKey record) hash).1.filter (· ≠ hash) := by
  simp only [drop, reconcile, recordKey, acceptancePair]

/-- What a call goes on to delete: nothing, the record it replaces, or the
oldest one retained. -/
inductive Drops (books : AcceptanceBooks) (hash : String) (record : JsObject) :
    List String → Prop
  | reposted (retains : books.ledger.lookup (recordKey record) = some hash) :
      Drops books hash record []
  | added (absent : recordKey record ∉ books.ledger)
      (room : size books.ledger < maxAcceptances) :
      Drops books hash record []
  | replaced (previous : String)
      (retains : books.ledger.lookup (recordKey record) = some previous)
      (apart : previous ≠ hash) :
      Drops books hash record [previous]
  | evicted (key previous : String)
      (absent : recordKey record ∉ books.ledger)
      (full : size books.ledger = maxAcceptances)
      (retains : books.ledger.lookup key = some previous)
      (apart : previous ≠ hash)
      (gone : key ∉ (books.file noFaults hash record).ledger) :
      Drops books hash record [previous]

theorem drops
    (reconciled : books.Reconciled) (agrees : books.Agrees hash record) :
    Drops books hash record (books.drop hash record) := by
  rw [drop_eq]
  by_cases known : recordKey record ∈ books.ledger
  · obtain ⟨previous, found⟩ := exists_lookup_of_mem known
    rw [AcceptanceLedger.drop_of_lookup hash reconciled.within found]
    by_cases same : previous = hash
    · subst same
      simpa using Drops.reposted found
    · simpa [same] using Drops.replaced previous found same
  · rcases Nat.lt_or_eq_of_le reconciled.within with room | full
    · rw [AcceptanceLedger.drop_of_room hash known room]
      exact Drops.added known room
    · obtain ⟨oldest, previous, gone, found, dropped⟩ :=
        AcceptanceLedger.drop_of_full hash known full
      have apart : previous ≠ hash := by
        intro same
        subst same
        have keyed := key_eq_of_lookup reconciled agrees found
        exact known (keyed ▸ mem_of_lookup found)
      rw [← file_ledger] at gone
      rw [dropped]
      simpa [apart] using
        Drops.evicted oldest previous known full found apart gone

/-- What is found after a call. -/
theorem lookup_file (other : String) :
    (books.file noFaults hash record).store.lookup other =
      if other ∈ books.drop hash record then none
      else (books.store.set hash record).lookup other := by
  have erases :
      ∀ (drop : List String) (store : InsertionMap String JsObject),
        (drop.foldl (retire noFaults) store).lookup other =
          if other ∈ drop then none else store.lookup other := by
    intro drop
    induction drop with
    | nil =>
        intro store
        rfl
    | cons stale drop inductionHypothesis =>
        intro store
        have retired : retire noFaults store stale = store.erase stale :=
          if_neg List.not_mem_nil
        rw [List.foldl_cons, inductionHypothesis, retired]
        by_cases later : other ∈ drop
        · rw [if_pos later, if_pos (List.mem_cons_of_mem stale later)]
        · rw [if_neg later]
          by_cases now : other = stale
          · subst now
            rw [if_pos List.mem_cons_self, AList.lookup_erase]
          · rw [AList.lookup_erase_ne now, if_neg]
            intro member
            exact (List.mem_cons.mp member).elim now later
  exact erases _ _

theorem lookup_ledger_file {key found : String}
    (retains :
      (books.file noFaults hash record).ledger.lookup key = some found) :
    (key = recordKey record ∧ found = hash) ∨
      (key ≠ recordKey record ∧ books.ledger.lookup key = some found) := by
  rw [file_ledger, AcceptanceLedger.remember_snd] at retains
  exact lookup_remember_cases retains

/-- What the ledger still retains, the call does not delete. -/
theorem notMem_drop_of_lookup
    (reconciled : books.Reconciled) (agrees : books.Agrees hash record)
    {key found : String} (different : key ≠ recordKey record)
    (before : books.ledger.lookup key = some found)
    (after :
      (books.file noFaults hash record).ledger.lookup key = some found) :
    found ∉ books.drop hash record := by
  -- A stored record is retained under its own key only.
  have onlyKey :
      ∀ other, books.ledger.lookup other = some found → other = key := by
    intro other retains
    obtain ⟨stored, held, keyed⟩ := reconciled.stored key found before
    obtain ⟨again, heldAgain, keyedAgain⟩ :=
      reconciled.stored other found retains
    rw [held] at heldAgain
    cases heldAgain
    rw [← keyed, ← keyedAgain]
  have cases_ := drops reconciled agrees
  generalize books.drop hash record = drop at cases_
  cases cases_ with
  | reposted retains => exact List.not_mem_nil
  | added absent room => exact List.not_mem_nil
  | replaced previous retains apart =>
      intro member
      rw [← List.mem_singleton.mp member] at retains
      exact different (onlyKey _ retains).symm
  | evicted other previous absent full retains apart gone =>
      intro member
      rw [← List.mem_singleton.mp member] at retains
      rw [onlyKey _ retains] at gone
      exact gone (mem_of_lookup after)

/-- A call keeps the ledger about stored records. -/
theorem Reconciled.file
    (reconciled : books.Reconciled) (agrees : books.Agrees hash record)
    (shaped : isShaped record = true) :
    (books.file noFaults hash record).Reconciled where
  within := by
    rw [file_ledger]
    exact AcceptanceLedger.size_remember_le _ _ _
  stored := by
    intro key found retains
    rcases lookup_ledger_file retains with ⟨rfl, rfl⟩ | ⟨different, before⟩
    · exact ⟨record, lookup_file_self books noFaults _ record, rfl⟩
    · obtain ⟨stored, held, keyed⟩ := reconciled.stored key found before
      have kept :=
        notMem_drop_of_lookup reconciled agrees different before retains
      have apart : found ≠ hash := by
        intro same
        subst same
        exact different (key_eq_of_lookup reconciled agrees before)
      refine ⟨stored, ?_, keyed⟩
      rw [lookup_file, if_neg kept, lookup_set_of_ne apart, held]
  shaped := by
    intro found stored held
    by_cases same : found = hash
    · subst same
      rw [lookup_file_self] at held
      rw [← Option.some.inj held]
      exact shaped
    · rcases lookup_file_of_ne books noFaults hash record same with
        gone | kept
      · rw [gone] at held
        cases held
      · exact reconciled.shaped found stored (kept.symm.trans held)

/-- What the ledger retains is stored. -/
theorem mem_store_of_lookup
    (reconciled : books.Reconciled) {key found : String}
    (retains : books.ledger.lookup key = some found) : found ∈ books.store := by
  obtain ⟨stored, held, -⟩ := reconciled.stored key found retains
  exact mem_of_lookup held

/-- A call adds a record to the namespace only for a participant and cohort the
ledger does not know, and while it has room. -/
theorem size_file_le_iff
    (reconciled : books.Reconciled) (agrees : books.Agrees hash record)
    (few : size books.store ≤ maxAcceptances) :
    size (books.file noFaults hash record).store ≤ maxAcceptances ↔
      recordKey record ∈ books.ledger ∨ maxAcceptances ≤ size books.ledger ∨
        hash ∈ books.store ∨ size books.store < maxAcceptances := by
  have store :
      (books.file noFaults hash record).store =
        (books.drop hash record).foldl (retire noFaults)
          (books.store.set hash record) :=
    rfl
  have grows : size (books.store.set hash record) ≤ size books.store + 1 := by
    by_cases present : hash ∈ books.store
    · rw [size_set_of_mem record present]
      omega
    · rw [size_set_of_notMem record present]
  -- A record that is deleted makes room for the one that is put.
  have shrinks :
      ∀ previous ∈ books.store,
        size ((books.store.set hash record).erase previous) ≤
          size books.store := by
    intro previous present
    have member : previous ∈ books.store.set hash record :=
      mem_set.mpr (Or.inr present)
    have less := size_erase_of_mem member
    omega
  have cases_ := drops reconciled agrees
  rw [store]
  generalize books.drop hash record = drop at cases_
  cases cases_ with
  | reposted retains =>
      have present := mem_store_of_lookup reconciled retains
      rw [List.foldl_nil, size_set_of_mem record present]
      exact iff_of_true few (Or.inl (mem_of_lookup retains))
  | added absent room =>
      rw [List.foldl_nil]
      by_cases present : hash ∈ books.store
      · rw [size_set_of_mem record present]
        exact iff_of_true few (Or.inr (Or.inr (Or.inl present)))
      · rw [size_set_of_notMem record present]
        constructor
        · intro fits
          exact Or.inr (Or.inr (Or.inr fits))
        · intro fits
          rcases fits with known | full | again | space
          · exact absurd known absent
          · omega
          · exact absurd again present
          · exact space
  | replaced previous retains apart =>
      have present := mem_store_of_lookup reconciled retains
      have least := shrinks previous present
      exact
        iff_of_true (Nat.le_trans least few) (Or.inl (mem_of_lookup retains))
  | evicted key previous absent full retains apart gone =>
      have present := mem_store_of_lookup reconciled retains
      have least := shrinks previous present
      exact iff_of_true (Nat.le_trans least few) (Or.inr (Or.inl full.ge))

/-- Of the other records of its participant and cohort, a call deletes the one
the ledger retains. -/
theorem mem_drop_iff
    (reconciled : books.Reconciled) (agrees : books.Agrees hash record)
    {other : String} {stored : JsObject}
    (held : books.store.lookup other = some stored)
    (same : acceptancePair stored = acceptancePair record)
    (apart : other ≠ hash) :
    other ∈ books.drop hash record ↔
      books.ledger.lookup (recordKey record) = some other := by
  have cases_ := drops reconciled agrees
  generalize books.drop hash record = drop at cases_
  cases cases_ with
  | reposted retains =>
      rw [retains, Option.some.injEq]
      exact iff_of_false List.not_mem_nil (Ne.symm apart)
  | added absent room =>
      rw [AList.lookup_eq_none.mpr absent]
      exact iff_of_false List.not_mem_nil nofun
  | replaced previous retains =>
      rw [retains, List.mem_singleton, Option.some.injEq]
      exact eq_comm
  | evicted key previous absent full retains =>
      rw [AList.lookup_eq_none.mpr absent, List.mem_singleton]
      refine iff_of_false ?_ nofun
      rintro rfl
      obtain ⟨again, heldAgain, keyed⟩ := reconciled.stored key other retains
      rw [held] at heldAgain
      cases heldAgain
      rw [recordKey, same] at keyed
      rw [← keyed] at retains
      exact absent (mem_of_lookup retains)

/-- A call keeps one record a participant and cohort when every other record of
that participant and cohort is the one the ledger retains. -/
theorem single_file_iff
    (reconciled : books.Reconciled) (agrees : books.Agrees hash record)
    (bounded : books.Bounded) :
    (∀ first second stored other,
        (books.file noFaults hash record).store.lookup first = some stored →
          (books.file noFaults hash record).store.lookup second =
              some other →
            acceptancePair stored = acceptancePair other → first = second) ↔
      ∀ other stored,
        books.store.lookup other = some stored →
          acceptancePair stored = acceptancePair record →
            other = hash ∨
              books.ledger.lookup (recordKey record) = some other := by
  have self := lookup_file_self books noFaults hash record
  constructor
  · intro single other stored held same
    by_contra neither
    obtain ⟨apart, unretained⟩ := not_or.mp neither
    have kept :=
      mt (mem_drop_iff reconciled agrees held same apart).mp unretained
    have stays :
        (books.file noFaults hash record).store.lookup other = some stored := by
      rw [lookup_file, if_neg kept, lookup_set_of_ne apart, held]
    exact apart (single other hash stored record stays self same)
  · intro retained
    have before :
        ∀ other stored,
          (books.file noFaults hash record).store.lookup other = some stored →
            other ≠ hash →
              books.store.lookup other = some stored ∧
                acceptancePair stored ≠ acceptancePair record := by
      intro other stored stays apart
      rw [lookup_file] at stays
      by_cases dropped : other ∈ books.drop hash record
      · rw [if_pos dropped] at stays
        cases stays
      · rw [if_neg dropped, lookup_set_of_ne apart] at stays
        refine ⟨stays, fun same => dropped ?_⟩
        apply (mem_drop_iff reconciled agrees stays same apart).mpr
        exact (retained other stored stays same).resolve_left apart
    intro first second stored other firstHeld secondHeld same
    by_cases firstNew : first = hash
    · by_cases secondNew : second = hash
      · rw [firstNew, secondNew]
      · rw [firstNew, self] at firstHeld
        cases firstHeld
        exact absurd same.symm (before second other secondHeld secondNew).2
    · by_cases secondNew : second = hash
      · rw [secondNew, self] at secondHeld
        cases secondHeld
        exact absurd same (before first stored firstHeld firstNew).2
      · exact
          bounded.single first second stored other
            (before first stored firstHeld firstNew).1
            (before second other secondHeld secondNew).1 same

/-- Every other record of the participant and cohort is the one the ledger
retains, and a participant and cohort the ledger does not know finds room. -/
structure KeepsBound
    (books : AcceptanceBooks) (hash : String) (record : JsObject) : Prop where
  retained :
    ∀ other stored,
      books.store.lookup other = some stored →
        acceptancePair stored = acceptancePair record →
          other = hash ∨
            books.ledger.lookup (recordKey record) = some other
  room :
    recordKey record ∈ books.ledger ∨ maxAcceptances ≤ size books.ledger ∨
      hash ∈ books.store ∨ size books.store < maxAcceptances

theorem keepsBound_iff
    (reconciled : books.Reconciled) (agrees : books.Agrees hash record)
    (bounded : books.Bounded) :
    KeepsBound books hash record ↔
      (books.file noFaults hash record).Bounded := by
  have single := single_file_iff reconciled agrees bounded
  have few := size_file_le_iff reconciled agrees bounded.few
  constructor
  · intro keeps
    exact ⟨few.mpr keeps.room, single.mpr keeps.retained⟩
  · intro after
    exact ⟨single.mp after.single, few.mp after.few⟩

/-- In one life of the ledger every stored record is retained. -/
def AllRetained (books : AcceptanceBooks) : Prop :=
  ∀ hash ∈ books.store, hash ∈ books.ledger.retained

theorem bounded_of_allRetained
    (reconciled : books.Reconciled) (retained : books.AllRetained) :
    books.Bounded where
  few := by
    have distinct := AList.keys_nodup books.store
    have subset : books.store.keys ⊆ books.ledger.retained :=
      fun hash member => retained hash (AList.mem_keys.mpr member)
    have least := (List.subperm_of_subset distinct subset).length_le
    rw [AcceptanceLedger.length_retained] at least
    exact Nat.le_trans least reconciled.within
  single := by
    intro first second stored other firstHeld secondHeld same
    have keyOf :
        ∀ hash found, books.store.lookup hash = some found →
          books.ledger.lookup (recordKey found) = some hash := by
      intro hash found held
      obtain ⟨key, retains⟩ :=
        AcceptanceLedger.mem_retained.mp (retained hash (mem_of_lookup held))
      obtain ⟨again, heldAgain, keyed⟩ := reconciled.stored key hash retains
      rw [held] at heldAgain
      cases heldAgain
      rw [keyed]
      exact retains
    have firstRetained := keyOf first stored firstHeld
    have secondRetained := keyOf second other secondHeld
    rw [recordKey, same, ← recordKey, secondRetained] at firstRetained
    exact (Option.some.inj firstRetained).symm

theorem AllRetained.file
    (retained : books.AllRetained) :
    (books.file noFaults hash record).AllRetained := by
  intro other member
  rw [file_ledger]
  obtain ⟨stored, held⟩ := exists_lookup_of_mem member
  by_cases same : other = hash
  · subst same
    exact AcceptanceLedger.mem_retained_remember_self _ _ _
  · rw [lookup_file] at held
    by_cases dropped : other ∈ books.drop hash record
    · rw [if_pos dropped] at held
      cases held
    · rw [if_neg dropped, lookup_set_of_ne same] at held
      have before := retained other (mem_of_lookup held)
      have kept :=
        AcceptanceLedger.mem_retained_or_mem_drop (recordKey record) hash before
      apply kept.resolve_right
      intro listed
      rw [drop_eq] at dropped
      exact dropped (List.mem_filter.mpr ⟨listed, decide_eq_true same⟩)

end AcceptanceBooks

end Books

section Durable

/-! ## The call on disk -/

open FileSystemArtifactStore

/-- The acceptance directory, which a restart keeps, and the ledger, which it
forgets. -/
structure DurableBooks where
  disk : Disk
  ledger : AcceptanceLedger

/-- Why a call throws. -/
inductive AcceptanceFailure where
  | refused (reason : String)
  | storeFailed (error : StoreError)

namespace DurableBooks

variable (json : JsonText JsObject) (library : AcceptanceLibrary)

/-- The files of the acceptance directory. -/
def files (books : DurableBooks) : InsertionMap String String :=
  books.disk.files .acceptance

/-- `recordTermsAcceptance` over the store on disk. -/
def recordTermsAcceptance
    (deps : AcceptanceDeps) (body : JsValue) (books : DurableBooks) :
    Except AcceptanceFailure String × DurableBooks :=
  match checkTermsAcceptance library deps body with
  | .error reason => (.error (.refused reason), books)
  | .ok record =>
      let hash := library.termsAcceptanceHashHex record
      match put json books.disk .acceptance hash record with
      | (.error error, disk) => (.error (.storeFailed error), { books with disk })
      | (.ok _, disk) =>
          let reconciled := books.ledger.remember (recordKey record) hash
          let drop := reconciled.1.filter (· ≠ hash)
          -- A delete that fails is logged, and the call goes on.
          let retired := drop.foldl (fun disk stale =>
            (delete disk .acceptance stale).2) disk
          (.ok hash, { disk := retired, ledger := reconciled.2 })

/-- The record in the file of this name. -/
def Holds (books : DurableBooks) (name : String) (record : JsObject) : Prop :=
  ∃ text, books.files.lookup name = some text ∧ json.parse text = some record

/-- No more records on disk than the ledger would retain, and one for each
participant and cohort. -/
structure Bounded (books : DurableBooks) : Prop where
  few : size books.files ≤ maxAcceptances
  single :
    ∀ first second record other, books.Holds json first record →
      books.Holds json second other →
        acceptancePair record = acceptancePair other → first = second

/-- Every other record of the participant and cohort on disk is the one the
ledger retains, and a participant and cohort the ledger does not know finds it
full, its record stored already, or room on disk. -/
structure KeepsBound
    (books : DurableBooks) (hash : String) (record : JsObject) : Prop where
  retained :
    ∀ name stored,
      books.Holds json name stored →
        acceptancePair stored = acceptancePair record →
          name = hash ++ extension ∨
            ∃ previous,
              books.ledger.lookup (recordKey record) = some previous ∧
                name = previous ++ extension
  room :
    recordKey record ∈ books.ledger ∨ maxAcceptances ≤ size books.ledger ∨
      hash ++ extension ∈ books.files ∨ size books.files < maxAcceptances

end DurableBooks

/-- The records behind the files, and the ledger's account of them. -/
structure Shows
    (json : JsonText JsObject) (durable : DurableBooks)
    (books : AcceptanceBooks) : Prop where
  mirrored : FileSystemArtifactStore.Mirrored json durable.files books.store
  ledger : durable.ledger = books.ledger
  readable :
    ∀ hash record, books.store.lookup hash = some record →
      json.parse (contents json record) = some record

namespace Shows

variable {json : JsonText JsObject} {durable : DurableBooks}
variable {books : AcceptanceBooks}

theorem holds_iff (shows_ : Shows json durable books)
    (name : String) (record : JsObject) :
    durable.Holds json name record ↔
      ∃ hash,
        name = hash ++ extension ∧ books.store.lookup hash = some record := by
  constructor
  · rintro ⟨text, found, parsed⟩
    rw [shows_.mirrored.lookup, Option.bind_eq_some_iff] at found
    obtain ⟨hash, named, read⟩ := found
    obtain ⟨stored, held, written⟩ := Option.map_eq_some_iff.mp read
    have again := shows_.readable hash stored held
    rw [written, parsed] at again
    cases again
    exact ⟨hash, eq_append_of_keyOf? named, held⟩
  · rintro ⟨hash, rfl, held⟩
    refine ⟨contents json record, ?_, shows_.readable hash record held⟩
    rw [shows_.mirrored.lookup_name, held]
    rfl

theorem size_files (shows_ : Shows json durable books) :
    size durable.files = size books.store := by
  have lengths := shows_.mirrored.names_perm.length_eq
  rw [List.length_map] at lengths
  rw [size, size, ← lengths, AList.keys, List.keys, List.length_map]

theorem bounded_iff (shows_ : Shows json durable books) :
    durable.Bounded json ↔ books.Bounded := by
  constructor
  · intro bounded
    refine ⟨shows_.size_files ▸ bounded.few, ?_⟩
    intro first second record other firstHeld secondHeld same
    have named :=
      bounded.single _ _ record other
        ((shows_.holds_iff _ _).mpr ⟨first, rfl, firstHeld⟩)
        ((shows_.holds_iff _ _).mpr ⟨second, rfl, secondHeld⟩) same
    exact (String.append_left_inj extension).mp named
  · intro bounded
    refine ⟨shows_.size_files.symm ▸ bounded.few, ?_⟩
    intro first second record other firstHeld secondHeld same
    obtain ⟨firstHash, rfl, firstStored⟩ := (shows_.holds_iff _ _).mp firstHeld
    obtain ⟨secondHash, rfl, secondStored⟩ :=
      (shows_.holds_iff _ _).mp secondHeld
    rw [bounded.single _ _ record other firstStored secondStored same]

theorem keepsBound_iff (shows_ : Shows json durable books)
    (hash : String) (record : JsObject) :
    durable.KeepsBound json hash record ↔
      books.KeepsBound hash record := by
  constructor
  · intro keeps
    constructor
    · intro other stored held same
      have holds := (shows_.holds_iff _ _).mpr ⟨other, rfl, held⟩
      rcases keeps.retained _ stored holds same with
        own | ⟨previous, retains, named⟩
      · exact Or.inl ((String.append_left_inj extension).mp own)
      · rw [shows_.ledger] at retains
        rw [(String.append_left_inj extension).mp named]
        exact Or.inr retains
    · have room := keeps.room
      rwa [shows_.ledger, shows_.size_files, shows_.mirrored.mem_name_iff]
        at room
  · intro keeps
    constructor
    · intro name stored holds same
      obtain ⟨other, rfl, held⟩ := (shows_.holds_iff _ _).mp holds
      rcases keeps.retained other stored held same with own | retains
      · exact Or.inl (congrArg (· ++ extension) own)
      · rw [← shows_.ledger] at retains
        exact Or.inr ⟨other, retains, rfl⟩
    · rw [shows_.ledger, shows_.size_files, shows_.mirrored.mem_name_iff]
      exact keeps.room

end Shows

section Call

variable {json : JsonText JsObject} {durable : DurableBooks}
variable {books : AcceptanceBooks}

/-- What the call deletes is stored. -/
theorem mem_store_of_mem_drop
    {hash : String} {record : JsObject} (reconciled : books.Reconciled)
    (agrees : books.Agrees hash record) :
    ∀ stale ∈ books.drop hash record, stale ∈ books.store := by
  have cases_ := AcceptanceBooks.drops reconciled agrees
  generalize books.drop hash record = drop at cases_
  intro stale member
  cases cases_ with
  | reposted retains => cases member
  | added absent room => cases member
  | replaced previous retains =>
      rw [List.mem_singleton.mp member]
      exact AcceptanceBooks.mem_store_of_lookup reconciled retains
  | evicted key previous absent full retains =>
      rw [List.mem_singleton.mp member]
      exact AcceptanceBooks.mem_store_of_lookup reconciled retains

/-- Each delete on disk is a delete of the map. -/
theorem mirrored_retire
    (drop : List String) :
    ∀ (disk : Disk) (map : InsertionMap String JsObject),
      (∀ stale ∈ drop,
        matchesHexKey stale = true ∧ (stale ++ extension).length ≤ nameMax) →
      FileSystemArtifactStore.Mirrored json (disk.files .acceptance) map →
        FileSystemArtifactStore.Mirrored json
          ((drop.foldl (fun disk stale => (delete disk .acceptance stale).2)
            disk).files .acceptance)
          (drop.foldl (retire noFaults) map) := by
  induction drop with
  | nil =>
      intro disk map _ mirrored
      exact mirrored
  | cons stale drop inductionHypothesis =>
      intro disk map keyed mirrored
      obtain ⟨⟨normal, fits⟩, others⟩ := List.forall_mem_cons.mp keyed
      have accepted := normalizeHexKey_of_matchesHexKey normal
      obtain ⟨after, answered, erased, -⟩ :=
        delete_of_mirrored .acceptance mirrored accepted fits
      have retired : retire noFaults map stale = map.erase stale :=
        if_neg List.not_mem_nil
      rw [List.foldl_cons, List.foldl_cons, answered, retired]
      exact inductionHypothesis _ _ others erased

theorem matchesHexKey_termsAcceptanceHashHex
    {library : AcceptanceLibrary}
    (digests : ∀ bytes, (library.sha256 bytes).length = 32)
    (record : JsObject) :
    matchesHexKey (library.termsAcceptanceHashHex record) = true ∧
      (library.termsAcceptanceHashHex record ++ extension).length ≤
        nameMax := by
  have length :
      (library.termsAcceptanceSigningBytes record).length = 32 :=
    digests _
  constructor
  · apply matchesHexKey_hex
    intro empty
    rw [empty] at length
    cases length
  · rw [String.length_append, AcceptanceLibrary.termsAcceptanceHashHex,
      ByteText.length_hex, length]
    decide

/-- The call on disk does what the call on the records does. -/
theorem shows_recordTermsAcceptance
    {library : AcceptanceLibrary}
    (digests : ∀ bytes, (library.sha256 bytes).length = 32)
    {deps : AcceptanceDeps} {body : JsValue} {record : JsObject}
    (shows_ : Shows json durable books) (reconciled : books.Reconciled)
    (checked : checkTermsAcceptance library deps body = .ok record)
    (agrees : books.Agrees (library.termsAcceptanceHashHex record) record)
    (reads : json.parse (contents json record) = some record) :
    Shows json (durable.recordTermsAcceptance json library deps body).2
      (books.file noFaults (library.termsAcceptanceHashHex record) record) := by
  obtain ⟨normal, fits⟩ := matchesHexKey_termsAcceptanceHashHex digests record
  generalize hashIs : library.termsAcceptanceHashHex record = hash at *
  have accepted := normalizeHexKey_of_matchesHexKey normal
  obtain ⟨after, answered, written, -⟩ :=
    put_of_mirrored .acceptance shows_.mirrored accepted fits record
  have dropIs :
      ((durable.ledger.remember (recordKey record) hash).1.filter
          (· ≠ hash)) =
        books.drop hash record := by
    rw [AcceptanceBooks.drop_eq, shows_.ledger]
  have keyed :
      ∀ stale ∈ books.drop hash record,
        matchesHexKey stale = true ∧
          (stale ++ extension).length ≤ nameMax := by
    intro stale member
    have stored := mem_store_of_mem_drop reconciled agrees stale member
    exact
      ⟨shows_.mirrored.normal stale stored, shows_.mirrored.fits stale stored⟩
  have step :
      (durable.recordTermsAcceptance json library deps body).2 =
        { disk :=
            (books.drop hash record).foldl
              (fun disk stale => (delete disk .acceptance stale).2) after
          ledger :=
            (durable.ledger.remember (recordKey record) hash).2 } := by
    simp only [DurableBooks.recordTermsAcceptance, checked, hashIs, answered,
      dropIs]
  rw [step]
  constructor
  · exact mirrored_retire _ _ _ keyed written
  · rw [AcceptanceBooks.file_ledger, shows_.ledger]
  · intro found stored held
    by_cases same : found = hash
    · subst same
      rw [AcceptanceBooks.lookup_file_self] at held
      cases held
      exact reads
    · rcases AcceptanceBooks.lookup_file_of_ne books noFaults hash record same
        with gone | kept
      · rw [gone] at held
        cases held
      · exact shows_.readable found stored (kept.symm.trans held)

end Call

end Durable

end Tos

end Btcr2Aggregation
