import Btcr2Aggregation.Library.Machine
import Btcr2Aggregation.Service.FileStore

/-!
# The artifact routes

`GET /cas/:kind/:hash` reads the artifact store for anyone.  What it serves is
what was put last under the digest, in whichever letter case either was spelled;
and it serves the same from memory and from a disk, with one exception.  The
route names are looked up in a plain object, which also answers to the names
every object inherits: the store in memory takes such a name for an empty
namespace, the one on disk throws.
-/

namespace Btcr2Aggregation

section Route

/-! ## The route -/

/-- `KIND_BY_SEGMENT`, what it holds itself. -/
def KIND_BY_SEGMENT : List (String × ArtifactKind) :=
  [("announcement", .announcement), ("proof", .proof), ("update", .update),
    ("genesis", .genesis), ("acceptance", .acceptance)]

/-- The property names every plain object answers to. -/
def objectPrototypeNames : List String :=
  ["constructor", "__defineGetter__", "__defineSetter__", "hasOwnProperty",
    "__lookupGetter__", "__lookupSetter__", "isPrototypeOf",
    "propertyIsEnumerable", "toString", "valueOf", "__proto__", "toLocaleString"]

/-- A truthy value found in the table. -/
inductive SegmentKind where
  | own (kind : ArtifactKind)
  | inherited
  deriving DecidableEq, Repr

def kindBySegment (segment : String) : Option SegmentKind :=
  match KIND_BY_SEGMENT.lookup segment with
  | some kind => some (.own kind)
  | none => if segment ∈ objectPrototypeNames then some .inherited else none

def maxRouteKeyLen : Nat := 128

inductive CasReply (Value : Type) where
  | json (value : Value)
  | refused (error : String) (status : Nat)
  /-- The store rejects, and the server answers 500. -/
  | thrown
  deriving DecidableEq

/-- The shape the route asks of a hash. -/
def isRouteKey (hash : String) : Bool :=
  isHexKey hash && hash.length ≤ maxRouteKeyLen

variable {Value : Type}

/-- The route over a store's `get`, `none` where it rejects. -/
def artifactRoute
    (get : SegmentKind → String → Option (Option Value)) (segment hash : String) :
    CasReply Value :=
  match kindBySegment segment with
  | none => .refused "unknown artifact kind" 404
  | some kind =>
      if ¬ isRouteKey hash then
        .refused "hash must be hex" 400
      else
        match get kind hash.toLower with
        | none => .thrown
        | some none => .refused "not found" 404
        | some (some value) => .json value

/-- The map of an inherited name is made on the spot, and empty. -/
def MemoryArtifactStore.getAny (store : MemoryArtifactStore Value)
    (kind : SegmentKind) (hashHex : String) : Option (Option Value) :=
  match kind with
  | .own kind => (store.get kind hashHex).toOption
  | .inherited => (normalizeHexKey hashHex).toOption.map fun _ => none

/-- `join` throws for anything but a text. -/
def FileSystemArtifactStore.getAny (json : JsonText Value) (disk : Disk)
    (kind : SegmentKind) (hashHex : String) : Option (Option Value) :=
  match kind with
  | .own kind => (FileSystemArtifactStore.get json disk kind hashHex).toOption
  | .inherited => none

end Route

section Runs

/-! ## The stores after a list of calls -/

variable {Value : Type}

def MemoryArtifactStore.after (calls : List (StoreCall Value)) :
    MemoryArtifactStore Value :=
  calls.foldl (fun store call => (store.step call).2) .empty

def FileSystemArtifactStore.after
    (json : JsonText Value) (listing : ReaddirOrder)
    (calls : List (StoreCall Value)) : Disk :=
  calls.foldl (fun disk call => (step json listing disk call).2) .empty

/-- Every key a call names has a name short enough for a file. -/
def StoreCall.fits (call : StoreCall Value) : Bool :=
  call.hashHex?.all fun hashHex =>
    (hashHex.toLower ++ FileSystemArtifactStore.extension).length ≤ nameMax

theorem StoreCall.fits_iff {call : StoreCall Value} :
    call.fits = true ↔
      ∀ hashHex ∈ call.hashHex?, FileSystemArtifactStore.Fits hashHex := by
  simp only [StoreCall.fits, Option.all_eq_true, decide_eq_true_eq,
    FileSystemArtifactStore.Fits, Option.mem_def]

/-- A name too long for a file resolves to nothing: neither a write nor an
unlink under it leaves more than an empty directory. -/
theorem files_step_of_overlong
    (json : JsonText Value) (listing : ReaddirOrder) (disk : Disk)
    {call : StoreCall Value} (long : call.fits = false) (kind : ArtifactKind) :
    (FileSystemArtifactStore.step json listing disk call).2.files kind =
      disk.files kind := by
  have tooLong :
      ∀ {hashHex key : String}, call.hashHex? = some hashHex →
        normalizeHexKey hashHex = .ok key →
          nameMax < (key ++ FileSystemArtifactStore.extension).length := by
    intro hashHex key named accepted
    obtain ⟨rfl, -⟩ := normalizeHexKey_eq_ok accepted
    simp only [StoreCall.fits, named, Option.all_some, decide_eq_false_iff_not,
      not_le] at long
    exact long
  cases call with
  | get other hashHex =>
      simp only [FileSystemArtifactStore.step]
      split <;> rfl
  | has other hashHex =>
      simp only [FileSystemArtifactStore.step]
      split <;> rfl
  | entries other => cases long
  | put other hashHex value =>
      cases accepted : normalizeHexKey hashHex with
      | error message =>
          simp only [FileSystemArtifactStore.step, FileSystemArtifactStore.put,
            FileSystemArtifactStore.file_of_error accepted]
      | ok key =>
          have made :
              (disk.mkdir other).directories other = some (disk.files other) :=
            Function.update_self _ _ _
          simp only [FileSystemArtifactStore.step, FileSystemArtifactStore.put,
            FileSystemArtifactStore.file_of_ok accepted, Disk.writeFile,
            Disk.resolve, made, if_pos (tooLong rfl accepted), bind, Except.bind]
          exact Disk.files_mkdir disk other kind
  | delete other hashHex =>
      cases accepted : normalizeHexKey hashHex with
      | error message =>
          simp only [FileSystemArtifactStore.step, FileSystemArtifactStore.delete,
            FileSystemArtifactStore.file_of_error accepted, bind, Except.bind]
      | ok key =>
          simp only [FileSystemArtifactStore.step, FileSystemArtifactStore.delete,
            FileSystemArtifactStore.file_of_ok accepted, Disk.unlink,
            Disk.resolve, bind, Except.bind]
          cases made : disk.directories other with
          | none => rfl
          | some files => simp only [if_pos (tooLong rfl accepted)]

/-- The disk mirrors the memory that took the calls whose names fit. -/
theorem mirrors_after
    {json : JsonText Value} (lawful : json.Lawful) (listing : ReaddirOrder)
    (calls : List (StoreCall Value)) :
    FileSystemArtifactStore.Mirrors json
      (FileSystemArtifactStore.after json listing calls)
      (MemoryArtifactStore.after (calls.filter StoreCall.fits)) := by
  induction calls using List.reverseRecOn with
  | nil => exact mirrors_empty
  | append_singleton calls call inductionHypothesis =>
      have disk :
          FileSystemArtifactStore.after json listing (calls ++ [call]) =
            (FileSystemArtifactStore.step json listing
              (FileSystemArtifactStore.after json listing calls) call).2 := by
        rw [FileSystemArtifactStore.after, List.foldl_append]
        rfl
      rw [disk, List.filter_append]
      cases short : call.fits with
      | true =>
          rw [List.filter_cons_of_pos short, MemoryArtifactStore.after,
            List.foldl_append]
          exact
            (agree_step lawful listing inductionHypothesis call
              (StoreCall.fits_iff.mp short)).2
      | false =>
          rw [List.filter_cons_of_neg (by simp [short]), List.filter_nil,
            List.append_nil]
          intro kind
          rw [files_step_of_overlong json listing _ short]
          exact inductionHypothesis kind

/-- What a call makes of one key: a value, nothing, or what it was. -/
def StoreCall.effect? (kind : ArtifactKind) (key : String) :
    StoreCall Value → Option (Option Value)
  | .put other hashHex value =>
      if other = kind ∧ hashHex.toLower = key then some (some value) else none
  | .delete other hashHex =>
      if other = kind ∧ hashHex.toLower = key then some none else none
  | _ => none

/-- A key the store refuses is no spelling of one in normal form. -/
theorem toLower_ne_of_error
    {hashHex key message : String} (normal : matchesHexKey key = true)
    (refused : normalizeHexKey hashHex = .error message) :
    hashHex.toLower ≠ key := by
  rintro rfl
  rw [normalizeHexKey, if_pos normal] at refused
  cases refused

/-- A map changed at one key is changed at that key of its kind. -/
theorem lookup_update
    {maps : ArtifactKind → InsertionMap String Value} {other kind : ArtifactKind}
    {changed : InsertionMap String Value} {lower key : String}
    {written : Option Value} (there : changed.lookup lower = written)
    (elsewhere :
      ∀ besides, besides ≠ lower →
        changed.lookup besides = (maps other).lookup besides) :
    (Function.update maps other changed kind).lookup key =
      if other = kind ∧ lower = key then written
      else (maps kind).lookup key := by
  by_cases here : other = kind
  · subst here
    rw [Function.update_self]
    by_cases same : lower = key
    · subst same
      rw [if_pos ⟨rfl, rfl⟩, there]
    · rw [if_neg (fun both => same both.2), elsewhere key (Ne.symm same)]
  · rw [Function.update_of_ne (Ne.symm here),
      if_neg (fun both => here both.1)]

theorem lookup_step
    {kind : ArtifactKind} {key : String} (normal : matchesHexKey key = true)
    (store : MemoryArtifactStore Value) (call : StoreCall Value) :
    ((store.step call).2.maps kind).lookup key =
      (call.effect? kind key).getD ((store.maps kind).lookup key) := by
  cases call with
  | get other hashHex =>
      simp only [MemoryArtifactStore.step]
      split <;> rfl
  | has other hashHex =>
      simp only [MemoryArtifactStore.step]
      split <;> rfl
  | entries other => rfl
  | put other hashHex value =>
      cases accepted : normalizeHexKey hashHex with
      | error message =>
          have differs := toLower_ne_of_error normal accepted
          simp only [MemoryArtifactStore.step, MemoryArtifactStore.put, accepted,
            bind, Except.bind, StoreCall.effect?, differs, and_false, if_false]
          rfl
      | ok lower =>
          obtain ⟨rfl, -⟩ := normalizeHexKey_eq_ok accepted
          simp only [MemoryArtifactStore.step, MemoryArtifactStore.put, accepted,
            bind, Except.bind, pure, Except.pure, StoreCall.effect?]
          rw [lookup_update (InsertionMap.lookup_set_self _ _ _)
            (fun besides => InsertionMap.lookup_set_of_ne)]
          split <;> rfl
  | delete other hashHex =>
      cases accepted : normalizeHexKey hashHex with
      | error message =>
          have differs := toLower_ne_of_error normal accepted
          simp only [MemoryArtifactStore.step, MemoryArtifactStore.delete,
            accepted, bind, Except.bind, StoreCall.effect?, differs, and_false,
            if_false]
          rfl
      | ok lower =>
          obtain ⟨rfl, -⟩ := normalizeHexKey_eq_ok accepted
          simp only [MemoryArtifactStore.step, MemoryArtifactStore.delete,
            accepted, bind, Except.bind, pure, Except.pure, StoreCall.effect?]
          rw [lookup_update (AList.lookup_erase _ _)
            (fun besides => AList.lookup_erase_ne)]
          split <;> rfl

theorem lookup_after_concat
    {kind : ArtifactKind} {key : String} (normal : matchesHexKey key = true)
    (calls : List (StoreCall Value)) (call : StoreCall Value) :
    ((MemoryArtifactStore.after (calls ++ [call])).maps kind).lookup key =
      (call.effect? kind key).getD
        (((MemoryArtifactStore.after calls).maps kind).lookup key) := by
  rw [MemoryArtifactStore.after, List.foldl_append, List.foldl_cons,
    List.foldl_nil, lookup_step normal]
  rfl

/-- A call under too long a name is about no key that is short enough. -/
theorem effect?_of_overlong
    {call : StoreCall Value} {kind : ArtifactKind} {key : String}
    (long : call.fits = false)
    (short :
      (key ++ FileSystemArtifactStore.extension).length ≤ nameMax) :
    call.effect? kind key = none := by
  have other :
      ∀ hashHex, call.hashHex? = some hashHex → hashHex.toLower ≠ key := by
    rintro hashHex named rfl
    simp only [StoreCall.fits, named, Option.all_some, decide_eq_false_iff_not]
      at long
    exact long short
  cases call with
  | get kind hashHex => rfl
  | has kind hashHex => rfl
  | entries kind => rfl
  | put besides hashHex value =>
      exact if_neg fun both => other hashHex rfl both.2
  | delete besides hashHex =>
      exact if_neg fun both => other hashHex rfl both.2

/-- Leaving out the calls whose names do not fit changes no key that does. -/
theorem lookup_after_filter
    {kind : ArtifactKind} {key : String} (normal : matchesHexKey key = true)
    (short : (key ++ FileSystemArtifactStore.extension).length ≤ nameMax)
    (calls : List (StoreCall Value)) :
    ((MemoryArtifactStore.after (calls.filter StoreCall.fits)).maps kind).lookup
        key =
      ((MemoryArtifactStore.after calls).maps kind).lookup key := by
  induction calls using List.reverseRecOn with
  | nil => rfl
  | append_singleton calls call inductionHypothesis =>
      rw [List.filter_append, lookup_after_concat normal]
      cases fits : call.fits with
      | true =>
          rw [List.filter_cons_of_pos fits, List.filter_nil,
            lookup_after_concat normal, inductionHypothesis]
      | false =>
          rw [List.filter_cons_of_neg (by simp [fits]), List.filter_nil,
            List.append_nil, inductionHypothesis,
            effect?_of_overlong fits short, Option.getD_none]

/-- The last call that touched a key put this value there. -/
def LastPut
    (calls : List (StoreCall Value)) (kind : ArtifactKind) (key : String)
    (value : Value) : Prop :=
  ∃ before call after,
    calls = before ++ call :: after ∧
      call.effect? kind key = some (some value) ∧
        ∀ later ∈ after, later.effect? kind key = none

theorem lastPut_concat_iff
    {calls : List (StoreCall Value)} {call : StoreCall Value}
    {kind : ArtifactKind} {key : String} {value : Value} :
    LastPut (calls ++ [call]) kind key value ↔
      call.effect? kind key = some (some value) ∨
        call.effect? kind key = none ∧ LastPut calls kind key value := by
  unfold LastPut
  simp only [Machine.concat_eq_append_cons_iff]
  constructor
  · rintro ⟨before, chosen, after, ⟨-, rfl, rfl⟩ | ⟨rest, rfl, split⟩, puts, untouched⟩
    · exact Or.inl puts
    · obtain ⟨earlier, last⟩ := List.forall_mem_append.mp untouched
      exact Or.inr ⟨last call List.mem_cons_self, before, chosen, rest, split, puts, earlier⟩
  · rintro (puts | ⟨leaves, before, chosen, rest, split, puts, untouched⟩)
    · refine ⟨calls, call, [], Or.inl ⟨rfl, rfl, rfl⟩, puts, ?_⟩
      intro later member
      cases member
    · refine ⟨before, chosen, rest ++ [call], Or.inr ⟨rest, rfl, split⟩, puts, ?_⟩
      refine List.forall_mem_append.mpr ⟨untouched, ?_⟩
      intro later member
      rw [List.mem_singleton.mp member]
      exact leaves

/-- A key holds what was put there last. -/
theorem lookup_after_iff
    {kind : ArtifactKind} {key : String} (normal : matchesHexKey key = true)
    (calls : List (StoreCall Value)) (value : Value) :
    ((MemoryArtifactStore.after calls).maps kind).lookup key = some value ↔
      LastPut calls kind key value := by
  induction calls using List.reverseRecOn with
  | nil =>
      constructor
      · intro held
        cases held
      · rintro ⟨before, call, after, split, -⟩
        exact absurd split.symm (List.append_ne_nil_of_right_ne_nil _ (List.cons_ne_nil _ _))
  | append_singleton calls call inductionHypothesis =>
      rw [lastPut_concat_iff, ← inductionHypothesis, lookup_after_concat normal]
      cases call.effect? kind key with
      | none => simp
      | some written => simp

end Runs

section Served

/-! ## What the route serves -/

variable {Value : Type}

/-- No inherited name is one of the table's own. -/
theorem kindBySegment_eq_inherited_iff {segment : String} :
    kindBySegment segment = some .inherited ↔ segment ∈ objectPrototypeNames := by
  have apart :
      ∀ name ∈ objectPrototypeNames, KIND_BY_SEGMENT.lookup name = none := by
    decide
  unfold kindBySegment
  constructor
  · intro found
    split at found
    · cases found
    · by_contra absent
      rw [if_neg absent] at found
      cases found
  · intro member
    rw [apart segment member]
    exact if_pos member

theorem kindBySegment_ne_own
    {segment : String} (unnamed : KIND_BY_SEGMENT.lookup segment = none)
    {kind : ArtifactKind} : kindBySegment segment ≠ some (.own kind) := by
  rw [kindBySegment, unnamed]
  split
  · rename_i found
    cases found
  · split <;> simp

theorem matchesHexKey_of_isRouteKey
    {hash : String} (shaped : isRouteKey hash = true) :
    matchesHexKey hash.toLower = true :=
  ((Bool.and_eq_true _ _).mp shaped).1

/-- A key of the route is one of the stores', in normal form once lowered. -/
theorem normalizeHexKey_of_isRouteKey
    {hash : String} (shaped : isRouteKey hash = true) :
    normalizeHexKey hash.toLower = .ok hash.toLower :=
  normalizeHexKey_of_matchesHexKey (matchesHexKey_of_isRouteKey shaped)

/-- The bound on a key keeps the name of its file short enough. -/
theorem fits_of_isRouteKey {hash : String} (shaped : isRouteKey hash = true) :
    (hash.toLower ++ FileSystemArtifactStore.extension).length ≤ nameMax := by
  have bounded : hash.length ≤ maxRouteKeyLen :=
    of_decide_eq_true ((Bool.and_eq_true _ _).mp shaped).2
  have lower : hash.toLower.length = hash.length := String.length_map
  have short : FileSystemArtifactStore.extension.length = 5 := by decide
  rw [String.length_append, lower, short]
  unfold maxRouteKeyLen at bounded
  unfold nameMax
  omega

theorem memory_getAny_own
    (store : MemoryArtifactStore Value) (kind : ArtifactKind) {hash : String}
    (shaped : isRouteKey hash = true) :
    store.getAny (.own kind) hash.toLower =
      some ((store.maps kind).lookup hash.toLower) := by
  simp only [MemoryArtifactStore.getAny, MemoryArtifactStore.get,
    normalizeHexKey_of_isRouteKey shaped]
  rfl

theorem memory_getAny_inherited
    (store : MemoryArtifactStore Value) {hash : String}
    (shaped : isRouteKey hash = true) :
    store.getAny .inherited hash.toLower = some none := by
  simp only [MemoryArtifactStore.getAny, normalizeHexKey_of_isRouteKey shaped]
  rfl

theorem disk_getAny_own
    {json : JsonText Value} (lawful : json.Lawful) (listing : ReaddirOrder)
    (calls : List (StoreCall Value)) (kind : ArtifactKind) {hash : String}
    (shaped : isRouteKey hash = true) :
    FileSystemArtifactStore.getAny json
        (FileSystemArtifactStore.after json listing calls) (.own kind)
        hash.toLower =
      some
        (((MemoryArtifactStore.after calls).maps kind).lookup hash.toLower) := by
  have fits := fits_of_isRouteKey shaped
  simp only [FileSystemArtifactStore.getAny, FileSystemArtifactStore.get,
    FileSystemArtifactStore.read_of_mirrored lawful
      (mirrors_after lawful listing calls kind)
      (normalizeHexKey_of_isRouteKey shaped) fits,
    lookup_after_filter (matchesHexKey_of_isRouteKey shaped) fits]
  cases ((MemoryArtifactStore.after calls).maps kind).lookup hash.toLower with
  | none => rfl
  | some value => rfl

/-- The two stores are served alike but for an inherited name. -/
theorem artifactRoute_alike_iff
    {json : JsonText Value} (lawful : json.Lawful) (listing : ReaddirOrder)
    (calls : List (StoreCall Value)) (segment hash : String) :
    artifactRoute
        (FileSystemArtifactStore.getAny json
          (FileSystemArtifactStore.after json listing calls))
        segment hash =
      artifactRoute (MemoryArtifactStore.after calls).getAny segment hash ↔
    (segment ∈ objectPrototypeNames → isRouteKey hash = false) := by
  rw [← kindBySegment_eq_inherited_iff]
  unfold artifactRoute
  cases kindBySegment segment with
  | none => simp
  | some kind =>
      cases shaped : isRouteKey hash with
      | false => simp
      | true =>
          cases kind with
          | own kind =>
              simp [disk_getAny_own lawful listing calls kind shaped,
                memory_getAny_own _ kind shaped]
          | inherited =>
              simp [FileSystemArtifactStore.getAny,
                memory_getAny_inherited _ shaped]

/-- One value, put under a digest in mixed case. -/
def mixedCaseCalls : List (StoreCall Bool) :=
  [.put .proof "aB" true]

theorem mixedCase_toLower : "aB".toLower = "ab" ∧ "Ab".toLower = "ab" := by
  constructor
  · exact String.toList_inj.mp (String.toList_map.trans (by decide))
  · exact String.toList_inj.mp (String.toList_map.trans (by decide))

theorem isRouteKey_mixedCase : isRouteKey "Ab" = true := by
  rw [isRouteKey, isHexKey, mixedCase_toLower.2]
  decide

theorem artifactRoute_alike_constructor :
    artifactRoute
        (FileSystemArtifactStore.getAny jsonBooleans
          (FileSystemArtifactStore.after jsonBooleans
            ⟨List.reverse, List.reverse_perm⟩ mixedCaseCalls))
        "constructor" "Ab" ≠
      artifactRoute (MemoryArtifactStore.after mixedCaseCalls).getAny
        "constructor" "Ab" := by
  rw [ne_eq,
    artifactRoute_alike_iff jsonBooleans_lawful ⟨List.reverse, List.reverse_perm⟩
      mixedCaseCalls "constructor" "Ab",
    isRouteKey_mixedCase]
  decide

/-- A route serves what its store holds of the kind a segment names. -/
theorem artifactRoute_eq_json_iff
    {get : SegmentKind → String → Option (Option Value)} {hash : String}
    {held : ArtifactKind → Option Value}
    (own :
      isRouteKey hash = true → ∀ kind, get (.own kind) hash.toLower = some (held kind))
    (inherited :
      isRouteKey hash = true →
        ∀ value, get .inherited hash.toLower ≠ some (some value))
    (segment : String) (value : Value) :
    artifactRoute get segment hash = .json value ↔
      isRouteKey hash = true ∧
        ∃ kind, KIND_BY_SEGMENT.lookup segment = some kind ∧
          held kind = some value := by
  unfold artifactRoute
  cases shaped : isRouteKey hash with
  | false => cases kindBySegment segment <;> simp
  | true =>
      cases named : KIND_BY_SEGMENT.lookup segment with
      | some kind =>
          have found : kindBySegment segment = some (.own kind) := by
            rw [kindBySegment, named]
          simp only [found, own shaped]
          cases stored : held kind <;> simp [stored]
      | none =>
          cases found : kindBySegment segment with
          | none => simp
          | some other =>
              cases other with
              | own kind => exact absurd found (kindBySegment_ne_own named)
              | inherited =>
                  cases answer : get .inherited hash.toLower with
                  | none => simp [answer]
                  | some reply =>
                      cases reply with
                      | none => simp [answer]
                      | some served => exact absurd answer (inherited shaped served)

/-- The route serves what was put last under the digest. -/
theorem artifact_served_iff
    {json : JsonText Value} (lawful : json.Lawful) (listing : ReaddirOrder)
    (calls : List (StoreCall Value)) (segment hash : String) (value : Value) :
    ∀ get ∈
      [(MemoryArtifactStore.after calls).getAny,
        FileSystemArtifactStore.getAny json
          (FileSystemArtifactStore.after json listing calls)],
      artifactRoute get segment hash = .json value ↔
        isRouteKey hash = true ∧
          ∃ kind, KIND_BY_SEGMENT.lookup segment = some kind ∧
            LastPut calls kind hash.toLower value := by
  have serves :
      ∀ get : SegmentKind → String → Option (Option Value),
        (isRouteKey hash = true →
          ∀ kind, get (.own kind) hash.toLower =
            some (((MemoryArtifactStore.after calls).maps kind).lookup hash.toLower)) →
        (isRouteKey hash = true →
          ∀ value, get .inherited hash.toLower ≠ some (some value)) →
        (artifactRoute get segment hash = .json value ↔
          isRouteKey hash = true ∧
            ∃ kind, KIND_BY_SEGMENT.lookup segment = some kind ∧
              LastPut calls kind hash.toLower value) := by
    intro get own inherited
    rw [artifactRoute_eq_json_iff own inherited]
    refine and_congr_right fun shaped => exists_congr fun kind => and_congr_right ?_
    intro _
    exact lookup_after_iff (matchesHexKey_of_isRouteKey shaped) calls value
  simp only [List.forall_mem_cons]
  refine ⟨?_, ?_, by simp⟩
  · refine serves _ (fun shaped kind => memory_getAny_own _ kind shaped) ?_
    intro shaped served
    rw [memory_getAny_inherited _ shaped]
    simp
  · refine serves _ (fun shaped kind => disk_getAny_own lawful listing calls kind shaped) ?_
    intro _ served
    simp [FileSystemArtifactStore.getAny]

theorem artifact_served_mixedCase :
    artifactRoute
        (FileSystemArtifactStore.getAny jsonBooleans
          (FileSystemArtifactStore.after jsonBooleans
            ⟨List.reverse, List.reverse_perm⟩ mixedCaseCalls))
        "proof" "Ab" = .json true := by
  have served :=
    artifact_served_iff jsonBooleans_lawful ⟨List.reverse, List.reverse_perm⟩
      mixedCaseCalls "proof" "Ab" true _
      (List.mem_cons_of_mem _ List.mem_cons_self)
  refine served.mpr ⟨isRouteKey_mixedCase, .proof, by decide, ?_⟩
  refine ⟨[], .put .proof "aB" true, [], rfl, ?_, by simp⟩
  rw [mixedCase_toLower.2]
  exact if_pos ⟨rfl, mixedCase_toLower.1⟩

end Served

end Btcr2Aggregation
