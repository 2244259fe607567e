import Mathlib.Data.List.Perm.Basic
import Mathlib.Data.List.DropRight
import Btcr2Aggregation.Library.Transcript
import Btcr2Aggregation.Service.ArtifactStore

/-!
# The artifact store on disk

A directory for each kind of artifact, a file for each key.  The in-memory store
keys a map by the normalised key; this one names a file after it, and reads the
key back off the name when a namespace is listed.  On keys whose file name fits
a directory entry, the two answer every call alike.
-/

namespace Btcr2Aggregation

open InsertionMap

section Disk

/-! ## The file system -/

/-- What an operation of the store throws. -/
inductive StoreError where
  | badKey (message : String)
  | enoent
  | enametoolong
  | syntaxError
  deriving DecidableEq

/-- The directories under the root, each with the texts of its files. -/
structure Disk where
  directories : ArtifactKind → Option (InsertionMap String String)

/-- The order in which a directory lists its names. -/
structure ReaddirOrder where
  order : List String → List String
  perm : ∀ names, (order names).Perm names

/-- `JSON.stringify(value, null, 2)` and `JSON.parse`; `none` is a
`SyntaxError`. -/
structure JsonText (Value : Type) where
  stringify : Value → String
  parse : String → Option Value

/-- What the JSON functions are relied on for: parsing undoes writing, and a
line break at the end of a text is white space. -/
structure JsonText.Lawful {Value : Type} (json : JsonText Value) : Prop where
  inverts : ∀ value, json.parse (json.stringify value) = some value
  trailing : ∀ text, json.parse (text ++ "\n") = json.parse text

/-- The longest name a directory entry can have, in bytes.  The names this store
writes are hexadecimal digits and `.json`, a byte each. -/
def nameMax : Nat := 255

namespace Disk

/-- A root directory with nothing in it. -/
def empty : Disk where
  directories _ := none

/-- The files of a kind; a directory that was never made has none. -/
def files (disk : Disk) (kind : ArtifactKind) : InsertionMap String String :=
  (disk.directories kind).getD ∅

/-- The directory of a kind with these files in it. -/
def withFiles
    (disk : Disk) (kind : ArtifactKind) (files : InsertionMap String String) :
    Disk where
  directories := Function.update disk.directories kind (some files)

/-- `mkdir(dir, { recursive: true })`. -/
def mkdir (disk : Disk) (kind : ArtifactKind) : Disk :=
  disk.withFiles kind (disk.files kind)

/-- The directory an operation on one of its names reaches. -/
def resolve (disk : Disk) (kind : ArtifactKind) (name : String) :
    Except StoreError (InsertionMap String String) :=
  match disk.directories kind with
  | none => .error .enoent
  | some files =>
      if nameMax < name.length then .error .enametoolong else .ok files

def writeFile
    (disk : Disk) (kind : ArtifactKind) (name text : String) :
    Except StoreError Disk := do
  let files ← disk.resolve kind name
  return disk.withFiles kind (files.set name text)

def readFile (disk : Disk) (kind : ArtifactKind) (name : String) :
    Except StoreError String := do
  let files ← disk.resolve kind name
  match files.lookup name with
  | none => .error .enoent
  | some text => return text

def unlink (disk : Disk) (kind : ArtifactKind) (name : String) :
    Except StoreError Disk := do
  let files ← disk.resolve kind name
  if name ∈ files then
    return disk.withFiles kind (files.erase name)
  else
    .error .enoent

def existsSync (disk : Disk) (kind : ArtifactKind) (name : String) : Bool :=
  match disk.resolve kind name with
  | .ok files => decide (name ∈ files)
  | .error _ => false

def readdir (listing : ReaddirOrder) (disk : Disk) (kind : ArtifactKind) :
    Except StoreError (List String) :=
  match disk.directories kind with
  | none => .error .enoent
  | some files => .ok (listing.order files.keys)

end Disk

end Disk

section Store

/-! ## The store -/

namespace FileSystemArtifactStore

def extension : String := ".json"

/-- The name of a key's file. -/
def file (hashHex : String) : Except StoreError String :=
  match normalizeHexKey hashHex with
  | .error message => .error (.badKey message)
  | .ok key => .ok (key ++ extension)

/-- The part of a name before its extension. -/
def keyOf? (name : String) : Option String :=
  if extension.toList.isSuffixOf name.toList then
    some (String.ofList (name.toList.rdrop extension.length))
  else
    none

variable {Value : Type} (json : JsonText Value)

/-- What is written of a value. -/
def contents (value : Value) : String :=
  json.stringify value ++ "\n"

def put
    (disk : Disk) (kind : ArtifactKind) (hashHex : String) (value : Value) :
    Except StoreError Unit × Disk :=
  match file hashHex with
  | .error error => (.error error, disk)
  | .ok name =>
      match (disk.mkdir kind).writeFile kind name (contents json value) with
      | .error error => (.error error, disk.mkdir kind)
      | .ok written => (.ok (), written)

/-- The value behind a key, or what keeps it from being read. -/
def read (disk : Disk) (kind : ArtifactKind) (hashHex : String) :
    Except StoreError Value := do
  let name ← file hashHex
  let text ← disk.readFile kind name
  match json.parse text with
  | none => .error .syntaxError
  | some value => return value

/-- An absent file, a name too long for one and an unparseable one are alike
absent. -/
def get (disk : Disk) (kind : ArtifactKind) (hashHex : String) :
    Except StoreError (Option Value) :=
  match read json disk kind hashHex with
  | .ok value => .ok (some value)
  | .error .enoent => .ok none
  | .error .enametoolong => .ok none
  | .error .syntaxError => .ok none
  | .error error => .error error

def has (disk : Disk) (kind : ArtifactKind) (hashHex : String) :
    Except StoreError Bool := do
  let name ← file hashHex
  return disk.existsSync kind name

def delete (disk : Disk) (kind : ArtifactKind) (hashHex : String) :
    Except StoreError Unit × Disk :=
  match (do disk.unlink kind (← file hashHex)) with
  | .ok unlinked => (.ok (), unlinked)
  | .error .enoent => (.ok (), disk)
  | .error .enametoolong => (.ok (), disk)
  | .error error => (.error error, disk)

/-- One name of a listing; a name that is no artifact's and an artifact that
cannot be read are skipped. -/
def entryOf? (disk : Disk) (kind : ArtifactKind) (name : String) :
    Option (String × Value) := do
  let key ← keyOf? name
  guard (isHexKey key)
  let text ← (disk.readFile kind name).toOption
  let value ← json.parse text
  return (key, value)

def entries
    (listing : ReaddirOrder) (disk : Disk) (kind : ArtifactKind) :
    Except StoreError (List (String × Value)) :=
  match disk.readdir listing kind with
  | .error .enoent => .ok []
  | .error error => .error error
  | .ok names => .ok (names.filterMap (entryOf? json disk kind))

end FileSystemArtifactStore

end Store

section Calls

/-! ## Calls and answers -/

inductive StoreCall (Value : Type) where
  | put (kind : ArtifactKind) (hashHex : String) (value : Value)
  | get (kind : ArtifactKind) (hashHex : String)
  | has (kind : ArtifactKind) (hashHex : String)
  | delete (kind : ArtifactKind) (hashHex : String)
  | entries (kind : ArtifactKind)

inductive StoreAnswer (Value : Type) where
  | done
  | value (found : Option Value)
  | present (held : Bool)
  | listed (entries : List (String × Value))
  | rejected (error : StoreError)
  deriving DecidableEq

/-- The same answer, entries up to order. -/
inductive StoreAnswer.Same {Value : Type} :
    StoreAnswer Value → StoreAnswer Value → Prop
  | refl (answer : StoreAnswer Value) : Same answer answer
  | listed {first second : List (String × Value)} (perm : first.Perm second) :
      Same (.listed first) (.listed second)

variable {Value : Type}

/-- A call of the in-memory store. -/
def MemoryArtifactStore.step
    (store : MemoryArtifactStore Value) :
    StoreCall Value → StoreAnswer Value × MemoryArtifactStore Value
  | .put kind hashHex value =>
      match store.put kind hashHex value with
      | .ok after => (.done, after)
      | .error message => (.rejected (.badKey message), store)
  | .get kind hashHex =>
      match store.get kind hashHex with
      | .ok found => (.value found, store)
      | .error message => (.rejected (.badKey message), store)
  | .has kind hashHex =>
      match store.has kind hashHex with
      | .ok held => (.present held, store)
      | .error message => (.rejected (.badKey message), store)
  | .delete kind hashHex =>
      match store.delete kind hashHex with
      | .ok after => (.done, after)
      | .error message => (.rejected (.badKey message), store)
  | .entries kind => (.listed (store.entries kind), store)

/-- A call of the store on disk. -/
def FileSystemArtifactStore.step
    (json : JsonText Value) (listing : ReaddirOrder) (disk : Disk) :
    StoreCall Value → StoreAnswer Value × Disk
  | .put kind hashHex value =>
      let (outcome, after) := put json disk kind hashHex value
      match outcome with
      | .ok _ => (.done, after)
      | .error error => (.rejected error, after)
  | .get kind hashHex =>
      match get json disk kind hashHex with
      | .ok found => (.value found, disk)
      | .error error => (.rejected error, disk)
  | .has kind hashHex =>
      match has disk kind hashHex with
      | .ok held => (.present held, disk)
      | .error error => (.rejected error, disk)
  | .delete kind hashHex =>
      let (outcome, after) := delete disk kind hashHex
      match outcome with
      | .ok _ => (.done, after)
      | .error error => (.rejected error, after)
  | .entries kind =>
      match entries json listing disk kind with
      | .ok listed => (.listed listed, disk)
      | .error error => (.rejected error, disk)

end Calls

section Mirror

/-! ## Files that mirror a map -/

namespace Disk

variable {disk : Disk} {kind : ArtifactKind} {name : String}

theorem directories_withFiles
    (disk : Disk) (kind other : ArtifactKind)
    (files : InsertionMap String String) :
    (disk.withFiles kind files).directories other =
      if other = kind then some files else disk.directories other :=
  Function.update_apply _ _ _ _

theorem files_withFiles
    (disk : Disk) (kind other : ArtifactKind)
    (files : InsertionMap String String) :
    (disk.withFiles kind files).files other =
      if other = kind then files else disk.files other := by
  unfold Disk.files
  rw [directories_withFiles]
  by_cases same : other = kind
  · rw [if_pos same, if_pos same, Option.getD_some]
  · rw [if_neg same, if_neg same]

theorem files_mkdir (disk : Disk) (kind other : ArtifactKind) :
    (disk.mkdir kind).files other = disk.files other := by
  rw [mkdir, files_withFiles]
  by_cases same : other = kind
  · rw [if_pos same, same]
  · rw [if_neg same]

theorem readFile_of_fits (fits : name.length ≤ nameMax) :
    disk.readFile kind name =
      match (disk.files kind).lookup name with
      | none => .error .enoent
      | some text => .ok text := by
  unfold readFile resolve files
  cases made : disk.directories kind with
  | none => rfl
  | some files =>
      simp only [if_neg (Nat.not_lt.mpr fits), Option.getD_some]
      rfl

/-- A file that cannot be read is absent, or its name is too long. -/
theorem eq_of_readFile_error {error : StoreError}
    (failed : disk.readFile kind name = .error error) :
    error = .enoent ∨ error = .enametoolong := by
  unfold readFile resolve at failed
  cases made : disk.directories kind with
  | none =>
      rw [made] at failed
      cases failed
      exact .inl rfl
  | some files =>
      rw [made] at failed
      by_cases long : nameMax < name.length
      · simp only [if_pos long] at failed
        cases failed
        exact .inr rfl
      · simp only [if_neg long, bind, Except.bind] at failed
        cases found : files.lookup name with
        | none =>
            rw [found] at failed
            cases failed
            exact .inl rfl
        | some text =>
            rw [found] at failed
            cases failed

theorem existsSync_of_fits (fits : name.length ≤ nameMax) :
    disk.existsSync kind name = decide (name ∈ disk.files kind) := by
  unfold existsSync resolve files
  cases made : disk.directories kind with
  | none => rfl
  | some files =>
      simp only [if_neg (Nat.not_lt.mpr fits), Option.getD_some]

theorem writeFile_mkdir_of_fits (fits : name.length ≤ nameMax) (text : String) :
    (disk.mkdir kind).writeFile kind name text =
      .ok ((disk.mkdir kind).withFiles kind
        ((disk.files kind).set name text)) := by
  have made : (disk.mkdir kind).directories kind = some (disk.files kind) :=
    Function.update_self _ _ _
  simp only [writeFile, resolve, made, if_neg (Nat.not_lt.mpr fits)]
  rfl

theorem unlink_of_mem
    (fits : name.length ≤ nameMax) (held : name ∈ disk.files kind) :
    disk.unlink kind name =
      .ok (disk.withFiles kind ((disk.files kind).erase name)) := by
  unfold unlink resolve
  unfold files at held ⊢
  cases made : disk.directories kind with
  | none =>
      rw [made] at held
      cases held
  | some files =>
      rw [made, Option.getD_some] at held
      simp only [if_neg (Nat.not_lt.mpr fits), Option.getD_some]
      exact if_pos held

theorem unlink_of_notMem
    (fits : name.length ≤ nameMax) (absent : name ∉ disk.files kind) :
    disk.unlink kind name = .error .enoent := by
  unfold unlink resolve
  unfold files at absent
  cases made : disk.directories kind with
  | none => rfl
  | some files =>
      rw [made, Option.getD_some] at absent
      simp only [if_neg (Nat.not_lt.mpr fits)]
      exact if_neg absent

end Disk

namespace FileSystemArtifactStore

variable {Value : Type} {json : JsonText Value}

theorem keyOf?_append (key : String) :
    keyOf? (key ++ extension) = some key := by
  have ends : extension.toList.isSuffixOf (key ++ extension).toList = true := by
    rw [List.isSuffixOf_iff_suffix, String.toList_append]
    exact List.suffix_append _ _
  rw [keyOf?, if_pos ends, String.toList_append]
  have lengths : extension.length = extension.toList.length :=
    String.length_toList.symm
  rw [lengths, List.rdrop_append_length, String.ofList_toList]

theorem eq_append_of_keyOf? {name key : String}
    (found : keyOf? name = some key) : name = key ++ extension := by
  unfold keyOf? at found
  by_cases ends : extension.toList.isSuffixOf name.toList = true
  · rw [if_pos ends] at found
    obtain ⟨before, whole⟩ := List.isSuffixOf_iff_suffix.mp ends
    have named : name = String.ofList before ++ extension := by
      apply String.toList_injective
      rw [String.toList_append, String.toList_ofList, whole]
    have again := keyOf?_append (String.ofList before)
    rw [← named, keyOf?, if_pos ends, found] at again
    rw [Option.some.inj again]
    exact named
  · rw [if_neg ends] at found
    cases found

/-- The files of a namespace are those of a map: under the name of each key its
value, and nothing else. -/
structure Mirrored
    (json : JsonText Value) (files : InsertionMap String String)
    (map : InsertionMap String Value) : Prop where
  lookup :
    ∀ name,
      files.lookup name =
        (keyOf? name).bind fun key => (map.lookup key).map (contents json)
  normal : ∀ key ∈ map, matchesHexKey key = true
  fits : ∀ key ∈ map, (key ++ extension).length ≤ nameMax

namespace Mirrored

variable {files : InsertionMap String String}
variable {map : InsertionMap String Value}

theorem lookup_name (mirrored : Mirrored json files map) (key : String) :
    files.lookup (key ++ extension) =
      (map.lookup key).map (contents json) := by
  rw [mirrored.lookup, keyOf?_append, Option.bind_some]

theorem mem_name_iff (mirrored : Mirrored json files map) (key : String) :
    key ++ extension ∈ files ↔ key ∈ map := by
  rw [← AList.lookup_isSome, ← AList.lookup_isSome, mirrored.lookup_name,
    Option.isSome_map]

/-- A name other than a key's own is about another key. -/
theorem keyOf?_ne {name key other : String}
    (different : name ≠ key ++ extension) (found : keyOf? name = some other) :
    other ≠ key := by
  intro same
  subst same
  exact different (eq_append_of_keyOf? found)

theorem set
    (mirrored : Mirrored json files map) {key : String} (value : Value)
    (normal : matchesHexKey key = true)
    (fits : (key ++ extension).length ≤ nameMax) :
    Mirrored json (files.set (key ++ extension) (contents json value))
      (map.set key value) where
  lookup := by
    intro name
    by_cases named : name = key ++ extension
    · subst named
      rw [lookup_set_self, keyOf?_append, Option.bind_some, lookup_set_self]
      rfl
    · rw [lookup_set_of_ne named, mirrored.lookup]
      cases found : keyOf? name with
      | none => rfl
      | some other =>
          have different := keyOf?_ne named found
          rw [Option.bind_some, Option.bind_some, lookup_set_of_ne different]
  normal := by
    intro other member
    rcases mem_set.mp member with same | before
    · rw [same]
      exact normal
    · exact mirrored.normal other before
  fits := by
    intro other member
    rcases mem_set.mp member with same | before
    · rw [same]
      exact fits
    · exact mirrored.fits other before

theorem erase (mirrored : Mirrored json files map) (key : String) :
    Mirrored json (files.erase (key ++ extension)) (map.erase key) where
  lookup := by
    intro name
    by_cases named : name = key ++ extension
    · subst named
      rw [AList.lookup_erase, keyOf?_append, Option.bind_some,
        AList.lookup_erase]
      rfl
    · rw [AList.lookup_erase_ne named, mirrored.lookup]
      cases found : keyOf? name with
      | none => rfl
      | some other =>
          have different := keyOf?_ne named found
          rw [Option.bind_some, Option.bind_some,
            AList.lookup_erase_ne different]
  normal := by
    intro other member
    exact mirrored.normal other (AList.mem_erase.mp member).2
  fits := by
    intro other member
    exact mirrored.fits other (AList.mem_erase.mp member).2

/-- Deleting a key that is absent leaves nothing to delete. -/
theorem erase_of_notMem
    (mirrored : Mirrored json files map) {key : String} (absent : key ∉ map) :
    Mirrored json files (map.erase key) where
  lookup := by
    intro name
    rw [mirrored.lookup]
    cases found : keyOf? name with
    | none => rfl
    | some other =>
        rw [Option.bind_some, Option.bind_some]
        by_cases same : other = key
        · subst same
          rw [AList.lookup_erase, AList.lookup_eq_none.mpr absent]
        · rw [AList.lookup_erase_ne same]
  normal := by
    intro other member
    exact mirrored.normal other (AList.mem_erase.mp member).2
  fits := by
    intro other member
    exact mirrored.fits other (AList.mem_erase.mp member).2

end Mirrored

end FileSystemArtifactStore

end Mirror

section Answers

/-! ## The answers -/

namespace FileSystemArtifactStore

variable {Value : Type} {json : JsonText Value}

/-- The disk mirrors the maps, namespace by namespace. -/
def Mirrors
    (json : JsonText Value) (disk : Disk) (store : MemoryArtifactStore Value) :
    Prop :=
  ∀ kind, Mirrored json (disk.files kind) (store.maps kind)

/-- One namespace changes on both sides. -/
theorem Mirrors.update
    {disk after : Disk} {store : MemoryArtifactStore Value}
    (mirrors : Mirrors json disk store) (kind : ArtifactKind)
    {map : InsertionMap String Value}
    (elsewhere : ∀ other, other ≠ kind → after.files other = disk.files other)
    (mirrored : Mirrored json (after.files kind) map) :
    Mirrors json after { maps := Function.update store.maps kind map } := by
  intro other
  by_cases same : other = kind
  · subst same
    simpa using mirrored
  · simpa [same, elsewhere other same] using mirrors other

theorem parse_contents (lawful : json.Lawful) (value : Value) :
    json.parse (contents json value) = some value := by
  rw [contents, lawful.trailing, lawful.inverts]

theorem read_of_mirrored
    (lawful : json.Lawful) {disk : Disk} {kind : ArtifactKind}
    {map : InsertionMap String Value}
    (mirrored : Mirrored json (disk.files kind) map)
    {hashHex key : String} (accepted : normalizeHexKey hashHex = .ok key)
    (fits : (key ++ extension).length ≤ nameMax) :
    read json disk kind hashHex =
      match map.lookup key with
      | none => .error .enoent
      | some value => .ok value := by
  have named : file hashHex = .ok (key ++ extension) := by
    rw [file, accepted]
  have found := mirrored.lookup_name key
  simp only [read, named, bind, Except.bind, Disk.readFile_of_fits fits, found]
  cases held : map.lookup key with
  | none => rfl
  | some value => simp only [Option.map_some, parse_contents lawful]; rfl

/-- The names of the files are those of the keys. -/
theorem Mirrored.names_perm
    {files : InsertionMap String String} {map : InsertionMap String Value}
    (mirrored : Mirrored json files map) :
    (map.entries.map fun entry => entry.1 ++ extension).Perm files.keys := by
  have nodup : (map.entries.map fun entry => entry.1 ++ extension).Nodup := by
    have keys : (map.keys.map (· ++ extension)).Nodup :=
      (AList.keys_nodup map).map fun first second same =>
        (String.append_left_inj extension).mp same
    rwa [AList.keys, List.keys, List.map_map] at keys
  rw [List.perm_ext_iff_of_nodup nodup (AList.keys_nodup files)]
  intro name
  rw [← AList.mem_keys, List.mem_map]
  constructor
  · intro spelled
    obtain ⟨entry, member, rfl⟩ := spelled
    exact (mirrored.mem_name_iff entry.1).mpr (List.mem_map_of_mem member)
  · intro member
    obtain ⟨text, held⟩ := exists_lookup_of_mem member
    rw [mirrored.lookup, Option.bind_eq_some_iff] at held
    obtain ⟨key, found, read⟩ := held
    obtain ⟨value, lookup, -⟩ := Option.map_eq_some_iff.mp read
    exact
      ⟨⟨key, value⟩, AList.mem_lookup_iff.mp lookup,
        (eq_append_of_keyOf? found).symm⟩

theorem entryOf?_of_mem
    (lawful : json.Lawful) {disk : Disk} {kind : ArtifactKind}
    {map : InsertionMap String Value}
    (mirrored : Mirrored json (disk.files kind) map)
    {entry : Sigma fun _ : String => Value} (member : entry ∈ map.entries) :
    entryOf? json disk kind (entry.1 ++ extension) =
      some (entry.1, entry.2) := by
  have held : map.lookup entry.1 = some entry.2 :=
    AList.mem_lookup_iff.mpr member
  have keyed : entry.1 ∈ map := mem_of_lookup held
  have isKey := isHexKey_of_matchesHexKey (mirrored.normal _ keyed)
  have text := mirrored.lookup_name entry.1
  rw [held, Option.map_some] at text
  simp only [entryOf?, keyOf?_append, isKey,
    Disk.readFile_of_fits (mirrored.fits _ keyed), text, guard, if_true,
    bind, Option.bind_some, Except.toOption, parse_contents lawful, pure]

theorem entries_perm
    (lawful : json.Lawful) (listing : ReaddirOrder) {disk : Disk}
    {store : MemoryArtifactStore Value} (kind : ArtifactKind)
    (mirrored : Mirrored json (disk.files kind) (store.maps kind)) :
    ∃ listed,
      entries json listing disk kind = .ok listed ∧
        listed.Perm (store.entries kind) := by
  have names := mirrored.names_perm
  unfold entries Disk.readdir
  unfold Disk.files at names
  cases made : disk.directories kind with
  | none =>
      rw [made] at names
      have empty : (store.maps kind).entries = [] :=
        List.map_eq_nil_iff.mp names.eq_nil
      refine ⟨[], rfl, ?_⟩
      rw [MemoryArtifactStore.entries, empty]
      exact List.Perm.refl _
  | some files =>
      rw [made, Option.getD_some] at names
      refine ⟨_, rfl, ?_⟩
      have listed := ((listing.perm files.keys).trans names.symm).filterMap
        (entryOf? json disk kind)
      rw [List.filterMap_map] at listed
      have read :
          (store.maps kind).entries.filterMap
              (entryOf? json disk kind ∘ fun entry => entry.1 ++ extension) =
            (store.maps kind).entries.map fun entry => (entry.1, entry.2) := by
        rw [← List.filterMap_eq_map']
        apply List.filterMap_congr
        intro entry member
        exact entryOf?_of_mem lawful mirrored member
      rw [read] at listed
      exact listed.trans ((List.reverse_perm _).symm.map _)

/-- The key of a call fits a file name once normalised. -/
def Fits (hashHex : String) : Prop :=
  (hashHex.toLower ++ extension).length ≤ nameMax

/-- The two stores answered the same and still mirror each other. -/
def Agree
    (json : JsonText Value) (onDisk : StoreAnswer Value × Disk)
    (inMemory : StoreAnswer Value × MemoryArtifactStore Value) : Prop :=
  StoreAnswer.Same onDisk.1 inMemory.1 ∧ Mirrors json onDisk.2 inMemory.2

section Steps

variable {disk : Disk} {store : MemoryArtifactStore Value} {hashHex : String}
variable (listing : ReaddirOrder) (kind : ArtifactKind)

theorem file_of_error {message : String}
    (refused : normalizeHexKey hashHex = .error message) :
    file hashHex = .error (.badKey message) := by
  rw [file, refused]

theorem file_of_ok {key : String}
    (accepted : normalizeHexKey hashHex = .ok key) :
    file hashHex = .ok (key ++ extension) := by
  rw [file, accepted]

section Changes

variable {key : String} {map : InsertionMap String Value}

/-- A put writes the file of its key. -/
theorem put_of_mirrored
    (mirrored : Mirrored json (disk.files kind) map)
    (accepted : normalizeHexKey hashHex = .ok key)
    (fits : (key ++ extension).length ≤ nameMax) (value : Value) :
    ∃ after,
      put json disk kind hashHex value = (.ok (), after) ∧
        Mirrored json (after.files kind) (map.set key value) ∧
          ∀ other, other ≠ kind → after.files other = disk.files other := by
  obtain ⟨-, normal⟩ := normalizeHexKey_eq_ok accepted
  refine
    ⟨(disk.mkdir kind).withFiles kind
      ((disk.files kind).set (key ++ extension) (contents json value)), ?_, ?_,
      ?_⟩
  · simp only [put, file_of_ok accepted, Disk.writeFile_mkdir_of_fits fits]
  · rw [Disk.files_withFiles, if_pos rfl]
    exact mirrored.set value normal fits
  · intro other different
    rw [Disk.files_withFiles, if_neg different, Disk.files_mkdir]

/-- A delete removes the file of its key, if there is one. -/
theorem delete_of_mirrored
    (mirrored : Mirrored json (disk.files kind) map)
    (accepted : normalizeHexKey hashHex = .ok key)
    (fits : (key ++ extension).length ≤ nameMax) :
    ∃ after,
      delete disk kind hashHex = (.ok (), after) ∧
        Mirrored json (after.files kind) (map.erase key) ∧
          ∀ other, other ≠ kind → after.files other = disk.files other := by
  by_cases held : key ++ extension ∈ disk.files kind
  · refine
      ⟨disk.withFiles kind ((disk.files kind).erase (key ++ extension)), ?_,
        ?_, ?_⟩
    · simp only [delete, file_of_ok accepted, Disk.unlink_of_mem fits held,
        bind, Except.bind]
    · rw [Disk.files_withFiles, if_pos rfl]
      exact mirrored.erase key
    · intro other different
      rw [Disk.files_withFiles, if_neg different]
  · have absent := mt (mirrored.mem_name_iff key).mpr held
    refine ⟨disk, ?_, mirrored.erase_of_notMem absent, fun _ _ => rfl⟩
    simp only [delete, file_of_ok accepted, Disk.unlink_of_notMem fits held,
      bind, Except.bind]

end Changes

attribute [local simp] step MemoryArtifactStore.step

theorem agree_put
    (mirrors : Mirrors json disk store) (fits : Fits hashHex) (value : Value) :
    Agree json (step json listing disk (.put kind hashHex value))
      (store.step (.put kind hashHex value)) := by
  cases accepted : normalizeHexKey hashHex with
  | error message =>
      simp only [step, put, file_of_error accepted, MemoryArtifactStore.step,
        MemoryArtifactStore.put, accepted, bind, Except.bind]
      exact ⟨.refl _, mirrors⟩
  | ok key =>
      obtain ⟨lower, -⟩ := normalizeHexKey_eq_ok accepted
      rw [Fits, ← lower] at fits
      obtain ⟨after, answered, mirrored, elsewhere⟩ :=
        put_of_mirrored kind (mirrors kind) accepted fits value
      simp only [step, answered, MemoryArtifactStore.step,
        MemoryArtifactStore.put, accepted, bind, Except.bind]
      exact ⟨.refl _, mirrors.update kind elsewhere mirrored⟩

theorem agree_get
    (lawful : json.Lawful) (mirrors : Mirrors json disk store)
    (fits : Fits hashHex) :
    Agree json (step json listing disk (.get kind hashHex))
      (store.step (.get kind hashHex)) := by
  cases accepted : normalizeHexKey hashHex with
  | error message =>
      simp only [step, get, read, file_of_error accepted,
        MemoryArtifactStore.step, MemoryArtifactStore.get, accepted, bind,
        Except.bind]
      exact ⟨.refl _, mirrors⟩
  | ok key =>
      obtain ⟨lower, -⟩ := normalizeHexKey_eq_ok accepted
      rw [Fits, ← lower] at fits
      have readIs := read_of_mirrored lawful (mirrors kind) accepted fits
      simp only [step, get, readIs, MemoryArtifactStore.step,
        MemoryArtifactStore.get, accepted, bind, Except.bind]
      cases held : (store.maps kind).lookup key with
      | none => exact ⟨.refl _, mirrors⟩
      | some value => exact ⟨.refl _, mirrors⟩

theorem agree_has
    (mirrors : Mirrors json disk store) (fits : Fits hashHex) :
    Agree json (step json listing disk (.has kind hashHex))
      (store.step (.has kind hashHex)) := by
  cases accepted : normalizeHexKey hashHex with
  | error message =>
      simp only [step, has, file_of_error accepted, MemoryArtifactStore.step,
        MemoryArtifactStore.has, accepted, bind, Except.bind]
      exact ⟨.refl _, mirrors⟩
  | ok key =>
      obtain ⟨lower, -⟩ := normalizeHexKey_eq_ok accepted
      rw [Fits, ← lower] at fits
      have same :
          disk.existsSync kind (key ++ extension) =
            decide (key ∈ store.maps kind) := by
        rw [Disk.existsSync_of_fits fits]
        exact decide_eq_decide.mpr ((mirrors kind).mem_name_iff key)
      simp only [step, has, file_of_ok accepted, same,
        MemoryArtifactStore.step, MemoryArtifactStore.has, accepted, bind,
        Except.bind]
      exact ⟨.refl _, mirrors⟩

theorem agree_delete
    (mirrors : Mirrors json disk store) (fits : Fits hashHex) :
    Agree json (step json listing disk (.delete kind hashHex))
      (store.step (.delete kind hashHex)) := by
  cases accepted : normalizeHexKey hashHex with
  | error message =>
      simp only [step, delete, file_of_error accepted,
        MemoryArtifactStore.step, MemoryArtifactStore.delete, accepted, bind,
        Except.bind]
      exact ⟨.refl _, mirrors⟩
  | ok key =>
      obtain ⟨lower, -⟩ := normalizeHexKey_eq_ok accepted
      rw [Fits, ← lower] at fits
      obtain ⟨after, answered, mirrored, elsewhere⟩ :=
        delete_of_mirrored kind (mirrors kind) accepted fits
      simp only [step, answered, MemoryArtifactStore.step,
        MemoryArtifactStore.delete, accepted, bind, Except.bind]
      exact ⟨.refl _, mirrors.update kind elsewhere mirrored⟩

theorem agree_entries
    (lawful : json.Lawful) (mirrors : Mirrors json disk store) :
    Agree json (step json listing disk (.entries kind))
      (store.step (.entries kind)) := by
  obtain ⟨listed, answered, perm⟩ :=
    entries_perm lawful listing kind (mirrors kind)
  simp only [step, answered, MemoryArtifactStore.step]
  exact ⟨.listed perm, mirrors⟩

end Steps

end FileSystemArtifactStore

/-- The key a call names, if it names one. -/
def StoreCall.hashHex? {Value : Type} : StoreCall Value → Option String
  | .put _ hashHex _ => some hashHex
  | .get _ hashHex => some hashHex
  | .has _ hashHex => some hashHex
  | .delete _ hashHex => some hashHex
  | .entries _ => none

/-- 64 hexadecimal digits in any letter case. -/
def isDigestKey (hashHex : String) : Bool :=
  isHexKey hashHex && hashHex.length == 64

theorem fits_of_isDigestKey {hashHex : String}
    (digest : isDigestKey hashHex = true) :
    FileSystemArtifactStore.Fits hashHex := by
  have length := beq_iff_eq.mp ((Bool.and_eq_true _ _).mp digest).2
  have lower : hashHex.toLower.length = hashHex.length := String.length_map
  rw [FileSystemArtifactStore.Fits, String.length_append, lower, length]
  decide

variable {Value : Type} {json : JsonText Value}

/-- Related stores answer a call alike. -/
theorem agree_step
    (lawful : json.Lawful) (listing : ReaddirOrder) {disk : Disk}
    {store : MemoryArtifactStore Value}
    (mirrors : FileSystemArtifactStore.Mirrors json disk store)
    (call : StoreCall Value)
    (fits :
      ∀ hashHex ∈ call.hashHex?, FileSystemArtifactStore.Fits hashHex) :
    FileSystemArtifactStore.Agree json
      (FileSystemArtifactStore.step json listing disk call)
      (store.step call) := by
  open FileSystemArtifactStore in
  cases call with
  | put kind hashHex value =>
      exact agree_put listing kind mirrors (fits hashHex rfl) value
  | get kind hashHex =>
      exact agree_get listing kind lawful mirrors (fits hashHex rfl)
  | has kind hashHex =>
      exact agree_has listing kind mirrors (fits hashHex rfl)
  | delete kind hashHex =>
      exact agree_delete listing kind mirrors (fits hashHex rfl)
  | entries kind =>
      exact agree_entries listing kind lawful mirrors

/-- An empty disk mirrors an empty store. -/
theorem mirrors_empty :
    FileSystemArtifactStore.Mirrors json Disk.empty
      MemoryArtifactStore.empty := by
  intro kind
  constructor
  · intro name
    cases FileSystemArtifactStore.keyOf? name with
    | none => rfl
    | some key => rfl
  · intro key member
    cases member
  · intro key member
    cases member

/-- Whatever is put, read, deleted and listed under digests, the store on disk
and the one in memory answer alike, entries up to order. -/
theorem stores_answer_alike
    (json : JsonText Value) (lawful : json.Lawful) (listing : ReaddirOrder)
    (calls : List (StoreCall Value))
    (digests :
      ∀ call ∈ calls, ∀ hashHex ∈ call.hashHex?, isDigestKey hashHex = true) :
    List.Forall₂ StoreAnswer.Same
      (transcript (FileSystemArtifactStore.step json listing) Disk.empty calls)
      (transcript MemoryArtifactStore.step MemoryArtifactStore.empty calls) := by
  have simulates :
      ∀ disk store call,
        FileSystemArtifactStore.Mirrors json disk store →
          (∀ hashHex ∈ call.hashHex?, isDigestKey hashHex = true) →
            FileSystemArtifactStore.Agree json
              (FileSystemArtifactStore.step json listing disk call)
              (store.step call) := by
    intro disk store call mirrors named
    apply agree_step lawful listing mirrors
    intro hashHex names
    exact fits_of_isDigestKey (named hashHex names)
  exact transcript_forall₂ simulates calls _ _ mirrors_empty digests

/-- The truth values among the JSON values; white space around one does not
count. -/
def jsonBooleans : JsonText Bool where
  stringify value := if value then "true" else "false"
  parse text :=
    let isSpace := fun character => character ∈ [' ', '\n', '\r', '\t']
    let characters := (text.toList.rdropWhile isSpace).dropWhile isSpace
    if characters = "true".toList then
      some true
    else if characters = "false".toList then
      some false
    else
      none

theorem jsonBooleans_lawful : jsonBooleans.Lawful where
  inverts := by
    decide
  trailing := by
    intro text
    simp only [jsonBooleans]
    rw [String.toList_append]
    have stripped :=
      List.rdropWhile_concat_pos
        (fun character => decide (character ∈ [' ', '\n', '\r', '\t']))
        text.toList '\n' (by decide)
    rw [show "\n".toList = ['\n'] from rfl, stripped]

theorem isDigestKey_replicate (digit : Char)
    (hexDigit : ByteText.isHexDigit digit.toLower = true) :
    isDigestKey (String.ofList (List.replicate 64 digit)) = true := by
  have lower :
      (String.ofList (List.replicate 64 digit)).toLower.toList =
        List.replicate 64 digit.toLower := by
    apply String.toList_map.trans
    rw [String.toList_ofList, List.map_replicate]
  rw [isDigestKey, isHexKey, matchesHexKey, lower, String.length_ofList,
    List.length_replicate, List.all_replicate]
  simp [hexDigit]

/-- A key written in capitals and read, listed and deleted in lower case. -/
def booleanCalls : List (StoreCall Bool) :=
  let capitals := String.ofList (List.replicate 64 'A')
  let lower := String.ofList (List.replicate 64 'a')
  [.put .proof capitals true, .get .proof lower, .entries .proof,
    .delete .proof lower, .has .proof capitals, .get .update lower]

theorem stores_answer_alike_booleans :
    List.Forall₂ StoreAnswer.Same
      (transcript
        (FileSystemArtifactStore.step jsonBooleans
          ⟨List.reverse, List.reverse_perm⟩)
        Disk.empty booleanCalls)
      (transcript MemoryArtifactStore.step MemoryArtifactStore.empty
        booleanCalls) := by
  have digests :
      ∀ call ∈ booleanCalls, ∀ hashHex ∈ call.hashHex?,
        isDigestKey hashHex = true := by
    have capitals := isDigestKey_replicate 'A' (by decide)
    have lower := isDigestKey_replicate 'a' (by decide)
    simp only [booleanCalls, List.forall_mem_cons, StoreCall.hashHex?,
      Option.mem_def, Option.some.injEq, forall_eq', capitals, lower,
      List.not_mem_nil, reduceCtorEq, false_implies, implies_true, true_and]
  exact
    stores_answer_alike jsonBooleans jsonBooleans_lawful
      ⟨List.reverse, List.reverse_perm⟩ booleanCalls digests

end Answers

end Btcr2Aggregation
