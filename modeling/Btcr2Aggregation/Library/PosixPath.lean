import Mathlib.Data.List.Infix

/-!
# POSIX paths

A path is a text with slashes.  Normalizing drops empty and `.` segments and
lets `..` take back the segment before it, and keeps a leading and a trailing
slash.  An absolute path leads to a location, the list of the names on the way;
normalizing does not change the location, and whether one location lies below
another can be read off the normalized texts.
-/

namespace Btcr2Aggregation

namespace PosixPath

abbrev Segment := List Char

def segments (path : List Char) : List Segment :=
  path.splitOn '/'

def isAbsolute (path : List Char) : Bool :=
  path.head? = some '/'

def endsInSlash (path : List Char) : Bool :=
  path.getLast? = some '/'

def dot : Segment := ['.']

def dotDot : Segment := ['.', '.']

/-- One segment of a path; above the root of an absolute path is the root. -/
def enter (absolute : Bool) (kept : List Segment) (segment : Segment) :
    List Segment :=
  if segment = [] ∨ segment = dot then
    kept
  else if segment = dotDot then
    if kept = [] ∨ kept.getLast? = some dotDot then
      if absolute then kept else kept ++ [dotDot]
    else
      kept.dropLast
  else
    kept ++ [segment]

/-- The segments that are left of a path, from where it starts. -/
def walk (absolute : Bool) (start : List Segment) (path : List Char) :
    List Segment :=
  (segments path).foldl (enter absolute) start

def body (kept : List Segment) : List Char :=
  ['/'].intercalate kept

/-- `path.normalize`. -/
def normalize (path : List Char) : List Char :=
  let kept := body (walk (isAbsolute path) [] path)
  let closed := if endsInSlash path then kept ++ ['/'] else kept
  if isAbsolute path then
    '/' :: (if kept = [] then [] else closed)
  else if kept = [] then
    if endsInSlash path then ['.', '/'] else ['.']
  else
    closed

/-- `path.join` of two texts. -/
def join (first second : List Char) : List Char :=
  if first = [] then
    normalize second
  else if second = [] then
    normalize first
  else
    normalize (first ++ '/' :: second)

/-- From the last dot of a name on; a dot that opens the name opens no
extension, and `..` has none. -/
def extensionOf (name : Segment) : List Char :=
  let ending := (name.reverse.takeWhile (· ≠ '.')).reverse
  if ending.length + 1 < name.length ∧ name ≠ dotDot then '.' :: ending else []

/-- `path.extname`, of the last name of the path. -/
def extname (path : List Char) : List Char :=
  match ((segments path).filter (· ≠ [])).getLast? with
  | none => []
  | some name => extensionOf name

/-- Where an absolute path leads. -/
def locate (path : List Char) : List Segment :=
  walk true [] path

section Plain

/-! ## Plain names -/

/-- A name that is no step of its own. -/
structure Plain (segment : Segment) : Prop where
  nonempty : segment ≠ []
  noDot : segment ≠ dot
  noDotDot : segment ≠ dotDot
  noSlash : '/' ∉ segment

theorem enter_of_plain
    {segment : Segment} (plain : Plain segment) (absolute : Bool)
    (kept : List Segment) :
    enter absolute kept segment = kept ++ [segment] := by
  rw [enter, if_neg, if_neg plain.noDotDot]
  rintro (empty | isDot)
  · exact plain.nonempty empty
  · exact plain.noDot isDot

/-- No segment of a path has a slash. -/
theorem noSlash_of_mem_segments
    {path : List Char} {segment : Segment}
    (member : segment ∈ segments path) : '/' ∉ segment := by
  induction path generalizing segment with
  | nil =>
      rw [segments, List.splitOn_nil, List.mem_singleton] at member
      subst member
      exact List.not_mem_nil
  | cons character path inductionHypothesis =>
      rw [segments, List.splitOn_cons_eq_if_modifyHead] at member
      by_cases slash : character = '/'
      · rw [if_pos (by simpa using slash)] at member
        rcases List.mem_cons.mp member with rfl | later
        · exact List.not_mem_nil
        · exact inductionHypothesis later
      · rw [if_neg (by simpa using slash)] at member
        cases split : path.splitOn '/' with
        | nil => exact absurd split (List.splitOn_ne_nil _ _)
        | cons head tail =>
            have inHead : '/' ∉ head := by
              refine inductionHypothesis ?_
              rw [segments, split]
              exact List.mem_cons_self
            rw [split, List.modifyHead_cons] at member
            rcases List.mem_cons.mp member with rfl | later
            · rw [List.mem_cons, not_or]
              exact ⟨Ne.symm slash, inHead⟩
            · refine inductionHypothesis ?_
              rw [segments, split]
              exact List.mem_cons_of_mem _ later

/-- One segment of an absolute path leaves plain names plain. -/
theorem plain_enter
    {kept : List Segment} {segment : Segment}
    (plain : ∀ name ∈ kept, Plain name) (noSlash : '/' ∉ segment) :
    ∀ name ∈ enter true kept segment, Plain name := by
  rw [enter]
  split
  · exact plain
  · next named =>
      rw [not_or] at named
      split
      · split
        · exact plain
        · intro name member
          exact plain name (List.dropLast_subset _ member)
      · next below =>
          intro name member
          rcases List.mem_append.mp member with before | here
          · exact plain name before
          · rw [List.mem_singleton.mp here]
            exact ⟨named.1, named.2, below, noSlash⟩

theorem plain_foldl_enter
    {steps : List Segment} (noSlash : ∀ segment ∈ steps, '/' ∉ segment) :
    ∀ kept : List Segment,
      (∀ name ∈ kept, Plain name) →
        ∀ name ∈ steps.foldl (enter true) kept, Plain name := by
  induction steps with
  | nil =>
      intro kept plain
      exact plain
  | cons segment steps inductionHypothesis =>
      intro kept plain
      refine inductionHypothesis ?_ _ ?_
      · intro other member
        exact noSlash other (List.mem_cons_of_mem _ member)
      · exact plain_enter plain (noSlash segment List.mem_cons_self)

theorem plain_walk
    {start : List Segment} (plain : ∀ name ∈ start, Plain name)
    (path : List Char) : ∀ name ∈ walk true start path, Plain name :=
  plain_foldl_enter (fun _ member => noSlash_of_mem_segments member) start plain

theorem plain_locate (path : List Char) : ∀ name ∈ locate path, Plain name :=
  plain_walk (fun _ member => by cases member) path

/-- Plain names lead where they say. -/
theorem foldl_enter_plain
    {names : List Segment} (plain : ∀ name ∈ names, Plain name)
    (absolute : Bool) :
    ∀ kept : List Segment, names.foldl (enter absolute) kept = kept ++ names := by
  induction names with
  | nil =>
      intro kept
      exact (List.append_nil kept).symm
  | cons name names inductionHypothesis =>
      intro kept
      rw [List.foldl_cons, enter_of_plain (plain name List.mem_cons_self),
        inductionHypothesis
          (fun other member => plain other (List.mem_cons_of_mem _ member)),
        List.append_assoc]
      rfl

end Plain

section Texts

/-! ## The text of a location -/

theorem segments_cons_slash (path : List Char) :
    segments ('/' :: path) = [] :: segments path := by
  have split := List.splitOn_append_cons_self ([] : List Char) path (a := '/')
  rw [List.nil_append, List.splitOn_nil] at split
  exact split

theorem segments_append_slash (first second : List Char) :
    segments (first ++ '/' :: second) = segments first ++ segments second :=
  List.splitOn_append_cons_self first second

theorem segments_body
    {names : List Segment} (plain : ∀ name ∈ names, Plain name)
    (nonempty : names ≠ []) : segments (body names) = names :=
  List.splitOn_intercalate '/' (fun name member => (plain name member).noSlash)
    nonempty

theorem body_eq_nil_iff
    {names : List Segment} (plain : ∀ name ∈ names, Plain name) :
    body names = [] ↔ names = [] := by
  constructor
  · intro empty
    by_contra nonempty
    have split := segments_body plain nonempty
    rw [empty, segments, List.splitOn_nil] at split
    have name : ([] : Segment) ∈ names := by
      rw [← split]
      exact List.mem_cons_self
    exact (plain [] name).nonempty rfl
  · rintro rfl
    rfl

/-- The text of a location, with a slash behind it or not. -/
def spell (names : List Segment) (slash : Bool) : List Char :=
  '/' :: (if names = [] then [] else if slash then body names ++ ['/'] else body names)

theorem normalize_eq_spell
    {path : List Char} (absolute : isAbsolute path = true) :
    normalize path = spell (locate path) (endsInSlash path) := by
  rw [normalize, absolute]
  change (if true = true then
      '/' :: (if body (locate path) = [] then [] else _) else _) = _
  rw [if_pos rfl, spell]
  by_cases empty : locate path = []
  · rw [if_pos ((body_eq_nil_iff (plain_locate path)).mpr empty), if_pos empty]
  · rw [if_neg (mt (body_eq_nil_iff (plain_locate path)).mp empty), if_neg empty]
    rfl

theorem isAbsolute_spell (names : List Segment) (slash : Bool) :
    isAbsolute (spell names slash) = true :=
  rfl

/-- The segments of a spelled location: a first empty one, the names, and a last
empty one behind a slash. -/
theorem segments_spell
    {names : List Segment} (plain : ∀ name ∈ names, Plain name) (slash : Bool) :
    segments (spell names slash) =
      [] :: (names ++ if slash = true ∨ names = [] then [[]] else []) := by
  rw [spell, segments_cons_slash]
  by_cases empty : names = []
  · subst empty
    simp [segments]
  · rw [if_neg empty]
    cases slash with
    | true =>
        rw [if_pos rfl, segments_append_slash, segments_body plain empty]
        simp [segments]
    | false =>
        rw [if_neg Bool.false_ne_true, segments_body plain empty]
        simp [empty]

theorem enter_nil (absolute : Bool) (kept : List Segment) :
    enter absolute kept [] = kept :=
  if_pos (Or.inl rfl)

theorem walk_spell
    {names : List Segment} (plain : ∀ name ∈ names, Plain name) (slash : Bool) :
    locate (spell names slash) = names := by
  rw [locate, walk, segments_spell plain, List.foldl_cons, enter_nil,
    List.foldl_append, foldl_enter_plain plain, List.nil_append]
  split
  · rw [List.foldl_cons, enter_nil, List.foldl_nil]
  · rfl

theorem endsInSlash_spell
    {names : List Segment} (plain : ∀ name ∈ names, Plain name) (slash : Bool) :
    endsInSlash (spell names slash) = true ↔ slash = true ∨ names = [] := by
  by_cases empty : names = []
  · subst empty
    simp [spell, endsInSlash]
  · cases slash with
    | true =>
        rw [spell, if_neg empty, if_pos rfl, endsInSlash, ← List.cons_append,
          List.getLast?_concat]
        simp
    | false =>
        rw [spell, if_neg empty, if_neg Bool.false_ne_true]
        simp only [Bool.false_eq_true, empty, or_self, iff_false]
        intro slash
        have filled : body names ≠ [] := mt (body_eq_nil_iff plain).mp empty
        rw [endsInSlash, decide_eq_true_iff, List.getLast?_cons,
          Option.some_inj, List.getLast?_eq_some_getLast filled,
          Option.getD_some] at slash
        have split := List.dropLast_concat_getLast filled
        rw [slash] at split
        have segs := segments_body plain empty
        rw [← split, segments_append_slash] at segs
        have name : ([] : Segment) ∈ names := by
          rw [← segs, segments, segments, List.splitOn_nil]
          exact List.mem_append_right _ List.mem_cons_self
        exact (plain [] name).nonempty rfl

/-- Normalizing again changes nothing. -/
theorem normalize_spell
    {names : List Segment} (plain : ∀ name ∈ names, Plain name) (slash : Bool) :
    normalize (spell names slash) = spell names slash := by
  rw [normalize_eq_spell (isAbsolute_spell names slash), walk_spell plain]
  by_cases empty : names = []
  · subst empty
    rfl
  · have same : endsInSlash (spell names slash) = slash := by
      rw [Bool.eq_iff_iff, endsInSlash_spell plain]
      exact or_iff_left empty
    rw [same]

end Texts

section Below

/-! ## Below a location -/

variable {names others : List Segment}

theorem body_cons (name : Segment) (more : others ≠ []) :
    body (name :: others) = name ++ '/' :: body others := by
  rw [body, List.intercalate_cons_of_ne_nil more, List.append_assoc]
  rfl

theorem body_append (nonempty : names ≠ []) (more : others ≠ []) :
    body (names ++ others) = body names ++ '/' :: body others := by
  induction names with
  | nil => exact absurd rfl nonempty
  | cons name names inductionHypothesis =>
      by_cases last : names = []
      · subst last
        rw [List.singleton_append, body_cons name more]
        simp [body]
      · have filled : names ++ others ≠ [] := by
          intro empty
          exact last (List.append_eq_nil_iff.mp empty).1
        rw [List.cons_append, body_cons name filled, inductionHypothesis last,
          body_cons name last, List.append_assoc]
        rfl

theorem spell_append
    (nonempty : names ≠ []) (more : others ≠ []) (slash : Bool) :
    spell (names ++ others) slash =
      spell names false ++ '/' ::
        (if slash then body others ++ ['/'] else body others) := by
  have filled : names ++ others ≠ [] := by
    intro empty
    exact nonempty (List.append_eq_nil_iff.mp empty).1
  rw [spell, spell, if_neg filled, if_neg nonempty, body_append nonempty more]
  cases slash with
  | true => simp
  | false => simp

/-- A text that goes on behind a location and a slash leads below it. -/
theorem prefix_of_append_slash
    (plain : ∀ name ∈ names, Plain name)
    (plainOthers : ∀ name ∈ others, Plain name)
    {slash slashOthers : Bool}
    (start : spell names slash ++ ['/'] <+: spell others slashOthers) :
    slash = false ∧ names ≠ [] ∧ names <+: others := by
  obtain ⟨rest, whole⟩ := start
  rw [List.append_assoc, List.singleton_append] at whole
  have split := congrArg segments whole
  rw [segments_append_slash, segments_spell plain, segments_spell plainOthers,
    List.cons_append, List.cons.injEq] at split
  replace split := split.2
  rw [List.append_assoc] at split
  have after : segments rest ≠ [] := List.splitOn_ne_nil _ _
  have bare : ¬ (slash = true ∨ names = []) := by
    intro closed
    rw [if_pos closed] at split
    rcases List.append_eq_append_iff.mp split with
      ⟨middle, rfl, tail⟩ | ⟨middle, rfl, tail⟩
    · cases middle with
      | nil =>
          rw [List.nil_append] at tail
          split at tail
          · rw [List.singleton_append, List.cons.injEq] at tail
            exact after tail.2
          · cases tail
      | cons name more =>
          rw [List.cons_append, List.cons_append, List.cons.injEq] at tail
          have empty := (plainOthers name
            (List.mem_append_right _ List.mem_cons_self)).nonempty
          exact empty tail.1.symm
    · cases middle with
      | nil =>
          rw [List.nil_append] at tail
          split at tail
          · rw [List.singleton_append, List.cons.injEq] at tail
            exact after tail.2.symm
          · cases tail
      | cons name more =>
          split at tail
          · rw [List.cons_append, List.cons.injEq] at tail
            exact
              absurd (congrArg List.length tail.2) (by simp)
          · cases tail
  rw [if_neg bare, List.nil_append] at split
  rw [not_or, Bool.not_eq_true] at bare
  refine ⟨bare.1, bare.2, ?_⟩
  rcases List.append_eq_append_iff.mp split with
    ⟨middle, rfl, -⟩ | ⟨middle, rfl, tail⟩
  · exact List.prefix_append _ _
  · cases middle with
    | nil =>
        rw [List.append_nil]
    | cons name more =>
        split at tail
        · rw [List.cons_append, List.cons.injEq] at tail
          have empty := (plain name
            (List.mem_append_right _ List.mem_cons_self)).nonempty
          exact absurd tail.1.symm empty
        · cases tail

/-- Whether a location lies below another shows in the texts. -/
theorem prefix_iff_texts
    (plain : ∀ name ∈ names, Plain name)
    (plainOthers : ∀ name ∈ others, Plain name)
    (nonempty : names ≠ []) {slash : Bool} :
    (spell others slash = spell names false ∨
        spell names false ++ ['/'] <+: spell others slash) ↔
      names <+: others := by
  constructor
  · rintro (same | start)
    · have located := congrArg locate same
      rw [walk_spell plainOthers, walk_spell plain] at located
      rw [located]
    · exact (prefix_of_append_slash plain plainOthers start).2.2
  · rintro ⟨more, rfl⟩
    by_cases none : more = []
    · subst none
      rw [List.append_nil]
      cases slash with
      | false => exact Or.inl rfl
      | true =>
          right
          rw [spell, spell, if_neg nonempty, if_neg nonempty, if_pos rfl,
            if_neg Bool.false_ne_true]
          exact List.prefix_refl _
    · right
      rw [spell_append nonempty none]
      exact ⟨_, by rw [List.append_assoc, List.singleton_append]⟩

end Below

end PosixPath

end Btcr2Aggregation
