import Btcr2Aggregation.Library.ByteText
import Btcr2Aggregation.Library.PosixPath

/-!
# The static site

The last route of the service reads files below the directory of the web build.
Its guard compares texts: the normalized path must be the root or begin with the
root and a slash.  What the guard is for is stated of locations: no request can
make the reply depend on a file that does not lie below the root.
-/

namespace Btcr2Aggregation

open PosixPath

section Serve

/-! ## The route -/

structure ServedFile where
  body : Bytes
  type : String
  deriving DecidableEq, Repr

def CONTENT_TYPES : List (String × String) :=
  [(".html", "text/html; charset=utf-8"),
    (".js", "text/javascript; charset=utf-8"),
    (".mjs", "text/javascript; charset=utf-8"),
    (".css", "text/css; charset=utf-8"),
    (".json", "application/json; charset=utf-8"),
    (".svg", "image/svg+xml"),
    (".ico", "image/x-icon"),
    (".png", "image/png"),
    (".jpg", "image/jpeg"),
    (".jpeg", "image/jpeg"),
    (".webp", "image/webp"),
    (".gif", "image/gif"),
    (".woff", "font/woff"),
    (".woff2", "font/woff2"),
    (".map", "application/json; charset=utf-8"),
    (".txt", "text/plain; charset=utf-8")]

def contentType (path : List Char) : String :=
  let extension := String.ofList ((extname path).map Char.toLower)
  (CONTENT_TYPES.lookup extension).getD "application/octet-stream"

/-- The files of a disk, by their location; a link is the file it leads to. -/
abbrev SiteFiles := List Segment → Option Bytes

/-- A text with a closing slash names no file. -/
def readFileSafe (disk : SiteFiles) (path : List Char) : Option ServedFile :=
  if endsInSlash path then
    none
  else
    (disk (locate path)).map fun body => { body, type := contentType path }

inductive StaticReply where
  /-- The request text does not decode. -/
  | thrown
  | text (body : String) (status : Nat)
  | file (served : ServedFile) (cacheControl : String)
  deriving DecidableEq, Repr

def immutableCache : String := "public, max-age=31536000, immutable"

def notFound : StaticReply := .text "not found" 404

def isProtocolPath (pathname : List Char) : Bool :=
  "/v1/".toList.isPrefixOf pathname || "/dashboard/".toList.isPrefixOf pathname

def requestedPath (pathname : List Char) : List Char :=
  if pathname = ['/'] then "/index.html".toList else pathname

def indexName : Segment := "index.html".toList

def serveIndex (disk : SiteFiles) (indexHtml : List Char) : StaticReply :=
  match readFileSafe disk indexHtml with
  | none => .text "web build not found" 404
  | some index => .file index "no-cache"

/-- The route behind `GET *`, with `decodeURIComponent` `none` where it throws. -/
def mountStaticSite (decodeURIComponent : List Char → Option (List Char))
    (disk : SiteFiles) (webDistDir rawPathname : List Char) : StaticReply :=
  let root := normalize webDistDir
  let indexHtml := join root indexName
  match decodeURIComponent rawPathname with
  | none => .thrown
  | some pathname =>
      if isProtocolPath pathname then
        notFound
      else
        let resolved := normalize (join root (requestedPath pathname))
        if resolved ≠ root ∧ ¬ (root ++ ['/']) <+: resolved then
          notFound
        else
          match (if resolved = indexHtml then none else readFileSafe disk resolved) with
          | some file => .file file immutableCache
          | none => serveIndex disk indexHtml

end Serve

section Root

/-! ## Texts below an absolute root -/

variable {webDistDir : List Char}

theorem root_ne_nil (absolute : isAbsolute webDistDir = true) :
    normalize webDistDir ≠ [] := by
  rw [normalize_eq_spell absolute, spell]
  exact List.cons_ne_nil _ _

/-- What lies behind the root is a text of its own location. -/
theorem join_root
    (absolute : isAbsolute webDistDir = true) {requested : List Char}
    (nonempty : requested ≠ []) :
    join (normalize webDistDir) requested =
      spell (walk true (locate webDistDir) requested) (endsInSlash requested) := by
  have spelled := normalize_eq_spell absolute
  rw [join, if_neg (root_ne_nil absolute), if_neg nonempty, normalize_eq_spell]
  · congr 1
    · rw [locate, walk, segments_append_slash, List.foldl_append]
      congr 1
      rw [spelled]
      exact walk_spell (plain_locate webDistDir) _
    · rw [endsInSlash, endsInSlash, List.getLast?_append_of_ne_nil _ (List.cons_ne_nil _ _),
        List.getLast?_cons_of_ne_nil nonempty]
  · rw [spelled]
    rfl

theorem plain_indexName : Plain indexName where
  nonempty := by decide
  noDot := by decide
  noDotDot := by decide
  noSlash := by decide

theorem indexHtml_eq (absolute : isAbsolute webDistDir = true) :
    join (normalize webDistDir) indexName =
      spell (locate webDistDir ++ [indexName]) false := by
  have single : segments indexName = [indexName] := by decide
  rw [join_root absolute (by decide), walk, single, List.foldl_cons,
    List.foldl_nil, enter_of_plain plain_indexName]
  rfl

/-- What a request resolves to, spelled by its location. -/
theorem resolved_eq
    (absolute : isAbsolute webDistDir = true) {requested : List Char}
    (nonempty : requested ≠ []) :
    normalize (join (normalize webDistDir) requested) =
      spell (walk true (locate webDistDir) requested) (endsInSlash requested) := by
  rw [join_root absolute nonempty]
  exact normalize_spell (plain_walk (plain_locate webDistDir) requested) _

theorem resolved_nil (absolute : isAbsolute webDistDir = true) :
    normalize (join (normalize webDistDir) []) = normalize webDistDir := by
  have again :
      normalize (normalize webDistDir) = normalize webDistDir := by
    rw [normalize_eq_spell absolute]
    exact normalize_spell (plain_locate webDistDir) _
  rw [join, if_neg (root_ne_nil absolute), if_pos rfl, again, again]

/-- What passes the guard lies below the root. -/
theorem below_of_admitted
    (absolute : isAbsolute webDistDir = true) {location : List Segment}
    (plain : ∀ name ∈ location, Plain name) {slash : Bool}
    (admitted :
      ¬ (spell location slash ≠ normalize webDistDir ∧
        ¬ (normalize webDistDir ++ ['/']) <+: spell location slash)) :
    locate webDistDir <+: location := by
  rw [normalize_eq_spell absolute, not_and_or, not_not, not_not] at admitted
  rcases admitted with same | start
  · have located := congrArg locate same
    rw [walk_spell plain, walk_spell (plain_locate webDistDir)] at located
    rw [located]
  · exact (prefix_of_append_slash (plain_locate webDistDir) plain start).2.2

end Root

section Confinement

/-! ## No request reads beyond the root -/

/-- Two disks with the same files from a location down. -/
def AgreeBelow (root : List Segment) (disk other : SiteFiles) : Prop :=
  ∀ location, root <+: location → disk location = other location

variable {root : List Segment} {disk other : SiteFiles}

theorem readFileSafe_of_agree
    (agree : AgreeBelow root disk other) {path : List Char}
    (below : root <+: locate path) :
    readFileSafe disk path = readFileSafe other path := by
  rw [readFileSafe, readFileSafe, agree _ below]

theorem serveIndex_of_agree
    (agree : AgreeBelow root disk other) {path : List Char}
    (below : root <+: locate path) :
    serveIndex disk path = serveIndex other path := by
  rw [serveIndex, serveIndex, readFileSafe_of_agree agree below]

/-- No reply depends on a file beyond the root, whatever the request text decodes
to and whatever the directory is spelled like. -/
theorem mountStaticSite_confined
    (decodeURIComponent : List Char → Option (List Char))
    (disk other : SiteFiles) (webDistDir : List Char)
    (absolute : isAbsolute webDistDir = true)
    (agree : AgreeBelow (locate webDistDir) disk other)
    (rawPathname : List Char) :
    mountStaticSite decodeURIComponent disk webDistDir rawPathname =
      mountStaticSite decodeURIComponent other webDistDir rawPathname := by
  have indexBelow :
      locate webDistDir <+: locate (join (normalize webDistDir) indexName) := by
    rw [indexHtml_eq absolute, walk_spell]
    · exact List.prefix_append _ _
    · intro name member
      rcases List.mem_append.mp member with before | last
      · exact plain_locate webDistDir name before
      · rw [List.mem_singleton.mp last]
        exact plain_indexName
  have sameIndex := serveIndex_of_agree agree indexBelow
  rw [mountStaticSite, mountStaticSite]
  cases decodeURIComponent rawPathname with
  | none => rfl
  | some pathname =>
      simp only [sameIndex]
      split
      · rfl
      · split
        · rfl
        · next admitted =>
            have sameFile :
                readFileSafe disk
                    (normalize (join (normalize webDistDir) (requestedPath pathname))) =
                  readFileSafe other
                    (normalize (join (normalize webDistDir) (requestedPath pathname))) := by
              refine readFileSafe_of_agree agree ?_
              by_cases empty : requestedPath pathname = []
              · rw [empty, resolved_nil absolute, normalize_eq_spell absolute,
                  walk_spell (plain_locate webDistDir)]
              · have plain := plain_walk (plain_locate webDistDir)
                  (requestedPath pathname)
                rw [resolved_eq absolute empty] at admitted ⊢
                rw [walk_spell plain]
                exact below_of_admitted absolute plain admitted
            rw [sameFile]

/-- A request that climbs out of the build directory. -/
theorem mountStaticSite_confined_traversal :
    mountStaticSite some
        (fun location => if location = ["etc".toList, "passwd".toList] then some [1] else none)
        "/srv/dist".toList "/../../etc/passwd".toList =
      mountStaticSite some (fun _ => none) "/srv/dist".toList
        "/../../etc/passwd".toList := by
  refine mountStaticSite_confined some _ _ _ (by decide) ?_ _
  rintro location ⟨rest, rfl⟩
  have root : locate "/srv/dist".toList = ["srv".toList, "dist".toList] := by
    decide
  have differs :
      locate "/srv/dist".toList ++ rest ≠ ["etc".toList, "passwd".toList] := by
    rw [root, List.cons_append]
    intro same
    exact absurd (List.cons.inj same).1 (by decide)
  exact if_neg differs

end Confinement

section Assets

/-! ## Which requests are answered with a file of their own -/

variable {webDistDir : List Char}

theorem root_open_iff (absolute : isAbsolute webDistDir = true) :
    endsInSlash (normalize webDistDir) = false ↔
      endsInSlash webDistDir = false ∧ locate webDistDir ≠ [] := by
  rw [← Bool.not_eq_true, normalize_eq_spell absolute,
    endsInSlash_spell (plain_locate webDistDir), not_or, Bool.not_eq_true]

/-- The guard lets a file name through exactly below an open root; a root with a
closing slash lets none through. -/
theorem admitted_iff
    (absolute : isAbsolute webDistDir = true) {location : List Segment}
    (plain : ∀ name ∈ location, Plain name) {slash : Bool} :
    (spell location slash = normalize webDistDir ∨
        (normalize webDistDir ++ ['/']) <+: spell location slash) ∧
        endsInSlash (spell location slash) = false ↔
      endsInSlash (normalize webDistDir) = false ∧ slash = false ∧
        locate webDistDir <+: location := by
  have spelled := normalize_eq_spell absolute
  constructor
  · rintro ⟨admitted, named⟩
    have unclosed := named
    rw [← Bool.not_eq_true, endsInSlash_spell plain, not_or, Bool.not_eq_true]
      at unclosed
    rcases admitted with same | start
    · have located := congrArg locate same
      rw [spelled, walk_spell plain, walk_spell (plain_locate webDistDir)] at located
      refine ⟨?_, unclosed.1, ?_⟩
      · rw [← same]
        exact named
      · rw [located]
    · rw [spelled] at start
      obtain ⟨opened, nonempty, below⟩ :=
        prefix_of_append_slash (plain_locate webDistDir) plain start
      exact ⟨(root_open_iff absolute).mpr ⟨opened, nonempty⟩, unclosed.1, below⟩
  · rintro ⟨opened, rfl, below⟩
    obtain ⟨unclosed, named⟩ := (root_open_iff absolute).mp opened
    rw [spelled, unclosed]
    refine ⟨(prefix_iff_texts (plain_locate webDistDir) plain named).mpr below, ?_⟩
    rw [← Bool.not_eq_true, endsInSlash_spell plain, not_or]
    refine ⟨Bool.false_ne_true, ?_⟩
    rintro rfl
    exact named (List.prefix_nil.mp below)

theorem walk_nil (start : List Segment) : walk true start [] = start := by
  rw [walk, segments, List.splitOn_nil, List.foldl_cons, enter_nil, List.foldl_nil]

/-- What a request resolves to, the empty one included. -/
theorem exists_resolved_eq
    (absolute : isAbsolute webDistDir = true) (requested : List Char) :
    ∃ slash,
      normalize (join (normalize webDistDir) requested) =
        spell (walk true (locate webDistDir) requested) slash ∧
      (endsInSlash (normalize webDistDir) = false → slash = endsInSlash requested) := by
  by_cases empty : requested = []
  · subst empty
    refine ⟨endsInSlash webDistDir, ?_, ?_⟩
    · rw [resolved_nil absolute, walk_nil, normalize_eq_spell absolute]
    · intro opened
      rw [((root_open_iff absolute).mp opened).1]
      rfl
  · exact ⟨endsInSlash requested, resolved_eq absolute empty, fun _ => rfl⟩

theorem readFileSafe_eq_some_iff
    {disk : SiteFiles} {path : List Char} {served : ServedFile} :
    readFileSafe disk path = some served ↔
      endsInSlash path = false ∧ disk (locate path) = some served.body ∧
        served.type = contentType path := by
  rw [readFileSafe]
  cases endsInSlash path with
  | true => simp
  | false =>
      rw [if_neg Bool.false_ne_true, Option.map_eq_some_iff]
      constructor
      · rintro ⟨body, found, rfl⟩
        exact ⟨rfl, found, rfl⟩
      · rintro ⟨-, found, typed⟩
        refine ⟨served.body, found, ?_⟩
        rw [← typed]

theorem serveIndex_ne_asset
    (disk : SiteFiles) (indexHtml : List Char) (served : ServedFile) :
    serveIndex disk indexHtml ≠ .file served immutableCache := by
  rw [serveIndex]
  split
  · exact StaticReply.noConfusion
  · intro same
    injection same with _ caching
    exact absurd caching (by decide)

/-- An asset is served where the guard lets a text through that is not the index
page and names a file. -/
theorem asset_of_texts_iff
    {decodeURIComponent : List Char → Option (List Char)} {disk : SiteFiles}
    {rawPathname pathname : List Char} {served : ServedFile}
    (decoded : decodeURIComponent rawPathname = some pathname) :
    mountStaticSite decodeURIComponent disk webDistDir rawPathname =
        .file served immutableCache ↔
      isProtocolPath pathname = false ∧
        (normalize (join (normalize webDistDir) (requestedPath pathname)) =
            normalize webDistDir ∨
          (normalize webDistDir ++ ['/']) <+:
            normalize (join (normalize webDistDir) (requestedPath pathname))) ∧
        normalize (join (normalize webDistDir) (requestedPath pathname)) ≠
          join (normalize webDistDir) indexName ∧
        readFileSafe disk
            (normalize (join (normalize webDistDir) (requestedPath pathname))) =
          some served := by
  simp only [mountStaticSite, decoded]
  cases isProtocolPath pathname with
  | true => simp [notFound]
  | false =>
      simp only [Bool.false_eq_true, if_false, true_and]
      split
      · next refused =>
          constructor
          · exact fun same => absurd same StaticReply.noConfusion
          · rintro ⟨admitted, -⟩
            exact absurd admitted (not_or.mpr refused)
      · next admitted =>
          rw [not_and_or, not_not, not_not] at admitted
          split_ifs with index
          · constructor
            · exact fun same => absurd same (serveIndex_ne_asset _ _ _)
            · exact fun asset => absurd index asset.2.1
          · cases readFileSafe disk
                (normalize (join (normalize webDistDir) (requestedPath pathname))) with
            | none =>
                constructor
                · exact fun same => absurd same (serveIndex_ne_asset _ _ _)
                · rintro ⟨-, -, found⟩
                  cases found
            | some file =>
                constructor
                · intro same
                  injection same with same
                  rw [same]
                  exact ⟨admitted, index, rfl⟩
                · rintro ⟨-, -, found⟩
                  rw [Option.some_inj.mp found]

/-- A request is answered with a file of its own exactly when it leads, segment
by segment, to a file below the root that is not the index page. -/
theorem asset_served_iff
    (decodeURIComponent : List Char → Option (List Char))
    (disk : SiteFiles) (webDistDir : List Char)
    (absolute : isAbsolute webDistDir = true)
    (rawPathname : List Char) (served : ServedFile) :
    mountStaticSite decodeURIComponent disk webDistDir rawPathname =
        .file served immutableCache ↔
      ∃ pathname names,
        decodeURIComponent rawPathname = some pathname ∧
        isProtocolPath pathname = false ∧
        endsInSlash (normalize webDistDir) = false ∧
        endsInSlash (requestedPath pathname) = false ∧
        walk true (locate webDistDir) (requestedPath pathname) =
          locate webDistDir ++ names ∧
        names ≠ [indexName] ∧
        disk (locate webDistDir ++ names) = some served.body ∧
        served.type = contentType (spell (locate webDistDir ++ names) false) := by
  cases decoded : decodeURIComponent rawPathname with
  | none => simp [mountStaticSite, decoded]
  | some pathname =>
      obtain ⟨slash, resolved, slashed⟩ :=
        exists_resolved_eq absolute (requestedPath pathname)
      have plainRoot := plain_locate webDistDir
      have plain := plain_walk plainRoot (requestedPath pathname)
      rw [asset_of_texts_iff decoded, resolved, indexHtml_eq absolute,
        readFileSafe_eq_some_iff]
      constructor
      · rintro ⟨own, admitted, notIndex, named, found, typed⟩
        obtain ⟨opened, rfl, names, below⟩ :=
          (admitted_iff absolute plain).mp ⟨admitted, named⟩
        rw [walk_spell plain, ← below] at found
        rw [← below] at typed notIndex
        refine ⟨pathname, names, rfl, own, opened, (slashed opened).symm,
          below.symm, ?_, found, typed⟩
        rintro rfl
        exact notIndex rfl
      · rintro ⟨other, names, same, own, opened, unclosed, leads, notIndex,
          found, typed⟩
        obtain rfl := Option.some_inj.mp same
        rw [leads] at plain ⊢
        rw [slashed opened, unclosed]
        have below : locate webDistDir <+: locate webDistDir ++ names :=
          List.prefix_append _ _
        obtain ⟨admitted, named⟩ :=
          (admitted_iff absolute plain).mpr ⟨opened, rfl, below⟩
        refine ⟨own, admitted, ?_, named, ?_, typed⟩
        · intro index
          have located := congrArg locate index
          rw [walk_spell plain, walk_spell] at located
          · exact notIndex (List.append_cancel_left located)
          · intro name member
            rcases List.mem_append.mp member with before | last
            · exact plainRoot name before
            · rw [List.mem_singleton.mp last]
              exact plain_indexName
        · rw [walk_spell plain]
          exact found

/-- A build directory with one script. -/
def oneScript : SiteFiles := fun location =>
  if location = ["srv".toList, "dist".toList, "app.js".toList] then some [1] else none

theorem asset_served_oneScript :
    mountStaticSite some oneScript "/srv/dist".toList "/assets/../app.js".toList =
      .file ⟨[1], "text/javascript; charset=utf-8"⟩ immutableCache := by
  refine (asset_served_iff some oneScript _ (by decide) _ _).mpr
    ⟨"/assets/../app.js".toList, ["app.js".toList], rfl, by decide, by decide,
      by decide, by decide, by decide, by decide, by decide⟩

end Assets

end Btcr2Aggregation
