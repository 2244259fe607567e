import Btcr2Aggregation.Library.Machine
import Btcr2Aggregation.Service.DurableBooks

/-!
# Acceptances that outlive their ledger

A restart forgets the ledger and keeps the records: nothing retires a record of
an earlier life, be it the one a participant now replaces or the oldest of two
hundred.  In one life the ledger bounds the directory; across restarts the
bound holds exactly as long as each record finds room beside those the ledger
has forgotten.
-/

namespace Btcr2Aggregation

open InsertionMap

namespace Tos

section Lives

/-! ## Requests and restarts -/

open FileSystemArtifactStore

/-- A settled request, or a restart. -/
inductive DurableEvent where
  | posted (deps : AcceptanceDeps) (body : JsValue)
  | restarted

variable (json : JsonText JsObject) (library : AcceptanceLibrary)

namespace DurableBooks

def step (books : DurableBooks) : DurableEvent → DurableBooks
  | .posted deps body =>
      (books.recordTermsAcceptance json library deps body).2
  | .restarted => { books with ledger := ∅ }

/-- A verified record that JSON keeps, and whose hash no record of another
participant or cohort has. -/
def Offers (books : DurableBooks) : DurableEvent → Prop
  | .posted deps body =>
      ∀ record,
        checkTermsAcceptance library deps body = .ok record →
          json.parse (contents json record) = some record ∧
            ∀ stored,
              books.Holds json
                  (library.termsAcceptanceHashHex record ++ extension) stored →
                acceptancePair stored = acceptancePair record
  | .restarted => True

/-- The step condition: what a verified record must find on disk and in the
ledger. -/
def FindsRoom (books : DurableBooks) : DurableEvent → Prop
  | .posted deps body =>
      ∀ record,
        checkTermsAcceptance library deps body = .ok record →
          books.KeepsBound json (library.termsAcceptanceHashHex record) record
  | .restarted => True

end DurableBooks

/-- The route over one directory, from an empty one on. -/
def durableMachine : Machine DurableBooks DurableEvent where
  init := { disk := Disk.empty, ledger := ∅ }
  step := DurableBooks.step json library
  admits := DurableBooks.Offers json library

variable {json library}

/-- The invariant of every run: the files are records, and the ledger is about
stored ones. -/
def Accounted (json : JsonText JsObject) (durable : DurableBooks) : Prop :=
  ∃ books, Shows json durable books ∧ books.Reconciled

theorem isShaped_of_checkTermsAcceptance
    {deps : AcceptanceDeps} {body : JsValue} {record : JsObject}
    (checked : checkTermsAcceptance library deps body = .ok record) :
    isShaped record = true := by
  simp only [checkTermsAcceptance, bind_eq_ok_iff] at checked
  obtain ⟨envelope, -, _, fieldsPassed, _, -, built⟩ := checked
  cases built
  exact (recordPassed_of_recordRefusal? (refuseIf_eq_ok fieldsPassed)).cohortId

theorem step_of_refused
    {deps : AcceptanceDeps} {body : JsValue} {reason : String}
    (refused : checkTermsAcceptance library deps body = .error reason)
    (durable : DurableBooks) :
    durable.step json library (.posted deps body) = durable := by
  simp only [DurableBooks.step, DurableBooks.recordTermsAcceptance, refused]

/-- What an offered record is on the records behind the files. -/
theorem agrees_of_offers
    {durable : DurableBooks} {books : AcceptanceBooks}
    (shows_ : Shows json durable books) {hash : String} {record : JsObject}
    (apart :
      ∀ stored, durable.Holds json (hash ++ extension) stored →
        acceptancePair stored = acceptancePair record) :
    books.Agrees hash record := by
  intro stored held
  apply apart
  exact (shows_.holds_iff _ _).mpr ⟨hash, rfl, held⟩

theorem reconciled_restart
    {books : AcceptanceBooks} (reconciled : books.Reconciled) :
    ({ books with ledger := ∅ } : AcceptanceBooks).Reconciled where
  within := Nat.zero_le _
  stored := by
    intro key hash retains
    cases retains
  shaped := reconciled.shaped

theorem shows_empty : Shows json ⟨Disk.empty, ∅⟩ ⟨∅, ∅⟩ where
  mirrored := mirrors_empty .acceptance
  ledger := rfl
  readable := nofun

theorem reconciled_empty : (⟨∅, ∅⟩ : AcceptanceBooks).Reconciled where
  within := Nat.zero_le _
  stored := nofun
  shaped := nofun

theorem run_restarted (event : DurableEvent) :
    (durableMachine json library).run [event, .restarted] =
      (DurableBooks.step json library ⟨Disk.empty, ∅⟩ event).step json library
        .restarted :=
  rfl

/-- A restart touches no file. -/
theorem shows_restart
    {durable : DurableBooks} {books : AcceptanceBooks}
    (library : AcceptanceLibrary) (shows_ : Shows json durable books) :
    Shows json (durable.step json library .restarted)
      { books with ledger := ∅ } where
  mirrored := shows_.mirrored
  ledger := rfl
  readable := shows_.readable

/-- A request leaves the files records and the ledger about stored ones, and
all of them retained if they were. -/
theorem accounted_posted
    (digests : ∀ bytes, (library.sha256 bytes).length = 32)
    {durable : DurableBooks} {books : AcceptanceBooks} {deps : AcceptanceDeps}
    {body : JsValue} (shows_ : Shows json durable books)
    (reconciled : books.Reconciled)
    (offered : durable.Offers json library (.posted deps body)) :
    ∃ after : AcceptanceBooks,
      Shows json (durable.step json library (.posted deps body)) after ∧
        after.Reconciled ∧ (books.AllRetained → after.AllRetained) := by
  cases checked : checkTermsAcceptance library deps body with
  | error reason =>
      rw [step_of_refused checked durable]
      exact ⟨books, shows_, reconciled, id⟩
  | ok record =>
      obtain ⟨reads, apart⟩ := offered record checked
      have agrees := agrees_of_offers shows_ apart
      have shaped := isShaped_of_checkTermsAcceptance checked
      have after :=
        shows_recordTermsAcceptance digests shows_ reconciled checked agrees
          reads
      exact
        ⟨_, after, AcceptanceBooks.Reconciled.file reconciled agrees shaped,
          AcceptanceBooks.AllRetained.file⟩

theorem always_accounted
    (digests : ∀ bytes, (library.sha256 bytes).length = 32) :
    (durableMachine json library).Always (Accounted json) := by
  apply Machine.Always.of_inductive
  · exact ⟨⟨∅, ∅⟩, shows_empty, reconciled_empty⟩
  · intro durable event accounted offered
    obtain ⟨books, shows_, reconciled⟩ := accounted
    cases event with
    | restarted =>
        exact
          ⟨{ books with ledger := ∅ }, shows_restart library shows_,
            reconciled_restart reconciled⟩
    | posted deps body =>
        obtain ⟨after, shown, kept, -⟩ :=
          accounted_posted digests shows_ reconciled offered
        exact ⟨after, shown, kept⟩

/-- One event keeps the bound exactly where its record finds room. -/
theorem findsRoom_iff
    (digests : ∀ bytes, (library.sha256 bytes).length = 32)
    {durable : DurableBooks} (event : DurableEvent)
    (accounted : Accounted json durable)
    (offered : durable.Offers json library event)
    (bounded : durable.Bounded json) :
    durable.FindsRoom json library event ↔
      (durable.step json library event).Bounded json := by
  obtain ⟨books, shows_, reconciled⟩ := accounted
  cases event with
  | restarted => exact iff_of_true trivial ⟨bounded.few, bounded.single⟩
  | posted deps body =>
      cases checked : checkTermsAcceptance library deps body with
      | error reason =>
          rw [step_of_refused checked durable]
          refine iff_of_true ?_ bounded
          intro record passed
          rw [checked] at passed
          cases passed
      | ok record =>
          obtain ⟨reads, apart⟩ := offered record checked
          have agrees := agrees_of_offers shows_ apart
          have after :=
            shows_recordTermsAcceptance digests shows_ reconciled checked agrees
              reads
          have room :
              durable.FindsRoom json library (.posted deps body) ↔
                durable.KeepsBound json
                  (library.termsAcceptanceHashHex record) record := by
            constructor
            · intro finds
              exact finds record checked
            · intro keeps other passed
              rw [checked] at passed
              cases passed
              exact keeps
          rw [room, shows_.keepsBound_iff]
          have onBooks :=
            AcceptanceBooks.keepsBound_iff reconciled agrees
              (shows_.bounded_iff.mp bounded)
          exact onBooks.trans after.bounded_iff.symm

/-- Over any sequence of settled requests and restarts, the acceptance
directory stays bounded, with one record for each participant and cohort,
exactly where every verified record finds no other of its participant and
cohort but the one the ledger retains, and finds room. -/
theorem bounded_iff_findsRoom
    (json : JsonText JsObject) (library : AcceptanceLibrary)
    (digests : ∀ bytes, (library.sha256 bytes).length = 32)
    (events : List DurableEvent)
    (admissible : (durableMachine json library).Admits events) :
    ((durableMachine json library).restrict
        (DurableBooks.FindsRoom json library)).Admits events ↔
      ∀ earlier, earlier <+: events →
        ((durableMachine json library).run earlier).Bounded json := by
  refine
    Machine.admits_restrict_iff (always_accounted digests) ?_ ?_ events
      admissible
  · refine ⟨Nat.zero_le _, ?_⟩
    intro first second record other holds
    obtain ⟨text, found, -⟩ := holds
    cases found
  · intro durable event accounted offered bounded
    exact findsRoom_iff digests event accounted offered bounded

/-- Without a restart the ledger bounds the directory. -/
theorem always_bounded_of_notRestarted
    (digests : ∀ bytes, (library.sha256 bytes).length = 32) :
    ((durableMachine json library).restrict fun _ event =>
      event ≠ .restarted).Always (DurableBooks.Bounded json) := by
  have always :
      ((durableMachine json library).restrict fun _ event =>
        event ≠ .restarted).Always fun durable =>
          ∃ books,
            Shows json durable books ∧ books.Reconciled ∧
              books.AllRetained := by
    apply Machine.Always.of_inductive
    · exact ⟨⟨∅, ∅⟩, shows_empty, reconciled_empty, nofun⟩
    · intro durable event accounted both
      obtain ⟨books, shows_, reconciled, retained⟩ := accounted
      obtain ⟨offered, running⟩ := both
      cases event with
      | restarted => exact absurd rfl running
      | posted deps body =>
          obtain ⟨after, shown, kept, still⟩ :=
            accounted_posted digests shows_ reconciled offered
          exact ⟨after, shown, kept, still retained⟩
  refine always.mono ?_
  intro durable accounted
  obtain ⟨books, shows_, reconciled, retained⟩ := accounted
  apply shows_.bounded_iff.mpr
  exact AcceptanceBooks.bounded_of_allRetained reconciled retained

end Lives

section Replaced

/-! ## A replacement after a restart -/

open FileSystemArtifactStore

/-- What stands between the quotes of a written object, whose values are texts
that need no escapes: an opening, then names and values, and a closing. -/
def flatPieces (opening closing : String) : JsObject → List String
  | [] => [closing]
  | field :: fields =>
      opening :: field.1 :: ": " :: field.2.asString?.getD "" ::
        flatPieces ",\n  " closing fields

/-- The names and values between the quotes. -/
def flatFields : List (List Char) → JsObject
  | _ :: name :: _ :: value :: rest =>
      (String.ofList name, .string (String.ofList value)) :: flatFields rest
  | _ => []

/-- JSON of objects with fields, all of them texts without escapes. -/
def flatJson : JsonText JsObject where
  stringify fields := "\"".intercalate (flatPieces "\x7b\n  " "\n\x7d" fields)
  parse text :=
    if text.toList.head? = some '{' then
      some (flatFields (text.toList.splitOn '"'))
    else
      none

/-- Texts that need no escapes. -/
def IsFlat (fields : JsObject) : Prop :=
  ∀ field ∈ fields,
    '"' ∉ field.1.toList ∧
      ∃ text, field.2 = .string text ∧ '"' ∉ text.toList

theorem flatPieces_ne_nil (opening closing : String) (fields : JsObject) :
    flatPieces opening closing fields ≠ [] := by
  cases fields with
  | nil => exact List.cons_ne_nil _ _
  | cons field fields => exact List.cons_ne_nil _ _

theorem intercalate_flatPieces_append
    (closing suffix : String) (fields : JsObject) :
    ∀ opening,
      "\"".intercalate (flatPieces opening closing fields) ++ suffix =
        "\"".intercalate (flatPieces opening (closing ++ suffix) fields) := by
  induction fields with
  | nil =>
      intro opening
      rfl
  | cons field fields inductionHypothesis =>
      intro opening
      have rest := inductionHypothesis ",\n  "
      have more := flatPieces_ne_nil ",\n  " closing fields
      have others := flatPieces_ne_nil ",\n  " (closing ++ suffix) fields
      simp only [flatPieces, String.intercalate_cons_of_ne_nil more,
        String.intercalate_cons_of_ne_nil others,
        String.intercalate_cons_of_ne_nil (List.cons_ne_nil _ _),
        String.append_assoc, rest]
theorem plain_flatPieces
    {closing : String} (closes : '"' ∉ closing.toList) {fields : JsObject}
    (flat : IsFlat fields) :
    ∀ opening : String, '"' ∉ opening.toList →
      ∀ piece ∈ flatPieces opening closing fields, '"' ∉ piece.toList := by
  induction fields with
  | nil =>
      intro opening _ piece member
      rw [List.mem_singleton.mp member]
      exact closes
  | cons field fields inductionHypothesis =>
      intro opening opens
      obtain ⟨⟨name, text, isText, value⟩, others⟩ :=
        List.forall_mem_cons.mp flat
      have rest := inductionHypothesis others ",\n  " (by decide)
      simp only [flatPieces, List.forall_mem_cons, isText, JsValue.asString?,
        Option.getD_some]
      exact ⟨opens, name, by decide, value, rest⟩

theorem flatFields_flatPieces
    (closing : String) {fields : JsObject} (flat : IsFlat fields) :
    ∀ opening : String,
      flatFields ((flatPieces opening closing fields).map String.toList) =
        fields := by
  induction fields with
  | nil =>
      intro opening
      rfl
  | cons field fields inductionHypothesis =>
      intro opening
      obtain ⟨⟨name, text, isText, value⟩, others⟩ :=
        List.forall_mem_cons.mp flat
      have rest := inductionHypothesis others ",\n  "
      have whole : field = (field.1, .string text) := Prod.ext rfl isText
      simp only [flatPieces, List.map_cons, flatFields, rest, isText,
        JsValue.asString?, Option.getD_some, String.ofList_toList]
      rw [← whole]

/-- Such an object is read back. -/
theorem reads_of_isFlat
    {fields : JsObject} (flat : IsFlat fields) (nonempty : fields ≠ []) :
    flatJson.parse (contents flatJson fields) = some fields := by
  have text :
      (contents flatJson fields).toList =
        ['"'].intercalate
          ((flatPieces "\x7b\n  " ("\n\x7d" ++ "\n") fields).map String.toList) := by
    rw [contents, flatJson, intercalate_flatPieces_append,
      String.toList_intercalate]
    rfl
  have starts : (contents flatJson fields).toList.head? = some '{' := by
    rw [text]
    cases fields with
    | nil => exact absurd rfl nonempty
    | cons field fields => rfl
  have plain :
      ∀ piece ∈
          (flatPieces "\x7b\n  " ("\n\x7d" ++ "\n") fields).map String.toList,
        '"' ∉ piece := by
    intro piece member
    obtain ⟨text, listed, rfl⟩ := List.mem_map.mp member
    exact plain_flatPieces (by decide) flat "\x7b\n  " (by decide) text listed
  have pieces :
      (contents flatJson fields).toList.splitOn '"' =
        (flatPieces "\x7b\n  " ("\n\x7d" ++ "\n") fields).map String.toList := by
    rw [text, JoinedText.splitOn_intercalate, JoinedText.pieces_of_notMem '"' plain]
    exact mt List.map_eq_nil_iff.mp (flatPieces_ne_nil _ _ _)
  have parse :
      flatJson.parse (contents flatJson fields) =
        if (contents flatJson fields).toList.head? = some '{' then
          some (flatFields ((contents flatJson fields).toList.splitOn '"'))
        else
          none :=
    rfl
  rw [parse, if_pos starts, pieces, flatFields_flatPieces _ flat]

/-- A library that takes any text of ten characters for a date. -/
def everyDayLibrary : AcceptanceLibrary :=
  { plainLibrary with parsesAsDate := fun text => text.length = 10 }

/-- The same participant's acceptance on some day. -/
def dayAcceptance (day : String) : TermsAcceptance :=
  { plainAcceptance with acceptedAt := day }

def daySignature (day : String) : Bytes :=
  let signs :=
    everyDayLibrary.termsAcceptanceSigningBytes (dayAcceptance day).toObject
  signs ++ signs

def dayHash (day : String) : String :=
  everyDayLibrary.termsAcceptanceHashHex (dayAcceptance day).toObject

def dayPost (day : String) : DurableEvent :=
  .posted echoDeps (acceptanceBody (dayAcceptance day) (daySignature day))

def days : List String := ["2026-01-01", "2026-01-02"]

theorem everyDayLibrary_digests (bytes : Bytes) :
    (everyDayLibrary.sha256 bytes).length = 32 := by
  simp [everyDayLibrary, plainLibrary]

theorem checked_day {day : String} (known : day ∈ days) :
    checkTermsAcceptance everyDayLibrary echoDeps
        (acceptanceBody (dayAcceptance day) (daySignature day)) =
      .ok (dayAcceptance day).toObject := by
  have dated : ∀ day ∈ days, day.length = 10 := by
    decide
  have bounded :
      ∀ day ∈ days,
        (dayAcceptance day).toObject.findSome? fieldRefusal? = none := by
    decide +kernel
  have named : "service" ≠ "" := by
    decide
  have shaped : isCohortIdShape "c" = true := by
    decide +kernel
  have acceptable : Acceptable everyDayLibrary echoDeps (dayAcceptance day) :=
    { storeWired := rfl
      resolverWired := rfl
      service := ⟨named, rfl⟩
      terms := ⟨"terms", by decide, rfl, rfl⟩
      context := rfl
      type := rfl
      cohortId := shaped
      acceptedAt := decide_eq_true (dated day known)
      bounded := bounded day known }
  have resolved :
      everyDayLibrary.resolveSenderPk
          (some (.string (dayAcceptance day).participantDid)) none =
        some "p" :=
    rfl
  have length : (daySignature day).length = 64 := by
    rw [daySignature, List.length_append,
      AcceptanceLibrary.termsAcceptanceSigningBytes, everyDayLibrary_digests]
  exact
    checkTermsAcceptance_of_acceptable acceptable length resolved
      (congrArg some (decide_eq_true rfl))

theorem isFlat_day {day : String} (plain : '"' ∉ day.toList) :
    IsFlat (dayAcceptance day).toObject := by
  have hashed : '"' ∉ (plainLibrary.termsHashHex "terms").toList := by
    intro present
    exact absurd (ByteText.mem_hex present).1 (by decide)
  have texts :
      ∀ text ∈ termsAcceptanceFields ++
          [btcr2Context, termsAcceptanceType, "service", "c", "p"],
        '"' ∉ text.toList := by
    decide
  have names :
      ∀ field ∈ (dayAcceptance day).toObject, '"' ∉ field.1.toList := by
    intro field member
    apply texts
    have listed : field.1 ∈ (dayAcceptance day).toObject.map Prod.fst :=
      List.mem_map_of_mem member
    exact List.mem_append_left _ listed
  intro field member
  refine ⟨names field member, ?_⟩
  simp only [TermsAcceptance.toObject, List.mem_cons, List.not_mem_nil,
    or_false] at member
  rcases member with rfl | rfl | rfl | rfl | rfl | rfl | rfl
  · exact ⟨btcr2Context, rfl, texts _ (by decide)⟩
  · exact ⟨termsAcceptanceType, rfl, texts _ (by decide)⟩
  · exact ⟨"service", rfl, texts _ (by decide)⟩
  · exact ⟨"c", rfl, texts _ (by decide)⟩
  · exact ⟨_, rfl, hashed⟩
  · exact ⟨"p", rfl, texts _ (by decide)⟩
  · exact ⟨day, rfl, plain⟩

theorem reads_day {day : String} (known : day ∈ days) :
    flatJson.parse (contents flatJson (dayAcceptance day).toObject) =
      some (dayAcceptance day).toObject := by
  have plain : ∀ day ∈ days, '"' ∉ day.toList := by
    decide
  exact reads_of_isFlat (isFlat_day (plain day known)) (List.cons_ne_nil _ _)

/-- The same participant accepts the same cohort's terms, the service restarts,
and the participant accepts them again on another day. -/
def acceptsAgain : List DurableEvent :=
  [dayPost "2026-01-01", .restarted, dayPost "2026-01-02"]

theorem dayHash_ne : dayHash "2026-01-02" ≠ dayHash "2026-01-01" := by
  intro same
  have digests := ByteText.hex_injective same
  exact absurd digests (by decide +kernel)

/-- The books after the first acceptance. -/
def firstBooks : AcceptanceBooks :=
  AcceptanceBooks.file ⟨∅, ∅⟩ noFaults (dayHash "2026-01-01")
    (dayAcceptance "2026-01-01").toObject

/-- The service after the first acceptance and the restart. -/
def restartedService : DurableBooks :=
  (DurableBooks.step flatJson everyDayLibrary ⟨Disk.empty, ∅⟩
    (dayPost "2026-01-01")).step flatJson everyDayLibrary .restarted

theorem shows_restarted :
    Shows flatJson restartedService { firstBooks with ledger := ∅ } := by
  have known : "2026-01-01" ∈ days := by
    decide
  have shows_ :=
    shows_recordTermsAcceptance everyDayLibrary_digests shows_empty
      reconciled_empty (checked_day known) nofun (reads_day known)
  apply shows_restart
  rw [dayPost, DurableBooks.step, firstBooks, dayHash]
  exact shows_

theorem offers_day {durable : DurableBooks} {day : String} (known : day ∈ days)
    (absent : durable.files.lookup (dayHash day ++ extension) = none) :
    durable.Offers flatJson everyDayLibrary (dayPost day) := by
  intro record checked
  rw [checked_day known] at checked
  cases checked
  refine ⟨reads_day known, ?_⟩
  intro stored holds
  obtain ⟨text, found, -⟩ := holds
  have impossible := absent.symm.trans found
  cases impossible

theorem offers_restarted :
    restartedService.Offers flatJson everyDayLibrary
      (dayPost "2026-01-02") := by
  apply offers_day (by decide)
  have absent : firstBooks.store.lookup (dayHash "2026-01-02") = none := by
    rcases AcceptanceBooks.lookup_file_of_ne ⟨∅, ∅⟩ noFaults _
        (dayAcceptance "2026-01-01").toObject dayHash_ne with gone | kept
    · exact gone
    · exact kept
  rw [shows_restarted.mirrored.lookup_name, absent]
  rfl

theorem admits_acceptsAgain :
    (durableMachine flatJson everyDayLibrary).Admits acceptsAgain := by
  have known : "2026-01-01" ∈ days := by
    decide
  have first :
      DurableBooks.Offers flatJson everyDayLibrary ⟨Disk.empty, ∅⟩
        (dayPost "2026-01-01") :=
    offers_day known rfl
  have second := offers_restarted
  rw [restartedService] at second
  exact ⟨first, trivial, second, trivial⟩

theorem bounded_iff_findsRoom_acceptsAgain :
    ((durableMachine flatJson everyDayLibrary).restrict
        (DurableBooks.FindsRoom flatJson everyDayLibrary)).Admits
        acceptsAgain ↔
      ∀ earlier, earlier <+: acceptsAgain →
        ((durableMachine flatJson everyDayLibrary).run earlier).Bounded
          flatJson :=
  bounded_iff_findsRoom flatJson everyDayLibrary everyDayLibrary_digests
    acceptsAgain admits_acceptsAgain

/-- The bound holds in every state that requests and restarts lead to. -/
def AcceptanceBoundPromise
    (json : JsonText JsObject) (library : AcceptanceLibrary) : Prop :=
  (durableMachine json library).Always (DurableBooks.Bounded json)

/-- The earlier record is still there beside the one that replaces it. -/
theorem not_acceptanceBoundPromise :
    ¬ AcceptanceBoundPromise flatJson everyDayLibrary := by
  intro promise
  have shorter :
      (durableMachine flatJson everyDayLibrary).Admits
        [dayPost "2026-01-01", .restarted] :=
    ⟨admits_acceptsAgain.1, trivial, trivial⟩
  have reached :
      (durableMachine flatJson everyDayLibrary).run
          [dayPost "2026-01-01", .restarted] =
        restartedService := by
    rw [run_restarted, restartedService]
  have next :
      (durableMachine flatJson everyDayLibrary).run acceptsAgain =
        restartedService.step flatJson everyDayLibrary
          (dayPost "2026-01-02") := by
    rw [← reached]
    exact Machine.run_concat _ [_, _] _
  have before := promise _ shorter
  have after := promise _ admits_acceptsAgain
  have accounted := always_accounted everyDayLibrary_digests _ shorter
  rw [reached] at before accounted
  rw [next] at after
  have finds :=
    (findsRoom_iff everyDayLibrary_digests _ accounted offers_restarted
      before).mpr after
  have known : "2026-01-02" ∈ days := by
    decide
  have keeps := finds _ (checked_day known)
  have stored :
      firstBooks.store.lookup (dayHash "2026-01-01") =
        some (dayAcceptance "2026-01-01").toObject :=
    AcceptanceBooks.lookup_file_self _ _ _ _
  have held := (shows_restarted.holds_iff _ _).mpr ⟨_, rfl, stored⟩
  have pair :
      acceptancePair (dayAcceptance "2026-01-01").toObject =
        acceptancePair (dayAcceptance "2026-01-02").toObject :=
    rfl
  rcases keeps.retained _ _ held pair with same | ⟨previous, retains, -⟩
  · exact dayHash_ne ((String.append_left_inj extension).mp same).symm
  · rw [shows_restarted.ledger] at retains
    cases retains

end Replaced

end Tos

end Btcr2Aggregation
