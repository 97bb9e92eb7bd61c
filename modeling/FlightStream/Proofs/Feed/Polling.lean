import FlightStream.Proofs.Feed.Ingestion
import Mathlib.Data.List.Induction

/-!
What a sequence of polls passes on of one aircraft. A poll that comes to no snapshot brings nothing
and leaves the memory alone, `poll_of_no_snapshot`, so the others do not notice it. While an
aircraft is in every snapshot, the memory holds the greatest of its times, and the reports passed
on are those later than all before them: `readRecords_maxima` for the records of one snapshot,
`polls_maxima` for a run of them.

A text in which values are nested too deeply is refused by a fault that no handler takes: such a
poll does not return, and the source ends with it.
-/

namespace FlightStream.Feed.Poll

open Dataflow

variable {α : Type}

/-! ## Snapshots -/

/-- The records that a response lists. A request that failed, another status than success, a body
that is no JSON or no object, and an object without a list of aircraft are no snapshot. -/
def Response.snapshot? : Response → Option (List Json)
  | failed _ _ => none
  | answered status body =>
    if status < 200 ∨ 299 < status then none
    else
      match Json.readBytes body with
      | .error _ => none
      | .ok payload =>
        match payload.fields?.bind (·.find? "acList") with
        | some (.array records) => some records
        | _ => none

/-- A successful answer whose body is refused because values are nested too deeply. -/
def Response.TooDeep (response : Response) : Prop :=
  ∃ status body inside, response = .answered status body ∧ ¬(status < 200 ∨ 299 < status) ∧
    Json.readBytes body = .error (.tooDeep inside)

/-- A snapshot is read record by record. -/
theorem poll_of_snapshot {response : Response} {records : List Json}
    (listed : response.snapshot? = some records) (last : Memory) :
    (poll none last response : Polled α) = freshReports last records := by
  cases response with
  | failed fault text => cases listed
  | answered status body =>
    simp only [Response.snapshot?] at listed
    simp only [poll, ofAnswer, Option.elim_none]
    split at listed
    · cases listed
    · rename_i success
      rw [if_neg success]
      cases read : Json.readBytes body with
      | error refusal => simp [read] at listed
      | ok payload =>
        simp only [read] at listed
        cases fields : payload.fields? with
        | none => simp [fields] at listed
        | some all =>
          cases found : all.find? "acList" with
          | none => simp [fields, found] at listed
          | some value =>
            cases value <;> simp_all [ofPayload]

/-- The warning about a record of a snapshot is put together without fail. -/
theorem writtenLabel_of_mem_snapshot {response : Response} {records : List Json} {raw : Json}
    (listed : response.snapshot? = some records) (member : raw ∈ records) :
    Record.writtenLabel raw = .ok (Record.label raw) := by
  cases response with
  | failed fault text => cases listed
  | answered status body =>
    simp only [Response.snapshot?] at listed
    split at listed
    · cases listed
    · cases reads : Json.readBytes body with
      | error refusal => simp [reads] at listed
      | ok payload =>
        simp only [reads] at listed
        split at listed
        · rename_i found
          cases listed
          obtain ⟨fields, object, under⟩ := Option.bind_eq_some_iff.mp found
          have writes : (Json.array records).writable = true :=
            Json.writable_of_find? (Json.writable_readBytes reads) object under
          exact Record.writtenLabel_eq (Json.writableItems_iff.mp writes raw member)
        · cases listed

/-- What is no snapshot brings nothing and leaves the memory as it is. It fails only for values
that are nested too deeply. -/
theorem poll_of_no_snapshot {response : Response} (unlisted : response.snapshot? = none)
    (last : Memory) :
    (poll none last response : Polled α).reports = [] ∧
      (poll none last response : Polled α).memory = last ∧
      ((poll none last response : Polled α).failure ≠ none ↔ response.TooDeep) := by
  cases response with
  | failed fault text =>
    refine ⟨rfl, rfl, fun failed => absurd rfl failed, ?_⟩
    rintro ⟨status, body, inside, same, -⟩
    cases same
  | answered status body =>
    have deep : (Response.answered status body).TooDeep ↔ ¬(status < 200 ∨ 299 < status) ∧
        ∃ inside, Json.readBytes body = .error (.tooDeep inside) := by
      refine ⟨fun ⟨_, _, inside, same, success, refused⟩ => ?_, fun ⟨success, inside, refused⟩ =>
        ⟨_, _, inside, rfl, success, refused⟩⟩
      cases same
      exact ⟨success, inside, refused⟩
    rw [deep]
    simp only [Response.snapshot?] at unlisted
    simp only [poll, ofAnswer, Option.elim_none]
    by_cases failed : status < 200 ∨ 299 < status
    · simp [failed, nothing]
    · rw [if_neg failed] at unlisted ⊢
      cases read : Json.readBytes body with
      | error refusal =>
        cases refusal with
        | tooDeep inside => cases inside <;> simp [failed, Json.Refusal.fault?]
        | malformed => simp [nothing]
        | digitLimit digits => simp [nothing]
      | ok payload =>
        simp only [read] at unlisted
        cases fields : payload.fields? with
        | none => simp [ofPayload, fields, nothing]
        | some all =>
          cases found : all.find? "acList" with
          | none => simp [ofPayload, fields, found, nothing]
          | some value =>
            cases value <;> simp_all [ofPayload, nothing]

/-! ## The latest times of an aircraft -/

/-- The valid reports of an aircraft in a snapshot, in the order of its records. -/
def sightings (id : Int) (records : List Json) : List PositionReport :=
  (records.filterMap fun raw => (Outcome.ofRecord raw).report?).filter fun report =>
    report.id = id

/-- The reports of a list that are later than all before them, and than all of some that came
before the list. -/
def maximaAfter (seen : List PositionReport) : List PositionReport → List PositionReport
  | [] => []
  | report :: rest =>
    (if ∀ earlier ∈ seen, earlier.posTime < report.posTime then [report] else []) ++
      maximaAfter (seen ++ [report]) rest

/-- The greatest of a time and the times of some reports. -/
def peak (time : Int) (reports : List PositionReport) : Int :=
  reports.foldl (fun greatest report => max report.posTime greatest) time

/-- The latest time of an aircraft that is known from the last snapshot and the part of this one
that was read. -/
def known (last listed : Memory) (id : Int) : Int :=
  max ((last.find? id).getD (-1)) ((listed.find? id).getD (-1))

theorem peak_append (time : Int) (first second : List PositionReport) :
    peak time (first ++ second) = peak (peak time first) second := List.foldl_append

theorem peak_lt_iff {time bound : Int} {reports : List PositionReport} :
    peak time reports < bound ↔ time < bound ∧ ∀ report ∈ reports, report.posTime < bound := by
  induction reports generalizing time with
  | nil => simp [peak]
  | cons first rest ih =>
    rw [List.forall_mem_cons, show peak time (first :: rest) = peak (max first.posTime time) rest
      from rfl, ih, Int.max_lt]
    exact ⟨fun ⟨⟨own, start⟩, others⟩ => ⟨start, own, others⟩,
      fun ⟨start, own, others⟩ => ⟨⟨own, start⟩, others⟩⟩

theorem le_peak (time : Int) (reports : List PositionReport) : time ≤ peak time reports := by
  by_contra below
  exact absurd (peak_lt_iff.mp (Int.not_le.mp below)).1 (Int.lt_irrefl _)

theorem maximaAfter_append (seen first second : List PositionReport) :
    maximaAfter seen (first ++ second) =
      maximaAfter seen first ++ maximaAfter (seen ++ first) second := by
  induction first generalizing seen with
  | nil => simp [maximaAfter]
  | cons report rest ih => simp [maximaAfter, ih]

theorem sightings_cons_none {id : Int} {raw : Json} (rest : List Json)
    (none_ : (Outcome.ofRecord raw).report? = none) :
    sightings id (raw :: rest) = sightings id rest := by
  unfold sightings
  rw [List.filterMap_cons, none_]

theorem sightings_cons_some {id : Int} {raw : Json} {report : PositionReport} (rest : List Json)
    (valid : (Outcome.ofRecord raw).report? = some report) : sightings id (raw :: rest) =
      if report.id = id then report :: sightings id rest else sightings id rest := by
  unfold sightings
  rw [List.filterMap_cons, valid, List.filter_cons]
  by_cases own : report.id = id <;> simp [own]

theorem readRecords_cons_none {last listed : Memory} {raw : Json} (rest : List Json)
    (sound : (Outcome.ofRecord raw).fault? = none)
    (none_ : (Outcome.ofRecord raw).report? = none) :
    (readRecords last listed (raw :: rest) : Polled α).reports =
        (readRecords last listed rest : Polled α).reports ∧
      (readRecords last listed (raw :: rest) : Polled α).memory =
        (readRecords last listed rest : Polled α).memory := by
  rw [readRecords, Intake.ofRecord_eq, sound, none_]
  exact ⟨rfl, rfl⟩

/-- A valid report is passed on if it is later than what is known, which it then is part of. -/
theorem readRecords_cons_some {last listed : Memory} {raw : Json} {report : PositionReport}
    (rest : List Json) (sound : (Outcome.ofRecord raw).fault? = none)
    (valid : (Outcome.ofRecord raw).report? = some report) :
    let next := listed.set report.id (max report.posTime (known last listed report.id))
    (readRecords last listed (raw :: rest) : Polled α).reports =
        (if known last listed report.id < report.posTime then [report] else []) ++
          (readRecords last next rest : Polled α).reports ∧
      (readRecords last listed (raw :: rest) : Polled α).memory =
        (readRecords last next rest : Polled α).memory := by
  rw [readRecords, Intake.ofRecord_eq, sound, valid]
  refine ⟨?_, rfl⟩
  unfold known
  dsimp only
  split <;> rfl

/-- Reading a valid report raises what is known of its aircraft to its time, and of no other. -/
theorem known_set (last listed : Memory) (report : PositionReport) (id : Int) :
    known last (listed.set report.id (max report.posTime (known last listed report.id))) id =
      if report.id = id then max report.posTime (known last listed id)
      else known last listed id := by
  by_cases own : report.id = id
  · subst own
    rw [if_pos rfl, known, Keyed.find?_set_self, Option.getD_some]
    unfold known
    omega
  · rw [if_neg own, known, Keyed.find?_set_ne _ _ own]
    rfl

/-- What a snapshot leaves in the memory of an aircraft is the greatest time that is known of it, or
nothing if it holds no valid report of it. -/
theorem find?_memory_readRecords (last listed : Memory) (id : Int) {records : List Json}
    (sound : ∀ raw ∈ records, (Outcome.ofRecord raw).fault? = none) :
    (readRecords last listed records : Polled α).memory.find? id =
      if sightings id records = [] then listed.find? id
      else some (peak (known last listed id) (sightings id records)) := by
  induction records generalizing listed with
  | nil => rfl
  | cons raw rest ih =>
    have here := sound raw List.mem_cons_self
    have later := fun other member => sound other (List.mem_cons_of_mem raw member)
    cases valid : (Outcome.ofRecord raw).report? with
    | none =>
      rw [(readRecords_cons_none rest here valid).2, sightings_cons_none rest valid]
      exact ih listed later
    | some report =>
      rw [(readRecords_cons_some rest here valid).2, sightings_cons_some rest valid, ih _ later,
        known_set]
      by_cases own : report.id = id
      · subst own
        rw [Keyed.find?_set_self, if_pos rfl, if_pos rfl, if_neg (List.cons_ne_nil _ _)]
        cases sightings report.id rest <;> rfl
      · rw [Keyed.find?_set_ne _ _ own, if_neg own, if_neg own]

/-- Of an aircraft of which the greatest time is known, a snapshot passes on the reports that are
later than all before them. -/
theorem readRecords_maxima {last listed : Memory} {id : Int} {seen : List PositionReport}
    (knows : known last listed id = peak (-1) seen) {records : List Json}
    (sound : ∀ raw ∈ records, (Outcome.ofRecord raw).fault? = none)
    (started : ∀ report ∈ sightings id records, 0 ≤ report.posTime) :
    ((readRecords last listed records : Polled α).reports.filter fun report => report.id = id) =
      maximaAfter seen (sightings id records) := by
  induction records generalizing listed seen with
  | nil => rfl
  | cons raw rest ih =>
    have here := sound raw List.mem_cons_self
    have later := fun other member => sound other (List.mem_cons_of_mem raw member)
    cases valid : (Outcome.ofRecord raw).report? with
    | none =>
      rw [(readRecords_cons_none rest here valid).1, sightings_cons_none rest valid]
      rw [sightings_cons_none rest valid] at started
      exact ih knows later started
    | some report =>
      rw [(readRecords_cons_some rest here valid).1, sightings_cons_some rest valid,
        List.filter_append]
      rw [sightings_cons_some rest valid] at started
      by_cases own : report.id = id
      · subst own
        rw [if_pos rfl] at started ⊢
        have knowsMore : known last (listed.set report.id (max report.posTime
            (known last listed report.id))) report.id = peak (-1) (seen ++ [report]) := by
          rw [known_set, if_pos rfl, peak_append, knows]
          rfl
        have newer : peak (-1) seen < report.posTime ↔
            ∀ earlier ∈ seen, earlier.posTime < report.posTime := by
          have := started report List.mem_cons_self
          rw [peak_lt_iff]
          exact and_iff_right (by omega)
        rw [ih knowsMore later fun other member => started other (List.mem_cons_of_mem _ member),
          maximaAfter, knows]
        simp only [newer]
        congr 1
        split <;> simp
      · rw [if_neg own] at started ⊢
        have same : known last (listed.set report.id (max report.posTime
            (known last listed report.id))) id = peak (-1) seen := by
          rw [known_set, if_neg own, knows]
        rw [ih same later started]
        split <;> simp [own]

/-- A snapshot without a fault is read to its end. -/
theorem freshReports_sound (last : Memory) {records : List Json}
    (sound : ∀ raw ∈ records, (Outcome.ofRecord raw).fault? = none) :
    (freshReports last records : Polled α) = readRecords last [] records ∧
      (freshReports last records : Polled α).failure = none := by
  have failure : (readRecords last [] records : Polled α).failure = none := by
    rw [(readRecords_until_fault last [] records).1, List.findSome?_eq_none_iff]
    exact sound
  unfold freshReports
  dsimp only
  rw [failure]
  exact ⟨rfl, failure⟩

/-! ## Sequences of polls -/

/-- What polls come to one after the other, each with its response. -/
def polls (last : Memory) : List Response → List (Response × Polled α)
  | [] => []
  | response :: rest =>
    let polled := poll none last response
    (response, polled) :: polls polled.memory rest

/-- The memory that polls leave. -/
def memoryAfter (α : Type) (last : Memory) (responses : List Response) : Memory :=
  responses.foldl (fun memory response => (poll none memory response : Polled α).memory) last

/-- No record of a response is a fault. -/
def Response.Sound (response : Response) : Prop :=
  ∀ records ∈ response.snapshot?, ∀ raw ∈ records, (Outcome.ofRecord raw).fault? = none

instance (response : Response) : Decidable response.Sound :=
  inferInstanceAs (Decidable (∀ records ∈ response.snapshot?, ∀ raw ∈ records,
    (Outcome.ofRecord raw).fault? = none))

theorem polls_append (last : Memory) (first second : List Response) :
    (polls last (first ++ second) : List (Response × Polled α)) =
      polls last first ++ polls (memoryAfter α last first) second := by
  induction first generalizing last with
  | nil => rfl
  | cons response rest ih => simp only [polls, memoryAfter, List.cons_append, List.foldl_cons, ih]

/-- The others do not notice polls that come to no snapshot. -/
theorem polls_snapshots (last : Memory) (responses : List Response) :
    (polls last (responses.filter (·.snapshot?.isSome)) : List (Response × Polled α)) =
      (polls last responses).filter (·.1.snapshot?.isSome) := by
  induction responses generalizing last with
  | nil => rfl
  | cons response rest ih =>
    cases listed : response.snapshot? with
    | some records => simp [polls, listed, ih]
    | none =>
      have kept := (poll_of_no_snapshot (α := α) listed last).2.1
      simp [polls, listed, ih, kept]

/-- An aircraft without a valid report in the last snapshot is forgotten. -/
theorem find?_memoryAfter_eq_none {id : Int} {responses : List Response}
    (sound : ∀ response ∈ responses, response.Sound)
    (gone : ∀ records ∈ (responses.filterMap Response.snapshot?).getLast?,
      sightings id records = []) : (memoryAfter α [] responses).find? id = none := by
  induction responses using List.reverseRecOn with
  | nil => rfl
  | append_singleton before last ih =>
    have step : memoryAfter α [] (before ++ [last]) =
        (poll none (memoryAfter α [] before) last : Polled α).memory := by
      simp [memoryAfter]
    rw [step]
    rw [List.filterMap_append] at gone
    cases listed : last.snapshot? with
    | none =>
      rw [(poll_of_no_snapshot listed _).2.1]
      refine ih (fun response member => sound response (List.mem_append_left _ member)) ?_
      simpa [listed] using gone
    | some records =>
      have clean := sound last (by simp) records listed
      rw [poll_of_snapshot listed, (freshReports_sound _ clean).1,
        find?_memory_readRecords _ _ _ clean, if_pos (gone records (by simp [listed]))]
      rfl

/-- While every snapshot holds a valid report of an aircraft, of which the greatest time is known at
the start, its reports that are later than all before them are passed on. -/
theorem polls_maxima {last : Memory} {id : Int} {seen : List PositionReport}
    (knows : known last [] id = peak (-1) seen) {run : List Response}
    (sound : ∀ response ∈ run, response.Sound)
    (listed : ∀ records ∈ run.filterMap Response.snapshot?, sightings id records ≠ [])
    (started : ∀ records ∈ run.filterMap Response.snapshot?, ∀ report ∈ sightings id records,
      0 ≤ report.posTime) :
    (((polls last run : List (Response × Polled α)).flatMap (·.2.reports)).filter
        fun report => report.id = id) =
      maximaAfter seen ((run.filterMap Response.snapshot?).flatMap (sightings id)) := by
  induction run generalizing last seen with
  | nil => rfl
  | cons response rest ih =>
    have later := fun other member => sound other (List.mem_cons_of_mem response member)
    cases snapshot : response.snapshot? with
    | none =>
      obtain ⟨nothing, kept, -⟩ := poll_of_no_snapshot (α := α) snapshot last
      rw [List.filterMap_cons, snapshot] at listed started ⊢
      simp only [polls, List.flatMap_cons, nothing, kept, List.nil_append]
      exact ih knows later listed started
    | some records =>
      have clean := sound response List.mem_cons_self records snapshot
      rw [List.filterMap_cons, snapshot] at listed started ⊢
      obtain ⟨some_, others⟩ := List.forall_mem_cons.mp listed
      obtain ⟨own, ownLater⟩ := List.forall_mem_cons.mp started
      have same : (poll none last response : Polled α) = readRecords last [] records := by
        rw [poll_of_snapshot snapshot, (freshReports_sound last clean).1]
      have knowsMore : known (readRecords last [] records : Polled α).memory [] id =
          peak (-1) (seen ++ sightings id records) := by
        rw [known, find?_memory_readRecords last [] id clean, if_neg some_, knows, ← peak_append]
        exact Int.max_eq_left (le_peak _ _)
      simp only [polls, List.flatMap_cons, List.filter_append, same, maximaAfter_append]
      rw [readRecords_maxima knows clean own, ih knowsMore later others ownLater]

theorem length_polls (last : Memory) (responses : List Response) :
    (polls last responses : List (Response × Polled α)).length = responses.length := by
  induction responses generalizing last with
  | nil => rfl
  | cons response rest ih => simp [polls, ih]

/-- A source emits what its polls come to, turn by turn, until it ends. -/
theorem turns_pollAll (wrap : PositionReport → α) (interval : Int) (last : Memory)
    (pages : List Page) :
    (pollAll wrap none interval last pages).script.turns.map (·.outputs) <+:
      (polls last (pages.map (·.response)) : List (Response × Polled α)).map
        fun polled => polled.2.reports.map wrap := by
  induction pages generalizing last with
  | nil => exact List.prefix_rfl
  | cons page rest ih =>
    simp only [pollAll, polls, List.map_cons]
    split
    · simp
    · simp
    · split
      · simp
      · simpa using ih _

/-- A run of polls, after others, of which each snapshot holds a valid report of an aircraft, with
times from zero on. No snapshot came before, or the last one held no valid report of it. -/
structure Sighted (id : Int) (before run : List Response) : Prop where
  gone : ∀ records ∈ (before.filterMap Response.snapshot?).getLast?, sightings id records = []
  listed : ∀ records ∈ run.filterMap Response.snapshot?, sightings id records ≠ []
  started : ∀ records ∈ run.filterMap Response.snapshot?, ∀ report ∈ sightings id records,
    0 ≤ report.posTime

/-- What polling passes on of an aircraft. A poll that comes to no snapshot brings nothing and leaves
the memory as it is, whatever that is, and the others do not notice if it is left out; every poll
returns, unless its body is refused because values are nested too deeply. Over a run of polls that
all sighted the aircraft, exactly its reports that are later than all before them in the run are
passed on, in the order of the feed. A source emits what its polls come to, until it ends. -/
theorem polls_pass_on_maxima {responses : List Response}
    (sound : ∀ response ∈ responses, response.Sound) :
    (∀ (last : Memory), ∀ response ∈ responses, response.snapshot? = none →
      (poll none last response : Polled α).reports = [] ∧
        (poll none last response : Polled α).memory = last) ∧
    (∀ (last : Memory), ∀ response ∈ responses,
      (poll none last response : Polled α).failure ≠ none ↔ response.TooDeep) ∧
    (polls [] (responses.filter (·.snapshot?.isSome)) : List (Response × Polled α)) =
      (polls [] responses).filter (·.1.snapshot?.isSome) ∧
    (∀ (before run after : List Response) (id : Int), responses = before ++ run ++ after →
      Sighted id before run →
      (((((polls [] responses : List (Response × Polled α)).drop before.length).take
          run.length).flatMap (·.2.reports)).filter fun report => report.id = id) =
        maximaAfter [] ((run.filterMap Response.snapshot?).flatMap (sightings id))) ∧
    ∀ (wrap : PositionReport → α) (interval : Int) (pages : List Page),
      pages.map (·.response) = responses →
      (pollAll wrap none interval [] pages).script.turns.map (·.outputs) <+:
        (polls [] responses : List (Response × Polled α)).map
          fun polled => polled.2.reports.map wrap := by
  refine ⟨fun last response _ unlisted => ?_, fun last response member => ?_,
    polls_snapshots [] responses, fun before run after id split sighted => ?_,
    fun wrap interval pages same => same ▸ turns_pollAll wrap interval [] pages⟩
  · obtain ⟨nothing, kept, -⟩ := poll_of_no_snapshot (α := α) unlisted last
    exact ⟨nothing, kept⟩
  · cases listed : response.snapshot? with
    | none => exact (poll_of_no_snapshot listed last).2.2
    | some records =>
      rw [poll_of_snapshot listed, (freshReports_sound last (sound response member _ listed)).2]
      refine ⟨fun failed => absurd rfl failed, ?_⟩
      rintro ⟨status, body, inside, rfl, success, refused⟩
      simp [Response.snapshot?, success, refused] at listed
  · subst split
    have early : ∀ response ∈ before, response.Sound := fun response member =>
      sound response (by simp [member])
    have during : ∀ response ∈ run, response.Sound := fun response member =>
      sound response (by simp [member])
    have fresh : known (memoryAfter α [] before) [] id = peak (-1) [] := by
      rw [known, find?_memoryAfter_eq_none early sighted.gone]
      rfl
    rw [List.append_assoc, polls_append, List.drop_left' (length_polls _ _), polls_append,
      List.take_left' (length_polls _ _)]
    exact polls_maxima fresh during sighted.listed sighted.started

/-- A successful answer that lists records, each the text of one. -/
def listing (records : List String) : Response :=
  .answered 200 ("\x7b\"acList\":[" ++ ",".intercalate records ++ "]\x7d").toUTF8.toList

/-- The text of a record of an aircraft at a time. -/
def sighting (id time : String) : String :=
  "\x7b\"Id\":" ++ id ++ ",\"PosTime\":" ++ time ++ "\x7d"

/-- An aircraft that is seen, forgotten, and seen again, in two snapshots with a failure between
them; in the first of these two it comes three times, not in order. -/
def returning : List Response :=
  [listing [sighting "7" "100"], listing [sighting "8" "1"],
    listing [sighting "7" "5", sighting "7" "3", sighting "7" "9"], .answered 503 [],
    listing [sighting "7" "9", sighting "7" "12"]]

theorem polls_pass_on_maxima_returning :
    (∀ response ∈ returning, response.Sound) ∧
      Sighted 7 (returning.take 2) (returning.drop 2) ∧
      (((((polls [] returning : List (Response × Polled PositionReport)).drop 2).take 3).flatMap
        (·.2.reports)).filter fun report => report.id = 7).map (·.posTime) = [5, 9, 12] := by
  have sound : ∀ response ∈ returning, response.Sound := by decide +kernel
  have sighted : Sighted 7 (returning.take 2) (returning.drop 2) :=
    ⟨by decide +kernel, by decide +kernel, by decide +kernel⟩
  obtain ⟨-, -, -, run, -⟩ := polls_pass_on_maxima (α := PositionReport) sound
  have passed := run (returning.take 2) (returning.drop 2) [] 7 rfl sighted
  have maxima : (maximaAfter [] (((returning.drop 2).filterMap Response.snapshot?).flatMap
      (sightings 7))).map (·.posTime) = [5, 9, 12] := by decide +kernel
  exact ⟨sound, sighted, (congrArg _ passed).trans maxima⟩

/-- Opening brackets, one more than values may be nested. -/
def unclosed : Response := .answered 200 (List.replicate 991 0x5b)

/-- These brackets are no JSON, and the poll that reads them fails instead of bringing nothing; the
source does not come to its second request. -/
theorem unclosed_brackets_end_polling :
    unclosed.snapshot? = none ∧
      (poll none [] unclosed : Polled PositionReport).failure = some (.nestedTooDeep "array") ∧
      (pollAll id none 0 [] [⟨unclosed, false⟩, ⟨unclosed, false⟩]).requests = 1 := by
  decide +kernel

end FlightStream.Feed.Poll
