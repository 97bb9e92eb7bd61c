import FlightStream.Feed.Poll
import FlightStream.Feed.Replay
import FlightStream.Proofs.Json.Limit

/-!
What bad records do to a feed. A line of a file, or a record of a snapshot, is blank, no JSON,
dropped for its flaws, or a valid report; or it is a fault, which no handler takes. Up to the first
fault a replay emits exactly the valid reports, in order, and tells of every other line in one way,
`replay_until_fault`; a snapshot counts each record that it drops once, `snapshot_until_fault`. The
faults are few: a record is one only if its wake category is an infinite number, and a line only if
it holds such a record, a whole number with too many digits or too deep a nesting.
-/

namespace FlightStream.Feed

open Dataflow

variable {α : Type}

/-! ## Outcomes -/

/-- What a line of a file or a record of a snapshot comes to. -/
inductive Outcome
  | blank
  | unparseable
  | dropped (raw : Json) (flaws : List Flaw)
  | valid (report : PositionReport)
  | fault (fault : Fault)

namespace Outcome

/-- What a record comes to. -/
def ofRecord (raw : Json) : Outcome :=
  match Record.toReport raw with
  | .error failure => fault failure
  | .ok (.error flaws) => dropped raw flaws
  | .ok (.ok report) => valid report

/-- What a line comes to. -/
def ofLine (line : List Char) : Outcome :=
  if (Text.trimLine line).isEmpty then blank
  else
    match Json.read (Text.trimLine line) with
    | .error refusal => refusal.fault?.elim unparseable fault
    | .ok raw => ofRecord raw

/-- The report, if there is a valid one. -/
def report? : Outcome → Option PositionReport
  | valid report => some report
  | _ => none

/-- The fault, if there is one. -/
def fault? : Outcome → Option Fault
  | fault failure => some failure
  | _ => none

/-- What is said about an outcome, given what is said about text that is no JSON: a dropped record
adds one to the malformed records. -/
def said (unreadable : List (Effect α)) : Outcome → List (Effect α)
  | unparseable => unreadable
  | dropped raw flaws =>
    [.measured .malformedRecords [] (.increase 1), .warned "adsb" (Record.warning raw flaws)]
  | _ => []

end Outcome

/-- What is taken in of a record is its report and what is said about it, unless it is a fault. -/
theorem Intake.ofRecord_eq (raw : Json) : (Intake.ofRecord raw : Except Fault (Intake α)) =
    match (Outcome.ofRecord raw).fault? with
    | some fault => .error fault
    | none => .ok ⟨(Outcome.ofRecord raw).report?, (Outcome.ofRecord raw).said []⟩ := by
  unfold Intake.ofRecord Outcome.ofRecord
  cases Record.toReport raw with
  | error fault => rfl
  | ok checked => cases checked <;> rfl

/-- The items before the first one that is a fault. -/
def Outcome.untilFault {β : Type} (outcome : β → Outcome) (items : List β) : List β :=
  items.takeWhile fun item => (outcome item).fault?.isNone

theorem Outcome.untilFault_cons {β : Type} {outcome : β → Outcome} {item : β}
    (good : (outcome item).fault? = none) (rest : List β) :
    untilFault outcome (item :: rest) = item :: untilFault outcome rest :=
  List.takeWhile_cons_of_pos (by simp [good])

theorem Outcome.untilFault_cons_fault {β : Type} {outcome : β → Outcome} {item : β} {fault : Fault}
    (failed : (outcome item).fault? = some fault) (rest : List β) :
    untilFault outcome (item :: rest) = [] :=
  List.takeWhile_cons_of_neg (by simp [failed])

/-! ## Faults -/

/-- A record with an infinite number for its wake category. -/
def Boundless (raw : Json) : Prop :=
  ∃ fields number, raw.fields? = some fields ∧
    Record.lookup (Record.present fields) "WTC" "wtc" = some (.number number) ∧
    number.truncate = .error .infinityToInteger

/-- No other wake category fails. -/
theorem wake_fault_iff {value : Json} {fault : Fault} : Record.wake value = .error fault ↔
    fault = .infinityToInteger ∧
      ∃ number, value = .number number ∧ number.truncate = .error .infinityToInteger := by
  cases value with
  | number number =>
    cases whole : number.truncate with
    | ok i => simp [Record.wake, whole]
    | error failure =>
      cases failure <;> simp [Record.wake, whole, eq_comm]
  | _ => simp [Record.wake]

/-- A record is a fault only for an infinite wake category. -/
theorem Outcome.fault_ofRecord_iff {raw : Json} {fault : Fault} :
    (ofRecord raw).fault? = some fault ↔ fault = .infinityToInteger ∧ Boundless raw := by
  have failed : (ofRecord raw).fault? = some fault ↔ Record.toReport raw = .error fault := by
    unfold ofRecord
    cases Record.toReport raw with
    | error failure => simp [fault?]
    | ok checked => cases checked <;> simp [fault?]
  rw [failed]
  unfold Record.toReport Boundless
  cases raw.fields? with
  | none => simp
  | some all =>
    cases found : Record.lookup (Record.present all) "WTC" "wtc" with
    | none => simp [found]
    | some value =>
      have kept : (Record.wake value).map (Record.ofFields (Record.present all)) = .error fault ↔
          Record.wake value = .error fault := by
        cases Record.wake value <;> simp [Except.map]
      simp only [kept, wake_fault_iff, Option.some.injEq, exists_and_left, exists_eq_left', found]

/-- A line is a fault only if it cannot be read for its size, or holds a record that is one. -/
theorem Outcome.fault_ofLine_iff {line : List Char} {fault : Fault} :
    (ofLine line).fault? = some fault ↔ (Text.trimLine line).isEmpty = false ∧
      ((∃ refusal, Json.read (Text.trimLine line) = .error refusal ∧ refusal.fault? = some fault) ∨
        ∃ raw, Json.read (Text.trimLine line) = .ok raw ∧
          fault = .infinityToInteger ∧ Boundless raw) := by
  unfold ofLine
  cases (Text.trimLine line).isEmpty with
  | true => simp [fault?]
  | false =>
    cases Json.read (Text.trimLine line) with
    | error refusal => cases named : refusal.fault? <;> simp [fault?, named]
    | ok raw => simp [fault_ofRecord_iff]

/-! ## Labels -/

/-- The warning about a line that is dropped is put together without fail. -/
theorem Outcome.writtenLabel_of_dropped {line : List Char} {raw : Json} {flaws : List Flaw}
    (drops : ofLine line = dropped raw flaws) :
    Record.writtenLabel raw = .ok (Record.label raw) := by
  unfold ofLine at drops
  split at drops
  · cases drops
  · cases reads : Json.read (Text.trimLine line) with
    | error refusal => cases named : refusal.fault? <;> simp [reads, named] at drops
    | ok value =>
      have same : value = raw := by
        simp only [reads, ofRecord] at drops
        split at drops <;> cases drops
        rfl
      exact Record.writtenLabel_eq (same ▸ Json.writable_read reads)

/-! ## Replays -/

namespace Replay

/-- The turn for a line: none for a fault, and otherwise one that emits the report, if there is
one, and says what there is to say. -/
theorem turn_cases (path : String) (wrap : PositionReport → α) (delayed : Bool) (number : Nat)
    (line : List Char) :
    (∃ fault, (Outcome.ofLine line).fault? = some fault ∧
        turn path wrap delayed number line = .error fault) ∨
      (Outcome.ofLine line).fault? = none ∧ ∃ taken : Option (Turn α),
        turn path wrap delayed number line = .ok taken ∧
        taken.toList.flatMap (·.outputs) = ((Outcome.ofLine line).report?.map wrap).toList ∧
        taken.toList.flatMap (·.effects) =
          (Outcome.ofLine line).said [.warned (sourceName path) (skipWarning path number)] := by
  unfold turn Outcome.ofLine
  dsimp only
  cases (Text.trimLine line).isEmpty with
  | true => exact .inr ⟨rfl, none, rfl, rfl, rfl⟩
  | false =>
    cases Json.read (Text.trimLine line) with
    | error refusal =>
      cases named : refusal.fault? with
      | some fault => exact .inl ⟨fault, by simp [Outcome.fault?, named], by simp [named]⟩
      | none =>
        simp only [Bool.false_eq_true, if_false, named, Option.elim_none]
        exact .inr ⟨rfl, _, rfl, rfl, rfl⟩
    | ok raw =>
      simp only [Bool.false_eq_true, if_false, Intake.ofRecord_eq, Outcome.ofRecord]
      cases Record.toReport raw with
      | error fault => exact .inl ⟨fault, rfl, rfl⟩
      | ok checked =>
        cases checked with
        | error flaws => exact .inr ⟨rfl, _, rfl, rfl, rfl⟩
        | ok report => exact .inr ⟨rfl, _, rfl, rfl, rfl⟩

/-- The script of lines ends at the first fault. Up to there it emits the valid reports in order,
and says of each line what there is to say, with its number. -/
theorem scriptFrom_until_fault (path : String) (wrap : PositionReport → α) (delayed : Bool)
    (number : Nat) (lines : List (List Char)) :
    (scriptFrom path wrap delayed number lines).failure =
        lines.findSome? (fun line => (Outcome.ofLine line).fault?) ∧
      (scriptFrom path wrap delayed number lines).turns.flatMap (·.outputs) =
        ((Outcome.untilFault Outcome.ofLine lines).filterMap
          fun line => (Outcome.ofLine line).report?).map wrap ∧
      (scriptFrom path wrap delayed number lines).turns.flatMap (·.effects) =
        ((Outcome.untilFault Outcome.ofLine lines).zipIdx number).flatMap fun entry =>
          (Outcome.ofLine entry.1).said [.warned (sourceName path) (skipWarning path entry.2)] := by
  induction lines generalizing number with
  | nil => exact ⟨rfl, rfl, rfl⟩
  | cons line rest ih =>
    rcases turn_cases path wrap delayed number line with
      ⟨fault, failed, stopped⟩ | ⟨good, taken, turned, outputs, effects⟩
    · simp [scriptFrom, stopped, failed, Outcome.untilFault_cons_fault failed]
    · obtain ⟨failure, emitted, told⟩ := ih (number + 1)
      simp only [scriptFrom, turned]
      refine ⟨by simpa [good] using failure, ?_, ?_⟩
      · rw [List.flatMap_append, outputs, emitted, Outcome.untilFault_cons good]
        cases report : (Outcome.ofLine line).report? <;> simp [report]
      · rw [List.flatMap_append, effects, told, Outcome.untilFault_cons good, List.zipIdx_cons,
          List.flatMap_cons]

end Replay

/-! ## Snapshots -/

namespace Poll

/-- Reading the records of a snapshot ends at the first fault. Up to there each record that is
dropped is counted once. -/
theorem readRecords_until_fault (last listed : Memory) (records : List Json) :
    (readRecords last listed records : Polled α).failure =
        records.findSome? (fun raw => (Outcome.ofRecord raw).fault?) ∧
      (readRecords last listed records : Polled α).effects =
        (Outcome.untilFault Outcome.ofRecord records).flatMap fun raw =>
          (Outcome.ofRecord raw).said [] := by
  induction records generalizing listed with
  | nil => exact ⟨rfl, rfl⟩
  | cons raw rest ih =>
    unfold readRecords
    rw [Intake.ofRecord_eq]
    cases failed : (Outcome.ofRecord raw).fault? with
    | some fault => simp [failed, Outcome.untilFault_cons_fault failed]
    | none =>
      rw [Outcome.untilFault_cons failed, List.flatMap_cons]
      cases (Outcome.ofRecord raw).report? with
      | none =>
        obtain ⟨failure, told⟩ := ih listed
        exact ⟨by simpa [failed] using failure, congrArg _ told⟩
      | some report =>
        obtain ⟨failure, told⟩ := ih (listed.set report.id (max report.posTime
          (max ((last.find? report.id).getD (-1)) ((listed.find? report.id).getD (-1)))))
        exact ⟨by simpa [failed] using failure, congrArg _ told⟩

/-- A fault leaves what was said as it is, and nothing new. -/
theorem freshReports_until_fault (last : Memory) (records : List Json) :
    (freshReports last records : Polled α).failure =
        records.findSome? (fun raw => (Outcome.ofRecord raw).fault?) ∧
      (freshReports last records : Polled α).effects =
        (Outcome.untilFault Outcome.ofRecord records).flatMap fun raw =>
          (Outcome.ofRecord raw).said [] := by
  have read := readRecords_until_fault (α := α) last [] records
  unfold freshReports
  dsimp only
  split
  · exact read
  · exact read

end Poll

/-! ## What stops a feed -/

/-- Bad records are skipped up to the first fault. A replay of a file emits, in the order of the
lines, the reports of those that are valid, warns of each line that is no JSON with its number, and
counts each record that it drops once; a snapshot of a live feed counts each record that it drops
once as well. Both fail at the first fault and only there. A record is a fault exactly if its wake
category is an infinite number, and a line exactly if it holds such a record or is refused for the
size of a number or the depth of its values. -/
theorem ingestion_until_fault (path : String) (wrap : PositionReport → α) (delayed : Bool)
    (bytes : List UInt8) (last : Poll.Memory) (records : List Json) :
    let lines := Text.lines (Utf8.decodeLossy bytes)
    let script := Replay.script path wrap delayed (.file bytes)
    let polled : Poll.Polled α := Poll.freshReports last records
    (script.failure = lines.findSome? (fun line => (Outcome.ofLine line).fault?) ∧
      script.turns.flatMap (·.outputs) =
        ((Outcome.untilFault Outcome.ofLine lines).filterMap
          fun line => (Outcome.ofLine line).report?).map wrap ∧
      script.turns.flatMap (·.effects) =
        ((Outcome.untilFault Outcome.ofLine lines).zipIdx 1).flatMap fun entry =>
          (Outcome.ofLine entry.1).said
            [.warned (Replay.sourceName path) (Replay.skipWarning path entry.2)]) ∧
    (polled.failure = records.findSome? (fun raw => (Outcome.ofRecord raw).fault?) ∧
      polled.effects = (Outcome.untilFault Outcome.ofRecord records).flatMap
        fun raw => (Outcome.ofRecord raw).said []) ∧
    (∀ raw fault, (Outcome.ofRecord raw).fault? = some fault ↔
      fault = .infinityToInteger ∧ Boundless raw) ∧
    ∀ line fault, (Outcome.ofLine line).fault? = some fault ↔
      (Text.trimLine line).isEmpty = false ∧
        ((∃ refusal, Json.read (Text.trimLine line) = .error refusal ∧
            refusal.fault? = some fault) ∨
          ∃ raw, Json.read (Text.trimLine line) = .ok raw ∧
            fault = .infinityToInteger ∧ Boundless raw) :=
  ⟨Replay.scriptFrom_until_fault path wrap delayed 1 _, Poll.freshReports_until_fault last records,
    fun _ _ => Outcome.fault_ofRecord_iff, fun _ _ => Outcome.fault_ofLine_iff⟩

/-- A file of two records of which the first has an infinite wake category. -/
def boundlessFeed : String :=
  "\x7b\"Id\":1,\"PosTime\":1,\"WTC\":1e400\x7d\n\x7b\"Id\":2,\"PosTime\":2\x7d"

/-- The replay of that file fails before it emits anything, and so does a snapshot of the first
record. -/
theorem infinite_wake_stops_ingestion :
    (Replay.script "feed.jsonl" id false (.file boundlessFeed.toUTF8.toList)).failure =
        some .infinityToInteger ∧
      (Replay.script "feed.jsonl" id false (.file boundlessFeed.toUTF8.toList)).turns.length = 0 ∧
      (Poll.freshReports [] [.object [(.plain "WTC", .number .infinity)]] :
        Poll.Polled PositionReport).failure = some .infinityToInteger := by
  decide +kernel

end FlightStream.Feed
