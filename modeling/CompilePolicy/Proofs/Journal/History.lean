import CompilePolicy.Proofs.Journal.Lineage
import CompilePolicy.Proofs.Journal.Opening
import CompilePolicy.Proofs.Text.Plain

/-!
# Log files in the course of time

Log files of the package are called for, and modules make records in between. The latest
call decides: its log file is the only one that is attached, and it takes the records that
its level admits, each once and in order. What has no encoding is lost.

Main statement: `log_files_hold_their_records`. A step lemma says what a call and a record
change, `Tracks` is what they keep, and the runs follow by induction.
-/

namespace CompilePolicy.FileSystem.Files

/-- Files after some bytes are added to one of them, and nothing else. -/
structure AddedTo (place : Place) (bytes : ByteArray) (before after : Files) : Prop where
  stood : before.at? place = some (.file (before.heldAt place))
  added : after.at? place = some (.file (before.heldAt place ++ bytes))
  others : ∀ other, other ≠ place → after.at? other = before.at? other

theorem addedTo_appendAt {files : Files} {place : Place} {held : ByteArray}
    (stood : files.at? place = some (.file held)) (bytes : ByteArray) :
    AddedTo place bytes files (files.appendAt place bytes) where
  stood := by rw [heldAt_of_file stood, stood]
  added := at?_appendAt (by simp [stood]) bytes
  others _ different := at?_appendAt_of_ne different bytes

end CompilePolicy.FileSystem.Files

namespace CompilePolicy.Journal.History

open CompilePolicy.Calendar CompilePolicy.FileSystem Logging

/-! ## Calls and records -/

/-- A call for a log file of the package. -/
structure Call where
  level : Level
  isTimed : Bool
  now : Moment
  path : Path

namespace Call

def options (call : Call) : LogOptions :=
  { level := call.level, isTimed := call.isTimed }

/-- The path that a call returns. -/
def returned (call : Call) : Path :=
  openedPath call.options call.now call.path

/-- What the log file of a call takes of a record: its line, if the level admits the record
and the line has an encoding. -/
def takes? (call : Call) (time : String) (record : Record) : Option ByteArray :=
  if call.level.rank ≤ record.level.rank then (Text.encode (line time record)).toOption
  else none

end Call

/-- A call, or a record that is made at a time. -/
inductive Event where
  | asked (call : Call)
  | made (time : String) (record : Record)

/-- A level is above zero, and a record is made by a module of the package. -/
def Event.IsOfPackage : Event → Prop
  | .asked call => 0 < call.level.rank
  | .made _ record => IsModuleLogger record.logger

/-- The calls among events. -/
def calls : List Event → List Call
  | [] => []
  | .asked call :: rest => call :: calls rest
  | .made _ _ :: rest => calls rest

/-- The latest call. -/
def latest? (events : List Event) : Option Call :=
  (calls events).getLast?

/-- What the log file of a call takes, in order, of the records up to the next call. -/
def Call.taken (call : Call) : List Event → List ByteArray
  | .made time record :: rest => (call.takes? time record).toList ++ call.taken rest
  | _ => []

theorem calls_append (events more : List Event) :
    calls (events ++ more) = calls events ++ calls more := by
  induction events with
  | nil => rfl
  | cons event rest ih => cases event <;> simp [calls, ih]

theorem mem_calls_iff {call : Call} {events : List Event} :
    call ∈ calls events ↔ .asked call ∈ events := by
  induction events with
  | nil => simp [calls]
  | cons event rest ih => cases event <;> simp [calls, ih]

theorem latest?_asked_cons (call : Call) (rest : List Event) :
    latest? (.asked call :: rest) = (latest? rest).or (some call) := by
  unfold latest?
  rw [calls, List.getLast?_cons]
  cases (calls rest).getLast? <;> rfl

/-! ## Runs -/

/-- The loggers, and the files that they write to. -/
structure State where
  logging : Logging
  files : Files
deriving DecidableEq

namespace State

/-- Opens the log file that is called for. -/
def answer (state : State) (call : Call) : Except FileSystem.Fault Opened :=
  state.logging.openFile state.files call.options call.now call.path

def step (state : State) : Event → Except FileSystem.Fault State
  | .asked call => (state.answer call).map fun opened => ⟨opened.logging, opened.files⟩
  | .made time record =>
    .ok { state with files := state.logging.log state.files time record }

/-- What is left when all calls have returned. -/
def run (state : State) : List Event → Except FileSystem.Fault State
  | [] => .ok state
  | event :: rest => (state.step event).bind (·.run rest)

variable {state next final : State} {event : Event} {events : List Event}

theorem run_cons (ran : state.run (event :: events) = .ok final) :
    ∃ next, state.step event = .ok next ∧ next.run events = .ok final := by
  cases stepped : state.step event with
  | error fault =>
      rw [run, stepped] at ran
      cases ran
  | ok next =>
      rw [run, stepped] at ran
      exact ⟨next, rfl, ran⟩

theorem run_append (state : State) (events more : List Event) :
    state.run (events ++ more) = (state.run events).bind (·.run more) := by
  induction events generalizing state with
  | nil => rfl
  | cons event rest ih =>
      simp only [List.cons_append, run]
      cases state.step event with
      | error fault => rfl
      | ok next => exact ih next

/-- A run goes through what stands at any time in it. -/
theorem exists_run_of_append {more : List Event} (ran : state.run (events ++ more) = .ok final) :
    ∃ next, state.run events = .ok next ∧ next.run more = .ok final := by
  rw [run_append] at ran
  cases reached : state.run events with
  | error fault =>
      rw [reached] at ran
      cases ran
  | ok next =>
      rw [reached] at ran
      exact ⟨next, rfl, ran⟩

theorem step_asked {call : Call} (stepped : state.step (.asked call) = .ok next) :
    ∃ opened, state.answer call = .ok opened ∧ next = ⟨opened.logging, opened.files⟩ := by
  unfold step at stepped
  dsimp only at stepped
  cases answered : state.answer call with
  | error fault =>
      rw [answered] at stepped
      cases stepped
  | ok opened =>
      rw [answered] at stepped
      cases stepped
      exact ⟨opened, rfl, rfl⟩

end State

/-! ## What calls and records keep -/

/-- The state after a call: its log file is the only one, and all modules have its level. -/
structure Follows (call : Call) (place : Place) (state : State) : Prop where
  attached : state.logging.files = [{ logger := packageLogger, place }]
  unset : IsUnset state.logging
  level : ∀ {logger}, IsModuleLogger logger → state.logging.levelOf logger = call.level
  located : state.files.locate call.returned = .ok place
  stands : ∃ bytes, state.files.at? place = some (.file bytes)

/-- The state follows the latest call, or there was none and nothing is attached. -/
def Tracks (state : State) : Option Call → Prop
  | none => state.logging.files = [] ∧ IsUnset state.logging
  | some call => ∃ place, Follows call place state

variable {state next final : State} {call : Call} {place : Place} {latest : Option Call}

theorem Tracks.unset (tracks : Tracks state latest) : IsUnset state.logging := by
  cases latest with
  | none => exact tracks.2
  | some call =>
      obtain ⟨place, follows⟩ := tracks
      exact follows.unset

theorem Tracks.ofPackage (tracks : Tracks state latest) :
    ∀ log ∈ state.logging.files, log.logger = packageLogger := by
  cases latest with
  | none => simp [tracks.1]
  | some call =>
      obtain ⟨place, follows⟩ := tracks
      simp [follows.attached]

theorem Tracks.holds (tracks : Tracks state latest) : HoldsLogs state.logging state.files := by
  cases latest with
  | none => simp [HoldsLogs, tracks.1]
  | some call =>
      obtain ⟨place, follows⟩ := tracks
      simp only [HoldsLogs, follows.attached, List.mem_singleton, forall_eq]
      exact follows.stands

/-- A call that returns leaves its log file attached in the place of any other. -/
theorem Tracks.follows_answer (tracks : Tracks state latest) (admits : 0 < call.level.rank)
    {opened : Opened} (answered : state.answer call = .ok opened) :
    ∃ place, Follows call place ⟨opened.logging, opened.files⟩ ∧
      Opens state.files call.options place opened ∧ opened.path = call.returned := by
  obtain ⟨place, before, opens, path, kept, attached⟩ := opens_openFile answered
  have returned : opened.path = call.returned := path
  have named : loggerNamed packageLogger = packageLogger := by decide
  replace attached : opened.logging = (before.setLevel packageLogger call.level).attach
      packageLogger place := by rw [attached, ← named]; rfl
  have ofPackage : ∀ log ∈ before.files, log.logger = packageLogger := by
    intro log listed
    obtain ⟨old, listedOld, sameLogger, -⟩ := kept.logs log listed
    rw [← sameLogger, tracks.ofPackage old listedOld]
  have unset : IsUnset before := fun logger isModule other => by
    rw [kept.levels]
    exact tracks.unset logger isModule other
  refine ⟨place, ⟨?_, ?_, fun isModule => ?_, ?_, ?_⟩, opens, returned⟩
  · have none : before.files.filter (·.logger != packageLogger) = [] := by
      rw [List.filter_eq_nil_iff]
      intro log listed
      simp [ofPackage log listed]
    rw [attached]
    unfold attach setLevel
    dsimp only
    rw [none]
    rfl
  · rw [attached]
    exact unset.setLevel call.level
  · rw [attached]
    exact levelOf_setLevel unset (Int.ne_of_gt admits) isModule
  · rw [← returned]
    exact opens.located
  · exact opens.stands

/-- The log file takes what the call says, and no other file anything. -/
theorem Follows.log_eq (follows : Follows call place state) (admits : 0 < call.level.rank)
    {record : Record} (isModule : IsModuleLogger record.logger) (time : String) :
    state.logging.log state.files time record =
      match call.takes? time record with
      | some bytes => state.files.appendAt place bytes
      | none => state.files := by
  unfold Logging.log Call.takes?
  cases Text.encode (line time record) with
  | error fault => simp [Except.toOption]
  | ok bytes =>
      have kept : state.logging.keeps record =
          decide (call.level.rank ≤ record.level.rank) := by
        unfold keeps
        rw [follows.level isModule, Bool.eq_iff_iff]
        simp only [Bool.and_eq_true, decide_eq_true_eq]
        omega
      rw [kept, takers_of_attached follows.attached rfl isModule]
      by_cases important : call.level.rank ≤ record.level.rank
      · simp only [important, decide_true, if_true]
        rfl
      · simp only [important, decide_false, Bool.false_eq_true, if_false]

/-- Records change no loggers, and files only grow by them. -/
theorem Follows.grown {files : Files} (follows : Follows call place state)
    (grows : state.files.Grows files) : Follows call place { state with files } where
  attached := follows.attached
  unset := follows.unset
  level := follows.level
  located := grows.locate follows.located
  stands := by
    obtain ⟨held, found⟩ := follows.stands
    exact grows.contents found

theorem Tracks.grown {files : Files} (tracks : Tracks state latest)
    (grows : state.files.Grows files) : Tracks { state with files } latest := by
  cases latest with
  | none => exact tracks
  | some call =>
      obtain ⟨place, follows⟩ := tracks
      exact ⟨place, follows.grown grows⟩

/-! ## Runs from one call to the next -/

/-- After a run the state follows the latest call, and files have only grown. -/
theorem Tracks.run {events : List Event} (tracks : Tracks state latest)
    (ofPackage : ∀ event ∈ events, event.IsOfPackage)
    (ran : state.run events = .ok final) :
    Tracks final ((latest? events).or latest) ∧ state.files.Grows final.files := by
  induction events generalizing state latest with
  | nil =>
      cases ran
      exact ⟨tracks, .refl _⟩
  | cons event rest ih =>
      obtain ⟨next, stepped, onward⟩ := State.run_cons ran
      rw [List.forall_mem_cons] at ofPackage
      cases event with
      | asked call =>
          obtain ⟨opened, answered, rfl⟩ := State.step_asked stepped
          obtain ⟨place, follows, opens, -⟩ := tracks.follows_answer ofPackage.1 answered
          have tracksNext : Tracks ⟨opened.logging, opened.files⟩ (some call) := ⟨place, follows⟩
          obtain ⟨tracksFinal, grows⟩ := ih tracksNext ofPackage.2 onward
          refine ⟨?_, opens.grown.trans grows⟩
          rw [latest?_asked_cons, Option.or_assoc, Option.some_or]
          exact tracksFinal
      | made time record =>
          cases stepped
          have grown := grows_log tracks.holds time record
          obtain ⟨tracksFinal, grows⟩ := ih (tracks.grown grown) ofPackage.2 onward
          exact ⟨tracksFinal, grown.trans grows⟩

/-- A call that leads elsewhere leaves a file as it is, and closed. -/
theorem Tracks.asked_elsewhere {rest : List Event} {opened : Opened} (tracks : Tracks state latest)
    (admits : 0 < call.level.rank) (answered : state.answer call = .ok opened)
    (ofPackage : ∀ event ∈ rest, event.IsOfPackage)
    (ran : State.run ⟨opened.logging, opened.files⟩ rest = .ok final)
    (elsewhere : final.files.locate call.returned ≠ .ok place) :
    Tracks ⟨opened.logging, opened.files⟩ (some call) ∧
      (∀ log ∈ opened.logging.files, log.place ≠ place) ∧
      ∀ bytes, opened.files.at? place = some (.file bytes) ↔
        state.files.at? place = some (.file bytes) := by
  obtain ⟨new, follows, opens, -⟩ := tracks.follows_answer admits answered
  have tracksNext : Tracks ⟨opened.logging, opened.files⟩ (some call) := ⟨new, follows⟩
  have different : new ≠ place := by
    rintro rfl
    exact elsewhere ((tracksNext.run ofPackage ran).2.locate follows.located)
  have attached : opened.logging.files = [{ logger := packageLogger, place := new }] :=
    follows.attached
  refine ⟨tracksNext, ?_, opens.others (Ne.symm different)⟩
  simp [attached, different]

/-- A file that is no open log file, and to which no call leads, stays as it is. -/
theorem Tracks.run_leaves {events : List Event} (tracks : Tracks state latest)
    (ofPackage : ∀ event ∈ events, event.IsOfPackage)
    (ran : state.run events = .ok final)
    (closed : ∀ log ∈ state.logging.files, log.place ≠ place)
    (elsewhere : ∀ call ∈ calls events, final.files.locate call.returned ≠ .ok place)
    (bytes : ByteArray) :
    final.files.at? place = some (.file bytes) ↔ state.files.at? place = some (.file bytes) := by
  induction events generalizing state latest with
  | nil =>
      cases ran
      rfl
  | cons event rest ih =>
      obtain ⟨next, stepped, onward⟩ := State.run_cons ran
      rw [List.forall_mem_cons] at ofPackage
      cases event with
      | asked call =>
          obtain ⟨opened, answered, rfl⟩ := State.step_asked stepped
          obtain ⟨notThis, notLater⟩ := List.forall_mem_cons.mp elsewhere
          obtain ⟨tracksNext, closedNext, same⟩ :=
            tracks.asked_elsewhere ofPackage.1 answered ofPackage.2 onward notThis
          exact (ih tracksNext ofPackage.2 onward closedNext notLater).trans (same bytes)
      | made time record =>
          cases stepped
          have grown := grows_log tracks.holds time record
          rw [ih (tracks.grown grown) ofPackage.2 onward closed elsewhere, at?_log_of_ne closed]

/-- The log file of a call takes the records up to the next call, and nothing afterwards. -/
theorem Follows.run_adds {rest : List Event} (follows : Follows call place state)
    (admits : 0 < call.level.rank) (ofPackage : ∀ event ∈ rest, event.IsOfPackage)
    (ran : state.run rest = .ok final)
    (elsewhere : ∀ later ∈ calls rest, final.files.locate later.returned ≠ .ok place)
    {base : ByteArray} (held : state.files.at? place = some (.file base)) :
    final.files.at? place = some (.file ((call.taken rest).foldl (· ++ ·) base)) := by
  induction rest generalizing state base with
  | nil =>
      cases ran
      exact held
  | cons event rest ih =>
      have tracks : Tracks state (some call) := ⟨place, follows⟩
      obtain ⟨next, stepped, onward⟩ := State.run_cons ran
      rw [List.forall_mem_cons] at ofPackage
      cases event with
      | asked later =>
          obtain ⟨opened, answered, rfl⟩ := State.step_asked stepped
          obtain ⟨notThis, notLater⟩ := List.forall_mem_cons.mp elsewhere
          obtain ⟨tracksNext, closed, same⟩ :=
            tracks.asked_elsewhere ofPackage.1 answered ofPackage.2 onward notThis
          exact (tracksNext.run_leaves ofPackage.2 onward closed notLater base).mpr
            ((same base).mpr held)
      | made time record =>
          cases stepped
          have grown := grows_log tracks.holds time record
          have followsNext := follows.grown grown
          rw [follows.log_eq admits ofPackage.1] at onward followsNext
          rw [Call.taken, List.foldl_append]
          cases taken : call.takes? time record with
          | none =>
              rw [taken] at onward followsNext
              exact ih followsNext ofPackage.2 onward elsewhere held
          | some bytes =>
              rw [taken] at onward followsNext
              have added := (Files.addedTo_appendAt held bytes).added
              rw [Files.heldAt_of_file held] at added
              exact ih followsNext ofPackage.2 onward elsewhere added

/-! ## Whole histories -/

/-- A run goes through what an event in it changes, and follows the latest call before. -/
theorem Tracks.reaches {start final : State} {events past : List Event} {event : Event}
    (tracks : Tracks start none) (ofPackage : ∀ event ∈ events, event.IsOfPackage)
    (ran : start.run events = .ok final) (inside : past ++ [event] <+: events) :
    ∃ before after, start.run past = .ok before ∧ before.step event = .ok after ∧
      start.run (past ++ [event]) = .ok after ∧ Tracks before (latest? past) := by
  obtain ⟨more, rfl⟩ := inside
  obtain ⟨after, ranAfter, -⟩ := State.exists_run_of_append ran
  obtain ⟨before, ranPast, ranEvent⟩ := State.exists_run_of_append ranAfter
  obtain ⟨next, stepped, done⟩ := State.run_cons ranEvent
  cases done
  have ofPast : ∀ event ∈ past, event.IsOfPackage := fun event listed =>
    ofPackage event (List.mem_append_left _ (List.mem_append_left _ listed))
  have tracksBefore := (tracks.run ofPast ranPast).1
  rw [Option.or_none] at tracksBefore
  exact ⟨before, after, ranPast, stepped, ranAfter, tracksBefore⟩

/-- What is left when a log file of the package is called for: it is the only one that is
attached, at the place to which the path leads that is returned. -/
def Attaches (start : State) (past : List Event) (call : Call) : Prop :=
  ∃ before opened place, start.run past = .ok before ∧ before.answer call = .ok opened ∧
    start.run (past ++ [.asked call]) = .ok ⟨opened.logging, opened.files⟩ ∧
    opened.logging.files = [{ logger := packageLogger, place }] ∧
    opened.path = call.returned ∧ opened.files.locate opened.path = .ok place

/-- What a record changes: the log file of the latest call if it takes the record, and no
other file. -/
def IsTaken (start : State) (past : List Event) (time : String) (record : Record) : Prop :=
  ∃ before after, start.run past = .ok before ∧
    start.run (past ++ [.made time record]) = .ok after ∧
    match latest? past with
    | none => after.files = before.files
    | some call =>
      match call.takes? time record with
      | none => after.files = before.files
      | some bytes => ∃ place, before.files.locate call.returned = .ok place ∧
          Files.AddedTo place bytes before.files after.files

/-- What is found in the log file of a call in the end: behind what it held when it was
opened, what it takes of the records up to the next call. -/
def Holds (start final : State) (call : Call) (rest : List Event) : Prop :=
  ∃ place base, final.files.locate call.returned = .ok place ∧
    (base = start.files.heldAt place ∨ call.isTimed = false ∧ base = .empty) ∧
    final.files.at? place = some (.file ((call.taken rest).foldl (· ++ ·) base))

section

variable {start final : State} {events past rest : List Event} (tracks : Tracks start none)
variable (ofPackage : ∀ event ∈ events, event.IsOfPackage) (ran : start.run events = .ok final)
include tracks ofPackage ran

theorem Tracks.attaches (inside : past ++ [.asked call] <+: events) :
    Attaches start past call := by
  obtain ⟨before, after, ranPast, stepped, ranAsked, tracksBefore⟩ :=
    tracks.reaches ofPackage ran inside
  have admits : 0 < call.level.rank := ofPackage (.asked call) (inside.subset (by simp))
  obtain ⟨opened, answered, rfl⟩ := State.step_asked stepped
  obtain ⟨place, follows, -, returned⟩ := tracksBefore.follows_answer admits answered
  exact ⟨before, opened, place, ranPast, answered, ranAsked, follows.attached, returned,
    returned ▸ follows.located⟩

theorem Tracks.isTaken {time : String} {record : Record}
    (inside : past ++ [.made time record] <+: events) : IsTaken start past time record := by
  obtain ⟨before, after, ranPast, stepped, ranMade, tracksBefore⟩ :=
    tracks.reaches ofPackage ran inside
  have isModule : IsModuleLogger record.logger :=
    ofPackage (.made time record) (inside.subset (by simp))
  refine ⟨before, after, ranPast, ranMade, ?_⟩
  cases stepped
  cases latest : latest? past with
  | none =>
      rw [latest] at tracksBefore
      exact log_of_no_files tracksBefore.1 _ _ _
  | some call =>
      rw [latest] at tracksBefore
      obtain ⟨place, follows⟩ := tracksBefore
      have listed : .asked call ∈ past := mem_calls_iff.mp (List.mem_of_getLast? latest)
      have admits : 0 < call.level.rank :=
        ofPackage (.asked call) (inside.subset (List.mem_append_left _ listed))
      dsimp only
      rw [follows.log_eq admits isModule]
      cases call.takes? time record with
      | none => rfl
      | some bytes =>
          obtain ⟨held, stands⟩ := follows.stands
          exact ⟨place, follows.located, Files.addedTo_appendAt stands bytes⟩

/-- A log file that no other call leads to is left alone before its call, takes what its
call says up to the next one, and is left alone again. -/
theorem Tracks.holds_taken (split : events = past ++ .asked call :: rest)
    (apart : (calls events).Pairwise fun first second =>
      final.files.locate first.returned ≠ final.files.locate second.returned) :
    Holds start final call rest := by
  subst split
  rw [calls_append, List.pairwise_append] at apart
  obtain ⟨-, apartLater, apartEarlier⟩ := apart
  have ofPast : ∀ event ∈ past, event.IsOfPackage := fun event listed =>
    ofPackage event (List.mem_append_left _ listed)
  obtain ⟨admits, ofRest⟩ := List.forall_mem_cons.mp fun event listed =>
    ofPackage event (List.mem_append_right past listed)
  obtain ⟨before, ranPast, ranOn⟩ := State.exists_run_of_append ran
  obtain ⟨next, stepped, onward⟩ := State.run_cons ranOn
  obtain ⟨opened, answered, rfl⟩ := State.step_asked stepped
  have tracksBefore := (tracks.run ofPast ranPast).1
  obtain ⟨place, follows, opens, -⟩ := tracksBefore.follows_answer admits answered
  have tracksNext : Tracks ⟨opened.logging, opened.files⟩ (some call) := ⟨place, follows⟩
  have grows := (tracksNext.run ofRest onward).2
  have located := grows.locate follows.located
  have untouched : before.files.heldAt place = start.files.heldAt place := by
    refine Files.heldAt_congr (tracks.run_leaves ofPast ranPast (by simp [tracks.1]) ?_)
    intro earlier listed led
    have same := grows.locate (opens.grown.locate led)
    exact apartEarlier earlier listed call List.mem_cons_self (same.trans located.symm)
  have elsewhere : ∀ later ∈ calls rest, final.files.locate later.returned ≠ .ok place := by
    intro later listed led
    exact (List.pairwise_cons.mp apartLater).1 later listed (located.trans led.symm)
  rcases opens.held with held | ⟨untimed, held⟩
  · rw [untouched] at held
    exact ⟨place, _, located, .inl rfl, follows.run_adds admits ofRest onward elsewhere held⟩
  · exact ⟨place, _, located, .inr ⟨untimed, rfl⟩,
      follows.run_adds admits ofRest onward elsewhere held⟩

end

/-- Whenever a log file of the package has been called for, it is the only one, at the path
that was returned. Each record of a module that its level admits, and whose line has an
encoding, is added to it once, and any other record to no file. So when the paths that were
returned lead to different files in the end, each of these holds what was logged from its
call up to the next one, in order. -/
theorem log_files_hold_their_records {start final : State} {events : List Event}
    (unattached : start.logging.files = []) (unset : IsUnset start.logging)
    (ofPackage : ∀ event ∈ events, event.IsOfPackage)
    (ran : start.run events = .ok final) :
    (∀ past call, past ++ [.asked call] <+: events → Attaches start past call) ∧
    (∀ past time record, past ++ [.made time record] <+: events →
      IsTaken start past time record) ∧
    ((calls events).Pairwise (fun first second =>
        final.files.locate first.returned ≠ final.files.locate second.returned) →
      ∀ past call rest, events = past ++ .asked call :: rest → Holds start final call rest) := by
  have tracks : Tracks start none := ⟨unattached, unset⟩
  refine ⟨fun past call inside => ?_, fun past time record inside => ?_, ?_⟩
  · exact tracks.attaches ofPackage ran inside
  · exact tracks.isTaken ofPackage ran inside
  · exact fun apart past call rest split => tracks.holds_taken ofPackage ran split apart

/-- Two log files, one after the other, hold the records of their own times that their
levels admit. -/
theorem log_files_hold_their_records_at_two_calls :
    let now : Moment := ⟨⟨2025, 1, 2⟩, 3, 4, 5, 0, none⟩
    let first : Call := ⟨.info, false, now, .ofText "logs/a.log"⟩
    let second : Call := ⟨.error, true, now, .ofText "b.log"⟩
    let record (level : Level) (message : String) : Event :=
      .made "noon" ⟨childLogger "x", level, message⟩
    let rest := [record .warning "late", record .critical "last"]
    let start : State := ⟨{}, .empty⟩
    ∃ final, start.run ([.asked first, record .debug "small", record .info "one",
        record .warning "two", .asked second] ++ rest) = .ok final ∧
      Holds start final second rest ∧
      final.files.contents =
        [(["logs", "a.log"], ("noon | INFO | enterprise_groovy.x | one\n" ++
            "noon | WARNING | enterprise_groovy.x | two\n").toUTF8),
          (["b_20250102_030405.log"],
            "noon | CRITICAL | enterprise_groovy.x | last\n".toUTF8)] := by
  intro now first second record rest start
  let place : Place := ["b_20250102_030405.log"]
  let final : State := {
    logging := {
      levels := [(packageLogger, .error), (rootLogger, .warning)]
      files := [{ logger := packageLogger, place }] }
    files := ⟨[(["logs"], .directory),
      (["logs", "a.log"], .file ("noon | INFO | enterprise_groovy.x | one\n" ++
        "noon | WARNING | enterprise_groovy.x | two\n").toUTF8),
      (place, .file "noon | CRITICAL | enterprise_groovy.x | last\n".toUTF8)]⟩ }
  have ran : start.run ([.asked first, record .debug "small", record .info "one",
      record .warning "two", .asked second] ++ rest) = .ok final := by
    decide +kernel
  have isModule : IsModuleLogger (childLogger "x") := .child .package (by decide) (by decide)
  have unset : IsUnset start.logging := by
    intro logger isModule _
    have notRoot := isModule.ne_rootLogger
    change List.lookup logger [(rootLogger, Level.warning)] = none
    rw [List.lookup_cons, beq_eq_false_iff_ne.mpr notRoot]
    rfl
  have ofPackage : ∀ event ∈ [.asked first, record .debug "small", record .info "one",
      record .warning "two", .asked second] ++ rest, event.IsOfPackage := by
    simp only [rest, record, List.cons_append, List.nil_append, List.forall_mem_cons,
      Event.IsOfPackage, isModule, true_and]
    exact ⟨by decide, by decide, List.forall_mem_nil _⟩
  have apart : (calls ([.asked first, record .debug "small", record .info "one",
      record .warning "two", .asked second] ++ rest)).Pairwise fun one other =>
        final.files.locate one.returned ≠ final.files.locate other.returned := by
    decide +kernel
  refine ⟨final, ran, ?_, by decide +kernel⟩
  exact (log_files_hold_their_records rfl unset ofPackage ran).2.2 apart
    [.asked first, record .debug "small", record .info "one", record .warning "two"] second rest rfl

/-- Half of a surrogate pair in a message keeps the record out of the log file. -/
theorem record_with_half_is_lost :
    let now : Moment := ⟨⟨2025, 1, 2⟩, 3, 4, 5, 0, none⟩
    let call : Call := ⟨.info, false, now, .ofText "run.log"⟩
    let half := String.ofList (Text.holdCode 0xD800)
    let record : Record :=
      ⟨childLogger "config.resolver", .warning, "Ignoring unknown conventions: " ++ half⟩
    let start : State := ⟨{}, .empty⟩
    call.level.rank ≤ record.level.rank ∧
      ∃ final, start.run [.asked call, .made "noon" record] = .ok final ∧
        final.files.locate call.returned = .ok ["run.log"] ∧
        final.files.at? ["run.log"] = some (.file .empty) := by
  intro now call half record start
  let place : Place := ["run.log"]
  let final : State := {
    logging := {
      levels := [(packageLogger, .info), (rootLogger, .warning)]
      files := [{ logger := packageLogger, place }] }
    files := ⟨[(place, .file .empty)]⟩ }
  have ran : start.run [.asked call, .made "noon" record] = .ok final := by
    decide +kernel
  exact ⟨by decide, final, ran, by decide +kernel, by decide +kernel⟩

end CompilePolicy.Journal.History
