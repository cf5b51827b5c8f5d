import CompilePolicy.Policy.Resolver
import Mathlib.Data.List.Induction

/-!
# The life of a resolver

A resolver is asked for the configuration, asked whether it has one, and reset, while
the files and the properties that it reads change at any time.

What it keeps is told by the past alone: the configuration that the first successful
request since the last reset found, in the surroundings of that time. A request that
fails leaves nothing behind, so the next one reads again.
-/

namespace CompilePolicy.Resolver

open Conventions FileSystem

/-! ## Events -/

/-- What a resolver reads when it has to find a configuration. -/
structure Surroundings where
  files : Files
  properties : Properties

/-- The configuration that there is to find in some surroundings. -/
def Surroundings.resolution (around : Surroundings) : Except SourceFault Configuration :=
  (resolveConfiguration around.files around.properties).map (·.1)

/-- What happens to a resolver, or around it. -/
inductive Event where
  | get
  | query
  | reset
  | change (around : Surroundings)

/-- What an event gives. -/
inductive Answer where
  | got (resolved : Resolved)
  | failed (fault : SourceFault)
  | said (isResolved : Bool)
  | wasReset
  | wasChanged

namespace Answer

def isGot : Answer → Bool
  | got _ => true
  | _ => false

def isFailed : Answer → Bool
  | failed _ => true
  | _ => false

def isReset : Answer → Bool
  | wasReset => true
  | _ => false

end Answer

/-- A resolver in its surroundings. -/
structure Life where
  resolver : Resolver
  around : Surroundings

namespace Life

/-- A new resolver. -/
def begin (around : Surroundings) : Life :=
  ⟨{}, around⟩

/-- Asks the resolver for the configuration. -/
def request (life : Life) : Request :=
  life.resolver.get life.around.files life.around.properties

/-- The resolver and its surroundings after an event. -/
def after (life : Life) : Event → Life
  | .get => { life with resolver := life.request.resolver }
  | .query => life
  | .reset => { life with resolver := life.resolver.reset }
  | .change around => { life with around }

/-- What an event gives. -/
def answer (life : Life) : Event → Answer
  | .get =>
    match life.request.result with
    | .ok resolved => .got resolved
    | .error fault => .failed fault
  | .query => .said life.resolver.isResolved
  | .reset => .wasReset
  | .change _ => .wasChanged

/-- The resolver and its surroundings after some events, the first event first. -/
def run (life : Life) (events : List Event) : Life :=
  events.foldl after life

/-- What events give, one after another. -/
def answers (life : Life) : List Event → List Answer
  | [] => []
  | event :: rest => life.answer event :: (life.after event).answers rest

@[simp]
theorem run_nil (life : Life) : life.run [] = life :=
  rfl

@[simp]
theorem run_cons (life : Life) (event : Event) (rest : List Event) :
    life.run (event :: rest) = (life.after event).run rest :=
  rfl

theorem run_concat (life : Life) (events : List Event) (event : Event) :
    life.run (events ++ [event]) = (life.run events).after event := by
  rw [run, List.foldl_append]
  rfl

end Life

/-- The surroundings after some events: those of the last change. -/
def surroundings (start : Surroundings) (events : List Event) : Surroundings :=
  events.foldl
    (fun around event =>
      match event with
      | .change next => next
      | _ => around)
    start

theorem around_run (life : Life) (events : List Event) :
    (life.run events).around = surroundings life.around events := by
  induction events generalizing life with
  | nil => rfl
  | cons event rest ih =>
      rw [Life.run_cons, ih]
      cases event <;> rfl

/-! ## Requests -/

namespace Life

variable {life : Life}

/-- A resolver that has a configuration gives it. -/
theorem request_of_current {resolved : Resolved} (known : life.resolver.current = some resolved) :
    life.request = ⟨.ok resolved, life.resolver, []⟩ :=
  get_of_current known _ _

/-- A resolver without a configuration reads the properties and keeps what it finds. -/
theorem request_of_found {config : Configuration} (unknown : life.resolver.current = none)
    (found : life.around.resolution = .ok config) :
    life.request.result = .ok ⟨life.resolver.found, config⟩ ∧
      life.request.resolver =
        { current := some ⟨life.resolver.found, config⟩
          found := life.resolver.found + 1
          reads := life.resolver.reads + 1 } := by
  unfold Surroundings.resolution at found
  unfold request Resolver.get
  rw [unknown]
  cases resolved : resolveConfiguration life.around.files life.around.properties with
  | error fault =>
      rw [resolved] at found
      cases found
  | ok value =>
      rw [resolved] at found
      cases found
      exact ⟨rfl, rfl⟩

/-- If there is none to be found, only the reading is left. -/
theorem request_of_fault {fault : SourceFault} (unknown : life.resolver.current = none)
    (missing : life.around.resolution = .error fault) :
    life.request.result = .error fault ∧
      life.request.resolver =
        { found := life.resolver.found, reads := life.resolver.reads + 1 } := by
  unfold Surroundings.resolution at missing
  unfold request Resolver.get
  rw [unknown]
  cases resolved : resolveConfiguration life.around.files life.around.properties with
  | error other =>
      rw [resolved] at missing
      cases missing
      exact ⟨rfl, rfl⟩
  | ok value =>
      rw [resolved] at missing
      cases missing

/-- What is given is kept. -/
theorem current_of_result {resolved : Resolved} (given : life.request.result = .ok resolved) :
    life.request.resolver.current = some resolved := by
  cases known : life.resolver.current with
  | some held =>
      rw [request_of_current known] at given ⊢
      cases given
      exact known
  | none =>
      cases around : life.around.resolution with
      | ok config =>
          obtain ⟨result, resolver⟩ := request_of_found known around
          rw [result] at given
          cases given
          rw [resolver]
      | error fault =>
          obtain ⟨result, -⟩ := request_of_fault known around
          rw [result] at given
          cases given

/-- A request fails only where nothing was kept, and keeps nothing. -/
theorem current_of_fault {fault : SourceFault} (missing : life.request.result = .error fault) :
    life.resolver.current = none ∧ life.request.resolver.current = none := by
  cases known : life.resolver.current with
  | some held =>
      rw [request_of_current known] at missing
      cases missing
  | none =>
      cases around : life.around.resolution with
      | ok config =>
          obtain ⟨result, -⟩ := request_of_found known around
          rw [result] at missing
          cases missing
      | error other =>
          obtain ⟨-, resolver⟩ := request_of_fault known around
          rw [resolver]
          exact ⟨rfl, rfl⟩

/-- A resolver without a configuration reads the properties once to answer. -/
theorem reads_of_unresolved (unknown : life.resolver.current = none) :
    life.request.resolver.reads = life.resolver.reads + 1 := by
  cases around : life.around.resolution with
  | ok config => rw [(request_of_found unknown around).2]
  | error fault => rw [(request_of_fault unknown around).2]

/-- What is kept stays until a reset. -/
theorem current_run {resolved : Resolved} (known : life.resolver.current = some resolved)
    {events : List Event} (kept : .reset ∉ events) :
    (life.run events).resolver.current = some resolved := by
  induction events generalizing life with
  | nil => exact known
  | cons event rest ih =>
      rw [List.mem_cons, not_or] at kept
      apply ih _ kept.2
      cases event with
      | get =>
          change life.request.resolver.current = _
          rw [request_of_current known]
          exact known
      | query => exact known
      | reset => exact absurd rfl kept.1
      | change around => exact known

/-- Only requests touch a resolver that has no configuration. -/
theorem resolver_run (unknown : life.resolver.current = none) {events : List Event}
    (unasked : .get ∉ events) : (life.run events).resolver = life.resolver := by
  induction events generalizing life with
  | nil => rfl
  | cons event rest ih =>
      rw [List.mem_cons, not_or] at unasked
      have same : (life.after event).resolver = life.resolver := by
        cases event with
        | get => exact absurd rfl unasked.1
        | query => rfl
        | reset =>
            change { life.resolver with current := none } = life.resolver
            rw [← unknown]
        | change around => rfl
      rw [run_cons, ih (by rw [same]; exact unknown) unasked.2, same]

end Life

/-! ## Requests since the last reset -/

/-- There was a request right after the events `earlier`, and no reset came since. -/
def AskedSince (past earlier : List Event) : Prop :=
  ∃ later, past = earlier ++ .get :: later ∧ .reset ∉ later

theorem not_askedSince_nil (earlier : List Event) : ¬AskedSince [] earlier := by
  rintro ⟨later, cut, -⟩
  simp at cut

/-- The last event is the request itself, or it does not reset. -/
theorem askedSince_concat {past earlier : List Event} {event : Event} :
    AskedSince (past ++ [event]) earlier ↔
      event = .get ∧ earlier = past ∨ event ≠ .reset ∧ AskedSince past earlier := by
  constructor
  · rintro ⟨later, cut, kept⟩
    rcases List.eq_nil_or_concat later with rfl | ⟨before, last, rfl⟩
    · obtain ⟨same, last⟩ := List.append_inj' cut rfl
      exact .inl ⟨(List.cons.inj last).1, same.symm⟩
    · rw [List.concat_eq_append, ← List.cons_append, ← List.append_assoc] at cut
      obtain ⟨same, last⟩ := List.append_inj' cut rfl
      rw [List.concat_eq_append, List.mem_append, not_or] at kept
      refine .inr ⟨?_, before, same, kept.1⟩
      rintro rfl
      exact kept.2 (List.mem_singleton.mpr (List.cons.inj last).1)
  · rintro (⟨rfl, rfl⟩ | ⟨kept, later, rfl, keptBefore⟩)
    · exact ⟨[], rfl, List.not_mem_nil⟩
    · refine ⟨later ++ [event], by simp, ?_⟩
      rw [List.mem_append, not_or, List.mem_singleton]
      exact ⟨keptBefore, kept.symm⟩

/-- No configuration was to be found in the surroundings at some time. -/
def Missing (start : Surroundings) (past : List Event) : Prop :=
  ∃ fault, (surroundings start past).resolution = .error fault

/-- The first request since the last reset for which there was a configuration to be found
came after the events `before`, and this is the configuration of the surroundings at that
time. -/
structure FirstFound (start : Surroundings) (past before : List Event) (config : Configuration) :
    Prop where
  asked : AskedSince past before
  found : (surroundings start before).resolution = .ok config
  missing : ∀ earlier, AskedSince before earlier → Missing start earlier

theorem FirstFound.concat {start : Surroundings} {past before : List Event}
    {config : Configuration} (first : FirstFound start past before config) {event : Event}
    (kept : event ≠ .reset) : FirstFound start (past ++ [event]) before config :=
  ⟨askedSince_concat.mpr (.inr ⟨kept, first.asked⟩), first.found, first.missing⟩

/-! ## What a resolver keeps -/

/-- A resolver keeps what the first successful request since the last reset found. It keeps
nothing if no request since then was successful. -/
def Accounts (start : Surroundings) (past : List Event) : Option Resolved → Prop
  | some resolved => ∃ before, FirstFound start past before resolved.configuration
  | none => ∀ earlier, AskedSince past earlier → Missing start earlier

/-- An event that neither asks nor resets changes nothing of what is kept. -/
theorem Accounts.concat {start : Surroundings} {past : List Event} {current : Option Resolved}
    (accounts : Accounts start past current) {event : Event} (unasked : event ≠ .get)
    (kept : event ≠ .reset) : Accounts start (past ++ [event]) current := by
  cases current with
  | some resolved =>
      obtain ⟨before, first⟩ := accounts
      exact ⟨before, first.concat kept⟩
  | none =>
      intro earlier asked
      rcases askedSince_concat.mp asked with ⟨isGet, -⟩ | ⟨-, asked⟩
      · exact absurd isGet unasked
      · exact accounts earlier asked

/-- A request keeps the account: what is kept already was found first, and what is found
now comes after failures only. -/
theorem Accounts.get {start : Surroundings} {past : List Event} {life : Life}
    (accounts : Accounts start past life.resolver.current)
    (around : life.around = surroundings start past) :
    Accounts start (past ++ [.get]) life.request.resolver.current := by
  cases known : life.resolver.current with
  | some resolved =>
      rw [known] at accounts
      obtain ⟨before, first⟩ := accounts
      rw [Life.request_of_current known, known]
      exact ⟨before, first.concat (by simp)⟩
  | none =>
      rw [known] at accounts
      cases there : life.around.resolution with
      | ok config =>
          rw [(Life.request_of_found known there).2]
          refine ⟨past, askedSince_concat.mpr (.inl ⟨rfl, rfl⟩), ?_, accounts⟩
          rw [← around, there]
      | error fault =>
          rw [(Life.request_of_fault known there).2]
          intro earlier asked
          rcases askedSince_concat.mp asked with ⟨-, rfl⟩ | ⟨-, asked⟩
          · exact ⟨fault, by rw [← around, there]⟩
          · exact accounts earlier asked

theorem accounts_run (start : Surroundings) (past : List Event) :
    Accounts start past ((Life.begin start).run past).resolver.current := by
  induction past using List.reverseRecOn with
  | nil => exact fun earlier asked => absurd asked (not_askedSince_nil earlier)
  | append_singleton past event ih =>
      rw [Life.run_concat]
      cases event with
      | get => exact ih.get (around_run _ past)
      | query => exact ih.concat (by simp) (by simp)
      | reset =>
          intro earlier asked
          rcases askedSince_concat.mp asked with ⟨isGet, -⟩ | ⟨kept, -⟩
          · cases isGet
          · exact absurd rfl kept
      | change around => exact ih.concat (by simp) (by simp)

/-- A resolver has a configuration exactly if some request since the last reset found one. -/
theorem isResolved_run_iff (start : Surroundings) (past : List Event) :
    ((Life.begin start).run past).resolver.isResolved = true ↔
      ∃ before config, FirstFound start past before config := by
  have accounts := accounts_run start past
  unfold isResolved
  cases known : ((Life.begin start).run past).resolver.current with
  | some resolved =>
      rw [known] at accounts
      obtain ⟨before, first⟩ := accounts
      exact iff_of_true rfl ⟨before, _, first⟩
  | none =>
      rw [known] at accounts
      refine iff_of_false (by simp) ?_
      rintro ⟨before, config, first⟩
      obtain ⟨fault, missing⟩ := accounts before first.asked
      rw [first.found] at missing
      cases missing

/-! ## Objects -/

/-- Numbers are given in order: what is kept at the end was kept at the start already, or
it has a number that was free then. -/
structure Advances (first last : Resolver) : Prop where
  found : first.found ≤ last.found
  current : last.current = first.current ∨
    ∀ resolved, last.current = some resolved →
      first.found ≤ resolved.number ∧ resolved.number < last.found

namespace Advances

theorem refl (resolver : Resolver) : Advances resolver resolver :=
  ⟨Nat.le_refl _, .inl rfl⟩

theorem trans {first middle last : Resolver} (front : Advances first middle)
    (back : Advances middle last) : Advances first last := by
  refine ⟨Nat.le_trans front.found back.found, ?_⟩
  rcases back.current with same | fresh
  · rcases front.current with kept | fresh
    · exact .inl (same.trans kept)
    · refine .inr fun resolved known => ?_
      obtain ⟨free, used⟩ := fresh resolved (same ▸ known)
      exact ⟨free, Nat.lt_of_lt_of_le used back.found⟩
  · refine .inr fun resolved known => ?_
    obtain ⟨free, used⟩ := fresh resolved known
    exact ⟨Nat.le_trans front.found free, used⟩

theorem request (life : Life) : Advances life.resolver life.request.resolver := by
  cases known : life.resolver.current with
  | some resolved =>
      rw [Life.request_of_current known]
      exact .refl _
  | none =>
      cases there : life.around.resolution with
      | ok config =>
          rw [(Life.request_of_found known there).2]
          refine ⟨Nat.le_succ _, .inr ?_⟩
          rintro resolved ⟨⟩
          exact ⟨Nat.le_refl _, Nat.lt_succ_self _⟩
      | error fault =>
          rw [(Life.request_of_fault known there).2]
          exact ⟨Nat.le_refl _, .inl known.symm⟩

theorem run (life : Life) (events : List Event) :
    Advances life.resolver (life.run events).resolver := by
  induction events generalizing life with
  | nil => exact .refl _
  | cons event rest ih =>
      refine trans ?_ (ih (life.after event))
      cases event with
      | get => exact request life
      | query => exact .refl _
      | reset => exact ⟨Nat.le_refl _, .inr (by simp [Life.after])⟩
      | change around => exact .refl _

end Advances

/-- After a reset no request gives what was given before. -/
theorem number_ne_of_reset {start : Surroundings} {past later : List Event}
    {resolved other : Resolved}
    (given : ((Life.begin start).run past).request.result = .ok resolved)
    (isReset : .reset ∈ later)
    (again : ((((Life.begin start).run past).after .get).run later).request.result = .ok other) :
    other.number ≠ resolved.number := by
  let life := ((Life.begin start).run past).after .get
  have used : resolved.number < life.resolver.found := by
    have advances : Advances {} life.resolver :=
      (Advances.run (Life.begin start) past).trans (.request _)
    have known : life.resolver.current = some resolved := Life.current_of_result given
    rcases advances.current with same | fresh
    · rw [known] at same
      cases same
    · exact (fresh resolved known).2
  obtain ⟨front, back, rfl⟩ := List.append_of_mem isReset
  have grown := (Advances.run life front).found
  let emptied := (life.run front).after .reset
  have whole : life.run (front ++ .reset :: back) = emptied.run back := by
    simp [emptied, Life.run]
  have advances : Advances emptied.resolver (emptied.run back).request.resolver :=
    (Advances.run emptied back).trans (.request _)
  rw [whole] at again
  have known := Life.current_of_result again
  rcases advances.current with same | fresh
  · rw [known] at same
    cases same
  · have free : (life.run front).resolver.found ≤ other.number := (fresh other known).1
    omega

/-! ## Readings -/

/-- The readings that made answers, but for those of failures: one for each stretch between
resets in which a configuration was given, unless it was kept from before. -/
def readings (isResolved : Bool) : List (List Answer) → Nat
  | [] => 0
  | stretch :: rest =>
    (if isResolved then 0 else if stretch.any Answer.isGot then 1 else 0) +
      rest.countP (·.any Answer.isGot)

/-- From the start, each stretch counts in which a configuration was given. -/
theorem readings_false (stretches : List (List Answer)) :
    readings false stretches = stretches.countP (·.any Answer.isGot) := by
  cases stretches with
  | nil => rfl
  | cons stretch rest =>
      rw [readings, List.countP_cons, Nat.add_comm]
      rfl

/-- An answer in front stands in the first stretch. -/
theorem splitOnP_cons_answer {answer : Answer} (within : answer.isReset = false)
    (rest : List Answer) :
    ∃ stretch others, rest.splitOnP Answer.isReset = stretch :: others ∧
      (answer :: rest).splitOnP Answer.isReset = (answer :: stretch) :: others := by
  rw [List.splitOnP_cons_eq_if_modifyHead, within]
  cases cut : rest.splitOnP Answer.isReset with
  | nil => exact absurd cut (List.splitOnP_ne_nil _ _)
  | cons stretch others => exact ⟨stretch, others, rfl, rfl⟩

/-- What an event adds to the readings: one for a failure, and one for a configuration that
was not kept before. -/
theorem reads_after (life : Life) (event : Event) (unreset : event ≠ .reset) :
    (life.after event).resolver.reads = life.resolver.reads +
        (if (life.answer event).isFailed then 1 else 0) +
        (if (life.answer event).isGot && !life.resolver.isResolved then 1 else 0) ∧
      (life.after event).resolver.isResolved =
        (life.resolver.isResolved || (life.answer event).isGot) := by
  cases event with
  | reset => exact absurd rfl unreset
  | query => simp [Life.after, Life.answer, Answer.isFailed, Answer.isGot]
  | change around => simp [Life.after, Life.answer, Answer.isFailed, Answer.isGot]
  | get =>
      unfold Life.after Life.answer isResolved
      cases known : life.resolver.current with
      | some resolved =>
          rw [Life.request_of_current known]
          simp [known, Answer.isFailed, Answer.isGot]
      | none =>
          cases there : life.around.resolution with
          | ok config =>
              obtain ⟨result, resolver⟩ := Life.request_of_found known there
              simp only [result, resolver]
              simp [Answer.isFailed, Answer.isGot]
          | error fault =>
              obtain ⟨result, resolver⟩ := Life.request_of_fault known there
              simp only [result, resolver]
              simp [Answer.isFailed, Answer.isGot]

theorem isReset_answer (life : Life) (event : Event) (unreset : event ≠ .reset) :
    (life.answer event).isReset = false := by
  cases event with
  | reset => exact absurd rfl unreset
  | query | change => rfl
  | get =>
      unfold Life.answer
      cases life.request.result <;> rfl

/-- The properties are read once for each failure, and once for each stretch between resets
in which a configuration was given that was not kept from before. -/
theorem reads_run (life : Life) (events : List Event) :
    (life.run events).resolver.reads = life.resolver.reads +
      readings life.resolver.isResolved ((life.answers events).splitOnP Answer.isReset) +
      (life.answers events).countP Answer.isFailed := by
  induction events generalizing life with
  | nil =>
      have none : readings life.resolver.isResolved [[]] = 0 := by simp [readings]
      simp [Life.answers, none]
  | cons event rest ih =>
      rw [Life.run_cons, ih, Life.answers]
      by_cases isReset : event = .reset
      · subst isReset
        have unresolved : (life.after .reset).resolver.isResolved = false := rfl
        have same : (life.after .reset).resolver.reads = life.resolver.reads := rfl
        rw [unresolved, same, readings_false, List.splitOnP_cons_eq_if_modifyHead]
        simp [Life.answer, Answer.isReset, Answer.isFailed, readings]
      · obtain ⟨reads, resolved⟩ := reads_after life event isReset
        obtain ⟨stretch, others, cut, whole⟩ := splitOnP_cons_answer
          (isReset_answer life event isReset) ((life.after event).answers rest)
        rw [reads, resolved, cut, whole, List.countP_cons, readings, readings, List.any_cons]
        cases life.resolver.isResolved <;> cases (life.answer event).isGot <;> simp <;> omega

/-! ## The whole life -/

/-- A resolver from its start, over any events. It has a configuration exactly if some
request since the last reset found one. It has read the properties once for each stretch
between resets in which it gave a configuration, and once for each request that failed.

A request that gives a configuration gives the one that the first successful request since
the last reset found. Until the next reset every request gives the same object, and after
a reset none does. A request that fails leaves the resolver without a configuration, and
the next request reads the properties again. -/
theorem gives_first_found_until_reset (start : Surroundings) (past : List Event) :
    let life := (Life.begin start).run past
    let answers := (Life.begin start).answers past
    (life.resolver.isResolved = true ↔ ∃ before config, FirstFound start past before config) ∧
      life.resolver.reads =
        (answers.splitOnP Answer.isReset).countP (·.any Answer.isGot) +
          answers.countP Answer.isFailed ∧
      (∀ resolved, life.request.result = .ok resolved →
        (∃ before, FirstFound start (past ++ [.get]) before resolved.configuration) ∧
        ∀ later,
          (.reset ∉ later →
            ((life.after .get).run later).request.result = .ok resolved) ∧
          (.reset ∈ later → ∀ other,
            ((life.after .get).run later).request.result = .ok other →
              other.number ≠ resolved.number)) ∧
      ∀ fault, life.request.result = .error fault →
        (life.after .get).resolver.isResolved = false ∧
        ∀ later, .get ∉ later →
          (((life.after .get).run later).after .get).resolver.reads =
            (life.after .get).resolver.reads + 1 := by
  intro life answers
  refine ⟨isResolved_run_iff start past, ?_, ?_, ?_⟩
  · have reads := reads_run (Life.begin start) past
    have unresolved : (Life.begin start).resolver.isResolved = false := rfl
    have unread : (Life.begin start).resolver.reads = 0 := rfl
    rwa [unresolved, unread, readings_false, Nat.zero_add] at reads
  · intro resolved given
    have known : (life.after .get).resolver.current = some resolved :=
      Life.current_of_result given
    refine ⟨?_, fun later => ⟨fun kept => ?_, fun isReset other again => ?_⟩⟩
    · have accounts := accounts_run start (past ++ [.get])
      rw [Life.run_concat, known] at accounts
      exact accounts
    · rw [Life.request_of_current (Life.current_run known kept)]
    · exact number_ne_of_reset given isReset again
  · intro fault missing
    obtain ⟨-, unknown⟩ := Life.current_of_fault missing
    constructor
    · change life.request.resolver.current.isSome = false
      rw [unknown]
      rfl
    · intro later unasked
      have same : ((life.after .get).run later).resolver = (life.after .get).resolver :=
        Life.resolver_run unknown unasked
      change ((life.after .get).run later).request.resolver.reads = _
      rw [Life.reads_of_unresolved (by rw [same]; exact unknown), same]

end CompilePolicy.Resolver
