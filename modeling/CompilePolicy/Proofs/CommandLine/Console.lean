import CompilePolicy.CommandLine.Console

/-!
# Running parts of commands

What the steps of commands do to a console, and where a sequence of them ends. A
part ends with a value or with a stop, and what holds in each case is found step by
step.
-/

namespace CompilePolicy.CommandLine.Console

open CompilePolicy.FileSystem CompilePolicy.Journal

variable {α β : Type} (console : Console) (setting : Setting)

/-! ## Single steps -/

/-- A sequence runs its second part where the first one ended, unless that stopped. -/
theorem run_bind (first : InConsole α) (next : α → InConsole β) :
    console.run setting (first >>= next) =
      match console.run setting first with
      | (.ok value, after) => after.run setting (next value)
      | (.error stop, after) => (.error stop, after) := by
  change (match first setting console with
    | (result, after) => ExceptT.bindCont (fun value => next value setting) result after) = _
  unfold run
  rcases ran : first setting console with ⟨result, after⟩
  cases result with
  | ok value => simp [ran, ReaderT.run, ExceptT.run, StateT.run, ExceptT.bindCont]
  | error stop =>
      simp only [ran, ReaderT.run, ExceptT.run, StateT.run, ExceptT.bindCont]
      rfl

theorem run_pure (value : α) : console.run setting (pure value) = (.ok value, console) :=
  rfl

theorem run_throw (stop : Stop) :
    console.run setting (throw stop : InConsole α) = (.error stop, console) :=
  rfl

theorem run_read : console.run setting read = (.ok setting, console) :=
  rfl

theorem run_get : console.run setting get = (.ok console, console) :=
  rfl

theorem run_get_bind (next : Console → InConsole α) :
    console.run setting (get >>= next) = console.run setting (next console) := by
  rw [run_bind, run_get]

theorem run_modify (change : Console → Console) :
    console.run setting (modify change) = (.ok (), change console) :=
  rfl

theorem run_log (record : Record) :
    console.run setting (log record) =
      (.ok (),
        { console with
          files := console.logging.log console.files setting.lineTime record
          records := console.records ++ [record].filter console.logging.keeps }) :=
  rfl

/-! ## Where parts end -/

/-- A part ends with a value for which `Done` holds in the console after it, or with a
stop for which `Stopped` does. -/
inductive Ends (part : InConsole α) (Done : α → Console → Prop)
    (Stopped : Stop → Console → Prop) : Prop
  | value {value : α} {after : Console} (ran : console.run setting part = (.ok value, after))
      (done : Done value after) : Ends part Done Stopped
  | stop {stop : Stop} {after : Console} (ran : console.run setting part = (.error stop, after))
      (stopped : Stopped stop after) : Ends part Done Stopped

variable {console setting} {Done : α → Console → Prop} {Stopped : Stop → Console → Prop}

theorem ends_pure {value : α} (done : Done value console) :
    Ends console setting (pure value) Done Stopped :=
  .value (run_pure console setting value) done

theorem ends_throw {stop : Stop} (stopped : Stopped stop console) :
    Ends console setting (throw stop : InConsole α) Done Stopped :=
  .stop (run_throw console setting stop) stopped

/-- After a part that gives a value the rest goes on from where it ended. -/
theorem ends_bind_of_ok {first : InConsole β} {next : β → InConsole α} {value : β}
    {after : Console} (ran : console.run setting first = (.ok value, after))
    (later : Ends after setting (next value) Done Stopped) :
    Ends console setting (first >>= next) Done Stopped := by
  have whole := run_bind console setting first next
  rw [ran] at whole
  rcases later with ⟨ran, done⟩ | ⟨ran, stopped⟩
  · exact .value (whole.trans ran) done
  · exact .stop (whole.trans ran) stopped

theorem Ends.bind {Later : β → Console → Prop} {first : InConsole α} {next : α → InConsole β}
    (begun : Ends console setting first Done Stopped)
    (later : ∀ value after, Done value after →
      Ends after setting (next value) Later Stopped) :
    Ends console setting (first >>= next) Later Stopped := by
  rcases begun with ⟨ran, done⟩ | ⟨ran, stopped⟩
  · exact ends_bind_of_ok ran (later _ _ done)
  · refine .stop ?_ stopped
    rw [run_bind, ran]

theorem Ends.mono {Other : α → Console → Prop} {Halted : Stop → Console → Prop}
    {part : InConsole α} (ends : Ends console setting part Done Stopped)
    (weaker : ∀ value after, Done value after → Other value after)
    (halted : ∀ stop after, Stopped stop after → Halted stop after) :
    Ends console setting part Other Halted := by
  rcases ends with ⟨ran, done⟩ | ⟨ran, stopped⟩
  · exact .value ran (weaker _ _ done)
  · exact .stop ran (halted _ _ stopped)

/-- What each item keeps, all items keep. -/
theorem ends_forM {Kept : Console → Prop} {items : List β} {part : β → InConsole Unit}
    (each : ∀ item ∈ items, ∀ before, Kept before →
      Ends before setting (part item) (fun _ after => Kept after) Stopped)
    (kept : Kept console) :
    Ends console setting (items.forM part) (fun _ after => Kept after) Stopped := by
  induction items generalizing console with
  | nil => exact ends_pure kept
  | cons item rest ih =>
      rcases List.forall_mem_cons.mp each with ⟨first, others⟩
      change Ends console setting (part item >>= fun _ => rest.forM part) _ _
      exact (first console kept).bind fun _ after kept => ih others kept

theorem ends_orStop {ε : Type} {cause : ε → Stop} {result : Except ε α}
    (done : ∀ value, result = .ok value → Done value console)
    (stopped : ∀ fault, result = .error fault → Stopped (cause fault) console) :
    Ends console setting (orStop cause result) Done Stopped := by
  cases result with
  | ok value => exact ends_pure (done value rfl)
  | error fault => exact ends_throw (stopped fault rfl)

/-- What follows a result starts where the result was asked for. -/
theorem ends_orStop_bind {ε : Type} {cause : ε → Stop} {result : Except ε β}
    {next : β → InConsole α}
    (later : ∀ value, result = .ok value → Ends console setting (next value) Done Stopped)
    (stopped : ∀ fault, result = .error fault → Stopped (cause fault) console) :
    Ends console setting (orStop cause result >>= next) Done Stopped := by
  cases result with
  | ok value => exact ends_bind_of_ok (run_pure console setting value) (later value rfl)
  | error fault =>
      refine .stop ?_ (stopped fault rfl)
      rw [orStop, run_bind, run_throw]

/-- A line is printed, or the console stays as it is. -/
theorem ends_printLine {Printed : Unit → Console → Prop} {line : String}
    (done : ∀ bytes, Text.encode (Text.plainText line ++ "\n") = .ok bytes →
      Printed () { console with output := console.output ++ (Text.plainText line ++ "\n") })
    (stopped : ∀ fault, Text.encode (Text.plainText line ++ "\n") = .error fault →
      Stopped (.unencodable fault) console) :
    Ends console setting (printLine line) Printed Stopped := by
  unfold printLine
  simp only
  split
  · rename_i bytes encoded
    exact .value (run_modify ..) (done bytes encoded)
  · rename_i fault refused
    exact ends_throw (stopped fault refused)

end CompilePolicy.CommandLine.Console
