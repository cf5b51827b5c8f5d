import CompilePolicy.Journal.Logging
import CompilePolicy.Proofs.Text.Cutting

/-!
# Loggers of modules

The loggers of modules stand below that of the package. Where none of them has a level of
its own they all have the package's, and a log file of the package takes each of their
records once.

Main statements: `levelOf_setLevel` and `takers_of_attached`.
-/

namespace CompilePolicy.Journal

/-! ## Lineage -/

/-- The logger of the package or of a module in it, whose names are not empty. -/
inductive IsModuleLogger : String → Prop where
  | package : IsModuleLogger packageLogger
  | child {above name : String} (inside : IsModuleLogger above) (filled : name ≠ "")
      (plain : '.' ∉ name.toList) : IsModuleLogger (above ++ "." ++ name)

theorem namesAbove_packageLogger (bound : Nat) : namesAbove bound packageLogger = [] := by
  have uncut : Text.cutAtLast? '.' packageLogger.toList = none := by decide
  cases bound with
  | zero => rfl
  | succ bound => rw [namesAbove, uncut]

theorem namesAbove_child {name : String} (plain : '.' ∉ name.toList) (above : String)
    (bound : Nat) :
    namesAbove (bound + 1) (above ++ "." ++ name) = above :: namesAbove bound above := by
  have cut : Text.cutAtLast? '.' (above ++ "." ++ name).toList =
      some (above.toList, name.toList) :=
    Text.cutAtLast?_eq_some_iff.mpr ⟨by simp, plain⟩
  rw [namesAbove, cut]
  simp

namespace IsModuleLogger

variable {logger : String}

theorem length_le (isModule : IsModuleLogger logger) : packageLogger.length ≤ logger.length := by
  induction isModule with
  | package => exact Nat.le_refl _
  | child _ _ _ ih =>
      simp only [String.length_append]
      omega

/-- The names from a logger of a module upwards end in the package's. -/
theorem names_eq (isModule : IsModuleLogger logger) {bound : Nat} (enough : logger.length ≤ bound) :
    ∃ front, logger :: namesAbove bound logger = front ++ [packageLogger] ∧
      ∀ name ∈ front, IsModuleLogger name ∧ name ≠ packageLogger := by
  induction isModule generalizing bound with
  | package => exact ⟨[], by rw [namesAbove_packageLogger]; rfl, by simp⟩
  | @child above name inside filled plain ih =>
      have longer : (above ++ "." ++ name).length = above.length + 1 + name.length := by
        simp only [String.length_append]
        rfl
      cases bound with
      | zero => omega
      | succ bound =>
          have enoughAbove : above.length ≤ bound := by omega
          obtain ⟨front, line, others⟩ := ih enoughAbove
          refine ⟨(above ++ "." ++ name) :: front, ?_, List.forall_mem_cons.mpr ⟨?_, others⟩⟩
          · rw [namesAbove_child plain, line]
            rfl
          · refine ⟨.child inside filled plain, fun same => ?_⟩
            have atLeast := inside.length_le
            rw [same] at longer
            omega

theorem ne_rootLogger (isModule : IsModuleLogger logger) : logger ≠ rootLogger := by
  rintro rfl
  exact absurd isModule.length_le (by decide)

/-- The lineage of a logger of a module: loggers of modules, the package's, and the root. -/
theorem lineage_eq (isModule : IsModuleLogger logger) :
    ∃ front, lineage logger = front ++ [packageLogger, rootLogger] ∧
      ∀ name ∈ front, IsModuleLogger name ∧ name ≠ packageLogger := by
  obtain ⟨front, line, others⟩ := isModule.names_eq (Nat.le_refl _)
  refine ⟨front, ?_, others⟩
  have noRoot : ∀ name ∈ front ++ [packageLogger], name ≠ rootLogger := by
    intro name listed
    rcases List.mem_append.mp listed with inFront | last
    · exact (others name inFront).1.ne_rootLogger
    · rw [List.mem_singleton.mp last]
      exact package.ne_rootLogger
  unfold lineage
  rw [line, List.filter_eq_self.mpr (by simpa using noRoot)]
  simp

end IsModuleLogger

/-! ## Levels -/

variable {logging : Logging}

/-- A logger has the level of the nearest logger for which one is set. -/
theorem levelOf_of_lineage {logger nearest : String}
    {front back : List String} {level : Level} (line : lineage logger = front ++ nearest :: back)
    (unset : ∀ name ∈ front, logging.levels.lookup name = none)
    (set : logging.levels.lookup nearest = some level) (admits : level.rank ≠ 0) :
    logging.levelOf logger = level := by
  have none : front.findSome? (fun name =>
      (logging.levels.lookup name).filter (·.rank ≠ 0)) = none := by
    rw [List.findSome?_eq_none_iff]
    intro name listed
    rw [unset name listed]
    rfl
  unfold Logging.levelOf
  rw [line, List.findSome?_append, none]
  simp [set, admits, Option.filter]

/-- No module has a level of its own: it is the package's that counts. -/
def IsUnset (logging : Logging) : Prop :=
  ∀ logger, IsModuleLogger logger → logger ≠ packageLogger → logging.levels.lookup logger = none

/-- The levels of other loggers are not asked for one. -/
theorem lookup_filter_of_ne {logger other : String} (different : other ≠ logger)
    (levels : List (String × Level)) :
    (levels.filter (·.1 != logger)).lookup other = levels.lookup other := by
  induction levels with
  | nil => rfl
  | cons entry rest ih =>
      obtain ⟨name, level⟩ := entry
      by_cases same : name = logger
      · have passed : (other == name) = false := beq_eq_false_iff_ne.mpr (same ▸ different)
        simp [same ▸ passed, same, List.lookup_cons, ih]
      · simp [same, List.lookup_cons, ih]

theorem lookup_setLevel_of_ne {logger other : String} (different : other ≠ logger)
    (level : Level) :
    (logging.setLevel logger level).levels.lookup other = logging.levels.lookup other := by
  have passed : (other == logger) = false := beq_eq_false_iff_ne.mpr different
  unfold Logging.setLevel
  rw [List.lookup_cons, passed, lookup_filter_of_ne different]

theorem IsUnset.setLevel (unset : IsUnset logging) (level : Level) :
    IsUnset (logging.setLevel packageLogger level) := by
  intro logger isModule other
  rw [lookup_setLevel_of_ne other]
  exact unset logger isModule other

/-- All modules have the level that the package is given. -/
theorem levelOf_setLevel (unset : IsUnset logging) {level : Level} (admits : level.rank ≠ 0)
    {logger : String} (isModule : IsModuleLogger logger) :
    (logging.setLevel packageLogger level).levelOf logger = level := by
  obtain ⟨front, line, others⟩ := isModule.lineage_eq
  refine levelOf_of_lineage line (fun name listed => ?_) List.lookup_cons_self admits
  exact unset.setLevel level name (others name listed).1 (others name listed).2

/-! ## Log files -/

/-- The only log file, if it is the package's, takes a record of a module once. -/
theorem takers_of_attached {log : LogFile} (attached : logging.files = [log])
    (ofPackage : log.logger = packageLogger) {record : Record}
    (isModule : IsModuleLogger record.logger) : logging.takers record = [log] := by
  obtain ⟨front, line, others⟩ := isModule.lineage_eq
  have passed : front.flatMap (fun name => [log].filter (·.logger == name)) = [] := by
    rw [List.flatMap_eq_nil_iff]
    intro name listed
    simp [ofPackage, Ne.symm (others name listed).2]
  have notRoot : packageLogger ≠ rootLogger := IsModuleLogger.package.ne_rootLogger
  unfold Logging.takers
  rw [line, attached, List.flatMap_append, passed]
  simp [ofPackage, notRoot]

end CompilePolicy.Journal
