import CompilePolicy.Proofs.Decimal.Numeral
import CompilePolicy.Proofs.Document.Repeats
import CompilePolicy.Report.Markdown
import Mathlib.Algebra.BigOperators.Group.List.Basic
import Mathlib.Data.List.Basic

/-!
# Diagnostics by owner

The report for readers has one section for each owner of diagnostics. The groups behind the
sections come about one diagnostic at a time: a diagnostic goes to the end of the group of its
owner, and a first one begins a group behind all others. So the groups are a stable partition
of the diagnostics, and the counts in the headings add up to the count in the summary.
-/

namespace CompilePolicy.Report

open CompilePolicy.Calendar CompilePolicy.Decimal

/-! ## Partitions by a key -/

/-- Repeats are left out where they are not the first: the order is that of the first items. -/
theorem pairwise_idxOf_eraseDups {α : Type} [DecidableEq α] (items : List α) :
    items.eraseDups.Pairwise fun first second => items.idxOf first < items.idxOf second := by
  induction items using List.reverseRecOn with
  | nil => exact .nil
  | append_singleton items item ih =>
      have kept : items.eraseDups.Pairwise fun first second =>
          (items ++ [item]).idxOf first < (items ++ [item]).idxOf second := by
        refine ih.imp_of_mem fun isFirst isSecond before => ?_
        rwa [List.idxOf_append_of_mem (List.mem_eraseDups.mp isFirst),
          List.idxOf_append_of_mem (List.mem_eraseDups.mp isSecond)]
      rw [eraseDups_concat]
      split
      · exact kept
      · rename_i new
        refine List.pairwise_append.mpr ⟨kept, List.pairwise_singleton _ item, ?_⟩
        intro other listed last isLast
        rw [List.mem_eraseDups] at listed
        rw [List.mem_singleton.mp isLast, List.idxOf_append_of_mem listed,
          List.idxOf_append_of_notMem new]
        exact Nat.lt_add_right _ (List.idxOf_lt_length_iff.mpr listed)

/-- The items of distinct keys together are the items, if every item has one of the keys. -/
theorem flatMap_filter_perm {α κ : Type} [DecidableEq κ] (key : α → κ) {keys : List κ}
    (distinct : keys.Nodup) {items : List α} (covered : ∀ item ∈ items, key item ∈ keys) :
    (keys.flatMap fun own => items.filter (key · = own)).Perm items := by
  induction keys generalizing items with
  | nil =>
      have none : items = [] := List.eq_nil_iff_forall_not_mem.mpr fun item listed =>
        List.not_mem_nil (covered item listed)
      rw [none]
      exact .nil
  | cons first rest ih =>
      rcases List.nodup_cons.mp distinct with ⟨apart, distinct⟩
      have others : (rest.flatMap fun own => items.filter (key · = own)) =
          rest.flatMap fun own =>
            (items.filter fun item => !decide (key item = first)).filter (key · = own) := by
        refine List.flatMap_congr fun own later => ?_
        rw [List.filter_filter]
        refine List.filter_congr fun item _ => ?_
        by_cases same : key item = own
        · have other : own ≠ first := fun equal => apart (equal ▸ later)
          simp [same, other]
        · simp [same]
      rw [List.flatMap_cons, others]
      refine ((ih distinct ?_).append_left _).trans (List.filter_append_perm _ items)
      intro item listed
      rcases List.mem_filter.mp listed with ⟨isItem, other⟩
      rcases List.mem_cons.mp (covered item isItem) with same | later
      · simp [same] at other
      · exact later

/-! ## Groups -/

/-- Groups are a stable partition of diagnostics by their owners. -/
structure IsStablePartition (groups : Groups) (diagnostics : List Diagnostic) : Prop where
  /-- The owners of diagnostics have groups. -/
  owners (owner : String) :
    owner ∈ groups.map (·.1) ↔ owner ∈ diagnostics.map (·.owner)
  /-- The groups stand in the order of their owners' first diagnostics, so no owner has two. -/
  ordered : (groups.map (·.1)).Pairwise fun first second =>
    (diagnostics.map (·.owner)).idxOf first < (diagnostics.map (·.owner)).idxOf second
  /-- A group has the diagnostics of its owner in their order. -/
  own : ∀ group ∈ groups, group.2 = diagnostics.filter (·.owner = group.1)
  /-- No diagnostic is lost, and none is there twice. -/
  whole : (groups.flatMap (·.2)).Perm diagnostics
  /-- The sizes of the groups add up. -/
  counted : (groups.map (·.2.length)).sum = diagnostics.length

theorem grouped_concat (diagnostics : List Diagnostic) (diagnostic : Diagnostic) :
    grouped (diagnostics ++ [diagnostic]) = (grouped diagnostics).add diagnostic := by
  rw [grouped, List.foldl_append]
  rfl

theorem lookup_map {α : Type} (names : List String) (given : String → α) (name : String) :
    (names.map fun other => (other, given other)).lookup name =
      if name ∈ names then some (given name) else none := by
  induction names with
  | nil => rfl
  | cons first rest ih =>
      by_cases same : name = first
      · subst same
        simp
      · simp [List.lookup_cons, beq_eq_false_iff_ne.mpr same, same, ih]

/-- A group of each owner has what the owner has. -/
def groupsOf (diagnostics : List Diagnostic) (owners : List String) : Groups :=
  owners.map fun owner => (owner, diagnostics.filter (·.owner = owner))

theorem filter_owner_concat (diagnostics : List Diagnostic) (diagnostic : Diagnostic)
    (owner : String) :
    (diagnostics ++ [diagnostic]).filter (·.owner = owner) =
      diagnostics.filter (·.owner = owner) ++
        if diagnostic.owner = owner then [diagnostic] else [] := by
  by_cases same : diagnostic.owner = owner
  · simp [same]
  · simp [same]

/-- A further diagnostic of an owner with a group goes to the end of that group. -/
theorem add_groupsOf_of_mem {diagnostics : List Diagnostic} {owners : List String}
    (distinct : owners.Nodup) {diagnostic : Diagnostic} (listed : diagnostic.owner ∈ owners) :
    (groupsOf diagnostics owners).add diagnostic =
      groupsOf (diagnostics ++ [diagnostic]) owners := by
  rw [Groups.add, groupsOf, lookup_map, if_pos listed, setField_map distinct, if_pos listed,
    groupsOf]
  refine List.map_congr_left fun owner _ => ?_
  rw [filter_owner_concat]
  by_cases same : diagnostic.owner = owner
  · subst same
    simp
  · simp [same]

/-- A further diagnostic of an owner without a group begins one. -/
theorem add_groupsOf_of_not_mem {diagnostics : List Diagnostic} {owners : List String}
    (distinct : owners.Nodup) (covered : ∀ other ∈ diagnostics, other.owner ∈ owners)
    {diagnostic : Diagnostic} (new : diagnostic.owner ∉ owners) :
    (groupsOf diagnostics owners).add diagnostic =
      groupsOf (diagnostics ++ [diagnostic]) (owners ++ [diagnostic.owner]) := by
  have none : diagnostics.filter (·.owner = diagnostic.owner) = [] := by
    refine List.filter_eq_nil_iff.mpr fun other listed => ?_
    rw [decide_eq_true_eq]
    intro same
    exact new (same ▸ covered other listed)
  rw [Groups.add, groupsOf, lookup_map, if_neg new, setField_map distinct, if_neg new, groupsOf,
    List.map_append]
  congr 1
  · refine List.map_congr_left fun owner listed => ?_
    have other : diagnostic.owner ≠ owner := fun same => new (same ▸ listed)
    rw [filter_owner_concat, if_neg other, List.append_nil]
  · rw [List.map_singleton, filter_owner_concat, none, if_pos rfl]
    rfl

/-- The groups are those of the owners, each of which stands where it comes first. -/
theorem grouped_eq (diagnostics : List Diagnostic) :
    grouped diagnostics = groupsOf diagnostics (diagnostics.map (·.owner)).eraseDups := by
  induction diagnostics using List.reverseRecOn with
  | nil => rfl
  | append_singleton diagnostics diagnostic ih =>
      have covered : ∀ other ∈ diagnostics,
          other.owner ∈ (diagnostics.map (·.owner)).eraseDups := fun other listed =>
        List.mem_eraseDups.mpr (List.mem_map_of_mem listed)
      rw [grouped_concat, ih, List.map_append, List.map_singleton, eraseDups_concat]
      split
      · rename_i listed
        exact add_groupsOf_of_mem (nodup_eraseDups _) (List.mem_eraseDups.mpr listed)
      · rename_i new
        exact add_groupsOf_of_not_mem (nodup_eraseDups _) covered
          fun listed => new (List.mem_eraseDups.mp listed)

theorem isStablePartition_grouped (diagnostics : List Diagnostic) :
    IsStablePartition (grouped diagnostics) diagnostics := by
  have covered : ∀ diagnostic ∈ diagnostics,
      diagnostic.owner ∈ (diagnostics.map (·.owner)).eraseDups := fun diagnostic listed =>
    List.mem_eraseDups.mpr (List.mem_map_of_mem listed)
  have names : (grouped diagnostics).map (·.1) = (diagnostics.map (·.owner)).eraseDups := by
    simp [grouped_eq, groupsOf, Function.comp_def]
  have whole : ((grouped diagnostics).flatMap (·.2)).Perm diagnostics := by
    rw [grouped_eq, groupsOf, List.flatMap_map]
    exact flatMap_filter_perm Diagnostic.owner (nodup_eraseDups _) covered
  constructor
  · intro owner
    rw [names, List.mem_eraseDups]
  · rw [names]
    exact pairwise_idxOf_eraseDups _
  · intro group listed
    rw [grouped_eq] at listed
    rcases List.mem_map.mp listed with ⟨owner, -, rfl⟩
    rfl
  · exact whole
  · rw [← List.length_flatMap]
    exact whole.length_eq

/-! ## The report -/

theorem summaryRow_inj {name : String} {first second : Nat} :
    summaryRow name first = summaryRow name second ↔ first = second := by
  simp [summaryRow, String.append_right_inj, String.append_left_inj, natText_inj]

/-- The third character of a line that goes on behind a text. -/
theorem third_append {front : String} {c : Char} (third : front.toList[2]? = some c)
    (rest : String) : (front ++ rest).toList[2]? = some c := by
  rw [String.toList_append, List.getElem?_append_left, third]
  exact (List.getElem?_eq_some_iff.mp third).1

theorem third_summaryRow {name : String} {c : Char} (first : ("| " ++ name).toList[2]? = some c)
    (count : Nat) : (summaryRow name count).toList[2]? = some c :=
  third_append (third_append (third_append first _) _) _

/-- The summary says how many diagnostics there are, once: no other of its lines has the third
character of that one. -/
theorem mem_summaryLines_iff {now : Moment} {outcome : Outcome} {count : Nat} :
    summaryRow "Diagnostics" count ∈ summaryLines now outcome ↔
      count = outcome.diagnostics.length := by
  have cut : summaryLines now outcome = (summaryLines now outcome).take 14 ++
      [summaryRow "Diagnostics" outcome.diagnostics.length, ""] := rfl
  have above : ∀ line ∈ (summaryLines now outcome).take 14, line.toList[2]? ≠ some 'D' := by
    have row : ∀ {name : String} {c : Char} (count : Nat), ("| " ++ name).toList[2]? = some c →
        c ≠ 'D' → (summaryRow name count).toList[2]? ≠ some 'D' := by
      intro name c count first other same
      rw [third_summaryRow first] at same
      exact other (Option.some.inj same)
    have time : ("**Generated**: " ++ now.readable).toList[2]? ≠ some 'D' := by
      rw [third_append (c := 'G') (by decide)]
      decide
    have span : ("**Execution Time**: " ++ fixedText 2 outcome.seconds ++ "s").toList[2]? ≠
        some 'D' := by
      rw [third_append (third_append (c := 'E') (by decide) _)]
      decide
    simp only [summaryLines, List.take_succ_cons, List.take_zero, List.forall_mem_cons]
    exact ⟨by decide, by decide, time, span, by decide, by decide, by decide, by decide,
      by decide, row (c := 'U') _ (by decide) (by decide), row (c := 'U') _ (by decide) (by decide),
      row (c := 'C') _ (by decide) (by decide), row (c := 'C') _ (by decide) (by decide),
      row (c := 'C') _ (by decide) (by decide), List.forall_mem_nil _⟩
  have third : (summaryRow "Diagnostics" count).toList[2]? = some 'D' :=
    third_summaryRow (by decide) count
  rw [cut, List.mem_append, List.mem_cons, List.mem_singleton, summaryRow_inj]
  constructor
  · rintro (listed | same | empty)
    · exact absurd third (above _ listed)
    · exact same
    · rw [empty] at third
      exact absurd third (by decide)
  · exact fun same => .inr (.inl same)

/-- The report of an outcome with diagnostics goes on after their heading with a section for
each group of a stable partition of them: the heading with the owner and how many diagnostics
the group has, and a line for each of them in order, which names its rule, the kind and the
name of its node, and its message. The counts in the headings add up to the one that the
summary gives for the diagnostics. -/
theorem report_partitions_diagnostics (now : Moment) {outcome : Outcome}
    (reported : outcome.diagnostics ≠ []) :
    ∃ groups, IsStablePartition groups outcome.diagnostics ∧
      lines now outcome = summaryLines now outcome ++ ruleLines outcome ++
        ("## Diagnostics" :: "" :: groups.flatMap fun group =>
          ("### \x60" ++ group.1 ++ "\x60 (" ++ natText group.2.length ++ ")") :: "" ::
            (group.2.map fun diagnostic =>
              "- **" ++ diagnostic.ruleId ++ "** " ++ diagnostic.subject.kind ++ " \x60" ++
                diagnostic.subject.name ++ "\x60: " ++ diagnostic.message) ++ [""]) ∧
      ∀ count, summaryRow "Diagnostics" count ∈ summaryLines now outcome ↔
        count = (groups.map (·.2.length)).sum := by
  have partition := isStablePartition_grouped outcome.diagnostics
  refine ⟨grouped outcome.diagnostics, partition, ?_, ?_⟩
  · rw [lines, diagnosticLines, if_neg (by simpa using reported)]
    rfl
  · intro count
    rw [mem_summaryLines_iff, partition.counted]

/-- Two owners by turns: one section has two diagnostics, and the summary counts three. -/
theorem report_partitions_diagnostics_at_interleaved_owners :
    let now : Moment := ⟨⟨2024, 5, 6⟩, 7, 8, 9, 0, none⟩
    let about (owner name : String) : Diagnostic :=
      { message := "m", subject := .node (.ofField { name }), ruleId := "DEF_FIELD", owner }
    let outcome : Outcome := { diagnostics := [about "a.A" "x", about "b.B" "y", about "a.A" "z"] }
    outcome.diagnostics ≠ [] ∧
      ["### \x60a.A\x60 (2)", "", "- **DEF_FIELD** field \x60x\x60: m",
        "- **DEF_FIELD** field \x60z\x60: m", ""] <:+: lines now outcome ∧
      summaryRow "Diagnostics" 3 ∈ summaryLines now outcome := by
  intro now about outcome
  have reported : outcome.diagnostics ≠ [] := List.cons_ne_nil _ _
  rcases report_partitions_diagnostics now reported with ⟨groups, partition, laid, counted⟩
  refine ⟨reported, ?_, (counted 3).mpr partition.counted.symm⟩
  rcases List.mem_map.mp ((partition.owners "a.A").mpr (.head _)) with ⟨group, listed, own⟩
  have items : group.2 = [about "a.A" "x", about "a.A" "z"] := by
    rw [partition.own group listed, own]
    rfl
  rw [laid]
  refine List.IsInfix.trans ?_ (List.suffix_append _ _).isInfix
  refine List.infix_cons (List.infix_cons ?_)
  rcases List.append_of_mem listed with ⟨before, after, rfl⟩
  rw [List.flatMap_append, List.flatMap_cons, own, items]
  refine List.IsInfix.trans ?_ (List.suffix_append _ _).isInfix
  exact (List.prefix_append _ _).isInfix

end CompilePolicy.Report
