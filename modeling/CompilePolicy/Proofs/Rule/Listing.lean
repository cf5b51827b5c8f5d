import CompilePolicy.Rule.Registry
import Mathlib.Data.List.Induction
import Mathlib.Data.List.Nodup
import Mathlib.Data.List.Sort

/-!
# Listings of registered rules

Rules are handed in one after another, with their scopes by name. Those with a scope
that is known are registered, and what is registered of an id is the rule that came last
under it, in the place of the first.

All listings are views of one order: by scope in walk order, then by the order that rules
ask for, then by the first registration of their ids. Sorting inserts a rule before the
first one that it precedes, so it only has to be shown that this keeps rules which agree
on scope and order as they stand.
-/

namespace CompilePolicy

/-- A rule that is handed in. Its scope is given by name, and its other settings can
depend on the scope. -/
structure Registration where
  id : String
  scopeName : String
  rule : Scope → Rule

/-- The rule that is registered, if the scope has a known name. -/
def Registration.rule? (call : Registration) : Option Rule :=
  (Scope.ofName? call.scopeName).map fun scope => { call.rule scope with id := call.id, scope }

namespace Registry

/-- The registry after a rule was handed in, registered or refused. -/
def handIn (registry : Registry) (call : Registration) : Registry :=
  match registry.register call.id call.scopeName call.rule with
  | .ok next => next
  | .error _ => registry

/-- The registry after several rules were handed in. -/
def handInAll (registry : Registry) (calls : List Registration) : Registry :=
  calls.foldl handIn registry

/-- The registry that rules make, registered in order. -/
def ofRules (made : List Rule) : Registry :=
  made.foldl insert ⟨[]⟩

/-- The rule that came last under an id. -/
def latest? (made : List Rule) (id : String) : Option Rule :=
  made.reverse.find? (·.id = id)

/-- The place at which an id came first. -/
def firstPlace (made : List Rule) (id : String) : Nat :=
  (made.map (·.id)).idxOf id

/-- One rule is listed before another. -/
def StandsBefore (made : List Rule) (first second : Rule) : Prop :=
  first.scope.position < second.scope.position ∨
    first.scope.position = second.scope.position ∧
      (first.order < second.order ∨
        first.order = second.order ∧ firstPlace made first.id < firstPlace made second.id)

/-! ## Handing in -/

theorem ofName?_eq_none_iff {name : String} :
    Scope.ofName? name = none ↔ name ∉ Scope.all.map Scope.name := by
  simp [Scope.ofName?]

/-- A rule is registered exactly if its scope is known. -/
theorem register_eq (registry : Registry) (call : Registration) :
    registry.register call.id call.scopeName call.rule =
      match call.rule? with
      | some rule => .ok (registry.insert rule)
      | none => .error ⟨call.id, call.scopeName⟩ := by
  unfold register Registration.rule?
  cases Scope.ofName? call.scopeName <;> rfl

theorem handIn_eq (registry : Registry) (call : Registration) :
    registry.handIn call = call.rule?.toList.foldl insert registry := by
  unfold handIn
  rw [register_eq]
  cases call.rule? <;> rfl

theorem register_of_known {call : Registration} (registry : Registry)
    (known : call.scopeName ∈ Scope.all.map Scope.name) :
    ∃ rule, call.rule? = some rule ∧
      registry.register call.id call.scopeName call.rule = .ok (registry.insert rule) := by
  obtain ⟨scope, found⟩ := Option.ne_none_iff_exists'.mp
    (mt ofName?_eq_none_iff.mp (not_not_intro known))
  have made : call.rule? = some { call.rule scope with id := call.id, scope } := by
    rw [Registration.rule?, found, Option.map_some]
  exact ⟨_, made, by rw [register_eq, made]⟩

/-- A rule whose scope is unknown is refused, and the registry stays. -/
theorem register_of_unknown {call : Registration} (registry : Registry)
    (unknown : call.scopeName ∉ Scope.all.map Scope.name) :
    call.rule? = none ∧
      registry.register call.id call.scopeName call.rule = .error ⟨call.id, call.scopeName⟩ ∧
      registry.handIn call = registry := by
  have refused : call.rule? = none := by
    rw [Registration.rule?, ofName?_eq_none_iff.mpr unknown, Option.map_none]
  constructor
  · exact refused
  · constructor
    · rw [register_eq, refused]
    · rw [handIn_eq, refused]
      rfl

/-- The last rule is handed in after the others. -/
theorem handInAll_concat (registry : Registry) (calls : List Registration) (call : Registration) :
    registry.handInAll (calls ++ [call]) = (registry.handInAll calls).handIn call := by
  rw [handInAll, List.foldl_append]
  rfl

/-- Only the rules count whose scopes are known. -/
theorem handInAll_eq (registry : Registry) (calls : List Registration) :
    registry.handInAll calls = (calls.filterMap Registration.rule?).foldl insert registry := by
  unfold handInAll
  induction calls generalizing registry with
  | nil => rfl
  | cons call rest ih =>
      rw [List.foldl_cons, ih, handIn_eq]
      cases found : call.rule? with
      | none => simp [found]
      | some rule => simp [found]

theorem handInAll_builtIn (calls : List Registration) :
    builtIn.handInAll calls = ofRules (builtInRules ++ calls.filterMap Registration.rule?) := by
  rw [handInAll_eq, ofRules, List.foldl_append]
  rfl

/-! ## What is registered -/

theorem ids_replace (rule : Rule) (rules : List Rule) :
    (replace rule rules).map (·.id) =
      if rule.id ∈ rules.map (·.id) then rules.map (·.id) else rules.map (·.id) ++ [rule.id] := by
  induction rules with
  | nil => rfl
  | cons old rest ih =>
      unfold replace
      by_cases same : old.id = rule.id
      · simp [same]
      · have other : rule.id ≠ old.id := Ne.symm same
        simp only [if_neg same, List.map_cons, ih, List.mem_cons, other, false_or]
        split <;> rfl

/-- A rule takes the place of the one with its id, and the others stay. -/
theorem mem_replace {rule other : Rule} {rules : List Rule}
    (distinct : (rules.map (·.id)).Nodup) :
    other ∈ replace rule rules ↔ other = rule ∨ other ∈ rules ∧ other.id ≠ rule.id := by
  induction rules with
  | nil => simp [replace]
  | cons old rest ih =>
      rw [List.map_cons, List.nodup_cons] at distinct
      unfold replace
      by_cases same : old.id = rule.id
      · have free : ∀ other ∈ rest, other.id ≠ rule.id := by
          rintro other listed taken
          apply distinct.1
          rw [same, ← taken]
          exact List.mem_map_of_mem listed
        simp only [if_pos same, List.mem_cons]
        grind
      · simp only [if_neg same, List.mem_cons, ih distinct.2]
        grind

theorem mem_of_mem_replace {rule other : Rule} {rules : List Rule}
    (listed : other ∈ replace rule rules) : other = rule ∨ other ∈ rules := by
  induction rules with
  | nil => exact .inl (List.mem_singleton.mp listed)
  | cons old rest ih =>
      unfold replace at listed
      split at listed <;> grind

/-- Handing in a rule registers no other one. -/
theorem mem_of_mem_handIn {registry : Registry} {call : Registration} {rule : Rule}
    (listed : rule ∈ (registry.handIn call).rules) :
    rule ∈ registry.rules ∨ call.rule? = some rule := by
  rw [handIn_eq] at listed
  cases made : call.rule? with
  | none =>
      rw [made] at listed
      exact .inl listed
  | some new =>
      rw [made] at listed
      rcases mem_of_mem_replace listed with rfl | old
      · exact .inr rfl
      · exact .inl old

/-- What is registered was there before or was handed in. -/
theorem mem_of_mem_handInAll {registry : Registry} {calls : List Registration} {rule : Rule}
    (listed : rule ∈ (registry.handInAll calls).rules) :
    rule ∈ registry.rules ∨ ∃ call ∈ calls, call.rule? = some rule := by
  induction calls using List.reverseRecOn with
  | nil => exact .inl listed
  | append_singleton calls call ih =>
      rw [handInAll_concat] at listed
      rcases mem_of_mem_handIn listed with old | new
      · exact (ih old).imp_right fun ⟨earlier, handed, made⟩ =>
          ⟨earlier, List.mem_append_left _ handed, made⟩
      · exact .inr ⟨call, List.mem_append_right _ (List.mem_singleton_self call), new⟩

/-- The rules of a registry, in the order in which their ids first came. -/
structure Holds (made rules : List Rule) : Prop where
  ids : ∀ id, id ∈ rules.map (·.id) ↔ id ∈ made.map (·.id)
  latest : ∀ rule ∈ rules, latest? made rule.id = some rule
  ordered : (rules.map (·.id)).Pairwise (firstPlace made · < firstPlace made ·)

namespace Holds

variable {made rules : List Rule}

theorem nodup (holds : Holds made rules) : (rules.map (·.id)).Nodup := by
  refine holds.ordered.imp ?_
  rintro id _ before rfl
  exact Nat.lt_irrefl _ before

theorem latest?_concat (made : List Rule) (rule : Rule) (id : String) :
    latest? (made ++ [rule]) id = if rule.id = id then some rule else latest? made id := by
  by_cases own : rule.id = id
  · simp [latest?, own]
  · simp [latest?, own]

theorem firstPlace_concat {id : String} (known : id ∈ made.map (·.id)) (rule : Rule) :
    firstPlace (made ++ [rule]) id = firstPlace made id := by
  simp only [firstPlace, List.map_append, List.idxOf_append, if_pos known]

/-- One more rule is registered. -/
theorem insert (holds : Holds made rules) (rule : Rule) :
    Holds (made ++ [rule]) (replace rule rules) := by
  have listed := ids_replace rule rules
  have known : ∀ {id}, id ∈ rules.map (·.id) → id ∈ made.map (·.id) := (holds.ids _).mp
  have kept : (rules.map (·.id)).Pairwise
      (firstPlace (made ++ [rule]) · < firstPlace (made ++ [rule]) ·) := by
    refine holds.ordered.imp_of_mem fun first second before => ?_
    rwa [firstPlace_concat (known first), firstPlace_concat (known second)]
  constructor
  · intro id
    rw [listed, List.map_append, List.mem_append, ← holds.ids]
    split
    · simp only [List.map_singleton, List.mem_singleton]
      grind
    · simp
  · intro other member
    rw [latest?_concat]
    rcases (mem_replace holds.nodup).mp member with rfl | ⟨old, apart⟩
    · rw [if_pos rfl]
    · rw [if_neg (Ne.symm apart), holds.latest other old]
  · rw [listed]
    split
    · exact kept
    · rename_i new
      rw [List.pairwise_append]
      refine ⟨kept, List.pairwise_singleton _ _, fun id old _ isNew => ?_⟩
      obtain rfl := List.mem_singleton.mp isNew
      have unknown : rule.id ∉ made.map (·.id) := mt (holds.ids rule.id).mpr new
      rw [firstPlace_concat (known old)]
      have inside := List.idxOf_lt_length_iff.mpr (known old)
      simpa [firstPlace, List.idxOf_append, unknown] using inside

end Holds

/-- A registry holds the rule that came last under each id. -/
theorem holds_ofRules (made : List Rule) : Holds made (ofRules made).rules := by
  induction made using List.reverseRecOn with
  | nil => exact ⟨fun _ => .rfl, by simp [ofRules], List.Pairwise.nil⟩
  | append_singleton made rule ih =>
      rw [ofRules, List.foldl_append]
      exact ih.insert rule

/-! ## The order of listings -/

theorem place_eq (rule : Rule) (rules : List Rule) :
    place rule rules = rules.orderedInsert (precedes · · = true) rule := by
  induction rules with
  | nil => rfl
  | cons next rest ih => simp [place, ih]

theorem arrange_eq (rules : List Rule) :
    arrange rules = rules.insertionSort (precedes · · = true) := by
  induction rules with
  | nil => rfl
  | cons rule rest ih => rw [arrange, List.foldr_cons, ← arrange, ih, place_eq,
      List.insertionSort_cons]

theorem perm_arrange (rules : List Rule) : (arrange rules).Perm rules := by
  rw [arrange_eq]
  exact List.perm_insertionSort _ rules

/-- Only registered rules run. -/
theorem mem_of_mem_activeRules {registry : Registry} {config : Configuration}
    {skipped : List String} {rule : Rule}
    (listed : rule ∈ (registry.activeRules config skipped).rules) : rule ∈ registry.rules :=
  (perm_arrange registry.rules).mem_iff.mp (List.mem_filter.mp listed).1

variable {made : List Rule} {first second third : Rule}

theorem StandsBefore.trans (start : StandsBefore made first second)
    (rest : StandsBefore made second third) : StandsBefore made first third := by
  unfold StandsBefore at *
  omega

theorem standsBefore_of_precedes (before : precedes first second = true)
    (earlier : firstPlace made first.id < firstPlace made second.id) :
    StandsBefore made first second := by
  simp only [precedes, Bool.or_eq_true, Bool.and_eq_true, decide_eq_true_eq] at before
  unfold StandsBefore
  omega

theorem standsBefore_of_not_precedes (behind : precedes first second = false) :
    StandsBefore made second first := by
  simp only [precedes, Bool.or_eq_false_iff, Bool.and_eq_false_iff, decide_eq_false_iff_not]
    at behind
  unfold StandsBefore
  omega

/-- A rule is put in front of the rules whose ids came later, and behind those that it
does not precede. -/
theorem pairwise_place {rule : Rule} {rules : List Rule}
    (ordered : rules.Pairwise (StandsBefore made))
    (earlier : ∀ other ∈ rules, firstPlace made rule.id < firstPlace made other.id) :
    (place rule rules).Pairwise (StandsBefore made) := by
  induction rules with
  | nil => exact List.pairwise_singleton _ rule
  | cons next rest ih =>
      have whole := ordered
      rw [List.pairwise_cons] at ordered
      rw [List.forall_mem_cons] at earlier
      unfold place
      split
      · rename_i before
        have front := standsBefore_of_precedes before earlier.1
        refine List.pairwise_cons.mpr ⟨List.forall_mem_cons.mpr ⟨front, ?_⟩, whole⟩
        exact fun other listed => front.trans (ordered.1 other listed)
      · rename_i behind
        refine List.pairwise_cons.mpr ⟨fun other listed => ?_, ih ordered.2 earlier.2⟩
        rw [place_eq, List.mem_orderedInsert] at listed
        rcases listed with rfl | listed
        · exact standsBefore_of_not_precedes (Bool.eq_false_iff.mpr behind)
        · exact ordered.1 other listed

/-- Rules in the order of their first registration are listed in order. -/
theorem pairwise_arrange {rules : List Rule}
    (ordered : (rules.map (·.id)).Pairwise (firstPlace made · < firstPlace made ·)) :
    (arrange rules).Pairwise (StandsBefore made) := by
  induction rules with
  | nil => exact List.Pairwise.nil
  | cons rule rest ih =>
      rw [List.map_cons, List.pairwise_cons, List.forall_mem_map] at ordered
      refine pairwise_place (ih ordered.2) fun other listed => ?_
      exact ordered.1 other ((perm_arrange rest).mem_iff.mp listed)

/-! ## Listings by scope -/

/-- Rules in walk order are cut into the scopes and put together again. -/
theorem flatMap_filter_scope {rules : List Rule}
    (ordered : rules.Pairwise (·.scope.position ≤ ·.scope.position)) :
    Scope.all.flatMap (fun scope => rules.filter (·.scope = scope)) = rules := by
  induction rules with
  | nil => rfl
  | cons rule rest ih =>
      rw [List.pairwise_cons] at ordered
      have ih := ih ordered.2
      have none : ∀ scope : Scope, scope.position < rule.scope.position →
          rest.filter (·.scope = scope) = [] := by
        intro scope earlier
        rw [List.filter_eq_nil_iff]
        intro other listed same
        have later := ordered.1 other listed
        rw [of_decide_eq_true same] at later
        omega
      cases own : rule.scope with
      | ofClass => simpa [Scope.all, own] using ih
      | ofField =>
          have noClass := none .ofClass (by simp [own, Scope.position])
          simpa [Scope.all, own, noClass] using ih
      | ofMethod =>
          have noClass := none .ofClass (by simp [own, Scope.position])
          have noField := none .ofField (by simp [own, Scope.position])
          simpa [Scope.all, own, noClass, noField] using ih
      | ofParameter =>
          have noClass := none .ofClass (by simp [own, Scope.position])
          have noField := none .ofField (by simp [own, Scope.position])
          have noMethod := none .ofMethod (by simp [own, Scope.position])
          simpa [Scope.all, own, noClass, noField, noMethod] using ih

theorem pairwise_scope {rules : List Rule} (ordered : rules.Pairwise (StandsBefore made)) :
    rules.Pairwise (·.scope.position ≤ ·.scope.position) := by
  refine ordered.imp fun before => ?_
  unfold StandsBefore at before
  omega

/-- Groups that are empty can be left out. -/
theorem flatMap_filter_isEmpty {α β : Type} (groups : List (α × List β)) :
    (groups.filter (!·.2.isEmpty)).flatMap (·.2) = groups.flatMap (·.2) := by
  induction groups with
  | nil => rfl
  | cons group rest ih =>
      by_cases empty : group.2 = []
      · simp [empty, ih]
      · simp [empty, ih]

/-- The listing of a registry by scope shows its ids in their order. -/
theorem summary_flatMap {registry : Registry}
    (ordered : registry.sorted.Pairwise (StandsBefore made)) :
    registry.summary.flatMap (·.2) = registry.ids := by
  rw [summary, flatMap_filter_isEmpty, List.flatMap_map, ids, ← List.map_flatMap,
    flatMap_filter_scope (pairwise_scope ordered)]

/-- The listing of a table by scope shows the ids of its rules in their order. -/
theorem listing_flatMap {table : RuleTable} (ordered : table.rules.Pairwise (StandsBefore made)) :
    table.listing.flatMap (·.2) = table.rules.map (·.id) := by
  simp only [RuleTable.listing, RuleTable.forScope, List.flatMap_map]
  rw [← List.map_flatMap, flatMap_filter_scope (pairwise_scope ordered)]

/-! ## Leaving out ids -/

theorem filter_replace (keep : String → Bool) (rule : Rule) (rules : List Rule) :
    (replace rule rules).filter (keep ·.id) =
      if keep rule.id then replace rule (rules.filter (keep ·.id))
      else rules.filter (keep ·.id) := by
  induction rules with
  | nil => by_cases kept : keep rule.id <;> simp [replace, kept]
  | cons old rest ih =>
      rw [replace]
      by_cases same : old.id = rule.id
      · by_cases kept : keep rule.id
        · simp [same, kept, replace]
        · simp [same, kept]
      · rw [if_neg same, List.filter_cons, List.filter_cons, ih]
        by_cases kept : keep old.id
        · rw [if_pos kept, if_pos kept, replace, if_neg same]
          split <;> rfl
        · rw [if_neg kept, if_neg kept]

/-- Rules under other ids do not count for what is registered under an id. -/
theorem filter_ofRules (keep : String → Bool) (made : List Rule) :
    (ofRules made).rules.filter (keep ·.id) = (ofRules (made.filter (keep ·.id))).rules := by
  induction made using List.reverseRecOn with
  | nil => rfl
  | append_singleton made rule ih =>
      have step : ∀ made, (ofRules (made ++ [rule])).rules = replace rule (ofRules made).rules := by
        intro made
        rw [ofRules, List.foldl_append]
        rfl
      rw [step, filter_replace, ih, List.filter_append, List.filter_cons, List.filter_nil]
      by_cases kept : keep rule.id
      · rw [if_pos kept, if_pos kept, step]
      · rw [if_neg kept, if_neg kept, List.append_nil]

/-- The others are listed as they stand. -/
theorem filter_sorted (keep : String → Bool) (made : List Rule) :
    (ofRules made).sorted.filter (keep ·.id) = (ofRules (made.filter (keep ·.id))).sorted := by
  have ordered := (holds_ofRules made).ordered
  have others : (((ofRules made).rules.filter (keep ·.id)).map (·.id)).Pairwise
      (firstPlace made · < firstPlace made ·) :=
    ordered.sublist (List.filter_sublist.map _)
  have perm : ((ofRules made).sorted.filter (keep ·.id)).Perm
      (arrange ((ofRules made).rules.filter (keep ·.id))) :=
    ((perm_arrange _).filter _).trans (perm_arrange _).symm
  rw [sorted, sorted, ← filter_ofRules]
  refine perm.eq_of_pairwise ?_ ((pairwise_arrange ordered).filter _) (pairwise_arrange others)
  intro first second _ _ before behind
  unfold StandsBefore at before behind
  omega

/-- Custom rules that are not handed in are missing in the listing, and nothing else. -/
theorem sorted_handInAll_filter {keep : String → Bool} (kept : ∀ id ∈ builtIn.ids, keep id = true)
    (calls : List Registration) :
    (builtIn.handInAll (calls.filter (keep ·.id))).sorted =
      (builtIn.handInAll calls).sorted.filter (keep ·.id) := by
  have own : builtInRules.filter (keep ·.id) = builtInRules := by
    have listed : ∀ rule ∈ builtInRules, rule.id ∈ builtIn.ids := by decide
    exact List.filter_eq_self.mpr fun rule member => kept rule.id (listed rule member)
  have custom : (calls.filter (keep ·.id)).filterMap Registration.rule? =
      (calls.filterMap Registration.rule?).filter (keep ·.id) := by
    induction calls with
    | nil => rfl
    | cons call rest ih =>
        have named : ∀ rule, call.rule? = some rule → rule.id = call.id := by
          intro rule made
          obtain ⟨scope, -, rfl⟩ := Option.map_eq_some_iff.mp made
          rfl
        cases made : call.rule? with
        | none => by_cases keeps : keep call.id <;> simp [made, keeps, ih]
        | some rule => by_cases keeps : keep call.id <;> simp [made, named rule made, keeps, ih]
  rw [handInAll_builtIn, handInAll_builtIn, filter_sorted, List.filter_append, own, custom]

/-- What the registry holds after rules were handed in, and what its listings show. Of
each id the rule that came last is registered, and no other. The order is by scope and
the order that the rule asks for, and rules that agree on both stand as their ids first
came. A rule whose scope is unknown is refused, and the registry stays. The lists by scope
are this one list cut into pieces, and what runs under a configuration is listed by all
four scopes and leaves out the ids that are to be left out and the rules that do not
apply. -/
theorem listings_follow_registrations (calls : List Registration) :
    let made := builtInRules ++ calls.filterMap Registration.rule?
    let registry := builtIn.handInAll calls
    registry.ids.Nodup ∧
      (∀ id, id ∈ registry.ids ↔ ∃ rule ∈ made, rule.id = id) ∧
      (∀ rule ∈ registry.sorted, latest? made rule.id = some rule) ∧
      registry.sorted.Pairwise (StandsBefore made) ∧
      (∀ call : Registration,
        (call.scopeName ∈ Scope.all.map Scope.name → ∃ rule, call.rule? = some rule ∧
          registry.register call.id call.scopeName call.rule = .ok (registry.insert rule)) ∧
        (call.scopeName ∉ Scope.all.map Scope.name → call.rule? = none ∧
          registry.register call.id call.scopeName call.rule =
            .error ⟨call.id, call.scopeName⟩ ∧
          builtIn.handInAll (calls ++ [call]) = registry)) ∧
      registry.summary.flatMap (·.2) = registry.ids ∧
      ∀ config skipped,
        let listing := (registry.activeRules config skipped).listing
        listing.map (·.1) = Scope.all ∧
          listing.flatMap (·.2) = registry.ids.filter fun id =>
            id ∉ skipped ∧ (latest? made id).any (·.applies config) := by
  intro made registry
  have holds : Holds made registry.rules := by
    have held := holds_ofRules made
    rwa [← handInAll_builtIn] at held
  have perm : registry.sorted.Perm registry.rules := perm_arrange registry.rules
  have ordered : registry.sorted.Pairwise (StandsBefore made) := pairwise_arrange holds.ordered
  have latest : ∀ rule ∈ registry.sorted, latest? made rule.id = some rule :=
    fun rule listed => holds.latest rule (perm.mem_iff.mp listed)
  refine ⟨?_, ?_, latest, ordered, ?_, ?_, ?_⟩
  · exact (perm.map _).nodup_iff.mpr holds.nodup
  · intro id
    rw [ids, (perm.map _).mem_iff, holds.ids, List.mem_map]
  · intro call
    constructor
    · exact register_of_known registry
    · intro unknown
      obtain ⟨refused, failed, stays⟩ := register_of_unknown registry unknown
      exact ⟨refused, failed, (handInAll_concat builtIn calls call).trans stays⟩
  · exact summary_flatMap ordered
  · intro config skipped listing
    constructor
    · rfl
    · have running : (registry.activeRules config skipped).rules.Pairwise (StandsBefore made) :=
        ordered.filter _
      rw [listing_flatMap running, ids, List.filter_map, activeRules]
      congr 1
      apply List.filter_congr
      intro rule listed
      simp [latest rule listed]

/-- A rule that is registered again for another scope moves there. Among the rules that
ask for the same order it still stands where its id first came. -/
example :
    (builtIn.handInAll [⟨"DEF_FIELD", "class", fun scope =>
      { id := "DEF_FIELD", scope, order := 20, check := fun _ _ _ => .ok [] }⟩]).ids =
      ["DYNAMIC_COMPILE_CLASS", "EXTENSION_LIMIT_CLASS", "DEF_FIELD", "DEF_METHOD",
        "DYNAMIC_COMPILE_METHOD", "EXTENSION_LIMIT_METHOD", "DEF_PARAMETER"] := by
  decide

end Registry

end CompilePolicy
