import CompilePolicy.Rule.BuiltIn

/-!
# Attribution

A diagnostic names a rule and a class, and whoever makes it chooses both. A rule attributes
its diagnostics if they name the rule itself and the class that it was shown. The built-in
rules do, and so does every rule that makes all its diagnostics by `Diagnostic.create`.

Even then the listed fields of a diagnostic can show something else, since values that are
attached replace fields of the same name.
-/

namespace CompilePolicy

open Document

/-! ## Rules that name themselves -/

/-- Whatever a rule gives names the rule and the class that it was shown. -/
def Rule.Attributes (rule : Rule) : Prop :=
  ∀ config node owner given, rule.check config node owner = .ok given →
    ∀ diagnostic ∈ given, diagnostic.ruleId = rule.id ∧ diagnostic.owner = owner.name

theorem Diagnostic.eq_attributed_of_create {ruleId message : String} {node : Node}
    {owner : ClassDecl} {metadata : List (String × Value)} {diagnostic : Diagnostic}
    (made : create ruleId node owner message metadata = .ok diagnostic) :
    diagnostic = attributed ruleId node owner message metadata := by
  unfold create at made
  split at made <;> cases made
  rfl

/-- A rule that makes all its diagnostics by `Diagnostic.create` attributes them. -/
theorem Rule.attributes_of_create {rule : Rule}
    (creates : ∀ config node owner given, rule.check config node owner = .ok given →
      ∀ diagnostic ∈ given, ∃ message metadata,
        Diagnostic.create rule.id node owner message metadata = .ok diagnostic) :
    rule.Attributes := by
  intro config node owner given found diagnostic listed
  obtain ⟨message, metadata, made⟩ := creates config node owner given found diagnostic listed
  rw [Diagnostic.eq_attributed_of_create made]
  exact ⟨rfl, rfl⟩

/-! ## Built-in rules -/

section

variable {config : Configuration} {node : Node} {owner : ClassDecl} {given : List Diagnostic}

theorem eq_of_mem_compileModeRule {id : String} {scope : Scope} {order : Int} {message : String}
    (found : (compileModeRule id scope order message).check config node owner = .ok given) :
    ∀ diagnostic ∈ given, diagnostic = .attributed id node owner message := by
  simp only [compileModeRule, Except.ok.injEq] at found
  subst found
  intro diagnostic listed
  split at listed
  · cases listed
  · split at listed
    · exact List.mem_singleton.mp listed
    · cases listed

theorem eq_of_mem_extensionRule {id : String} {scope : Scope} {order : Int}
    (found : (extensionRule id scope order).check config node owner = .ok given) :
    ∀ diagnostic ∈ given, ∃ rejected ≠ [], diagnostic =
      .attributed id node owner
        ("Compile Static extensions are limited to: " ++ config.extensionsText)
        [("rejected", .strings rejected)] := by
  simp only [extensionRule, Except.ok.injEq] at found
  subst found
  intro diagnostic listed
  split at listed
  · cases listed
  · rename_i some
    exact ⟨_, some, List.mem_singleton.mp listed⟩

theorem eq_of_mem_dynamicTypeRule {id : String} {scope : Scope} {message : String}
    (found : (dynamicTypeRule id scope message).check config node owner = .ok given) :
    ∀ diagnostic ∈ given, diagnostic = .attributed id node owner message := by
  simp only [dynamicTypeRule, Except.ok.injEq] at found
  subst found
  intro diagnostic listed
  split at listed
  · exact List.mem_singleton.mp listed
  · cases listed

/-- A built-in rule attributes what it gives, and attaches nothing or what it rejects. -/
theorem eq_attributed_of_builtIn {rule : Rule} (builtIn : rule ∈ builtInRules)
    (found : rule.check config node owner = .ok given) {diagnostic : Diagnostic}
    (listed : diagnostic ∈ given) :
    ∃ message metadata, diagnostic = .attributed rule.id node owner message metadata ∧
      (metadata = [] ∨ ∃ rejected ≠ [], metadata = [("rejected", .strings rejected)]) := by
  simp only [builtInRules, List.mem_cons, List.not_mem_nil, or_false] at builtIn
  rcases builtIn with rfl | rfl | rfl | rfl | rfl | rfl | rfl
  · exact ⟨_, _, eq_of_mem_compileModeRule found _ listed, .inl rfl⟩
  · exact ⟨_, _, eq_of_mem_compileModeRule found _ listed, .inl rfl⟩
  · obtain ⟨rejected, some, made⟩ := eq_of_mem_extensionRule found _ listed
    exact ⟨_, _, made, .inr ⟨rejected, some, rfl⟩⟩
  · obtain ⟨rejected, some, made⟩ := eq_of_mem_extensionRule found _ listed
    exact ⟨_, _, made, .inr ⟨rejected, some, rfl⟩⟩
  · exact ⟨_, _, eq_of_mem_dynamicTypeRule found _ listed, .inl rfl⟩
  · exact ⟨_, _, eq_of_mem_dynamicTypeRule found _ listed, .inl rfl⟩
  · exact ⟨_, _, eq_of_mem_dynamicTypeRule found _ listed, .inl rfl⟩

end

theorem attributes_of_builtIn {rule : Rule} (builtIn : rule ∈ builtInRules) :
    rule.Attributes := by
  intro config node owner given found diagnostic listed
  obtain ⟨message, metadata, rfl, -⟩ := eq_attributed_of_builtIn builtIn found listed
  exact ⟨rfl, rfl⟩

/-! ## Listed fields -/

namespace Diagnostic

variable (diagnostic : Diagnostic)

theorem lookup_foldl_setField (attached fields : List (String × Value)) (name : String) :
    (attached.foldl (fun fields one => setField fields one.1 one.2) fields).lookup name =
      (attached.reverse.lookup name).or (fields.lookup name) := by
  induction attached generalizing fields with
  | nil => simp
  | cons one rest ih =>
      obtain ⟨key, value⟩ := one
      rw [List.foldl_cons, ih, List.reverse_cons, List.lookup_append, Option.or_assoc]
      congr 1
      by_cases same : name = key
      · subst same
        simp [lookup_setField_self]
      · have other : (name == key) = false := beq_eq_false_iff_ne.mpr same
        simp [lookup_setField_of_ne _ _ same, List.lookup_cons, other]

/-- The listed fields show the unit, the class and the rule that a diagnostic names. -/
structure ShowsOrigin : Prop where
  unit : diagnostic.fields.lookup "unit" = some (.string diagnostic.unit)
  owner : diagnostic.fields.lookup "owner" = some (.string diagnostic.owner)
  rule : diagnostic.fields.lookup "rule_id" = some (.string diagnostic.ruleId)

/-- A value is attached under a name last, and it is not this text. -/
def Hides (name text : String) : Prop :=
  ∃ value, diagnostic.metadata.reverse.lookup name = some value ∧ value ≠ .string text

variable {diagnostic}

/-- A field shows its text unless another value is attached under its name. -/
theorem lookup_fields_eq_iff {name text : String} (shown :
      [("unit", Value.string diagnostic.unit), ("owner", .string diagnostic.owner),
       ("node_kind", .string diagnostic.subject.kind),
       ("node_name", .string diagnostic.subject.name),
       ("rule_id", .string diagnostic.ruleId),
       ("message", .string diagnostic.message)].lookup name = some (.string text)) :
    diagnostic.fields.lookup name = some (.string text) ↔ ¬diagnostic.Hides name text := by
  rw [fields, lookup_foldl_setField, shown, Hides]
  cases diagnostic.metadata.reverse.lookup name <;> simp

theorem showsOrigin_iff : diagnostic.ShowsOrigin ↔
    ¬diagnostic.Hides "unit" diagnostic.unit ∧ ¬diagnostic.Hides "owner" diagnostic.owner ∧
      ¬diagnostic.Hides "rule_id" diagnostic.ruleId := by
  rw [← lookup_fields_eq_iff rfl, ← lookup_fields_eq_iff rfl, ← lookup_fields_eq_iff rfl]
  exact ⟨fun ⟨unit, owner, rule⟩ => ⟨unit, owner, rule⟩,
    fun ⟨unit, owner, rule⟩ => ⟨unit, owner, rule⟩⟩

end Diagnostic

end CompilePolicy
