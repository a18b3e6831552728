import CommitPolicy.Explanation.Basic
import CommitPolicy.Scope.Policy

namespace CommitPolicy

namespace ScopeReason

theorem mem_variants_flexible (r : ScopeReason) : .flexible ∈ r.variants := by
  cases r <;> decide

theorem mem_variants_of_rule {v : Variant} {h : Header} {r : ScopeReason}
    (hr : ScopePolicy.rule v h = .fail r) : v ∈ r.variants := by
  cases v with
  | flexible => exact r.mem_variants_flexible
  | strict =>
    rw [ScopePolicy.rule, ScopePolicy.strict] at hr
    split at hr
    · cases hr
    · split at hr <;> cases hr <;> decide

theorem rule_before (r : ScopeReason) :
    ∀ v ∈ r.variants, ScopePolicy.rule v (.ofLine v.grammar r.explanation.before) = .fail r := by
  cases r <;> decide +kernel

/-- The variants listed for a reason are those that give it for some header line. -/
theorem mem_variants_iff {v : Variant} {r : ScopeReason} :
    v ∈ r.variants ↔ ∃ line, ScopePolicy.rule v (.ofLine v.grammar line) = .fail r :=
  ⟨fun h => ⟨_, r.rule_before v h⟩, fun ⟨_, h⟩ => mem_variants_of_rule h⟩

end ScopeReason

end CommitPolicy
