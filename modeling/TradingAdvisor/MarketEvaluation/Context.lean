import TradingAdvisor.Core.Base

/-!
# Evaluation identity

The identity of one evaluation and the scopes the caller declares for it. Nothing is derived from
the symbol.
-/

namespace TradingAdvisor

/-- Asset code of 1 to 32 characters. -/
abbrev Asset := {s : String // 1 ≤ s.length ∧ s.length ≤ 32}

/-- A currency code of three capital letters. -/
abbrev CurrencyCode := {s : String // s.length = 3 ∧ ∀ ch ∈ s.toList, 'A' ≤ ch ∧ ch ≤ 'Z'}

/-- Explicit, caller-declared identity and scopes of one evaluation. -/
structure MarketEvaluationContext where
  symbol : Symbol
  contractType : ContractType
  baseAsset : Option Asset := none
  network : Option String := none
  currencyExposures : List CurrencyCode := []
  onChainPair : baseAsset.isNone = network.isNone

theorem onChainPair_none : (none : Option Asset).isNone = (none : Option String).isNone := rfl

/-- The currency of the samples. -/
def usdCode : CurrencyCode := ⟨"USD", by decide⟩

end TradingAdvisor
