import TradingAdvisor.Mt5.RecommendationPersistence

/-!
# Cycle and trade identities

The caller owns the id of a cycle. The trade ids of the cycle, one for each family, are the cycle's
id with the family's name after it.

* `LogicalCycleId`, `validateLogicalCycleId` — the ids that are accepted;
* `deriveTradeId` — the trade id of a family in a cycle;
* **`deriveTradeId_injective`**: two trade ids differ as soon as their cycles or their families do;
* `Platform.fileKey` — which names are one file.
-/

namespace TradingAdvisor

/-- A character of a cycle id. -/
def IsIdentityChar (c : Char) : Prop := c.isAlphanum = true ∨ c = '_' ∨ c = '-'

instance (c : Char) : Decidable (IsIdentityChar c) := inferInstanceAs (Decidable (_ ∨ _))

/-- The pattern of a cycle id: `[A-Za-z0-9_-]{1,128}`. -/
def MatchesIdentityPattern (s : String) : Prop :=
  1 ≤ s.length ∧ s.length ≤ 128 ∧ ∀ c ∈ s.toList, IsIdentityChar c

instance (s : String) : Decidable (MatchesIdentityPattern s) :=
  inferInstanceAs (Decidable (_ ∧ _ ∧ _))

/-- The id of a cycle. -/
abbrev LogicalCycleId := {s : String // MatchesIdentityPattern s}

/-- What a call raises. -/
inductive ApplicationAdvisoryError
  | applicationInput
  | duplicateCycle (collidingTradeIds : List TradeId)
  | applicationState
  | internalApplication
  deriving DecidableEq

/-- Check the id that a caller gives. -/
def validateLogicalCycleId (logicalCycleId : String) :
    Except ApplicationAdvisoryError LogicalCycleId :=
  if h : MatchesIdentityPattern logicalCycleId then .ok ⟨logicalCycleId, h⟩
  else .error .applicationInput

/-- The text of a trade id. -/
def tradeIdText (logicalCycleId : LogicalCycleId) (family : StrategyFamily) : String :=
  logicalCycleId.1 ++ "__" ++ family.value

theorem toList_tradeIdText (logicalCycleId : LogicalCycleId) (family : StrategyFamily) :
    (tradeIdText logicalCycleId family).toList =
      logicalCycleId.1.toList ++ ("__".toList ++ family.value.toList) := by
  rw [tradeIdText, String.toList_append, String.toList_append, List.append_assoc]

/-- The trade id of a family in a cycle. -/
def deriveTradeId (logicalCycleId : LogicalCycleId) (family : StrategyFamily) : TradeId :=
  ⟨tradeIdText logicalCycleId family, by
    intro h
    have hlist := toList_tradeIdText logicalCycleId family
    rw [h] at hlist
    have hnil : "".toList = [] := rfl
    rw [hnil] at hlist
    exact absurd hlist.symm (by simp)⟩

/-- The trade ids of a cycle. -/
def deriveTradeIds (logicalCycleId : LogicalCycleId) : StrategyFamily → TradeId :=
  deriveTradeId logicalCycleId

/-! ## Names of files -/

/-- The part of a name that tells files apart: not every platform sees the case of letters. Only that
of ASCII letters is folded here. -/
def Platform.fileKey : Platform → List Char → List Char
  | .posix, name => name
  | .windows, name => name.map Char.toLower

/-- The key of the receipt of a cycle. -/
def receiptKey (platform : Platform) (logicalCycleId : LogicalCycleId) : List Char :=
  platform.fileKey (logicalCycleId.1 ++ ".json").toList

/-- The key of the tracking document of a trade. -/
def documentKey (platform : Platform) (tradeId : TradeId) : List Char :=
  platform.fileKey (tradeId.1 ++ ".json").toList

variable {platform : Platform} {logicalCycleId logicalCycleId' : LogicalCycleId}
  {family family' : StrategyFamily}

theorem Platform.fileKey_append (platform : Platform) (s t : List Char) :
    platform.fileKey (s ++ t) = platform.fileKey s ++ platform.fileKey t := by
  cases platform with
  | posix => rfl
  | windows => exact List.map_append

/-- The last two letters tell the families apart, in either case. -/
theorem eq_of_fileKey_value (platform : Platform)
    (h : (platform.fileKey family.value.toList).reverse.take 2 =
      (platform.fileKey family'.value.toList).reverse.take 2) : family = family' := by
  cases platform <;> cases family <;> cases family' <;> first
    | rfl
    | exact absurd h (by decide +kernel)

theorem two_le_length_fileKey_value (platform : Platform) (family : StrategyFamily) :
    2 ≤ (platform.fileKey family.value.toList).reverse.length := by
  cases platform <;> cases family <;> decide +kernel

/-- **Two trade ids name one file only if their receipts are one file.** -/
theorem receiptKey_of_documentKey
    (h : documentKey platform (deriveTradeId logicalCycleId family) =
      documentKey platform (deriveTradeId logicalCycleId' family')) :
    receiptKey platform logicalCycleId = receiptKey platform logicalCycleId' ∧
      family = family' := by
  rw [documentKey, documentKey, String.toList_append, String.toList_append,
    Platform.fileKey_append, Platform.fileKey_append] at h
  have hkeys := List.append_cancel_right h
  simp only [deriveTradeId, toList_tradeIdText, Platform.fileKey_append] at hkeys
  rw [← List.append_assoc, ← List.append_assoc] at hkeys
  have hfamily : family = family' := by
    have hlast := congrArg (fun key => key.reverse.take 2) hkeys
    simp only [List.reverse_append] at hlast
    rw [List.take_append_of_le_length (two_le_length_fileKey_value platform family),
      List.take_append_of_le_length (two_le_length_fileKey_value platform family')] at hlast
    exact eq_of_fileKey_value platform hlast
  subst hfamily
  have hid := List.append_cancel_right (List.append_cancel_right hkeys)
  refine ⟨?_, rfl⟩
  rw [receiptKey, receiptKey, String.toList_append, String.toList_append,
    Platform.fileKey_append, Platform.fileKey_append, hid]

/-- **Two trade ids differ as soon as their cycles or their families do.** -/
theorem deriveTradeId_injective (h : deriveTradeId logicalCycleId family =
    deriveTradeId logicalCycleId' family') : logicalCycleId = logicalCycleId' ∧ family = family' := by
  have hkey := congrArg (documentKey .posix) h
  obtain ⟨hreceipt, hfamily⟩ := receiptKey_of_documentKey hkey
  refine ⟨?_, hfamily⟩
  have hid : (logicalCycleId.1 ++ ".json").toList = (logicalCycleId'.1 ++ ".json").toList :=
    hreceipt
  rw [String.toList_append, String.toList_append] at hid
  exact Subtype.ext (String.toList_injective (List.append_cancel_right hid))

end TradingAdvisor
