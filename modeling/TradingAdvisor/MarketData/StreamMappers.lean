import TradingAdvisor.Core.JsonFields
import TradingAdvisor.Flow.WindowFeatures
import TradingAdvisor.HighImpactEventBridge.FileReader
import TradingAdvisor.Lib.Checks
import TradingAdvisor.MarketData.Transport

/-!
# Mappers of the realtime payloads

A decoded payload is read field by field. What does not fit is an unusable response, which the
router drops; the product of a price and a quantity is the one step that can fail otherwise, since
a decimal has a largest exponent.

* `toDecimal`, `timestampFromMillis`, `asStr`, … — one field;
* `mapAggTrade`, `mapMarkPrice`, `mapLiquidation`, `mapDepthUpdate` — one payload;
* `EventRouter.route` — one message, by the name of its stream;
* **`route_error_iff`** — the messages that a router raises an exception on.
-/

namespace TradingAdvisor

open Checks JsonText SignificantDigits

/-! ## Failures -/

/-- What an unusable response has wrong. -/
inductive InvalidProviderResponse
  | notAnObject (context : String)
  | noUsableField (context key : String)
  | mustBeInteger (context key : String)
  | missingField (context key : String)
  | notNumeric (context : String)
  | notANumber (context : String)
  | notFinite (context : String)
  | notMillis (context : String)
  | notAnInteger (context : String)
  | outOfRange (context : String)
  | invalidSide
  | notAList (key : String)
  | notAPair (key : String) (index : ℕ)
  | violates (context model : String)
  deriving DecidableEq

/-- How a mapper fails. -/
inductive MapperFailure
  | invalidResponse (error : InvalidProviderResponse)
  /-- A product beyond the largest exponent of a decimal. -/
  | overflow
  deriving DecidableEq

/-- An unusable response. -/
def unusable {α : Type} (error : InvalidProviderResponse) : Except MapperFailure α :=
  .error (.invalidResponse error)

/-! ## Fields -/

/-- A decimal written as text. -/
inductive DecimalText
  | finite (value : ℚ)
  | nonFinite

/-- What the language reads out of a text: a decimal, or an integer. -/
structure NumberReader where
  decimal : List ℕ → Option DecimalText
  int : List ℕ → Option ℤ

/-- The code points that `strip` removes. -/
def IsStripped (n : ℕ) : Prop :=
  n ∈ [0x9, 0xa, 0xb, 0xc, 0xd, 0x1c, 0x1d, 0x1e, 0x1f, 0x20, 0x85, 0xa0, 0x1680, 0x2000, 0x2001,
    0x2002, 0x2003, 0x2004, 0x2005, 0x2006, 0x2007, 0x2008, 0x2009, 0x200a, 0x2028, 0x2029, 0x202f,
    0x205f, 0x3000]

instance (n : ℕ) : Decidable (IsStripped n) := inferInstanceAs (Decidable (_ ∈ _))

/-- A text without its surrounding whitespace. -/
def strip (s : List ℕ) : List ℕ :=
  ((s.dropWhile fun n => IsStripped n).reverse.dropWhile fun n => IsStripped n).reverse

section Fields

variable (reader : NumberReader) (body : List (List ℕ × Json)) (key context : String)

/-- Assert that a payload is an object. -/
def asMapping (payload : Json) (context : String) : Except MapperFailure (List (List ℕ × Json)) :=
  match payload with
  | .obj members => .ok members
  | _ => unusable (.notAnObject context)

/-- A text field that is not blank. -/
def asStr : Except MapperFailure (List ℕ) :=
  match field key body with
  | some (.str s) => if strip s = [] then unusable (.noUsableField context key) else .ok (strip s)
  | _ => unusable (.noUsableField context key)

/-- A required field. -/
def requiredField : Except MapperFailure Json :=
  match field key body with
  | some value => .ok value
  | none => unusable (.missingField context key)

/-- The exact decimal of a numeric text. -/
def toDecimal (value : Json) (context : String) : Except MapperFailure ℚ :=
  match value with
  | .int n => .ok n
  | .str s =>
      match reader.decimal s with
      | some (.finite q) => .ok q
      | some .nonFinite => unusable (.notFinite context)
      | none => unusable (.notANumber context)
  | _ => unusable (.notNumeric context)

/-- A required decimal field. -/
def asDecimal : Except MapperFailure ℚ := do
  let value ← requiredField body key context
  toDecimal reader value (context ++ " field " ++ key)

/-- A required integer field. -/
def asInt : Except MapperFailure ℤ :=
  match field key body with
  | some (.int n) => .ok n
  | _ => unusable (.mustBeInteger context key)

/-- An integer field that may be missing or anything else. -/
def asOptionalInt : Option ℤ :=
  match field key body with
  | some (.int n) => some n
  | _ => none

/-- The microseconds of some seconds as a double; the whole part is exact. -/
def microsecondsOf (seconds : ℚ) : ℤ :=
  let whole : ℤ := if 0 ≤ seconds then ⌊seconds⌋ else ⌈seconds⌉
  whole * 1000000 + roundHalfEven (Binary64.nearest ((seconds - whole) * 1000000))

/-- A Unix timestamp in milliseconds. -/
def timestampFromMillis (value : Json) (context : String) : Except MapperFailure Timestamp :=
  let convert (millis : ℤ) : Except MapperFailure Timestamp :=
    let instant := microsecondsOf (Binary64.nearest (millis / 1000))
    if minTimestamp ≤ instant ∧ instant ≤ maxTimestamp then .ok instant
    else unusable (.outOfRange context)
  match value with
  | .int n => convert n
  | .str s =>
      match reader.int s with
      | some n => convert n
      | none => unusable (.notAnInteger context)
  | _ => unusable (.notMillis context)

/-- Like `timestampFromMillis`; nothing, or an integer that is not positive, is unset. -/
def optionalTimestampFromMillis (value : Option Json) (context : String) :
    Except MapperFailure (Option Timestamp) :=
  match value with
  | none => .ok none
  | some .null => .ok none
  | some (.int n) =>
      if n ≤ 0 then .ok none else (timestampFromMillis reader (.int n) context).map some
  | some value => (timestampFromMillis reader value context).map some

end Fields

/-! ## Validation -/

/-- A symbol of 1 to 32 characters. -/
def symbolOf (s : List ℕ) : Option Symbol := (toChars s).bind fun cs => toSymbol (String.ofList cs)

/-- A number that is not negative. -/
def nonnegative (q : ℚ) : Option ℚ≥0 := if h : 0 ≤ q then some ⟨q, h⟩ else none

/-- An integer that is not negative. -/
def natural (n : ℤ) : Option ℕ := if 0 ≤ n then some n.toNat else none

/-- A field that may be missing is validated when it is there. -/
def optionally {α β : Type} (validate : α → Option β) : Option α → Option (Option β)
  | none => some none
  | some a => (validate a).map some

/-- Instantiate a model, reporting its rejection as an unusable response. -/
def build {α : Type} (model context : String) (value : Option α) : Except MapperFailure α :=
  match value with
  | some a => .ok a
  | none => unusable (.violates context model)

/-! ## Events -/

/-- One aggregated-trade print. -/
structure AggTrade extends FlowTrade where
  tradeId : ℕ
  firstTradeId : Option ℕ
  lastTradeId : Option ℕ

/-- One funding rate with the interval last disclosed. -/
structure MarkPriceUpdate extends FundingRate where
  fundingIntervalHours : Option ℕ+

/-- One forced order with its price. -/
structure ForceOrder extends LiquidationEvent where
  price : Price

/-- One depth update with the time of its transaction. -/
structure DepthUpdate extends OrderBookDeltaEvent where
  transactionTime : Option Timestamp

/-- The source of the trades. -/
def aggTradeSource : NonemptyText := ⟨"binance_futures:agg_trade", by decide⟩

/-- The source of the funding rates. -/
def markPriceSource : NonemptyText := ⟨"binance_futures:mark_price", by decide⟩

/-- The source of the liquidations. -/
def liquidationSource : NonemptyText := ⟨"binance_futures:liquidation", by decide⟩

section Mappers

variable (R : Rounding) (reader : NumberReader)

/-- The least absolute value that a decimal cannot hold. -/
def decimalLimit : ℚ := 10 ^ 1000000

/-- A product of decimals. -/
def multiply (a b : ℚ) : Except MapperFailure ℚ :=
  if decimalLimit ≤ |R.rnd (a * b)| then .error .overflow else .ok (R.rnd (a * b))

/-- Whether the buyer was the maker; then the trade was taker-initiated on the sell side. -/
def takerSide (body : List (List ℕ × Json)) : Except MapperFailure OrderSide :=
  match field "m" body with
  | some (.bool isBuyerMaker) => .ok (if isBuyerMaker then .sell else .buy)
  | _ => unusable (.noUsableField "agg trade" "m")

/-- Map an `aggTrade` event. -/
def mapAggTrade (payload : Json) : Except MapperFailure AggTrade := do
  let body ← asMapping payload "agg trade"
  let price ← asDecimal reader body "p" "agg trade"
  let quantity ← asDecimal reader body "q" "agg trade"
  let side ← takerSide body
  let symbol ← asStr body "s" "agg trade"
  let tradeId ← asInt body "a" "agg trade"
  let quoteQuantity ← multiply R price quantity
  let time ← requiredField body "T" "agg trade"
  let timestamp ← timestampFromMillis reader time "agg trade trade time"
  build "TradeEvent" "agg trade" do
    let symbol ← symbolOf symbol
    let tradeId ← natural tradeId
    let price ← nonnegative price
    let quantity ← nonnegative quantity
    let quoteQuantity ← nonnegative quoteQuantity
    let firstTradeId ← optionally natural (asOptionalInt body "f")
    let lastTradeId ← optionally natural (asOptionalInt body "l")
    return { quantity, quoteQuantity := some quoteQuantity, side, timestamp, symbol, price,
             contractType := .perpetual, source := aggTradeSource, tradeId, firstTradeId,
             lastTradeId }

/-- Map a `markPriceUpdate` event; the interval is the one last disclosed. -/
def mapMarkPrice (fundingIntervalHours : Option ℕ+) (payload : Json) :
    Except MapperFailure MarkPriceUpdate := do
  let body ← asMapping payload "mark price"
  let symbol ← asStr body "s" "mark price"
  let fundingRate ← asDecimal reader body "r" "mark price"
  let markPrice ← asDecimal reader body "p" "mark price"
  let indexPrice ← asDecimal reader body "i" "mark price"
  let nextFundingTime ← optionalTimestampFromMillis reader (field "T" body)
    "mark price next funding time"
  let time ← requiredField body "E" "mark price"
  let timestamp ← timestampFromMillis reader time "mark price event time"
  build "FundingRate" "mark price" do
    let symbol ← symbolOf symbol
    let markPrice ← nonnegative markPrice
    let indexPrice ← nonnegative indexPrice
    return { symbol, contractType := .perpetual, fundingRate, markPrice, indexPrice,
             nextFundingTime, source := markPriceSource, timestamp, fundingIntervalHours }

/-- The side of a forced order. -/
def orderSide (order : List (List ℕ × Json)) : Except MapperFailure OrderSide :=
  match field "S" order with
  | some (.str s) =>
      if s = codePoints "BUY".toList then .ok .buy
      else if s = codePoints "SELL".toList then .ok .sell
      else unusable .invalidSide
  | _ => unusable .invalidSide

/-- Map a `forceOrder` event; the price is the average fill price, or the limit price. -/
def mapLiquidation (payload : Json) : Except MapperFailure ForceOrder := do
  let body ← asMapping payload "liquidation"
  let order ← asMapping ((field "o" body).getD .null) "liquidation order"
  let side ← orderSide order
  let averagePrice ← asDecimal reader order "ap" "liquidation order"
  let price ←
    if averagePrice ≠ 0 then pure averagePrice
    else asDecimal reader order "p" "liquidation order"
  let symbol ← asStr order "s" "liquidation order"
  let quantity ← asDecimal reader order "q" "liquidation order"
  let time ← requiredField order "T" "liquidation order"
  let timestamp ← timestampFromMillis reader time "liquidation order trade time"
  build "LiquidationEvent" "liquidation" do
    let symbol ← symbolOf symbol
    let price ← nonnegative price
    let quantity ← nonnegative quantity
    return { symbol, contractType := .perpetual, side, quantity, timestamp,
             source := liquidationSource, price }

/-- One row of a depth update. -/
def mapLevel (key : String) (row : Json × ℕ) : Except MapperFailure OrderBookLevel := do
  let context := "depth update " ++ key ++ " row " ++ toString row.2
  match row.1 with
  | .arr (price :: quantity :: _) =>
      let price ← toDecimal reader price (context ++ " price")
      let quantity ← toDecimal reader quantity (context ++ " quantity")
      build "OrderBookLevel" context do
        let price ← nonnegative price
        let quantity ← nonnegative quantity
        return { price, quantity }
  | _ => unusable (.notAPair key row.2)

/-- The levels of one side of a depth update. -/
def mapLevels (raw : Option Json) (key : String) : Except MapperFailure (List OrderBookLevel) :=
  match raw with
  | some (.arr rows) => rows.zipIdx.mapM (mapLevel reader key)
  | _ => unusable (.notAList key)

/-- Map a `depthUpdate` event. -/
def mapDepthUpdate (payload : Json) : Except MapperFailure DepthUpdate := do
  let body ← asMapping payload "depth update"
  let symbol ← asStr body "s" "depth update"
  let firstUpdateId ← asInt body "U" "depth update"
  let finalUpdateId ← asInt body "u" "depth update"
  let previousFinalUpdateId ← asInt body "pu" "depth update"
  let bidUpdates ← mapLevels reader (field "b" body) "b"
  let askUpdates ← mapLevels reader (field "a" body) "a"
  let time ← requiredField body "E" "depth update"
  let eventTime ← timestampFromMillis reader time "depth update event time"
  let transactionTime ← optionalTimestampFromMillis reader (field "T" body)
    "depth update transaction time"
  build "OrderBookDeltaEvent" "depth update" do
    let symbol ← symbolOf symbol
    let firstUpdateId ← natural firstUpdateId
    let finalUpdateId ← natural finalUpdateId
    let previousFinalUpdateId ← natural previousFinalUpdateId
    if h : firstUpdateId ≤ finalUpdateId then
      return { symbol, firstUpdateId, finalUpdateId, bidUpdates, askUpdates, eventTime,
               previousFinalUpdateId := some previousFinalUpdateId, ordered := h, transactionTime }
    else none

end Mappers

/-! ## The router -/

/-- What a router raises: an exception of a mapper that is not an unusable response, or one of the
selection, when the name of the stream is not a text. -/
inductive RouteException
  | decimalOverflow
  | streamName
  deriving DecidableEq

/-- Mappers by the name of a stream, and by conditions on it in the order of registration. -/
structure EventRouter (α : Type) where
  exact : List (List ℕ × (Json → Except MapperFailure α)) := []
  predicated : List ((List ℕ → Bool) × (Json → Except MapperFailure α)) := []

namespace EventRouter

variable {α : Type} (router : EventRouter α)

/-- Register a mapper for every stream name that meets a condition. -/
def registerPattern (predicate : List ℕ → Bool) (mapper : Json → Except MapperFailure α) :
    EventRouter α := { router with predicated := router.predicated ++ [(predicate, mapper)] }

/-- The mapper of a stream: exact names come first. -/
def select (name : List ℕ) : Option (Json → Except MapperFailure α) :=
  match (Keyed.lastOf Prod.fst router.exact name).map Prod.snd with
  | some mapper => some mapper
  | none => (router.predicated.find? fun entry => entry.1 name).map Prod.snd

/-- Map a message; without a mapper, or when its payload is unusable, it is dropped. -/
def route (message : RawStreamMessage) : Except RouteException (Option α) :=
  match message.stream with
  | .str name =>
      match router.select name with
      | none => .ok none
      | some mapper =>
          match mapper message.payload with
          | .ok event => .ok (some event)
          | .error (.invalidResponse _) => .ok none
          | .error .overflow => .error .decimalOverflow
  | _ => .error .streamName

end EventRouter

/-! ## Exceptions -/

section Exceptions

variable {α β : Type}

/-- A reading that at worst finds the response unusable. -/
def Guarded (x : Except MapperFailure α) : Prop := x ≠ .error .overflow

theorem guarded_ok (a : α) : Guarded (.ok a) := fun h => by cases h

theorem guarded_unusable (error : InvalidProviderResponse) : Guarded (unusable (α := α) error) :=
  fun h => by cases h

theorem overflow_bind_iff {x : Except MapperFailure α} (h : Guarded x)
    {f : α → Except MapperFailure β} :
    (x >>= f) = .error .overflow ↔ ∃ a, x = .ok a ∧ f a = .error .overflow := by
  cases x with
  | ok a =>
      exact ⟨fun hf => ⟨a, rfl, hf⟩, fun ⟨b, hb, hf⟩ => by cases hb; exact hf⟩
  | error e =>
      refine ⟨fun hf => ?_, fun ⟨b, hb, _⟩ => by cases hb⟩
      cases e with
      | overflow => exact absurd rfl h
      | invalidResponse error => cases hf

theorem Guarded.bind {x : Except MapperFailure α} (h : Guarded x) {f : α → Except MapperFailure β}
    (hf : ∀ a, Guarded (f a)) : Guarded (x >>= f) := by
  intro hx
  obtain ⟨a, -, ha⟩ := (overflow_bind_iff h).mp hx
  exact hf a ha

theorem Guarded.map {x : Except MapperFailure α} (h : Guarded x) (f : α → β) :
    Guarded (x.map f) := by
  cases x with
  | ok a => exact guarded_ok (f a)
  | error e =>
      intro hx
      cases hx
      exact h rfl

theorem guarded_mapM {f : α → Except MapperFailure β} (hf : ∀ a, Guarded (f a)) (l : List α) :
    Guarded (l.mapM f) := by
  induction l with
  | nil => exact guarded_ok []
  | cons a l ih =>
      rw [List.mapM_cons]
      exact (hf a).bind fun b => ih.bind fun bs => guarded_ok (b :: bs)

variable (R : Rounding) (reader : NumberReader) (body : List (List ℕ × Json)) (key context : String)

theorem guarded_asMapping (payload : Json) : Guarded (asMapping payload context) := by
  cases payload <;> first | exact guarded_ok _ | exact guarded_unusable _

theorem guarded_asStr : Guarded (asStr body key context) := by
  unfold asStr
  split
  · split_ifs
    · exact guarded_unusable _
    · exact guarded_ok _
  · exact guarded_unusable _

theorem guarded_requiredField : Guarded (requiredField body key context) := by
  unfold requiredField
  split
  · exact guarded_ok _
  · exact guarded_unusable _

theorem guarded_toDecimal (value : Json) : Guarded (toDecimal reader value context) := by
  unfold toDecimal
  split
  · exact guarded_ok _
  · split
    · exact guarded_ok _
    · exact guarded_unusable _
    · exact guarded_unusable _
  · exact guarded_unusable _

theorem guarded_asDecimal : Guarded (asDecimal reader body key context) :=
  (guarded_requiredField body key context).bind fun value => guarded_toDecimal reader _ value

theorem guarded_asInt : Guarded (asInt body key context) := by
  unfold asInt
  split
  · exact guarded_ok _
  · exact guarded_unusable _

theorem guarded_timestamp (value : Json) : Guarded (timestampFromMillis reader value context) := by
  have hconvert (instant : Timestamp) :
      Guarded (if minTimestamp ≤ instant ∧ instant ≤ maxTimestamp then Except.ok instant
        else unusable (.outOfRange context)) := by
    split_ifs
    · exact guarded_ok _
    · exact guarded_unusable _
  unfold timestampFromMillis
  dsimp only
  split
  · exact hconvert _
  · split
    · exact hconvert _
    · exact guarded_unusable _
  · exact guarded_unusable _

theorem guarded_optionalTimestamp (value : Option Json) :
    Guarded (optionalTimestampFromMillis reader value context) := by
  unfold optionalTimestampFromMillis
  split
  · exact guarded_ok _
  · exact guarded_ok _
  · split_ifs
    · exact guarded_ok _
    · exact (guarded_timestamp reader context _).map _
  · exact (guarded_timestamp reader context _).map _

theorem guarded_build (model : String) (value : Option α) :
    Guarded (build model context value) := by
  cases value with
  | some a => exact guarded_ok a
  | none => exact guarded_unusable _

theorem guarded_takerSide : Guarded (takerSide body) := by
  unfold takerSide
  split
  · exact guarded_ok _
  · exact guarded_unusable _

theorem guarded_orderSide : Guarded (orderSide body) := by
  unfold orderSide
  split
  · split_ifs
    · exact guarded_ok _
    · exact guarded_ok _
    · exact guarded_unusable _
  · exact guarded_unusable _

theorem guarded_mapMarkPrice (fundingIntervalHours : Option ℕ+) (payload : Json) :
    Guarded (mapMarkPrice reader fundingIntervalHours payload) :=
  (guarded_asMapping _ _).bind fun _ => (guarded_asStr _ _ _).bind fun _ =>
    (guarded_asDecimal _ _ _ _).bind fun _ => (guarded_asDecimal _ _ _ _).bind fun _ =>
    (guarded_asDecimal _ _ _ _).bind fun _ => (guarded_optionalTimestamp _ _ _).bind fun _ =>
    (guarded_requiredField _ _ _).bind fun _ => (guarded_timestamp _ _ _).bind fun _ =>
    guarded_build _ _ _

theorem guarded_mapLiquidation (payload : Json) : Guarded (mapLiquidation reader payload) := by
  refine (guarded_asMapping _ _).bind fun _ => (guarded_asMapping _ _).bind fun order =>
    (guarded_orderSide _).bind fun _ => (guarded_asDecimal _ _ _ _).bind fun averagePrice => ?_
  have hrest (price : ℚ) : Guarded (do
      let symbol ← asStr order "s" "liquidation order"
      let quantity ← asDecimal reader order "q" "liquidation order"
      let time ← requiredField order "T" "liquidation order"
      let timestamp ← timestampFromMillis reader time "liquidation order trade time"
      build "LiquidationEvent" "liquidation" do
        let symbol ← symbolOf symbol
        let price ← nonnegative price
        let quantity ← nonnegative quantity
        return { symbol, contractType := .perpetual, side := ‹OrderSide›, quantity, timestamp,
                 source := liquidationSource, price : ForceOrder }) :=
    (guarded_asStr _ _ _).bind fun _ => (guarded_asDecimal _ _ _ _).bind fun _ =>
      (guarded_requiredField _ _ _).bind fun _ => (guarded_timestamp _ _ _).bind fun _ =>
      guarded_build _ _ _
  split_ifs
  · exact (guarded_ok averagePrice).bind hrest
  · exact (guarded_asDecimal _ _ _ _).bind hrest

theorem guarded_mapLevels (raw : Option Json) : Guarded (mapLevels reader raw key) := by
  unfold mapLevels
  split
  · refine guarded_mapM (fun row => ?_) _
    unfold mapLevel
    dsimp only
    split
    · exact (guarded_toDecimal _ _ _).bind fun _ => (guarded_toDecimal _ _ _).bind fun _ =>
        guarded_build _ _ _
    · exact guarded_unusable _
  · exact guarded_unusable _

theorem guarded_mapDepthUpdate (payload : Json) : Guarded (mapDepthUpdate reader payload) :=
  (guarded_asMapping _ _).bind fun _ => (guarded_asStr _ _ _).bind fun _ =>
    (guarded_asInt _ _ _).bind fun _ => (guarded_asInt _ _ _).bind fun _ =>
    (guarded_asInt _ _ _).bind fun _ => (guarded_mapLevels _ _ _).bind fun _ =>
    (guarded_mapLevels _ _ _).bind fun _ => (guarded_requiredField _ _ _).bind fun _ =>
    (guarded_timestamp _ _ _).bind fun _ => (guarded_optionalTimestamp _ _ _).bind fun _ =>
    guarded_build _ _ _

/-- A trade whose fields up to the product are usable, and whose quote quantity no decimal holds. -/
def QuoteOverflows (payload : Json) : Prop :=
  ∃ body price quantity side symbol tradeId, payload = .obj body ∧
    asDecimal reader body "p" "agg trade" = .ok price ∧
    asDecimal reader body "q" "agg trade" = .ok quantity ∧ takerSide body = .ok side ∧
    asStr body "s" "agg trade" = .ok symbol ∧ asInt body "a" "agg trade" = .ok tradeId ∧
    decimalLimit ≤ |R.rnd (price * quantity)|

/-- **The one thing that can go wrong in a mapper is the quote quantity of a trade.** -/
theorem mapAggTrade_overflow_iff {payload : Json} :
    mapAggTrade R reader payload = .error .overflow ↔ QuoteOverflows R reader payload := by
  have hmapping {body : List (List ℕ × Json)} :
      asMapping payload "agg trade" = .ok body ↔ payload = .obj body := by
    cases payload <;> simp [asMapping, unusable]
  have hmultiply {price quantity : ℚ} {f : ℚ → Except MapperFailure AggTrade}
      (hf : ∀ q, Guarded (f q)) : (multiply R price quantity >>= f) = .error .overflow ↔
        decimalLimit ≤ |R.rnd (price * quantity)| := by
    unfold multiply
    split_ifs with hlimit
    · exact iff_of_true rfl hlimit
    · exact iff_of_false (fun h => hf _ h) hlimit
  have hrest (body : List (List ℕ × Json)) (f : Timestamp → Option AggTrade) : Guarded (do
      let time ← requiredField body "T" "agg trade"
      let timestamp ← timestampFromMillis reader time "agg trade trade time"
      build "TradeEvent" "agg trade" (f timestamp)) :=
    (guarded_requiredField _ _ _).bind fun _ => (guarded_timestamp _ _ _).bind fun _ =>
      guarded_build _ _ _
  unfold mapAggTrade QuoteOverflows
  simp only [overflow_bind_iff (guarded_asMapping _ _),
    overflow_bind_iff (guarded_asDecimal _ _ _ _), overflow_bind_iff (guarded_takerSide _),
    overflow_bind_iff (guarded_asStr _ _ _),
    overflow_bind_iff (guarded_asInt _ _ _), hmultiply fun _ => hrest _ _, hmapping]
  constructor
  · rintro ⟨body, rfl, price, hprice, quantity, hquantity, side, hside, symbol, hsymbol, tradeId,
      htradeId, hlimit⟩
    exact ⟨body, price, quantity, side, symbol, tradeId, rfl, hprice, hquantity, hside, hsymbol,
      htradeId, hlimit⟩
  · rintro ⟨body, price, quantity, side, symbol, tradeId, rfl, hprice, hquantity, hside, hsymbol,
      htradeId, hlimit⟩
    exact ⟨body, rfl, price, hprice, quantity, hquantity, side, hside, symbol, hsymbol, tradeId,
      htradeId, hlimit⟩

/-- A router raises an exception on a stream that is not a text, and on a mapper's overflow. -/
theorem EventRouter.route_error_iff {router : EventRouter α} {message : RawStreamMessage}
    {e : RouteException} : router.route message = .error e ↔
      (e = .streamName ∧ ∀ name, message.stream ≠ .str name) ∨
      (e = .decimalOverflow ∧ ∃ name mapper, message.stream = .str name ∧
        router.select name = some mapper ∧ mapper message.payload = .error .overflow) := by
  unfold EventRouter.route
  cases hstream : message.stream with
  | str name =>
      dsimp only
      cases hselect : router.select name with
      | none => simp [hselect]
      | some mapper =>
          dsimp only
          cases hmap : mapper message.payload with
          | ok event => simp [hselect, hmap]
          | error failure =>
              cases failure with
              | invalidResponse error => simp [hselect, hmap]
              | overflow => simp [hselect, hmap, eq_comm]
  | null | bool | int | float | nonFinite | arr | obj => simp [eq_comm]

theorem EventRouter.route_some_iff {router : EventRouter α} {message : RawStreamMessage}
    {event : α} : router.route message = .ok (some event) ↔
      ∃ name mapper, message.stream = .str name ∧ router.select name = some mapper ∧
        mapper message.payload = .ok event := by
  unfold EventRouter.route
  cases hstream : message.stream with
  | str name =>
      dsimp only
      cases hselect : router.select name with
      | none => simp [hselect]
      | some mapper =>
          dsimp only
          cases hmap : mapper message.payload with
          | ok event' => simp [hselect, hmap]
          | error failure =>
              cases failure with
              | invalidResponse error => simp [hselect, hmap]
              | overflow => simp [hselect, hmap]
  | null | bool | int | float | nonFinite | arr | obj => simp

end Exceptions

end TradingAdvisor
