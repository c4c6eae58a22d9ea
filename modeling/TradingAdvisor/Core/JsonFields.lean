import TradingAdvisor.Lib.Json
import TradingAdvisor.Lib.Keyed

/-!
# Members and texts of JSON values

* `toChars` — the characters of a JSON string;
* `field` — the member of an object.
-/

namespace TradingAdvisor

open JsonText Keyed

/-- The characters of some code points; a lone surrogate is none. -/
def toChars (s : List ℕ) : Option (List Char) :=
  s.mapM fun n => if h : n.isValidChar then some (Char.ofNatAux n h) else none

/-- A member of an object; of members with one key the last counts. -/
def field (key : String) (members : List (List ℕ × Json)) : Option Json :=
  (lastOf Prod.fst members (codePoints key.toList)).map Prod.snd

end TradingAdvisor
