import StrategyHost.Json.Decoder
import StrategyHost.Decimal.Basic
import StrategyHost.Instant

/-! # Market data and signals

The values that a strategy receives and produces. Foreign strategies exchange them with the host as JSON. -/

namespace StrategyHost
open Json (Decoder Fields)

namespace Decimal

/-- A number or a text; a double is read by its digits written in full. -/
def ofNumberOrText? : Json → Option Decimal
  | .int n => ofParts? (n < 0) n.natAbs 0
  | .float x => parseChars? (Double.plain x)
  | .str s => read? s
  | _ => none

def decoder : Decoder Decimal
  | .num (some v) => read (ofNumberOrText? v)
  | .str (some s) => read (ofNumberOrText? (.str s))
  | d => Json.unexpected d
where
  /-- A text that is no decimal is a problem of type. -/
  read : Option Decimal → Except Json.Fault Decimal
    | some d => .ok d
    | none => Json.mismatch

def toJson (d : Decimal) : Json := .str d.toString

end Decimal

structure Candle where
  timestamp : Instant
  opening : Decimal
  high : Decimal
  low : Decimal
  close : Decimal
  volume : Decimal
deriving DecidableEq, Repr, Inhabited

namespace Candle

def flat (timestamp : Instant) (price volume : Decimal) : Candle :=
  ⟨timestamp, price, price, price, price, volume⟩

def toJson (c : Candle) : Json :=
  .obj [("timestamp", c.timestamp.toJson), ("open", c.opening.toJson), ("high", c.high.toJson),
    ("low", c.low.toJson), ("close", c.close.toJson), ("volume", c.volume.toJson)]

def decoder : Decoder Candle := .record <|
  Candle.mk <$> .required "timestamp" Instant.decoder <*> .required "open" Decimal.decoder
    <*> .required "high" Decimal.decoder <*> .required "low" Decimal.decoder
    <*> .required "close" Decimal.decoder <*> .required "volume" Decimal.decoder

end Candle

/-- The history of one symbol, oldest candle first. -/
structure MarketData where
  symbol : String
  candles : List Candle
deriving DecidableEq, Repr, Inhabited

namespace MarketData

def closes (d : MarketData) : List Decimal := d.candles.map Candle.close

def flat (symbol : String) (start : Instant) (closes : List Decimal) : MarketData :=
  ⟨symbol, closes.zipIdx.map fun (close, i) => .flat (start.addSeconds (60 * i)) close (.ofInt 1)⟩

def latest? (d : MarketData) : Option Candle := d.candles.getLast?

def toJson (d : MarketData) : Json :=
  .obj [("symbol", .str d.symbol), ("candles", .arr (d.candles.map Candle.toJson))]

def decoder : Decoder MarketData := .record <|
  MarketData.mk <$> .required "symbol" .string <*> .required "candles" (.list Candle.decoder)

end MarketData

inductive Side where
  | buy | sell | hold
deriving DecidableEq, Repr, Inhabited

namespace Side

def all : List (String × Side) := [("Buy", buy), ("Sell", sell), ("Hold", hold)]

def name : Side → String
  | buy => "Buy"
  | sell => "Sell"
  | hold => "Hold"

end Side

structure Signal where
  symbol : String
  side : Side
  quantity : Decimal
  confidence : Float
  reason : Option String
deriving Inhabited

namespace Signal

def toJson (s : Signal) : Json :=
  .obj [("symbol", .str s.symbol), ("side", .str s.side.name), ("quantity", s.quantity.toJson),
    ("confidence", .ofFloat s.confidence), ("reason", match s.reason with | some r => .str r | none => .null)]

def decoder : Decoder Signal := .record <|
  Signal.mk <$> .required "symbol" .string <*> .required "side" (.enum Side.all)
    <*> .required "quantity" Decimal.decoder <*> .required "confidence" .float
    <*> .withDefault "reason" none (Decoder.option .string)

end Signal

/-- What one invocation produces: signals, and the lines the strategy logged. -/
structure SignalSet where
  signals : List Signal
  logs : List String
deriving Inhabited

namespace SignalSet

def empty : SignalSet := ⟨[], []⟩

def toJson (s : SignalSet) : Json :=
  .obj [("signals", .arr (s.signals.map Signal.toJson)), ("logs", .arr (s.logs.map .str))]

def decoder : Decoder SignalSet := .record <|
  SignalSet.mk <$> .required "signals" (.list Signal.decoder) <*> .withDefault "logs" [] (.list .string)

end SignalSet

end StrategyHost
