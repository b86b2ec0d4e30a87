import CommandShell.Builtin.Response
import CommandShell.Text.Case

/-!
Two demonstration plugins, the weather and the price of coins. What they say is fixed.
-/

namespace CommandShell.Demo

open Text (joinLines)

/-- A coin: how it is asked for, its name, its price and how that changed. -/
structure Coin where
  symbol : Text
  name : Text
  price : Text
  change : Text

def coins : List Coin := [
  ⟨"btc", "Bitcoin", "$43,250", "+2.4%"⟩,
  ⟨"eth", "Ethereum", "$2,680", "+1.8%"⟩,
  ⟨"ada", "Cardano", "$0.52", "-0.3%"⟩,
  ⟨"sol", "Solana", "$98.50", "+5.2%"⟩]

def weatherReport (location : Text) : Text :=
  joinLines [
    "Weather for " ++ location ++ ":",
    "Partly Cloudy",
    "Temperature: 24°C (feels like 26°C)",
    "Wind: 12 km/h NE",
    "Humidity: 65%"]

/-- The price of a coin. -/
def coinReport (symbol : Text) : Text :=
  match coins.find? fun c => c.symbol == symbol with
  | none => "Cryptocurrency '" ++ symbol ++ "' not found"
  | some c =>
    joinLines [
      c.name ++ " (" ++ Text.upper symbol ++ ")",
      "Price: " ++ c.price,
      "24h Change: " ++ c.change]

def respondWeather (i : Invocation) (s : Session) : Response :=
  .say s (weatherReport (i.args.headD "current location"))

/-- The symbol may be typed in either case. -/
def respondCrypto (i : Invocation) (s : Session) : Response :=
  .say s (coinReport ((i.args.head?.map Text.lower).getD "btc"))

def weatherPlugin : Plugin where
  commands := .given [.command
    { name := "weather", description := "Get weather information", body := .weather }]

def cryptoPlugin : Plugin where
  commands := .given [.command
    { name := "crypto", description := "Get cryptocurrency prices", body := .crypto }]
  aliases := .given [("btc", .text "crypto btc"), ("eth", .text "crypto eth")]

/-- The plugins that come with the shell. -/
def plugins : List (Text × Text × Plugin) := [
  ("weather", "1.0.0", weatherPlugin),
  ("crypto", "1.0.0", cryptoPlugin)]

end CommandShell.Demo
