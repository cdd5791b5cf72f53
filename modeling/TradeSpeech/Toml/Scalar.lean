import TradeSpeech.Toml.Number

/-! Values that are written without quotes and brackets: numbers, truth values,
dates and times. -/

namespace TradeSpeech.Toml

def scalar? (text : List Char) : Option Node :=
  if text = ['t', 'r', 'u', 'e'] then some (.truth true)
  else if text = ['f', 'a', 'l', 's', 'e'] then some (.truth false)
  else ((moment? text).map .moment).or (number? text)

end TradeSpeech.Toml
