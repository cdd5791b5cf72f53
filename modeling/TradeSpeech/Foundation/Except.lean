/-! Comparing answers that may have failed. -/

namespace TradeSpeech

instance decidableEqExcept {ε : Type u} {α : Type v} [DecidableEq ε] [DecidableEq α] :
    DecidableEq (Except ε α)
  | .ok left, .ok right =>
    if equal : left = right then isTrue (by rw [equal]) else isFalse (by simpa using equal)
  | .error left, .error right =>
    if equal : left = right then isTrue (by rw [equal]) else isFalse (by simpa using equal)
  | .ok _, .error _ => isFalse (by simp)
  | .error _, .ok _ => isFalse (by simp)

end TradeSpeech
