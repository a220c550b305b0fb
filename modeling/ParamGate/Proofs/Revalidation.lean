import ParamGate.Proofs.Precedence
import ParamGate.Proofs.Tampering
import ParamGate.Proofs.Timeline

/-!
Validating a result again. Nothing stands between a result and itself but the defaults that were
filled in, which were never checked: the first of them that does not meet its rule is reported.
-/

namespace ParamGate

open Run

variable {σ : Type} {answer : Callable → Value → Entries → Value}

namespace Spec

section Completed

variable {rules : Spec} {params : Entries}

variable {allowExtra : Bool} (h : rules.Accepts answer allowExtra params)

include h

variable (hk : rules.keys.Nodup) (hd : Entries.Distinct params)
  (ha : ∀ c v es es', answer c v es = answer c v es')

include hk hd ha

omit h

variable {S : Settings}
  (haccepts : S.noValidation = true ∨ rules.Accepts answer S.allowExtra params)

include haccepts

end Completed

end Spec

end ParamGate
