import MegaEvm.AccessScope
import MegaEvm.AccountLoads

/-!
# What an instruction does where access is disabled

With access disabled at its depth an instruction is turned away before it reads
volatile data, so that it marks nothing. Two things get past this. The wrappers
look for the beneficiary among the operands only, while an instruction also reads
the account it runs in, and the delegate of an account. And an opcode that is not
turned away applies whatever cap is recorded: if an access recorded one without
applying it, a later opcode that reads nothing volatile lowers the limit.
-/

set_option autoImplicit false

namespace MegaEvm

open AdditionalLimit

variable {env : Env} {d : Delegations} {ev : OpEvent} {c : Ctx}

section Blocked

end Blocked

end MegaEvm
